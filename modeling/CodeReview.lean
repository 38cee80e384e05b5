import CodeReview.Html.Tree
import CodeReview.Main
import CodeReview.Marker
import CodeReview.Proofs.Places.FirstWriter
import CodeReview.Proofs.Places.Precedence
import CodeReview.Proofs.Places.Inversion
import CodeReview.Proofs.Collection.Grouping
import CodeReview.Proofs.Report.Order
import CodeReview.Proofs.Digest.Conservation
import CodeReview.Proofs.Html.Layout
import CodeReview.Proofs.Text.Numeral
import CodeReview.Proofs.ReviewPage.Items
import CodeReview.Proofs.ReviewPage.Reading
import CodeReview.Proofs.Report.Markers
import CodeReview.Proofs.Digest.Agreement
import CodeReview.Proofs.Html.Mirror
import CodeReview.Proofs.ReviewPage.Mirror
import CodeReview.Proofs.Html.Storage
import CodeReview.Proofs.Html.Laying
import CodeReview.Proofs.ReviewPage.Pages
import CodeReview.Proofs.Places.Signals
import CodeReview.Proofs.Html.Refilling
import CodeReview.Proofs.ReviewPage.Seclusion
import CodeReview.Proofs.Collection.Account
import CodeReview.Proofs.Digest.Balance
import CodeReview.Proofs.Json.Difference
import CodeReview.Proofs.Places.Locality
import CodeReview.Proofs.Report.Groups
import CodeReview.Proofs.Payload.Damage
import CodeReview.Proofs.Digest.Containment
import CodeReview.Proofs.Digest.Padding
import CodeReview.Proofs.CommandLine.Flags
import CodeReview.Proofs.CommandLine.Folder
import CodeReview.Proofs.CommandLine.Delivery
import CodeReview.Proofs.Digest.WellFormed
import CodeReview.Proofs.Payload.Flaws
import CodeReview.Proofs.Html.Script
import CodeReview.Proofs.Json.Accepted
import CodeReview.Proofs.Digest.Embedding
import CodeReview.Proofs.Report.Canonical
import CodeReview.Proofs.Digest.FileOrder
import CodeReview.Proofs.Digest.Wrapping
import CodeReview.Proofs.Payload.Alike
import CodeReview.Proofs.Json.Literal
import CodeReview.Proofs.Digest.Spelling
import CodeReview.Proofs.Report.Fences
import CodeReview.Proofs.Report.NormalForm
import CodeReview.Proofs.Report.Headings
import CodeReview.Proofs.Report.DiffText
import CodeReview.Proofs.Suggestion.Annotations
import CodeReview.Proofs.ReviewPage.Phrases
import CodeReview.Proofs.Html.Growing
import CodeReview.Proofs.Html.Tags
import CodeReview.Proofs.Suggestion.Rows
import CodeReview.Proofs.Suggestion.Table
import CodeReview.Proofs.Suggestion.RoundTrip
import CodeReview.Proofs.Places.Batches
import CodeReview.Proofs.Collection.Representation
import CodeReview.Proofs.Places.DiffLines
import CodeReview.Proofs.Report.Labels
import CodeReview.Proofs.Places.MarkerGrammar
