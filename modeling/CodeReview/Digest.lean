import CodeReview.Report.Render
import CodeReview.Source

/-!
# CodeReview.Digest

The whole way from a document to a report. It fails only for documents that are no review
at all; a review from which nothing is collected makes an empty report.
-/

namespace CodeReview

/-- The report on a review, with the account of its threads. -/
structure Digest where
  kind : SourceKind
  report : Report
  tally : Tally
deriving DecidableEq, Repr

namespace Digest

/-- The report on a review that was found. -/
def ofSource (source : Source) : Digest :=
  let collected := source.collect
  ⟨source.kind, .ofCollection collected.comments, collected.tally⟩

/-- The report on a review in structured form. -/
def ofPayload (payload : Payload) : Digest := ofSource (.structured payload)

/-- The report on the review in a document. -/
def ofDocument (document : String) (mode : SourceMode) : Except Failure Digest :=
  (Source.ofDocument document mode).map ofSource

/-- The text of the report. -/
def render (digest : Digest) (settings : Settings) : String :=
  digest.report.render settings.style

end Digest

end CodeReview
