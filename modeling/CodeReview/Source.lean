import CodeReview.Payload.Collect
import CodeReview.Payload.Decode
import CodeReview.ReviewPage.Threads
import CodeReview.Settings

/-!
# CodeReview.Source

Where in a document the review is. A document whose first character that is no blank is
a brace is a payload. Any other is a page, which may have a payload in a script of its
own, and else threads in its markup.

Which of the two forms is read depends on the document alone, never on what can be
collected from it.
-/

namespace CodeReview

open Text

/-- The forms of a review. -/
inductive SourceKind
  | structured
  | markup
deriving DecidableEq, Repr

/-- A review as it was found. -/
inductive Source
  /-- As a payload. -/
  | structured (payload : Payload)
  /-- As the markup of a page. -/
  | markup (page : Html.Page Nat)

namespace Source

/-- The form of the review. -/
def kind : Source → SourceKind
  | structured _ => .structured
  | markup _ => .markup

/-- What is collected from the review. -/
def collect : Source → Collected
  | structured payload => payload.collect
  | markup page => ReviewPage.collect page

/-- The document looks like a payload. -/
def looksStructured (document : String) : Bool :=
  (trimStart document.toList).head? == some '\x7b'

/-- The review in the text of a payload. -/
def ofPayloadText (text : String) : Except Failure Source :=
  match Decode.text? text with
  | .ok decoded => .ok (.structured decoded.payload)
  | .error cause => .error (.payload cause)

/-- The review in the markup of a page; without threads the page fails for the given
reason. -/
def ofMarkup (page : Html.Page Nat) (otherwise : PageFailure) : Except Failure Source :=
  if ReviewPage.hasThreads page then .ok (.markup page) else .error (.page otherwise)

/-- The review in a page. -/
def ofPage (page : Html.Page Nat) : SourceMode → Except Failure Source
  | .markup => ofMarkup page .noThreads
  | .structured =>
    match ReviewPage.payloadText? page with
    | some text => ofPayloadText text
    | none => .error (.page .noPayload)
  | .auto =>
    match ReviewPage.payloadText? page with
    | some text => ofPayloadText text
    | none => ofMarkup page .noReview

/-- The review in a document. -/
def ofDocument (document : String) (mode : SourceMode) : Except Failure Source :=
  if looksStructured document && mode != .markup then ofPayloadText document
  else ofPage (Html.Page.ofText document) mode

end Source

end CodeReview
