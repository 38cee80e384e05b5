import CodeReview.Json.Reader

/-!
# CodeReview.Failure

Why a document yields no report. Only the outermost shape of a document can be at
fault: threads that are resolved, say nothing or belong nowhere are left out and
never fail the document.
-/

namespace CodeReview

/-- Why a structured review cannot be read. -/
inductive PayloadFailure
  /-- The text is no JSON. -/
  | json (fault : Json.Fault)
  /-- There is no payload. -/
  | missingPayload
  /-- A field of the payload is absent. -/
  | missingField (name : String)
  /-- A field holds a value of another type than the one it must have. -/
  | invalidField (name expected : String)
deriving DecidableEq, Repr

/-- Why a page cannot be read. -/
inductive PageFailure
  /-- The page has neither a payload nor threads. -/
  | noReview
  /-- A payload was asked for, and the page has none. -/
  | noPayload
  /-- Threads were asked for, and the page has none. -/
  | noThreads
deriving DecidableEq, Repr

/-- Why there is no report. -/
inductive Failure
  | payload (cause : PayloadFailure)
  | page (cause : PageFailure)
  /-- A word that names no source mode; blanks and case are already taken off. -/
  | unknownMode (word : String)
deriving DecidableEq, Repr

/-- The text of a fault of JSON. -/
def Json.Fault.message : Json.Fault → String
  | malformed => "malformed JSON"
  | unfinished => "unexpected end of JSON"

/-- The text of a failure to read a payload. -/
def PayloadFailure.message : PayloadFailure → String
  | json fault => "failed to parse review data: " ++ fault.message
  | missingPayload => "invalid review data structure: missing payload"
  | missingField name => "invalid review data structure: missing `" ++ name ++ "`"
  | invalidField name expected =>
    "invalid review data structure: `" ++ name ++ "` must be " ++ expected

/-- The text of a failure to read a page. -/
def PageFailure.message : PageFailure → String
  | noReview =>
    "could not find review data; make sure the page is the Files Changed tab of a pull request"
  | noPayload => "page has no embedded review payload"
  | noThreads => "page has no review thread elements"

namespace Failure

/-- The text of a failure. -/
def message : Failure → String
  | payload cause => cause.message
  | page cause => cause.message
  | unknownMode word =>
    "invalid source mode `" ++ word ++ "` (expected auto, structured or markup)"

/-- The document is at fault, not the way in which the program was called. -/
def isMalformedInput : Failure → Bool
  | payload _ | page _ => true
  | unknownMode _ => false

end Failure

end CodeReview
