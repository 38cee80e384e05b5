import CodeReview.Place

/-!
# CodeReview.Warning

What the reading of a payload leaves out. A payload that has the right shape at the
top is read as far as possible, and each part that is left out raises one warning.
-/

namespace CodeReview

/-- The parts of a payload that are left out one by one. -/
inductive RecordKind
  | thread
  | marker
  | diffLine
deriving DecidableEq, Repr

/-- The name of a kind in a warning. -/
def RecordKind.name : RecordKind → String
  | thread => "thread"
  | marker => "marker"
  | diffLine => "diff line"

/-- A part of a payload that was left out. -/
inductive Warning
  /-- A record without the fields it needs, with its key or its place in the list. -/
  | malformed (kind : RecordKind) (key : String)
  /-- A file summary that is no object. -/
  | summaryNotObject
  /-- A file summary that names no file. -/
  | summaryWithoutPath
  /-- A thread at a marker that does not say on which line. -/
  | noLine (path marker : String) (thread : ThreadId)
deriving DecidableEq, Repr

/-- The text of a warning. -/
def Warning.message : Warning → String
  | malformed _ _ => "skipping malformed record"
  | summaryNotObject => "skipping diff summary that is not an object"
  | summaryWithoutPath => "skipping diff summary without a path"
  | noLine _ _ _ => "marker descriptor has no usable line information"

end CodeReview
