import CodeReview.Comment
import CodeReview.Place

/-!
# CodeReview.Payload

The structured form of a review: the threads with what they say, and for every file
of the diff the places where threads are attached.

A thread and its place come apart: files refer to threads by id. There are two kinds
of references. Those at *markers* are the exact ones; those at *diff lines* serve
for the threads that no marker refers to.
-/

namespace CodeReview

open Text (LineNumber)

/-- A message of a thread. -/
structure Message where
  author : Option String
  body : Option String
  /-- The body as formatted by the page, which may hold a suggested change. -/
  formatted : Option String
  createdAt : Option String
deriving DecidableEq, Repr

/-- The author to show. -/
def Message.authorName (message : Message) : String := message.author.getD unknownAuthor

/-- A review thread. -/
structure Thread where
  /-- The key under which the payload holds the thread. -/
  key : String
  /-- The id that the thread itself states. -/
  ownId : Option ThreadId
  resolved : Bool
  messages : List Message
deriving DecidableEq, Repr

/-- The id of a thread: its own, else its key. -/
def Thread.id (thread : Thread) : ThreadId := thread.ownId.getD thread.key

/-- A reference to a thread at a diff marker. -/
structure MarkerReference where
  thread : ThreadId
  startLine : Option LineNumber
  endLine : Option LineNumber
  /-- The marker of the first line of a comment on several lines. -/
  startMarker : Option String
deriving DecidableEq, Repr

/-- A diff marker with the lines around it and the threads attached to it. -/
structure MarkerEntry where
  marker : String
  context : Option LineRange
  references : List MarkerReference
deriving DecidableEq, Repr

/-- A reference to a thread at a line of the diff. -/
structure LineReference where
  thread : ThreadId
  startLine : Option LineNumber
  line : Option LineNumber
  endLine : Option LineNumber
deriving DecidableEq, Repr

/-- A line of the diff with the threads attached to it. -/
structure DiffLine where
  newLine : Option LineNumber
  oldLine : Option LineNumber
  references : List LineReference
deriving DecidableEq, Repr

/-- Lines are counted from one: a zero stands for no line. -/
def positive (line : Option LineNumber) : Option LineNumber := line.filter (· ≠ 0)

@[simp] theorem positive_none : positive none = none := rfl

theorem positive_eq_some_iff {line : Option LineNumber} {n : LineNumber} :
    positive line = some n ↔ line = some n ∧ n ≠ 0 := by
  simp [positive, Option.filter_eq_some_iff]

/-- The number of a diff line: that of the new side, else that of the old side. -/
def DiffLine.number (line : DiffLine) : Option LineNumber :=
  (positive line.newLine).or (positive line.oldLine)

/-- A file of the diff with the threads attached to it. -/
structure FileDiff where
  path : String
  markers : List MarkerEntry
  lines : List DiffLine
deriving DecidableEq, Repr

/-- A review in structured form. -/
structure Payload where
  threads : List Thread
  files : List FileDiff
deriving DecidableEq, Repr

end CodeReview
