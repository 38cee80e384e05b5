import CodeReview.Text.Numeral

/-!
# CodeReview.Anchor

Where in a file a comment is attached: one line, or a range of lines.

Design points:

* A range is kept as it was given, also when it ends before it starts.
* `Anchor.of` is the only place that decides between a line and a range: a range
  whose ends are equal reads as the line.
-/

namespace CodeReview

open Text (LineNumber lineText)

/-- A closed range of lines. Nothing forces `first ≤ last`. -/
structure LineRange where
  first : LineNumber
  last : LineNumber
deriving DecidableEq, Repr, Inhabited

namespace LineRange

/-- The range that holds one line. -/
def single (line : LineNumber) : LineRange := ⟨line, line⟩

/-- The range holds one line. -/
def isSingle (range : LineRange) : Bool := range.first == range.last

@[simp] theorem isSingle_single (line : LineNumber) : (single line).isSingle = true := by
  simp [single, isSingle]

end LineRange

/-- The place in a file that a comment speaks of. -/
inductive Anchor
  /-- One line. -/
  | line (number : LineNumber)
  /-- A range of lines. -/
  | lines (range : LineRange)
deriving DecidableEq, Repr

namespace Anchor

/-- A confirmed line wins; without one, the range decides, and a range of one line
is that line. -/
def of (confirmed : Option LineNumber) (range : LineRange) : Anchor :=
  match confirmed with
  | some number => .line number
  | none => if range.isSingle then .line range.first else .lines range

@[simp] theorem of_some (number : LineNumber) (range : LineRange) :
    of (some number) range = .line number := rfl

@[simp] theorem of_none_single (number : LineNumber) :
    of none (.single number) = .line number := by
  simp [of, LineRange.single, LineRange.isSingle]

/-- The line that places a comment among the others of its file. -/
def first : Anchor → LineNumber
  | line number => number
  | lines range => range.first

/-- How a heading names the anchor. -/
def label : Anchor → String
  | line number => "line " ++ lineText number
  | lines range => "lines " ++ lineText range.first ++ "-" ++ lineText range.last

end Anchor

end CodeReview
