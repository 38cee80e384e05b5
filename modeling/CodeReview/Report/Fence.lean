import CodeReview.Text.Blank
import CodeReview.Text.Lines
import CodeReview.Text.Search

/-!
# CodeReview.Report.Fence

Inline suggestions in the body of a comment. A suggestion is written as a fence: a
line that reads ```` ```suggestion ````, the replacement, and a line that reads
```` ``` ````, each up to blanks. The report replaces every closed fence by a short
instruction and leaves all else as it was written.

Design points:

* The lines of a body are read from the first to the last. From an opening line one looks
  ahead for the next line that closes, and goes on behind it.
* A fence that nothing closes is no suggestion: its lines are kept.
* A body that does not hold the opening text is not cut into lines at all.
-/

namespace CodeReview.Report

open Text

/-- The text that opens a fence. -/
def openingText : String := "```suggestion"

/-- A line that opens a fence. -/
def isOpening (line : List Char) : Bool := trim line == openingText.toList

/-- A line that closes a fence. -/
def isClosing (line : List Char) : Bool := trim line == "```".toList

/-- The replacement that a fence asks for: its lines that are not blank, trimmed, in
one line. -/
def replacement (inner : List (List Char)) : List Char :=
  [' '].intercalate ((inner.map trim).filter (· ≠ []))

/-- The instruction that stands for a fence. -/
def instruction (inner : List (List Char)) : List Char :=
  if replacement inner = [] then "Delete this".toList
  else "Rewrite to `".toList ++ replacement inner ++ ['`']

/-- What the report shows for the lines of a body. An instruction ends as the closing line
did. -/
def rewriteLines : List (List Char) → List Char
  | [] => []
  | line :: lines =>
    if isOpening line then
      match lines.findIdx? isClosing with
      | some close =>
        instruction (lines.take close) ++ terminator (lines.getD close []) ++
          rewriteLines (lines.drop (close + 1))
      | none => line ++ lines.flatten
    else
      line ++ rewriteLines lines
termination_by lines => lines.length
decreasing_by
  · simp only [List.length_drop, List.length_cons]
    omega
  · simp

/-- The body with every closed fence turned into an instruction. -/
def rewriteFences (body : String) : String :=
  if holds body openingText then String.ofList (rewriteLines (lines body.toList)) else body

end CodeReview.Report
