import CodeReview.Text.Numeral

/-!
# CodeReview.Marker

Diff markers: tokens that name a line of one side of a diff. `R25` is line 25 of
the new side, `L25` line 25 of the old side.
-/

namespace CodeReview.Marker

open Text (LineNumber lineNumber? lineText)

/-- The line that a marker names: a side letter followed by digits, and nothing
else. -/
def line? (marker : String) : Option LineNumber :=
  match marker.toList with
  | side :: digits => if side = 'R' ∨ side = 'L' then lineNumber? digits else none
  | [] => none

/-- The marker of a line of the old side, for a place that no marker names. -/
def ofLine (line : LineNumber) : String := "L" ++ lineText line

end CodeReview.Marker
