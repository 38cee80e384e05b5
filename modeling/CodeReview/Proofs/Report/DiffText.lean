import CodeReview.Proofs.Text.Pieces
import CodeReview.Suggestion
import Mathlib.Algebra.BigOperators.Group.List.Basic
import Mathlib.Algebra.GroupWithZero.Nat

/-!
# CodeReview.Proofs.Report.DiffText

The text of a suggested change, line by line. Every line that is taken out or put in stands
behind its sign, but only its start does: a newline in the text of a cell starts a line without a
sign. So the lines of the text are the signed lines of the change exactly if no cell has a newline
between the ends of its text, and then the change can be read back.
-/

namespace CodeReview

open Text

/-! ### Changes -/

namespace CodeChange

variable (change : CodeChange)

/-- Cut at its newlines, the text of the change is the lines of the change behind their signs. -/
def IsSigned : Prop :=
  pieces '\n' change.diffText.toList = change.signedLines.map String.toList

instance : Decidable change.IsSigned := inferInstanceAs (Decidable (_ = _))

/-- The change that a text tells by the signs of its lines. -/
def ofDiffText (text : String) : CodeChange :=
  let behind (sign : String) : List String :=
    ((pieces '\n' text.toList).filterMap (after? sign.toList)).map String.ofList
  ⟨behind "- ", behind "+ "⟩

variable {change}

theorem pieces_diffText (hne : change.lines ≠ []) :
    pieces '\n' change.diffText.toList = change.signedLines.flatMap (pieces '\n' ·.toList) := by
  have hparts : change.signedLines.map String.toList ≠ [] := by
    simpa [signedLines, lines] using hne
  rw [toList_diffText, pieces_intercalate hparts, List.flatMap_map]

/-- Each newline in a line of the change makes one line more. -/
theorem length_pieces_diffText (hne : change.lines ≠ []) :
    (pieces '\n' change.diffText.toList).length =
      change.lines.length + (change.lines.map (·.toList.count '\n')).sum := by
  rw [pieces_diffText hne, List.length_flatMap]
  simp [length_pieces, signedLines, lines, Function.comp_def, List.sum_map_add]
  omega

theorem isSigned_iff (hne : change.lines ≠ []) :
    change.IsSigned ↔ ∀ line ∈ change.lines, '\n' ∉ line.toList := by
  constructor
  · intro hsigned line hline
    have hlength := length_pieces_diffText hne
    rw [hsigned] at hlength
    have hsum : (change.lines.map (·.toList.count '\n')).sum = 0 := by
      simp [signedLines, lines] at hlength ⊢
      omega
    rw [List.sum_eq_zero_iff_forall_eq_nat] at hsum
    exact List.count_eq_zero.mp (hsum _ (List.mem_map_of_mem hline))
  · intro hnone
    rw [IsSigned, pieces_diffText hne]
    refine flatMap_pieces_of_notMem ?_
    simp only [lines, List.mem_append] at hnone
    intro text htext
    rcases List.mem_append.mp htext with hremoved | hadded
    · obtain ⟨line, hline, rfl⟩ := List.mem_map.mp hremoved
      simpa using hnone line (.inl hline)
    · obtain ⟨line, hline, rfl⟩ := List.mem_map.mp hadded
      simpa using hnone line (.inr hline)

/-- Among lines behind their signs, those behind one sign are found. -/
theorem ofDiffText_diffText (h : change.IsSigned) : ofDiffText change.diffText = change := by
  have hremoved : (change.signedLines.map String.toList).filterMap (after? "- ".toList) =
      change.removed.map String.toList := by
    simp [signedLines, List.filterMap_map, Function.comp_def, after?]
  have hadded : (change.signedLines.map String.toList).filterMap (after? "+ ".toList) =
      change.added.map String.toList := by
    simp [signedLines, List.filterMap_map, Function.comp_def, after?]
  rw [IsSigned] at h
  simp only [ofDiffText]
  rw [h, hremoved, hadded]
  simp

end CodeChange

/-! ### Cells -/

namespace Suggestion

/-- The cells of a piece of a page that hold code to take out or to put in. -/
def codeCells {ι : Type} (page : Html.Page ι) : List ι :=
  page.elements.filter fun element =>
    page.hasClass element removedClass || page.hasClass element addedClass

/-- The lines of a change are the texts of the cells. -/
theorem forall_lines_iff {ι : Type} {page : Html.Page ι} {change : CodeChange}
    (h : changeOfPiece page = some change) (p : String → Prop) :
    (∀ line ∈ change.lines, p line) ↔ ∀ cell ∈ codeCells page, p (page.trimmedText cell) := by
  obtain ⟨rfl, -⟩ := CodeChange.of?_eq_some_iff.mp h
  simp only [CodeChange.lines, codeCells, List.mem_append, List.mem_map, List.mem_filter,
    Bool.or_eq_true]
  constructor
  · rintro hlines cell ⟨hcell, hremoved | hadded⟩
    · exact hlines _ (.inl ⟨cell, ⟨hcell, hremoved⟩, rfl⟩)
    · exact hlines _ (.inr ⟨cell, ⟨hcell, hadded⟩, rfl⟩)
  · rintro hcells line (⟨cell, ⟨hcell, hremoved⟩, rfl⟩ | ⟨cell, ⟨hcell, hadded⟩, rfl⟩)
    · exact hcells cell ⟨hcell, .inl hremoved⟩
    · exact hcells cell ⟨hcell, .inr hadded⟩

theorem lines_ne_nil {ι : Type} {page : Html.Page ι} {change : CodeChange}
    (h : changeOfPiece page = some change) : change.lines ≠ [] := by
  obtain ⟨rfl, hne⟩ := CodeChange.of?_eq_some_iff.mp h
  rcases hne with hremoved | hadded
  · simp [CodeChange.lines, hremoved]
  · simp [CodeChange.lines, hadded]

theorem changeOfPiece_of_change? {body : String} {change : CodeChange}
    (h : change? body = some change) : changeOfPiece (.ofPiece body) = some change := by
  unfold change? at h
  split at h
  · exact h
  · cases h

/-- **Which changes are signed line by line.** The text of the change that a body suggests has a
line for each cell and one more for each newline between the ends of the text of a cell. So its
lines are the texts of the cells behind their signs, first those to take out and then those to
put in, exactly if the text of no cell has a newline. Then the change can be read back from it. -/
theorem diffText_isSigned_iff {body : String} {change : CodeChange}
    (h : change? body = some change) :
    (pieces '\n' change.diffText.toList).length =
        change.removed.length + change.added.length +
          ((change.removed ++ change.added).map (·.toList.count '\n')).sum ∧
      (change.IsSigned ↔ ∀ cell ∈ codeCells (.ofPiece body),
        '\n' ∉ ((Html.Page.ofPiece body).trimmedText cell).toList) ∧
      (change.IsSigned → CodeChange.ofDiffText change.diffText = change) := by
  have hpiece := changeOfPiece_of_change? h
  have hne := lines_ne_nil hpiece
  refine ⟨?_, ?_, CodeChange.ofDiffText_diffText⟩
  · rw [CodeChange.length_pieces_diffText hne, CodeChange.lines, List.length_append]
  · rw [CodeChange.isSigned_iff hne]
    exact forall_lines_iff hpiece fun line => '\n' ∉ line.toList

/-- A body that suggests to replace a line. -/
def replacingBody : String :=
  "<p class=js-suggested-changes-blob><i class=blob-code-deletion> old()\n</i>" ++
    "<i class=blob-code-addition>new()</i>"

/-- A body that suggests to take out a cell of two lines, the second of which starts with a sign. -/
def twoLineBody : String :=
  "<p class=js-suggested-changes-blob><i class=blob-code-deletion>old()\n+ new()</i>"

/-- A newline at the end of a cell does not count. -/
theorem diffText_isSigned_iff_replacingBody :
    change? replacingBody = some ⟨["old()"], ["new()"]⟩ ∧
      (∀ cell ∈ codeCells (.ofPiece replacingBody),
        '\n' ∉ ((Html.Page.ofPiece replacingBody).trimmedText cell).toList) ∧
      CodeChange.ofDiffText "- old()\n+ new()" = ⟨["old()"], ["new()"]⟩ := by
  have hchange : change? replacingBody = some ⟨["old()"], ["new()"]⟩ := by decide +kernel
  have hsigned : (⟨["old()"], ["new()"]⟩ : CodeChange).IsSigned := by decide
  obtain ⟨-, hiff, hback⟩ := diffText_isSigned_iff hchange
  exact ⟨hchange, hiff.mp hsigned, hback hsigned⟩

/-- A cell of two lines makes a line without its sign, and here the text of another change. -/
theorem not_isSigned_twoLineBody :
    change? twoLineBody = some ⟨["old()\n+ new()"], []⟩ ∧
      ¬ (⟨["old()\n+ new()"], []⟩ : CodeChange).IsSigned ∧
      (⟨["old()\n+ new()"], []⟩ : CodeChange).diffText =
        (⟨["old()"], ["new()"]⟩ : CodeChange).diffText := by
  refine ⟨?_, ?_, ?_⟩
  · decide +kernel
  · decide
  · decide

end Suggestion

end CodeReview
