import CodeReview.Proofs.Text.Numeral
import CodeReview.Report.Render

/-!
# CodeReview.Proofs.Report.Labels

What the heading of a section tells. The label of an anchor tells the anchor, since the digits of
a line number tell the number and none of them is a dash. A label has no colon, so the last colon
of a heading is the one behind the path, even if the path itself ends like a label or has
newlines. So a heading tells both the path and the anchor.
-/

namespace CodeReview

open Text

/-- A list is cut in one way at the last place of an element. -/
theorem append_cons_inj_of_notMem_right {α : Type} {c : α} {first second other another : List α}
    (hsecond : c ∉ second) (hanother : c ∉ another) :
    first ++ c :: second = other ++ c :: another ↔ first = other ∧ second = another := by
  refine ⟨fun h => ?_, fun ⟨hfirst, hrest⟩ => by rw [hfirst, hrest]⟩
  induction first generalizing other with
  | nil =>
    cases other with
    | nil => exact ⟨rfl, (List.cons.inj h).2⟩
    | cons d other =>
      -- Then the element comes up once more behind the first place.
      have hlater : second = other ++ c :: another := (List.cons.inj h).2
      exact absurd (by rw [hlater]; simp) hsecond
  | cons d first ih =>
    cases other with
    | nil =>
      have hlater : first ++ c :: second = another := (List.cons.inj h).2
      exact absurd (by rw [← hlater]; simp) hanother
    | cons e other =>
      obtain ⟨rfl, hrest⟩ := List.cons.inj h
      obtain ⟨rfl, rfl⟩ := ih hrest
      exact ⟨rfl, rfl⟩

namespace Anchor

/-! ### Labels -/

/-- A label has letters, digits, blanks and dashes only. -/
theorem notMem_label {c : Char} (hdigit : c.isDigit = false) (hc : c ∉ "lines -".toList)
    (anchor : Anchor) : c ∉ anchor.label.toList := by
  have hnumber := notMem_lineText hdigit
  simp only [String.reduceToList, List.mem_cons, not_or] at hc
  cases anchor with
  | line number => simp [label, hnumber, hc]
  | lines range => simp [label, hnumber, hc]

/-- The fifth letter of a label tells a line from a range. -/
theorem label_line_ne_label_lines (number : LineNumber) (range : LineRange) :
    (line number).label ≠ (lines range).label := by
  intro h
  have hlist := congrArg String.toList h
  simp [label] at hlist

theorem label_lines_inj {range other : LineRange} :
    (lines range).label = (lines other).label ↔ range = other := by
  refine ⟨fun h => ?_, fun h => h ▸ rfl⟩
  have hlist (range : LineRange) : (lines range).label.toList =
      ("lines ".toList ++ (lineText range.first).toList) ++
        '-' :: (lineText range.last).toList := by
    simp [label]
  have hdash (n : LineNumber) : '-' ∉ (lineText n).toList := notMem_lineText (by decide) n
  rw [← String.toList_inj, hlist, hlist, append_cons_inj_of_notMem_right (hdash _) (hdash _),
    List.append_cancel_left_eq, String.toList_inj, String.toList_inj, lineText_inj,
    lineText_inj] at h
  cases range
  cases other
  rw [LineRange.mk.injEq]
  exact h

/-- Anchors with the same label are the same. -/
theorem label_inj {anchor other : Anchor} : anchor.label = other.label ↔ anchor = other := by
  cases anchor with
  | line number =>
    cases other with
    | line another => simp [label, lineText_inj]
    | lines range => simp [label_line_ne_label_lines]
  | lines range =>
    cases other with
    | line another => simp [(label_line_ne_label_lines _ _).symm]
    | lines other => simp [label_lines_inj]

end Anchor

/-! ### Headings -/

/-- **Headings identify what they stand for.** Two headings are the same only if they name the
same path and the same lines. -/
theorem Report.heading_eq_heading_iff {path other : String} {anchor another : Anchor} :
    heading path anchor = heading other another ↔ path = other ∧ anchor = another := by
  have hcolon := Anchor.notMem_label (c := ':') (by decide) (by decide)
  have hlist (path : String) (anchor : Anchor) : (heading path anchor).toList =
      ("## ".toList ++ path.toList) ++ ':' :: ' ' :: anchor.label.toList := by
    simp [heading]
  have hcut (anchor : Anchor) : ':' ∉ ' ' :: anchor.label.toList := by
    simp [hcolon]
  rw [← String.toList_inj, hlist, hlist, append_cons_inj_of_notMem_right (hcut _) (hcut _),
    List.append_cancel_left_eq, String.toList_inj, List.cons.injEq, String.toList_inj,
    Anchor.label_inj]
  simp

end CodeReview
