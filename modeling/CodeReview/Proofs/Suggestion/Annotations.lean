import CodeReview.Proofs.Text.Numeral
import CodeReview.Proofs.Text.Runs
import CodeReview.Suggestion
import Mathlib.Order.Bounds.Basic

/-!
# CodeReview.Proofs.Suggestion.Annotations

The lines that a suggested change is for. The annotations of a text are found from left to right,
and the characters of one that was found are passed over. Nothing is missed that way: an
annotation starts with a letter that it has in no other place, so no annotation starts inside
another. Hence the range of a change is the hull of all annotations, wherever they stand
(`Suggestion.range?_hull`).
-/

namespace CodeReview

open Text

/-! ### Occurrences -/

/-- What starts with an element that a list lacks does not start in that list. -/
theorem isInfix_append_iff_of_notMem {α : Type} {a : α} {word first second : List α}
    (h : a ∉ first) : a :: word <:+: first ++ second ↔ a :: word <:+: second := by
  induction first with
  | nil => rfl
  | cons b first ih =>
    simp only [List.mem_cons, not_or] at h
    rw [List.cons_append, List.infix_cons_iff, ih h.2, or_iff_right]
    intro hstart
    exact h.1 (List.cons_prefix_cons.mp hstart).1

namespace Suggestion

/-- The annotation with the given digits. -/
def annotationOf (digits : List Char) : List Char := annotationStart ++ digits ++ ['"']

/-- Somewhere in the text stands an annotation that gives the line: with ASCII digits, at least
one, whose value is the line. -/
def Annotates (text : List Char) (line : LineNumber) : Prop :=
  ∃ digits, annotationOf digits <:+: text ∧ digits ≠ [] ∧ (∀ d ∈ digits, d.isDigit = true) ∧
    digitsValue digits = line.toNat

theorem annotates_iff {text : List Char} {line : LineNumber} :
    Annotates text line ↔
      ∃ digits, annotationOf digits <:+: text ∧ lineNumber? digits = some line := by
  simp only [Annotates, lineNumber?_eq_some_iff]

/-- The digits of a line are digits that an annotation may have. -/
theorem isRun_of_lineNumber? {digits : List Char} {line : LineNumber}
    (h : lineNumber? digits = some line) : IsRun isDecimalDigit digits := by
  obtain ⟨hne, hall, -⟩ := lineNumber?_eq_some_iff.mp h
  have hrun : IsRun Char.isDigit digits := ⟨hne, hall⟩
  exact hrun.mono isDecimalDigit_of_isDigit

/-! ### One annotation -/

variable {digits : List Char}

/-- The characters of an annotation behind its first letter. -/
def annotationRest (digits : List Char) : List Char :=
  annotationStart.tail ++ digits ++ ['"']

theorem annotationOf_eq_cons (digits : List Char) :
    annotationOf digits = 'd' :: annotationRest digits := by
  have hstart : annotationStart = 'd' :: annotationStart.tail := by decide
  rw [annotationOf, hstart, List.cons_append, List.cons_append]
  rfl

/-- An annotation has its first letter in no other place. -/
theorem notMem_annotationRest (h : IsRun isDecimalDigit digits) : 'd' ∉ annotationRest digits := by
  simp only [annotationRest, List.mem_append, not_or]
  refine ⟨⟨by decide, ?_⟩, by decide⟩
  intro hmem
  exact absurd (h.all 'd' hmem) (by decide)

theorem annotation?_annotationOf (h : IsRun isDecimalDigit digits) (rest : List Char) :
    annotation? (annotationOf digits ++ rest) = some digits := by
  have hafter : after? annotationStart (annotationOf digits ++ rest) =
      some (digits ++ '"' :: rest) := by
    rw [after?_eq_some_iff]
    simp [annotationOf]
  have hquote : ∀ c ∈ ('"' :: rest).head?, isDecimalDigit c = false := by
    rintro c ⟨⟩
    decide
  have htake := takeWhile_append_of_head? h.all hquote
  have hdrop := dropWhile_append_of_head? h.all hquote
  rw [annotation?, hafter]
  simp only [Option.bind_some, htake, hdrop]
  simp [h.ne_nil]

/-- Where an annotation is found, it stands. -/
theorem eq_annotationOf_of_annotation? {text : List Char} (h : annotation? text = some digits) :
    IsRun isDecimalDigit digits ∧ ∃ rest, text = annotationOf digits ++ rest := by
  obtain ⟨behind, hafter, hdigits⟩ := Option.bind_eq_some_iff.mp h
  have htext := after?_eq_some_iff.mp hafter
  dsimp only at hdigits
  split at hdigits
  · next rest hrest =>
    split at hdigits
    · cases hdigits
    · next hne =>
      obtain rfl := Option.some.inj hdigits
      rw [List.isEmpty_iff] at hne
      refine ⟨⟨hne, fun d hd => List.mem_takeWhile_imp hd⟩, rest, ?_⟩
      rw [htext, annotationOf, List.append_assoc, List.append_assoc, List.singleton_append, ← hrest,
        List.takeWhile_append_dropWhile]
  · cases hdigits

theorem annotation?_eq_some_iff {text : List Char} :
    annotation? text = some digits ↔
      IsRun isDecimalDigit digits ∧ annotationOf digits <+: text := by
  constructor
  · intro h
    obtain ⟨hdigits, rest, rfl⟩ := eq_annotationOf_of_annotation? h
    exact ⟨hdigits, List.prefix_append _ _⟩
  · rintro ⟨hdigits, rest, rfl⟩
    exact annotation?_annotationOf hdigits rest

/-! ### All annotations -/

/-- The characters that are to be passed over do not matter. -/
theorem annotationsFrom_length (passed text : List Char) :
    annotationsFrom passed.length (passed ++ text) = annotationsFrom 0 text := by
  induction passed with
  | nil => rfl
  | cons c passed ih => simpa [annotationsFrom] using ih

/-- Behind an annotation the search goes on. -/
theorem annotationsFrom_annotationOf (h : IsRun isDecimalDigit digits) (rest : List Char) :
    annotationsFrom 0 (annotationOf digits ++ rest) = digits :: annotationsFrom 0 rest := by
  have hfound := annotation?_annotationOf h rest
  have hlength : annotationStart.length + digits.length = (annotationRest digits).length := by
    have hstart : annotationStart.length = annotationStart.tail.length + 1 := by decide
    simp only [annotationRest, List.length_append, List.length_singleton, hstart]
    omega
  rw [annotationOf_eq_cons, List.cons_append] at hfound ⊢
  rw [annotationsFrom, hfound]
  dsimp only
  rw [hlength, annotationsFrom_length]

/-- **No annotation is missed.** The digits that are found are those of all annotations, wherever
they stand. The induction is on the length of the text, since the search goes on behind what it
has found. -/
theorem mem_annotationsFrom_iff (text : List Char) :
    digits ∈ annotationsFrom 0 text ↔
      IsRun isDecimalDigit digits ∧ annotationOf digits <:+: text := by
  cases text with
  | nil => simp [annotationsFrom, annotationOf]
  | cons c text =>
    cases hfound : annotation? (c :: text) with
    | none =>
      have hnot : ¬ (IsRun isDecimalDigit digits ∧ annotationOf digits <+: c :: text) := by
        rw [← annotation?_eq_some_iff, hfound]
        exact Option.some_ne_none _ ∘ Eq.symm
      rw [annotationsFrom, hfound]
      dsimp only
      rw [mem_annotationsFrom_iff text, List.infix_cons_iff]
      tauto
    | some found =>
      obtain ⟨hfounds, rest, htext⟩ := eq_annotationOf_of_annotation? hfound
      have hshorter : rest.length < (c :: text).length := by
        rw [htext, annotationOf_eq_cons, List.length_append, List.length_cons]
        omega
      rw [htext, annotationsFrom_annotationOf hfounds, List.mem_cons,
        mem_annotationsFrom_iff rest]
      -- An annotation in the text is the one that was found, or starts behind it.
      have hhere : IsRun isDecimalDigit digits ∧
          annotationOf digits <+: annotationOf found ++ rest ↔ digits = found := by
        rw [← annotation?_eq_some_iff, annotation?_annotationOf hfounds, Option.some_inj,
          eq_comm]
      have hbehind : annotationOf digits <:+: annotationRest found ++ rest ↔
          annotationOf digits <:+: rest :=
        isInfix_append_iff_of_notMem (notMem_annotationRest hfounds)
      rw [annotationOf_eq_cons found, List.cons_append] at hhere ⊢
      rw [List.infix_cons_iff, hbehind, and_or_left, hhere]
termination_by text.length
decreasing_by
  · exact Nat.lt_succ_self _
  · exact hshorter

theorem mem_annotatedLines_iff {text : List Char} {line : LineNumber} :
    line ∈ annotatedLines text ↔ Annotates text line := by
  rw [annotatedLines, List.mem_filterMap, annotates_iff]
  simp only [mem_annotationsFrom_iff]
  constructor
  · rintro ⟨digits, ⟨-, hoccurs⟩, hline⟩
    exact ⟨digits, hoccurs, hline⟩
  · rintro ⟨digits, hoccurs, hline⟩
    exact ⟨digits, ⟨isRun_of_lineNumber? hline, hoccurs⟩, hline⟩

/-! ### Texts in parts -/

section Parts

variable {c : Char} (hstart : c ∉ annotationStart) (hdigit : isDecimalDigit c = false)
include hstart hdigit

theorem notMem_annotationOf (h : IsRun isDecimalDigit digits) : c ∉ annotationOf digits := by
  simp only [annotationOf, List.mem_append, List.mem_singleton, not_or]
  refine ⟨⟨hstart, ?_⟩, ?_⟩
  · intro hmem
    rw [h.all c hmem] at hdigit
    cases hdigit
  · rintro rfl
    exact hstart (by decide)

/-- An annotation ends before a character that no annotation has. -/
theorem annotation?_append_cons (first second : List Char) :
    annotation? (first ++ c :: second) = annotation? first := by
  refine Option.ext fun digits => ?_
  rw [annotation?_eq_some_iff, annotation?_eq_some_iff]
  refine and_congr_right fun hdigits => ⟨fun hprefix => ?_, fun hprefix => ?_⟩
  · obtain h | ⟨more, hmore⟩ :=
      List.prefix_or_prefix_of_prefix hprefix (List.prefix_append first _)
    · exact h
    · rw [← hmore, List.prefix_append_right_inj] at hprefix
      cases more with
      | nil =>
        rw [List.append_nil] at hmore
        subst hmore
        exact List.prefix_rfl
      | cons d more =>
        obtain ⟨rfl, -⟩ := List.cons_prefix_cons.mp hprefix
        refine absurd ?_ (notMem_annotationOf hstart hdigit hdigits)
        rw [← hmore]
        exact List.mem_append_right _ List.mem_cons_self
  · exact hprefix.trans (List.prefix_append _ _)

/-- No annotation stands across a character that no annotation has. -/
theorem annotationsFrom_append_cons (first second : List Char) :
    annotationsFrom 0 (first ++ c :: second) =
      annotationsFrom 0 first ++ annotationsFrom 0 second := by
  have hfirst := annotation?_append_cons hstart hdigit first second
  cases first with
  | nil =>
    rw [List.nil_append] at hfirst
    simp only [List.nil_append, annotationsFrom, hfirst]
    rfl
  | cons d first =>
    cases hfound : annotation? (d :: first) with
    | none =>
      rw [List.cons_append, hfound] at hfirst
      rw [List.cons_append, annotationsFrom, hfirst, annotationsFrom, hfound]
      exact annotationsFrom_append_cons first second
    | some found =>
      obtain ⟨hfounds, rest, htext⟩ := eq_annotationOf_of_annotation? hfound
      have hshorter : rest.length < (d :: first).length := by
        rw [htext, annotationOf_eq_cons, List.length_append, List.length_cons]
        omega
      rw [htext, List.append_assoc, annotationsFrom_annotationOf hfounds,
        annotationsFrom_annotationOf hfounds, annotationsFrom_append_cons rest second]
      rfl
termination_by first.length
decreasing_by
  · exact Nat.lt_succ_self _
  · exact hshorter

end Parts

/-- A text without quotes has no annotations. -/
theorem annotationsFrom_eq_nil {text : List Char} (h : '"' ∉ text) :
    annotationsFrom 0 text = [] := by
  rw [List.eq_nil_iff_forall_not_mem]
  intro digits hdigits
  obtain ⟨-, hoccurs⟩ := (mem_annotationsFrom_iff text).mp hdigits
  exact h (hoccurs.subset (by simp [annotationOf]))

/-! ### The hull -/

/-- The greatest of two lines is one of them, and neither is greater. -/
instance : Std.LawfulOrderLeftLeaningMax UInt32 := .of_eq fun a b => by
  show (if a ≤ b then b else a) = _
  by_cases hab : a ≤ b
  · by_cases hba : b ≤ a
    · rw [if_pos hab, if_pos hba, UInt32.le_antisymm hab hba]
    · rw [if_pos hab, if_neg hba]
  · rw [if_neg hab, if_pos ((UInt32.le_total a b).resolve_left hab)]

theorem hull?_eq_some_iff {lines : List LineNumber} {range : LineRange} :
    hull? lines = some range ↔
      IsLeast {line | line ∈ lines} range.first ∧ IsGreatest {line | line ∈ lines} range.last := by
  have hparts : hull? lines = some range ↔
      lines.min? = some range.first ∧ lines.max? = some range.last := by
    obtain ⟨first, last⟩ := range
    simp [hull?, Option.bind_eq_some_iff]
  rw [hparts, List.min?_eq_some_iff, List.max?_eq_some_iff]
  rfl

theorem isSome_hull?_iff {lines : List LineNumber} : (hull? lines).isSome = true ↔ lines ≠ [] := by
  cases lines with
  | nil => simp [hull?]
  | cons line lines => simp [hull?]

/-- **The range of a suggested change is the hull of all its annotations.** A body has one exactly
if it names the class of suggested changes and somewhere in it stands an annotation that gives a
line. Then the ends of the range are the least and the greatest of all lines that annotations of
the body give, those that stand in one another included. -/
theorem range?_hull (body : String) :
    ((range? body).isSome = true ↔
      blockClass.toList <:+: body.toList ∧ ∃ line, Annotates body.toList line) ∧
    ∀ range, range? body = some range →
      IsLeast {line | Annotates body.toList line} range.first ∧
      IsGreatest {line | Annotates body.toList line} range.last ∧
      range.first ≤ range.last := by
  have hlines : {line | line ∈ annotatedLines body.toList} =
      {line | Annotates body.toList line} := Set.ext fun line => mem_annotatedLines_iff
  have hsome : (hull? (annotatedLines body.toList)).isSome = true ↔
      ∃ line, Annotates body.toList line := by
    rw [isSome_hull?_iff, ← List.length_pos_iff, List.length_pos_iff_exists_mem]
    simp only [mem_annotatedLines_iff]
  rw [← occursIn_iff]
  by_cases hin : isIn body = true
  · rw [range?, if_pos hin]
    refine ⟨?_, ?_⟩
    · rw [hsome]
      exact (and_iff_right hin).symm
    · intro range hrange
      obtain ⟨hleast, hgreatest⟩ := hull?_eq_some_iff.mp hrange
      rw [hlines] at hleast hgreatest
      exact ⟨hleast, hgreatest, hleast.2 hgreatest.1⟩
  · rw [range?, if_neg hin]
    refine ⟨?_, ?_⟩
    · constructor
      · intro hnone
        cases hnone
      · rintro ⟨hin', -⟩
        exact absurd hin' hin
    · intro range hrange
      cases hrange

/-- A body with an annotation that breaks off at another one, one beyond the lines, one with a
digit of another script, and one with leading zeros. -/
def crowdedBody : String :=
  "js-suggested-changes-blob data-line-number=\"12data-line-number=\"30\"" ++
    "data-line-number=\"4294967296\" data-line-number=\"٣\" data-line-number=\"007\""

/-- Two of its annotations give a line. -/
theorem range?_hull_crowdedBody :
    range? crowdedBody = some ⟨7, 30⟩ ∧
      IsLeast {line | Annotates crowdedBody.toList line} 7 ∧
      IsGreatest {line | Annotates crowdedBody.toList line} 30 := by
  have hrange : range? crowdedBody = some ⟨7, 30⟩ := by decide +kernel
  obtain ⟨hleast, hgreatest, -⟩ := (range?_hull crowdedBody).2 _ hrange
  exact ⟨hrange, hleast, hgreatest⟩

end Suggestion

end CodeReview
