import CodeReview.Text.Blank
import CodeReview.Text.Lines
import Mathlib.Data.List.TakeWhile

/-!
# CodeReview.Proofs.Text.Lines

What lines are like, said of a list of lines without the text they come from: each ends with
its only newline, and the last one may lack it (`Cut`). A text is cut in one way
(`lines_eq_iff`), so lines that are put together in another way and fit are the lines of the
text they make up.
-/

namespace CodeReview.Text

/-! ### Lines of a text -/

@[simp] theorem lines_nil : lines [] = [] := rfl

theorem lines_newline (cs : List Char) : lines ('\n' :: cs) = ['\n'] :: lines cs := by
  simp [lines]

/-- What stands before the first newline makes the first line. -/
theorem lines_append_newline {stem : List Char} (h : '\n' ∉ stem) (cs : List Char) :
    lines (stem ++ '\n' :: cs) = (stem ++ ['\n']) :: lines cs := by
  induction stem with
  | nil => exact lines_newline cs
  | cons c stem ih =>
    simp only [List.mem_cons, not_or] at h
    simp [lines, Ne.symm h.1, ih h.2]

theorem lines_of_notMem {line : List Char} (hne : line ≠ []) (h : '\n' ∉ line) :
    lines line = [line] := by
  induction line with
  | nil => exact absurd rfl hne
  | cons c line ih =>
    simp only [List.mem_cons, not_or] at h
    by_cases hline : line = []
    · simp [lines, hline, Ne.symm h.1]
    · simp [lines, Ne.symm h.1, ih hline h.2]

/-- A text is cut apart behind each of its newlines. -/
theorem lines_append (first second : List Char) :
    lines (first ++ '\n' :: second) = lines (first ++ ['\n']) ++ lines second := by
  induction first with
  | nil => simp [lines_newline]
  | cons c first ih =>
    by_cases hc : c = '\n'
    · subst hc
      simp only [List.cons_append, lines_newline, ih]
    · have hlines : lines (first ++ ['\n']) ≠ [] := by
        intro hnone
        simpa [hnone] using flatten_lines (first ++ ['\n'])
      obtain ⟨line, rest, hcons⟩ := List.exists_cons_of_ne_nil hlines
      simp only [List.cons_append, lines, if_neg hc, ih, hcons]

/-! ### Cuts -/

/-- The lines are those of some text. -/
inductive Cut : List (List Char) → Prop
  | nil : Cut []
  /-- A last line without a newline. -/
  | last {line : List Char} : line ≠ [] → '\n' ∉ line → Cut [line]
  /-- A line that ends with its only newline, and the lines behind it. -/
  | line {stem : List Char} {rest : List (List Char)} :
      '\n' ∉ stem → Cut rest → Cut ((stem ++ ['\n']) :: rest)

theorem cut_lines (cs : List Char) : Cut (lines cs) := by
  induction cs with
  | nil => exact .nil
  | cons c cs ih =>
    by_cases hc : c = '\n'
    · subst hc
      rw [lines_newline]
      exact @Cut.line [] _ List.not_mem_nil ih
    · rw [lines, if_neg hc]
      generalize lines cs = cut at ih
      cases ih with
      | nil => exact .last (List.cons_ne_nil _ _) (by simpa using Ne.symm hc)
      | last _ hline => exact .last (List.cons_ne_nil _ _) (by simp [Ne.symm hc, hline])
      | @line stem rest hstem hrest =>
        exact @Cut.line (c :: stem) rest (by simp [Ne.symm hc, hstem]) hrest

theorem Cut.lines_flatten {cut : List (List Char)} (h : Cut cut) : lines cut.flatten = cut := by
  induction h with
  | nil => rfl
  | last hne hline => simpa using lines_of_notMem hne hline
  | line hstem _ ih => simp [lines_append_newline hstem, ih]

/-- There is one way to cut a text into lines. -/
theorem lines_eq_iff {cs : List Char} {cut : List (List Char)} :
    lines cs = cut ↔ Cut cut ∧ cut.flatten = cs := by
  constructor
  · rintro rfl
    exact ⟨cut_lines cs, flatten_lines cs⟩
  · rintro ⟨hcut, rfl⟩
    exact hcut.lines_flatten

theorem Cut.of_append {before after : List (List Char)} (h : Cut (before ++ after)) :
    Cut after := by
  induction before with
  | nil => exact h
  | cons line before ih =>
    rw [List.cons_append] at h
    cases hrest : before ++ after with
    | nil =>
      rw [List.append_eq_nil_iff] at hrest
      rw [hrest.2]
      exact .nil
    | cons next rest =>
      rw [hrest] at h
      cases h with
      | line _ hafter =>
        rw [← hrest] at hafter
        exact ih hafter

/-! ### Ends of lines -/

/-- A line ends with a carriage return and a newline, with a newline, or with neither. -/
theorem terminator_eq (line : List Char) :
    terminator line =
      if ['\r', '\n'] <:+ line then ['\r', '\n'] else if ['\n'] <:+ line then ['\n'] else [] := by
  simp only [← List.reverse_prefix, terminator]
  generalize line.reverse = letters
  match letters with
  | [] => simp
  | c :: rest =>
    by_cases hc : c = '\n'
    · subst hc
      cases rest with
      | nil => simp
      | cons d rest =>
        by_cases hd : d = '\r'
        · simp [hd]
        · simp [hd, Ne.symm hd]
    · simp [hc, Ne.symm hc]

theorem terminator_of_notMem {line : List Char} (h : '\n' ∉ line) : terminator line = [] := by
  have hreturn : ¬ ['\r', '\n'] <:+ line := by
    intro hend
    exact h (hend.mem (by simp))
  have hnewline : ¬ ['\n'] <:+ line := by
    intro hend
    exact h (hend.mem (by simp))
  rw [terminator_eq, if_neg hreturn, if_neg hnewline]

theorem terminator_newline (stem : List Char) :
    terminator (stem ++ ['\n']) = ['\r', '\n'] ∨ terminator (stem ++ ['\n']) = ['\n'] := by
  rw [terminator_eq, if_pos (List.suffix_append stem ['\n'])]
  split
  · exact .inl rfl
  · exact .inr rfl

/-! ### Trimmed lines -/

theorem trimEnd_isPrefix_self (cs : List Char) : trimEnd cs <+: cs := by
  rw [trimEnd, ← List.reverse_suffix, List.reverse_reverse]
  exact List.dropWhile_suffix _

/-- Trimming takes away ends only. -/
theorem trim_isInfix_self (cs : List Char) : trim cs <:+: cs :=
  (trimEnd_isPrefix_self _).isInfix.trans (List.dropWhile_suffix _).isInfix

theorem trim_eq_nil_iff {cs : List Char} : trim cs = [] ↔ ∀ c ∈ cs, isBlank c = true := by
  rw [trim, trimEnd, List.reverse_eq_nil_iff, List.dropWhile_eq_nil_iff]
  constructor
  · intro h
    -- What the first step of trimming leaves starts with no blank.
    have hnil : trimStart cs = [] := by
      cases hstart : trimStart cs with
      | nil => rfl
      | cons c rest =>
        have hblank := h c (by simp [hstart])
        have hhead := @isBlank_head?_trimStart cs c (by simp [hstart])
        simp [hblank] at hhead
    exact List.dropWhile_eq_nil_iff.mp hnil
  · intro h
    simp [trimStart, List.dropWhile_eq_nil_iff.mpr h]

/-- A text keeps its first character if that is no blank. -/
theorem head?_trim {c : Char} (h : isBlank c = false) (cs : List Char) :
    (trim (c :: cs)).head? = some c := by
  have hstart : trimStart (c :: cs) = c :: cs := trimStart_eq_self (by simpa using h)
  have hne : trim (c :: cs) ≠ [] := by
    rw [Ne, trim_eq_nil_iff]
    intro hblank
    simp [hblank c] at h
  rw [trim, hstart] at hne ⊢
  obtain ⟨rest, hrest⟩ := trimEnd_isPrefix_self (c :: cs)
  cases htrim : trimEnd (c :: cs) with
  | nil => exact absurd htrim hne
  | cons d more =>
    rw [htrim, List.cons_append, List.cons.injEq] at hrest
    simp [hrest.1]

/-- A blank at the end of a text does not count. -/
theorem trim_append_of_isBlank {c : Char} (h : isBlank c = true) (cs : List Char) :
    trim (cs ++ [c]) = trim cs := by
  by_cases hblank : ∀ d ∈ cs, isBlank d = true
  · rw [trim_eq_nil_iff.mpr hblank, trim_eq_nil_iff]
    simpa [or_imp, forall_and] using ⟨hblank, h⟩
  · have hstart : trimStart (cs ++ [c]) = trimStart cs ++ [c] := by
      rw [← List.dropWhile_eq_nil_iff] at hblank
      simp [trimStart, List.dropWhile_append, hblank]
    simp [trim, trimEnd, hstart, h]

theorem Cut.newline_notMem_trim {cut : List (List Char)} (h : Cut cut) {line : List Char}
    (hline : line ∈ cut) : '\n' ∉ trim line := by
  induction h with
  | nil => simp at hline
  | last _ hnone =>
    rw [List.mem_singleton] at hline
    subst hline
    exact fun hmem => hnone ((trim_isInfix_self _).mem hmem)
  | line hstem _ ih =>
    rcases List.mem_cons.mp hline with rfl | hrest
    · rw [trim_append_of_isBlank (by decide)]
      exact fun hmem => hstem ((trim_isInfix_self _).mem hmem)
    · exact ih hrest

end CodeReview.Text
