import CodeReview.Text.Blank
import CodeReview.Text.DecimalDigit
import Mathlib.Data.List.TakeWhile

/-!
# CodeReview.Proofs.Text.Runs

Runs of characters of a class: blanks, digits. A run that the text behind it does not go on with
is found as a whole, and no character is both a blank and a digit, so runs of the two kinds that
follow one another are told apart. Letters and their cases are told by code points.
-/

namespace CodeReview.Text

/-- Characters of a class, at least one. -/
structure IsRun (p : Char → Bool) (run : List Char) : Prop where
  ne_nil : run ≠ []
  all : ∀ c ∈ run, p c = true

instance (p : Char → Bool) (run : List Char) : Decidable (IsRun p run) :=
  decidable_of_iff (run.isEmpty = false ∧ run.all p = true) <| by
    rw [List.isEmpty_eq_false_iff, List.all_eq_true]
    exact ⟨fun h => ⟨h.1, h.2⟩, fun h => ⟨h.ne_nil, h.all⟩⟩

variable {p : Char → Bool} {run rest : List Char}

theorem IsRun.mono {q : Char → Bool} (h : IsRun p run) (hpq : ∀ {c}, p c = true → q c = true) :
    IsRun q run :=
  ⟨h.ne_nil, fun c hc => hpq (h.all c hc)⟩

theorem IsRun.append (h : IsRun p run) (hrest : ∀ c ∈ rest, p c = true) :
    IsRun p (run ++ rest) where
  ne_nil := by simp [h.ne_nil]
  all := by
    intro c hc
    exact (List.mem_append.mp hc).elim (h.all c) (hrest c)

/-- A text that starts with a run starts with a character of the class. -/
theorem IsRun.head?_append (h : IsRun p run) (rest : List Char) :
    ∃ c, (run ++ rest).head? = some c ∧ p c = true := by
  cases run with
  | nil => exact absurd rfl h.ne_nil
  | cons c run => exact ⟨c, rfl, h.all c List.mem_cons_self⟩

/-- Where a run starts, nothing starts that has no character in common with it. -/
theorem IsRun.forall_head?_append {q : Char → Bool} (h : IsRun p run)
    (hpq : ∀ {c}, p c = true → q c = false) (rest : List Char) :
    ∀ c ∈ (run ++ rest).head?, q c = false := by
  intro c hc
  obtain ⟨d, hhead, hd⟩ := h.head?_append rest
  rw [hhead] at hc
  obtain rfl := Option.some.inj hc
  exact hpq hd

theorem takeWhile_append_of_head? (hrun : ∀ c ∈ run, p c = true)
    (hrest : ∀ c ∈ rest.head?, p c = false) : (run ++ rest).takeWhile p = run := by
  rw [List.takeWhile_append_of_pos hrun]
  cases rest with
  | nil => simp
  | cons c rest => simp [hrest c rfl]

theorem dropWhile_append_of_head? (hrun : ∀ c ∈ run, p c = true)
    (hrest : ∀ c ∈ rest.head?, p c = false) : (run ++ rest).dropWhile p = rest := by
  rw [List.dropWhile_append_of_pos hrun]
  cases rest with
  | nil => simp
  | cons c rest => simp [hrest c rfl]

/-- What a run is followed by, when as much as possible was taken. -/
theorem head?_dropWhile_eq_false (p : Char → Bool) (text : List Char) :
    ∀ c ∈ (text.dropWhile p).head?, p c = false := by
  intro c hc
  have hnot := List.head?_dropWhile_not p text
  rw [Option.mem_def] at hc
  rwa [hc] at hnot

/-! ### Letters -/

/-- The small letters are the code points from `a` to `z`. -/
theorem isLower_iff_toNat {c : Char} : c.isLower = true ↔ 97 ≤ c.toNat ∧ c.toNat ≤ 122 := by
  have hlower : c.isLower = (decide (c.val ≥ 'a'.val) && decide (c.val ≤ 'z'.val)) := rfl
  rw [hlower, Bool.and_eq_true, decide_eq_true_eq, decide_eq_true_eq, ge_iff_le,
    UInt32.le_iff_toNat_le, UInt32.le_iff_toNat_le]
  rfl

/-- Only capital letters have another small letter. -/
theorem isCapital_or_toLower_eq (c : Char) : (65 ≤ c.toNat ∧ c.toNat ≤ 90) ∨ c.toLower = c := by
  by_cases h : c.val ≥ 'A'.val ∧ c.val ≤ 'Z'.val
  · rw [ge_iff_le, UInt32.le_iff_toNat_le, UInt32.le_iff_toNat_le] at h
    exact .inl h
  · exact .inr (dif_neg h)

/-! ### Blanks and digits -/

/-- The code points of the blanks. -/
def blankCodes : List Nat :=
  [0x9, 0xA, 0xB, 0xC, 0xD, 0x20, 0x85, 0xA0, 0x1680, 0x2000, 0x2001, 0x2002, 0x2003, 0x2004,
    0x2005, 0x2006, 0x2007, 0x2008, 0x2009, 0x200A, 0x2028, 0x2029, 0x202F, 0x205F, 0x3000]

theorem toNat_mem_blankCodes {c : Char} (h : isBlank c = true) : c.toNat ∈ blankCodes := by
  simp only [isBlank, Bool.or_eq_true, Bool.and_eq_true, decide_eq_true_eq, beq_iff_eq] at h
  simp only [blankCodes, List.mem_cons, List.not_mem_nil, or_false]
  omega

/-- No digit of any script is a blank. -/
theorem isDecimalDigit_eq_false_of_isBlank {c : Char} (h : isBlank c = true) :
    isDecimalDigit c = false := by
  have hcodes : ∀ n ∈ blankCodes,
      (scriptZeros.any fun origin => origin ≤ n && n < origin + 10) = false := by decide
  exact hcodes c.toNat (toNat_mem_blankCodes h)

theorem isBlank_eq_false_of_isDecimalDigit {c : Char} (h : isDecimalDigit c = true) :
    isBlank c = false := by
  cases hblank : isBlank c with
  | false => rfl
  | true => rw [isDecimalDigit_eq_false_of_isBlank hblank] at h; cases h

end CodeReview.Text
