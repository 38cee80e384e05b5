import CodeReview.Proofs.Text.Numeral
import Mathlib.Data.List.Induction
import Mathlib.Data.Nat.Digits.Defs
import Mathlib.Data.Set.List

/-!
# CodeReview.Proofs.Places.MarkerGrammar

Which texts are markers, and which line each of them names. A marker is written with a letter for
the side and with decimal digits (`Marker.Spelling`), and its line is the number that the digits
stand for in the decimal system. These texts are read, up to the largest line number, and no other
text is. So leading zeros change nothing, however many there are, and no marker has a sign, a blank
or a digit of another script in it.
-/

namespace CodeReview

open Text (LineNumber)

namespace Text

/-! ### Decimal digits in ASCII -/

/-- The ASCII digits are the characters of the ten decimal digits. -/
theorem isDigit_iff_exists_digitChar {c : Char} :
    c.isDigit = true ↔ ∃ digit : Fin 10, Nat.digitChar digit = c := by
  constructor
  · intro h
    obtain ⟨hlow, hhigh⟩ := toNat_of_isDigit h
    refine ⟨⟨c.toNat - 48, by omega⟩, Char.toNat_inj.mp ?_⟩
    rw [Nat.toNat_digitChar_of_lt_ten (by omega)]
    exact Nat.add_sub_cancel' hlow
  · rintro ⟨digit, rfl⟩
    rw [Nat.isDigit_digitChar, decide_eq_true digit.isLt]

/-- The characters of some decimal digits, the highest one first. -/
def numeral (digits : List (Fin 10)) : List Char :=
  digits.map fun digit : Fin 10 => Nat.digitChar digit

theorem forall_isDigit_iff_exists_numeral {cs : List Char} :
    (∀ c ∈ cs, c.isDigit = true) ↔ ∃ digits, numeral digits = cs := by
  have hrange := Set.ext_iff.mp (Set.range_list_map fun digit : Fin 10 => Nat.digitChar digit) cs
  simp only [isDigit_iff_exists_digitChar]
  exact hrange.symm

/-- Adding up digits one by one gives what they stand for in the decimal system, where the last
digit counts units. -/
theorem digitsValue_numeral (digits : List (Fin 10)) :
    digitsValue (numeral digits) = Nat.ofDigits 10 (digits.map Fin.val).reverse := by
  induction digits using List.reverseRecOn with
  | nil => rfl
  | append_singleton digits digit ih =>
    have hnumeral : numeral (digits ++ [digit]) = numeral digits ++ [Nat.digitChar digit] :=
      List.map_append
    rw [hnumeral, digitsValue_append_singleton, ih, Nat.toNat_digitChar_sub_48_of_lt_ten digit.isLt,
      List.map_append, List.map_singleton, List.reverse_concat, Nat.ofDigits_cons]
    omega

end Text

namespace Marker

/-! ### Markers as they are written -/

/-- A side of a diff. -/
inductive Side where
  | old
  | new

/-- The letter of a side. -/
def Side.letter : Side → Char
  | .old => 'L'
  | .new => 'R'

theorem Side.exists_letter_eq_iff {c : Char} :
    (∃ side : Side, side.letter = c) ↔ c = 'R' ∨ c = 'L' := by
  constructor
  · rintro ⟨side, rfl⟩
    cases side with
    | old => exact .inr rfl
    | new => exact .inl rfl
  · rintro (rfl | rfl)
    · exact ⟨.new, rfl⟩
    · exact ⟨.old, rfl⟩

/-- What a marker is written with: a side and decimal digits, the highest one first. -/
structure Spelling where
  side : Side
  digits : List (Fin 10)
  digits_ne_nil : digits ≠ []

namespace Spelling

/-- The marker as text. -/
def text (spelling : Spelling) : String :=
  String.ofList (spelling.side.letter :: Text.numeral spelling.digits)

/-- The number that the digits stand for in the decimal system. -/
def value (spelling : Spelling) : Nat :=
  Nat.ofDigits 10 (spelling.digits.map Fin.val).reverse

/-- A marker names the line with its number, unless the number is beyond the lines. -/
theorem line?_text (spelling : Spelling) :
    line? spelling.text =
      if spelling.value < UInt32.size then some (.ofNat spelling.value) else none := by
  have hdigits : Text.numeral spelling.digits ≠ [] :=
    fun hnil => spelling.digits_ne_nil (List.map_eq_nil_iff.mp hnil)
  have hall := Text.forall_isDigit_iff_exists_numeral.mpr ⟨spelling.digits, rfl⟩
  rw [line?, text, String.toList_ofList]
  dsimp only
  rw [if_pos (Side.exists_letter_eq_iff.mp ⟨spelling.side, rfl⟩),
    Text.lineNumber?_of_isDigit hdigits hall, Text.digitsValue_numeral, value]

theorem line?_text_of_le {spelling : Spelling} (hfits : spelling.value ≤ 4294967295) :
    line? spelling.text = some (.ofNat spelling.value) := by
  rw [line?_text, if_pos (Nat.lt_succ_of_le hfits)]

end Spelling

/-- A text that names a line is a marker with the number of the line. -/
theorem exists_spelling_of_line? {marker : String} {line : LineNumber}
    (h : line? marker = some line) :
    ∃ spelling : Spelling, spelling.text = marker ∧ spelling.value = line.toNat := by
  rw [line?] at h
  split at h
  · next letter rest hmarker =>
    split at h
    · next hletter =>
      obtain ⟨hne, hall, hvalue⟩ := Text.lineNumber?_eq_some_iff.mp h
      obtain ⟨side, rfl⟩ := Side.exists_letter_eq_iff.mpr hletter
      obtain ⟨digits, rfl⟩ := Text.forall_isDigit_iff_exists_numeral.mp hall
      refine ⟨⟨side, digits, fun hnil => hne (List.map_eq_nil_iff.mpr hnil)⟩, ?_, ?_⟩
      · rw [Spelling.text, ← hmarker, String.ofList_toList]
      · rw [Spelling.value, ← Text.digitsValue_numeral, hvalue]
    · cases h
  · cases h

/-- **Markers.** A text names the line `n` if and only if it is a side letter with decimal digits
that stand for `n`, and there is such a line. Any other text names none. The marker that is written
for a line is one that names it. -/
theorem line?_reads_spellings :
    (∀ (marker : String) (n : Nat), (line? marker).map UInt32.toNat = some n ↔
        (∃ spelling : Spelling, spelling.text = marker ∧ spelling.value = n) ∧ n ≤ 4294967295) ∧
      (∀ marker : String, line? marker = none ↔
        ¬ ∃ spelling : Spelling, spelling.text = marker ∧ spelling.value ≤ 4294967295) ∧
      ∀ line : LineNumber, line? (ofLine line) = some line := by
  have hle (line : LineNumber) : line.toNat ≤ 4294967295 := Nat.le_of_lt_succ line.toNat_lt_size
  refine ⟨?_, ?_, line?_ofLine⟩
  · intro marker n
    constructor
    · intro h
      obtain ⟨line, hline, rfl⟩ := Option.map_eq_some_iff.mp h
      exact ⟨exists_spelling_of_line? hline, hle line⟩
    · rintro ⟨⟨spelling, rfl, rfl⟩, hfits⟩
      rw [Spelling.line?_text_of_le hfits, Option.map_some,
        UInt32.toNat_ofNat_of_lt' (Nat.lt_succ_of_le hfits)]
  · intro marker
    constructor
    · rintro h ⟨spelling, rfl, hfits⟩
      rw [Spelling.line?_text_of_le hfits] at h
      cases h
    · intro h
      rw [Option.eq_none_iff_forall_ne_some]
      intro line hline
      obtain ⟨spelling, htext, hvalue⟩ := exists_spelling_of_line? hline
      exact h ⟨spelling, htext, hvalue ▸ hle line⟩

/-- Zeros may lead; a sign, a blank, a digit of another script and a number beyond the lines are
refused. -/
example : ["L0", "R00000000000025", "R4294967295", "R4294967296", "R+5", "R 5", "R5 ", "R５",
      "r5", "R"].map line? =
    [some 0, some 25, some 4294967295] ++ List.replicate 7 none := by
  decide

end Marker

end CodeReview
