import CodeReview.Marker
import CodeReview.Text.Blank

/-!
# CodeReview.Proofs.Text.Numeral

Line numbers survive being written: the digits of a line number read back as the number,
also where blanks and a sign are allowed around them, and behind the side letter of a
marker.
-/

namespace CodeReview

namespace Text

/-! ### Digits -/

/-- The value of digits is the one that the core library gives them. -/
theorem digitsValue_eq_ofDigitChars (digits : List Char) :
    digitsValue digits = Nat.ofDigitChars 10 digits 0 := by
  rw [digitsValue, Nat.ofDigitChars_eq_foldl]
  congr 1
  funext n d
  rw [Nat.mul_comm]
  rfl

theorem toList_lineText (n : LineNumber) : (lineText n).toList = Nat.toDigits 10 n.toNat := by
  rw [lineText, Nat.toList_repr]

theorem isDigit_of_mem_lineText {n : LineNumber} {c : Char} (h : c ∈ (lineText n).toList) :
    c.isDigit = true := by
  rw [toList_lineText] at h
  exact Nat.isDigit_of_mem_toDigits (by decide) (by decide) h

theorem notMem_lineText {c : Char} (hc : c.isDigit = false) (n : LineNumber) :
    c ∉ (lineText n).toList := by
  intro hmem
  rw [isDigit_of_mem_lineText hmem] at hc
  cases hc

theorem lineText_toList_ne_nil (n : LineNumber) : (lineText n).toList ≠ [] := by
  rw [Ne, String.toList_eq_nil_iff]
  exact Nat.repr_ne_empty

/-- What reads as a line number: ASCII digits, at least one, whose value fits. -/
theorem lineNumber?_eq_some_iff {digits : List Char} {line : LineNumber} :
    lineNumber? digits = some line ↔
      digits ≠ [] ∧ (∀ d ∈ digits, d.isDigit = true) ∧ digitsValue digits = line.toNat := by
  rw [lineNumber?]
  constructor
  · intro h
    split at h
    · next hreads =>
      obtain ⟨hne, hall, hfits⟩ := hreads
      obtain rfl := Option.some.inj h
      exact ⟨hne, List.all_eq_true.mp hall, (UInt32.toNat_ofNat_of_lt' hfits).symm⟩
    · cases h
  · rintro ⟨hne, hall, hvalue⟩
    have hfits : digitsValue digits < UInt32.size := hvalue ▸ line.toNat_lt_size
    rw [if_pos ⟨hne, List.all_eq_true.mpr hall, hfits⟩, hvalue, UInt32.ofNat_toNat]

theorem digitsValue_toDigits (n : Nat) : digitsValue (Nat.toDigits 10 n) = n := by
  rw [digitsValue_eq_ofDigitChars, Nat.ofDigitChars_ten_toDigits]

/-- ASCII digits read as the line with their value, unless that is beyond the lines. -/
theorem lineNumber?_of_isDigit {digits : List Char} (hne : digits ≠ [])
    (hall : ∀ d ∈ digits, d.isDigit = true) :
    lineNumber? digits =
      if digitsValue digits < UInt32.size then some (.ofNat (digitsValue digits)) else none := by
  simp only [lineNumber?, ne_eq, hne, not_false_eq_true, List.all_eq_true.mpr hall, true_and]

/-- The decimal of a number reads as the line number, unless it is beyond the lines. -/
theorem lineNumber?_toDigits (n : Nat) :
    lineNumber? (Nat.toDigits 10 n) = if n < UInt32.size then some (.ofNat n) else none := by
  have hall : ∀ d ∈ Nat.toDigits 10 n, d.isDigit = true :=
    fun d hd => Nat.isDigit_of_mem_toDigits (by decide) (by decide) hd
  rw [lineNumber?_of_isDigit Nat.toDigits_ne_nil hall, digitsValue_toDigits]

/-- A line number that was written reads back. -/
theorem lineNumber?_lineText (n : LineNumber) : lineNumber? (lineText n).toList = some n := by
  rw [lineNumber?_eq_some_iff]
  refine ⟨lineText_toList_ne_nil n, fun c hc => isDigit_of_mem_lineText hc, ?_⟩
  rw [toList_lineText, digitsValue_toDigits]

/-- Line numbers that are written alike are the same. -/
theorem lineText_inj {n m : LineNumber} : lineText n = lineText m ↔ n = m := by
  refine ⟨fun h => ?_, fun h => h ▸ rfl⟩
  have hread := lineNumber?_lineText n
  rw [h, lineNumber?_lineText] at hread
  exact (Option.some.inj hread).symm

/-! ### Blanks and signs -/

theorem toNat_of_isDigit {c : Char} (h : c.isDigit = true) : 48 ≤ c.toNat ∧ c.toNat ≤ 57 := by
  simpa [Char.isDigit, UInt32.le_iff_toNat_le] using h

/-- A digit is no blank. -/
theorem isBlank_eq_false_of_isDigit {c : Char} (h : c.isDigit = true) : isBlank c = false := by
  have hrange := toNat_of_isDigit h
  unfold isBlank
  simp only [Bool.or_eq_false_iff, Bool.and_eq_false_iff, beq_eq_false_iff_ne,
    decide_eq_false_iff_not]
  omega

/-- Text without blanks is its own trim. -/
theorem trim_eq_self {cs : List Char} (h : ∀ c ∈ cs, isBlank c = false) : trim cs = cs := by
  have hstart : ∀ ds : List Char, (∀ d ∈ ds, isBlank d = false) → ds.dropWhile isBlank = ds := by
    intro ds hds
    cases ds with
    | nil => rfl
    | cons d ds => rw [List.dropWhile_cons_of_neg (by rw [hds d (by simp)]; simp)]
  rw [trim, trimStart, hstart cs h, trimEnd,
    hstart cs.reverse fun c hc => h c (List.mem_reverse.mp hc), List.reverse_reverse]

theorem trim_lineText (n : LineNumber) : trim (lineText n).toList = (lineText n).toList :=
  trim_eq_self fun _ hc => isBlank_eq_false_of_isDigit (isDigit_of_mem_lineText hc)

/-- A line number without a sign reads the same where a sign may stand. -/
theorem signedLineNumber?_lineText (n : LineNumber) :
    signedLineNumber? (lineText n).toList = some n := by
  rw [signedLineNumber?.eq_def]
  split
  · next digits heq =>
    have hplus : '+' ∈ (lineText n).toList := by
      rw [heq]
      exact List.mem_cons_self
    exact absurd hplus (notMem_lineText (by decide) n)
  · exact lineNumber?_lineText n

end Text

/-! ### Markers -/

/-- A side letter with the digits of a line number names the line. -/
theorem Marker.line?_of_toList_eq {marker : String} {side : Char} (hside : side = 'R' ∨ side = 'L')
    {n : Text.LineNumber} (h : marker.toList = side :: (Text.lineText n).toList) :
    Marker.line? marker = some n := by
  rw [Marker.line?, h]
  dsimp only
  rw [if_pos hside]
  exact Text.lineNumber?_lineText n

/-- The marker of a line of the new side names the line. -/
theorem Marker.line?_new (n : Text.LineNumber) : Marker.line? ("R" ++ Text.lineText n) = some n :=
  line?_of_toList_eq (.inl rfl) (by rw [String.toList_append]; rfl)

/-- The marker that is written for a line names the line. -/
theorem Marker.line?_ofLine (n : Text.LineNumber) : Marker.line? (Marker.ofLine n) = some n :=
  line?_of_toList_eq (.inr rfl) (by rw [ofLine, String.toList_append]; rfl)

end CodeReview
