import CodeReview.Proofs.Json.Accepted
import CodeReview.Proofs.Text.Numeral
import Mathlib.Data.List.Basic

/-!
# CodeReview.Proofs.Json.Literal

Integers survive being written. The decimal form of an integer between `-2 ^ 63` and `2 ^ 64 - 1`
is read as that integer wherever a value may stand (`State.holdsNumber_run_toString`). Between
quotes it is read as the text that it is.

The reader takes a literal apart into its sign and its digits. That the digits are those of a
number matters twice: they begin with a zero only if they are a zero, so all of them are read as
the whole part, and every part of them stays as small as the number, so all of them count.
-/

namespace CodeReview.Json

/-! ### Digits -/

/-- Digits behind a value only raise it. -/
theorem le_ofDigitChars (value : Nat) (digits : List Char) :
    value ≤ Nat.ofDigitChars 10 digits value := by
  induction digits generalizing value with
  | nil => exact Nat.le_of_eq Nat.ofDigitChars_nil.symm
  | cons digit digits ih =>
    rw [Nat.ofDigitChars_cons]
    exact Nat.le_trans (by omega) (ih _)

/-- All digits count if the number they stand for is small enough. -/
theorem Numeral.gather_eq {value : Nat} {digits : List Char}
    (h : Nat.ofDigitChars 10 digits value < powerOfTwo 64) :
    gather value digits = (Nat.ofDigitChars 10 digits value, []) := by
  induction digits generalizing value with
  | nil => rw [gather, Nat.ofDigitChars_nil]
  | cons digit digits ih =>
    rw [Nat.ofDigitChars_cons, Nat.mul_comm] at h
    have hnext : value * 10 + (digit.toNat - 48) < powerOfTwo 64 :=
      Nat.lt_of_le_of_lt (le_ofDigitChars _ digits) h
    rw [Nat.ofDigitChars_cons, Nat.mul_comm, gather, if_pos hnext]
    exact ih h

/-- Only the digits of zero begin with a zero. -/
theorem head?_toDigits_ne_zero {n : Nat} (h : n ≠ 0) : (Nat.toDigits 10 n).head? ≠ some '0' := by
  induction n using Nat.strongRecOn with
  | ind n ih =>
    rw [Nat.toDigits_eq_if (by decide)]
    split
    · rwa [List.head?_cons, Ne, Option.some.injEq, Nat.digitChar_eq_zero]
    · next hle =>
      rw [List.head?_append_of_ne_nil _ Nat.toDigits_ne_nil]
      exact ih (n / 10) (by omega) (by omega)

/-- The digits of a number are read as the whole of a literal. -/
theorem Digits.value?_toDigits (negative : Bool) {n : Nat} (h : n < powerOfTwo 64) :
    Numeral.value?
        (Digits.literal { negative := negative, whole := (Nat.toDigits 10 n).reverse }) =
      Numeral.integer negative n := by
  have hgather : Numeral.gather 0 (Nat.toDigits 10 n) = (n, []) := by
    rw [Numeral.gather_eq (by rwa [Nat.ofDigitChars_ten_toDigits]), Nat.ofDigitChars_ten_toDigits]
  simp only [Numeral.value?, Digits.literal, List.reverse_reverse, hgather, List.isEmpty_nil, if_true,
    and_self]

namespace State

/-- A literal of the value stands in the text, and may end there. -/
def HoldsNumber (stack : List Frame) (value : Number) (state : State) : Prop :=
  ∃ digits part, state = reading stack (.number digits part) ∧ part.mayEnd = true ∧
    digits.literal.value? = some value

variable {stack : List Frame}

theorem HoldsNumber.close_eq {value : Number} {state : State} (h : state.HoldsNumber stack value) :
    state.close = finish (.number value) stack := by
  obtain ⟨digits, part, rfl, hend, hvalue⟩ := h
  rw [close, if_pos hend, finishNumber, hvalue]

theorem run_digits (digits : Digits) {text : List Char} (h : ∀ c ∈ text, c.isDigit = true) :
    (reading stack (.number digits .whole)).run text =
      reading stack (.number { digits with whole := text.reverse ++ digits.whole } .whole) := by
  induction text generalizing digits with
  | nil => rfl
  | cons c text ih =>
    have hc : c.isDigit = true := h c List.mem_cons_self
    have hstep : (reading stack (.number digits .whole)).step c =
        reading stack (.number { digits with whole := c :: digits.whole } .whole) := by
      simp only [step, stepNumber, extend?, hc, if_true]
    rw [run_cons, hstep, ih _ fun d hd => h d (List.mem_cons_of_mem c hd), List.reverse_cons,
      List.append_assoc]
    rfl

/-- The digits of a number are read as a literal by a state that takes the first of them for the
first of a literal. -/
theorem holdsNumber_run_toDigits {state : State} {negative : Bool} {n : Nat} {value : Number}
    (hzero : state.step '0' =
      reading stack (.number { negative := negative, whole := ['0'] } .zero))
    (hdigit : ∀ c : Char, c.isDigit = true → c ≠ '0' →
      state.step c = reading stack (.number { negative := negative, whole := [c] } .whole))
    (hn : n < powerOfTwo 64) (hvalue : Numeral.integer negative n = some value) :
    (state.run (Nat.toDigits 10 n)).HoldsNumber stack value := by
  have hliteral := (Digits.value?_toDigits negative hn).trans hvalue
  by_cases h : n = 0
  · subst h
    exact ⟨_, _, hzero, rfl, hliteral⟩
  · have hhead := head?_toDigits_ne_zero h
    have hall : ∀ c ∈ Nat.toDigits 10 n, c.isDigit = true := fun c hc =>
      Nat.isDigit_of_mem_toDigits (by decide) (by decide) hc
    cases hdigits : Nat.toDigits 10 n with
    | nil => exact absurd hdigits Nat.toDigits_ne_nil
    | cons c text =>
      rw [hdigits] at hhead hall hliteral
      have hc : c ≠ '0' := fun heq => hhead (congrArg some heq)
      rw [List.reverse_cons] at hliteral
      rw [run_cons, hdigit c (hall c List.mem_cons_self) hc,
        run_digits _ fun d hd => hall d (List.mem_cons_of_mem c hd)]
      exact ⟨_, _, rfl, rfl, hliteral⟩

theorem step_value_of_isDigit {c : Char} (hc : c.isDigit = true) (hzero : c ≠ '0') :
    (reading stack .value).step c = reading stack (.number { whole := [c] } .whole) := by
  have hne {other : Char} (hother : other.isDigit = false) : c ≠ other := by
    rintro rfl
    rw [hc] at hother
    cases hother
  have hspace : isSpace c = false := by
    simp (disch := decide) only [isSpace, beq_eq_false_iff_ne.mpr (hne _), Bool.or_self]
  have hbegin : (reading stack .value).step c = beginValue stack c := by
    rw [step, hspace, if_neg Bool.false_ne_true]
  rw [hbegin, beginValue]
  simp (disch := decide) only [hne, hzero, hc, if_true, if_false]

/-- A digit behind the sign begins the whole part, as it would without the sign. -/
theorem step_sign_of_isDigit {c : Char} (hc : c.isDigit = true) (hzero : c ≠ '0') :
    (reading stack (.number { negative := true } .sign)).step c =
      reading stack (.number { negative := true, whole := [c] } .whole) := by
  simp only [step, stepNumber, extend?, hzero, hc, if_true, if_false]

/-- The decimal form of an integer is read as a literal of the integer. -/
theorem holdsNumber_run_toString {n : Int} (hlow : -(powerOfTwo 63 : Int) ≤ n)
    (hhigh : n < powerOfTwo 64) :
    ((reading stack .value).run (toString n).toList).HoldsNumber stack (.integer n) := by
  rw [Int.toString_eq_repr, Int.repr_eq_if]
  split
  · next hsign =>
    have hvalue : Numeral.integer false n.toNat = some (.integer n) := by
      rw [Numeral.integer, if_pos (by decide), Int.toNat_of_nonneg hsign]
    rw [Nat.toList_repr]
    exact holdsNumber_run_toDigits rfl (fun _ => step_value_of_isDigit) (by omega) hvalue
  · next hsign =>
    have hsmall : 0 < (-n).toNat ∧ (-n).toNat ≤ powerOfTwo 63 := by omega
    have hvalue : Numeral.integer true (-n).toNat = some (.integer n) := by
      rw [Numeral.integer, if_neg (by decide), if_pos hsmall, Int.toNat_of_nonneg (by omega),
        Int.neg_neg]
    rw [String.toList_append, Nat.toList_repr, run_append]
    exact holdsNumber_run_toDigits rfl (fun _ => step_sign_of_isDigit)
      (Nat.lt_of_le_of_lt hsmall.2 (by decide)) hvalue

/-! ### Quoted texts -/

/-- Letters that need no escape are read as themselves. -/
theorem run_letters (isKey : Bool) (letters : List Char) {text : List Char}
    (h : ∀ c ∈ text, c ≠ '"' ∧ c ≠ '\\' ∧ ¬c.toNat < 0x20) :
    (reading stack (.string isKey letters .outside)).run text =
      reading stack (.string isKey (text.reverse ++ letters) .outside) := by
  induction text generalizing letters with
  | nil => rfl
  | cons c text ih =>
    obtain ⟨hquote, hslash, hcontrol⟩ := h c List.mem_cons_self
    have hstep : (reading stack (.string isKey letters .outside)).step c =
        reading stack (.string isKey (c :: letters) .outside) := by
      rw [step, stepString, if_neg hquote, if_neg hslash, if_neg hcontrol]
    rw [run_cons, hstep, ih _ fun d hd => h d (List.mem_cons_of_mem c hd), List.reverse_cons,
      List.append_assoc]
    rfl

end State

/-- The decimal form of an integer needs no escape. -/
theorem plain_of_mem_toString {n : Int} {c : Char} (h : c ∈ (toString n).toList) :
    c ≠ '"' ∧ c ≠ '\\' ∧ ¬c.toNat < 0x20 := by
  have hdigit {m : Nat} (hc : c ∈ m.repr.toList) : c ≠ '"' ∧ c ≠ '\\' ∧ ¬c.toNat < 0x20 := by
    rw [Nat.toList_repr] at hc
    have hrange := Text.toNat_of_isDigit (Nat.isDigit_of_mem_toDigits (by decide) (by decide) hc)
    refine ⟨?_, ?_, by omega⟩
    · rintro rfl
      exact absurd hrange (by decide)
    · rintro rfl
      exact absurd hrange (by decide)
  rw [Int.toString_eq_repr, Int.repr_eq_if] at h
  split at h
  · exact hdigit h
  · rw [String.toList_append, List.mem_append] at h
    rcases h with hsign | hc
    · obtain rfl : c = '-' := List.mem_singleton.mp hsign
      decide
    · exact hdigit hc

/-! ### Texts -/

/-- An integer reads back from its decimal form. -/
theorem read_toString {n : Int} (hlow : -(powerOfTwo 63 : Int) ≤ n) (hhigh : n < powerOfTwo 64) :
    read (toString n) = .ok (.number (.integer n)) :=
  read_eq_ok_iff.mpr (State.holdsNumber_run_toString hlow hhigh).close_eq

/-- The decimal form of an integer reads back from between quotes. -/
theorem read_quoted_toString (n : Int) :
    read ("\"" ++ toString n ++ "\"") = .ok (.string (toString n)) := by
  rw [read_eq_ok_iff, String.toList_append, String.toList_append, State.run_append, State.run_append]
  have hopen : State.start.run "\"".toList = .reading [] (.string false [] .outside) := rfl
  have hclose (letters : List Char) :
      (State.reading [] (.string false letters .outside)).run "\"".toList =
        .complete (.string (String.ofList letters.reverse)) := rfl
  rw [hopen, State.run_letters false [] fun c hc => plain_of_mem_toString hc, hclose,
    List.append_nil, List.reverse_reverse, String.ofList_toList]
  rfl

end CodeReview.Json
