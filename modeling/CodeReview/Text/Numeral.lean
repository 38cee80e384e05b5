/-!
# CodeReview.Text.Numeral

Line numbers in text. A line number is a 32-bit word, written with ASCII digits;
leading zeros are welcome, a value beyond the word is not.
-/

namespace CodeReview.Text

/-- A line of a file. -/
abbrev LineNumber := UInt32

/-- The value of a run of ASCII digits. -/
def digitsValue (digits : List Char) : Nat :=
  digits.foldl (fun n d => n * 10 + (d.toNat - 48)) 0

@[simp] theorem digitsValue_nil : digitsValue [] = 0 := rfl

theorem digitsValue_append_singleton (digits : List Char) (d : Char) :
    digitsValue (digits ++ [d]) = digitsValue digits * 10 + (d.toNat - 48) := by
  simp [digitsValue, List.foldl_append]

/-- Reads a non-empty run of ASCII digits whose value fits a line number. -/
def lineNumber? (digits : List Char) : Option LineNumber :=
  if digits ≠ [] ∧ digits.all Char.isDigit ∧ digitsValue digits < UInt32.size then
    some (UInt32.ofNat (digitsValue digits))
  else
    none

/-- Reads a line number that one plus sign may precede. -/
def signedLineNumber? : List Char → Option LineNumber
  | '+' :: digits => lineNumber? digits
  | digits => lineNumber? digits

/-- The decimal digits of a line number. -/
def lineText (n : LineNumber) : String := Nat.repr n.toNat

end CodeReview.Text
