import CodeReview.Decimal.Shortest
import CodeReview.Text.Numeral

/-!
# CodeReview.Json.Number

Numbers of JSON texts: what a literal stands for and how a number is written.

Design points:

* A literal without fraction and exponent is an integer when it lies between
  `-2 ^ 63` and `2 ^ 64 - 1`; minus zero and all other literals are binary64
  numbers.
* The digits of a literal count while their value stays below `2 ^ 64`. Those after
  that only move the decimal point: a whole digit raises the exponent, a digit of
  the fraction is left out.
* The value of the digits, rounded, is multiplied or divided by a power of ten,
  which rounds again (`CodeReview.Decimal.Binary64`).
-/

namespace CodeReview.Json

/-- A number. -/
inductive Number
  /-- An integer between `-2 ^ 63` and `2 ^ 64 - 1`. -/
  | integer (value : Int)
  /-- A binary64 number. -/
  | double (negative : Bool) (magnitude : Binary64)
deriving DecidableEq, Repr

/-! ### Literals -/

/-- The parts of a number literal. -/
structure Numeral where
  negative : Bool
  whole : List Char
  /-- The digits after the point. -/
  fraction : Option (List Char)
  /-- The sign of the exponent, `true` for minus, and its digits. -/
  exponent : Option (Bool × List Char)
deriving DecidableEq, Repr

namespace Numeral

/-- Appends digits to a value while it stays below `2 ^ 64`, and gives the digits
that are left. -/
def gather (value : Nat) : List Char → Nat × List Char
  | [] => (value, [])
  | digit :: digits =>
    let next := value * 10 + (digit.toNat - 48)
    if next < powerOfTwo 64 then gather next digits else (value, digit :: digits)

/-- An exponent literal beyond this is not computed. -/
def greatestExponent : Nat := powerOfTwo 31 - 1

/-- The magnitude of `digits * 10 ^ power`, if it is not beyond all numbers. -/
def magnitude? (digits : Nat) (power : Int) : Option Binary64 := do
  let value ← Binary64.ofNat? digits
  if power < 0 then some (value.overTenTo (-power).toNat)
  else value.timesTenTo? power.toNat

/-- The magnitude of a literal whose digits have the given value and which moves the
point by `power` places, with the exponent that it writes. -/
def withExponent? (digits : Nat) (power : Int) : Option (Bool × List Char) → Option Binary64
  | none => magnitude? digits power
  | some (minus, exponent) =>
    let places := Text.digitsValue exponent
    if greatestExponent < places then
      if digits = 0 ∨ minus then some Binary64.zero else none
    else
      magnitude? digits (if minus then power - places else power + places)

/-- An integer literal: its digits have the given value. -/
def integer (negative : Bool) (digits : Nat) : Option Number :=
  if !negative then some (.integer digits)
  else if 0 < digits ∧ digits ≤ powerOfTwo 63 then some (.integer (-digits))
  else (Binary64.ofNat? digits).map (.double true)

/-- The number that a literal stands for; none if it is beyond all numbers. -/
def value? (literal : Numeral) : Option Number :=
  let (digits, surplus) := gather 0 literal.whole
  match literal.fraction with
  | none =>
    if surplus = [] ∧ literal.exponent = none then integer literal.negative digits
    else (withExponent? digits surplus.length literal.exponent).map (.double literal.negative)
  | some fraction =>
    let (digits, unread) := gather digits fraction
    let power : Int := surplus.length - ((fraction.length : Int) - unread.length)
    (withExponent? digits power literal.exponent).map (.double literal.negative)

end Numeral

/-! ### Text -/

namespace Number

/-- Decimals with an exponent from this one on are written without it. -/
def leastPlainExponent : Int := -5

/-- Decimals with an exponent up to this one are written without it. -/
def greatestPlainExponent : Int := 15

/-- The digits of a positive integer without the zeros at its end. -/
def significantDigits (n : Nat) : List Char :=
  ((Nat.toDigits 10 n).reverse.dropWhile (· = '0')).reverse

/-- A decimal without an exponent, with at least one digit on each side of the
point. `exponent` is that of the first digit. -/
def plainText (digits : List Char) (exponent : Int) : List Char :=
  if exponent < 0 then
    "0.".toList ++ List.replicate ((-exponent).toNat - 1) '0' ++ digits
  else
    let places := exponent.toNat + 1
    if digits.length ≤ places then
      digits ++ List.replicate (places - digits.length) '0' ++ ".0".toList
    else
      digits.take places ++ '.' :: digits.drop places

/-- A decimal with an exponent: one digit, the others behind a point, and the signed
exponent. -/
def scientificText (digits : List Char) (exponent : Int) : List Char :=
  let fraction := digits.drop 1
  digits.take 1 ++ (if fraction = [] then [] else '.' :: fraction) ++ ['e'] ++
    (if exponent < 0 then ['-'] else ['+']) ++ Nat.toDigits 10 exponent.natAbs

/-- The text of a binary64 number without its sign. -/
def magnitudeText (x : Binary64) : List Char :=
  if x.mantissa = 0 then "0.0".toList
  else
    let decimal := x.shortest
    let exponent := decimal.power + (Nat.toDigits 10 decimal.digits).length - 1
    let digits := significantDigits decimal.digits
    if leastPlainExponent ≤ exponent ∧ exponent ≤ greatestPlainExponent then
      plainText digits exponent
    else
      scientificText digits exponent

/-- The text of a number. -/
def text : Number → String
  | integer value => toString value
  | double negative magnitude =>
    String.ofList ((if negative then ['-'] else []) ++ magnitudeText magnitude)

end Number

end CodeReview.Json
