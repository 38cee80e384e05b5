/-!
# CodeReview.Decimal.Binary64

Finite numbers of the binary64 format, without their sign, in exact arithmetic: a
number is a mantissa times a power of two. All operations round the exact result to
the nearest such number, ties to an even mantissa, which is what the format
prescribes.

The mantissa stays below `2 ^ 53` and the exponent lies between `-1074` and `971`;
below `2 ^ 52` the mantissa only goes at the least exponent.
-/

namespace CodeReview

/-- A power of two. -/
def powerOfTwo (power : Nat) : Nat := Nat.pow 2 power

/-- A power of ten. -/
def powerOfTen (power : Nat) : Nat := Nat.pow 10 power

/-- The number `mantissa * 2 ^ exponent`. -/
structure Binary64 where
  mantissa : Nat
  exponent : Int
deriving DecidableEq, Repr, Inhabited

namespace Binary64

/-- The least exponent. -/
def leastExponent : Int := -1074

/-- The greatest exponent. -/
def greatestExponent : Int := 971

/-- The number zero. -/
def zero : Binary64 := ⟨0, leastExponent⟩

/-- The numerator of the number as a fraction. -/
def num (x : Binary64) : Nat := x.mantissa * powerOfTwo x.exponent.toNat

/-- The denominator of the number as a fraction. -/
def den (x : Binary64) : Nat := powerOfTwo (-x.exponent).toNat

/-! ### Rounding -/

/-- The quotient rounded to the nearest integer, ties to the even one. -/
def nearest (num den : Nat) : Nat :=
  let quotient := num / den
  let rest := num % den
  if 2 * rest < den then quotient
  else if den < 2 * rest then quotient + 1
  else quotient + quotient % 2

/-- The ratio lies below `2 ^ power`. -/
def below (num den : Nat) (power : Int) : Bool :=
  num * powerOfTwo (-power).toNat < den * powerOfTwo power.toNat

/-- The exponent of the number that a positive ratio rounds to, unless rounding
carries: the one that gives the mantissa 53 bits, but no less than the least. -/
def exponentOf (num den : Nat) : Int :=
  let guess : Int := (num.log2 : Int) - den.log2
  let power := if below num den guess then guess - 1 else guess
  max (power - 52) leastExponent

/-- The number nearest to a ratio, if the ratio is not beyond them all. -/
def ofRatio? (num den : Nat) : Option Binary64 :=
  if num = 0 then some zero
  else
    let exponent := exponentOf num den
    let mantissa :=
      nearest (num * powerOfTwo (-exponent).toNat) (den * powerOfTwo exponent.toNat)
    let rounded : Binary64 :=
      if mantissa = powerOfTwo 53 then ⟨powerOfTwo 52, exponent + 1⟩ else ⟨mantissa, exponent⟩
    if greatestExponent < rounded.exponent then none else some rounded

/-- The number nearest to an integer, if it is not beyond them all. -/
def ofNat? (n : Nat) : Option Binary64 := ofRatio? n 1

/-! ### Powers of ten

A power of ten is itself rounded before a number is multiplied or divided by it, so
a number moved by a power of ten is rounded twice. -/

/-- The greatest power of ten among the numbers. -/
def greatestPower : Nat := 308

/-- The number nearest to a power of ten. -/
def tenTo (power : Nat) : Binary64 := (ofNat? (powerOfTen power)).getD zero

/-- The product of two numbers, if it is not beyond them all. -/
def mul? (x y : Binary64) : Option Binary64 := ofRatio? (x.num * y.num) (x.den * y.den)

/-- The quotient of two numbers, of which the second is at least one. -/
def div (x y : Binary64) : Binary64 := (ofRatio? (x.num * y.den) (x.den * y.num)).getD zero

/-- The number times a power of ten, if that is not beyond all numbers. -/
def timesTenTo? (x : Binary64) (power : Nat) : Option Binary64 :=
  if power ≤ greatestPower then x.mul? (tenTo power)
  else if x.mantissa = 0 then some x
  else none

/-- The number divided by a power of ten, by the greatest one as often as needed. -/
def overTenTo (x : Binary64) (power : Nat) : Binary64 :=
  if power ≤ greatestPower then x.div (tenTo power)
  else if x.mantissa = 0 then x
  else overTenTo (x.div (tenTo greatestPower)) (power - greatestPower)
termination_by power
decreasing_by
  simp only [greatestPower] at *
  omega

end Binary64

end CodeReview
