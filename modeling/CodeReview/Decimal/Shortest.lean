import CodeReview.Decimal.Binary64

/-!
# CodeReview.Decimal.Shortest

The shortest decimal that reads back as a given binary64 number.

The reals that round to a number form an interval around it, with its ends when the
mantissa is even. Among the decimals in that interval the one with the fewest digits
is taken; of several, the nearest to the number, and of two equally near, the even
one. The search goes through the grids of one to seventeen digits: when a grid meets
the interval, it does so at one of the two neighbours of the number.
-/

namespace CodeReview

/-- A decimal: `digits * 10 ^ power`. -/
structure Decimal where
  digits : Nat
  power : Int
deriving DecidableEq, Repr

namespace Binary64

/-- The number of decimal digits of a positive integer. -/
def digitCount (n : Nat) : Nat := (Nat.toDigits 10 n).length

/-- The decimal exponent of a positive number: the greatest power of ten that is not
beyond it. -/
def decimalExponent (x : Binary64) : Int :=
  if x.den ≤ x.num then (digitCount (x.num / x.den) : Int) - 1
  else -(digitCount ((x.den - 1) / x.num) : Int)

/-- A grid of decimals beside a number, all measured in one unit: the number is
`value`, the interval that rounds to it runs from `least` to `greatest`, and the
decimals are the multiples of `step`. -/
structure Grid where
  step : Nat
  value : Nat
  least : Nat
  greatest : Nat
  /-- The interval holds its ends. -/
  closed : Bool

/-- The grid of the multiples of `10 ^ power` beside a number. Next below a power of
two the numbers lie twice as close, so the interval reaches half as far down. -/
def grid (x : Binary64) (power : Int) : Grid :=
  let unit := powerOfTwo (x.exponent - 2).toNat * powerOfTen (-power).toNat
  let down := if x.mantissa = powerOfTwo 52 ∧ leastExponent < x.exponent then 1 else 2
  { step := powerOfTen power.toNat * powerOfTwo (2 - x.exponent).toNat
    value := 4 * x.mantissa * unit
    least := (4 * x.mantissa - down) * unit
    greatest := (4 * x.mantissa + 2) * unit
    closed := x.mantissa % 2 == 0 }

/-- The multiple of the step lies in the interval. -/
def Grid.holds (g : Grid) (multiple : Nat) : Bool :=
  let point := multiple * g.step
  if g.closed then g.least ≤ point && point ≤ g.greatest
  else g.least < point && point < g.greatest

/-- The decimal of the grid that is nearest to the number, if one lies in the
interval. -/
def Grid.nearest? (g : Grid) : Option Nat :=
  let floor := g.value / g.step
  let below := g.value - floor * g.step
  let above := (floor + 1) * g.step - g.value
  let lower := 0 < floor && g.holds floor
  let upper := g.holds (floor + 1)
  if lower && upper then
    if below < above then some floor
    else if above < below then some (floor + 1)
    else some (floor + floor % 2)
  else if lower then some floor
  else if upper then some (floor + 1)
  else none

/-- The shortest decimal that reads back as a positive number. -/
def shortest (x : Binary64) : Decimal :=
  let top := x.decimalExponent
  let found := (List.range 17).findSome? fun (fewer : Nat) =>
    ((x.grid (top - fewer)).nearest?).map fun digits => (⟨digits, top - fewer⟩ : Decimal)
  found.getD ⟨0, 0⟩

end Binary64

end CodeReview
