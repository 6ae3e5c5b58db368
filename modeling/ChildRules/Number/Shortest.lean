import ChildRules.Number.Binary64

/-!
# The shortest decimal that reads back

A binary64 number stands for every real that rounds to it, an interval around its value. Among the
decimals inside that interval the shortest has the fewest digits, and of those it is the nearest to
the value. All of it is exact arithmetic on natural numbers: value and ends of the interval are
counted in one common unit, a power of ten, and the search tries coarser grids before finer ones.
The two neighbours of the value on a grid suffice, for if any point of the grid lies in the
interval, so does one of them.
-/

namespace ChildRules

/-- A decimal number: a count of units, each a power of ten. -/
structure Decimal where
  digits : Nat
  exponent : Int
  deriving DecidableEq, Inhabited

/-- The reals that round to one number, in units of `10 ^ exponent`. -/
structure Rounding where
  low : Nat
  value : Nat
  high : Nat
  /-- Whether the two ends round to the number too. -/
  closed : Bool
  exponent : Int

namespace Rounding

/-- The interval of a finite number other than zero. Four units of the number's last place fit
the ends, which lie half a place above and half, or at a power of two a quarter, below. Where the
place is a fraction, a power of five turns it into a power of ten. A tie rounds to the even
significand, which therefore owns its ends. -/
def ofNumber (x : Binary64) : Rounding :=
  let quarter := x.power - 2
  let scale := if quarter < 0 then Nat.pow 5 quarter.natAbs else Nat.pow 2 quarter.natAbs
  let m := x.significand
  { low := (4 * m - if x.isNarrowBelow then 1 else 2) * scale
    value := 4 * m * scale
    high := (4 * m + 2) * scale
    closed := m % 2 = 0
    exponent := min quarter 0 }

/-- Whether a count of units rounds to the number. -/
def contains (r : Rounding) (n : Nat) : Bool :=
  if r.closed then r.low ≤ n && n ≤ r.high else r.low < n && n < r.high

/-- The multiple of `step` that rounds to the number and is nearest to it, counted in steps. Of
two that are equally near it is the one further from zero. -/
def nearest? (r : Rounding) (step : Nat) : Option Nat :=
  let below := r.value / step
  let above := below + 1
  match r.contains (below * step), r.contains (above * step) with
  | true, true =>
    some (if r.value - below * step < above * step - r.value then below else above)
  | true, false => some below
  | false, true => some above
  | false, false => none

/-- The first hit on the grids of step `10 ^ places`, `10 ^ (places - 1)`, and so on. -/
def search (r : Rounding) : Nat → Decimal
  | 0 => ⟨r.value, r.exponent⟩
  | places + 1 =>
    match r.nearest? (10 ^ (places + 1)) with
    | some n => ⟨n, r.exponent + (places + 1 : Nat)⟩
    | none => r.search places

/-- The shortest decimal in the interval. A step of as many digits as the value is the coarsest
grid that can hold one. -/
def shortest (r : Rounding) : Decimal :=
  r.search (Nat.toDigits 10 r.value).length

end Rounding

/-- The shortest decimal that reads back as a finite number's magnitude. -/
def Binary64.shortest (x : Binary64) : Decimal :=
  if x.isZero then ⟨0, 0⟩ else (Rounding.ofNumber x).shortest

end ChildRules
