/-!
# Binary64 numbers

A number is kept as its sixty-four bits, so two numbers that print alike but differ in a bit stay
apart, and no operation of the machine's own floats is needed to read one. The fields decode a
finite number into a significand and a power of two; `equal` is the comparison of the standard, in
which a number that is not a number differs from everything and the two zeros agree.
-/

namespace ChildRules

/-- A binary64 number, as its bits: the sign, eleven bits of exponent, fifty-two of fraction. -/
structure Binary64 where
  bits : UInt64
  deriving DecidableEq, Inhabited

namespace Binary64

/-- Whether the sign bit is set, also for a zero or for what is not a number. -/
def isNegative (x : Binary64) : Bool :=
  x.bits >>> 63 == 1

/-- The eleven bits of exponent as they are stored. -/
def exponentField (x : Binary64) : Nat :=
  (x.bits >>> 52 &&& 0x7FF).toNat

/-- The fifty-two bits of fraction as they are stored. -/
def fraction (x : Binary64) : Nat :=
  (x.bits &&& 0xFFFFFFFFFFFFF).toNat

/-- A full exponent field with a fraction is not a number. -/
def isNaN (x : Binary64) : Bool :=
  x.exponentField = 2047 && x.fraction ≠ 0

/-- A full exponent field without a fraction is an infinity. -/
def isInfinite (x : Binary64) : Bool :=
  x.exponentField = 2047 && x.fraction = 0

/-- Both zeros have all bits but the sign clear. -/
def isZero (x : Binary64) : Bool :=
  x.exponentField = 0 && x.fraction = 0

/-- The significand of a finite number: its fraction, below a leading one unless subnormal. -/
def significand (x : Binary64) : Nat :=
  if x.exponentField = 0 then x.fraction else 0x10000000000000 + x.fraction

/-- The power of two that the significand of a finite number counts. -/
def power (x : Binary64) : Int :=
  if x.exponentField = 0 then -1074 else x.exponentField - 1075

/-- The gap to the next smaller number is half as wide as the gap above at a power of two. -/
def isNarrowBelow (x : Binary64) : Bool :=
  x.fraction = 0 && x.exponentField > 1

/-- Equality of numbers: none equals what is not a number, and the two zeros are equal. -/
def equal (x y : Binary64) : Bool :=
  !x.isNaN && !y.isNaN && (x.bits == y.bits || x.isZero && y.isZero)

theorem equal_self (x : Binary64) : x.equal x = !x.isNaN := by
  simp [equal]

theorem equal_comm (x y : Binary64) : x.equal y = y.equal x := by
  simp [equal, Bool.and_comm, BEq.comm]

end Binary64

end ChildRules
