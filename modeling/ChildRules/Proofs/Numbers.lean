import Mathlib.Algebra.Order.Ring.Nat
import ChildRules.Number.Binary64

/-!
# What numbers stand for

Equality of numbers looks at their bits. A number that is one stands for a whole number of units,
the unit being the smallest number above zero; an infinity stands for the first power of two that is
out of reach. Two numbers are equal exactly if they stand for the same: only a zero has two ways to
be written, with a sign and without.
-/

namespace ChildRules

namespace Binary64

/-- How many units the number has, its sign aside. -/
def magnitude (x : Binary64) : Nat :=
  x.significand * 2 ^ (x.power + 1074).toNat

/-- The number in units, of which each is two to the power of minus 1074. -/
def units (x : Binary64) : Int :=
  if x.isNegative then -x.magnitude else x.magnitude

/-! ## Fields -/

theorem exponentField_eq (x : Binary64) : x.exponentField = x.bits.toNat / 2 ^ 52 % 2 ^ 11 := by
  rw [exponentField, UInt64.toNat_and, UInt64.toNat_shiftRight, Nat.shiftRight_eq_div_pow]
  exact Nat.and_two_pow_sub_one_eq_mod _ 11

theorem fraction_eq (x : Binary64) : x.fraction = x.bits.toNat % 2 ^ 52 := by
  rw [fraction, UInt64.toNat_and]
  exact Nat.and_two_pow_sub_one_eq_mod _ 52

theorem fraction_lt (x : Binary64) : x.fraction < 2 ^ 52 := by
  rw [fraction_eq]
  exact Nat.mod_lt _ (by decide)

theorem isNegative_eq (x : Binary64) : x.isNegative = decide (x.bits.toNat / 2 ^ 63 = 1) := by
  rw [isNegative, Bool.eq_iff_iff, beq_iff_eq, decide_eq_true_iff, ← UInt64.toNat_inj,
    UInt64.toNat_shiftRight, Nat.shiftRight_eq_div_pow]
  rfl

/-- The fields make up the number. -/
theorem eq_of_fields {x y : Binary64} (hsign : x.isNegative = y.isNegative)
    (hexponent : x.exponentField = y.exponentField) (hfraction : x.fraction = y.fraction) :
    x = y := by
  rw [isNegative_eq, isNegative_eq, decide_eq_decide] at hsign
  rw [exponentField_eq, exponentField_eq] at hexponent
  rw [fraction_eq, fraction_eq] at hfraction
  have hx := x.bits.toNat_lt
  have hy := y.bits.toNat_lt
  have hbits : x.bits = y.bits := by
    rw [← UInt64.toNat_inj]
    omega
  cases x
  cases y
  exact congrArg mk hbits

/-! ## Magnitudes -/

theorem magnitude_of_subnormal {x : Binary64} (h : x.exponentField = 0) :
    x.magnitude = x.fraction := by
  rw [magnitude, significand, power, if_pos h, if_pos h]
  exact Nat.mul_one _

theorem magnitude_of_normal {x : Binary64} (h : x.exponentField ≠ 0) :
    x.magnitude = (2 ^ 52 + x.fraction) * 2 ^ (x.exponentField - 1) := by
  have hpower : (x.power + 1074).toNat = x.exponentField - 1 := by
    rw [power, if_neg h]
    omega
  rw [magnitude, significand, hpower, if_neg h]
  rfl

theorem magnitude_lt (x : Binary64) : x.magnitude < 2 ^ (52 + x.exponentField) := by
  have hfraction := x.fraction_lt
  by_cases h : x.exponentField = 0
  · rw [magnitude_of_subnormal h, h]
    exact hfraction
  · have hexponent : 52 + x.exponentField = 53 + (x.exponentField - 1) := by omega
    rw [magnitude_of_normal h, hexponent, Nat.pow_add]
    exact Nat.mul_lt_mul_of_pos_right (by omega) (Nat.two_pow_pos _)

theorem le_magnitude {x : Binary64} (h : x.exponentField ≠ 0) :
    2 ^ (51 + x.exponentField) ≤ x.magnitude := by
  have hexponent : 51 + x.exponentField = 52 + (x.exponentField - 1) := by omega
  rw [magnitude_of_normal h, hexponent, Nat.pow_add]
  exact Nat.mul_le_mul_right _ (Nat.le_add_right ..)

/-- A larger exponent makes a larger number, whatever the fractions are. -/
theorem exponentField_le {x y : Binary64} (h : x.magnitude = y.magnitude) :
    x.exponentField ≤ y.exponentField := by
  refine Nat.le_of_not_lt fun hlt => ?_
  -- The largest number of the smaller exponent is below the smallest of the larger.
  have hpow : 2 ^ (52 + y.exponentField) ≤ 2 ^ (51 + x.exponentField) :=
    Nat.pow_le_pow_right (by decide) (by omega)
  have hx := le_magnitude (x := x) (by omega)
  have hy := y.magnitude_lt
  omega

theorem fields_of_magnitude {x y : Binary64} (h : x.magnitude = y.magnitude) :
    x.exponentField = y.exponentField ∧ x.fraction = y.fraction := by
  have hexponent := Nat.le_antisymm (exponentField_le h) (exponentField_le h.symm)
  refine ⟨hexponent, ?_⟩
  by_cases hzero : x.exponentField = 0
  · rwa [magnitude_of_subnormal hzero, magnitude_of_subnormal (hexponent ▸ hzero)] at h
  · rw [magnitude_of_normal hzero, magnitude_of_normal (hexponent ▸ hzero), hexponent] at h
    exact Nat.add_left_cancel (Nat.eq_of_mul_eq_mul_right (Nat.two_pow_pos _) h)

theorem magnitude_eq_zero_iff {x : Binary64} : x.magnitude = 0 ↔ x.isZero = true := by
  rw [isZero, Bool.and_eq_true_iff, decide_eq_true_iff, decide_eq_true_iff]
  constructor
  · intro h
    by_cases hzero : x.exponentField = 0
    · exact ⟨hzero, magnitude_of_subnormal hzero ▸ h⟩
    · have hle := le_magnitude hzero
      have hpos := Nat.two_pow_pos (51 + x.exponentField)
      omega
  · rintro ⟨hexponent, hfraction⟩
    rw [magnitude_of_subnormal hexponent, hfraction]

/-! ## Equality -/

theorem natAbs_units (x : Binary64) : x.units.natAbs = x.magnitude := by
  unfold units
  split <;> omega

/-- Different bits stand for the same only where they are those of the two zeros. -/
theorem units_eq_iff {x y : Binary64} :
    x.units = y.units ↔ x = y ∨ x.isZero = true ∧ y.isZero = true := by
  rw [← magnitude_eq_zero_iff, ← magnitude_eq_zero_iff]
  constructor
  · intro h
    have hmagnitude : x.magnitude = y.magnitude := by rw [← natAbs_units, h, natAbs_units]
    by_cases hsign : x.isNegative = y.isNegative
    · obtain ⟨hexponent, hfraction⟩ := fields_of_magnitude hmagnitude
      exact Or.inl (eq_of_fields hsign hexponent hfraction)
    · -- Opposite signs of one magnitude: it can only be zero.
      right
      unfold units at h
      cases hx : x.isNegative with
      | false =>
        have hy : y.isNegative = true := by simpa [hx] using hsign
        rw [hx, hy, if_neg Bool.false_ne_true, if_pos rfl] at h
        omega
      | true =>
        have hy : y.isNegative = false := by simpa [hx] using hsign
        rw [hx, hy, if_pos rfl, if_neg Bool.false_ne_true] at h
        omega
  · rintro (rfl | ⟨hx, hy⟩)
    · rfl
    · rw [units, units, hx, hy]
      simp

/-- **Numbers are equal exactly if both are numbers and stand for the same.** -/
theorem equal_iff_units {x y : Binary64} : x.equal y = true ↔
    x.isNaN = false ∧ y.isNaN = false ∧ x.units = y.units := by
  rw [units_eq_iff]
  obtain ⟨bits⟩ := x
  obtain ⟨bits'⟩ := y
  simp [equal, and_assoc]

/-- The two zeros, and one and the number after it. -/
example : (Binary64.mk 0x8000000000000000).equal ⟨0⟩ = true ∧
    (Binary64.mk 0x3FF0000000000000).equal ⟨0x3FF0000000000001⟩ = false :=
  ⟨rfl, rfl⟩

end Binary64

end ChildRules
