import Mathlib.Algebra.Order.Ring.Nat

namespace DyunGu
namespace Saturation

/-!
# Saturating arithmetic under a cap

A saturating operation gives the largest number of its type where the exact
result is larger.  Under a cap that is such a number itself nothing of this is
left: the capped result is that of exact arithmetic.
-/

variable {most cap : Nat}

def satAdd (most first second : Nat) : Nat := min (first + second) most

def satMul (most first second : Nat) : Nat := min (first * second) most

def satPow (most base exponent : Nat) : Nat := min (base ^ exponent) most

theorem min_saturated (fits : cap <= most) (value : Nat) :
    min (min value most) cap = min value cap := by
  rw [Nat.min_assoc, Nat.min_eq_right fits]

/-- A factor that has saturated makes the product saturate, unless the other
factor is zero. -/
theorem min_satMul (fits : cap <= most) (first second : Nat) :
    min (satMul most first (min second most)) cap = min (first * second) cap := by
  rw [satMul, min_saturated fits]
  by_cases exact_ : second <= most
  · rw [Nat.min_eq_left exact_]
  · have large : most <= second := Nat.le_of_not_le exact_
    rw [Nat.min_eq_right large]
    cases first with
    | zero => rw [Nat.zero_mul, Nat.zero_mul]
    | succ first =>
        have capped : cap <= (first + 1) * most :=
          fits.trans (Nat.le_mul_of_pos_left most (Nat.succ_pos first))
        rw [Nat.min_eq_right capped, Nat.min_eq_right]
        exact capped.trans (Nat.mul_le_mul_left (first + 1) large)

/-- Cutting the exponent off changes nothing once the power of two saturates. -/
theorem satPow_min {limit : Nat} (positive : 0 < limit) (wide : most <= 2 ^ limit)
    (base exponent : Nat) : satPow most base (min exponent limit) = satPow most base exponent := by
  by_cases exact_ : exponent <= limit
  · rw [Nat.min_eq_left exact_]
  have large : limit <= exponent := Nat.le_of_not_le exact_
  rw [Nat.min_eq_right large, satPow, satPow]
  match base with
  | 0 => rw [Nat.zero_pow positive, Nat.zero_pow (positive.trans_le large)]
  | 1 => rw [Nat.one_pow, Nat.one_pow]
  | base + 2 =>
      have saturated : most <= (base + 2) ^ limit :=
        wide.trans (Nat.pow_le_pow_left (Nat.le_add_left 2 base) limit)
      rw [Nat.min_eq_right saturated, Nat.min_eq_right]
      exact saturated.trans (Nat.pow_le_pow_right (Nat.succ_pos _) large)

/-- A saturating product with a saturating power, under a cap. -/
theorem min_satMul_satPow (fits : cap <= most) {limit : Nat} (positive : 0 < limit)
    (wide : most <= 2 ^ limit) (factor base exponent : Nat) :
    min (satMul most factor (satPow most base (min exponent limit))) cap =
      min (factor * base ^ exponent) cap := by
  rw [satPow_min positive wide]
  exact min_satMul fits factor (base ^ exponent)

end Saturation
end DyunGu
