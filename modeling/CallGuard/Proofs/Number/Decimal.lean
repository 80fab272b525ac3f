import Mathlib.Algebra.Order.Field.Power
import CallGuard.Number.Decimal
import CallGuard.Proofs.Number.Rounding

/-!
# Decimal numbers and the quotients that they stand for

A finite decimal number is a whole number times a power of ten. It is whole just when the power
below the point divides the coefficient, and a power with as many zeros as the coefficient has
digits divides no coefficient but zero.
-/

namespace CallGuard.Number

theorem lt_pow_digitCount (n : Nat) : n < 10 ^ digitCount n := by
  rw [digitCount, decimalDigits_eq_toDigits]
  exact (Nat.length_toDigits_le_iff (by decide) Nat.length_toDigits_pos).mp le_rfl

namespace Decimal

/-- The exact value of a finite number. -/
def value? : Decimal → Option ℚ
  | .finite negative coefficient exponent => some (sign negative * (coefficient * 10 ^ exponent))
  | _ => none

theorem isFinite_iff (d : Decimal) : d.isFinite = true ↔ d.value?.isSome = true := by
  cases d <;> simp [isFinite, value?]

/-- A coefficient with places below the point is whole just when these are all zero. -/
theorem exists_eq_iff_mod_eq_zero (coefficient places : Nat) :
    (∃ n : ℤ, (coefficient : ℚ) * 10 ^ (-places : ℤ) = n) ↔ coefficient % 10 ^ places = 0 := by
  have hpower : 0 < 10 ^ places := by positivity
  have hratio : (coefficient : ℚ) * 10 ^ (-places : ℤ) =
      ((coefficient : ℤ) : ℚ) / ((10 ^ places : ℕ) : ℚ) := by
    rw [zpow_neg, zpow_natCast, ← div_eq_mul_inv]
    push_cast
    rfl
  rw [hratio, ← emod_eq_zero_iff hpower]
  exact_mod_cast Iff.rfl

theorem isWhole_iff (d : Decimal) : d.isWhole = true ↔ ∃ n : ℤ, d.value? = some (n : ℚ) := by
  cases d with
  | finite negative coefficient exponent =>
      simp only [value?, Option.some.injEq, exists_sign_mul_iff]
      rw [isWhole]
      by_cases hsign : exponent ≥ 0
      · obtain ⟨k, rfl⟩ := Int.eq_ofNat_of_zero_le hsign
        rw [if_pos hsign]
        exact iff_of_true rfl ⟨coefficient * 10 ^ k, by push_cast; rw [zpow_natCast]⟩
      obtain ⟨places, hplaces⟩ := Int.eq_ofNat_of_zero_le (by omega : 0 ≤ -exponent)
      obtain rfl : exponent = -places := by omega
      rw [if_neg hsign, neg_neg, Int.toNat_natCast, exists_eq_iff_mod_eq_zero, Nat.pow_eq]
      by_cases hzero : coefficient = 0
      · rw [if_pos hzero, hzero, Nat.zero_mod]
        exact iff_of_true rfl rfl
      rw [if_neg hzero]
      by_cases hshort : places ≥ digitCount coefficient
      · have hlt : coefficient < 10 ^ places :=
          (lt_pow_digitCount coefficient).trans_le (Nat.pow_le_pow_right (by decide) hshort)
        rw [if_pos hshort, Nat.mod_eq_of_lt hlt]
        exact iff_of_false Bool.false_ne_true hzero
      · rw [if_neg hshort, beq_iff_eq]
  | _ => simp [isWhole, value?]

end Decimal

end CallGuard.Number
