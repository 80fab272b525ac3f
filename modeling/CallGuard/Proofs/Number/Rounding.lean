import Mathlib.Algebra.Order.Field.Rat
import Mathlib.Algebra.Ring.Parity
import Mathlib.Data.Int.Log
import Mathlib.Tactic.FieldSimp
import Mathlib.Tactic.Linarith
import Mathlib.Tactic.Positivity
import Mathlib.Tactic.Ring
import CallGuard.Number.Rounding

/-!
# Rounding to the nearest whole number

Rounding gives a whole number at most a half away, and an even one at a distance of exactly a half.
So no whole number is nearer, and an even one that is as near is the one that rounding gives.
-/

namespace CallGuard.Number

/-! ### Whole quotients -/

def sign (negative : Bool) : ℚ := if negative then -1 else 1

theorem exists_sign_mul_iff (negative : Bool) (x : ℚ) :
    (∃ n : ℤ, sign negative * x = n) ↔ ∃ n : ℤ, x = n := by
  cases negative with
  | false => simp only [sign, Bool.false_eq_true, if_false, one_mul]
  | true =>
      simp only [sign, if_true, neg_one_mul, neg_eq_iff_eq_neg]
      exact ⟨fun ⟨n, hn⟩ => ⟨-n, by rw [hn]; push_cast; rfl⟩,
        fun ⟨n, hn⟩ => ⟨-n, by rw [hn]; push_cast; rw [neg_neg]⟩⟩

theorem emod_eq_zero_iff {num : ℤ} {den : Nat} (hden : 0 < den) :
    num % den = 0 ↔ ∃ n : ℤ, (num : ℚ) / den = n := by
  have hpos : (den : ℚ) ≠ 0 := by exact_mod_cast hden.ne'
  rw [← Int.dvd_iff_emod_eq_zero]
  constructor
  · rintro ⟨n, rfl⟩
    refine ⟨n, ?_⟩
    push_cast
    rw [mul_div_cancel_left₀ _ hpos]
  · rintro ⟨n, hn⟩
    refine ⟨n, ?_⟩
    rw [div_eq_iff hpos, mul_comm] at hn
    exact_mod_cast hn

/-! ### Rounding -/

/-- A whole number is at most a half away from a quotient, and even if it is a half away. -/
structure RoundsTo (x : ℚ) (k : ℤ) : Prop where
  near : |(k : ℚ) - x| ≤ 1 / 2
  even : |(k : ℚ) - x| = 1 / 2 → Even k

namespace RoundsTo

variable {x : ℚ} {k : ℤ}

theorem one_le_add (x : ℚ) {other : ℤ} (hne : other ≠ k) :
    1 ≤ |(other : ℚ) - x| + |(k : ℚ) - x| := by
  have hapart : (1 : ℚ) ≤ |(other : ℚ) - k| := by
    exact_mod_cast Int.one_le_abs (sub_ne_zero.mpr hne)
  calc (1 : ℚ) ≤ |(other : ℚ) - k| := hapart
    _ ≤ |(other : ℚ) - x| + |x - k| := abs_sub_le _ _ _
    _ = |(other : ℚ) - x| + |(k : ℚ) - x| := by rw [abs_sub_comm x]

theorem nearest (h : RoundsTo x k) (other : ℤ) : |(k : ℚ) - x| ≤ |(other : ℚ) - x| := by
  by_cases hne : other = k
  · rw [hne]
  · have hapart := one_le_add x hne
    linarith [h.near]

/-- Of two whole numbers that are a half away, rounding gives the even one. -/
theorem eq_of_even (h : RoundsTo x k) {other : ℤ} (hother : Even other)
    (hnear : |(other : ℚ) - x| ≤ 1 / 2) : other = k := by
  by_contra hne
  have hapart := one_le_add x hne
  have hhalf : |(k : ℚ) - x| = 1 / 2 := by linarith [h.near]
  have hcloser : |(other : ℚ) - k| ≤ 1 := by
    have htriangle := abs_sub_le (other : ℚ) x k
    rw [abs_sub_comm x] at htriangle
    linarith [h.near]
  have hstep : |other - k| ≤ 1 := by exact_mod_cast hcloser
  obtain ⟨hlow, hhigh⟩ := abs_le.mp hstep
  obtain ⟨a, rfl⟩ := hother
  obtain ⟨b, rfl⟩ := h.even hhalf
  omega

theorem le_of_lt (h : RoundsTo x k) {bound : ℤ} (hx : x < bound) : k ≤ bound := by
  by_contra hlt
  have hcast : (bound : ℚ) + 1 ≤ k := by exact_mod_cast not_le.mp hlt
  have hfar := le_abs_self ((k : ℚ) - x)
  linarith [h.near]

theorem le_of_le (h : RoundsTo x k) {bound : ℤ} (hx : (bound : ℚ) ≤ x) : bound ≤ k := by
  by_contra hlt
  have hcast : (k : ℚ) + 1 ≤ bound := by exact_mod_cast not_le.mp hlt
  have hfar := neg_le_abs ((k : ℚ) - x)
  linarith [h.near]

theorem of_lt_half {quotient : ℤ} {rest : ℚ} (hrest : 0 ≤ rest) (h : rest < 1 / 2) :
    RoundsTo (quotient + rest) quotient := by
  have hdistance : |(quotient : ℚ) - (quotient + rest)| = rest := by
    rw [sub_add_cancel_left, abs_neg, abs_of_nonneg hrest]
  exact ⟨by linarith, fun htie => by linarith⟩

theorem of_half_lt {quotient : ℤ} {rest : ℚ} (hrest : rest < 1) (h : 1 / 2 < rest) :
    RoundsTo (quotient + rest) (quotient + 1) := by
  have hdistance : |((quotient + 1 : ℤ) : ℚ) - (quotient + rest)| = 1 - rest := by
    push_cast
    rw [add_sub_add_left_eq_sub, abs_of_nonneg (by linarith)]
  exact ⟨by linarith, fun htie => by linarith⟩

theorem of_half (quotient : ℤ) : RoundsTo (quotient + 1 / 2) (quotient + quotient % 2) := by
  rcases Int.emod_two_eq_zero_or_one quotient with hparity | hparity
  · have hdistance : |(quotient : ℚ) - (quotient + 1 / 2)| = 1 / 2 := by
      rw [sub_add_cancel_left, abs_neg, abs_of_pos one_half_pos]
    rw [hparity, add_zero]
    exact ⟨hdistance.le, fun _ => Int.even_iff.mpr hparity⟩
  · have hdistance : |((quotient + 1 : ℤ) : ℚ) - (quotient + 1 / 2)| = 1 / 2 := by
      push_cast
      rw [add_sub_add_left_eq_sub, sub_self_div_two, abs_of_pos one_half_pos]
    rw [hparity]
    exact ⟨hdistance.le, fun _ => (Int.odd_iff.mpr hparity).add_one⟩

end RoundsTo

theorem roundsTo_roundDiv (num : Nat) {den : Nat} (hden : 0 < den) :
    RoundsTo ((num : ℚ) / den) (roundDiv num den) := by
  have hpos : (0 : ℚ) < den := by exact_mod_cast hden
  have hsplit : (num : ℚ) / den = ((num / den : ℕ) : ℤ) + (num % den : ℕ) / den := by
    have hcast : (num : ℚ) = den * (num / den : ℕ) + (num % den : ℕ) := by
      exact_mod_cast (Nat.div_add_mod num den).symm
    rw [div_eq_iff hpos.ne', add_mul, div_mul_cancel₀ _ hpos.ne', mul_comm, Int.cast_natCast]
    exact hcast
  have hbelow : ((num % den : ℕ) : ℚ) / den < 1 := by
    rw [div_lt_one hpos]
    exact_mod_cast Nat.mod_lt num hden
  have hhalf : (1 : ℚ) / 2 < (num % den : ℕ) / den ↔ den < 2 * (num % den) := by
    rw [div_lt_div_iff₀ two_pos hpos, one_mul, mul_comm]
    exact_mod_cast Iff.rfl
  have htie : ((num % den : ℕ) : ℚ) / den = 1 / 2 ↔ 2 * (num % den) = den := by
    rw [div_eq_div_iff hpos.ne' two_ne_zero, one_mul, mul_comm]
    exact_mod_cast Iff.rfl
  rw [hsplit, roundDiv]
  generalize num / den = quotient
  by_cases hup : den < 2 * (num % den)
  · rw [if_pos hup]
    exact RoundsTo.of_half_lt hbelow (hhalf.mpr hup)
  · rw [if_neg hup]
    by_cases heven : 2 * (num % den) = den
    · rw [if_pos heven, htie.mpr heven]
      exact RoundsTo.of_half quotient
    · rw [if_neg heven]
      refine RoundsTo.of_lt_half (by positivity) (lt_of_le_of_ne ?_ (mt htie.mp heven))
      exact not_lt.mp (mt hhalf.mp hup)

end CallGuard.Number
