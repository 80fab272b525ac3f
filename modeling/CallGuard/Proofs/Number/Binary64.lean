import Mathlib.Algebra.Order.Field.Power
import Mathlib.Data.Rat.Floor
import CallGuard.Number.Binary64
import CallGuard.Proofs.Number.Rounding

/-!
# Floating-point numbers and the quotients that they stand for

A finite floating-point number is a whole number of at most 53 bits times a power of two. Rounding a
quotient gives the nearest of these, or an infinity if the quotient is too large. Between two that
are equally near the choice falls on an even multiple, so that a whole number is never missed if it
is as near as any.
-/

namespace CallGuard.Number.Binary64

/-! ### Values -/

/-- The exact value of a finite number. -/
def value? : Binary64 → Option ℚ
  | .finite negative mantissa exponent =>
    some (sign negative * (mantissa * 2 ^ exponent))
  | _ => none

theorem isFinite_iff (x : Binary64) : x.isFinite = true ↔ x.value?.isSome = true := by
  cases x <;> simp [isFinite, value?]

theorem value?_of_ratio? {x : Binary64} {num : ℤ} {den : Nat} (h : x.ratio? = some (num, den)) :
    0 < den ∧ x.value? = some ((num : ℚ) / den) := by
  cases x with
  | finite negative mantissa exponent =>
      have hsize : (mantissa : ℚ) * 2 ^ exponent =
          ((mantissa * Nat.pow 2 exponent.toNat : ℕ) : ℚ) / (Nat.pow 2 (-exponent).toNat : ℕ) := by
        rcases le_total 0 exponent with hsign | hsign
        · obtain ⟨k, rfl⟩ := Int.eq_ofNat_of_zero_le hsign
          rw [Int.toNat_natCast, Int.toNat_of_nonpos (by omega), zpow_natCast, Nat.pow_eq,
            Nat.pow_eq]
          push_cast
          rw [div_one]
        · obtain ⟨k, hk⟩ := Int.eq_ofNat_of_zero_le (by omega : 0 ≤ -exponent)
          obtain rfl : exponent = -k := by omega
          rw [neg_neg, Int.toNat_natCast, Int.toNat_of_nonpos hsign, Nat.pow_eq, Nat.pow_eq,
            zpow_neg, zpow_natCast]
          push_cast
          rw [mul_one, div_eq_mul_inv]
      cases h
      refine ⟨Nat.pow_pos two_pos, ?_⟩
      rw [value?, hsize]
      cases negative <;> simp [sign, neg_div]
  | _ => cases h

theorem isWhole_iff (x : Binary64) : x.isWhole = true ↔ ∃ n : ℤ, x.value? = some (n : ℚ) := by
  rw [isWhole]
  cases hratio : x.ratio? with
  | none =>
      cases x with
      | finite => cases hratio
      | _ => simp [value?]
  | some ratio =>
      obtain ⟨num, den⟩ := ratio
      obtain ⟨hden, hvalue⟩ := value?_of_ratio? hratio
      simp only [hvalue, beq_iff_eq, Option.some.injEq]
      exact emod_eq_zero_iff hden

/-- The quotients that floating-point numbers stand for. -/
def Represents (q : ℚ) : Prop :=
  ∃ mantissa exponent : ℤ, |mantissa| < 2 ^ 53 ∧ minExponent ≤ exponent ∧
    exponent ≤ maxExponent ∧ q = mantissa * 2 ^ exponent

/-- Some whole number is as near to a quotient as any floating-point number is. -/
def NearWhole (q : ℚ) : Prop :=
  ∃ n : ℤ, ∀ z, Represents z → |(n : ℚ) - q| ≤ |z - q|

/--
A represented quotient is as near to another one as any, and it is a whole number if some whole
number is as near.
-/
structure IsNearest (q y : ℚ) : Prop where
  represents : Represents y
  le : ∀ z, Represents z → |y - q| ≤ |z - q|
  whole : ∀ n : ℤ, |(n : ℚ) - q| ≤ |y - q| → ∃ k : ℤ, y = k

theorem Represents.neg {q : ℚ} (h : Represents q) : Represents (-q) := by
  obtain ⟨mantissa, exponent, hmantissa, hleast, hmost, rfl⟩ := h
  exact ⟨-mantissa, exponent, by rwa [abs_neg], hleast, hmost, by push_cast; ring⟩

theorem nearWhole_intCast (n : ℤ) : NearWhole n :=
  ⟨n, fun z _ => by rw [sub_self, abs_zero]; exact abs_nonneg _⟩

theorem NearWhole.neg {q : ℚ} (h : NearWhole q) : NearWhole (-q) := by
  obtain ⟨n, hn⟩ := h
  refine ⟨-n, fun z hz => ?_⟩
  have hle := hn (-z) hz.neg
  rw [← abs_neg] at hle
  rw [← abs_neg (z - -q)]
  convert hle using 2 <;> push_cast <;> ring

theorem nearWhole_abs (q : ℚ) : NearWhole |q| ↔ NearWhole q := by
  rcases abs_choice q with h | h
  · rw [h]
  · rw [h]
    exact ⟨fun hneg => neg_neg q ▸ hneg.neg, NearWhole.neg⟩

/-- Where quotients begin to be too large: half way from the largest number to the next power. -/
def limit : ℚ := 2 ^ 1024 - 2 ^ 970

theorem limit_eq : limit = (2 ^ 53 - 1 / 2) * 2 ^ maxExponent := by
  have hpower : (2 : ℚ) ^ 1024 = 2 ^ 53 * 2 ^ 971 := by rw [← pow_add]
  have hhalf : (2 : ℚ) ^ 971 = 2 ^ 970 * 2 := pow_succ 2 970
  have hmax : (2 : ℚ) ^ maxExponent = 2 ^ 971 := zpow_natCast 2 971
  rw [limit, hmax, hpower, hhalf]
  generalize (2 : ℚ) ^ 970 = gap
  ring

/-! ### The exponent of a quotient -/

section Quotient

variable {num den : Nat}

theorem snd_scaleDown_pos (hden : 0 < den) (exponent : Int) :
    0 < (scaleDown num den exponent).2 := by
  rw [scaleDown]
  split
  · exact Nat.mul_pos hden (Nat.pow_pos two_pos)
  · exact hden

theorem scaleDown_ratio (hden : 0 < den) (exponent : Int) :
    ((scaleDown num den exponent).1 : ℚ) / (scaleDown num den exponent).2 =
      num / den / 2 ^ exponent := by
  have hpos : (den : ℚ) ≠ 0 := by exact_mod_cast hden.ne'
  rw [scaleDown]
  by_cases hsign : exponent ≥ 0
  · obtain ⟨k, rfl⟩ := Int.eq_ofNat_of_zero_le hsign
    rw [if_pos hsign, Int.toNat_natCast, zpow_natCast, Nat.pow_eq]
    push_cast
    rw [div_div]
  · obtain ⟨k, hk⟩ := Int.eq_ofNat_of_zero_le (by omega : 0 ≤ -exponent)
    obtain rfl : exponent = -k := by omega
    rw [if_neg hsign, neg_neg, Int.toNat_natCast, Nat.pow_eq, zpow_neg, zpow_natCast]
    push_cast
    rw [div_inv_eq_mul, div_mul_eq_mul_div]

theorem log_eq_of_le_of_lt {x : ℚ} {k : ℤ} (hlow : 2 ^ k ≤ x) (hhigh : x < 2 ^ (k + 1)) :
    Int.log 2 x = k := by
  have hx : 0 < x := lt_of_lt_of_le (by positivity) hlow
  have hle : k ≤ Int.log 2 x :=
    (Int.zpow_le_iff_le_log Nat.one_lt_two hx).mp (by exact_mod_cast hlow)
  have hlt : Int.log 2 x < k + 1 :=
    (Int.lt_zpow_iff_log_lt Nat.one_lt_two hx).mp (by exact_mod_cast hhigh)
  omega

/-- A quotient lies between the powers that the lengths of its parts give. -/
theorem log2_bounds (hnum : 0 < num) (hden : 0 < den) :
    (2 : ℚ) ^ ((num.log2 : ℤ) - den.log2 - 1) < num / den ∧
      (num : ℚ) / den < 2 ^ ((num.log2 : ℤ) - den.log2 + 1) := by
  have hpos : (0 : ℚ) < den := by exact_mod_cast hden
  have hnumLow : (2 : ℚ) ^ num.log2 ≤ num := by exact_mod_cast Nat.log2_self_le hnum.ne'
  have hnumHigh : (num : ℚ) < 2 ^ (num.log2 + 1) := by exact_mod_cast Nat.lt_log2_self
  have hdenLow : (2 : ℚ) ^ den.log2 ≤ den := by exact_mod_cast Nat.log2_self_le hden.ne'
  have hdenHigh : (den : ℚ) < 2 ^ (den.log2 + 1) := by exact_mod_cast Nat.lt_log2_self
  constructor
  · rw [lt_div_iff₀ hpos]
    calc (2 : ℚ) ^ ((num.log2 : ℤ) - den.log2 - 1) * den
        < 2 ^ ((num.log2 : ℤ) - den.log2 - 1) * 2 ^ (den.log2 + 1) := by gcongr
      _ = 2 ^ num.log2 := by
        rw [← zpow_natCast, ← zpow_natCast, ← zpow_add₀ two_ne_zero]
        congr 1
        push_cast
        ring
      _ ≤ num := hnumLow
  · rw [div_lt_iff₀ hpos]
    calc (num : ℚ) < 2 ^ (num.log2 + 1) := hnumHigh
      _ = 2 ^ ((num.log2 : ℤ) - den.log2 + 1) * 2 ^ den.log2 := by
        rw [← zpow_natCast, ← zpow_natCast, ← zpow_add₀ two_ne_zero]
        congr 1
        push_cast
        ring
      _ ≤ 2 ^ ((num.log2 : ℤ) - den.log2 + 1) * den := by gcongr

/-- The exponent of a quotient leaves 53 bits for the mantissa, where it can. -/
theorem exponentFor_eq (hnum : 0 < num) (hden : 0 < den) :
    exponentFor num den = max minExponent (Int.log 2 ((num : ℚ) / den) - 52) := by
  obtain ⟨hlow, hhigh⟩ := log2_bounds hnum hden
  set guess : Int := (num.log2 : Int) - (den.log2 : Int) - 52 with hguess
  have hbelow : (scaleDown num den guess).1 < (scaleDown num den guess).2 * Nat.pow 2 52 ↔
      (num : ℚ) / den < 2 ^ ((num.log2 : ℤ) - den.log2) := by
    have hpos : (0 : ℚ) < (scaleDown num den guess).2 := by
      exact_mod_cast snd_scaleDown_pos hden guess
    have hpower : (0 : ℚ) < 2 ^ guess := by positivity
    have hsplit : (num.log2 : ℤ) - den.log2 = (52 : ℕ) + guess := by omega
    rw [hsplit, zpow_add₀ two_ne_zero, ← div_lt_iff₀ hpower, ← scaleDown_ratio hden,
      div_lt_iff₀ hpos, zpow_natCast, mul_comm]
    exact_mod_cast Iff.rfl
  have hexponent : exponentFor num den = max minExponent
      (if (scaleDown num den guess).1 < (scaleDown num den guess).2 * Nat.pow 2 52 then guess - 1
        else guess) := rfl
  rw [hexponent]
  congr 1
  by_cases h : (num : ℚ) / den < 2 ^ ((num.log2 : ℤ) - den.log2)
  · rw [if_pos (hbelow.mpr h), log_eq_of_le_of_lt hlow.le (by rwa [sub_add_cancel])]
    omega
  · rw [if_neg (mt hbelow.mp h), log_eq_of_le_of_lt (not_lt.mp h) hhigh]

end Quotient

/-! ### The mantissa of a quotient -/

section Mantissa

variable {p : ℚ} {exponent mantissa : ℤ}

theorem scaled_lt (hexponent : exponent = max minExponent (Int.log 2 p - 52)) :
    p / 2 ^ exponent < ((2 ^ 53 : ℤ) : ℚ) := by
  have hlt : p < 2 ^ (Int.log 2 p + 1) := by
    exact_mod_cast Int.lt_zpow_succ_log_self Nat.one_lt_two p
  have hle : Int.log 2 p + 1 ≤ exponent + 53 := by omega
  rw [div_lt_iff₀ (by positivity)]
  calc p < 2 ^ (Int.log 2 p + 1) := hlt
    _ ≤ 2 ^ (exponent + 53) := zpow_le_zpow_right₀ one_le_two hle
    _ = ((2 ^ 53 : ℤ) : ℚ) * 2 ^ exponent := by
      rw [zpow_add₀ two_ne_zero, mul_comm]
      norm_num

theorem le_scaled (hp : 0 < p) (hexponent : exponent = max minExponent (Int.log 2 p - 52))
    (hleast : minExponent < exponent) : ((2 ^ 52 : ℤ) : ℚ) ≤ p / 2 ^ exponent := by
  have hle : (2 : ℚ) ^ Int.log 2 p ≤ p := by
    exact_mod_cast Int.zpow_log_le_self Nat.one_lt_two hp
  have hlog : Int.log 2 p = exponent + 52 := by omega
  rw [le_div_iff₀ (by positivity)]
  calc ((2 ^ 52 : ℤ) : ℚ) * 2 ^ exponent = 2 ^ (exponent + 52) := by
        rw [zpow_add₀ two_ne_zero, mul_comm]
        norm_num
    _ ≤ p := by rwa [← hlog]

/-- A rounded quotient has a place among the numbers just when the quotient is below the limit. -/
theorem lt_limit_iff (hp : 0 < p) (hexponent : exponent = max minExponent (Int.log 2 p - 52))
    (hrounds : RoundsTo (p / 2 ^ exponent) mantissa) :
    p < limit ↔ exponent ≤ maxExponent ∧ (mantissa = 2 ^ 53 → exponent < maxExponent) := by
  have hpower : (0 : ℚ) < 2 ^ exponent := by positivity
  have hlast : (0 : ℚ) < 2 ^ maxExponent := by positivity
  have hlt := scaled_lt hexponent
  rw [limit_eq]
  rcases lt_trichotomy exponent maxExponent with hsmall | rfl | hlarge
  · refine iff_of_true ?_ ⟨hsmall.le, fun _ => hsmall⟩
    have hdouble : (2 : ℚ) ^ exponent * 2 ≤ 2 ^ maxExponent := by
      rw [← zpow_add_one₀ two_ne_zero]
      exact zpow_le_zpow_right₀ one_le_two hsmall
    rw [div_lt_iff₀ hpower] at hlt
    push_cast at hlt
    linarith
  · rw [← div_lt_iff₀ hpower]
    constructor
    · refine fun hbelow => ⟨le_rfl, fun hfull => ?_⟩
      have hnear := le_trans (le_abs_self _) hrounds.near
      rw [hfull] at hnear
      push_cast at hnear
      linarith
    · rintro ⟨-, hfull⟩
      by_contra hbelow
      have hnear : |((2 ^ 53 : ℤ) : ℚ) - p / 2 ^ maxExponent| ≤ 1 / 2 := by
        rw [abs_of_pos (sub_pos.mpr hlt)]
        push_cast
        linarith
      exact lt_irrefl _ (hfull (hrounds.eq_of_even (by decide) hnear).symm)
  · refine iff_of_false (not_lt.mpr ?_) fun h => absurd hlarge h.1.not_gt
    have hle := le_scaled hp hexponent (lt_trans (by decide) hlarge)
    have hdouble : (2 : ℚ) ^ maxExponent * 2 ≤ 2 ^ exponent := by
      rw [← zpow_add_one₀ two_ne_zero]
      exact zpow_le_zpow_right₀ one_le_two hlarge
    rw [le_div_iff₀ hpower] at hle
    push_cast at hle
    linarith

theorem le_pow_of_roundsTo (hexponent : exponent = max minExponent (Int.log 2 p - 52))
    (hrounds : RoundsTo (p / 2 ^ exponent) mantissa) : mantissa ≤ 2 ^ 53 :=
  hrounds.le_of_lt (scaled_lt hexponent)

theorem nonneg_of_roundsTo (hp : 0 < p) (hrounds : RoundsTo (p / 2 ^ exponent) mantissa) :
    0 ≤ mantissa :=
  hrounds.le_of_le (by push_cast; positivity)

theorem represents_of_roundsTo (hp : 0 < p)
    (hexponent : exponent = max minExponent (Int.log 2 p - 52))
    (hrounds : RoundsTo (p / 2 ^ exponent) mantissa) (hlimit : p < limit) :
    Represents (mantissa * 2 ^ exponent) := by
  obtain ⟨hmax, hfull⟩ := (lt_limit_iff hp hexponent hrounds).mp hlimit
  have hleast : minExponent ≤ exponent := by omega
  have hnonneg := nonneg_of_roundsTo hp hrounds
  rcases (le_pow_of_roundsTo hexponent hrounds).lt_or_eq with hlt | heq
  · exact ⟨mantissa, exponent, by rwa [abs_of_nonneg hnonneg], hleast, hmax, rfl⟩
  · refine ⟨2 ^ 52, exponent + 1, by norm_num, by omega, hfull heq, ?_⟩
    rw [heq, zpow_add_one₀ two_ne_zero]
    push_cast
    ring

theorem abs_mul_zpow_sub (k p : ℚ) (exponent : ℤ) :
    |k * 2 ^ exponent - p| = |k - p / 2 ^ exponent| * 2 ^ exponent := by
  have hpower : (0 : ℚ) < 2 ^ exponent := by positivity
  rw [← abs_of_pos hpower, ← abs_mul, abs_of_pos hpower, sub_mul, div_mul_cancel₀ _ hpower.ne']

/-- No represented quotient is nearer than the one that rounding the scaled quotient gives. -/
theorem abs_sub_le_of_roundsTo (hp : 0 < p)
    (hexponent : exponent = max minExponent (Int.log 2 p - 52))
    (hrounds : RoundsTo (p / 2 ^ exponent) mantissa) {z : ℚ} (hz : Represents z) :
    |mantissa * 2 ^ exponent - p| ≤ |z - p| := by
  have hpower : (0 : ℚ) < 2 ^ exponent := by positivity
  have hmultiple (k : ℤ) : |mantissa * 2 ^ exponent - p| ≤ |k * 2 ^ exponent - p| := by
    rw [abs_mul_zpow_sub, abs_mul_zpow_sub]
    exact mul_le_mul_of_nonneg_right (hrounds.nearest k) hpower.le
  obtain ⟨other, finer, hother, hleast, -, rfl⟩ := hz
  rcases le_or_gt exponent finer with hcoarse | hfine
  · obtain ⟨k, hk⟩ := Int.eq_ofNat_of_zero_le (sub_nonneg.mpr hcoarse)
    have hsame : (other : ℚ) * 2 ^ finer = ((other * 2 ^ k : ℤ) : ℚ) * 2 ^ exponent := by
      rw [show finer = k + exponent by omega, zpow_add₀ two_ne_zero, zpow_natCast]
      push_cast
      ring
    rw [hsame]
    exact hmultiple _
  · have hle := le_scaled hp hexponent (lt_of_le_of_lt hleast hfine)
    rw [le_div_iff₀ hpower] at hle
    have hcast : |(other : ℚ)| < 2 ^ 53 := by exact_mod_cast hother
    have hdouble : (2 : ℚ) ^ finer * 2 ≤ 2 ^ exponent := by
      rw [← zpow_add_one₀ two_ne_zero]
      exact zpow_le_zpow_right₀ one_le_two hfine
    have hbelow : (other : ℚ) * 2 ^ finer ≤ ((2 ^ 52 : ℤ) : ℚ) * 2 ^ exponent := by
      have hbound := mul_le_mul_of_nonneg_right (lt_of_abs_lt hcast).le
        (by positivity : (0 : ℚ) ≤ 2 ^ finer)
      push_cast
      linarith
    calc |mantissa * 2 ^ exponent - p| ≤ |((2 ^ 52 : ℤ) : ℚ) * 2 ^ exponent - p| := hmultiple _
      _ = p - ((2 ^ 52 : ℤ) : ℚ) * 2 ^ exponent := by
        rw [abs_sub_comm, abs_of_nonneg (sub_nonneg.mpr hle)]
      _ ≤ p - other * 2 ^ finer := by linarith
      _ ≤ |other * 2 ^ finer - p| := by
        rw [abs_sub_comm]
        exact le_abs_self _

/-- If a whole number is as near as the rounded quotient, that one is whole. -/
theorem exists_eq_of_roundsTo (hrounds : RoundsTo (p / 2 ^ exponent) mantissa) {n : ℤ}
    (hn : |(n : ℚ) - p| ≤ |mantissa * 2 ^ exponent - p|) :
    ∃ k : ℤ, (mantissa : ℚ) * 2 ^ exponent = k := by
  rcases le_or_gt 0 exponent with hsign | hsign
  · obtain ⟨k, rfl⟩ := Int.eq_ofNat_of_zero_le hsign
    exact ⟨mantissa * 2 ^ k, by push_cast; rw [zpow_natCast]⟩
  · obtain ⟨k, hk⟩ := Int.eq_ofNat_of_zero_le (by omega : 0 ≤ -exponent)
    obtain rfl : exponent = -k := by omega
    have hpower : (0 : ℚ) < 2 ^ (-k : ℤ) := by positivity
    have hscaled : (n : ℚ) = ((n * 2 ^ k : ℤ) : ℚ) * 2 ^ (-k : ℤ) := by
      push_cast
      rw [zpow_neg, zpow_natCast, mul_assoc, mul_inv_cancel₀ (by positivity), mul_one]
    have heven : Even (n * 2 ^ k) := (even_two.pow_of_ne_zero (by omega)).mul_left n
    rw [hscaled, abs_mul_zpow_sub, abs_mul_zpow_sub] at hn
    have hnear := (le_of_mul_le_mul_right hn hpower).trans hrounds.near
    exact ⟨n, by rw [hscaled, hrounds.eq_of_even heven hnear]⟩

theorem isNearest_of_roundsTo (hp : 0 < p)
    (hexponent : exponent = max minExponent (Int.log 2 p - 52))
    (hrounds : RoundsTo (p / 2 ^ exponent) mantissa) (hlimit : p < limit) :
    IsNearest p (mantissa * 2 ^ exponent) :=
  ⟨represents_of_roundsTo hp hexponent hrounds hlimit,
    fun _ hz => abs_sub_le_of_roundsTo hp hexponent hrounds hz,
    fun _ hn => exists_eq_of_roundsTo hrounds hn⟩

end Mantissa

/-! ### Rounding a quotient -/

theorem isNearest_zero : IsNearest 0 0 where
  represents := ⟨0, 0, by norm_num, by decide, by decide, by norm_num⟩
  le z _ := by simp
  whole _ _ := ⟨0, by norm_num⟩

theorem value?_assemble (negative : Bool) {mantissa : Nat} {exponent : Int}
    (hzero : mantissa = 0 → exponent ≤ maxExponent) :
    (assemble negative mantissa exponent).value? =
      if exponent ≤ maxExponent ∧ (mantissa = 2 ^ 53 → exponent < maxExponent) then
        some (sign negative * ((mantissa : ℚ) * 2 ^ exponent))
      else none := by
  rw [assemble, Nat.pow_eq, Nat.pow_eq]
  by_cases hnone : mantissa = 0
  · subst hnone
    rw [if_pos rfl, if_pos ⟨hzero rfl, fun h => absurd h (by decide)⟩]
    simp [zero, value?]
  rw [if_neg hnone]
  by_cases hfull : mantissa = 2 ^ 53
  · rw [if_pos hfull]
    by_cases hmax : exponent + 1 > maxExponent
    · rw [if_pos hmax, if_neg (fun h => absurd (h.2 hfull) (by omega))]
      rfl
    · rw [if_neg hmax, if_pos ⟨by omega, fun _ => by omega⟩, value?, hfull,
        zpow_add_one₀ two_ne_zero]
      push_cast
      congr 1
      ring
  · rw [if_neg hfull]
    by_cases hmax : exponent > maxExponent
    · rw [if_pos hmax, if_neg (fun h => absurd h.1 (by omega))]
      rfl
    · rw [if_neg hmax, if_pos ⟨by omega, fun h => absurd h hfull⟩, value?]

section Rounded

variable {den : Nat}

theorem ofRatio_of_scaleDown (negative : Bool) {num den n d : Nat} (hnum : num ≠ 0)
    (hscaled : scaleDown num den (exponentFor num den) = (n, d)) :
    ofRatio negative num den = assemble negative (roundDiv n d) (exponentFor num den) := by
  rw [ofRatio, if_neg hnum]
  conv_lhs => zeta
  rw [hscaled]

/-- Rounding a quotient gives the nearest number, or none if the quotient is too large. -/
theorem value?_ofRatio (negative : Bool) (num : Nat) (hden : 0 < den) :
    (limit ≤ (num : ℚ) / den → (ofRatio negative num den).value? = none) ∧
      ((num : ℚ) / den < limit → ∃ y, IsNearest (num / den) y ∧
        (ofRatio negative num den).value? = some (sign negative * y)) := by
  by_cases hzero : num = 0
  · subst hzero
    rw [ofRatio, if_pos rfl, Nat.cast_zero, zero_div]
    refine ⟨fun hlimit => absurd hlimit (not_le.mpr ?_), fun _ => ⟨0, isNearest_zero, ?_⟩⟩
    · rw [limit_eq]
      positivity
    · simp [zero, value?]
  have hnum : 0 < num := Nat.pos_of_ne_zero hzero
  have hp : (0 : ℚ) < num / den := by positivity
  have hexponent := exponentFor_eq hnum hden
  rcases hscaled : scaleDown num den (exponentFor num den) with ⟨n, d⟩
  have hrounds : RoundsTo ((num : ℚ) / den / 2 ^ exponentFor num den) (roundDiv n d : ℕ) := by
    have hpositive : 0 < d := by
      have hsnd : (scaleDown num den (exponentFor num den)).2 = d := by rw [hscaled]
      exact hsnd ▸ snd_scaleDown_pos hden _
    rw [← scaleDown_ratio hden, hscaled]
    exact roundsTo_roundDiv n hpositive
  have hleast : roundDiv n d = 0 → exponentFor num den ≤ maxExponent := by
    intro hnone
    by_contra hlarge
    have hle := hrounds.le_of_le (le_scaled hp hexponent (lt_trans (by decide) (not_le.mp hlarge)))
    rw [hnone] at hle
    norm_num at hle
  have hfits : (num : ℚ) / den < limit ↔ exponentFor num den ≤ maxExponent ∧
      (roundDiv n d = 2 ^ 53 → exponentFor num den < maxExponent) := by
    rw [lt_limit_iff hp hexponent hrounds]
    exact_mod_cast Iff.rfl
  rw [ofRatio_of_scaleDown negative hzero hscaled, value?_assemble negative hleast]
  constructor
  · intro hlimit
    rw [if_neg (mt hfits.mpr (not_lt.mpr hlimit))]
  · intro hlimit
    refine ⟨_, isNearest_of_roundsTo hp hexponent hrounds hlimit, ?_⟩
    rw [if_pos (hfits.mp hlimit), Int.cast_natCast]

theorem isFinite_ofRatio_iff (negative : Bool) (num : Nat) (hden : 0 < den) :
    (ofRatio negative num den).isFinite = true ↔ (num : ℚ) / den < limit := by
  obtain ⟨hlarge, hsmall⟩ := value?_ofRatio negative num hden
  rw [isFinite_iff]
  rcases le_or_gt limit ((num : ℚ) / den) with hlimit | hlimit
  · rw [hlarge hlimit]
    exact iff_of_false Bool.false_ne_true (not_lt.mpr hlimit)
  · obtain ⟨y, -, hvalue⟩ := hsmall hlimit
    rw [hvalue]
    exact iff_of_true rfl hlimit

/-- A rounded quotient is whole just when some whole number is as near as any number. -/
theorem isWhole_ofRatio_iff (negative : Bool) (num : Nat) (hden : 0 < den) :
    (ofRatio negative num den).isWhole = true ↔
      (num : ℚ) / den < limit ∧ NearWhole (num / den) := by
  obtain ⟨hlarge, hsmall⟩ := value?_ofRatio negative num hden
  rw [isWhole_iff]
  rcases le_or_gt limit ((num : ℚ) / den) with hlimit | hlimit
  · rw [hlarge hlimit]
    exact iff_of_false (by simp) fun h => absurd h.1 (not_lt.mpr hlimit)
  · obtain ⟨y, hnearest, hvalue⟩ := hsmall hlimit
    simp only [hvalue, Option.some.injEq, hlimit, true_and]
    constructor
    · rintro ⟨n, hn⟩
      cases negative with
      | false => exact ⟨n, fun z hz => by simpa [sign, ← hn] using hnearest.le z hz⟩
      | true => exact ⟨-n, fun z hz => by simpa [sign, ← hn] using hnearest.le z hz⟩
    · rintro ⟨n, hn⟩
      exact (exists_sign_mul_iff negative y).mpr (hnearest.whole n (hn y hnearest.represents))

end Rounded

end CallGuard.Number.Binary64
