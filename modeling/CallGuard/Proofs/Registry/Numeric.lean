import CallGuard.Proofs.Number.Binary64
import CallGuard.Proofs.Number.Decimal
import CallGuard.Registry.Builtin

/-!
# Numbers and whole numbers among the values

Whole numbers, floating-point numbers and decimal numbers count as numbers, and as whole numbers, by
their exact value. A quotient is judged by the floating-point number nearest to it. It counts as no
number if it is too large for one, and as a whole number if the nearest one is whole.
-/

namespace CallGuard

open CallGuard.Number CallGuard.Number.Binary64

namespace Value

/-- The numbers among the values, of whatever type. A truth value is none. -/
def IsNumeric : Value → Prop
  | .int _ | .float _ | .decimal _ => True
  | .fraction _ den => 0 < den
  | _ => False

/-- The exact value of a finite number. -/
def exactValue? : Value → Option ℚ
  | .int n => some n
  | .float x => x.value?
  | .decimal d => d.value?
  | .fraction num den => some (num / den)
  | _ => none

/-- A number is found to be one, and to be whole, by its exact value. -/
structure IsJudgedExactly (v : Value) : Prop where
  number : BuiltinType.isNumber v = true ↔ v.exactValue?.isSome = true
  integer : BuiltinType.isInteger v = true ↔ ∃ n : ℤ, v.exactValue? = some (n : ℚ)

/-- The nearest floating-point number of a quotient exists, and is whole only if the quotient is. -/
def SurvivesRounding : Value → Prop
  | .fraction num den =>
    |(num : ℚ) / den| < limit ∧ (NearWhole (num / den) → ∃ n : ℤ, (num : ℚ) / den = n)
  | _ => True

end Value

namespace BuiltinType

section Fraction

variable {num : ℤ} {den : Nat}

theorem natAbs_div (num : ℤ) (den : Nat) : (num.natAbs : ℚ) / den = |(num : ℚ) / den| := by
  rw [abs_div, Nat.abs_cast, Nat.cast_natAbs, Int.cast_abs]

theorem isNumber_fraction (hden : 0 < den) :
    isNumber (.fraction num den) = true ↔ |(num : ℚ) / den| < limit := by
  rw [isNumber, fitsBinary64, isFinite_ofRatio_iff _ _ hden, natAbs_div]

theorem isInteger_fraction (hden : 0 < den) :
    isInteger (.fraction num den) = true ↔
      |(num : ℚ) / den| < limit ∧ NearWhole (num / den) := by
  rw [isInteger, isWhole_ofRatio_iff _ _ hden, natAbs_div, nearWhole_abs]

end Fraction

theorem isJudgedExactly_fraction_iff {num : ℤ} {den : Nat} (hden : 0 < den) :
    (Value.fraction num den).IsJudgedExactly ↔ (Value.fraction num den).SurvivesRounding := by
  constructor
  · rintro ⟨hnumber, hinteger⟩
    have hlimit := (isNumber_fraction hden).mp (hnumber.mpr rfl)
    refine ⟨hlimit, fun hnear => ?_⟩
    obtain ⟨n, hn⟩ := hinteger.mp ((isInteger_fraction hden).mpr ⟨hlimit, hnear⟩)
    exact ⟨n, Option.some.inj hn⟩
  · rintro ⟨hlimit, hwhole⟩
    refine ⟨iff_of_true ((isNumber_fraction hden).mpr hlimit) rfl, ?_⟩
    rw [isInteger_fraction hden]
    constructor
    · rintro ⟨-, hnear⟩
      obtain ⟨n, hn⟩ := hwhole hnear
      exact ⟨n, congrArg some hn⟩
    · rintro ⟨n, hn⟩
      rw [Option.some.inj hn]
      exact ⟨Option.some.inj hn ▸ hlimit, nearWhole_intCast n⟩

theorem isJudgedExactly_iff {v : Value} (hv : v.IsNumeric) :
    v.IsJudgedExactly ↔ v.SurvivesRounding := by
  cases v with
  | int n => exact iff_of_true ⟨iff_of_true rfl rfl, iff_of_true rfl ⟨n, rfl⟩⟩ trivial
  | float x => exact iff_of_true ⟨x.isFinite_iff, x.isWhole_iff⟩ trivial
  | decimal d => exact iff_of_true ⟨d.isFinite_iff, d.isWhole_iff⟩ trivial
  | fraction num den => exact isJudgedExactly_fraction_iff hv
  | _ => exact hv.elim

/--
Numbers are judged by their exact value, of whatever type they are, but for quotients that do not
survive rounding. Those are judged by the nearest floating-point number: one that is too large is no
number, and one that is as near to a whole number as to any floating-point number counts as whole.
So two numbers that survive and have the same exact value are judged alike.
-/
theorem numbers_judged_by_value (v w : Value) (hv : v.IsNumeric) (hw : w.IsNumeric) :
    (v.IsJudgedExactly ↔ v.SurvivesRounding) ∧
    (∀ num den, v = .fraction num den →
      (isNumber v = true ↔ |(num : ℚ) / den| < limit) ∧
      (isInteger v = true ↔ |(num : ℚ) / den| < limit ∧ NearWhole (num / den))) ∧
    (v.SurvivesRounding → w.SurvivesRounding → v.exactValue? = w.exactValue? →
      isNumber v = isNumber w ∧ isInteger v = isInteger w) := by
  refine ⟨isJudgedExactly_iff hv, ?_, fun hvSurvives hwSurvives hexact => ?_⟩
  · rintro num den rfl
    exact ⟨isNumber_fraction hv, isInteger_fraction hv⟩
  · have hvExact := (isJudgedExactly_iff hv).mpr hvSurvives
    have hwExact := (isJudgedExactly_iff hw).mpr hwSurvives
    have hnumber : isNumber v = true ↔ isNumber w = true := by
      rw [hvExact.number, hwExact.number, hexact]
    have hinteger : isInteger v = true ↔ isInteger w = true := by
      rw [hvExact.integer, hwExact.integer, hexact]
    exact ⟨Bool.eq_iff_iff.mpr hnumber, Bool.eq_iff_iff.mpr hinteger⟩

/-- Three written as a quotient is judged like three written with a point. -/
theorem three_judged_alike :
    isNumber (.fraction 6 2) = isNumber (.decimal (.finite false 30 (-1))) ∧
      isInteger (.fraction 6 2) = isInteger (.decimal (.finite false 30 (-1))) := by
  have hpositive : (Value.fraction 6 2).IsNumeric := Nat.two_pos
  have hlimit : |((6 : ℤ) : ℚ) / (2 : ℕ)| < limit := by
    have hpower : (1 : ℚ) ≤ 2 ^ maxExponent := one_le_zpow₀ one_le_two (by decide)
    rw [limit_eq]
    norm_num
    linarith
  have hthree : ∃ n : ℤ, ((6 : ℤ) : ℚ) / (2 : ℕ) = n := ⟨3, by norm_num⟩
  have hdecimal : (Value.decimal (.finite false 30 (-1))).IsNumeric := trivial
  refine (numbers_judged_by_value _ _ hpositive hdecimal).2.2 ⟨hlimit, fun _ => hthree⟩ trivial ?_
  norm_num [Value.exactValue?, Decimal.value?, sign]

/-- A whole number that is too large counts as no number, and a half far out counts as whole. -/
theorem quotients_misjudged :
    isNumber (.fraction (10 ^ 400) 1) = false ∧
      (Value.fraction (10 ^ 400) 1).exactValue? = some ((10 ^ 400 : ℤ) : ℚ) ∧
      isInteger (.fraction 9007199254740993 2) = true ∧
      ¬ ∃ n : ℤ, (Value.fraction 9007199254740993 2).exactValue? = some (n : ℚ) := by
  refine ⟨by decide +kernel, ?_, by decide +kernel, ?_⟩
  · rw [Value.exactValue?, Nat.cast_one, div_one]
  · rintro ⟨n, hn⟩
    have hhalf : ((9007199254740993 : ℤ) : ℚ) / (2 : ℕ) = n := Option.some.inj hn
    rw [div_eq_iff (by norm_num)] at hhalf
    have hodd : (9007199254740993 : ℤ) = n * 2 := by exact_mod_cast hhalf
    omega

end BuiltinType

end CallGuard
