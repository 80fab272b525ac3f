import CallGuard.Text.Character

/-!
# Classes of characters

Letters and digits of ASCII by their places. Within ASCII the decimal digits are the ten usual ones,
and no blank is a digit of any script.
-/

namespace CallGuard.Text

variable {c : Char}

theorem isDigit_iff : c.isDigit = true ↔ 48 ≤ c.toNat ∧ c.toNat ≤ 57 := by
  simp only [Char.isDigit, Bool.and_eq_true, decide_eq_true_eq, ge_iff_le, UInt32.le_iff_toNat_le]
  exact Iff.rfl

theorem isUpper_iff : c.isUpper = true ↔ 65 ≤ c.toNat ∧ c.toNat ≤ 90 :=
  decide_eq_true_iff

theorem isLower_iff : c.isLower = true ↔ 97 ≤ c.toNat ∧ c.toNat ≤ 122 :=
  Bool.and_eq_true_iff.trans (and_congr decide_eq_true_iff decide_eq_true_iff)

theorem isDecimal_of_lt (hc : c.toNat < 128) : isDecimal c = c.isDigit := by
  rw [isDecimal, digitValue?]
  simp only [hc, if_true]
  cases c.isDigit <;> rfl

/-- Where the blanks beyond ASCII are. -/
def blankRanges : List (Nat × Nat) :=
  [(0x85, 0x85), (0xA0, 0xA0), (0x1680, 0x1680), (0x2000, 0x200A), (0x2028, 0x2029),
    (0x202F, 0x202F), (0x205F, 0x205F), (0x3000, 0x3000)]

theorem exists_blankRange (h : isBlank c = true) (hc : 128 ≤ c.toNat) :
    ∃ range ∈ blankRanges, range.1 ≤ c.toNat ∧ c.toNat ≤ range.2 := by
  simp only [isBlank, Bool.or_eq_true, Bool.and_eq_true, decide_eq_true_eq, beq_iff_eq] at h
  simp only [blankRanges, List.mem_cons, List.not_mem_nil, or_false, exists_eq_or_imp,
    exists_eq_left]
  omega

/-- No blank is a digit: within ASCII by their places, beyond it because no ranges overlap. -/
theorem isDecimal_of_isBlank (h : isBlank c = true) : isDecimal c = false := by
  by_cases hc : c.toNat < 128
  · rw [isDecimal_of_lt hc, Bool.eq_false_iff, ne_eq, isDigit_iff]
    simp only [isBlank, Bool.or_eq_true, Bool.and_eq_true, decide_eq_true_eq, beq_iff_eq] at h
    omega
  · obtain ⟨range, hrange, hlow, hhigh⟩ := exists_blankRange h (Nat.le_of_not_lt hc)
    have hapart : ∀ range ∈ blankRanges, ∀ first ∈ digitZeros,
        first + 9 < range.1 ∨ range.2 < first := by decide
    have hnone : digitZeros.find? (fun first => first ≤ c.toNat && c.toNat ≤ first + 9) = none := by
      rw [List.find?_eq_none]
      intro first hfirst
      have hcase := hapart range hrange first hfirst
      simp only [Bool.and_eq_true, decide_eq_true_eq]
      omega
    rw [isDecimal, digitValue?]
    simp only [hc, if_false, hnone]
    rfl

theorem isAlphanum_iff :
    c.isAlphanum = true ↔
      (65 ≤ c.toNat ∧ c.toNat ≤ 90 ∨ 97 ≤ c.toNat ∧ c.toNat ≤ 122) ∨
        48 ≤ c.toNat ∧ c.toNat ≤ 57 :=
  Bool.or_eq_true_iff.trans
    (or_congr (Bool.or_eq_true_iff.trans (or_congr isUpper_iff isLower_iff)) isDigit_iff)

theorem not_isBlank_of_isAlphanum (h : c.isAlphanum = true) : isBlank c = false := by
  rw [Bool.eq_false_iff]
  intro hblank
  simp only [isBlank, Bool.or_eq_true, Bool.and_eq_true, decide_eq_true_eq, beq_iff_eq] at hblank
  have hplace := isAlphanum_iff.mp h
  omega

/-- A digit has no other case. -/
theorem toLower_eq_self_of_isDecimal (h : isDecimal c = true) : c.toLower = c := by
  unfold Char.toLower
  split
  · rename_i hcapital
    simp only [ge_iff_le, UInt32.le_iff_toNat_le] at hcapital
    have hlow : 65 ≤ c.toNat := hcapital.1
    have hhigh : c.toNat ≤ 90 := hcapital.2
    rw [isDecimal_of_lt (by omega), isDigit_iff] at h
    omega
  · rfl

end CallGuard.Text
