import CallGuard.Proofs.Number.Numeral
import CallGuard.Registry.Builtin
import CallGuard.Value.Written

/-!
# Texts that stand for numbers

A text stands for a number if it is a scientific numeral between blanks whose size fits a
floating-point number, and for a whole number if it is a whole numeral between blanks. No other
character than digits, signs, a point and the mark of a power may occur between the blanks.
-/

namespace CallGuard

open CallGuard.Number CallGuard.Number.Binary64 CallGuard.Text

namespace Number

/-! ### Characters of no numeral -/

theorem not_isNumeralChar_of_isBlank {c : Char} (h : isBlank c = true) : ¬IsNumeralChar c := by
  rintro (hdecimal | hmem)
  · rw [isDecimal_of_isBlank h] at hdecimal
    cases hdecimal
  · simp only [List.mem_cons, List.not_mem_nil, or_false] at hmem
    rcases hmem with rfl | rfl | rfl | rfl | rfl <;> exact absurd h (by decide)

/-- The letter is none that marks a power, in either case. -/
theorem not_isNumeralChar_of_toLower {c : Char} (h : c.toLower = 'n') : ¬IsNumeralChar c := by
  rintro (hdecimal | hmem)
  · rw [toLower_eq_self_of_isDecimal hdecimal] at h
    subst h
    revert hdecimal
    decide
  · simp only [List.mem_cons, List.not_mem_nil, or_false] at hmem
    rcases hmem with rfl | rfl | rfl | rfl | rfl <;> exact absurd h (by decide)

/-! ### Texts between blanks -/

variable {cs : List Char}

theorem contains_underscore_iff : cs.contains '_' = true ↔ '_' ∈ trim cs := by
  rw [List.contains_iff_mem]
  exact ⟨fun h => mem_trim h (by decide), fun h => (trim_sublist cs).mem h⟩

theorem not_isNumeralChar_underscore : ¬IsNumeralChar '_' := by decide

theorem isWholeText_iff :
    isWholeText cs = true ↔ ∃ negative digits, IsWholeNumeral negative digits (trim cs) := by
  rw [isWholeText, Bool.and_eq_true, Bool.not_eq_true', Bool.eq_false_iff, ne_eq,
    contains_underscore_iff, Option.isSome_iff_exists]
  constructor
  · rintro ⟨hunderscore, n, hn⟩
    obtain ⟨negative, digits, h, -⟩ := (wholeNumeral?_eq_some_iff hunderscore).mp hn
    exact ⟨negative, digits, h⟩
  · rintro ⟨negative, digits, h⟩
    have hunderscore : '_' ∉ trim cs :=
      fun hmem => not_isNumeralChar_underscore (h.spells.isNumeralChar hmem)
    exact ⟨hunderscore, _, (wholeNumeral?_eq_some_iff hunderscore).mpr ⟨negative, digits, h, rfl⟩⟩

theorem isNumberText_iff :
    isNumberText cs = true ↔
      ∃ numeral : Numeral, numeral.Spells (trim cs) ∧ |numeral.value| < limit := by
  rw [isNumberText, Bool.and_eq_true, Bool.not_eq_true', Bool.eq_false_iff, ne_eq,
    contains_underscore_iff]
  constructor
  · rintro ⟨-, hnumeral⟩
    split at hnumeral
    · rename_i numeral hread
      rw [Numeral.toBinary64, isFinite_ofScientific_iff, ← Numeral.abs_value] at hnumeral
      exact ⟨numeral, scientificNumeral?_eq_some_iff.mp hread, hnumeral⟩
    · cases hnumeral
  · rintro ⟨numeral, hspells, hsize⟩
    refine ⟨fun hmem => not_isNumeralChar_underscore (hspells.isNumeralChar hmem), ?_⟩
    rw [scientificNumeral?_eq_some_iff.mpr hspells]
    simp only
    rw [Numeral.toBinary64, isFinite_ofScientific_iff, ← Numeral.abs_value]
    exact hsize

end Number

namespace BuiltinType

/-- A text that stands neither for a whole number nor for any other. -/
def IsNoNumber (s : String) : Prop :=
  isInteger (.text s) = false ∧ isNumber (.text s) = false

variable {s : String}

theorem isInteger_text :
    isInteger (.text s) = true ↔
      ∃ negative digits, IsWholeNumeral negative digits (trim s.toList) :=
  isWholeText_iff

theorem isNumber_text :
    isNumber (.text s) = true ↔
      ∃ numeral : Numeral, numeral.Spells (trim s.toList) ∧ |numeral.value| < limit :=
  isNumberText_iff

theorem isNoNumber_of_mem {c : Char} (hc : c ∈ trim s.toList) (hchar : ¬IsNumeralChar c) :
    IsNoNumber s := by
  constructor
  · rw [Bool.eq_false_iff, ne_eq, isInteger_text]
    rintro ⟨negative, digits, h⟩
    exact hchar (h.spells.isNumeralChar hc)
  · rw [Bool.eq_false_iff, ne_eq, isNumber_text]
    rintro ⟨numeral, h, -⟩
    exact hchar (h.isNumeralChar hc)

/-! ### The texts of whole numbers -/

/-- A text of digits and signs has no blanks to trim. -/
theorem isTrimmed_of_signed {negative : Bool} {digits cs : List Char}
    (htext : Signed negative digits cs) (hdigits : IsDigits digits) : IsTrimmed cs := by
  have hblank : ∀ c ∈ cs, isBlank c = false := by
    intro c hc
    rcases htext.mem hc with rfl | rfl | hc
    · decide
    · decide
    · exact hdigits.isBlank_eq_false hc
  exact ⟨fun c hc => hblank c (List.mem_of_head? hc),
    fun c hc => hblank c (List.mem_of_getLast? hc)⟩

variable [Platform]

theorem plain_int {n : ℤ} (hn : (Nat.toDigits 10 n.natAbs).length ≤ digitLimit) :
    (Value.int n).plain = .ok (toString n) := by
  rw [Nat.length_toDigits_le_iff (by decide) (by decide), ← Nat.pow_eq] at hn
  rw [Value.plain, Value.plainForm, Value.writtenForm, Value.intText, if_neg (not_le.mpr hn)]
  · exact fun s h => Value.noConfusion h
  · exact fun d h => Value.noConfusion h
  · exact fun num den h => Value.noConfusion h
  · exact fun entries h => Value.noConfusion h

/--
A text stands for a whole number exactly if it is a whole numeral between blanks, and for a number
exactly if it is a scientific numeral between blanks that denotes less than the limit in size. So
words, other number systems, blanks inside and underscores make a text stand for no number, and the
text of every whole number that can be written stands for a whole number.
-/
theorem numeric_texts_by_grammar (s : String) :
    (isInteger (.text s) = true ↔
      ∃ negative digits, IsWholeNumeral negative digits (trim s.toList)) ∧
    (isNumber (.text s) = true ↔
      ∃ numeral : Numeral, numeral.Spells (trim s.toList) ∧ |numeral.value| < limit) ∧
    (∀ numeral other : Numeral, numeral.Spells (trim s.toList) → other.Spells (trim s.toList) →
      numeral = other) ∧
    (∀ negative body, Signed negative body (trim s.toList) →
      body.map Char.toLower ∈ ["inf".toList, "infinity".toList, "nan".toList] → IsNoNumber s) ∧
    (∀ negative body, ∀ mark ∈ ['x', 'X'], Signed negative ('0' :: mark :: body) (trim s.toList) →
      IsNoNumber s) ∧
    (∀ c ∈ trim s.toList, isBlank c = true → IsNoNumber s) ∧
    ('_' ∈ s.toList → IsNoNumber s) ∧
    ∀ n : ℤ, (Nat.toDigits 10 n.natAbs).length ≤ 4300 →
      (Value.int n).plain = .ok (toString n) ∧ isInteger (.text (toString n)) = true := by
  refine ⟨isInteger_text, isNumber_text, ?_, ?_, ?_, ?_, ?_, ?_⟩
  · intro numeral other h hother
    exact h.unique hother
  · intro negative body htext hword
    have hletter : ∀ word ∈ ["inf".toList, "infinity".toList, "nan".toList], 'n' ∈ word := by
      decide
    obtain ⟨c, hc, hlower⟩ := List.mem_map.mp (hletter _ hword)
    exact isNoNumber_of_mem (htext.mem_of_body hc) (not_isNumeralChar_of_toLower hlower)
  · intro negative body mark hmark htext
    have hmem : mark ∈ trim s.toList :=
      htext.mem_of_body (List.mem_cons_of_mem '0' List.mem_cons_self)
    refine isNoNumber_of_mem hmem ?_
    simp only [List.mem_cons, List.not_mem_nil, or_false] at hmark
    rcases hmark with rfl | rfl <;> decide
  · intro c hc hblank
    exact isNoNumber_of_mem hc (not_isNumeralChar_of_isBlank hblank)
  · intro hmem
    exact isNoNumber_of_mem (mem_trim hmem (by decide)) not_isNumeralChar_underscore
  · intro n hn
    have htext := signed_toString n
    have hdigits := isDigits_toDigits n.natAbs
    refine ⟨plain_int hn, isInteger_text.mpr ⟨n < 0, Nat.toDigits 10 n.natAbs, ?_⟩⟩
    rw [trim_eq_self (isTrimmed_of_signed htext hdigits)]
    exact ⟨htext, hdigits, hn⟩

end BuiltinType

end CallGuard
