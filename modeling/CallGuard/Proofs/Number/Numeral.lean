import Mathlib.Data.Nat.Digits.Defs
import CallGuard.Number.Numeral
import CallGuard.Proofs.Number.Binary64
import CallGuard.Proofs.Number.Decimal
import CallGuard.Proofs.Text.Classes
import CallGuard.Proofs.Text.Cutting

/-!
# The grammar of numerals

A whole numeral is an optional sign and at most 4300 digits. A scientific numeral may have a point
among its digits and a power of ten behind them. Reading a text finds exactly what it spells, and a
scientific numeral fits a floating-point number just when the size that it denotes is small enough.
-/

namespace CallGuard.Number

open CallGuard.Text

variable {negative : Bool} {digits body cs : List Char} {n : ℤ}

/-! ### Signs -/

/-- A body with an optional sign in front of it. The flag tells a minus sign. -/
inductive Signed : Bool → List Char → List Char → Prop
  | unsigned (body : List Char) : Signed false body body
  | plus (body : List Char) : Signed false body ('+' :: body)
  | minus (body : List Char) : Signed true body ('-' :: body)

def signed (negative : Bool) (size : ℕ) : ℤ := if negative then -size else size

theorem signed_splitSign (cs : List Char) : Signed (splitSign cs).1 (splitSign cs).2 cs := by
  unfold splitSign
  split
  · exact Signed.plus _
  · exact Signed.minus _
  · exact Signed.unsigned _

theorem Signed.splitSign_eq (h : Signed negative body cs)
    (hhead : ∀ c, body.head? = some c → c ≠ '+' ∧ c ≠ '-') : splitSign cs = (negative, body) := by
  cases h with
  | unsigned =>
      unfold splitSign
      split
      · exact absurd rfl (hhead '+' rfl).1
      · exact absurd rfl (hhead '-' rfl).2
      · rfl
  | plus => rfl
  | minus => rfl

theorem Signed.mem (h : Signed negative body cs) {c : Char} (hc : c ∈ cs) :
    c = '+' ∨ c = '-' ∨ c ∈ body := by
  cases h with
  | unsigned => exact Or.inr (Or.inr hc)
  | plus => simpa using (List.mem_cons.mp hc).imp_right Or.inr
  | minus => exact Or.inr (List.mem_cons.mp hc)

theorem Signed.mem_of_body (h : Signed negative body cs) {c : Char} (hc : c ∈ body) : c ∈ cs := by
  cases h with
  | unsigned => exact hc
  | plus => exact List.mem_cons_of_mem _ hc
  | minus => exact List.mem_cons_of_mem _ hc

/-! ### Digits -/

/-- Digits of any script, at least one. -/
structure IsDigits (cs : List Char) : Prop where
  ne_nil : cs ≠ []
  decimal : ∀ c ∈ cs, isDecimal c = true

instance : DecidablePred IsDigits := fun cs =>
  decidable_of_iff (cs ≠ [] ∧ cs.all isDecimal = true)
    ⟨fun h => ⟨h.1, List.all_eq_true.mp h.2⟩, fun h => ⟨h.ne_nil, List.all_eq_true.mpr h.decimal⟩⟩

/-- The number that digits stand for by their places, the last one being that of the ones. -/
def placeValue (cs : List Char) : ℕ :=
  Nat.ofDigits 10 (cs.filterMap digitValue?).reverse

theorem ofDigits_reverse (values : List ℕ) :
    ofDigits 10 values = Nat.ofDigits 10 values.reverse := by
  rw [ofDigits_eq_foldl, Nat.ofDigits_eq_foldr, List.foldr_reverse]
  congr 1
  funext size value
  rw [Nat.cast_id, mul_comm, add_comm]

theorem digitsValue_eq_placeValue (cs : List Char) : digitsValue cs = placeValue cs :=
  ofDigits_reverse _

theorem ne_underscore_of_isDecimal {c : Char} (h : isDecimal c = true) : c ≠ '_' := by
  rintro rfl
  revert h
  decide

theorem ne_sign_of_isDecimal {c : Char} (h : isDecimal c = true) : c ≠ '+' ∧ c ≠ '-' := by
  constructor
  · rintro rfl
    revert h
    decide
  · rintro rfl
    revert h
    decide

theorem IsDigits.ne_sign (h : IsDigits cs) (c : Char) (hc : cs.head? = some c) :
    c ≠ '+' ∧ c ≠ '-' :=
  ne_sign_of_isDecimal (h.decimal c (List.mem_of_head? hc))

theorem IsDigits.isBlank_eq_false (h : IsDigits cs) {c : Char} (hc : c ∈ cs) :
    isBlank c = false := by
  by_contra hblank
  have hnone := isDecimal_of_isBlank (Bool.not_eq_false _ ▸ hblank)
  rw [h.decimal c hc] at hnone
  cases hnone

theorem digitGroups?_cons {c : Char} {value : ℕ} (hvalue : digitValue? c = some value)
    (hcs : cs ≠ []) (hunderscore : '_' ∉ cs) :
    digitGroups? (c :: cs) = (digitGroups? cs).map (value :: ·) := by
  obtain ⟨next, rest, rfl⟩ := List.exists_cons_of_ne_nil hcs
  have hnext : next ≠ '_' := fun heq => hunderscore (heq ▸ List.mem_cons_self)
  rw [digitGroups?, hvalue]
  simp only
  split
  · rename_i heq
    cases heq
  · rename_i heq
    exact absurd (List.cons.inj heq).1 hnext
  · rfl

/-- Without underscores there is one group of digits, and it is the whole text. -/
theorem digitGroups?_eq_some_iff (hunderscore : '_' ∉ cs) {values : List ℕ} :
    digitGroups? cs = some values ↔ IsDigits cs ∧ values = cs.filterMap digitValue? := by
  induction cs generalizing values with
  | nil =>
      constructor
      · intro h
        cases h
      · rintro ⟨hdigits, -⟩
        exact absurd rfl hdigits.ne_nil
  | cons c cs ih =>
      cases hvalue : digitValue? c with
      | none =>
          rw [digitGroups?, hvalue]
          constructor
          · intro h
            cases h
          · rintro ⟨hdigits, -⟩
            have hdecimal := hdigits.decimal c List.mem_cons_self
            rw [isDecimal, hvalue] at hdecimal
            cases hdecimal
      | some value =>
          have hdecimal : isDecimal c = true := by rw [isDecimal, hvalue]; rfl
          rw [List.filterMap_cons_some hvalue]
          by_cases hnil : cs = []
          · subst hnil
            rw [digitGroups?, hvalue]
            simp only [Option.some.injEq, List.filterMap_nil]
            constructor
            · rintro rfl
              exact ⟨⟨List.cons_ne_nil _ _, by simpa using hdecimal⟩, rfl⟩
            · rintro ⟨-, rfl⟩
              rfl
          · have hrest : '_' ∉ cs := fun hmem => hunderscore (List.mem_cons_of_mem c hmem)
            rw [digitGroups?_cons hvalue hnil hrest, Option.map_eq_some_iff]
            constructor
            · rintro ⟨rest, hgroups, rfl⟩
              obtain ⟨hdigits, rfl⟩ := (ih hrest).mp hgroups
              have hall : ∀ d ∈ c :: cs, isDecimal d = true :=
                List.forall_mem_cons.mpr ⟨hdecimal, hdigits.decimal⟩
              exact ⟨⟨List.cons_ne_nil _ _, hall⟩, rfl⟩
            · rintro ⟨hdigits, rfl⟩
              have htail : IsDigits cs := ⟨hnil, (List.forall_mem_cons.mp hdigits.decimal).2⟩
              exact ⟨_, (ih hrest).mpr ⟨htail, rfl⟩, rfl⟩

/-! ### Whole numerals -/

/-- A whole numeral: an optional sign and at most 4300 digits. -/
structure IsWholeNumeral (negative : Bool) (digits cs : List Char) : Prop where
  text : Signed negative digits cs
  isDigits : IsDigits digits
  length_le : digits.length ≤ 4300

theorem wholeNumeral?_of_splitSign (hsplit : splitSign cs = (negative, digits))
    (hunderscore : '_' ∉ digits) :
    wholeNumeral? cs = some n ↔ IsDigits digits ∧ digits.length ≤ 4300 ∧
      n = signed negative (placeValue digits) := by
  rw [wholeNumeral?, hsplit]
  simp only
  cases hgroups : digitGroups? digits with
  | none =>
      have hnone : ¬IsDigits digits := fun h => by
        rw [(digitGroups?_eq_some_iff hunderscore).mpr ⟨h, rfl⟩] at hgroups
        cases hgroups
      simp [hnone]
  | some values =>
      obtain ⟨hdigits, rfl⟩ := (digitGroups?_eq_some_iff hunderscore).mp hgroups
      have hlength : (digits.filterMap digitValue?).length = digits.length := by
        rw [List.length_filterMap_eq_countP, List.countP_eq_length]
        exact hdigits.decimal
      simp only [hdigits, true_and]
      rw [hlength, digitLimit, ofDigits_reverse]
      by_cases hlong : digits.length > 4300
      · rw [if_pos hlong]
        exact iff_of_false (by simp) fun h => absurd h.1 (not_le.mpr hlong)
      · rw [if_neg hlong, Option.some.injEq]
        exact ⟨fun h => ⟨not_lt.mp hlong, h.symm⟩, fun h => h.2.symm⟩

/-- A text without underscores is read as the number of the whole numeral that it is. -/
theorem wholeNumeral?_eq_some_iff (hunderscore : '_' ∉ cs) :
    wholeNumeral? cs = some n ↔ ∃ negative digits, IsWholeNumeral negative digits cs ∧
      n = signed negative (placeValue digits) := by
  have hsigned := signed_splitSign cs
  rcases hsplit : splitSign cs with ⟨found, rest⟩
  rw [hsplit] at hsigned
  have hrest : '_' ∉ rest := fun hmem => hunderscore (hsigned.mem_of_body hmem)
  rw [wholeNumeral?_of_splitSign hsplit hrest]
  constructor
  · rintro ⟨hdigits, hlength, rfl⟩
    exact ⟨found, rest, ⟨hsigned, hdigits, hlength⟩, rfl⟩
  · rintro ⟨negative, digits, h, rfl⟩
    rw [h.text.splitSign_eq h.isDigits.ne_sign] at hsplit
    cases hsplit
    exact ⟨h.isDigits, h.length_le, rfl⟩

/-! ### The texts of whole numbers -/

theorem isDigits_toDigits (n : ℕ) : IsDigits (Nat.toDigits 10 n) := by
  refine ⟨List.ne_nil_of_length_pos Nat.length_toDigits_pos, fun c hc => ?_⟩
  have hdigit : c.isDigit = true := Nat.isDigit_of_mem_toDigits (by decide) (by decide) hc
  have hascii : c.toNat < 128 := by
    have hbounds := isDigit_iff.mp hdigit
    omega
  rw [isDecimal_of_lt hascii]
  exact hdigit

theorem toList_toString (n : ℤ) :
    (toString n).toList =
      if n < 0 then '-' :: Nat.toDigits 10 n.natAbs else Nat.toDigits 10 n.natAbs := by
  rw [Int.toString_eq_repr, Int.repr_eq_if]
  by_cases hn : 0 ≤ n
  · have hsize : n.toNat = n.natAbs := by omega
    rw [if_pos hn, if_neg (not_lt.mpr hn), hsize, Nat.toList_repr]
  · have hsize : (-n).toNat = n.natAbs := by omega
    rw [if_neg hn, if_pos (not_le.mp hn), hsize, String.toList_append, Nat.toList_repr]
    rfl

theorem signed_toString (n : ℤ) :
    Signed (n < 0) (Nat.toDigits 10 n.natAbs) (toString n).toList := by
  rw [toList_toString]
  by_cases hn : n < 0
  · rw [if_pos hn, decide_eq_true hn]
    exact Signed.minus _
  · rw [if_neg hn, decide_eq_false hn]
    exact Signed.unsigned _

theorem placeValue_concat {c : Char} {value : ℕ} (hc : digitValue? c = some value)
    (cs : List Char) : placeValue (cs ++ [c]) = value + 10 * placeValue cs := by
  have hvalues : (cs ++ [c]).filterMap digitValue? = cs.filterMap digitValue? ++ [value] := by
    rw [List.filterMap_append, List.filterMap_cons_some hc, List.filterMap_nil]
  rw [placeValue, hvalues, List.reverse_concat, Nat.ofDigits_cons, placeValue]

theorem digitValue?_digitChar {value : ℕ} (h : value < 10) :
    digitValue? value.digitChar = some value := by
  have hall : ∀ value < 10, digitValue? value.digitChar = some value := by decide
  exact hall value h

/-- The digits of a number stand for it. -/
theorem placeValue_toDigits (n : ℕ) : placeValue (Nat.toDigits 10 n) = n := by
  induction n using Nat.strong_induction_on with
  | _ n ih =>
      by_cases hn : n < 10
      · have hone := placeValue_concat (digitValue?_digitChar hn) []
        rwa [List.nil_append, ← Nat.toDigits_of_lt_base hn] at hone
      · rw [Nat.toDigits_of_base_le (by decide) (not_lt.mp hn),
          placeValue_concat (digitValue?_digitChar (Nat.mod_lt n (by decide))),
          ih (n / 10) (by omega)]
        omega

/-- No number but zero starts with a zero. -/
theorem head?_toDigits_ne {n : ℕ} (hn : n ≠ 0) : (Nat.toDigits 10 n).head? ≠ some '0' := by
  induction n using Nat.strong_induction_on with
  | _ n ih =>
      by_cases hlt : n < 10
      · have hall : ∀ n < 10, n ≠ 0 → some n.digitChar ≠ some '0' := by decide
        rw [Nat.toDigits_of_lt_base hlt]
        exact hall n hlt hn
      · rw [Nat.toDigits_of_base_le (by decide) (not_lt.mp hlt),
          List.head?_append_of_ne_nil _ (isDigits_toDigits _).ne_nil]
        exact ih (n / 10) (by omega) (by omega)

/-- The text of a whole number that is not too long is a whole numeral. -/
theorem isWholeNumeral_toString {n : ℤ} (hn : n.natAbs < Nat.pow 10 digitLimit) :
    IsWholeNumeral (n < 0) (Nat.toDigits 10 n.natAbs) (toString n).toList := by
  rw [Nat.pow_eq, ← Nat.length_toDigits_le_iff (by decide) (by decide)] at hn
  exact ⟨signed_toString n, isDigits_toDigits n.natAbs, hn⟩

/-! ### Scientific numerals -/

/-- A run of digits in which a point may stand, or to whose either end it may be put. -/
inductive Pointed : List Char → List Char → List Char → Prop
  | pointless (whole : List Char) : Pointed whole [] whole
  | pointed (whole fraction : List Char) : Pointed whole fraction (whole ++ '.' :: fraction)

/-- The power of ten at the end of a numeral: a mark, an optional sign and digits, or nothing. -/
inductive Power : ℤ → List Char → Prop
  | absent : Power 0 []
  | marked {mark : Char} {negative : Bool} {digits cs : List Char} (hmark : mark = 'e' ∨ mark = 'E')
      (htext : Signed negative digits cs) (hdigits : IsDigits digits) :
      Power (signed negative (placeValue digits)) (mark :: cs)

/--
A text spells a scientific numeral: an optional sign, digits with at most one point, and an optional
power of ten. Each digit behind the point takes one off the power.
-/
inductive Numeral.Spells : Numeral → List Char → Prop
  | intro {negative : Bool} {whole fraction body tail cs : List Char} {power : ℤ}
      (hbody : Pointed whole fraction body) (hdigits : IsDigits (whole ++ fraction))
      (hpower : Power power tail) (htext : Signed negative (body ++ tail) cs) :
      Spells ⟨negative, placeValue (whole ++ fraction), power - fraction.length⟩ cs

variable {numeral : Numeral} {power : ℤ} {whole fraction tail : List Char}

theorem isDigits_iff : IsDigits digits ↔ ¬(digits.isEmpty || !digits.all isDecimal) = true := by
  simp only [Bool.or_eq_true, List.isEmpty_iff, Bool.not_eq_true', Bool.eq_false_iff, ne_eq,
    not_or, not_not, List.all_eq_true]
  exact ⟨fun h => ⟨h.ne_nil, h.decimal⟩, fun h => ⟨h.1, h.2⟩⟩

theorem powerOfTen?_cons {mark : Char} (hmark : mark = 'e' ∨ mark = 'E')
    (hsplit : splitSign cs = (negative, digits)) :
    powerOfTen? (mark :: cs) = some power ↔
      IsDigits digits ∧ power = signed negative (placeValue digits) := by
  have hmarked : (mark = 'e' || mark = 'E') = true := by simpa using hmark
  rw [powerOfTen?, if_pos hmarked, hsplit]
  simp only
  by_cases hdigits : IsDigits digits
  · rw [if_neg (isDigits_iff.mp hdigits), digitsValue_eq_placeValue, Option.some.injEq]
    exact ⟨fun h => ⟨hdigits, h.symm⟩, fun h => h.2.symm⟩
  · rw [if_pos (not_not.mp (mt isDigits_iff.mpr hdigits))]
    exact iff_of_false (by simp) fun h => hdigits h.1

theorem powerOfTen?_eq_some_iff : powerOfTen? cs = some power ↔ Power power cs := by
  cases cs with
  | nil =>
      constructor
      · intro h
        cases h
        exact Power.absent
      · intro h
        cases h
        rfl
  | cons mark cs =>
      by_cases hmark : mark = 'e' ∨ mark = 'E'
      · have hsigned := signed_splitSign cs
        rcases hsplit : splitSign cs with ⟨negative, digits⟩
        rw [hsplit] at hsigned
        rw [powerOfTen?_cons hmark hsplit]
        constructor
        · rintro ⟨hdigits, rfl⟩
          exact Power.marked hmark hsigned hdigits
        · intro h
          cases h with
          | marked _ htext hdigits =>
              rw [htext.splitSign_eq hdigits.ne_sign] at hsplit
              cases hsplit
              exact ⟨hdigits, rfl⟩
      · have hunmarked : ¬(mark = 'e' || mark = 'E') = true := by simpa using hmark
        rw [powerOfTen?, if_neg hunmarked]
        constructor
        · intro h
          cases h
        · intro h
          cases h with
          | marked hmarked => exact absurd hmarked hmark

/-- A text goes on with neither a digit nor a point. -/
def StopsDigits (tail : List Char) : Prop :=
  ∀ c, tail.head? = some c → isDecimal c = false ∧ c ≠ '.'

theorem Power.stopsDigits (h : Power power tail) : StopsDigits tail := by
  intro c hc
  cases h with
  | absent => cases hc
  | marked hmark =>
      obtain rfl := Option.some.inj hc
      rcases hmark with rfl | rfl <;> decide

/-- The digits before and behind the point that a text starts with, and what follows them. -/
def splitPoint (cs : List Char) : List Char × List Char × List Char :=
  match cs.dropWhile isDecimal with
  | '.' :: after =>
    (cs.takeWhile isDecimal, after.takeWhile isDecimal, after.dropWhile isDecimal)
  | rest => (cs.takeWhile isDecimal, [], rest)

theorem splitPoint_of_pointed (hbody : Pointed whole fraction body)
    (hdigits : ∀ c ∈ whole ++ fraction, isDecimal c = true) (htail : StopsDigits tail) :
    splitPoint (body ++ tail) = (whole, fraction, tail) := by
  have hspan {front : List Char} (hfront : ∀ c ∈ front, isDecimal c = true) :
      (front ++ tail).takeWhile isDecimal = front ∧ (front ++ tail).dropWhile isDecimal = tail := by
    cases tail with
    | nil => simpa using hfront
    | cons c tail =>
        exact ⟨takeWhile_of_stop hfront (htail c rfl).1, dropWhile_of_stop hfront (htail c rfl).1⟩
  have hwhole : ∀ c ∈ whole, isDecimal c = true :=
    fun c hc => hdigits c (List.mem_append_left fraction hc)
  have hfraction : ∀ c ∈ fraction, isDecimal c = true :=
    fun c hc => hdigits c (List.mem_append_right whole hc)
  rw [splitPoint]
  cases hbody with
  | pointless =>
      rw [(hspan hwhole).1, (hspan hwhole).2]
      split
      · exact absurd rfl (htail '.' rfl).2
      · rfl
  | pointed =>
      rw [List.append_assoc, List.cons_append, takeWhile_of_stop hwhole (by decide),
        dropWhile_of_stop hwhole (by decide)]
      simp only
      rw [(hspan hfraction).1, (hspan hfraction).2]

theorem pointed_of_splitPoint (h : splitPoint cs = (whole, fraction, tail)) :
    ∃ body, Pointed whole fraction body ∧ cs = body ++ tail ∧
      ∀ c ∈ whole ++ fraction, isDecimal c = true := by
  have hwhole : ∀ c ∈ cs.takeWhile isDecimal, isDecimal c = true :=
    fun c hc => List.mem_takeWhile_imp hc
  have hspan : cs.takeWhile isDecimal ++ cs.dropWhile isDecimal = cs :=
    List.takeWhile_append_dropWhile
  rw [splitPoint] at h
  split at h
  · rename_i after hrest
    cases h
    rw [hrest] at hspan
    refine ⟨_, Pointed.pointed _ _, ?_, ?_⟩
    · rw [List.append_assoc, List.cons_append, List.takeWhile_append_dropWhile, hspan]
    · intro c hc
      rcases List.mem_append.mp hc with hc | hc
      · exact hwhole c hc
      · exact List.mem_takeWhile_imp hc
  · cases h
    exact ⟨_, Pointed.pointless _, hspan.symm, by simpa using hwhole⟩

theorem Pointed.exists_cons (hbody : Pointed whole fraction body)
    (hdigits : IsDigits (whole ++ fraction)) :
    ∃ c rest, body = c :: rest ∧ (isDecimal c = true ∨ c = '.') := by
  cases whole with
  | cons c whole =>
      have hc : isDecimal c = true := hdigits.decimal c List.mem_cons_self
      cases hbody with
      | pointless => exact ⟨c, whole, rfl, Or.inl hc⟩
      | pointed => exact ⟨c, _, rfl, Or.inl hc⟩
  | nil =>
      cases hbody with
      | pointless => exact absurd rfl hdigits.ne_nil
      | pointed => exact ⟨'.', fraction, rfl, Or.inr rfl⟩

theorem Pointed.mem (hbody : Pointed whole fraction body) {c : Char} (hc : c ∈ body) :
    c = '.' ∨ c ∈ whole ++ fraction := by
  cases hbody with
  | pointless => exact Or.inr (List.mem_append_left _ hc)
  | pointed =>
      rcases List.mem_append.mp hc with hc | hc
      · exact Or.inr (List.mem_append_left _ hc)
      · exact (List.mem_cons.mp hc).imp_right (List.mem_append_right _)

theorem scientificNumeral?_of_splits (hsign : splitSign cs = (negative, body))
    (hpoint : splitPoint body = (whole, fraction, tail)) :
    scientificNumeral? cs =
      if whole ++ fraction = [] then none
      else
        (powerOfTen? tail).map fun power =>
          ⟨negative, placeValue (whole ++ fraction), power - fraction.length⟩ := by
  have hparts : scientificNumeral? cs =
      if whole.isEmpty && fraction.isEmpty then none
      else
        (powerOfTen? tail).map fun power =>
          ⟨negative, digitsValue (whole ++ fraction), power - fraction.length⟩ := by
    rw [scientificNumeral?, hsign]
    rw [splitPoint] at hpoint
    split at hpoint
    · rename_i after hrest
      cases hpoint
      simp only [hrest]
    · rename_i hrest
      cases hpoint
      simp only
  rw [hparts, digitsValue_eq_placeValue]
  simp only [Bool.and_eq_true, List.isEmpty_iff, List.append_eq_nil_iff]

/-- A text is read as the scientific numeral that it spells. -/
theorem scientificNumeral?_eq_some_iff :
    scientificNumeral? cs = some numeral ↔ numeral.Spells cs := by
  constructor
  · intro h
    have hsigned := signed_splitSign cs
    rcases hsign : splitSign cs with ⟨negative, rest⟩
    rcases hpoint : splitPoint rest with ⟨whole, fraction, tail⟩
    obtain ⟨body, hbody, rfl, hdecimal⟩ := pointed_of_splitPoint hpoint
    rw [hsign] at hsigned
    rw [scientificNumeral?_of_splits hsign hpoint] at h
    obtain ⟨hfilled, hmap⟩ := Option.ite_none_left_eq_some.mp h
    obtain ⟨power, hpower, rfl⟩ := Option.map_eq_some_iff.mp hmap
    exact .intro hbody ⟨hfilled, hdecimal⟩ (powerOfTen?_eq_some_iff.mp hpower) hsigned
  · rintro ⟨hbody, hdigits, hpower, htext⟩
    rename_i negative whole fraction body tail power
    have hpoint := splitPoint_of_pointed hbody hdigits.decimal hpower.stopsDigits
    have hhead (c : Char) (hc : (body ++ tail).head? = some c) : c ≠ '+' ∧ c ≠ '-' := by
      obtain ⟨first, rest, hcons, hfirst⟩ := hbody.exists_cons hdigits
      rw [hcons] at hc
      cases hc
      rcases hfirst with hfirst | rfl
      · exact ne_sign_of_isDecimal hfirst
      · decide
    rw [scientificNumeral?_of_splits (htext.splitSign_eq hhead) hpoint, if_neg hdigits.ne_nil,
      powerOfTen?_eq_some_iff.mpr hpower, Option.map_some]

/-- What a text spells is one numeral only. -/
theorem Numeral.Spells.unique {other : Numeral} (h : numeral.Spells cs) (hother : other.Spells cs) :
    numeral = other := by
  have hsame := scientificNumeral?_eq_some_iff.mpr h
  rw [scientificNumeral?_eq_some_iff.mpr hother] at hsame
  exact (Option.some.inj hsame).symm

/-- A whole numeral is a scientific numeral without a point and a power. -/
theorem IsWholeNumeral.spells (h : IsWholeNumeral negative digits cs) :
    Numeral.Spells ⟨negative, placeValue digits, 0⟩ cs := by
  have hdigits : IsDigits (digits ++ []) := by simpa using h.isDigits
  have htext : Signed negative (digits ++ []) cs := by simpa using h.text
  simpa using Numeral.Spells.intro (Pointed.pointless digits) hdigits Power.absent htext

/-- The characters that occur in numerals. -/
def IsNumeralChar (c : Char) : Prop :=
  isDecimal c = true ∨ c ∈ ['+', '-', '.', 'e', 'E']

instance : DecidablePred IsNumeralChar := fun _ => inferInstanceAs (Decidable (_ ∨ _))

theorem Power.isNumeralChar (h : Power power tail) {c : Char} (hc : c ∈ tail) :
    IsNumeralChar c := by
  cases h with
  | absent => cases hc
  | marked hmark htext hdigits =>
      rcases List.mem_cons.mp hc with rfl | hc
      · rcases hmark with rfl | rfl <;> exact Or.inr (by decide)
      · rcases htext.mem hc with rfl | rfl | hc
        · exact Or.inr (by decide)
        · exact Or.inr (by decide)
        · exact Or.inl (hdigits.decimal c hc)

theorem Numeral.Spells.isNumeralChar (h : numeral.Spells cs) {c : Char} (hc : c ∈ cs) :
    IsNumeralChar c := by
  obtain ⟨hbody, hdigits, hpower, htext⟩ := h
  rcases htext.mem hc with rfl | rfl | hc
  · exact Or.inr (by decide)
  · exact Or.inr (by decide)
  · rcases List.mem_append.mp hc with hc | hc
    · rcases hbody.mem hc with rfl | hc
      · exact Or.inr (by decide)
      · exact Or.inl (hdigits.decimal c hc)
    · exact hpower.isNumeralChar hc

/-! ### The size of a scientific numeral -/

/-- The exact number that a scientific numeral denotes. -/
def Numeral.value (numeral : Numeral) : ℚ :=
  sign numeral.negative * (numeral.coefficient * 10 ^ numeral.exponent)

theorem Numeral.abs_value (numeral : Numeral) :
    |numeral.value| = numeral.coefficient * 10 ^ numeral.exponent := by
  have hsize : (0 : ℚ) ≤ numeral.coefficient * 10 ^ numeral.exponent := by positivity
  rw [value, abs_mul, abs_of_nonneg hsize, sign]
  split <;> simp

/-- The first digit of a number that is not zero counts at least one at its place. -/
theorem zpow_le_size {coefficient : ℕ} (hcoefficient : coefficient ≠ 0) (exponent : ℤ) :
    (10 : ℚ) ^ (digitCount coefficient - 1 + exponent) ≤ coefficient * 10 ^ exponent := by
  have hle : 10 ^ (digitCount coefficient - 1) ≤ coefficient := by
    rw [digitCount, decimalDigits_eq_toDigits]
    set length := (Nat.toDigits 10 coefficient).length with hlength
    by_cases hshort : length - 1 = 0
    · rw [hshort, pow_zero]
      exact Nat.pos_of_ne_zero hcoefficient
    · have hlong : ¬length ≤ length - 1 := by omega
      rw [hlength, Nat.length_toDigits_le_iff (by decide) (Nat.pos_of_ne_zero hshort)] at hlong
      exact not_lt.mp hlong
  have hpositive : 0 < digitCount coefficient := by
    rw [digitCount, decimalDigits_eq_toDigits]
    exact Nat.length_toDigits_pos
  calc (10 : ℚ) ^ (digitCount coefficient - 1 + exponent)
      = 10 ^ (digitCount coefficient - 1) * 10 ^ exponent := by
        rw [zpow_add₀ (by norm_num), ← zpow_natCast, Nat.cast_sub hpositive, Nat.cast_one]
    _ ≤ coefficient * 10 ^ exponent := by
        gcongr
        exact_mod_cast hle

theorem size_lt_zpow (coefficient : ℕ) (exponent : ℤ) :
    (coefficient : ℚ) * 10 ^ exponent < 10 ^ (digitCount coefficient + exponent) := by
  have hlt : (coefficient : ℚ) < 10 ^ digitCount coefficient := by
    exact_mod_cast lt_pow_digitCount coefficient
  calc (coefficient : ℚ) * 10 ^ exponent < 10 ^ digitCount coefficient * 10 ^ exponent := by gcongr
    _ = 10 ^ (digitCount coefficient + exponent) := by
        rw [zpow_add₀ (by norm_num), zpow_natCast]

namespace Binary64

theorem limit_le : limit ≤ 10 ^ 310 := by
  calc limit ≤ 2 ^ 1024 := sub_le_self _ (by positivity)
    _ = (2 ^ 93) ^ 11 * 2 := by rw [← pow_mul, ← pow_succ]
    _ ≤ (10 ^ 28) ^ 11 * 10 ^ 2 := by gcongr <;> norm_num
    _ = 10 ^ 310 := by rw [← pow_mul, ← pow_add]

theorem one_le_limit : 1 ≤ limit := by
  have hpower : (1 : ℚ) ≤ 2 ^ maxExponent := one_le_zpow₀ one_le_two (by decide)
  rw [limit_eq]
  linarith

/-- A decimal number fits a floating-point number just when its size is below the limit. -/
theorem isFinite_ofScientific_iff (negative : Bool) (coefficient : ℕ) (exponent : ℤ) :
    (ofScientific negative coefficient exponent).isFinite = true ↔
      (coefficient : ℚ) * 10 ^ exponent < limit := by
  rw [ofScientific]
  by_cases hzero : coefficient = 0
  · rw [if_pos hzero, hzero, Nat.cast_zero, zero_mul]
    exact iff_of_true rfl (one_pos.trans_le one_le_limit)
  rw [if_neg hzero]
  simp only
  by_cases hlarge : (digitCount coefficient : ℤ) + exponent > 310
  · have hsize : limit ≤ (coefficient : ℚ) * 10 ^ exponent := by
      calc limit ≤ (10 : ℚ) ^ (310 : ℤ) := limit_le
        _ ≤ 10 ^ (digitCount coefficient - 1 + exponent) :=
          zpow_le_zpow_right₀ (by norm_num) (by omega)
        _ ≤ coefficient * 10 ^ exponent := zpow_le_size hzero exponent
    rw [if_pos hlarge]
    exact iff_of_false Bool.false_ne_true (not_lt.mpr hsize)
  rw [if_neg hlarge]
  by_cases hsmall : (digitCount coefficient : ℤ) + exponent < -330
  · have hsize : (coefficient : ℚ) * 10 ^ exponent < limit := by
      calc (coefficient : ℚ) * 10 ^ exponent
          < 10 ^ (digitCount coefficient + exponent) := size_lt_zpow coefficient exponent
        _ ≤ 10 ^ (0 : ℤ) := zpow_le_zpow_right₀ (by norm_num) (by omega)
        _ ≤ limit := one_le_limit
    rw [if_pos hsmall]
    exact iff_of_true rfl hsize
  rw [if_neg hsmall]
  by_cases hsign : exponent ≥ 0
  · obtain ⟨k, rfl⟩ := Int.eq_ofNat_of_zero_le hsign
    rw [if_pos hsign, isFinite_ofRatio_iff _ _ one_pos, Int.toNat_natCast, zpow_natCast, Nat.pow_eq]
    push_cast
    rw [div_one]
  · obtain ⟨k, hk⟩ := Int.eq_ofNat_of_zero_le (by omega : 0 ≤ -exponent)
    obtain rfl : exponent = -k := by omega
    have hpositive : 0 < 10 ^ k := by positivity
    rw [if_neg hsign, hk, Int.toNat_natCast, Nat.pow_eq, isFinite_ofRatio_iff _ _ hpositive,
      zpow_neg, zpow_natCast, ← div_eq_mul_inv]
    push_cast
    rfl

end Binary64

end CallGuard.Number
