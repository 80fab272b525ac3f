import Mathlib.Data.List.Basic
import CallGuard.Log.Json
import CallGuard.Proofs.Log.Document

/-!
# Escapes and what they stand for

A text is written in printable ASCII characters. Every code point comes out as one or two units, and
reading a text finds just these units again. Joining the halves of surrogate pairs among them gives
the code points back, except that two halves that stood one after another from the start are joined
as well. The code points of characters are no halves, so they come back as they were.
-/

namespace CallGuard

namespace Text

/-! ### Units -/

/-- A code point, of a character or of half a surrogate pair. -/
def IsPoint (n : Nat) : Prop := n < 0x110000

/-- The units of a code point: itself, or the two halves of a surrogate pair. -/
def units (n : Nat) : List Nat :=
  if n < 0x10000 then [n]
  else [0xD800 + (n - 0x10000) / 0x400, 0xDC00 + (n - 0x10000) % 0x400]

variable {n : Nat} {all rest : List Nat}

theorem units_of_lt (h : n < 0x10000) : units n = [n] := if_pos h

theorem joinHalves_cons_of_not_high (h : isHighHalf n = false) (rest : List Nat) :
    joinHalves (n :: rest) = n :: joinHalves rest := by
  cases rest with
  | nil => rfl
  | cons low rest => rw [joinHalves, h, Bool.false_and, if_neg Bool.false_ne_true]

theorem joinHalves_cons_of_not_low {high low : Nat} (h : isLowHalf low = false) (rest : List Nat) :
    joinHalves (high :: low :: rest) = high :: joinHalves (low :: rest) := by
  rw [joinHalves, h, Bool.and_false, if_neg Bool.false_ne_true]

/-- The units of a point beyond the halves are a high half and a low half that join to it. -/
theorem joinHalves_units_append (hn : IsPoint n) (h : 0x10000 ≤ n) (rest : List Nat) :
    joinHalves (units n ++ rest) = n :: joinHalves rest := by
  rw [IsPoint] at hn
  have hhigh : isHighHalf (0xD800 + (n - 0x10000) / 0x400) = true := by
    simp only [isHighHalf, Bool.and_eq_true, decide_eq_true_eq]
    omega
  have hlow : isLowHalf (0xDC00 + (n - 0x10000) % 0x400) = true := by
    simp only [isLowHalf, Bool.and_eq_true, decide_eq_true_eq]
    omega
  have hjoined : 0x10000 + (0xD800 + (n - 0x10000) / 0x400 - 0xD800) * 0x400 +
      (0xDC00 + (n - 0x10000) % 0x400 - 0xDC00) = n := by
    omega
  rw [units, if_neg (Nat.not_lt_of_le h), List.cons_append, List.cons_append, List.nil_append,
    joinHalves, hhigh, hlow, Bool.and_self, if_pos rfl, hjoined]

/-- Taking points apart into units makes no difference to what joining gives. -/
theorem joinHalves_flatMap_units (hall : ∀ n ∈ all, IsPoint n) :
    joinHalves (all.flatMap units) = joinHalves all := by
  fun_induction joinHalves all with
  | case1 high low rest hpair ih =>
      have hlt : high < 0x10000 ∧ low < 0x10000 := by
        simp only [isHighHalf, isLowHalf, Bool.and_eq_true, decide_eq_true_eq] at hpair
        omega
      rw [List.flatMap_cons, List.flatMap_cons, units_of_lt hlt.1, units_of_lt hlt.2,
        List.singleton_append, List.singleton_append, joinHalves, if_pos hpair,
        ih fun n hn => hall n (List.mem_cons_of_mem _ (List.mem_cons_of_mem _ hn))]
  | case2 high low rest hpair ih =>
      have hrest := ih fun n hn => hall n (List.mem_cons_of_mem _ hn)
      rw [List.flatMap_cons]
      by_cases hhigh : high < 0x10000
      · rw [units_of_lt hhigh, List.singleton_append, ← hrest, List.flatMap_cons]
        by_cases hfirst : isHighHalf high = true
        · rw [hfirst, Bool.true_and, Bool.not_eq_true] at hpair
          by_cases hlow : low < 0x10000
          · rw [units_of_lt hlow, List.singleton_append, joinHalves_cons_of_not_low hpair]
          · have hnot : isLowHalf (0xD800 + (low - 0x10000) / 0x400) = false := by
              have hpoint := hall low (List.mem_cons_of_mem _ List.mem_cons_self)
              rw [IsPoint] at hpoint
              simp only [isLowHalf, Bool.and_eq_false_imp, decide_eq_true_eq,
                decide_eq_false_iff_not]
              omega
            rw [units, if_neg hlow, List.cons_append, joinHalves_cons_of_not_low hnot]
        · exact joinHalves_cons_of_not_high (Bool.not_eq_true _ ▸ hfirst) _
      · rw [joinHalves_units_append (hall high List.mem_cons_self) (Nat.le_of_not_lt hhigh), hrest]
  | case3 rest hshort =>
      match rest with
      | [] => rfl
      | [n] =>
          rw [List.flatMap_cons]
          by_cases hn : n < 0x10000
          · rw [units_of_lt hn]
            rfl
          · exact joinHalves_units_append (hall n List.mem_cons_self) (Nat.le_of_not_lt hn) []
      | high :: low :: rest => exact absurd rfl (hshort high low rest)

theorem joinHalves_of_no_high (h : ∀ n ∈ all, isHighHalf n = false) : joinHalves all = all := by
  induction all with
  | nil => rfl
  | cons n rest ih =>
      rw [joinHalves_cons_of_not_high (h n List.mem_cons_self),
        ih fun m hm => h m (List.mem_cons_of_mem n hm)]

theorem isHighHalf_toNat (c : Char) : isHighHalf c.toNat = false := by
  have hvalid : c.toNat < 0xD800 ∨ 0xDFFF < c.toNat ∧ c.toNat < 0x110000 := c.valid
  simp only [isHighHalf, Bool.and_eq_false_imp, decide_eq_true_eq, decide_eq_false_iff_not]
  omega

@[simp]
theorem joinHalves_pointsOf (s : String) : joinHalves (pointsOf s) = pointsOf s := by
  refine joinHalves_of_no_high fun n hn => ?_
  obtain ⟨c, _, rfl⟩ := List.mem_map.mp hn
  exact isHighHalf_toNat c

theorem pointsOf_injective : Function.Injective pointsOf :=
  fun _ _ h => String.toList_inj.mp (points_injective h)

theorem isPoint_toNat (c : Char) : IsPoint c.toNat := by
  have hvalid : c.toNat < 0xD800 ∨ 0xDFFF < c.toNat ∧ c.toNat < 0x110000 := c.valid
  rw [IsPoint]
  omega

theorem isPoint_of_mem_points {cs : List Char} (h : n ∈ points cs) : IsPoint n := by
  obtain ⟨c, _, rfl⟩ := List.mem_map.mp h
  exact isPoint_toNat c

end Text

namespace Log

open Text

/-! ### Reading units back -/

theorem hexValue?_hexDigit {d : Nat} (h : d < 16) : hexValue? (hexDigit d) = some d := by
  have hall : ∀ d < 16, hexValue? (hexDigit d) = some d := by decide
  exact hall d h

theorem hexPadded_four (n : Nat) :
    hexPadded 4 n =
      [hexDigit (n / 4096 % 16), hexDigit (n / 256 % 16), hexDigit (n / 16 % 16),
        hexDigit (n / 1 % 16)] := rfl

variable {n : Nat} {c : Char} {rest : List Char}

/-- What is read first is put in front of the units that follow. -/
def leading (first : List Nat) (read : List Nat × List Char) : List Nat × List Char :=
  (first ++ read.1, read.2)

theorem readUnits_unitEscape (h : n < 0x10000) (rest : List Char) :
    readUnits (unitEscape n ++ rest) = (readUnits rest).map (leading [n]) := by
  have hunit : unitOf? (hexDigit (n / 4096 % 16)) (hexDigit (n / 256 % 16))
      (hexDigit (n / 16 % 16)) (hexDigit (n / 1 % 16)) = some n := by
    have hsum : n / 4096 % 16 * 4096 + n / 256 % 16 * 256 + n / 16 % 16 * 16 + n / 1 % 16 = n := by
      omega
    simp only [unitOf?, hexValue?_hexDigit (Nat.mod_lt _ (by decide : 0 < 16)),
      Option.bind_eq_bind, Option.bind_some, hsum]
  rw [unitEscape, hexPadded_four]
  simp only [List.cons_append, List.nil_append, readUnits, hunit, Option.bind_eq_bind,
    Option.bind_some]
  cases readUnits rest <;> rfl

theorem readUnits_shortEscape {unit : Nat} (h : shortEscape? c = some unit) (hc : c ≠ 'u')
    (rest : List Char) :
    readUnits ('\\' :: c :: rest) = (readUnits rest).map (leading [unit]) := by
  rw [readUnits]
  · rw [h]
    cases readUnits rest <;> rfl
  · rintro _ _ _ _ _ rfl
    exact absurd rfl hc

theorem readUnits_plain (hescape : c ≠ '\\') (hquote : c ≠ '"') (h : 32 ≤ c.toNat)
    (rest : List Char) : readUnits (c :: rest) = (readUnits rest).map (leading [c.toNat]) := by
  rw [readUnits]
  · rw [if_neg hquote, if_neg (Nat.not_lt_of_le h)]
    cases readUnits rest <;> rfl
  · exact fun _ _ _ _ _ heq => absurd heq hescape
  · exact fun _ _ heq => absurd heq hescape

/-! ### The forms of a code point -/

def IsPrintable (c : Char) : Prop := 32 ≤ c.toNat ∧ c.toNat < 127

instance : DecidablePred IsPrintable := fun _ => inferInstanceAs (Decidable (_ ∧ _))

theorem isPrintable_of_all {cs : List Char} (h : cs.all (fun c => decide (IsPrintable c)) = true) :
    ∀ c ∈ cs, IsPrintable c :=
  fun c hc => of_decide_eq_true (List.all_eq_true.mp h c hc)

/-- A point is written with a short escape, as it is, or with the escapes of its units. -/
theorem jsonPoint_cases (n : Nat) :
    (∃ c, shortEscape? c = some n ∧ c ≠ 'u' ∧ IsPrintable c ∧ n < 0x10000 ∧
      jsonPoint n = ['\\', c]) ∨
    ((32 ≤ n ∧ n < 127) ∧ n ≠ '"'.toNat ∧ n ≠ '\\'.toNat ∧ jsonPoint n = [Char.ofNat n]) ∨
    (n < 0x10000 ∧ jsonPoint n = unitEscape n) ∨
    (0x10000 ≤ n ∧ jsonPoint n =
      unitEscape (0xD800 + (n - 0x10000) / 0x400) ++
        unitEscape (0xDC00 + (n - 0x10000) % 0x400)) := by
  have hshort : ∀ m ∈ [34, 92, 10, 13, 9, 8, 12], ∃ c, shortEscape? c = some m ∧ c ≠ 'u' ∧
      IsPrintable c ∧ m < 0x10000 ∧ jsonPoint m = ['\\', c] := by
    simp only [List.forall_mem_cons]
    refine ⟨⟨'"', ?_⟩, ⟨'\\', ?_⟩, ⟨'n', ?_⟩, ⟨'r', ?_⟩, ⟨'t', ?_⟩, ⟨'b', ?_⟩, ⟨'f', ?_⟩, nofun⟩ <;>
      decide
  by_cases hmem : n ∈ [34, 92, 10, 13, 9, 8, 12]
  · exact .inl (hshort n hmem)
  · simp only [List.mem_cons, List.not_mem_nil, or_false, not_or] at hmem
    obtain ⟨h34, h92, h10, h13, h9, h8, h12⟩ := hmem
    rw [jsonPoint, if_neg h34, if_neg h92, if_neg h10, if_neg h13, if_neg h9, if_neg h8, if_neg h12]
    by_cases hplain : 32 ≤ n ∧ n < 127
    · rw [if_pos (by simpa using hplain)]
      exact .inr (.inl ⟨hplain, h34, h92, rfl⟩)
    · rw [if_neg (by simpa using hplain)]
      by_cases hsmall : n < 0x10000
      · rw [if_pos hsmall]
        exact .inr (.inr (.inl ⟨hsmall, rfl⟩))
      · rw [if_neg hsmall]
        exact .inr (.inr (.inr ⟨Nat.le_of_not_lt hsmall, rfl⟩))

theorem toNat_ofNat_of_lt (h : n < 127) : (Char.ofNat n).toNat = n := by
  have hall : ∀ n < 127, (Char.ofNat n).toNat = n := by decide
  exact hall n h

/-- Reading the written form of a point finds its units. -/
theorem readUnits_jsonPoint (hn : IsPoint n) (rest : List Char) :
    readUnits (jsonPoint n ++ rest) = (readUnits rest).map (leading (units n)) := by
  rw [IsPoint] at hn
  rcases jsonPoint_cases n with ⟨c, hshort, hc, _, hlt, hform⟩ | ⟨hplain, hquote, hslash, hform⟩ |
    ⟨hsmall, hform⟩ | ⟨hlarge, hform⟩
  · rw [hform, units_of_lt hlt]
    exact readUnits_shortEscape hshort hc rest
  · have hcode : (Char.ofNat n).toNat = n := toNat_ofNat_of_lt hplain.2
    have hne {c : Char} (hc : n ≠ c.toNat) : Char.ofNat n ≠ c := by
      rintro rfl
      exact hc hcode.symm
    rw [hform, List.singleton_append, readUnits_plain (hne hslash) (hne hquote) (by omega), hcode,
      units_of_lt (by omega)]
  · rw [hform, readUnits_unitEscape hsmall, units_of_lt hsmall]
  · rw [hform, List.append_assoc, readUnits_unitEscape (by omega),
      readUnits_unitEscape (by omega), Option.map_map, units, if_neg (Nat.not_lt_of_le hlarge)]
    rfl

/-- Reading a written text up to its closing quote finds the units of its points. -/
theorem readUnits_points {all : List Nat} (hall : ∀ n ∈ all, IsPoint n) (rest : List Char) :
    readUnits (all.flatMap jsonPoint ++ '"' :: rest) = some (all.flatMap units, rest) := by
  induction all with
  | nil =>
      rw [List.flatMap_nil, List.nil_append, readUnits]
      · rfl
      · exact nofun
      · exact nofun
  | cons n all ih =>
      rw [List.flatMap_cons, List.append_assoc, readUnits_jsonPoint (hall n List.mem_cons_self),
        ih fun m hm => hall m (List.mem_cons_of_mem n hm)]
      rfl

/-! ### Printable characters -/

theorem isPrintable_hexDigit {d : Nat} (h : d < 16) : IsPrintable (hexDigit d) := by
  have hall : ∀ d < 16, IsPrintable (hexDigit d) := by decide
  exact hall d h

theorem isPrintable_unitEscape (n : Nat) : ∀ c ∈ unitEscape n, IsPrintable c := by
  have hdigit (m : Nat) : IsPrintable (hexDigit (m % 16)) :=
    isPrintable_hexDigit (Nat.mod_lt m (by decide))
  rw [unitEscape, hexPadded_four]
  simp only [List.forall_mem_cons, hdigit, true_and]
  exact ⟨by decide, by decide, nofun⟩

theorem isPrintable_jsonPoint (n : Nat) : ∀ c ∈ jsonPoint n, IsPrintable c := by
  rcases jsonPoint_cases n with ⟨c, _, _, hc, _, hform⟩ | ⟨hplain, _, _, hform⟩ | ⟨_, hform⟩ |
    ⟨_, hform⟩
  · rw [hform]
    exact List.forall_mem_cons.mpr ⟨by decide, List.forall_mem_singleton.mpr hc⟩
  · rw [hform, List.forall_mem_singleton, IsPrintable, toNat_ofNat_of_lt hplain.2]
    exact hplain
  · rw [hform]
    exact isPrintable_unitEscape n
  · rw [hform]
    exact List.forall_mem_append.mpr ⟨isPrintable_unitEscape _, isPrintable_unitEscape _⟩

theorem isPrintable_jsonPoints (all : List Nat) :
    ∀ c ∈ (jsonPoints all).toList, IsPrintable c := by
  rw [jsonPoints, String.toList_ofList]
  refine List.forall_mem_cons.mpr ⟨by decide, List.forall_mem_append.mpr ⟨fun c hc => ?_, ?_⟩⟩
  · obtain ⟨n, _, hn⟩ := List.mem_flatMap.mp hc
    exact isPrintable_jsonPoint n c hn
  · exact List.forall_mem_singleton.mpr (by decide)

end Log

end CallGuard
