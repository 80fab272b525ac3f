import CallGuard.Proofs.Declaration.RoundTrip
import CallGuard.Proofs.Number.Numeral
import CallGuard.Proofs.Value.Walking
import CallGuard.Standard.Platform

/-!
# Nested values and the paths to them

A value that is put into containers one around the other is found again along the names and places
at which they hold it, whatever else they hold. A word is a place of a sequence only when it is made
of digits, and so never one that is counted from the end.
-/

namespace CallGuard

open CallGuard.Declaration CallGuard.Number CallGuard.Text

/-! ### Words as places -/

namespace Number

variable {cs : List Char}

theorem trimNumeral_eq_self (h : ∀ c ∈ cs, isBlank c = false) : trimNumeral cs = cs := by
  have hkeep {text : List Char} (htext : ∀ c ∈ text, isBlank c = false) :
      text.dropWhile isNumeralBlank = text := by
    cases text with
    | nil => rfl
    | cons c text =>
        refine List.dropWhile_cons_of_neg ?_
        simp [isNumeralBlank, htext c List.mem_cons_self]
  rw [trimNumeral, hkeep h, hkeep fun c hc => h c (List.mem_reverse.mp hc), List.reverse_reverse]

end Number

/-- A text of at most 4300 digits, leading zeros allowed, that stands for a place. -/
structure IsPlace (place : ℕ) (cs : List Char) : Prop where
  isDigits : IsDigits cs
  length_le : cs.length ≤ 4300
  value : placeValue cs = place

instance {place : ℕ} {cs : List Char} : Decidable (IsPlace place cs) :=
  decidable_of_iff (IsDigits cs ∧ cs.length ≤ 4300 ∧ placeValue cs = place)
    ⟨fun h => ⟨h.1, h.2.1, h.2.2⟩, fun h => ⟨h.isDigits, h.length_le, h.value⟩⟩

theorem IsPlace.isWholeNumeral {place : ℕ} {cs : List Char} (h : IsPlace place cs) :
    IsWholeNumeral false cs cs :=
  ⟨Signed.unsigned cs, h.isDigits, h.length_le⟩

theorem IsPlace.paddedNumeral?_eq {place : ℕ} {cs : List Char} (h : IsPlace place cs) :
    paddedNumeral? cs = some ↑place := by
  have hunderscore : '_' ∉ cs := fun hmem =>
    ne_underscore_of_isDecimal (h.isDigits.decimal '_' hmem) rfl
  have hblank : ∀ c ∈ cs, isBlank c = false := fun c hc => h.isDigits.isBlank_eq_false hc
  rw [paddedNumeral?, trimNumeral_eq_self hblank, wholeNumeral?_eq_some_iff hunderscore]
  refine ⟨false, cs, h.isWholeNumeral, ?_⟩
  rw [h.value]
  rfl

/-- A word that is read as a number is made of digits alone, for it has no sign. -/
theorem Declaration.IsWord.exists_isPlace {cs : List Char} {n : ℤ} (hword : IsWord cs)
    (h : paddedNumeral? cs = some n) : ∃ place : ℕ, n = place ∧ IsPlace place cs := by
  have hunderscore : '_' ∉ cs := fun hmem => absurd (hword.alphanumeric '_' hmem) (by decide)
  have hblank : ∀ c ∈ cs, isBlank c = false :=
    fun c hc => not_isBlank_of_isAlphanum (hword.alphanumeric c hc)
  rw [paddedNumeral?, trimNumeral_eq_self hblank, wholeNumeral?_eq_some_iff hunderscore] at h
  obtain ⟨negative, digits, hnumeral, rfl⟩ := h
  cases hnumeral.text with
  | unsigned => exact ⟨placeValue cs, rfl, hnumeral.isDigits, hnumeral.length_le, rfl⟩
  | plus => exact absurd (hword.alphanumeric '+' List.mem_cons_self) (by decide)
  | minus => exact absurd (hword.alphanumeric '-' List.mem_cons_self) (by decide)

namespace Value

variable {leaf next outer v : Value} {segment : String} {path : List String} {items : List Value}

/-! ### Containers -/

/--
A container holds a value at a segment: a mapping under that key, an object as that attribute, a
sequence at that place. Entries behind the one that counts may be anything.
-/
inductive Holds (segment : String) (next : Value) : Value → Prop
  | entry {before after : List (Value × Value)}
      (hbefore : ∀ entry ∈ before, entry.1 ≠ .text segment) :
      Holds segment next (.mapping (before ++ (.text segment, next) :: after))
  | viewedEntry {before after : List (Value × Value)}
      (hbefore : ∀ entry ∈ before, entry.1 ≠ .text segment) :
      Holds segment next (.view (before ++ (.text segment, next) :: after))
  | read {type : String} {before after : List (String × Value)}
      {raising : List (String × Raised)} (hbefore : ∀ found ∈ before, found.1 ≠ segment)
      (hraising : ∀ failing ∈ raising, failing.1 ≠ segment) :
      Holds segment next (.object type (before ++ (segment, next) :: after) raising)
  | place {outer : Value} {before after : List Value}
      (hitems : outer.members? = some (before ++ next :: after))
      (hplace : IsPlace before.length segment.toList) : Holds segment next outer

/-- A value lies in containers one around the other, each of which holds the next at a segment. -/
inductive Nests (leaf : Value) : List String → Value → Prop
  | here : Nests leaf [] leaf
  | within {segment : String} {path : List String} {next outer : Value}
      (hholds : Holds segment next outer) (hrest : Nests leaf path next) :
      Nests leaf (segment :: path) outer

theorem entryAt?_of_first {before after : List (Value × Value)}
    (h : ∀ entry ∈ before, entry.1 ≠ .text segment) :
    entryAt? (before ++ (.text segment, next) :: after) segment = some next := by
  rw [entryAt?_append, entryAt?_eq_none h, Option.none_or, entryAt?, if_pos rfl]

theorem lookup_eq_none {α : Type} {entries : List (String × α)}
    (h : ∀ entry ∈ entries, entry.1 ≠ segment) : entries.lookup segment = none := by
  rw [List.lookup_eq_none_iff]
  intro entry hentry
  simpa using (h entry hentry).symm

theorem segments_intercalate (hpath : path ≠ [])
    (hdots : ∀ segment ∈ path, '.' ∉ segment.toList) : segments (".".intercalate path) = path := by
  rw [segments, String.toList_intercalate]
  exact map_pieces_intercalate hpath hdots

section

variable [Platform]

theorem step_of_place {place : ℕ} (hitems : v.members? = some items)
    (hplace : IsPlace place segment.toList) :
    v.step segment = .ok (items[place]?.getD .null) := by
  rw [step, entrance_of_members? hitems]
  simp only [hplace.paddedNumeral?_eq, Option.bind_some, itemAt?_natCast]

theorem Holds.step_eq (h : Holds segment next outer) : outer.step segment = .ok next := by
  cases h with
  | entry hbefore | viewedEntry hbefore =>
      rw [step, entrance]
      simp only [entryAt?_of_first hbefore, Option.getD_some]
  | read hbefore hraising =>
      refine step_object_of_held (lookup_eq_none hraising) ?_
      rw [List.lookup_append, lookup_eq_none hbefore, Option.none_or, List.lookup_cons_self]
  | place hitems hplace =>
      rw [step_of_place hitems hplace, List.getElem?_append_right le_rfl, Nat.sub_self,
        List.getElem?_cons_zero, Option.getD_some]

theorem Nests.walk_eq (h : Nests leaf path v) : v.walk path = .ok leaf := by
  induction h with
  | here => rfl
  | within hholds _ ih =>
      rw [walk, hholds.step_eq]
      exact ih

/-! ### Paths of words -/

theorem resolve_of_isWord (hword : IsWord segment.toList) : v.resolve segment = v.step segment := by
  have hdots : ∀ found ∈ [segment], '.' ∉ found.toList := by
    intro found hfound
    rw [List.mem_singleton.mp hfound]
    exact hword.not_mem_dot
  have hsegments := segments_intercalate (List.cons_ne_nil segment []) hdots
  rw [String.intercalate_singleton] at hsegments
  rw [resolve, hsegments, walk]
  cases v.step segment <;> rfl

/--
A path of words leads to the value that lies in containers along it, whatever else they hold. On a
sequence a word leads to the member at its place if it stands for one, and to the empty value
otherwise.
-/
theorem paths_find_nested_values :
    (∀ (leaf v : Value) (path : List String), path ≠ [] →
      (∀ segment ∈ path, IsWord segment.toList) → Nests leaf path v →
        v.resolve (".".intercalate path) = .ok leaf) ∧
    ∀ (v : Value) (items : List Value) (segment : String), v.members? = some items →
      IsWord segment.toList →
        (∀ (place : ℕ) (hplace : place < items.length), IsPlace place segment.toList →
          v.resolve segment = .ok items[place]) ∧
        ((¬∃ place < items.length, IsPlace place segment.toList) →
          v.resolve segment = .ok .null) := by
  refine ⟨fun leaf v path hpath hwords hnests => ?_, fun v items segment hitems hword => ⟨?_, ?_⟩⟩
  · have hdots : ∀ segment ∈ path, '.' ∉ segment.toList :=
      fun segment hsegment => (hwords segment hsegment).not_mem_dot
    rw [resolve, segments_intercalate hpath hdots]
    exact hnests.walk_eq
  · intro place hplace hsegment
    rw [resolve_of_isWord hword, step_of_place hitems hsegment, List.getElem?_eq_getElem hplace,
      Option.getD_some]
  · intro hnone
    rw [resolve_of_isWord hword]
    cases hnumeral : paddedNumeral? segment.toList with
    | none => exact (LeadsNowhere.noIndex hitems hnumeral).step_eq
    | some n =>
        obtain ⟨place, rfl, hplace⟩ := hword.exists_isPlace hnumeral
        have hrange : items.length ≤ place := not_lt.mp fun hlt => hnone ⟨place, hlt, hplace⟩
        rw [step_of_place hitems hplace, List.getElem?_eq_none hrange, Option.getD_none]

end

open scoped Standard

/-- A member at a place with a leading zero, and a word that stands for no place. -/
theorem found_at_leading_zero :
    (mapping [(.text "z", .null),
        (.text "a", .tuple [.null, .object "C" [("b", .int 7)] []])]).resolve
          (".".intercalate ["a", "01", "b"]) = .ok (.int 7) ∧
      (list [.int 5]).resolve "1" = .ok .null := by
  have hone : IsPlace 1 "1".toList := by decide
  have hplace : IsPlace 1 "01".toList := by decide
  have hobject : Nests (.int 7) ["b"] (.object "C" [("b", .int 7)] []) :=
    .within (@Holds.read "b" (.int 7) "C" [] [] [] (by simp) (by simp)) .here
  have htuple : Nests (.int 7) ["01", "b"] (.tuple [.null, .object "C" [("b", .int 7)] []]) :=
    .within (@Holds.place "01" _ _ [.null] [] rfl hplace) hobject
  have hmapping := Nests.within (@Holds.entry "a" _ [(.text "z", .null)] [] (by simp)) htuple
  have hword : ∀ segment ∈ ["a", "01", "b"], IsWord segment.toList := by decide
  refine ⟨paths_find_nested_values.1 _ _ _ (List.cons_ne_nil _ _) hword hmapping, ?_⟩
  refine (paths_find_nested_values.2 _ [.int 5] "1" rfl (by decide)).2 ?_
  rintro ⟨place, hlt, hfound⟩
  obtain rfl : place = 1 := hfound.value.symm.trans hone.value
  exact absurd hlt (by decide)

end Value

end CallGuard
