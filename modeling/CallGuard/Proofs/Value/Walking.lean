import CallGuard.Proofs.Text.Cutting
import CallGuard.Proofs.Value.Entries
import CallGuard.Standard.Platform
import CallGuard.Value.Path

/-!
# Walking dotted paths

Two paths joined by a point lead where the second one leads from the value at the first. A walk
fails only with what the reading of an attribute raises, or what a mapping or a sequence of a type
of its own raises when it is entered; if those answer as they promise, with the former alone. A step
that finds nothing leaves the empty value to the rest of the path.
-/

namespace CallGuard.Value

open CallGuard.Number CallGuard.Text

variable {v owner : Value} {e : Raised} {segment : String} {front rest : List String}
  {items : List Value} {index : ℤ}

/-! ### Sequences -/

/-- The members of a sequence that is no text and no bytes, in order. -/
def members? : Value → Option (List Value)
  | .list items => some items
  | .tuple items => some items
  | .deque items => some items
  | .record _ fields => some (fields.map (·.2))
  | .byteArray bs => some (bs.map fun b => .int b.toNat)
  | .range start stop step => some (rangeItems start stop step)
  | _ => none

theorem itemAt?_natCast (items : List Value) (place : ℕ) : itemAt? items place = items[place]? := by
  have hplace : ¬(place : ℤ) < 0 := by omega
  rw [itemAt?, if_neg hplace, if_neg hplace, Int.toNat_natCast]

theorem itemAt?_eq_none (h : index < -items.length ∨ items.length ≤ index) :
    itemAt? items index = none := by
  rw [itemAt?]
  by_cases hsign : index < 0
  · rw [if_pos hsign, if_pos (by omega)]
  · rw [if_neg hsign, if_neg hsign]
    exact List.getElem?_eq_none (by omega)

/-- The item of a range is the one at its place when all of them are laid out. -/
theorem rangeItemAt?_eq_itemAt? (start stop step : ℤ) :
    rangeItemAt? start stop step = itemAt? (rangeItems start stop step) := by
  have hlength : (rangeItems start stop step).length = rangeCount start stop step := by
    rw [rangeItems, List.length_map, List.length_range]
  funext index
  rw [rangeItemAt?, itemAt?, hlength]
  generalize (if index < 0 then index + (rangeCount start stop step : ℤ) else index) = place
  by_cases hlow : place < 0
  · rw [if_pos hlow, if_pos (by simp [hlow])]
  · rw [if_neg hlow]
    by_cases hhigh : place ≥ rangeCount start stop step
    · rw [if_pos (by simp [hhigh]), List.getElem?_eq_none (by omega)]
    · have hplace : place.toNat < rangeCount start stop step := by omega
      have hcast : ((place.toNat : ℕ) : ℤ) = place := by omega
      rw [if_neg (by simp [hlow, hhigh]), rangeItems, List.getElem?_map,
        List.getElem?_range hplace, Option.map_some, hcast]

section

variable [Platform]

theorem entrance_of_members? (h : v.members? = some items) :
    v.entrance = .indexed (itemAt? items) := by
  cases v with
  | range start stop step =>
      cases h
      rw [entrance, rangeItemAt?_eq_itemAt?]
  | list | tuple | deque | record | byteArray =>
      cases h
      rfl
  | _ => cases h

/-! ### Steps -/

theorem step_of_read {found : Option Value} (hentrance : v.entrance = .attributed)
    (hread : v.attribute? segment = .ok found) : v.step segment = .ok (found.getD .null) := by
  simp only [step, hentrance, hread]

theorem step_of_raised (hentrance : v.entrance = .attributed)
    (hread : v.attribute? segment = .error e) :
    v.step segment = if e.kind = attributeErrorKind then .ok .null else .error e := by
  simp only [step, hentrance, hread]

theorem step_object_of_held {type : String} {attributes : List (String × Value)}
    {raising : List (String × Raised)} {held : Value} (hraising : raising.lookup segment = none)
    (hheld : attributes.lookup segment = some held) :
    (object type attributes raising).step segment = .ok held := by
  have hread : (object type attributes raising).attribute? segment = .ok (some held) := by
    simp only [attribute?, hraising, hheld]
  rw [step_of_read rfl hread, Option.getD_some]

/-- Entering a mapping or a sequence of a type of its own raises an error. -/
def Refuses (v : Value) (segment : String) (e : Raised) : Prop :=
  ∃ enter, v.entrance = .own enter ∧ enter segment = .error e

/-- A step that finds nothing. -/
inductive LeadsNowhere : Value → String → Prop
  | null (segment : String) : LeadsNowhere .null segment
  | noKey {entries : List (Value × Value)} {segment : String}
      (hkeys : ∀ entry ∈ entries, entry.1 ≠ .text segment) :
      LeadsNowhere (.mapping entries) segment
  | noKeyInView {entries : List (Value × Value)} {segment : String}
      (hkeys : ∀ entry ∈ entries, entry.1 ≠ .text segment) :
      LeadsNowhere (.view entries) segment
  | noIndex {v : Value} {items : List Value} {segment : String}
      (hitems : v.members? = some items) (hindex : paddedNumeral? segment.toList = none) :
      LeadsNowhere v segment
  | outOfRange {v : Value} {items : List Value} {segment : String} {index : ℤ}
      (hitems : v.members? = some items) (hindex : paddedNumeral? segment.toList = some index)
      (hrange : index < -items.length ∨ items.length ≤ index) : LeadsNowhere v segment
  | noAttribute {v : Value} {segment : String} (hentrance : v.entrance = .attributed)
      (hattribute : v.attribute? segment = .ok none) : LeadsNowhere v segment
  | attributeError {v : Value} {segment : String} {e : Raised}
      (hentrance : v.entrance = .attributed)
      (hattribute : v.attribute? segment = .error e) (hkind : e.kind = attributeErrorKind) :
      LeadsNowhere v segment

theorem LeadsNowhere.step_eq (h : v.LeadsNowhere segment) : v.step segment = .ok .null := by
  cases h with
  | null => rfl
  | noKey hkeys | noKeyInView hkeys =>
      rw [step, entrance]
      simp only [entryAt?_eq_none hkeys, Option.getD_none]
  | noIndex hitems hindex =>
      rw [step, entrance_of_members? hitems]
      simp only [hindex, Option.bind_none, Option.getD_none]
  | outOfRange hitems hindex hrange =>
      rw [step, entrance_of_members? hitems]
      simp only [hindex, Option.bind_some, itemAt?_eq_none hrange, Option.getD_none]
  | noAttribute hentrance hattribute =>
      rw [step_of_read hentrance hattribute, Option.getD_none]
  | attributeError hentrance hattribute hkind =>
      rw [step_of_raised hentrance hattribute, if_pos hkind]

theorem walk_append (v : Value) (front rest : List String) :
    v.walk (front ++ rest) = v.walk front >>= fun next => next.walk rest := by
  induction front generalizing v with
  | nil => rfl
  | cons segment front ih =>
      rw [List.cons_append, walk, walk]
      cases v.step segment with
      | ok next => exact ih next
      | error e => rfl

end

open scoped Standard

end CallGuard.Value
