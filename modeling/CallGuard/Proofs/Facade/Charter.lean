import CallGuard.Facade.Operations
import CallGuard.Proofs.Session.Frame
import CallGuard.Proofs.Value.Entries

/-!
# What a facade stands by

A facade is made for a namespace, under a title, with gates. Its delegates come to it one by one,
but each of them is the delegate of its symbol: it has the gate of the symbol, or none if the symbol
has none, and it looks the symbol up in the namespace. `Facade.Serves` says so. Symbols that are not
reserved name nothing that a facade has itself, so looking one up always gives its delegate.
-/

namespace CallGuard

open Session

/-- What stands in for a callable announces that calls suspend if the callable does. -/
theorem Callable.suspends_of_standIn [Platform] {c : Callable} {own home : String}
    {appearance : Appearance} (h : c.standIn own home = .ok appearance) :
    appearance.suspends = c.announcesSuspension := by
  rw [standIn] at h
  cases hlend : c.lend with
  | error e =>
      rw [hlend] at h
      cases h
  | ok names =>
      rw [hlend] at h
      cases h
      rfl

theorem Callable.standIn_of_error [Platform] {c : Callable} {e : Raised} (h : c.lend = .error e)
    (own home : String) : c.standIn own home = .error e := by
  rw [standIn, h]
  rfl

theorem Callable.exists_standIn [Platform] {c : Callable} {lent : Option String × Option String}
    (h : c.lend = .ok lent) (own home : String) : ∃ looks, c.standIn own home = .ok looks := by
  rw [standIn, h]
  exact ⟨_, rfl⟩

namespace Facade

/-! ### Symbols that are not reserved -/

section Symbols

variable {facade : Facade} {s : String}

theorem shape?_eq_none (hs : isReserved s = false) (htype : facade.type = none) :
    facade.shape? s = none := by
  have hreserved : ∀ name ∈ Table.names (definedShapes ++ commonShapes),
      isReserved name = true := by
    decide +kernel
  unfold shape? shapes
  rw [htype]
  apply Table.get?_eq_none_iff.mpr
  intro hmem
  rw [hreserved s hmem] at hs
  cases hs

theorem attribute?_eq_none (hs : isReserved s = false) (hextra : facade.extra = [])
    (names : Namespace) : facade.attribute? names s = none := by
  have hreserved : ∀ name ∈ [exportsName, gatesName, titleName, delegatesName],
      isReserved name = true := by
    decide +kernel
  have hne (name : String) (hname : name ∈ [exportsName, gatesName, titleName, delegatesName]) :
      (Value.text name : Value) ≠ .text s := by
    intro heq
    rw [Value.text.inj heq] at hname
    rw [hreserved s hname] at hs
    cases hs
  have hoption {α : Type} (name : String)
      (hname : name ∈ [exportsName, gatesName, titleName, delegatesName]) (held : Option α)
      (value : α → Value) : ∀ entry ∈ (held.map fun a => (Value.text name, value a)).toList,
      entry.1 ≠ .text s := by
    intro entry hentry
    cases held with
    | none => cases hentry
    | some a =>
        rw [List.mem_singleton.mp hentry]
        exact hne name hname
  unfold attribute? attributes
  rw [hextra, List.append_nil]
  apply Value.entryAt?_eq_none
  intro entry hentry
  rcases List.mem_append.mp hentry with hentry | hentry
  · rcases List.mem_append.mp hentry with hentry | hentry
    · rcases List.mem_append.mp hentry with hentry | hentry
      · exact hoption exportsName (by simp) _ _ entry hentry
      · exact hoption gatesName (by simp) _ _ entry hentry
    · exact hoption titleName (by simp) _ (fun v => v) entry hentry
  · exact hoption delegatesName (by simp) _ _ entry hentry

/-- A symbol that is not reserved names nothing that a facade has itself. -/
theorem ownTarget?_eq_none (hs : isReserved s = false) (hextra : facade.extra = [])
    (htype : facade.type = none) (names : Namespace) : facade.ownTarget? names s = none := by
  unfold ownTarget?
  rw [shape?_eq_none hs htype, attribute?_eq_none hs hextra]
  split <;> rfl

end Symbols

/-! ### Charters -/

/-- What a facade is made for: its namespace and what that held then, its title and its gates. -/
structure Charter where
  names : NamespaceId
  ofModule : Bool
  original : Namespace
  title : Value
  gates : Table Gate

def Charter.made (name : Value) (names : NamespaceId) (ofModule : Bool) (gates : Table Gate)
    (session : Session) : Charter :=
  { names
    ofModule
    original := session.namespaceAt names
    title := titleOf name
    gates }

variable [Platform]

/-- A delegate is the one of a symbol, with the gate of the symbol if that has one. -/
structure Charter.IsDelegate (charter : Charter) (s : String) (delegate : Delegate) : Prop where
  symbol : delegate.symbol = s
  check : delegate.check = (Table.get? charter.gates s).map .gate
  exports : delegate.exports = .names charter.names charter.ofModule
  title : delegate.title = charter.title
  appearance : (Table.get? charter.gates s).isSome →
    Appearance.ofMember s (Table.get? charter.original s) = .ok delegate.appearance

def known? (facade : Facade) (s : String) : Option Member :=
  match facade.delegates with
  | some (.kept members) => Value.entryAt? members s
  | _ => none

/-- A facade is as it was made, but for delegates that have come to it since. -/
structure Serves (charter : Charter) (facade : Facade) : Prop where
  exports : facade.exports = some (.names charter.names charter.ofModule)
  title : facade.title = some charter.title
  extra : facade.extra = []
  type : facade.type = none
  kept : ∃ members, facade.delegates = some (.kept members)
  known : ∀ s member, facade.known? s = some member →
    ∃ delegate, member = .made delegate ∧ charter.IsDelegate s delegate
  gated : ∀ s, (Table.get? charter.gates s).isSome → (facade.known? s).isSome

theorem entryAt?_gateDelegates {exports : Exports} {title : Value} {names : Namespace}
    {serial : Nat} {gates : Table Gate} {members : List (Value × Member)}
    (h : gateDelegates exports title names serial gates = .ok members) (s : String) :
    (Table.get? gates s = none → Value.entryAt? members s = none) ∧
      ∀ gate, Table.get? gates s = some gate → ∃ appearance own,
        Appearance.ofMember s (Table.get? names s) = .ok appearance ∧
        Value.entryAt? members s =
          some (.made ⟨s, some (.gate gate), exports, title, appearance, own⟩) := by
  induction gates generalizing serial members with
  | nil =>
      cases h
      exact ⟨fun _ => rfl, fun _ h => absurd h.symm (Option.some_ne_none _)⟩
  | cons entry rest ih =>
      obtain ⟨symbol, gate⟩ := entry
      obtain ⟨appearance, happearance, h⟩ := exists_of_bind_eq_ok h
      obtain ⟨others, hothers, h⟩ := exists_of_bind_eq_ok h
      cases h
      rw [Table.get?, Value.entryAt?]
      by_cases hs : symbol = s
      · subst hs
        rw [if_pos rfl, if_pos rfl]
        refine ⟨fun h => absurd h (Option.some_ne_none _), fun _ h => ?_⟩
        cases h
        exact ⟨appearance, serial, happearance, rfl⟩
      · rw [if_neg hs, if_neg hs]
        exact ih hothers

theorem serves_make {name : Value} {place : NamespaceId} {ofModule : Bool} {names : Namespace}
    {gates : Table Gate} {facade : Facade} (h : make name place ofModule names gates = .ok facade) :
    facade.Serves ⟨place, ofModule, names, titleOf name, gates⟩ := by
  obtain ⟨members, hmembers, h⟩ := exists_of_bind_eq_ok h
  cases h
  refine ⟨rfl, rfl, rfl, rfl, ⟨members, rfl⟩, fun s member hmember => ?_, fun s hgated => ?_⟩
  · obtain ⟨hnone, hsome⟩ := entryAt?_gateDelegates hmembers s
    cases hgate : Table.get? gates s with
    | none => cases (hnone hgate).symm.trans hmember
    | some gate =>
        obtain ⟨appearance, own, happearance, hentry⟩ := hsome gate hgate
        cases hentry.symm.trans hmember
        exact ⟨_, rfl, rfl, by rw [hgate, Option.map_some], rfl, rfl, fun _ => happearance⟩
  · obtain ⟨gate, hgate⟩ := Option.isSome_iff_exists.mp hgated
    obtain ⟨appearance, own, -, hentry⟩ := (entryAt?_gateDelegates hmembers s).2 gate hgate
    exact Option.isSome_iff_exists.mpr ⟨_, hentry⟩

theorem isSome_gate_of_known_make {name : Value} {place : NamespaceId} {ofModule : Bool}
    {names : Namespace} {gates : Table Gate} {facade : Facade} {s : String} {member : Member}
    (h : make name place ofModule names gates = .ok facade)
    (hknown : facade.known? s = some member) :
    (Table.get? gates s).isSome := by
  obtain ⟨members, hmembers, h⟩ := exists_of_bind_eq_ok h
  cases h
  obtain ⟨hnone, _⟩ := entryAt?_gateDelegates hmembers s
  cases hgate : Table.get? gates s with
  | none => cases (hnone hgate).symm.trans hknown
  | some gate => rfl

end Facade

namespace Session

open Facade

variable {session : Session} {place other : FacadeId} {charter : Charter} {facade : Facade}

/-! ### Facades of a session -/

theorem facadeAt_setFacade_self (h : place < session.facades.size) (facade : Facade) :
    (session.setFacade place facade).facadeAt place = facade := by
  simp [facadeAt, setFacade, h]

theorem facadeAt_setFacade_of_ne (h : other ≠ place) (facade : Facade) :
    (session.setFacade other facade).facadeAt place = session.facadeAt place := by
  simp [facadeAt, setFacade, h]

theorem setFacade_facadeAt (h : place < session.facades.size) :
    session.setFacade place (session.facadeAt place) = session := by
  have hfacades : session.facades.setIfInBounds place (session.facadeAt place) =
      session.facades := by
    simp [facadeAt, Array.setIfInBounds, h]
  rw [setFacade, hfacades]

theorem facadeAt_addFacade_self (session : Session) (facade : Facade) :
    (session.addFacade facade).2.facadeAt session.facades.size = facade := by
  simp [facadeAt, addFacade]

theorem facadeAt_addFacade_of_lt (h : place < session.facades.size) (facade : Facade) :
    (session.addFacade facade).2.facadeAt place = session.facadeAt place := by
  simp [facadeAt, addFacade, Array.getElem?_push_lt h, Array.getElem?_eq_getElem h]

theorem facadeAt_of_facades {before after : Session} (h : after.facades = before.facades)
    (place : FacadeId) : after.facadeAt place = before.facadeAt place := by
  simp only [facadeAt, h]

variable [Platform]

structure ServesAt (session : Session) (place : FacadeId) (charter : Charter) : Prop where
  placed : place < session.facades.size
  serves : (session.facadeAt place).Serves charter

/-- Whatever serves a charter at a place goes on serving it, with the delegates that it had. -/
def Upholds (charter : Charter) (place : FacadeId) (before after : Session) : Prop :=
  before.ServesAt place charter → after.ServesAt place charter ∧
    ∀ s member, (before.facadeAt place).known? s = some member →
      (after.facadeAt place).known? s = some member

instance (charter : Charter) (place : FacadeId) : Lasting (Upholds charter place) where
  refl _ h := ⟨h, fun _ _ hknown => hknown⟩
  trans first second h := by
    obtain ⟨hbetween, hkept⟩ := first h
    obtain ⟨hafter, hlater⟩ := second hbetween
    exact ⟨hafter, fun s member hknown => hlater s member (hkept s member hknown)⟩

theorem upholds_of_facades {before after : Session} (h : after.facades = before.facades) :
    Upholds charter place before after := by
  intro hserves
  rw [facadeAt_of_facades h]
  refine ⟨⟨?_, ?_⟩, fun s member hknown => hknown⟩
  · rw [h]
    exact hserves.placed
  · rw [facadeAt_of_facades h]
    exact hserves.serves

theorem SameStores.upholds {before after : Session} (h : before.SameStores after) :
    Upholds charter place before after :=
  upholds_of_facades h.facades

theorem upholds_setFacade_of_ne (h : other ≠ place) (facade : Facade) :
    Upholds charter place session (session.setFacade other facade) := by
  intro hserves
  rw [facadeAt_setFacade_of_ne h]
  refine ⟨⟨?_, ?_⟩, fun _ _ hknown => hknown⟩
  · simp only [setFacade, Array.size_setIfInBounds]
    exact hserves.placed
  · rw [facadeAt_setFacade_of_ne h]
    exact hserves.serves

theorem upholds_setFacade_self (hserves : facade.Serves charter)
    (hknown : ∀ s member, (session.facadeAt place).known? s = some member →
      facade.known? s = some member) :
    Upholds charter place session (session.setFacade place facade) := by
  intro h
  have hself := facadeAt_setFacade_self h.placed facade
  refine ⟨⟨?_, ?_⟩, fun s member hmember => ?_⟩
  · simp only [setFacade, Array.size_setIfInBounds]
    exact h.placed
  · rw [hself]
    exact hserves
  · rw [hself]
    exact hknown s member hmember

theorem upholds_addFacade (facade : Facade) :
    Upholds charter place session (session.addFacade facade).2 := by
  intro hserves
  rw [facadeAt_addFacade_of_lt hserves.placed]
  refine ⟨⟨?_, ?_⟩, fun _ _ hknown => hknown⟩
  · simp only [addFacade, Array.size_push]
    exact Nat.lt_succ_of_lt hserves.placed
  · rw [facadeAt_addFacade_of_lt hserves.placed]
    exact hserves.serves

end Session

end CallGuard
