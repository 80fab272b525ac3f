import CallGuard.Proofs.Facade.Upheld
import CallGuard.Registry.Operations
import Mathlib.Logic.Relation

/-!
# Histories

Between two calls of a facade much can happen: other facades are asked and called, what a call left
to be awaited runs, predicates are registered and forgotten, and names are bound, bound anew and
taken away in any namespace. A history is any number of such steps. The only thing that is left out
is a call of the parts of the facade itself that rewrite it. Over a history a facade goes on serving
its charter, and a delegate that it has come to stays.
-/

namespace CallGuard

open Session Facade

variable [Platform]

/-- One thing that happens to a session besides rewriting the facade at a place. -/
inductive Step (place : FacadeId) (session : Session) : Session → Prop
  | ask (access : Access) (other : FacadeId) (symbol : Value) :
      Step place session ((ask access other symbol).on session).2
  | call (access : Access) (other : FacadeId) (symbol : Value) (arguments : Arguments)
      (h : other ≠ place ∨ ∀ name ∈ rewriting, symbol ≠ .text name) :
      Step place session ((callBy access other symbol arguments).on session).2
  | await {access : Access} {other : FacadeId} {symbol : Value} {arguments : Arguments}
      {earlier reached : Session} {rest : Run Value}
      (h : (callBy access other symbol arguments).on earlier = (.ok (.suspended rest), reached)) :
      Step place session (rest.on session).2
  | register (registry : Option RegistryId) (tag : Value) (predicate : Predicate) :
      Step place session ((Registry.registerIn registry tag predicate).on session).2
  | reset (registry : Option RegistryId) :
      Step place session ((Registry.resetIn registry).on session).2
  | bind (names : NamespaceId) (s : String) (v : Value) :
      Step place session (session.setNamespace names (Table.put (session.namespaceAt names) s v))
  | unbind (names : NamespaceId) (s : String) :
      Step place session (session.setNamespace names (Table.drop (session.namespaceAt names) s))

abbrev History (place : FacadeId) : Session → Session → Prop :=
  Relation.ReflTransGen (Step place)

variable {place : FacadeId} {session after : Session} {charter : Charter}

theorem upholds_setRegistry (registry : Option RegistryId) (changed : Registry) :
    Upholds charter place session (session.setRegistry registry changed) := by
  apply upholds_of_facades
  cases registry with
  | none => rfl
  | some registry => rfl

theorem Registry.registerIn_upholds (registry : Option RegistryId) (tag : Value)
    (predicate : Predicate) :
    (Registry.registerIn registry tag predicate).Keeps (Upholds charter place) := by
  refine Run.Keeps.get.bind fun session => ?_
  dsimp only
  split
  · exact Run.Keeps.throw _
  · refine Run.Keeps.bind (fun session => upholds_setRegistry registry _) fun _ => ?_
    exact (Run.log_keeps _ _ _ _).sameStores.upholds

theorem Step.upholds (h : Step place session after) : Upholds charter place session after := by
  cases h with
  | ask access other symbol => exact ask_upholds access symbol session
  | call access other symbol arguments hsymbol =>
      exact callBy_upholds access hsymbol arguments session
  | await hcall =>
      have hmild := isMild_of_callBy hcall
      exact (hmild session).upholds
  | register registry tag predicate =>
      exact Registry.registerIn_upholds registry tag predicate session
  | reset registry => exact upholds_setRegistry registry .builtin
  | bind names s v => exact upholds_of_facades rfl
  | unbind names s => exact upholds_of_facades rfl

theorem History.upholds (h : History place session after) :
    Upholds charter place session after := by
  induction h with
  | refl => exact Lasting.refl session
  | tail _ hstep ih => exact Lasting.trans ih hstep.upholds

namespace Facade

theorem on_create (name : Value) (names : NamespaceId) (ofModule : Bool) (gates : Table Gate)
    (start : Session) :
    (create name names ofModule gates).on start =
      match make name names ofModule (start.namespaceAt names) gates with
      | .ok facade => (.ok start.facades.size, (start.addFacade facade).2)
      | .error e => (.error (.raised e), start) := by
  rw [create, Run.on_bind_of_ok (Run.on_get start)]
  cases make name names ofModule (start.namespaceAt names) gates with
  | ok facade => rfl
  | error e => rfl

/-- A new facade stands at a new place and serves what it was made for. -/
theorem exists_create (name : Value) (names : NamespaceId) (ofModule : Bool) (gates : Table Gate)
    {start created : Session}
    (h : (create name names ofModule gates).on start = (.ok place, created)) :
    created.ServesAt place (.made name names ofModule gates start) ∧
      ∃ facade, make name names ofModule (start.namespaceAt names) gates = .ok facade ∧
        created = (start.addFacade facade).2 := by
  have hrun := on_create name names ofModule gates start
  cases hmake : make name names ofModule (start.namespaceAt names) gates with
  | error e =>
      rw [hmake] at hrun
      cases hrun.symm.trans h
  | ok facade =>
      rw [hmake] at hrun
      cases hrun.symm.trans h
      refine ⟨⟨?_, ?_⟩, facade, rfl, rfl⟩
      · simp only [addFacade, Array.size_push]
        exact Nat.lt_succ_self _
      · rw [facadeAt_addFacade_self]
        exact serves_make hmake

end Facade

end CallGuard
