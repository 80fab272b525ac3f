import CallGuard.Proofs.Facade.Dispatch
import CallGuard.Proofs.Gate.Guard
import CallGuard.Proofs.Module.Wrap
import CallGuard.Proofs.Session.Returning
import CallGuard.Standard.Platform

/-!
# Calls of a wrapped module

The documentation of a function, as it was when its module was wrapped, guards every later call of
it: the call goes on to what the name stands for by then exactly when that can be called and the
arguments are what the parameter lines declare, as the registry is by then. Neither a history of
calls, registrations and bindings nor the way of asking for the function makes a difference.
-/

namespace CallGuard

open Declaration Session

/-! ### Questions that have nothing to do with facades -/

def Run.IgnoresFacades {α : Type} (operation : Run α) : Prop :=
  ∀ (session : Session) place facade, operation.on (session.setFacade place facade) =
    ((operation.on session).1, (operation.on session).2.setFacade place facade)

namespace Run.IgnoresFacades

variable {α β : Type}

theorem pure (a : α) : (Pure.pure a : Run α).IgnoresFacades := fun _ _ _ => rfl

theorem raise (e : Raised) : (Run.raise e : Run α).IgnoresFacades := fun _ _ _ => rfl

theorem ofExcept (given : Except Raised α) : (Run.ofExcept given).IgnoresFacades := by
  cases given with
  | ok a => exact pure a
  | error e => exact raise e

theorem bind {first : Run α} {next : α → Run β} (hfirst : first.IgnoresFacades)
    (hnext : ∀ a, (next a).IgnoresFacades) : (first >>= next).IgnoresFacades := by
  intro session place facade
  rw [Run.on_bind, Run.on_bind, hfirst]
  rcases first.on session with ⟨outcome, after⟩
  cases outcome with
  | ok a => exact hnext a after place facade
  | error failure => rfl

theorem allM {p : α → Run Bool} (h : ∀ a, (p a).IgnoresFacades) (as : List α) :
    (as.allM p).IgnoresFacades := by
  induction as with
  | nil => exact pure true
  | cons a as ih =>
      rw [List.allM_cons]
      refine (h a).bind fun yes => ?_
      cases yes with
      | true => exact ih
      | false => exact pure false

variable [Platform]

theorem call (v : Value) (arguments : Arguments) : (v.call arguments).IgnoresFacades := by
  cases v with
  | callable c =>
      rw [Value.call]
      split
      · split
        · exact pure _
        · exact fun _ _ _ => rfl
      · intro session place facade
        rw [Callable.on_run, Callable.on_run]
        rfl
  | _ => exact raise _

theorem checkIn (registry : Option RegistryId) (tag : String) (v : Value) :
    (Registry.checkIn registry tag v).IgnoresFacades := by
  intro session place facade
  rw [Registry.checkIn, Run.on_bind_of_ok (Run.on_get _), Run.on_bind_of_ok (Run.on_get _)]
  have hregistry : (session.setFacade place facade).registry registry =
      session.registry registry := by
    cases registry with
    | none => rfl
    | some registry => rfl
  rw [hregistry]
  cases (session.registry registry).constraint? tag with
  | none => rfl
  | some predicate =>
      cases predicate with
      | builtin type => rfl
      | custom p => exact (call p _).bind (fun answer => pure _) session place facade

theorem holds (registry : Option RegistryId) (constraint : Gate.Constraint) :
    (constraint.holds registry).IgnoresFacades :=
  (ofExcept _).bind fun v => checkIn registry constraint.tag v

end Run.IgnoresFacades

/-! ### Guarded calls -/

def Session.callableAt (session : Session) (names : NamespaceId) (s : String) : Option Callable :=
  match Table.get? (session.namespaceAt names) s with
  | some (.callable c) => some c
  | _ => none

/--
A callable has been called once with arguments, after the calls of an earlier session; besides it,
at most a coroutine that it returned has run.
-/
def Session.Invoked (c : Callable) (arguments : Arguments) (earlier later : Session) : Prop :=
  ∃ awaited : Option Invocation,
    later.invocations = awaited.toList ++ ⟨c.id, arguments⟩ :: earlier.invocations

theorem not_invoked_of_invocations {c : Callable} {arguments : Arguments} {checked final : Session}
    (h : final.invocations = checked.invocations) : ¬Invoked c arguments checked final := by
  rintro ⟨awaited, hinvocations⟩
  have hlength := congrArg List.length hinvocations
  rw [h, List.length_append, List.length_cons] at hlength
  omega

section

variable [Platform]

/--
The outcome of a call and the session after it, told from the session before it and from constraints
that are checked first. The call invokes what the name is bound to exactly when that is a callable
and all constraints hold. Otherwise it fails and invokes nothing but what the checks do.
-/
structure Guards (names : NamespaceId) (s : String) (registry : Option RegistryId)
    (constraints : List Gate.Constraint) (arguments : Arguments) (before : Session)
    (outcome : Except Failure Value) (final : Session) : Prop where
  invoked_iff : ∀ answer checked,
    (constraints.allM (Gate.Constraint.holds registry)).on before = (answer, checked) →
      ((∃ c, before.callableAt names s = some c ∧ Invoked c arguments checked final) ↔
        (before.callableAt names s).isSome ∧ answer = .ok true)
  refused : ∀ answer checked,
    (constraints.allM (Gate.Constraint.holds registry)).on before = (answer, checked) →
      ¬((before.callableAt names s).isSome ∧ answer = .ok true) →
        (∃ failure, outcome = .error failure) ∧ final.invocations = checked.invocations

namespace Guards

variable {names : NamespaceId} {s : String} {registry : Option RegistryId}
  {constraints : List Gate.Constraint} {arguments : Arguments} {before checked final : Session}
  {outcome : Except Failure Value} {answer : Except Failure Bool}

theorem of_refused
    (hasked : (constraints.allM (Gate.Constraint.holds registry)).on before = (answer, checked))
    (hnot : ¬((before.callableAt names s).isSome ∧ answer = .ok true))
    (houtcome : ∃ failure, outcome = .error failure)
    (hinvocations : final.invocations = checked.invocations) :
    Guards names s registry constraints arguments before outcome final := by
  constructor
  · intro given reached hgiven
    rw [hasked] at hgiven
    cases hgiven
    constructor
    · rintro ⟨c, _, hinvoked⟩
      exact absurd hinvoked (not_invoked_of_invocations hinvocations)
    · exact fun h => absurd h hnot
  · intro given reached hgiven _
    rw [hasked] at hgiven
    cases hgiven
    exact ⟨houtcome, hinvocations⟩

theorem of_invoked {c : Callable}
    (hasked : (constraints.allM (Gate.Constraint.holds registry)).on before = (.ok true, checked))
    (hbound : before.callableAt names s = some c) (hinvoked : Invoked c arguments checked final) :
    Guards names s registry constraints arguments before outcome final := by
  have hboth : (before.callableAt names s).isSome ∧
      (.ok true : Except Failure Bool) = .ok true := by
    rw [hbound]
    exact ⟨rfl, rfl⟩
  constructor
  · intro given reached hgiven
    rw [hasked] at hgiven
    cases hgiven
    exact ⟨fun _ => hboth, fun _ => ⟨c, hbound, hinvoked⟩⟩
  · intro given reached hgiven hnot
    rw [hasked] at hgiven
    cases hgiven
    exact absurd hboth hnot

theorem of_setFacade {place : FacadeId} {facade : Facade}
    (h : Guards names s registry constraints arguments (before.setFacade place facade) outcome
      final) :
    Guards names s registry constraints arguments before outcome final := by
  have hasked {answer : Except Failure Bool} {checked : Session}
      (hon : (constraints.allM (Gate.Constraint.holds registry)).on before = (answer, checked)) :
      (constraints.allM (Gate.Constraint.holds registry)).on (before.setFacade place facade) =
        (answer, checked.setFacade place facade) := by
    rw [Run.IgnoresFacades.allM (Run.IgnoresFacades.holds registry) constraints, hon]
  constructor
  · intro answer checked hon
    exact h.invoked_iff answer (checked.setFacade place facade) (hasked hon)
  · intro answer checked hon
    exact h.refused answer (checked.setFacade place facade) (hasked hon)

end Guards

namespace Facade

/-- A call that its gate lets pass invokes the callable that its symbol is bound to. -/
theorem Charter.Dispatches.invoked_of_pass {charter : Charter} {s : String} {arguments : Arguments}
    {suspends : Bool} {before checked final : Session} {outcome : Except Failure Value}
    {c : Callable} (h : charter.Dispatches s arguments suspends before outcome final)
    (hpass : (charter.pass s arguments).on before = (.ok (), checked))
    (hbound : charter.bound? before s = some c) : Invoked c arguments checked final := by
  cases hfits : c.misfit? arguments with
  | some e =>
      obtain ⟨_, rfl⟩ := h.unfit checked c e hpass hbound hfits
      exact ⟨none, rfl⟩
  | none =>
      obtain ⟨result, ran, _, hran, hfinal⟩ := h.invoked checked c hpass hbound hfits
      rcases hfinal with rfl | ⟨coroutine, positional, named, _, rfl⟩
      · exact ⟨none, hran⟩
      · refine ⟨some ⟨coroutine.id, positional, named⟩, ?_⟩
        rw [Callable.on_run, hran]
        rfl

/-- A call that is dispatched through a gate of lines that raises is guarded by those lines. -/
theorem Charter.Dispatches.guards {charter : Charter} {s : String} {arguments : Arguments}
    {suspends : Bool} {before final : Session} {outcome : Except Failure Value} {gate : Gate}
    {lines : List Value} (h : charter.Dispatches s arguments suspends before outcome final)
    (hgate : Table.get? charter.gates s = some gate) (hreporter : gate.reporter = some .raising)
    (houtline : gate.outline = Outline.ofLines lines) :
    Guards charter.names s gate.registry (Gate.constraintsFrom arguments 0 lines) arguments before
      outcome final := by
  have hpass : charter.pass s arguments = gate.pass arguments := by
    rw [Charter.pass, hgate]
  have hdecides := Gate.decides_pass hreporter houtline arguments before
  rw [← hpass] at hdecides
  rcases hasked : ((Gate.constraintsFrom arguments 0 lines).allM
    (Gate.Constraint.holds gate.registry)).on before with ⟨answer, checked⟩
  rw [hasked] at hdecides
  cases answer with
  | error failure =>
      obtain ⟨houtcome, hfinal⟩ := h.refused failure checked hdecides
      refine .of_refused hasked (by rintro ⟨_, hok⟩; cases hok) ⟨_, houtcome⟩ ?_
      rw [hfinal]
  | ok yes =>
      cases yes with
      | false =>
          obtain ⟨failure, journal, hfails⟩ := hdecides
          obtain ⟨houtcome, hfinal⟩ := h.refused failure _ hfails
          refine .of_refused hasked (by rintro ⟨_, hok⟩; cases hok) ⟨_, houtcome⟩ ?_
          rw [hfinal]
      | true =>
          cases hbound : charter.bound? before s with
          | none =>
              obtain ⟨houtcome, hfinal⟩ := h.missing checked hdecides hbound
              have hnone : before.callableAt charter.names s = none := hbound
              refine .of_refused hasked ?_ ⟨_, houtcome⟩ (by rw [hfinal])
              rintro ⟨hsome, _⟩
              rw [hnone] at hsome
              cases hsome
          | some c => exact .of_invoked hasked hbound (h.invoked_of_pass hdecides hbound)

end Facade

namespace Module

open Facade

/--
After any history, a call of an exported function is guarded by the lines that documented it when
its module was wrapped: by their constraints as they hold in the session of the call, or in that
of awaiting it if the function suspends. When checks depend on the value alone, the constraints hold
if and only if the arguments are what the lines declare.
-/
theorem call_of_wrapped {module : Module} {registry : Option RegistryId}
    {start wrapped now : Session} {place : FacadeId} {loaded : LoadedSettings}
    {exports : List Value} {s : String} {c : Callable} {lines : List String}
    (hwrap : (module.wrap registry (some .raising)).on start = (.ok place, wrapped))
    (hsettings : wrapped.settings = some loaded) (henabled : loaded.settings.enabled = true)
    (hexports : ((Namespace.exported (start.namespaceAt module.names)).on start).1 = .ok exports)
    (hexported : .text s ∈ exports) (hs : isReserved s = false)
    (hmember : Table.get? (start.namespaceAt module.names) s = some (.callable c))
    (hlines : c.parameterLines = some lines) (hhistory : History place wrapped now)
    (arguments : Arguments) :
    let declared := lines.map Value.text
    let constraints := Gate.constraintsFrom arguments 0 declared
    (∀ access, Guards module.names s registry constraints arguments now
      ((callAwaited access place (.text s) arguments).on now).1
      ((callAwaited access place (.text s) arguments).on now).2) ∧
    (c.announcesSuspension = true → ∀ access, ∃ rest looked,
      (callBy access place (.text s) arguments).on now = (.ok (.suspended rest), looked) ∧
      looked.invocations = now.invocations ∧
      ∀ later, Guards module.names s registry constraints arguments later (rest.on later).1
        (rest.on later).2) ∧
    ∀ session check,
      (∀ reached, session.SameStores reached → ∀ tag v,
        ((Registry.checkIn registry tag v).on reached).1 = check tag v) →
      (((constraints.allM (Gate.Constraint.holds registry)).on session).1 = .ok true ↔
        Gate.Valid check declared arguments) := by
  intro declared constraints
  obtain ⟨name, gates, before, hcreate, hgate, hbound⟩ :=
    exists_gate_of_wrap hwrap hsettings henabled hexports hexported hs hmember hlines
  obtain ⟨hwrapped, _⟩ := exists_create _ _ _ _ hcreate
  obtain ⟨hserves, _⟩ := hhistory.upholds hwrapped
  have hgated : (Table.get? gates s).isSome := by
    rw [hgate]
    rfl
  obtain ⟨delegate, facade, hask, hdelegate, _⟩ :=
    exists_ask hserves hs (not_refuses_of_gated hserves hgated)
  refine ⟨fun access => ?_, fun hsuspends access => ?_, fun session check hcheck => ?_⟩
  · rw [on_callAwaited_of_made (hask access)]
    exact ((hdelegate.dispatches_awaited arguments _).guards hgate rfl rfl).of_setFacade
  · have happearance : delegate.appearance.suspends = true := by
      have hlooks := hdelegate.appearance hgated
      simp only [Charter.made, hbound] at hlooks
      rw [Callable.suspends_of_standIn hlooks]
      exact hsuspends
    exact ⟨_, _, on_callBy_of_suspends (hask access) happearance arguments, rfl, fun later =>
      (hdelegate.dispatches_resumed arguments later).guards hgate rfl rfl⟩
  · rw [Gate.allM_holds_iff hcheck constraints (Lasting.refl session)]
    exact Gate.valid_iff.symm

end Module

end

open scoped Standard

namespace Module

open Facade

def documented : Callable :=
  { (default : Callable) with
    name := "f"
    doc := some "@param {String} [x]" }

def undocumented : Callable :=
  { documented with
    id := ⟨1, 0⟩
    doc := none }

/-- A session with a module that exports the documented function. -/
def documentedSession : Session where
  settings := some ⟨{}, 0⟩
  namespaces :=
    #[[("__name__", .text "m"), ("__all__", .list [.text "f"]), ("f", .callable documented)]]

theorem exists_wrap_documented :
    ∃ wrapped,
      ((⟨"m", 0⟩ : Module).wrap none (some .raising)).on documentedSession = (.ok 0, wrapped) ∧
      wrapped.settings = some ⟨{}, 0⟩ ∧ wrapped.namespaces.size = 1 := by
  refine ⟨_, Run.on_eq_of_toOption ?_, ?_, ?_⟩
  · decide +kernel
  · decide +kernel
  · decide +kernel

/-- A function that takes the place of another is called under the lines of the other. -/
theorem call_of_rebound_function :
    ∃ wrapped now,
      ((⟨"m", 0⟩ : Module).wrap none (some .raising)).on documentedSession = (.ok 0, wrapped) ∧
      History 0 wrapped now ∧
      Invoked undocumented ⟨[.text "a"], []⟩ now
        ((callAwaited .dotted 0 (.text "f") ⟨[.text "a"], []⟩).on now).2 ∧
      (∃ failure,
        ((callAwaited .dotted 0 (.text "f") ⟨[.int 1], []⟩).on now).1 = .error failure) ∧
      ((callAwaited .dotted 0 (.text "f") ⟨[.int 1], []⟩).on now).2.invocations =
        now.invocations := by
  obtain ⟨wrapped, hwrap, hsettings, hsize⟩ := exists_wrap_documented
  let bound := wrapped.setNamespace 0
    (Table.put (wrapped.namespaceAt 0) "f" (.callable undocumented))
  let now := ((Registry.resetIn none).on bound).2
  have hhistory : History 0 wrapped now := .tail (.single (.bind 0 "f" _)) (.reset none)
  have hguards (arguments : Arguments) :=
    call_of_wrapped hwrap hsettings rfl rfl (List.mem_singleton.mpr rfl)
      (by decide +kernel : isReserved "f" = false) rfl
      (by decide +kernel : documented.parameterLines = some ["{String} [x]"]) hhistory arguments
  have hcallable : now.callableAt 0 "f" = some undocumented := by
    have hnames : now.namespaceAt 0 =
        Table.put (wrapped.namespaceAt 0) "f" (.callable undocumented) := by
      simp [now, bound, Registry.resetIn, setRegistry, namespaceAt, setNamespace, hsize]
    rw [callableAt, hnames, Table.get?_put_self]
  have hanswer (v : Value) : (([⟨v, none, "String"⟩] : List Gate.Constraint).allM
      (Gate.Constraint.holds none)).on now = (.ok (BuiltinType.check "String" v), now) := by
    have hholds : ((⟨v, none, "String"⟩ : Gate.Constraint).holds none).on now =
        (.ok (BuiltinType.check "String" v), now) :=
      Registry.on_checkIn_of_builtin rfl "String" v
    rw [List.allM_cons, Run.on_bind_of_ok hholds]
    cases BuiltinType.check "String" v with
    | true => rfl
    | false => rfl
  refine ⟨wrapped, now, hwrap, hhistory, ?_, ?_⟩
  · have hiff := ((hguards ⟨[.text "a"], []⟩).1 .dotted).invoked_iff _ _ (hanswer (.text "a"))
    obtain ⟨c, hc, hinvoked⟩ := hiff.mpr ⟨by rw [hcallable]; rfl, rfl⟩
    rw [hcallable] at hc
    cases hc
    exact hinvoked
  · refine ((hguards ⟨[.int 1], []⟩).1 .dotted).refused _ _ (hanswer (.int 1)) ?_
    rintro ⟨_, hanswered⟩
    cases hanswered

end Module

end CallGuard
