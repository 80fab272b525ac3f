import CallGuard.Proofs.Session.Frame

/-!
# Calls that return

Predicates and reporters are values that are called, so a check and a report may fail with whatever
they raise. Here is what it means that they return, and that checks and reports then do. A registry
that holds only built-in types calls nothing: its checks return, and they depend on the value alone.
-/

namespace CallGuard

section Calls

variable [Platform]

/--
Calling a value returns, whatever calls came before. Where the call suspends, it is enough that the
arguments fit.
-/
def Value.Returns (behaviour : CallableId → Behaviour) (v : Value) (arguments : Arguments) :
    Prop :=
  ∃ c, v = .callable c ∧ (c.suspends = true → Platform.binds c arguments = .ok ()) ∧
    (c.suspends = false → ∀ earlier, ∃ answer, behaviour c.id earlier arguments = .ok answer)

theorem Value.exists_call {session : Session} {v : Value} {arguments : Arguments}
    (h : v.Returns session.behaviour arguments) :
    ∃ answer, ((v.call arguments).on session).1 = .ok answer := by
  obtain ⟨c, rfl, hbinds, hreturns⟩ := h
  rw [Value.call]
  cases hsuspends : c.suspends with
  | true =>
      rw [if_pos rfl, hbinds hsuspends]
      exact ⟨_, rfl⟩
  | false =>
      obtain ⟨answer, hanswer⟩ := hreturns hsuspends session.invocations
      rw [if_neg Bool.false_ne_true, Callable.on_run, hanswer]
      exact ⟨answer, rfl⟩

def Registry.Returns (registry : Registry) (behaviour : CallableId → Behaviour) : Prop :=
  ∀ tag predicate, registry.constraint? tag = some (.custom predicate) →
    ∀ v, predicate.Returns behaviour ⟨[v], []⟩

theorem Registry.exists_checkIn {session : Session} {place : Option RegistryId}
    (h : (session.registry place).Returns session.behaviour) (tag : String) (v : Value) :
    ∃ passes, ((Registry.checkIn place tag v).on session).1 = .ok passes := by
  rw [Registry.checkIn, Run.on_bind_of_ok (Run.on_get session)]
  cases hconstraint : (session.registry place).constraint? tag with
  | none => exact ⟨true, rfl⟩
  | some predicate =>
      cases predicate with
      | builtin type => exact ⟨type.accepts v, rfl⟩
      | custom p =>
          obtain ⟨answer, hanswer⟩ := Value.exists_call (h tag p hconstraint v)
          refine ⟨answer.truthy, ?_⟩
          show (((p.call ⟨[v], []⟩) >>= fun answer => pure answer.truthy).on session).1 = _
          rw [Run.on_bind_of_ok (Prod.ext hanswer rfl), Run.on_pure]

/-- A reporter returns on a violation: logging one needs the written form of its value. -/
def Reporter.Returns (behaviour : CallableId → Behaviour) (violation : Violation) :
    Reporter → Prop
  | .raising => False
  | .logging => ∃ written, violation.value.written = .ok written
  | .custom v => v.Returns behaviour ⟨violation.arguments, []⟩

theorem Reporter.exists_report {reporter : Reporter} {violation : Violation} (session : Session)
    (h : reporter.Returns session.behaviour violation) :
    ∃ answer, ((reporter.report violation).on session).1 = .ok answer := by
  cases reporter with
  | raising => exact h.elim
  | logging =>
      obtain ⟨written, hwritten⟩ := h
      rw [Reporter.report, Reporter.reportAs, hwritten]
      exact ⟨.null, rfl⟩
  | custom v => exact Value.exists_call h

end Calls

/-! ### The built-in types -/

namespace BuiltinType

def ofTag? (tag : String) : Option BuiltinType :=
  all.find? fun type => type.tag = tag

def check (tag : String) (v : Value) : Bool :=
  (ofTag? tag).all fun type => type.accepts v

end BuiltinType

namespace Registry

theorem constraint?_builtin (tag : String) :
    builtin.constraint? tag = (BuiltinType.ofTag? tag).map .builtin := by
  have hget (types : List BuiltinType) :
      Table.get? (types.map fun type => (type.tag, Predicate.builtin type)) tag =
        (types.find? fun type => type.tag = tag).map .builtin := by
    induction types with
    | nil => rfl
    | cons type rest ih =>
        rw [List.map_cons, Table.get?, List.find?_cons, ih]
        by_cases htag : type.tag = tag
        · simp only [htag, if_true, decide_true, Option.map_some]
        · simp only [htag, if_false, decide_false]
  rw [constraint?, get?, builtin, hget, BuiltinType.ofTag?]
  cases BuiltinType.all.find? fun type => type.tag = tag with
  | none => rfl
  | some type => rfl

theorem constraint?_builtin_ne_custom (tag : String) (predicate : Value) :
    builtin.constraint? tag ≠ some (.custom predicate) := by
  intro h
  rw [constraint?_builtin] at h
  obtain ⟨type, _, htype⟩ := Option.map_eq_some_iff.mp h
  cases htype

variable [Platform]

theorem builtin_returns (behaviour : CallableId → Behaviour) : builtin.Returns behaviour :=
  fun tag predicate h => absurd h (constraint?_builtin_ne_custom tag predicate)

theorem on_checkIn_of_builtin {session : Session} {place : Option RegistryId}
    (h : session.registry place = builtin) (tag : String) (v : Value) :
    (checkIn place tag v).on session = (.ok (BuiltinType.check tag v), session) := by
  rw [checkIn, Run.on_bind_of_ok (Run.on_get session), h, constraint?_builtin, BuiltinType.check]
  cases BuiltinType.ofTag? tag with
  | none => rfl
  | some type => rfl

end Registry

end CallGuard
