import CallGuard.Session.Calls

/-!
# Operations, step by step

An operation on a session either ends with a value or fails, and in both cases leaves a session
behind. These are the laws of running one operation after another, and of what an operation can do
to a session however it ends: `Run.Keeps R` says that it only ever leads from a session to one that
`R` relates to it.
-/

namespace CallGuard

theorem eq_ok_of_toOption {ε α : Type} {outcome : Except ε α} {a : α}
    (h : outcome.toOption = some a) : outcome = .ok a := by
  cases outcome with
  | error _ => cases h
  | ok found =>
      cases h
      rfl

theorem exists_of_bind_eq_ok {ε α β : Type} {first : Except ε α} {next : α → Except ε β} {b : β}
    (h : (first >>= next) = .ok b) : ∃ a, first = .ok a ∧ next a = .ok b := by
  cases first with
  | error _ => cases h
  | ok a => exact ⟨a, rfl, h⟩

namespace Run

variable {α β : Type}

/-! ### Running -/

@[simp]
theorem on_pure (a : α) (session : Session) : (pure a : Run α).on session = (.ok a, session) := rfl

@[simp]
theorem on_throw (failure : Failure) (session : Session) :
    (throw failure : Run α).on session = (.error failure, session) := rfl

@[simp]
theorem on_raise (e : Raised) (session : Session) :
    (raise e : Run α).on session = (.error (.raised e), session) := rfl

@[simp]
theorem on_get (session : Session) : (get : Run Session).on session = (.ok session, session) := rfl

@[simp]
theorem on_set (next session : Session) : (set next : Run Unit).on session = (.ok (), next) := rfl

@[simp]
theorem on_modify (change : Session → Session) (session : Session) :
    (modify change : Run Unit).on session = (.ok (), change session) := rfl

@[simp]
theorem on_ofExcept_ok (a : α) (session : Session) :
    (ofExcept (.ok a)).on session = (.ok a, session) := rfl

@[simp]
theorem on_ofExcept_error (e : Raised) (session : Session) :
    (ofExcept (.error e) : Run α).on session = (.error (.raised e), session) := rfl

theorem on_bind (first : Run α) (next : α → Run β) (session : Session) :
    (first >>= next).on session =
      match first.on session with
      | (.ok a, after) => (next a).on after
      | (.error failure, after) => (.error failure, after) := by
  show ((ExceptT.run (first >>= next)) session) = _
  rw [ExceptT.run_bind]
  show StateT.bind _ _ session = _
  simp only [StateT.bind, on, StateT.run]
  generalize ExceptT.run first session = result
  obtain ⟨outcome | outcome, after⟩ := result <;> rfl

theorem on_tryCatch (first : Run α) (handler : Failure → Run α) (session : Session) :
    (tryCatch first handler).on session =
      match first.on session with
      | (.ok a, after) => (.ok a, after)
      | (.error failure, after) => (handler failure).on after := by
  simp only [tryCatch, tryCatchThe, MonadExceptOf.tryCatch, ExceptT.tryCatch, ExceptT.mk, on,
    ExceptT.run, StateT.run, bind, StateT.bind]
  obtain ⟨outcome | outcome, after⟩ := first session <;> rfl

theorem on_bind_of_ok {first : Run α} {session after : Session} {a : α}
    (h : first.on session = (.ok a, after)) (next : α → Run β) :
    (first >>= next).on session = (next a).on after := by
  rw [on_bind, h]

theorem on_bind_of_error {first : Run α} {session after : Session} {failure : Failure}
    (h : first.on session = (.error failure, after)) (next : α → Run β) :
    (first >>= next).on session = (.error failure, after) := by
  rw [on_bind, h]

theorem on_map_of_ok {first : Run α} {session after : Session} {a : α}
    (h : first.on session = (.ok a, after)) (f : α → β) :
    (f <$> first).on session = (.ok (f a), after) := by
  rw [map_eq_pure_bind, on_bind_of_ok h, on_pure]

theorem on_eq_of_toOption {operation : Run α} {session : Session} {a : α}
    (h : (operation.on session).1.toOption = some a) :
    operation.on session = (.ok a, (operation.on session).2) :=
  Prod.ext (eq_ok_of_toOption h) rfl

theorem on_bind_eq_ok_iff {first : Run α} {next : α → Run β} {session after : Session} {b : β} :
    (first >>= next).on session = (.ok b, after) ↔
      ∃ a between, first.on session = (.ok a, between) ∧
        (next a).on between = (.ok b, after) := by
  rw [on_bind]
  constructor
  · intro h
    rcases hfirst : first.on session with ⟨outcome, between⟩
    rw [hfirst] at h
    cases outcome with
    | ok a => exact ⟨a, between, rfl, h⟩
    | error failure => cases h
  · rintro ⟨a, between, hfirst, hnext⟩
    rw [hfirst]
    exact hnext

/-! ### The suspended rest of a call -/

/-- How the failure of a suspended call comes out: the end of an iteration cannot pass. -/
def escaped : Failure → Failure
  | .raised e => if e.kind = iterationEndKind then .raised escapedIterationEnd else .raised e
  | failure => failure

/-- A suspended call runs as it is, and only the end of an iteration comes out as another error. -/
theorem on_resumed (rest : Run α) (session : Session) :
    (resumed rest).on session = ((rest.on session).1.mapError escaped, (rest.on session).2) := by
  rw [resumed, on_tryCatch]
  obtain ⟨outcome, after⟩ := rest.on session
  cases outcome with
  | ok a => rfl
  | error failure =>
      cases failure with
      | raised e =>
          show (if e.kind = iterationEndKind then Run.raise escapedIterationEnd
            else throw (.raised e) : Run α).on after = (.error (escaped (.raised e)), after)
          rw [escaped]
          by_cases hkind : e.kind = iterationEndKind
          · rw [if_pos hkind, if_pos hkind, on_raise]
          · rw [if_neg hkind, if_neg hkind, on_throw]
      | _ => rfl

theorem on_resumed_of_ok {operation : Run α} {session after : Session} {a : α}
    (h : operation.on session = (.ok a, after)) :
    (resumed operation).on session = (.ok a, after) := by
  rw [on_resumed, h]
  rfl

theorem on_resumed_of_failure {operation : Run α} {session after : Session} {failure : Failure}
    (h : operation.on session = (.error failure, after)) :
    (resumed operation).on session = (.error (escaped failure), after) := by
  rw [on_resumed, h]
  rfl

end Run

/-! ### What operations can do to a session -/

/-- A relation between a session and later ones that holds at once and is passed on. -/
class Session.Lasting (R : Session → Session → Prop) : Prop where
  refl : ∀ session, R session session
  trans : ∀ {before between after}, R before between → R between after → R before after

namespace Run

/-- An operation keeps a relation when it leads from any session to one related to it. -/
def Keeps (R : Session → Session → Prop) {α : Type} (operation : Run α) : Prop :=
  ∀ session, R session (operation.on session).2

namespace Keeps

variable {R : Session → Session → Prop} {α β : Type}

theorem of_on {operation : Run α} (h : operation.Keeps R) {session after : Session}
    {outcome : Except Failure α} (hrun : operation.on session = (outcome, after)) :
    R session after := by
  have hkept := h session
  rwa [hrun] at hkept

theorem mono {S : Session → Session → Prop} (hle : ∀ before after, R before after → S before after)
    {operation : Run α} (h : operation.Keeps R) : operation.Keeps S :=
  fun session => hle _ _ (h session)

theorem resumed {rest : Run α} (h : rest.Keeps R) : (Run.resumed rest).Keeps R := by
  intro session
  rw [on_resumed]
  exact h session

variable [Session.Lasting R]

theorem related_bind {first : Run α} {next : α → Run β} {session : Session}
    (hfirst : R session (first.on session).2)
    (hnext : ∀ a after, first.on session = (.ok a, after) → R after ((next a).on after).2) :
    R session ((first >>= next).on session).2 := by
  rw [on_bind]
  rcases hrun : first.on session with ⟨outcome, after⟩
  rw [hrun] at hfirst
  cases outcome with
  | ok a => exact Session.Lasting.trans hfirst (hnext a after hrun)
  | error failure => exact hfirst

theorem of_still {operation : Run α} (h : ∀ session, (operation.on session).2 = session) :
    operation.Keeps R := by
  intro session
  rw [h session]
  exact Session.Lasting.refl session

theorem pure (a : α) : (Pure.pure a : Run α).Keeps R := of_still fun _ => rfl

theorem throw (failure : Failure) : (MonadExcept.throw failure : Run α).Keeps R :=
  of_still fun _ => rfl

theorem raise (e : Raised) : (Run.raise e : Run α).Keeps R := of_still fun _ => rfl

theorem get : (MonadState.get : Run Session).Keeps R := of_still fun _ => rfl

theorem ofExcept (given : Except Raised α) : (Run.ofExcept given).Keeps R := by
  cases given <;> exact of_still fun _ => rfl

theorem bind {first : Run α} {next : α → Run β} (hfirst : first.Keeps R)
    (hnext : ∀ a, (next a).Keeps R) : (first >>= next).Keeps R :=
  fun session => related_bind (hfirst session) fun a after _ => hnext a after

theorem map {first : Run α} (hfirst : first.Keeps R) (f : α → β) : (f <$> first).Keeps R := by
  rw [map_eq_pure_bind]
  exact hfirst.bind fun a => pure (f a)

theorem tryCatch {first : Run α} {handler : Failure → Run α} (hfirst : first.Keeps R)
    (hhandler : ∀ failure, (handler failure).Keeps R) :
    (MonadExcept.tryCatch first handler).Keeps R := by
  intro session
  rw [on_tryCatch]
  have hkept := hfirst session
  rcases hrun : first.on session with ⟨outcome, after⟩
  rw [hrun] at hkept
  cases outcome with
  | ok a => exact hkept
  | error failure => exact Session.Lasting.trans hkept (hhandler failure after)

end Keeps

end Run

end CallGuard
