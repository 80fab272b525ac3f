import CallGuard.Proofs.Gate.Inspection

/-!
# The trace of a call

A call of a gate can be watched: each check that it makes is noted with its tag and value before it
is made, and each violation before it is handed to the reporter. Watching changes nothing of the
call. What has been noted stays noted when the call fails.
-/

namespace CallGuard

namespace Gate

inductive Event
  | checked (tag : String) (v : Value)
  | reported (violation : Violation)

def reportsIn (events : List Event) : List Violation :=
  events.filterMap fun event =>
    match event with
    | .checked .. => none
    | .reported violation => some violation

@[simp]
theorem reportsIn_nil : reportsIn [] = [] := rfl

@[simp]
theorem reportsIn_checked (tag : String) (v : Value) : reportsIn [.checked tag v] = [] := rfl

@[simp]
theorem reportsIn_reported (violation : Violation) :
    reportsIn [.reported violation] = [violation] := rfl

@[simp]
theorem reportsIn_append (events more : List Event) :
    reportsIn (events ++ more) = reportsIn events ++ reportsIn more :=
  List.filterMap_append

/-- An operation on a session that notes events on the way. -/
abbrev Traced := ExceptT Failure (StateM (Session × List Event))

namespace Traced

variable {α β : Type}

def on (operation : Traced α) (state : Session × List Event) :
    Except Failure α × Session × List Event :=
  (ExceptT.run operation).run state

def note (event : Event) : Traced Unit :=
  modify fun state => (state.1, state.2 ++ [event])

def lift (operation : Run α) : Traced α :=
  ExceptT.mk fun state => ((operation.on state.1).1, (operation.on state.1).2, state.2)

@[simp]
theorem on_pure (a : α) (state : Session × List Event) :
    (pure a : Traced α).on state = (.ok a, state) := rfl

@[simp]
theorem on_note (event : Event) (state : Session × List Event) :
    (note event).on state = (.ok (), state.1, state.2 ++ [event]) := rfl

theorem on_lift (operation : Run α) (state : Session × List Event) :
    (lift operation).on state =
      ((operation.on state.1).1, (operation.on state.1).2, state.2) := rfl

theorem on_bind (first : Traced α) (next : α → Traced β) (state : Session × List Event) :
    (first >>= next).on state =
      match first.on state with
      | (.ok a, after) => (next a).on after
      | (.error failure, after) => (.error failure, after) := by
  show ((ExceptT.run (first >>= next)) state) = _
  rw [ExceptT.run_bind]
  show StateT.bind _ _ state = _
  simp only [StateT.bind, on, StateT.run]
  generalize ExceptT.run first state = result
  obtain ⟨outcome | outcome, after⟩ := result <;> rfl

end Traced

def Watches {α : Type} (watched : Traced α) (operation : Run α) : Prop :=
  ∀ state, ((watched.on state).1, (watched.on state).2.1) = operation.on state.1

theorem Watches.bind {α β : Type} {watched : Traced α} {operation : Run α}
    {next : α → Traced β} {nextOperation : α → Run β} (hfirst : Watches watched operation)
    (hnext : ∀ a, Watches (next a) (nextOperation a)) :
    Watches (watched >>= next) (operation >>= nextOperation) := by
  intro state
  rw [Traced.on_bind, Run.on_bind, ← hfirst state]
  rcases watched.on state with ⟨outcome, after⟩
  cases outcome with
  | ok a => exact hnext a after
  | error failure => rfl

variable [Platform]

/-- The means of a gate in a session, each check and report noted before it is made. -/
def tracing (gate : Gate) : Inspection Traced where
  check tag v := do
    Traced.note (.checked tag v)
    Traced.lift (gate.inspection.check tag v)
  resolve v path := Traced.lift (gate.inspection.resolve v path)
  report label expected v description := do
    Traced.note (.reported (gate.violation label expected v description))
    Traced.lift (gate.inspection.report label expected v description)

theorem on_tracing_check (gate : Gate) (tag : String) (v : Value)
    (state : Session × List Event) :
    (gate.tracing.check tag v).on state =
      (((gate.inspection.check tag v).on state.1).1, ((gate.inspection.check tag v).on state.1).2,
        state.2 ++ [.checked tag v]) := rfl

theorem on_tracing_report (gate : Gate) (label expected : String) (v : Value)
    (description : String) (state : Session × List Event) :
    (gate.tracing.report label expected v description).on state =
      (((gate.report label expected v description).on state.1).1,
        ((gate.report label expected v description).on state.1).2,
        state.2 ++ [.reported (gate.violation label expected v description)]) := rfl

def trace (gate : Gate) (arguments : Arguments) (session : Session) :
    Except Failure Unit × Session × List Event :=
  (gate.inspect gate.tracing arguments).on (session, [])

/-- A call does the same when it is watched. -/
theorem on_pass_eq_trace (gate : Gate) (arguments : Arguments) (session : Session) :
    (gate.pass arguments).on session =
      ((gate.trace arguments session).1, (gate.trace arguments session).2.1) := by
  have hwatches : Watches (gate.inspect gate.tracing arguments)
      (gate.inspect gate.inspection arguments) := by
    refine inspect_related (R := Watches) _ _ (fun a state => rfl) Watches.bind ?_ ?_ ?_ rfl
      arguments
    · intro tag v state
      rw [on_tracing_check]
    · exact fun v path state => rfl
    · intro label expected v description state
      rw [on_tracing_report]
      rfl
  exact (hwatches (session, [])).symm

end Gate

end CallGuard
