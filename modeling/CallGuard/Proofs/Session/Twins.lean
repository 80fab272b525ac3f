import CallGuard.Proofs.Gate.Alongside

/-!
# What facades and the journal have no part in

Checks, reports and calls look at neither the facades of a session nor its journal. So in a session
that has other facades and another journal they come to the same end, make the same calls, leave the
same session but for the facades and the journal, and hand the same records to the journal.
-/

namespace CallGuard

namespace Session

/-- The session with other facades and another journal. -/
def beside (session : Session) (facades : Array Facade) (journal : Log.Journal) : Session :=
  { session with facades, journal }

theorem registry_beside (session : Session) (facades : Array Facade) (journal : Log.Journal)
    (place : Option RegistryId) :
    (session.beside facades journal).registry place = session.registry place := by
  cases place <;> rfl

/-- Two sessions differ in nothing but their facades and their journals. -/
def Twins (session other : Session) : Prop :=
  ∃ facades journal, other = session.beside facades journal

theorem twins_setFacade (session : Session) (place : FacadeId) (facade : Facade) :
    Twins session (session.setFacade place facade) :=
  ⟨_, session.journal, rfl⟩

namespace Twins

variable {session other third : Session}

theorem refl (session : Session) : Twins session session :=
  ⟨session.facades, session.journal, rfl⟩

theorem symm (h : Twins session other) : Twins other session := by
  obtain ⟨facades, journal, rfl⟩ := h
  exact ⟨session.facades, session.journal, rfl⟩

theorem trans (h : Twins session other) (h' : Twins other third) : Twins session third := by
  obtain ⟨facades, journal, rfl⟩ := h
  obtain ⟨facades', journal', rfl⟩ := h'
  exact ⟨facades', journal', rfl⟩

theorem behaviour (h : Twins session other) : other.behaviour = session.behaviour := by
  obtain ⟨facades, journal, rfl⟩ := h
  rfl

theorem invocations (h : Twins session other) : other.invocations = session.invocations := by
  obtain ⟨facades, journal, rfl⟩ := h
  rfl

theorem registry (h : Twins session other) (place : Option RegistryId) :
    other.registry place = session.registry place := by
  obtain ⟨facades, journal, rfl⟩ := h
  exact session.registry_beside facades journal place

end Twins

end Session

open Session

variable [Platform]

/--
An operation has nothing to do with facades and the journal: with others in their place it does the
same, leaves them alone, and hands the same records to the journal.
-/
def Run.Blind {α : Type} (operation : Run α) : Prop :=
  ∀ session, ∃ entries : List Log.Record, ∀ facades journal,
    operation.on (session.beside facades journal) =
      ((operation.on session).1,
        (operation.on session).2.beside facades (entries.foldl Log.Journal.add journal))

namespace Run.Blind

variable {α β : Type}

theorem of_still {operation : Run α} (outcome : Except Failure α)
    (h : ∀ session, operation.on session = (outcome, session)) : operation.Blind := by
  intro session
  refine ⟨[], fun facades journal => ?_⟩
  rw [h, h]
  rfl

theorem pure (a : α) : (Pure.pure a : Run α).Blind := of_still (.ok a) fun _ => rfl

theorem throw (failure : Failure) : (MonadExcept.throw failure : Run α).Blind :=
  of_still (.error failure) fun _ => rfl

theorem raise (e : Raised) : (Run.raise e : Run α).Blind := throw (.raised e)

theorem ofExcept (given : Except Raised α) : (Run.ofExcept given).Blind := by
  cases given with
  | ok a => exact pure a
  | error e => exact raise e

theorem log (site : Log.Site) (severity : Int) (message : String) (extra : Table Value) :
    (Run.log site severity message extra).Blind :=
  fun _ => ⟨[site.record severity message extra], fun _ _ => rfl⟩

/-- A change can be made beside other facades and another journal if it leaves these alone. -/
theorem changing {change : Session → Session}
    (h : ∀ session facades journal,
      change (session.beside facades journal) = (change session).beside facades journal) :
    (modify change : Run Unit).Blind := by
  intro session
  refine ⟨[], fun facades journal => ?_⟩
  exact Prod.ext rfl (h session facades journal)

theorem bind {first : Run α} {next : α → Run β} (hfirst : first.Blind)
    (hnext : ∀ a, (next a).Blind) : (first >>= next).Blind := by
  intro session
  obtain ⟨entries, hfirst⟩ := hfirst session
  rcases hrun : first.on session with ⟨outcome, after⟩
  rw [hrun] at hfirst
  cases outcome with
  | error failure =>
      refine ⟨entries, fun facades journal => ?_⟩
      rw [on_bind_of_error hrun, on_bind_of_error (hfirst facades journal)]
  | ok a =>
      obtain ⟨more, hnext⟩ := hnext a after
      refine ⟨entries ++ more, fun facades journal => ?_⟩
      rw [on_bind_of_ok hrun, on_bind_of_ok (hfirst facades journal), hnext, List.foldl_append]

theorem get_bind {next : Session → Run α}
    (hsame : ∀ session facades journal, next (session.beside facades journal) = next session)
    (hnext : ∀ session, (next session).Blind) : (get >>= next).Blind := by
  intro session
  obtain ⟨entries, hnext⟩ := hnext session session
  refine ⟨entries, fun facades journal => ?_⟩
  rw [on_bind_of_ok (on_get _), on_bind_of_ok (on_get _), hsame, hnext]

theorem resumed {rest : Run α} (h : rest.Blind) : (Run.resumed rest).Blind := by
  intro session
  obtain ⟨entries, h⟩ := h session
  refine ⟨entries, fun facades journal => ?_⟩
  rw [on_resumed, on_resumed, h]

theorem run (c : Callable) (arguments : Arguments) : (c.run arguments).Blind := by
  intro session
  refine ⟨[], fun facades journal => ?_⟩
  rw [Callable.on_run, Callable.on_run]
  rfl

theorem refuse (c : Callable) (arguments : Arguments) (e : Raised) :
    (c.refuse arguments e).Blind := by
  intro session
  refine ⟨[], fun facades journal => ?_⟩
  rw [Callable.on_refuse, Callable.on_refuse]
  rfl

theorem call (v : Value) (arguments : Arguments) : (v.call arguments).Blind := by
  cases v with
  | callable c =>
      rw [Value.call]
      split
      · split
        · exact pure _
        · exact refuse c arguments _
      · exact run c arguments
  | _ => exact raise _

theorem await (v : Value) : v.await.Blind := by
  cases v with
  | suspended c positional named => exact (run c _).resumed
  | _ => exact raise _

theorem checkIn (registry : Option RegistryId) (tag : String) (v : Value) :
    (Registry.checkIn registry tag v).Blind := by
  refine get_bind (fun session facades journal => ?_) fun session => ?_
  · rw [registry_beside]
  · split
    · exact pure true
    · rename_i predicate _
      cases predicate with
      | builtin type => exact pure _
      | custom p => exact (call p _).bind fun answer => pure _

/-! ### The reporter in force -/

theorem refuseFile (path : String) (cause : Cause) : (Config.refuseFile path cause).Blind :=
  (log _ _ _ _).bind fun _ => throw _

theorem layOver (path : String) (bindings : List Config.Binding) :
    (Config.layOver path bindings).Blind := by
  refine get_bind (fun _ _ _ => rfl) fun session => ?_
  refine (changing fun _ _ _ => rfl).bind fun _ => ?_
  split
  · exact pure ()
  · exact refuseFile path _

theorem loadFile (path : String) : (Config.loadFile path).Blind := by
  refine get_bind (fun _ _ _ => rfl) fun session => ?_
  split
  · exact raise _
  · split
    · refine (log _ _ _ _).bind fun _ => ?_
      split
      · exact refuseFile path _
      · exact layOver path _
    · exact log _ _ _ _

theorem readSettings : Config.readSettings.Blind := by
  refine get_bind (fun session facades journal => by simp only [beside]) fun session => ?_
  split
  · exact (log _ _ _ _).bind fun _ => throw _
  · refine (changing fun _ _ _ => rfl).bind fun _ => ?_
    exact (log _ _ _ _).bind fun _ => pure _

theorem settings : Config.current.Blind := by
  have hload : (Config.load none).Blind := by
    refine get_bind (fun _ _ _ => rfl) fun session => ?_
    split
    · exact pure _
    · exact get_bind (fun _ _ _ => rfl) fun session => (loadFile _).bind fun _ => readSettings
  exact hload.bind fun loaded => pure _

theorem reporter : Reporter.current.Blind := by
  refine get_bind (fun _ _ _ => rfl) fun session => ?_
  split
  · exact pure _
  · refine Run.Blind.bind ?_ fun _ => (changing fun _ _ _ => rfl).bind fun _ => pure _
    exact settings.bind fun settings => (log _ _ _ _).bind fun _ => pure _

theorem reportAs (reporter : Reporter) (violation : Violation) (arguments : List Value) :
    (reporter.reportAs violation arguments).Blind := by
  cases reporter with
  | raising => exact (ofExcept _).bind fun written => throw _
  | logging => exact (ofExcept _).bind fun written => (log _ _ _ _).bind fun _ => pure _
  | custom v => exact call v _

theorem reporterInForce (gate : Gate) : gate.reporterInForce.Blind := by
  rw [Gate.reporterInForce]
  split
  · exact pure _
  · exact reporter

/-! ### Calls of gates -/

theorem report (gate : Gate) (label expected : String) (v : Value) (description : String) :
    (gate.report label expected v description).Blind := by
  refine (log _ _ _ _).bind fun _ => (reporterInForce gate).bind fun found => ?_
  exact (reportAs found _ _).bind fun _ => pure ()

theorem pass (gate : Gate) (arguments : Arguments) : (gate.pass arguments).Blind :=
  Gate.inspect_related (n := Run) (R := fun {α} (operation : Run α) _ => operation.Blind)
    gate.inspection gate.inspection (fun a => pure a) (fun hfirst hnext => hfirst.bind hnext)
    (checkIn gate.registry) (fun _ _ => ofExcept _) (report gate)
    (rfl : gate.outline = gate.outline) arguments

end Run.Blind

/-! ### In twin sessions -/

/-- In twin sessions two operations come to the same end and hand the same records on. -/
structure Run.InStep {α : Type} (session other : Session) (operation twin : Run α) : Prop where
  outcome : (twin.on other).1 = (operation.on session).1
  twins : Twins (operation.on session).2 (twin.on other).2
  entries : ∃ entries : List Log.Record,
    (operation.on session).2.journal = entries.foldl Log.Journal.add session.journal ∧
    (twin.on other).2.journal = entries.foldl Log.Journal.add other.journal

namespace Run.Blind

variable {α : Type} {operation : Run α} {session other : Session}

theorem inStep (h : operation.Blind) (htwins : Twins session other) :
    InStep session other operation operation := by
  obtain ⟨facades, journal, rfl⟩ := htwins
  obtain ⟨entries, h⟩ := h session
  have hown : operation.on session =
      ((operation.on session).1,
        (operation.on session).2.beside session.facades
          (entries.foldl Log.Journal.add session.journal)) := h session.facades session.journal
  refine ⟨?_, ?_, entries, congrArg (fun result => result.2.journal) hown, ?_⟩
  · rw [h]
  · rw [h]
    exact ⟨_, _, rfl⟩
  · rw [h]
    rfl

theorem facades_eq (h : operation.Blind) (session : Session) :
    (operation.on session).2.facades = session.facades := by
  obtain ⟨entries, h⟩ := h session
  exact congrArg (fun result => result.2.facades) (h session.facades session.journal)

end Run.Blind

namespace Gate

variable {gate : Gate} {session other : Session}

theorem alongside_of_twins (h : Twins session other) : gate.Alongside gate session other := by
  have hinForce := ((Run.Blind.reporterInForce gate).inStep h).outcome
  have hregistry := h.registry
  obtain ⟨facades, journal, rfl⟩ := h
  refine ⟨fun tag => ?_, fun _ _ _ _ _ => rfl, hinForce, fun _ _ _ _ => rfl⟩
  rw [hregistry]

/-- A call of a gate notes the same events in twin sessions. -/
theorem events_of_twins (h : Twins session other) (arguments : Arguments) :
    (gate.trace arguments other).2.2 = (gate.trace arguments session).2.2 :=
  (trace_alongside rfl rfl (alongside_of_twins h) arguments).2

end Gate

end CallGuard
