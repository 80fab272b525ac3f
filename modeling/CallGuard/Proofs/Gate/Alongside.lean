import CallGuard.Proofs.Reporter.Slot

/-!
# Gates side by side

A call of a gate depends on the session only through what its means find there: the predicates of
the registry that it checks in, the reporter in force, and what these answer when they are called.
So two gates of one outline, each in a session of its own, note the same events and come to the
same end as soon as they agree in this, whatever else has happened in either session.
-/

namespace CallGuard

open Session

/-- Two sessions go on with the same calls. -/
def Session.SameCalls (session after other otherAfter : Session) : Prop :=
  ∃ recent, after.invocations = recent ++ session.invocations ∧
    otherAfter.invocations = recent ++ other.invocations

/-- A callable answers arguments alike in two sessions, also after the same calls in both. -/
def Callable.AnswersAlike (c : Callable) (arguments : Arguments) (session other : Session) : Prop :=
  ∀ recent, other.behaviour c.id (recent ++ other.invocations) arguments =
    session.behaviour c.id (recent ++ session.invocations) arguments

/-- Two operations, each on a session of its own, make the same calls and come to the same end. -/
def Run.Alike (session other : Session) {α : Type} (operation twin : Run α) : Prop :=
  (twin.on other).1 = (operation.on session).1 ∧
    SameCalls session (operation.on session).2 other (twin.on other).2

section Calls

variable {session after other otherAfter : Session} {c : Callable} {arguments : Arguments}

theorem Session.SameCalls.of_still (hsession : after.invocations = session.invocations)
    (hother : otherAfter.invocations = other.invocations) :
    SameCalls session after other otherAfter :=
  ⟨[], hsession, hother⟩

theorem Callable.AnswersAlike.later (h : c.AnswersAlike arguments session other)
    (hsession : after.behaviour = session.behaviour)
    (hother : otherAfter.behaviour = other.behaviour)
    (hcalls : SameCalls session after other otherAfter) :
    c.AnswersAlike arguments after otherAfter := by
  obtain ⟨recent, hafter, hotherAfter⟩ := hcalls
  intro since
  rw [hsession, hother, hafter, hotherAfter, ← List.append_assoc, ← List.append_assoc]
  exact h (since ++ recent)

theorem Run.Alike.map {α β : Type} {operation twin : Run α}
    (h : Run.Alike session other operation twin) (f : α → β) :
    Run.Alike session other (operation >>= fun a => pure (f a)) (twin >>= fun a => pure (f a)) := by
  obtain ⟨houtcome, hcalls⟩ := h
  rw [Run.Alike, Run.on_bind, Run.on_bind]
  rcases hsession : operation.on session with ⟨outcome, after⟩
  rcases hother : twin.on other with ⟨otherOutcome, otherAfter⟩
  rw [hsession, hother] at houtcome hcalls
  cases houtcome
  cases outcome with
  | ok a => exact ⟨rfl, hcalls⟩
  | error failure => exact ⟨rfl, hcalls⟩

variable [Platform]

theorem Value.call_alike {v : Value}
    (h : ∀ c, v = .callable c → c.AnswersAlike arguments session other) :
    Run.Alike session other (v.call arguments) (v.call arguments) := by
  cases v with
  | callable c =>
      rw [Run.Alike, Callable.on_call, Callable.on_call]
      cases c.misfit? arguments with
      | some e => exact ⟨rfl, [⟨c.id, arguments⟩], rfl, rfl⟩
      | none =>
          dsimp only
          split
          · exact ⟨rfl, .of_still rfl rfl⟩
          · rw [Callable.on_run, Callable.on_run]
            have hanswer := h c rfl []
            rw [List.nil_append, List.nil_append] at hanswer
            rw [hanswer]
            exact ⟨rfl, [⟨c.id, arguments⟩], rfl, rfl⟩
  | _ => exact ⟨rfl, .of_still rfl rfl⟩

end Calls

namespace Gate

variable {gate twin : Gate} {session after other otherAfter : Session}

/-! ### The reporter in force -/

variable [Platform]

theorem reporterInForce_of_quiet (h : session.Quiet after) :
    (gate.reporterInForce.on after).1 = (gate.reporterInForce.on session).1 := by
  rw [reporterInForce]
  cases gate.reporter with
  | some reporter => rfl
  | none => exact Reporter.fst_on_current_of_quiet h

/-- A reporter that was found is found again, and finding it calls nothing. -/
theorem reporterInForce_again {reporter : Reporter}
    (h : gate.reporterInForce.on session = (.ok reporter, after)) :
    (gate.reporterInForce.on after).1 = .ok reporter ∧
      after.invocations = session.invocations := by
  rw [reporterInForce] at h ⊢
  cases hown : gate.reporter with
  | some own =>
      rw [hown] at h
      cases h
      exact ⟨rfl, rfl⟩
  | none =>
      rw [hown] at h
      have hcalls := Reporter.invocations_on_current session
      rw [h] at hcalls
      have hheld := (Reporter.reporter_of_current h).1
      exact ⟨congrArg Prod.fst (Reporter.on_current_of_some hheld), hcalls⟩

/-- Two gates find the same predicates and the same reporter, and these answer alike to both. -/
structure Alongside (gate twin : Gate) (session other : Session) : Prop where
  constraints : ∀ tag, (other.registry twin.registry).constraint? tag =
    (session.registry gate.registry).constraint? tag
  predicates : ∀ tag c, (session.registry gate.registry).constraint? tag =
    some (.custom (.callable c)) → ∀ v, c.AnswersAlike ⟨[v], []⟩ session other
  inForce : (twin.reporterInForce.on other).1 = (gate.reporterInForce.on session).1
  replies : ∀ c, (gate.reporterInForce.on session).1 = .ok (.custom (.callable c)) →
    ∀ violation : Violation, c.AnswersAlike ⟨violation.arguments, []⟩ session other

theorem Alongside.later (h : gate.Alongside twin session other)
    (hsession : session.SameStores after) (hother : other.SameStores otherAfter)
    (hcalls : SameCalls session after other otherAfter)
    (hinForce : (gate.reporterInForce.on after).1 = (gate.reporterInForce.on session).1)
    (htwin : (twin.reporterInForce.on otherAfter).1 = (twin.reporterInForce.on other).1) :
    gate.Alongside twin after otherAfter where
  constraints tag := by
    rw [hsession.registry, hother.registry]
    exact h.constraints tag
  predicates tag c hconstraint v := by
    rw [hsession.registry] at hconstraint
    exact (h.predicates tag c hconstraint v).later hsession.behaviour hother.behaviour hcalls
  inForce := by rw [hinForce, htwin, h.inForce]
  replies c hreporter violation := by
    rw [hinForce] at hreporter
    exact (h.replies c hreporter violation).later hsession.behaviour hother.behaviour hcalls

theorem Alongside.later_of_quiet (h : gate.Alongside twin session other)
    (hsession : session.Quiet after) (hother : other.Quiet otherAfter)
    (hcalls : SameCalls session after other otherAfter) : gate.Alongside twin after otherAfter :=
  h.later hsession.toSameStores hother.toSameStores hcalls (reporterInForce_of_quiet hsession)
    (reporterInForce_of_quiet hother)

/-! ### Checks and reports -/

theorem Alongside.checkIn (h : gate.Alongside twin session other) (tag : String) (v : Value) :
    Run.Alike session other (Registry.checkIn gate.registry tag v)
      (Registry.checkIn twin.registry tag v) := by
  rw [Run.Alike, Registry.checkIn, Registry.checkIn, Run.on_bind_of_ok (Run.on_get session),
    Run.on_bind_of_ok (Run.on_get other), h.constraints]
  cases hconstraint : (session.registry gate.registry).constraint? tag with
  | none => exact ⟨rfl, .of_still rfl rfl⟩
  | some predicate =>
      cases predicate with
      | builtin type => exact ⟨rfl, .of_still rfl rfl⟩
      | custom p =>
          have hcall : Run.Alike session other (p.call ⟨[v], []⟩) (p.call ⟨[v], []⟩) := by
            refine Value.call_alike fun c hc => ?_
            rw [hc] at hconstraint
            exact h.predicates tag c hconstraint v
          exact hcall.map Value.truthy

theorem Alongside.reporter_report (h : gate.Alongside twin session other) {reporter : Reporter}
    (hreporter : (gate.reporterInForce.on session).1 = .ok reporter) (violation : Violation) :
    Run.Alike session other (reporter.report violation) (reporter.report violation) := by
  cases reporter with
  | raising =>
      rw [Reporter.report, Reporter.reportAs, Run.Alike]
      cases violation.value.written with
      | ok written => exact ⟨rfl, .of_still rfl rfl⟩
      | error e => exact ⟨rfl, .of_still rfl rfl⟩
  | logging =>
      rw [Reporter.report, Reporter.reportAs, Run.Alike]
      cases violation.value.written with
      | ok written => exact ⟨rfl, .of_still rfl rfl⟩
      | error e => exact ⟨rfl, .of_still rfl rfl⟩
  | custom v =>
      refine Value.call_alike fun c hc => ?_
      rw [hc] at hreporter
      exact h.replies c hreporter violation

/-! ### Calls -/

/-- Watched operations alongside each other note the same events and come to the same end. -/
def Agree (gate twin : Gate) {α : Type} (watched watchedTwin : Traced α) : Prop :=
  ∀ state other, gate.Alongside twin state.1 other.1 → state.2 = other.2 →
    (watchedTwin.on other).1 = (watched.on state).1 ∧
    (watchedTwin.on other).2.2 = (watched.on state).2.2 ∧
    ∀ a, (watched.on state).1 = .ok a →
      gate.Alongside twin (watched.on state).2.1 (watchedTwin.on other).2.1

theorem Agree.bind {α β : Type} {watched watchedTwin : Traced α} {next nextTwin : α → Traced β}
    (hfirst : gate.Agree twin watched watchedTwin)
    (hnext : ∀ a, gate.Agree twin (next a) (nextTwin a)) :
    gate.Agree twin (watched >>= next) (watchedTwin >>= nextTwin) := by
  intro state other halongside hevents
  obtain ⟨houtcome, hnoted, hafter⟩ := hfirst state other halongside hevents
  rw [Traced.on_bind, Traced.on_bind]
  rcases hwatched : watched.on state with ⟨outcome, after⟩
  rcases htwin : watchedTwin.on other with ⟨otherOutcome, otherAfter⟩
  rw [hwatched, htwin] at houtcome hnoted
  rw [hwatched, htwin] at hafter
  cases houtcome
  cases outcome with
  | ok a => exact hnext a after otherAfter (hafter a rfl) hnoted.symm
  | error failure => exact ⟨rfl, hnoted, nofun⟩

theorem agree_lift {α : Type} {operation operationTwin : Run α}
    (h : ∀ session other, gate.Alongside twin session other →
      (operationTwin.on other).1 = (operation.on session).1 ∧
      ∀ a, (operation.on session).1 = .ok a →
        gate.Alongside twin (operation.on session).2 (operationTwin.on other).2) :
    gate.Agree twin (Traced.lift operation) (Traced.lift operationTwin) := by
  intro state other halongside hevents
  obtain ⟨houtcome, hafter⟩ := h state.1 other.1 halongside
  exact ⟨houtcome, hevents.symm, hafter⟩

theorem agree_note (event : Event) : gate.Agree twin (Traced.note event) (Traced.note event) := by
  intro state other halongside hevents
  refine ⟨rfl, ?_, fun _ _ => halongside⟩
  rw [Traced.on_note, Traced.on_note, hevents]

theorem Alongside.report (h : gate.Alongside twin session other)
    (hfunction : twin.function = gate.function) (label expected : String) (v : Value)
    (description : String) :
    ((twin.report label expected v description).on other).1 =
        ((gate.report label expected v description).on session).1 ∧
      ∀ a, ((gate.report label expected v description).on session).1 = .ok a →
        gate.Alongside twin ((gate.report label expected v description).on session).2
          ((twin.report label expected v description).on other).2 := by
  have hlogged := session.quiet_recording (gate.failureRecord label expected)
  have htwinLogged := other.quiet_recording (twin.failureRecord label expected)
  have hviolation : twin.violation label expected v description =
      gate.violation label expected v description := by
    rw [violation, violation, hfunction]
  have hlogs := h.later_of_quiet hlogged htwinLogged (.of_still rfl rfl)
  have hkeeps (reporter : Reporter) :
      (reporter.report (gate.violation label expected v description) >>= fun _ =>
        pure () : Run Unit).Keeps Quiet :=
    (reporter.report_keeps _).bind fun _ => Run.Keeps.pure _
  rw [on_report_inForce, on_report_inForce, hviolation, Run.on_bind, Run.on_bind]
  generalize session.recording (gate.failureRecord label expected) = logged at hlogs ⊢
  generalize other.recording (twin.failureRecord label expected) = twinLogged at hlogs ⊢
  have hinForce := hlogs.inForce
  rcases hfound : gate.reporterInForce.on logged with ⟨outcome, found⟩
  rcases htwinFound : twin.reporterInForce.on twinLogged with ⟨twinOutcome, twinFound⟩
  rw [hfound, htwinFound] at hinForce
  cases hinForce
  cases outcome with
  | error failure => exact ⟨rfl, nofun⟩
  | ok reporter =>
      obtain ⟨hagain, hcalls⟩ := reporterInForce_again hfound
      obtain ⟨htwinAgain, htwinCalls⟩ := reporterInForce_again htwinFound
      have hmet : gate.Alongside twin found twinFound := by
        refine hlogs.later (gate.reporterInForce_keeps.of_on hfound)
          (twin.reporterInForce_keeps.of_on htwinFound) (.of_still hcalls htwinCalls) ?_ ?_
        · rw [hagain, hfound]
        · rw [htwinAgain, htwinFound]
      obtain ⟨houtcome, hsame⟩ :=
        (hmet.reporter_report hagain (gate.violation label expected v description)).map fun _ => ()
      exact ⟨houtcome, fun _ _ => hmet.later_of_quiet (hkeeps reporter found)
        (hkeeps reporter twinFound) hsame⟩

theorem agree_inspect (hfunction : twin.function = gate.function)
    (houtline : twin.outline = gate.outline) (arguments : Arguments) :
    gate.Agree twin (gate.inspect gate.tracing arguments)
      (twin.inspect twin.tracing arguments) := by
  refine inspect_related (R := gate.Agree twin) gate.tracing twin.tracing ?_ Agree.bind ?_ ?_ ?_
    houtline.symm arguments
  · exact fun a state other halongside hevents => ⟨rfl, hevents.symm, fun _ _ => halongside⟩
  · intro tag v
    refine (agree_note (.checked tag v)).bind fun _ => agree_lift fun session other h => ?_
    obtain ⟨houtcome, hcalls⟩ := h.checkIn tag v
    exact ⟨houtcome, fun _ _ => h.later_of_quiet (Registry.checkIn_keeps _ tag v session)
      (Registry.checkIn_keeps _ tag v other) hcalls⟩
  · intro v path
    refine agree_lift fun session other h => ?_
    simp only [inspection]
    cases v.resolve path with
    | ok nested => exact ⟨rfl, fun _ _ => h⟩
    | error e => exact ⟨rfl, fun _ _ => h⟩
  · intro label expected v description
    have hviolation : twin.violation label expected v description =
        gate.violation label expected v description := by
      rw [violation, violation, hfunction]
    rw [tracing, tracing]
    simp only [hviolation]
    refine (agree_note _).bind fun _ => agree_lift fun session other h => ?_
    exact h.report hfunction label expected v description

theorem trace_alongside (hfunction : twin.function = gate.function)
    (houtline : twin.outline = gate.outline) (h : gate.Alongside twin session other)
    (arguments : Arguments) :
    (twin.trace arguments other).1 = (gate.trace arguments session).1 ∧
      (twin.trace arguments other).2.2 = (gate.trace arguments session).2.2 := by
  obtain ⟨houtcome, hevents, _⟩ := agree_inspect hfunction houtline arguments (session, [])
    (other, []) h rfl
  exact ⟨houtcome, hevents⟩

end Gate

end CallGuard
