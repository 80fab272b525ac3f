import Mathlib.Data.List.DropRight
import CallGuard.Proofs.Config.Loading
import CallGuard.Proofs.Gate.Trace
import CallGuard.Standard.Platform

/-!
# The reporter of a session

A session keeps one reporter, and loads its settings when they are first needed. Both are filled
late, and both can fail to be. Over a whole course of operations the reporter that is looked up is
the last one set since the latest reset. If none was set it is the one chosen by the settings that
were in force when it was first looked up with success, whatever has become of them since.
-/

namespace CallGuard

open Session

namespace Reporter

/-- What happens to the reporter of a session. An access tells the settings it leaves in force. -/
inductive Event
  | set (reporter : Reporter)
  | access (outcome : Except Failure Reporter) (inForce : Option LoadedSettings)
  | reset

namespace Event

def isReset : Event → Bool
  | .reset => true
  | _ => false

def isAccess : Event → Bool
  | .access .. => true
  | _ => false

def set? : Event → Option Reporter
  | .set reporter => some reporter
  | _ => none

/-- The reporter chosen by the settings in force at an access that succeeds. -/
def choice? : Event → Option Reporter
  | .access (.ok _) (some loaded) => some (ofMode loaded.settings.reporter)
  | _ => none

end Event

def sinceReset (events : List Event) : List Event :=
  events.rtakeWhile fun event => !event.isReset

def lastSet? (events : List Event) : Option Reporter :=
  ((sinceReset events).filterMap Event.set?).getLast?

def firstChosen? (events : List Event) : Option Reporter :=
  ((sinceReset events).filterMap Event.choice?).head?

/-- What an access gives after the events in front of it, with the settings in force in the end. -/
def Obtained (front : List Event) (outcome : Except Failure Reporter)
    (inForce : Option LoadedSettings) : Prop :=
  match outcome with
  | .ok reporter =>
    some reporter = (lastSet? front).or ((firstChosen? front).or
      (inForce.map fun loaded => ofMode loaded.settings.reporter))
  | .error _ => lastSet? front = none ∧ firstChosen? front = none

section Events

variable {event : Event}

theorem sinceReset_append_reset (events : List Event) : sinceReset (events ++ [.reset]) = [] :=
  List.rtakeWhile_concat_neg _ _ _ (by simp [Event.isReset])

theorem sinceReset_append (events : List Event) (h : event.isReset = false) :
    sinceReset (events ++ [event]) = sinceReset events ++ [event] :=
  List.rtakeWhile_concat_pos _ _ _ (by rw [h]; rfl)

theorem lastSet?_append_reset (events : List Event) : lastSet? (events ++ [.reset]) = none := by
  rw [lastSet?, sinceReset_append_reset]
  rfl

theorem firstChosen?_append_reset (events : List Event) :
    firstChosen? (events ++ [.reset]) = none := by
  rw [firstChosen?, sinceReset_append_reset]
  rfl

theorem lastSet?_append (events : List Event) (h : event.isReset = false) :
    lastSet? (events ++ [event]) = event.set?.or (lastSet? events) := by
  rw [lastSet?, sinceReset_append events h, List.filterMap_append, List.filterMap_cons]
  cases event.set? with
  | none => simp [lastSet?]
  | some reporter => simp

theorem firstChosen?_append (events : List Event) (h : event.isReset = false) :
    firstChosen? (events ++ [event]) = (firstChosen? events).or event.choice? := by
  rw [firstChosen?, sinceReset_append events h, List.filterMap_append, List.head?_append,
    ← firstChosen?, List.filterMap_cons]
  cases event.choice? <;> rfl

end Events

/-! ### Single operations -/

variable [Platform]

/-- Setting a callable fills the slot first, and then it can only fail because of its name. -/
theorem exists_replace {reporter : Reporter} (h : reporter.isCallable = true) (session : Session) :
    ∃ replaced, (replace reporter).on session =
        (match reporter.name with
          | .ok _ => .ok ()
          | .error e => .error (.raised e), replaced) ∧
      replaced.reporter = some reporter := by
  rw [replace, if_pos h, Run.on_bind_of_ok (Run.on_modify _ _)]
  cases reporter.name with
  | ok name => exact ⟨_, rfl, rfl⟩
  | error e => exact ⟨_, rfl, rfl⟩

theorem on_replace_of_not_callable {reporter : Reporter} (h : reporter.isCallable = false)
    (session : Session) :
    (replace reporter).on session =
      (.error (.configuration (.badReporter reporter.receivedType)), session) := by
  rw [replace, if_neg (by rw [h]; exact Bool.false_ne_true)]
  rfl

theorem on_current_of_some {session : Session} {reporter : Reporter}
    (h : session.reporter = some reporter) : current.on session = (.ok reporter, session) := by
  rw [current, Run.on_bind_of_ok (Run.on_get session), h]
  rfl

/-- An empty slot is filled from the settings that are looked up, and stays empty without them. -/
theorem on_current_of_none {session : Session} (h : session.reporter = none) :
    (current.on session).1 =
        (Config.lookedUp session).map (fun settings => ofMode settings.reporter) ∧
      (current.on session).2.reporter =
        ((Config.lookedUp session).map fun settings => ofMode settings.reporter).toOption ∧
      (current.on session).2.settings = (Config.current.on session).2.settings ∧
      (current.on session).2.invocations = session.invocations := by
  have houtcome := Config.fst_on_current session
  have hinvocations := Config.invocations_on_current session
  rw [current, Run.on_bind_of_ok (Run.on_get session), h]
  rcases hconfig : Config.current.on session with ⟨outcome, configured⟩
  have hkept := (Config.current_keeps (R := Configured)).of_on hconfig
  rw [hconfig] at houtcome hinvocations
  rw [← houtcome]
  cases outcome with
  | error failure =>
      have hchosen : chosen.on session = (.error failure, configured) :=
        Run.on_bind_of_error hconfig _
      rw [Run.on_bind_of_error hchosen]
      exact ⟨rfl, hkept.reporter.trans h, rfl, hinvocations⟩
  | ok settings =>
      have hchosen : ∃ logged, chosen.on session = (.ok (ofMode settings.reporter), logged) ∧
          logged.settings = configured.settings ∧
          logged.invocations = configured.invocations := by
        rw [chosen, Run.on_bind_of_ok hconfig, Run.on_bind_of_ok (Run.on_log _ _ _ _ _)]
        exact ⟨_, rfl, rfl, rfl⟩
      obtain ⟨logged, hchosen, hsettings, hcalls⟩ := hchosen
      rw [Run.on_bind_of_ok hchosen, Run.on_bind_of_ok (Run.on_modify _ _)]
      exact ⟨rfl, rfl, hsettings, hcalls.trans hinvocations⟩

theorem fst_on_current (session : Session) :
    (current.on session).1 =
      match session.reporter with
      | some reporter => .ok reporter
      | none => (Config.lookedUp session).map fun settings => ofMode settings.reporter := by
  cases hslot : session.reporter with
  | some reporter => rw [on_current_of_some hslot]
  | none => exact (on_current_of_none hslot).1

/-- Which reporter is looked up depends on the slot and on what the settings are read from. -/
theorem fst_on_current_congr {before after : Session} (hreporter : after.reporter = before.reporter)
    (hsettings : after.settings = before.settings)
    (henvironment : after.environment = before.environment) (hfiles : after.files = before.files)
    (hdirectory : after.workingDirectory = before.workingDirectory) :
    (current.on after).1 = (current.on before).1 := by
  rw [fst_on_current, fst_on_current, hreporter,
    Config.lookedUp_congr hsettings henvironment hfiles hdirectory]

theorem fst_on_current_of_quiet {before after : Session} (h : before.Quiet after) :
    (current.on after).1 = (current.on before).1 :=
  fst_on_current_congr h.reporter h.settings h.environment h.files h.workingDirectory

theorem invocations_on_current (session : Session) :
    (current.on session).2.invocations = session.invocations := by
  cases hslot : session.reporter with
  | some reporter => rw [on_current_of_some hslot]
  | none => exact (on_current_of_none hslot).2.2.2

theorem reporter_of_current {session after : Session} {reporter : Reporter}
    (h : current.on session = (.ok reporter, after)) :
    after.reporter = some reporter ∧
      (session.reporter = none → ∃ loaded, after.settings = some loaded ∧
        reporter = ofMode loaded.settings.reporter) := by
  cases hslot : session.reporter with
  | some held =>
      rw [on_current_of_some hslot] at h
      cases h
      exact ⟨hslot, nofun⟩
  | none =>
      obtain ⟨houtcome, hfilled, hsettings, _⟩ := on_current_of_none hslot
      rw [← Config.fst_on_current session, h] at houtcome hfilled
      rw [h] at hsettings
      rcases hconfig : Config.current.on session with ⟨outcome, configured⟩
      rw [hconfig] at houtcome hfilled hsettings
      cases outcome with
      | error failure => cases houtcome
      | ok settings =>
          cases houtcome
          obtain ⟨loaded, hloaded, rfl⟩ := Config.settings_of_current hconfig
          exact ⟨hfilled, fun _ => ⟨loaded, hsettings.trans hloaded, rfl⟩⟩

theorem found_of_failed_current {session after : Session} {failure : Failure}
    (h : current.on session = (.error failure, after)) :
    session.reporter = none ∧ after.reporter = none ∧ session.settings = none ∧
      after.settings = none ∧ Config.found session none = .error failure := by
  cases hslot : session.reporter with
  | some held =>
      rw [on_current_of_some hslot] at h
      cases h
  | none =>
      obtain ⟨houtcome, hfilled, hafter, _⟩ := on_current_of_none hslot
      rw [← Config.fst_on_current session, h] at houtcome hfilled
      rw [h] at hafter
      rcases hconfig : Config.current.on session with ⟨outcome, configured⟩
      rw [hconfig] at houtcome hfilled hafter
      cases outcome with
      | ok settings => cases houtcome
      | error found =>
          cases houtcome
          obtain ⟨hnow, hstill, hfound⟩ := Config.found_of_failed_current hconfig
          exact ⟨rfl, hfilled, hnow, hafter.trans hstill, hfound⟩

/-- An access keeps what the slot holds, and fills it with what the settings choose otherwise. -/
theorem reporter_on_current (session : Session) :
    (current.on session).2.reporter = session.reporter.or
      (Event.access (current.on session).1 (current.on session).2.settings).choice? := by
  cases hslot : session.reporter with
  | some reporter => rw [on_current_of_some hslot, hslot, Option.some_or]
  | none =>
      rcases hcurrent : current.on session with ⟨outcome, after⟩
      cases outcome with
      | error failure => exact (found_of_failed_current hcurrent).2.1
      | ok reporter =>
          obtain ⟨hfilled, hchosen⟩ := reporter_of_current hcurrent
          obtain ⟨loaded, hloaded, rfl⟩ := hchosen hslot
          simp only [hloaded]
          exact hfilled

/-! ### Courses of operations -/

/-- One operation that a session goes through, and what it does to the reporter of the session. -/
inductive Move : Session → Option Event → Session → Prop
  | set {reporter : Reporter} (h : reporter.isCallable = true) (before : Session) :
      Move before (some (.set reporter)) ((replace reporter).on before).2
  | refused {reporter : Reporter} (h : reporter.isCallable = false) (before : Session) :
      Move before none ((replace reporter).on before).2
  | access (before : Session) :
      Move before (some (.access (current.on before).1 (current.on before).2.settings))
        (current.on before).2
  | reset (before : Session) : Move before (some .reset) (reset.on before).2
  | load (file : Option String) (before : Session) :
      Move before none ((Config.load file).on before).2
  | reload (file : Option String) (before : Session) :
      Move before none ((Config.reload file).on before).2
  | surroundings (environment : Config.Environment) (files : Files.Tree)
      (workingDirectory : String) (before : Session) :
      Move before none { before with environment, files, workingDirectory }
  | calls {before after : Session} (h : before.Quiet after) : Move before none after

/-- A session is reached by operations, and these are the events on the way. -/
inductive Course (start : Session) : List Event → Session → Prop
  | nil : Course start [] start
  | snoc {events : List Event} {between after : Session} {event : Option Event}
      (h : Course start events between) (hmove : Move between event after) :
      Course start (events ++ event.toList) after

theorem Move.reporter_eq {before after : Session} {event : Option Event} {events : List Event}
    (hmove : Move before event after)
    (hslot : before.reporter = (lastSet? events).or (firstChosen? events)) :
    after.reporter = (lastSet? (events ++ event.toList)).or
      (firstChosen? (events ++ event.toList)) := by
  have hstill (hkept : after.reporter = before.reporter) :
      after.reporter = (lastSet? (events ++ [])).or (firstChosen? (events ++ [])) := by
    rw [List.append_nil, hkept, hslot]
  cases hmove with
  | set hcallable =>
      obtain ⟨replaced, hreplaced, hset⟩ := exists_replace hcallable before
      rw [Option.toList_some, lastSet?_append events rfl, hreplaced, hset]
      rfl
  | refused hcallable =>
      apply hstill
      rw [on_replace_of_not_callable hcallable]
  | access =>
      rw [Option.toList_some, lastSet?_append events rfl, firstChosen?_append events rfl,
        reporter_on_current, hslot, Option.or_assoc]
      rfl
  | reset =>
      rw [Option.toList_some, lastSet?_append_reset, firstChosen?_append_reset]
      rfl
  | load file => exact hstill (Config.load_keeps (R := Configured) file before).reporter
  | reload file => exact hstill (Config.reload_keeps (R := Configured) file before).reporter
  | surroundings => exact hstill rfl
  | calls h => exact hstill h.reporter

namespace Course

variable {start between now : Session} {events more : List Event}

theorem exists_of_append {front rest : List Event} {event : Event}
    (hcourse : Course start (front ++ event :: rest) now) :
    ∃ before after, Course start front before ∧ Move before (some event) after := by
  generalize hevents : front ++ event :: rest = events at hcourse
  induction hcourse generalizing rest with
  | nil => simp at hevents
  | @snoc earlier between after last hearlier hmove ih =>
      cases last with
      | none =>
          rw [Option.toList_none, List.append_nil] at hevents
          exact ih hevents
      | some last =>
          rcases List.eq_nil_or_concat rest with rfl | ⟨middle, final, rfl⟩
          · obtain ⟨rfl, hlast⟩ := List.append_inj' hevents rfl
            cases hlast
            exact ⟨between, after, hearlier, hmove⟩
          · rw [List.concat_eq_append, ← List.cons_append, ← List.append_assoc] at hevents
            exact ih (List.append_inj' hevents rfl).1

theorem single {event : Option Event} (h : Move start event now) :
    Course start event.toList now :=
  Course.nil.snoc h

theorem quiet (h : Course start events between) (hquiet : between.Quiet now) :
    Course start events now := by
  have hcourse := h.snoc (.calls hquiet)
  rwa [Option.toList_none, List.append_nil] at hcourse

theorem trans (first : Course start events between) (second : Course between more now) :
    Course start (events ++ more) now := by
  induction second with
  | nil => rwa [List.append_nil]
  | snoc _ hmove ih =>
      rw [← List.append_assoc]
      exact ih.snoc hmove

/-- The slot holds what was set last since the reset, or else what was chosen first. -/
theorem reporter_eq (hcourse : Course start events now) (hstart : start.reporter = none) :
    now.reporter = (lastSet? events).or (firstChosen? events) := by
  induction hcourse with
  | nil => exact hstart
  | snoc _ hmove ih => exact hmove.reporter_eq ih

theorem obtained {front rest : List Event} {outcome : Except Failure Reporter}
    {inForce : Option LoadedSettings}
    (hcourse : Course start (front ++ .access outcome inForce :: rest) now)
    (hstart : start.reporter = none) : Obtained front outcome inForce := by
  obtain ⟨before, after, hfront, hmove⟩ := hcourse.exists_of_append
  have hslot := hfront.reporter_eq hstart
  generalize hevent : some (Event.access outcome inForce) = event at hmove
  cases hmove with
  | access =>
      cases hevent
      rcases hrun : current.on before with ⟨outcome, looked⟩
      cases outcome with
      | ok reporter =>
          obtain ⟨hheld, hchosen⟩ := reporter_of_current hrun
          show some reporter = _
          rw [← Option.or_assoc, ← hslot]
          cases hbefore : before.reporter with
          | some held =>
              rw [on_current_of_some hbefore] at hrun
              cases hrun
              rfl
          | none =>
              obtain ⟨loaded, hloaded, rfl⟩ := hchosen hbefore
              rw [hloaded]
              rfl
      | error failure =>
          have hnone := (found_of_failed_current hrun).1
          rw [hslot] at hnone
          exact Option.or_eq_none_iff.mp hnone
  | _ => cases hevent

end Course

end Reporter

/-! ### Gates that look the reporter up -/

namespace Gate

open Reporter (Course Move)

variable [Platform]

/-- A watched operation looks the reporter up for each report that has no reporter of its own. -/
def LooksUp (gate : Gate) {α : Type} (watched : Traced α) : Prop :=
  ∀ state, ∃ noted accesses, (watched.on state).2.2 = state.2 ++ noted ∧
    Course state.1 accesses (watched.on state).2.1 ∧
    (∀ event ∈ accesses, event.isAccess = true) ∧
    accesses.length = if gate.reporter.isNone then (reportsIn noted).length else 0

variable {gate : Gate} {α β : Type}

theorem LooksUp.of_quiet {watched : Traced α}
    (h : ∀ state, ∃ noted, (watched.on state).2.2 = state.2 ++ noted ∧ reportsIn noted = [] ∧
      state.1.Quiet (watched.on state).2.1) : gate.LooksUp watched := by
  intro state
  obtain ⟨noted, hnoted, hnone, hquiet⟩ := h state
  refine ⟨noted, [], hnoted, Course.single (.calls hquiet), by simp, ?_⟩
  rw [hnone]
  split <;> rfl

theorem LooksUp.bind {first : Traced α} {next : α → Traced β} (hfirst : gate.LooksUp first)
    (hnext : ∀ a, gate.LooksUp (next a)) : gate.LooksUp (first >>= next) := by
  intro state
  obtain ⟨noted, accesses, hnoted, hcourse, haccesses, hlength⟩ := hfirst state
  rw [Traced.on_bind]
  rcases hrun : first.on state with ⟨outcome, after⟩
  rw [hrun] at hnoted hcourse
  cases outcome with
  | error failure => exact ⟨noted, accesses, hnoted, hcourse, haccesses, hlength⟩
  | ok a =>
      obtain ⟨more, later, hmore, hthen, hlater, hcount⟩ := hnext a after
      refine ⟨noted ++ more, accesses ++ later, ?_, hcourse.trans hthen, ?_, ?_⟩
      · rw [hmore, hnoted, List.append_assoc]
      · intro event hevent
        exact (List.mem_append.mp hevent).elim (haccesses event) (hlater event)
      · rw [List.length_append, hlength, hcount, reportsIn_append, List.length_append]
        split <;> rfl

theorem exists_course_of_report (gate : Gate) (label expected : String) (v : Value)
    (description : String) (before : Session) :
    ∃ accesses, Course before accesses ((gate.report label expected v description).on before).2 ∧
      (∀ event ∈ accesses, event.isAccess = true) ∧
      accesses.length = if gate.reporter.isNone then 1 else 0 := by
  have hlogged := before.quiet_recording (gate.failureRecord label expected)
  have hreport (reporter : Reporter) :
      (reporter.report (gate.violation label expected v description) >>= fun _ =>
        pure () : Run Unit).Keeps Quiet :=
    (reporter.report_keeps _).bind fun _ => Run.Keeps.pure _
  cases hown : gate.reporter with
  | some reporter =>
      rw [on_report hown]
      have hquiet := Lasting.trans hlogged (hreport reporter _)
      exact ⟨[], Course.single (.calls hquiet), by simp, rfl⟩
  | none =>
      have hinForce : gate.reporterInForce = Reporter.current := by
        rw [reporterInForce, hown]
      rw [on_report_inForce, hinForce]
      generalize before.recording (gate.failureRecord label expected) = logged at hlogged ⊢
      have hlook : Course before
          [.access (Reporter.current.on logged).1 (Reporter.current.on logged).2.settings]
          (Reporter.current.on logged).2 :=
        (Course.single (.calls hlogged)).snoc (.access logged)
      refine ⟨[.access (Reporter.current.on logged).1 (Reporter.current.on logged).2.settings],
        ?_, ?_, rfl⟩
      · rw [Run.on_bind]
        rcases hrun : Reporter.current.on logged with ⟨outcome, looked⟩
        rw [hrun] at hlook
        cases outcome with
        | error failure => exact hlook
        | ok reporter => exact hlook.quiet (hreport reporter looked)
      · intro event hevent
        rw [List.mem_singleton.mp hevent]
        rfl

theorem looksUp_inspect (gate : Gate) (arguments : Arguments) :
    gate.LooksUp (gate.inspect gate.tracing arguments) := by
  refine inspect_related (R := fun {α} (watched _ : Traced α) => gate.LooksUp watched)
    gate.tracing gate.tracing ?_ LooksUp.bind ?_ ?_ ?_ rfl arguments
  · exact fun a => LooksUp.of_quiet fun state =>
      ⟨[], (List.append_nil _).symm, rfl, Lasting.refl state.1⟩
  · exact fun tag v => LooksUp.of_quiet fun state =>
      ⟨[.checked tag v], rfl, rfl, Registry.checkIn_keeps gate.registry tag v state.1⟩
  · exact fun v path => LooksUp.of_quiet fun state =>
      ⟨[], (List.append_nil _).symm, rfl, Run.Keeps.ofExcept (v.resolve path) state.1⟩
  · intro label expected v description state
    obtain ⟨accesses, hcourse, haccesses, hlength⟩ :=
      gate.exists_course_of_report label expected v description state.1
    exact ⟨[.reported (gate.violation label expected v description)], accesses, rfl, hcourse,
      haccesses, hlength⟩

/-- A call of a gate is a course in which each report without a reporter of its own is an access. -/
theorem exists_course_of_pass (gate : Gate) (arguments : Arguments) (before : Session) :
    ∃ accesses, Course before accesses ((gate.pass arguments).on before).2 ∧
      (∀ event ∈ accesses, event.isAccess = true) ∧
      accesses.length =
        if gate.reporter.isNone then (reportsIn (gate.trace arguments before).2.2).length
        else 0 := by
  obtain ⟨noted, accesses, hnoted, hcourse, haccesses, hlength⟩ :=
    gate.looksUp_inspect arguments (before, [])
  rw [List.nil_append] at hnoted
  refine ⟨accesses, ?_, haccesses, ?_⟩
  · rw [on_pass_eq_trace]
    exact hcourse
  · rw [hlength, trace, hnoted]

end Gate

namespace Reporter

section Slot

variable [Platform]

/--
The reporter of a session over any course of operations that starts without one. An access gives the
reporter that was set last since the latest reset. If none was set it gives the one chosen by the
settings in force at the first access since then that succeeded, and otherwise the one that the
settings now choose. An access fails only when no settings can be looked up. Such a failure, and
setting what cannot be called, leave the slot as it was. Whatever can be called is in the slot once
it has been set, also when its name cannot be told afterwards, and the setting returns just when it
can. A reset empties the slot and nothing else.
-/
theorem slot_over_course {start now : Session} {events : List Event}
    (hcourse : Course start events now) (hstart : start.reporter = none) :
    now.reporter = (lastSet? events).or (firstChosen? events) ∧
    (∀ front outcome inForce rest, events = front ++ .access outcome inForce :: rest →
      Obtained front outcome inForce) ∧
    (current.on now).1 =
      (match (lastSet? events).or (firstChosen? events) with
        | some reporter => .ok reporter
        | none => (Config.lookedUp now).map fun settings => ofMode settings.reporter) ∧
    (∀ reporter after, current.on now = (.ok reporter, after) →
      after.reporter = some reporter ∧
      (now.reporter = none → ∃ loaded, after.settings = some loaded ∧
        reporter = ofMode loaded.settings.reporter)) ∧
    (∀ failure after, current.on now = (.error failure, after) →
      now.reporter = none ∧ after.reporter = none ∧ now.settings = none ∧ after.settings = none ∧
      Config.found now none = .error failure ∧
      (now.files.meetsLongName now.workingDirectory (Config.filePath now.workingDirectory none) =
        false → ∃ fault, failure = .configuration fault)) ∧
    (∀ reporter, reporter.isCallable = true → ∃ after,
      (replace reporter).on now =
        (match reporter.name with
          | .ok _ => .ok ()
          | .error e => .error (.raised e), after) ∧
      after.reporter = some reporter) ∧
    (∀ reporter, reporter.isCallable = false →
      (replace reporter).on now =
        (.error (.configuration (.badReporter reporter.receivedType)), now)) ∧
    reset.on now = (.ok (), { now with reporter := none }) ∧
    ∀ (gate : Gate) (arguments : Arguments), ∃ accesses,
      Course now accesses ((gate.pass arguments).on now).2 ∧
      (∀ event ∈ accesses, event.isAccess = true) ∧
      accesses.length =
        if gate.reporter.isNone then
          (Gate.reportsIn (gate.trace arguments now).2.2).length
        else 0 := by
  have hslot := hcourse.reporter_eq hstart
  refine ⟨hslot, fun front outcome inForce rest hevents => ?_, ?_,
    fun reporter after hrun => ?_, fun failure after hrun => ?_,
    fun reporter hcallable => exists_replace hcallable now,
    fun reporter hcallable => on_replace_of_not_callable hcallable now, rfl,
    fun gate arguments => gate.exists_course_of_pass arguments now⟩
  · subst hevents
    exact hcourse.obtained hstart
  · rw [← hslot]
    exact fst_on_current now
  · exact reporter_of_current hrun
  · obtain ⟨hnow, hafter, hsettings, hstill, hfound⟩ := found_of_failed_current hrun
    exact ⟨hnow, hafter, hsettings, hstill, hfound,
      fun hpath => Config.exists_configuration_of_found hpath hfound⟩

end Slot

open scoped Standard

/-- A session whose variables name a reporter. -/
def naming (mode : String) : Session :=
  { environment := [("PARAMOUNT_REPORTER", mode)] }

/-- A reporter chosen once the settings are repaired stays when other settings are loaded. -/
theorem chosen_reporter_outlives_settings :
    ∃ fault now,
      Course (naming "loud")
        [.access (.error (.configuration fault)) none,
          .access (.ok .logging) (some ⟨{ reporter := .log }, 0⟩)] now ∧
      now.settings = some ⟨{ reporter := .raise }, 1⟩ ∧ (current.on now).1 = .ok .logging := by
  have hfailed : Course (naming "loud") [.access (.error (.configuration _)) none]
      (current.on (naming "loud")).2 := Course.single (.access (naming "loud"))
  have hrepaired := hfailed.snoc (.surroundings (naming "log").environment ⟨[]⟩ "/" _)
  have hchosen := hrepaired.snoc (.access _)
  have hchanged := hchosen.snoc (.surroundings (naming "raise").environment ⟨[]⟩ "/" _)
  have hcourse := hchanged.snoc (.reload none _)
  exact ⟨_, _, hcourse, rfl, (slot_over_course hcourse rfl).2.2.1⟩

/-- A function applied to a number that is too long to be written. -/
def unwritable : Reporter :=
  .custom (.callable { (default : Callable) with
    kind := .application
    name := "print"
    owner := "x" })

/-- Setting such a reporter fails, but only after the slot has changed. -/
theorem failed_set_changes_slot :
    unwritable.isCallable = true ∧
      ∃ after, (replace unwritable).on {} = (.error (.raised Value.tooManyDigits), after) ∧
        after.reporter = some unwritable :=
  ⟨rfl, _, rfl, rfl⟩

end Reporter

end CallGuard
