import CallGuard.Proofs.Session.Frame

/-!
# What a load of the settings finds

A load lays the environment file over the variables and then reads the settings from them. What it
finds is settled by the variables, the files and the working directory, and a load that fails leaves
the settings that were in force. So long as nothing but calls and records is added to a session, the
settings that it would look up stay the same.
-/

namespace CallGuard.Config

open Session

variable [Platform]

/-- The variables after the file at a path is laid over them, and what stops it. -/
def laid (session : Session) (path : String) : Environment × Option Failure :=
  if session.files.meetsLongName session.workingDirectory path then
    (session.environment, some (.raised (nameTooLong path).raised))
  else if session.files.hasNode session.workingDirectory path then
    match Platform.bindings session.environment
        (session.files.content? session.workingDirectory path) with
    | .error e => (session.environment, some (.configuration (.unreadableFile path e)))
    | .ok bindings =>
      let overlaid := overlay session.environment (Table.ofList bindings)
      (overlaid.1, overlaid.2.map fun e => .configuration (.unreadableFile path e))
  else (session.environment, none)

def found (session : Session) (file : Option String) : Except Failure Settings :=
  match laid session (filePath session.workingDirectory file) with
  | (_, some failure) => .error failure
  | (environment, none) =>
    (Settings.read (Table.get? environment)).mapError fun faults =>
      .configuration (.badSettings faults)

/-- The settings that a session looks up: those in force, or else those that a load finds. -/
def lookedUp (session : Session) : Except Failure Settings :=
  match session.settings with
  | some loaded => .ok loaded.settings
  | none => found session none

theorem on_loadFile (path : String) (session : Session) :
    ∃ journal, (loadFile path).on session =
      (match (laid session path).2 with
        | some failure => .error failure
        | none => .ok (),
        { session with environment := (laid session path).1, journal }) := by
  rw [loadFile, Run.on_bind_of_ok (Run.on_get session), laid]
  by_cases hlong : session.files.meetsLongName session.workingDirectory path = true
  · rw [if_pos hlong, if_pos hlong]
    exact ⟨session.journal, rfl⟩
  · rw [if_neg hlong, if_neg hlong]
    by_cases hnode : session.files.hasNode session.workingDirectory path = true
    · rw [if_pos hnode, if_pos hnode]
      rw [Run.on_bind_of_ok (Run.on_log _ _ _ _ _)]
      cases Platform.bindings session.environment
          (session.files.content? session.workingDirectory path) with
      | error e => exact ⟨_, rfl⟩
      | ok bindings =>
          dsimp only
          rw [layOver, Run.on_bind_of_ok (Run.on_get _)]
          dsimp only [recording]
          rcases overlay session.environment (Table.ofList bindings) with ⟨environment, fault⟩
          cases fault with
          | none => exact ⟨_, rfl⟩
          | some e => exact ⟨_, rfl⟩
    · rw [if_neg hnode, if_neg hnode]
      exact ⟨_, rfl⟩

theorem on_readSettings (session : Session) :
    ∃ journal, readSettings.on session =
      match Settings.read (Table.get? session.environment) with
      | .error faults =>
        (.error (.configuration (.badSettings faults)), { session with journal })
      | .ok settings =>
        (.ok ⟨settings, session.loads⟩,
          { session with
            settings := some ⟨settings, session.loads⟩, loads := session.loads + 1, journal }) := by
  rw [readSettings, Run.on_bind_of_ok (Run.on_get session)]
  cases Settings.read (Table.get? session.environment) with
  | error faults => exact ⟨_, rfl⟩
  | ok settings => exact ⟨_, rfl⟩

/--
A load that succeeds puts the settings that it finds in force; one that fails changes none. The
variables that the file has set stay set in any case.
-/
theorem on_reload (file : Option String) (session : Session) :
    ∃ journal, (reload file).on session =
      match found session file with
      | .ok settings =>
        (.ok ⟨settings, session.loads⟩,
          { session with
            environment := (laid session (filePath session.workingDirectory file)).1
            settings := some ⟨settings, session.loads⟩, loads := session.loads + 1, journal })
      | .error failure =>
        (.error failure,
          { session with
            environment := (laid session (filePath session.workingDirectory file)).1
            journal }) := by
  rw [reload, Run.on_bind_of_ok (Run.on_get session), found]
  obtain ⟨journal, hfile⟩ := on_loadFile (filePath session.workingDirectory file) session
  rcases hlaid : laid session (filePath session.workingDirectory file) with ⟨environment, failure⟩
  rw [hlaid] at hfile
  cases failure with
  | some failure => exact ⟨journal, Run.on_bind_of_error hfile _⟩
  | none =>
      obtain ⟨later, hread⟩ := on_readSettings { session with environment, journal }
      refine ⟨later, ?_⟩
      rw [Run.on_bind_of_ok hfile, hread]
      simp only
      cases Settings.read (Table.get? environment) with
      | error faults => rfl
      | ok settings => rfl

theorem on_load (file : Option String) (session : Session) :
    (load file).on session =
      match session.settings with
      | some loaded => (.ok loaded, session)
      | none => (reload file).on session := by
  rw [load, Run.on_bind_of_ok (Run.on_get session)]
  cases session.settings with
  | some loaded => rfl
  | none => rfl

theorem on_current_of_some {session : Session} {loaded : LoadedSettings}
    (h : session.settings = some loaded) : current.on session = (.ok loaded.settings, session) := by
  rw [current, Run.on_bind, on_load, h]
  rfl

theorem on_current_of_none {session : Session} (h : session.settings = none) :
    ∃ environment journal, current.on session =
      match found session none with
      | .ok settings =>
        (.ok settings,
          { session with
            environment, settings := some ⟨settings, session.loads⟩, loads := session.loads + 1,
            journal })
      | .error failure => (.error failure, { session with environment, journal }) := by
  obtain ⟨journal, hreload⟩ := on_reload none session
  have hload : (load none).on session = (reload none).on session := by
    rw [on_load, h]
  refine ⟨(laid session (filePath session.workingDirectory none)).1, journal, ?_⟩
  rw [current, Run.on_bind, hload, hreload]
  cases found session none with
  | ok settings => rfl
  | error failure => rfl

theorem fst_on_current (session : Session) : (current.on session).1 = lookedUp session := by
  rw [lookedUp]
  cases hsettings : session.settings with
  | some loaded => rw [on_current_of_some hsettings]
  | none =>
      obtain ⟨environment, journal, hcurrent⟩ := on_current_of_none hsettings
      rw [hcurrent]
      cases found session none with
      | ok settings => rfl
      | error failure => rfl

theorem invocations_on_current (session : Session) :
    (current.on session).2.invocations = session.invocations := by
  cases hsettings : session.settings with
  | some loaded => rw [on_current_of_some hsettings]
  | none =>
      obtain ⟨environment, journal, hcurrent⟩ := on_current_of_none hsettings
      rw [hcurrent]
      cases found session none with
      | ok settings => rfl
      | error failure => rfl

theorem lookedUp_congr {before after : Session} (hsettings : after.settings = before.settings)
    (henvironment : after.environment = before.environment) (hfiles : after.files = before.files)
    (hdirectory : after.workingDirectory = before.workingDirectory) :
    lookedUp after = lookedUp before := by
  rw [lookedUp, lookedUp, found, found, laid, laid, hsettings, henvironment, hfiles, hdirectory]

/-- The settings that are given out are those in force from then on. -/
theorem settings_of_current {settings : Settings} {session after : Session}
    (h : current.on session = (.ok settings, after)) :
    ∃ loaded, after.settings = some loaded ∧ loaded.settings = settings := by
  cases hsettings : session.settings with
  | some loaded =>
      rw [on_current_of_some hsettings] at h
      cases h
      exact ⟨loaded, hsettings, rfl⟩
  | none =>
      obtain ⟨environment, journal, hcurrent⟩ := on_current_of_none hsettings
      rw [hcurrent] at h
      cases hfound : found session none with
      | ok read =>
          rw [hfound] at h
          cases h
          exact ⟨_, rfl, rfl⟩
      | error failure =>
          rw [hfound] at h
          cases h

/-- Settings that cannot be given out were not in force, and they are not put in force either. -/
theorem found_of_failed_current {session after : Session} {failure : Failure}
    (h : current.on session = (.error failure, after)) :
    session.settings = none ∧ after.settings = none ∧ found session none = .error failure := by
  cases hsettings : session.settings with
  | some loaded =>
      rw [on_current_of_some hsettings] at h
      cases h
  | none =>
      obtain ⟨environment, journal, hcurrent⟩ := on_current_of_none hsettings
      rw [hcurrent] at h
      cases hfound : found session none with
      | ok settings =>
          rw [hfound] at h
          cases h
      | error found =>
          rw [hfound] at h
          cases h
          exact ⟨rfl, hsettings, rfl⟩

/-- A load fails as a configuration does, unless the path of the file cannot be followed at all. -/
theorem exists_configuration_of_found {session : Session} {file : Option String} {failure : Failure}
    (hpath : session.files.meetsLongName session.workingDirectory
      (filePath session.workingDirectory file) = false)
    (h : found session file = .error failure) : ∃ fault, failure = .configuration fault := by
  rw [found, laid, hpath, if_neg Bool.false_ne_true] at h
  split at h
  · rename_i environment found hlaid
    cases h
    split at hlaid
    · split at hlaid
      · cases hlaid
        exact ⟨_, rfl⟩
      · obtain ⟨e, _, hfailure⟩ := Option.map_eq_some_iff.mp (congrArg Prod.snd hlaid)
        exact ⟨_, hfailure.symm⟩
    · cases hlaid
  · rename_i environment hlaid
    cases hread : Settings.read (Table.get? environment) with
    | ok settings =>
        rw [hread] at h
        cases h
    | error faults =>
        rw [hread] at h
        cases h
        exact ⟨_, rfl⟩

end CallGuard.Config
