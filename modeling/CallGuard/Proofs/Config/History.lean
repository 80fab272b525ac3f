import CallGuard.Proofs.Config.Reading
import CallGuard.Standard.Platform

/-!
# The settings of a session over its history

A session keeps the settings of the last load that succeeded, whatever becomes of the variables and
the files, until another load succeeds. The variables are changed from outside, and by the files
that loads lay over them. What a file has set stays set when the load fails afterwards, and when the
file is edited or taken away.
-/

namespace CallGuard.Config

open Session

/--
What happens to the variables and the settings of a session. A load that runs tells the values that
it gives to variables.
-/
inductive Event
  | variable (name : String) (value : Option String)
  | load (given : Table String) (outcome : Except Failure LoadedSettings)

namespace Event

def loaded? : Event → Option LoadedSettings
  | .load _ (.ok loaded) => some loaded
  | _ => none

/-- What becomes of a variable, if it is changed: it gets a value, or it is taken away. -/
def change? (name : String) : Event → Option (Option String)
  | .variable changed value => if changed = name then some value else none
  | .load given _ => (Table.get? given name).map some

end Event

def lastLoaded? (events : List Event) : Option LoadedSettings :=
  (events.filterMap Event.loaded?).getLast?

def lastChange? (events : List Event) (name : String) : Option (Option String) :=
  (events.filterMap (Event.change? name)).getLast?

theorem lastLoaded?_append (events : List Event) (event : Event) :
    lastLoaded? (events ++ [event]) = event.loaded?.or (lastLoaded? events) := by
  rw [lastLoaded?, List.filterMap_append, List.getLast?_append, List.filterMap_cons]
  cases event.loaded? <;> rfl

theorem lastChange?_append (events : List Event) (event : Event) (name : String) :
    lastChange? (events ++ [event]) name = (event.change? name).or (lastChange? events name) := by
  rw [lastChange?, List.filterMap_append, List.getLast?_append, List.filterMap_cons]
  cases event.change? name <;> rfl

/-! ### Requests -/

section

variable [Platform]

/-- Asks for the settings, and perhaps for a new load of them. -/
def request (file : Option String) (again : Bool) : Run LoadedSettings :=
  if again then reload file else load file

/-- What a request does to the variables and the settings: nothing, unless it has to load. -/
def event? (session : Session) (file : Option String) (again : Bool) : Option Event :=
  if again || session.settings.isNone then
    some (.load (assignedAt session (filePath session.workingDirectory file))
      ((reload file).on session).1)
  else none

theorem on_current (session : Session) :
    current.on session =
      (((load none).on session).1.map LoadedSettings.settings, ((load none).on session).2) := by
  rw [current, Run.on_bind]
  rcases (load none).on session with ⟨outcome, after⟩
  cases outcome with
  | ok loaded => rfl
  | error failure => rfl

theorem on_request_of_runs {session : Session} {file : Option String} {again : Bool}
    (h : again = true ∨ session.settings = none) :
    (request file again).on session = (reload file).on session := by
  cases again with
  | true => rfl
  | false =>
      have hnone := h.resolve_left Bool.false_ne_true
      rw [request, if_neg Bool.false_ne_true, on_load, hnone]

theorem on_request_of_some {session : Session} {loaded : LoadedSettings}
    (h : session.settings = some loaded) (file : Option String) :
    (request file false).on session = (.ok loaded, session) := by
  rw [request, if_neg Bool.false_ne_true, on_load, h]

/-- A request loads, or else it gives the settings in force and changes nothing. -/
theorem request_cases (session : Session) (file : Option String) (again : Bool) :
    ((request file again).on session = (reload file).on session ∧
      event? session file again =
        some (.load (assignedAt session (filePath session.workingDirectory file))
          ((reload file).on session).1)) ∨
    ((request file again).on session).2 = session ∧ event? session file again = none := by
  by_cases hruns : again = true ∨ session.settings = none
  · exact .inl ⟨on_request_of_runs hruns, if_pos (by simpa using hruns)⟩
  · obtain ⟨hagain, hsome⟩ := not_or.mp hruns
    obtain ⟨loaded, hloaded⟩ := Option.ne_none_iff_exists'.mp hsome
    rw [Bool.not_eq_true] at hagain
    subst hagain
    exact .inr ⟨by rw [on_request_of_some hloaded], if_neg (by simpa using hsome)⟩

theorem environment_on_reload (file : Option String) (session : Session) (name : String) :
    Table.get? ((reload file).on session).2.environment name =
      lookAfter session (filePath session.workingDirectory file) name := by
  obtain ⟨journal, hreload⟩ := on_reload file session
  rw [hreload, ← get?_laid]
  cases found session file <;> rfl

theorem settings_on_reload (file : Option String) (session : Session) :
    ((reload file).on session).2.settings =
      (((reload file).on session).1.toOption).or session.settings := by
  obtain ⟨journal, hreload⟩ := on_reload file session
  rw [hreload]
  cases found session file <;> rfl

theorem fst_on_reload (file : Option String) (session : Session) :
    ((reload file).on session).1 =
      (found session file).map fun settings => ⟨settings, session.loads⟩ := by
  obtain ⟨journal, hreload⟩ := on_reload file session
  rw [hreload]
  cases found session file <;> rfl

/-! ### The outcome of a load -/

section Reload

variable {session : Session} {file : Option String}

theorem fst_on_reload_eq_ok_iff {loaded : LoadedSettings} :
    ((reload file).on session).1 = .ok loaded ↔
      loaded.serial = session.loads ∧
        hindrance? session (filePath session.workingDirectory file) = none ∧
        loaded.settings.IsReadFrom
          (lookAfter session (filePath session.workingDirectory file)) := by
  rw [fst_on_reload, ← found_eq_ok_iff]
  obtain ⟨settings, serial⟩ := loaded
  cases found session file with
  | error failure => simp [Except.map]
  | ok read => simp [Except.map, and_comm, eq_comm]

theorem fst_on_reload_eq_error_iff {failure : Failure} :
    ((reload file).on session).1 = .error failure ↔ found session file = .error failure := by
  rw [fst_on_reload]
  cases found session file with
  | error failure => simp [Except.map]
  | ok read => simp [Except.map]

theorem settings_of_failed_reload {after : Session} {failure : Failure}
    (h : (reload file).on session = (.error failure, after)) :
    after.settings = session.settings := by
  have hsettings := settings_on_reload file session
  rw [h] at hsettings
  exact hsettings

end Reload

/-! ### Courses of operations -/

/--
One thing that happens to a session, and what it does to the variables and the settings. Files come
and go and are edited; whatever else happens leaves variables and settings alone.
-/
inductive Move : Session → Option Event → Session → Prop
  | set (name value : String) (before : Session) :
      Move before (some (.variable name (some value)))
        { before with environment := Table.put before.environment name value }
  | unset (name : String) (before : Session) :
      Move before (some (.variable name none))
        { before with environment := Table.drop before.environment name }
  | request (file : Option String) (again : Bool) (before : Session) :
      Move before (event? before file again) ((request file again).on before).2
  | current (before : Session) : Move before (event? before none false) (current.on before).2
  | files (files : Files.Tree) (workingDirectory : String) (before : Session) :
      Move before none { before with files, workingDirectory }
  | other {before after : Session} (hsettings : after.settings = before.settings)
      (henvironment : after.environment = before.environment) : Move before none after

/-- A session is reached from another one, and these are the events on the way. -/
inductive Course (start : Session) : List Event → Session → Prop
  | nil : Course start [] start
  | snoc {events : List Event} {between after : Session} {event : Option Event}
      (h : Course start events between) (hmove : Move between event after) :
      Course start (events ++ event.toList) after

namespace Move

variable {before after : Session} {event : Option Event}

theorem settings_eq (h : Move before event after) :
    after.settings = (event.bind Event.loaded?).or before.settings := by
  have hrequest (file : Option String) (again : Bool) :
      ((Config.request file again).on before).2.settings =
        ((event? before file again).bind Event.loaded?).or before.settings := by
    rcases request_cases before file again with ⟨hrun, hevent⟩ | ⟨hrun, hevent⟩
    · rw [hrun, hevent, settings_on_reload]
      cases ((reload file).on before).1 <;> rfl
    · rw [hrun, hevent]
      rfl
  cases h with
  | request file again => exact hrequest file again
  | current =>
      rw [on_current]
      exact hrequest none false
  | other hsettings => exact hsettings
  | _ => rfl

theorem get?_eq (h : Move before event after) (name : String) :
    Table.get? after.environment name =
      (event.bind (Event.change? name)).getD (Table.get? before.environment name) := by
  have hrequest (file : Option String) (again : Bool) :
      Table.get? ((Config.request file again).on before).2.environment name =
        ((event? before file again).bind (Event.change? name)).getD
          (Table.get? before.environment name) := by
    rcases request_cases before file again with ⟨hrun, hevent⟩ | ⟨hrun, hevent⟩
    · rw [hrun, hevent, environment_on_reload, lookAfter, Option.bind_some, Event.change?]
      cases Table.get? (assignedAt before (filePath before.workingDirectory file)) name <;> rfl
    · rw [hrun, hevent]
      rfl
  cases h with
  | request file again => exact hrequest file again
  | current =>
      rw [on_current]
      exact hrequest none false
  | files => rfl
  | other _ henvironment => rw [henvironment, Option.bind_none, Option.getD_none]
  | set changed value =>
      rw [Option.bind_some, Event.change?]
      by_cases hname : changed = name
      · rw [if_pos hname, ← hname, Table.get?_put_self, Option.getD_some]
      · rw [if_neg hname, Table.get?_put_of_ne (fun e => hname e.symm), Option.getD_none]
  | unset changed =>
      rw [Option.bind_some, Event.change?, Table.get?_drop]
      by_cases hname : changed = name
      · rw [if_pos hname, if_pos hname.symm, Option.getD_some]
      · rw [if_neg hname, if_neg (fun e => hname e.symm), Option.getD_none]

end Move

namespace Course

variable {start now : Session} {events : List Event}

/-- The settings in force are those of the last load that succeeded. -/
theorem settings_eq (hcourse : Course start events now) :
    now.settings = (lastLoaded? events).or start.settings := by
  induction hcourse with
  | nil => rfl
  | @snoc events _ _ event _ hmove ih =>
      rw [hmove.settings_eq, ih]
      cases event with
      | none => rw [Option.toList_none, List.append_nil, Option.bind_none, Option.none_or]
      | some event =>
          rw [Option.toList_some, lastLoaded?_append, Option.bind_some, Option.or_assoc]

/-- A variable holds what it was given last, from outside or by a file. -/
theorem get?_eq (hcourse : Course start events now) (name : String) :
    Table.get? now.environment name =
      (lastChange? events name).getD (Table.get? start.environment name) := by
  induction hcourse with
  | nil => rfl
  | @snoc events _ _ event _ hmove ih =>
      rw [hmove.get?_eq, ih]
      cases event with
      | none => rw [Option.toList_none, List.append_nil, Option.bind_none, Option.getD_none]
      | some event =>
          rw [Option.toList_some, lastChange?_append, Option.bind_some]
          cases event.change? name <;> rfl

end Course

/-- A session that has settings gives them out and stays as it is. -/
theorem on_asked_of_some {session : Session} {loaded : LoadedSettings}
    (h : session.settings = some loaded) :
    current.on session = (.ok loaded.settings, session) ∧
      ∀ file, (request file false).on session = (.ok loaded, session) :=
  ⟨on_current_of_some h, on_request_of_some h⟩

/--
The settings and the variables of a session after any course of changes to variables, changes to
files, and requests. The settings are those of the last load that succeeded, and while there are any
they are given out and nothing is loaded without being told to. A load gives the settings that are
read from the variables with the file laid over them, and where the path can be followed it fails,
as a configuration does, just when the file cannot be read or laid or one of the three choices is
not an allowed one; no flag is wrong. A load that fails leaves the settings alone. A load changes
just the variables that its file gives values to, and these stay until they are changed again.
-/
theorem settings_over_course {start now : Session} {events : List Event}
    (hcourse : Course start events now) :
    now.settings = (lastLoaded? events).or start.settings ∧
    (∀ loaded, now.settings = some loaded →
      current.on now = (.ok loaded.settings, now) ∧
      ∀ file, (request file false).on now = (.ok loaded, now)) ∧
    (∀ file again, again = true ∨ now.settings = none →
      let path := filePath now.workingDirectory file
      (∀ loaded, ((request file again).on now).1 = .ok loaded ↔
        loaded.serial = now.loads ∧ hindrance? now path = none ∧
          loaded.settings.IsReadFrom (lookAfter now path)) ∧
      (now.files.meetsLongName now.workingDirectory path = false →
        ((∃ failure, ((request file again).on now).1 = .error failure) ↔
          hindrance? now path ≠ none ∨ ¬ Allowed (lookAfter now path)) ∧
        ∀ failure, ((request file again).on now).1 = .error failure →
          ∃ fault, failure = .configuration fault) ∧
      (∀ failure after, (request file again).on now = (.error failure, after) →
        after.settings = now.settings ∧
        ∀ loaded, now.settings = some loaded →
          current.on after = (.ok loaded.settings, after) ∧
          ∀ other, (request other false).on after = (.ok loaded, after)) ∧
      ∀ name, Table.get? ((request file again).on now).2.environment name =
        lookAfter now path name) ∧
    (∀ look other, Allowed look → (∀ name, name ∉ flagNames → other name = look name) →
      ∃ settings, Settings.read other = .ok settings) ∧
    (∀ name, Table.get? now.environment name =
      (lastChange? events name).getD (Table.get? start.environment name)) ∧
    current.on now =
      (((request none false).on now).1.map LoadedSettings.settings,
        ((request none false).on now).2) := by
  refine ⟨hcourse.settings_eq, fun loaded => on_asked_of_some, fun file again hruns => ?_,
    fun look other hallowed hagree => ?_, hcourse.get?_eq, on_current now⟩
  · rw [on_request_of_runs hruns]
    refine ⟨fun loaded => fst_on_reload_eq_ok_iff, fun hpath => ⟨?_, fun failure hfailed => ?_⟩,
      fun failure after hfailed => ⟨settings_of_failed_reload hfailed, fun loaded hloaded => ?_⟩,
      environment_on_reload file now⟩
    · rw [← exists_configuration_iff hpath]
      simp only [fst_on_reload_eq_error_iff]
      constructor
      · rintro ⟨failure, hfound⟩
        obtain ⟨fault, rfl⟩ := exists_configuration_of_found hpath hfound
        exact ⟨fault, hfound⟩
      · rintro ⟨fault, hfound⟩
        exact ⟨_, hfound⟩
    · exact exists_configuration_of_found hpath (fst_on_reload_eq_error_iff.mp hfailed)
    · exact on_asked_of_some ((settings_of_failed_reload hfailed).trans hloaded)
  · obtain ⟨settings, hread⟩ := Settings.exists_isReadFrom_iff.mpr (hallowed.of_agree hagree)
    exact ⟨settings, Settings.read_eq_ok_iff.mpr hread⟩

end

open scoped Standard

/-- A session whose working directory holds an environment file. -/
def beside (environment : Environment) (text : String) : Session :=
  { environment
    files := ⟨[([".env"], .file (.bytes (text.toList.map fun c => UInt8.ofNat c.toNat)))]⟩ }

/-- The settings of a load outlive its file, and so does what the file has set. -/
theorem settings_outlive_file :
    ∃ failure now,
      Course (beside [] "PARAMOUNT_REPORTER=log")
        [.load [("PARAMOUNT_REPORTER", "log")] (.ok ⟨{ reporter := .log }, 0⟩),
          .variable "PARAMOUNT_LOG_LEVEL" (some "loud"), .load [] (.error failure)] now ∧
      now.files.nodes.length = 0 ∧ current.on now = (.ok { reporter := .log }, now) ∧
      Table.get? now.environment "PARAMOUNT_REPORTER" = some "log" := by
  have hloaded : Course (beside [] "PARAMOUNT_REPORTER=log")
      [.load [("PARAMOUNT_REPORTER", "log")] (.ok ⟨{ reporter := .log }, 0⟩)] _ :=
    Course.nil.snoc (.request none false _)
  have hremoved := hloaded.snoc (.files ⟨[]⟩ "/" _)
  have hchanged := hremoved.snoc (.set "PARAMOUNT_LOG_LEVEL" "loud" _)
  have hcourse := hchanged.snoc (.request none true _)
  have h := settings_over_course hcourse
  exact ⟨_, _, hcourse, rfl, (h.2.1 _ rfl).1, h.2.2.2.2.1 "PARAMOUNT_REPORTER"⟩

/--
A file that can be read, with nothing but allowed choices, makes a load fail if a name in it cannot
be set.
-/
theorem file_not_laid :
    bindingsAt (beside [] "'a=b'=c") "/.env" = .ok [("a=b", some "c")] ∧
    Allowed (lookAfter (beside [] "'a=b'=c") "/.env") ∧
    ∃ cause, ((reload none).on (beside [] "'a=b'=c")).1 =
      .error (.configuration (.unreadableFile "/.env" cause)) := by
  refine ⟨rfl, ⟨by decide, by decide, by decide⟩, _, rfl⟩

end CallGuard.Config
