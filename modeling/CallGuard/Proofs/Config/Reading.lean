import CallGuard.Proofs.Config.Loading

/-!
# What a load reads

A load lays the environment file over the variables and reads the settings from what comes out. The
file wins wherever it gives a value. It can be hindered: the reader of files may fail on it, and a
binding in it may be one that cannot be set, which stops the file there. Of the settings only three
can be wrong, since a flag is on for a few words and off for all others.
-/

namespace CallGuard.Config

open Session

/-! ### Laying bindings over variables -/

/-- What keeps a binding from being set. A name without a value sets nothing. -/
def bindingFault? (binding : Binding) : Option Cause :=
  binding.2.bind (settingFault? binding.1)

/-- The values that bindings set: those in front of the first that cannot be set. -/
def assigned (all : Table (Option String)) : Table String :=
  (all.takeWhile fun binding => (bindingFault? binding).isNone).filterMap fun binding =>
    binding.2.map (Prod.mk binding.1)

theorem overlay_eq (environment : Environment) (all : Table (Option String)) :
    overlay environment all =
      ((assigned all).foldl (fun table pair => Table.put table pair.1 pair.2) environment,
        all.findSome? bindingFault?) := by
  induction all generalizing environment with
  | nil => rfl
  | cons binding rest ih =>
      obtain ⟨name, value⟩ := binding
      cases value with
      | none =>
          rw [overlay, ih, List.findSome?_cons]
          rfl
      | some value =>
          have hbinding : bindingFault? (name, some value) = settingFault? name value := rfl
          rw [overlay, List.findSome?_cons, hbinding, assigned, List.takeWhile_cons, hbinding]
          cases settingFault? name value with
          | some e => rfl
          | none => exact ih _

theorem names_values_sublist (all : Table (Option String)) :
    (Table.names (all.filterMap fun binding => binding.2.map (Prod.mk binding.1))).Sublist
      (Table.names all) := by
  induction all with
  | nil => exact List.Sublist.slnil
  | cons binding rest ih =>
      obtain ⟨name, value⟩ := binding
      cases value with
      | none => exact ih.cons name
      | some value => exact ih.cons_cons name

theorem nodup_names_assigned {all : Table (Option String)} (h : (Table.names all).Nodup) :
    (Table.names (assigned all)).Nodup :=
  h.sublist ((names_values_sublist _).trans ((List.takeWhile_sublist _).map Prod.fst))

/-! ### The file of a load -/

section Laid

variable [Platform]

/--
The bindings of the file at a path, or the error of reading it. Where nothing stands there are none.
-/
def bindingsAt (session : Session) (path : String) : Except Cause (Table (Option String)) :=
  if session.files.meetsLongName session.workingDirectory path then .error (nameTooLong path)
  else if session.files.hasNode session.workingDirectory path then
    (Platform.bindings session.environment
      (session.files.content? session.workingDirectory path)).map Table.ofList
  else .ok []

/-- What hinders a load at the file: it cannot be read, or a binding in it cannot be set. -/
def hindrance? (session : Session) (path : String) : Option Cause :=
  match bindingsAt session path with
  | .error e => some e
  | .ok all => all.findSome? bindingFault?

/-- The values that a load gives to variables. -/
def assignedAt (session : Session) (path : String) : Table String :=
  match bindingsAt session path with
  | .error _ => []
  | .ok all => assigned all

/-- A variable after the file at a path is laid over the variables: the file wins. -/
def lookAfter (session : Session) (path name : String) : Option String :=
  (Table.get? (assignedAt session path) name).or (Table.get? session.environment name)

theorem nodup_names_bindingsAt {session : Session} {path : String} {all : Table (Option String)}
    (h : bindingsAt session path = .ok all) : (Table.names all).Nodup := by
  rw [bindingsAt] at h
  split at h
  · cases h
  split at h
  · generalize Platform.bindings _ _ = bindings at h
    cases bindings with
    | error e => cases h
    | ok bindings =>
        cases h
        exact Table.nodup_names_ofList bindings
  · cases h
    exact List.nodup_nil

/-- Laying a file over the variables, in terms of the bindings that are read from it. -/
theorem laid_eq (session : Session) (path : String) :
    laid session path =
      (((assignedAt session path).foldl (fun table pair => Table.put table pair.1 pair.2)
          session.environment),
        (hindrance? session path).map fun e =>
          if session.files.meetsLongName session.workingDirectory path then .raised e.raised
          else .configuration (.unreadableFile path e)) := by
  rw [laid, hindrance?, assignedAt, bindingsAt]
  by_cases hlong : session.files.meetsLongName session.workingDirectory path = true
  · simp only [if_pos hlong]
    rfl
  simp only [if_neg hlong]
  by_cases hnode : session.files.hasNode session.workingDirectory path = true
  · rw [if_pos hnode, if_pos hnode]
    cases Platform.bindings session.environment
        (session.files.content? session.workingDirectory path) with
    | error e => rfl
    | ok bindings => simp only [overlay_eq, Except.map]
  · rw [if_neg hnode, if_neg hnode]
    rfl

theorem get?_laid (session : Session) (path name : String) :
    Table.get? (laid session path).1 name = lookAfter session path name := by
  rw [laid_eq, Table.get?_foldl_put, lookAfter]
  rw [assignedAt]
  cases hall : bindingsAt session path with
  | error e => exact List.nodup_nil
  | ok all => exact nodup_names_assigned (nodup_names_bindingsAt hall)

end Laid

/-! ### Settings read from variables -/

def stageText (look : String → Option String) : String :=
  trimmedSmall ((look "PARAMOUNT_ENVIRONMENT").getD "development")

def levelText (look : String → Option String) : String :=
  trimmedCapital ((look "PARAMOUNT_LOG_LEVEL").getD "INFO")

def reporterText (look : String → Option String) : String :=
  trimmedSmall ((look "PARAMOUNT_REPORTER").getD "raise")

/-- The names of the variables that hold flags. -/
def flagNames : List String := ["PARAMOUNT_JSON_LOGS", "PARAMOUNT_ENABLED"]

/-- The stage, the level and the reporter that variables name are all known. -/
structure Allowed (look : String → Option String) : Prop where
  stage : stageText look ∈ Stage.all.map Stage.name
  level : levelText look ∈ LogLevel.all.map LogLevel.name
  reporter : reporterText look ∈ ReporterMode.all.map ReporterMode.name

/-- Settings are those that variables name. -/
structure Settings.IsReadFrom (settings : Settings) (look : String → Option String) : Prop where
  stage : settings.stage.name = stageText look
  level : settings.level.name = levelText look
  reporter : settings.reporter.name = reporterText look
  jsonLogs : settings.jsonLogs = readFlag ((look "PARAMOUNT_JSON_LOGS").getD "false")
  enabled : settings.enabled = readFlag ((look "PARAMOUNT_ENABLED").getD "true")

section Choices

variable {α : Type} {all : List α} {name : α → String}

theorem choose_eq_ok_iff (hall : ∀ choice, choice ∈ all)
    (hname : ∀ choice other, name choice = name other → choice = other) {field text : String}
    {choice : α} : choose field all name text = .ok choice ↔ name choice = text := by
  rw [choose]
  cases hfind : all.find? fun choice => name choice = text with
  | none =>
      refine ⟨nofun, fun htext => ?_⟩
      exact absurd (List.find?_eq_none.mp hfind choice (hall choice)) (by simp [htext])
  | some found =>
      have hfound : name found = text := by simpa using List.find?_some hfind
      constructor
      · intro h
        cases h
        exact hfound
      · intro htext
        rw [hname found choice (hfound.trans htext.symm)]

end Choices

theorem Stage.mem_all (stage : Stage) : stage ∈ Stage.all := by
  cases stage <;> decide

theorem Stage.name_injective (stage other : Stage) (h : stage.name = other.name) :
    stage = other := by
  cases stage <;> cases other <;> first | rfl | exact absurd h (by decide)

theorem LogLevel.mem_all (level : LogLevel) : level ∈ LogLevel.all := by
  cases level <;> decide

theorem LogLevel.name_injective (level other : LogLevel) (h : level.name = other.name) :
    level = other := by
  cases level <;> cases other <;> first | rfl | exact absurd h (by decide)

theorem ReporterMode.mem_all (mode : ReporterMode) : mode ∈ ReporterMode.all := by
  cases mode <;> decide

theorem ReporterMode.name_injective (mode other : ReporterMode) (h : mode.name = other.name) :
    mode = other := by
  cases mode <;> cases other <;> first | rfl | exact absurd h (by decide)

section Read

variable {look : String → Option String}

theorem Settings.read_eq_ok_iff {settings : Settings} :
    Settings.read look = .ok settings ↔ settings.IsReadFrom look := by
  have hstage := @choose_eq_ok_iff _ _ _ Stage.mem_all Stage.name_injective "environment"
    (stageText look)
  have hlevel := @choose_eq_ok_iff _ _ _ LogLevel.mem_all LogLevel.name_injective "log_level"
    (levelText look)
  have hreporter := @choose_eq_ok_iff _ _ _ ReporterMode.mem_all ReporterMode.name_injective
    "reporter" (reporterText look)
  rw [Settings.read, ← stageText, ← levelText, ← reporterText]
  constructor
  · intro h
    split at h
    · rename_i stage level reporter hstageRead hlevelRead hreporterRead
      rw [← Except.ok.inj h]
      constructor
      · exact hstage.mp hstageRead
      · exact hlevel.mp hlevelRead
      · exact hreporter.mp hreporterRead
      · dsimp only
      · dsimp only
    · cases h
  · intro h
    simp only [hstage.mpr h.stage, hlevel.mpr h.level, hreporter.mpr h.reporter, ← h.jsonLogs,
      ← h.enabled]

theorem Settings.exists_isReadFrom_iff :
    (∃ settings, Settings.IsReadFrom settings look) ↔ Allowed look := by
  constructor
  · rintro ⟨settings, h⟩
    exact ⟨h.stage ▸ List.mem_map_of_mem (Stage.mem_all _),
      h.level ▸ List.mem_map_of_mem (LogLevel.mem_all _),
      h.reporter ▸ List.mem_map_of_mem (ReporterMode.mem_all _)⟩
  · rintro ⟨hstage, hlevel, hreporter⟩
    obtain ⟨stage, -, hstage⟩ := List.mem_map.mp hstage
    obtain ⟨level, -, hlevel⟩ := List.mem_map.mp hlevel
    obtain ⟨reporter, -, hreporter⟩ := List.mem_map.mp hreporter
    refine ⟨⟨stage, level, readFlag ((look "PARAMOUNT_JSON_LOGS").getD "false"),
      readFlag ((look "PARAMOUNT_ENABLED").getD "true"), reporter⟩, ?_⟩
    constructor
    · exact hstage
    · exact hlevel
    · exact hreporter
    · dsimp only
    · dsimp only

/-- What the flags hold does not matter for whether settings can be read. -/
theorem Allowed.of_agree {other : String → Option String} (h : Allowed look)
    (hagree : ∀ name, name ∉ flagNames → other name = look name) : Allowed other := by
  obtain ⟨hstage, hlevel, hreporter⟩ := h
  refine ⟨?_, ?_, ?_⟩
  · rw [stageText, hagree _ (by decide)]
    exact hstage
  · rw [levelText, hagree _ (by decide)]
    exact hlevel
  · rw [reporterText, hagree _ (by decide)]
    exact hreporter

end Read

/-! ### The outcome of a load -/

section Found

variable [Platform] {session : Session} {file : Option String}

theorem found_eq_ok_iff {settings : Settings} :
    found session file = .ok settings ↔
      hindrance? session (filePath session.workingDirectory file) = none ∧
        settings.IsReadFrom (lookAfter session (filePath session.workingDirectory file)) := by
  have hlook : Table.get? (laid session (filePath session.workingDirectory file)).1 =
      lookAfter session (filePath session.workingDirectory file) :=
    funext fun name => get?_laid session _ name
  rw [← hlook, ← Settings.read_eq_ok_iff, found]
  have hfault := congrArg Prod.snd (laid_eq session (filePath session.workingDirectory file))
  rcases hlaid : laid session (filePath session.workingDirectory file) with ⟨environment, failure⟩
  rw [hlaid] at hfault
  subst hfault
  cases hindrance? session (filePath session.workingDirectory file) with
  | some e => simp
  | none =>
      simp only [Option.map_none, true_and]
      cases Settings.read (Table.get? environment) with
      | ok read =>
          constructor
          · intro hok
            cases hok
            rfl
          · intro hok
            cases hok
            rfl
      | error faults =>
          constructor
          · intro hok
            cases hok
          · intro hok
            cases hok

/-- Where its path can be followed, a load fails when it is hindered or a choice is not known. -/
theorem exists_configuration_iff
    (hpath : session.files.meetsLongName session.workingDirectory
      (filePath session.workingDirectory file) = false) :
    (∃ fault, found session file = .error (.configuration fault)) ↔
      hindrance? session (filePath session.workingDirectory file) ≠ none ∨
        ¬ Allowed (lookAfter session (filePath session.workingDirectory file)) := by
  rw [← Settings.exists_isReadFrom_iff, ne_eq, ← Classical.not_and_iff_not_or_not,
    ← exists_and_left]
  simp only [← found_eq_ok_iff]
  cases hfound : found session file with
  | ok settings => simp
  | error failure =>
      obtain ⟨fault, rfl⟩ := exists_configuration_of_found hpath hfound
      simp

end Found

end CallGuard.Config
