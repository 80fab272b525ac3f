import CallGuard.Log.Setup
import CallGuard.Proofs.Config.Loading
import CallGuard.Standard.Platform

/-!
# Setting logging up, over and over

Setting logging up takes the handlers away, adds a new one and then sets the level. Settings that
are needed and cannot be had are found out first, and then nothing has changed. A level that is not
known is found out last: the level stays as it was, but the handlers have been replaced by then. In
any course of calls, whether they return or not, there is never more than one handler.
-/

namespace CallGuard

open Session

/-- The handlers with their forms, the level and the time stamp of a session stay as they are. -/
structure Session.SameLogging (before after : Session) : Prop where
  handlers : after.journal.handlers = before.journal.handlers
  handlersMade : after.journal.handlersMade = before.journal.handlersMade
  level : after.journal.level = before.journal.level
  outerLevel : after.journal.outerLevel = before.journal.outerLevel
  timestamp : after.journal.timestamp = before.journal.timestamp

namespace Session.SameLogging

variable {before after : Session}

instance : Lasting SameLogging where
  refl _ := ⟨rfl, rfl, rfl, rfl, rfl⟩
  trans first second :=
    ⟨second.handlers.trans first.handlers, second.handlersMade.trans first.handlersMade,
      second.level.trans first.level, second.outerLevel.trans first.outerLevel,
      second.timestamp.trans first.timestamp⟩

theorem isEnabled (h : SameLogging before after) (severity : Int) :
    after.journal.isEnabled severity = before.journal.isEnabled severity := by
  rw [Log.Journal.isEnabled, Log.Journal.threshold, h.level, h.outerLevel, Log.Journal.isEnabled,
    Log.Journal.threshold]

variable [Platform]

theorem recording (session : Session) (entry : Log.Record) :
    session.SameLogging (session.recording entry) := by
  rw [Session.recording, Log.Journal.add]
  split <;> exact ⟨rfl, rfl, rfl, rfl, rfl⟩

instance : AllowsLoads SameLogging where
  call _ _ := ⟨rfl, rfl, rfl, rfl, rfl⟩
  record := recording
  environment _ _ := ⟨rfl, rfl, rfl, rfl, rfl⟩
  settings _ _ _ := ⟨rfl, rfl, rfl, rfl, rfl⟩

theorem linesFor (h : SameLogging before after) (record : Log.Record) :
    after.journal.linesFor record = before.journal.linesFor record := by
  rw [Log.Journal.linesFor, h.handlers, h.timestamp, Log.Journal.linesFor]

end Session.SameLogging

namespace Log

/-! ### Levels and forms -/

def levelValue : Option String → Value
  | none => .null
  | some name => .text name

def flagValue : Option Bool → Value
  | none => .null
  | some b => .bool b

def levelNames : List String :=
  severityNames.map (·.2) ++ ["WARN", "FATAL"]

def unknownLevel (name : String) : Raised :=
  ⟨"ValueError", "Unknown level: " ++ Text.quoted name⟩

theorem severityOf?_eq_none_iff {name : String} : severityOf? name = none ↔ name ∉ levelNames := by
  rw [severityOf?, levelNames, List.mem_append, not_or]
  by_cases hwarn : name = "WARN"
  · simp [hwarn]
  · by_cases hfatal : name = "FATAL"
    · simp [hfatal]
    · rw [if_neg hwarn, if_neg hfatal, Option.map_eq_none_iff, List.find?_eq_none]
      simp only [decide_eq_true_eq, List.mem_map, Prod.exists, exists_eq_right, not_exists,
        List.mem_cons, hwarn, hfatal, List.not_mem_nil, or_self, not_false_eq_true, and_true]
      exact ⟨fun h severity hmem => h (severity, name) hmem rfl,
        fun h pair hmem hname => h pair.1 (hname ▸ hmem)⟩

theorem mem_levelNames_of_settings (level : Config.LogLevel) : level.name ∈ levelNames := by
  cases level <;> decide

/-- The level and the form that are given or come from settings. -/
def chosen (settings : Config.Settings) (level json : Value) : Value × Bool :=
  (if level.truthy then level else .text settings.level.name,
    match json with
    | .null => settings.jsonLogs
    | json => json.truthy)

theorem chosen_eq (settings : Config.Settings) (level : Option String) (json : Option Bool) :
    chosen settings (levelValue level) (flagValue json) =
      (.text ((level.filter (· ≠ "")).getD settings.level.name),
        json.getD settings.jsonLogs) := by
  have hjson : (chosen settings (levelValue level) (flagValue json)).2 =
      json.getD settings.jsonLogs := by
    cases json <;> rfl
  refine Prod.ext ?_ hjson
  cases level with
  | none => rfl
  | some name =>
      by_cases hname : name = "" <;>
        simp [chosen, levelValue, Value.truthy, hname, Option.filter_some]

/-! ### Handlers of a journal -/

/-- A journal whose handlers have been replaced by a new one. -/
def Journal.refit (journal : Journal) (json : Bool) : Journal :=
  journal.clear.attach json

def Journal.newest (journal : Journal) (json : Bool) : Handler :=
  ⟨journal.handlersMade, json⟩

/-- There is at most one handler, and every serial number has been given out before. -/
structure Journal.IsSound (journal : Journal) : Prop where
  atMostOne : journal.handlers.length ≤ 1
  made : ∀ handler ∈ journal.handlers, handler.serial < journal.handlersMade

namespace Journal

theorem isSound_of_no_handlers {journal : Journal} (h : journal.handlers = []) :
    journal.IsSound :=
  ⟨by rw [h]; exact Nat.zero_le 1, by rw [h]; exact nofun⟩

theorem isSound_refit (journal : Journal) (json : Bool) : (journal.refit json).IsSound := by
  refine ⟨Nat.le_refl 1, fun handler hmem => ?_⟩
  rw [List.mem_singleton.mp hmem]
  exact Nat.lt_succ_self journal.handlersMade

theorem IsSound.newest_not_mem {journal : Journal} (h : journal.IsSound) (json : Bool) :
    journal.newest json ∉ journal.handlers :=
  fun hmem => Nat.lt_irrefl _ (h.made _ hmem)

theorem IsSound.congr {journal other : Journal} (h : journal.IsSound)
    (hhandlers : other.handlers = journal.handlers)
    (hmade : other.handlersMade = journal.handlersMade) : other.IsSound :=
  ⟨hhandlers ▸ h.atMostOne, by rw [hhandlers, hmade]; exact h.made⟩

end Journal

/-! ### What a session is asked for -/

section Sessions

variable [Platform]

/--
The level and the form of the lines that a call asks for. Where one of them is absent the settings
are looked up, and then an empty level counts as absent too.
-/
def asked (session : Session) : Option String → Option Bool → Except Failure (String × Bool)
  | some name, some json => .ok (name, json)
  | level, json => (Config.lookedUp session).map fun settings =>
    ((level.filter (· ≠ "")).getD settings.level.name, json.getD settings.jsonLogs)

/-- A session in which the settings have been looked up, if a call needs them. -/
def readied (session : Session) : Option String → Option Bool → Session
  | some _, some _ => session
  | _, _ => (Config.current.on session).2

section SetUp

variable {session : Session} {level : Option String} {json : Option Bool} {name : String}
  {lines : Bool}

theorem sameLogging_readied (session : Session) (level : Option String) (json : Option Bool) :
    session.SameLogging (readied session level json) := by
  have hcurrent : session.SameLogging (Config.current.on session).2 :=
    Config.current_keeps session
  match level, json with
  | some _, some _ => exact Lasting.refl session
  | none, _ | some _, none => exact hcurrent

theorem choices_of_absent {level json : Value} (h : level = .null ∨ json = .null) :
    choices level json = Config.current >>= fun settings => pure (chosen settings level json) := by
  rcases h with rfl | rfl
  · rfl
  · cases level <;> rfl

theorem on_choices_of_absent (h : levelValue level = .null ∨ flagValue json = .null) :
    (choices (levelValue level) (flagValue json)).on session =
      ((Config.lookedUp session).map fun settings =>
        (.text ((level.filter (· ≠ "")).getD settings.level.name), json.getD settings.jsonLogs),
        (Config.current.on session).2) := by
  rw [choices_of_absent h, Run.on_bind, ← Config.fst_on_current]
  rcases Config.current.on session with ⟨outcome, after⟩
  cases outcome with
  | error failure => rfl
  | ok settings => simp only [chosen_eq, Run.on_pure, Except.map]

theorem on_choices (session : Session) (level : Option String) (json : Option Bool) :
    (choices (levelValue level) (flagValue json)).on session =
      ((asked session level json).map fun pair => (.text pair.1, pair.2),
        readied session level json) := by
  match level, json with
  | some _, some _ => rfl
  | none, json =>
      rw [on_choices_of_absent (.inl rfl), asked, readied]
      · cases Config.lookedUp session <;> rfl
      · exact nofun
      · exact nofun
  | some name, none =>
      rw [on_choices_of_absent (.inr rfl), asked, readied]
      · cases Config.lookedUp session <;> rfl
      · exact nofun
      · exact nofun

theorem mem_levelNames_of_asked (h : asked session none json = .ok (name, lines)) :
    name ∈ levelNames := by
  rw [asked] at h
  · cases hsettings : Config.lookedUp session with
    | error failure =>
        rw [hsettings] at h
        cases h
    | ok settings =>
        rw [hsettings] at h
        cases h
        exact mem_levelNames_of_settings settings.level
  · exact nofun

/-! ### One call -/

theorem on_setUp_of_error {failure : Failure} (h : asked session level json = .error failure) :
    (setUp (levelValue level) (flagValue json)).on session =
      (.error failure, readied session level json) := by
  refine Run.on_bind_of_error ?_ _
  rw [on_choices, h]
  rfl

theorem on_setUp_of_ok (h : asked session level json = .ok (name, lines)) :
    (setUp (levelValue level) (flagValue json)).on session =
      let ready := readied session level json
      let refitted := { ready with journal := ready.journal.refit lines }
      match severityOf? name with
      | some severity =>
        (.ok (ready.journal.newest lines, .int severity),
          { refitted with journal := { refitted.journal with level := severity } })
      | none => (.error (.raised (unknownLevel name)), refitted) := by
  have hchoices : (choices (levelValue level) (flagValue json)).on session =
      (.ok (.text name, lines), readied session level json) := by
    rw [on_choices, h]
    rfl
  rw [setUp, Run.on_bind_of_ok hchoices, Run.on_bind_of_ok (Run.on_get _),
    Run.on_bind_of_ok (Run.on_modify _ _), Run.on_bind_of_ok (Run.on_modify _ _), levelOf]
  cases severityOf? name <;> rfl

end SetUp

/-! ### Courses of calls -/

/-- A call that sets logging up: what it is given, and what comes of it. -/
structure SetUp where
  level : Option String
  json : Option Bool
  outcome : Except Failure (Handler × Value)

/-- One thing that happens to a session: logging is set up, or else handlers and level stay. -/
inductive Move : Session → Option SetUp → Session → Prop
  | setUp (level : Option String) (json : Option Bool) (before : Session) :
      Move before (some ⟨level, json, ((setUp (levelValue level) (flagValue json)).on before).1⟩)
        ((setUp (levelValue level) (flagValue json)).on before).2
  | other {before after : Session} (hhandlers : after.journal.handlers = before.journal.handlers)
      (hmade : after.journal.handlersMade = before.journal.handlersMade)
      (hlevel : after.journal.level = before.journal.level) : Move before none after

/-- A session is reached from another one, and these are the calls on the way. -/
inductive Course (start : Session) : List SetUp → Session → Prop
  | nil : Course start [] start
  | snoc {setUps : List SetUp} {between after : Session} {event : Option SetUp}
      (h : Course start setUps between) (hmove : Move between event after) :
      Course start (setUps ++ event.toList) after

theorem Journal.IsSound.on_setUp {session : Session} (h : session.journal.IsSound)
    (level : Option String) (json : Option Bool) :
    ((setUp (levelValue level) (flagValue json)).on session).2.journal.IsSound := by
  cases hasked : asked session level json with
  | error failure =>
      have hsame := sameLogging_readied session level json
      rw [on_setUp_of_error hasked]
      exact h.congr hsame.handlers hsame.handlersMade
  | ok pair =>
      have hrefit := (readied session level json).journal.isSound_refit pair.2
      rw [on_setUp_of_ok hasked]
      cases severityOf? pair.1 with
      | none => exact hrefit
      | some severity => exact ⟨hrefit.atMostOne, hrefit.made⟩

/-- A call that returns leaves its handler behind, alone, and the level that it tells. -/
theorem handlers_of_returned {session after : Session} {level : Option String}
    {json : Option Bool} {handler : Handler} {shown : Value}
    (h : (setUp (levelValue level) (flagValue json)).on session = (.ok (handler, shown), after)) :
    after.journal.handlers = [handler] ∧ shown = .int after.journal.level := by
  cases hasked : asked session level json with
  | error failure =>
      rw [on_setUp_of_error hasked] at h
      cases h
  | ok pair =>
      rw [on_setUp_of_ok hasked] at h
      cases hname : severityOf? pair.1 with
      | none =>
          rw [hname] at h
          cases h
      | some severity =>
          rw [hname] at h
          cases h
          exact ⟨rfl, rfl⟩

namespace Course

variable {start now : Session} {setUps : List SetUp}

theorem isSound (hcourse : Course start setUps now) (hstart : start.journal.IsSound) :
    now.journal.IsSound := by
  induction hcourse with
  | nil => exact hstart
  | snoc _ hmove ih =>
      cases hmove with
      | setUp level json => exact ih.on_setUp level json
      | other hhandlers hmade => exact ih.congr hhandlers hmade

/-- After a last call that returned, its handler is the only one and its level counts. -/
theorem handlers_eq (hcourse : Course start setUps now) {last : SetUp} {handler : Handler}
    {shown : Value} (hlast : setUps.getLast? = some last)
    (hreturned : last.outcome = .ok (handler, shown)) :
    now.journal.handlers = [handler] ∧ shown = .int now.journal.level := by
  induction hcourse with
  | nil => cases hlast
  | @snoc setUps between after event hbefore hmove ih =>
      cases hmove with
      | setUp level json =>
          rw [Option.toList_some, List.getLast?_concat] at hlast
          cases hlast
          exact handlers_of_returned (Prod.ext hreturned rfl)
      | other hhandlers hmade hlevel =>
          rw [Option.toList_none, List.append_nil] at hlast
          rw [hhandlers, hlevel]
          exact ih hlast

end Course

section Outcomes

variable {session : Session} {level : Option String} {json : Option Bool} {name : String}
  {lines : Bool}

/-- With a level that is known a call returns, and its new handler and the level are in place. -/
theorem exists_on_setUp_of_known (hsound : session.journal.IsSound)
    (hasked : asked session level json = .ok (name, lines)) (hname : name ∈ levelNames) :
    ∃ handler severity after, severityOf? name = some severity ∧
      (setUp (levelValue level) (flagValue json)).on session =
        (.ok (handler, .int severity), after) ∧
      after.journal.handlers = [handler] ∧ handler.json = lines ∧
      handler ∉ session.journal.handlers ∧ after.journal.level = severity := by
  obtain ⟨severity, hseverity⟩ :=
    Option.ne_none_iff_exists'.mp fun hnone => severityOf?_eq_none_iff.mp hnone hname
  have hsame := sameLogging_readied session level json
  have hready := hsound.congr hsame.handlers hsame.handlersMade
  have hrun := on_setUp_of_ok hasked
  rw [hseverity] at hrun
  exact ⟨_, severity, _, hseverity, hrun, rfl, rfl,
    hsame.handlers ▸ hready.newest_not_mem lines, rfl⟩

/-- With a level that is not known a call fails after it has replaced the handlers. -/
theorem exists_on_setUp_of_unknown (hsound : session.journal.IsSound)
    (hasked : asked session level json = .ok (name, lines)) (hname : name ∉ levelNames) :
    ∃ handler after,
      (setUp (levelValue level) (flagValue json)).on session =
        (.error (.raised (unknownLevel name)), after) ∧
      after.journal.handlers = [handler] ∧ handler.json = lines ∧
      handler ∉ session.journal.handlers ∧ after.journal.level = session.journal.level := by
  have hsame := sameLogging_readied session level json
  have hready := hsound.congr hsame.handlers hsame.handlersMade
  have hrun := on_setUp_of_ok hasked
  rw [severityOf?_eq_none_iff.mpr hname] at hrun
  exact ⟨_, _, hrun, rfl, rfl, hsame.handlers ▸ hready.newest_not_mem lines, hsame.level⟩

end Outcomes

/--
A call that sets logging up, after any course of such calls. If the settings are needed and cannot
be had, it fails as they do, and handlers, forms and level stay as they were, so that every record
is written as before. If it returns there is one handler, with the form and the level that are asked
for. A level that is not known comes out as an error after the handlers have been replaced, so a
call leaves logging alone when it fails just when the level is known or never found out. A level
that comes from the settings is always known.
-/
theorem setUp_over_course {start now after : Session} {setUps : List SetUp}
    {outcome : Except Failure (Handler × Value)} {level : Option String} {json : Option Bool}
    (hcourse : Course start setUps now) (hstart : start.journal.handlers = [])
    (hrun : (setUp (levelValue level) (flagValue json)).on now = (outcome, after)) :
    now.journal.handlers.length ≤ 1 ∧
    (∀ failure, asked now level json = .error failure →
      outcome = .error failure ∧ now.SameLogging after ∧
        ∀ record, after.journal.linesFor record = now.journal.linesFor record ∧
          after.journal.isEnabled record.severity = now.journal.isEnabled record.severity) ∧
    (∀ name lines, asked now level json = .ok (name, lines) →
      ∃ handler, after.journal.handlers = [handler] ∧ handler.json = lines ∧
        handler ∉ now.journal.handlers ∧
        ((∃ severity, severityOf? name = some severity ∧ after.journal.level = severity ∧
            outcome = .ok (handler, .int severity)) ∨
          name ∉ levelNames ∧ after.journal.level = now.journal.level ∧
            outcome = .error (.raised (unknownLevel name)))) ∧
    ((∀ failure, outcome = .error failure → after.journal.handlers = now.journal.handlers) ↔
      ∀ name lines, asked now level json = .ok (name, lines) → name ∈ levelNames) ∧
    (level = none → ∀ name lines, asked now level json = .ok (name, lines) →
      name ∈ levelNames) := by
  have hsound := hcourse.isSound (Journal.isSound_of_no_handlers hstart)
  refine ⟨hsound.atMostOne, fun failure hasked => ?_, fun name lines hasked => ?_, ?_,
    fun hlevel name lines hasked => ?_⟩
  · have hsame := sameLogging_readied now level json
    rw [on_setUp_of_error hasked] at hrun
    cases hrun
    exact ⟨rfl, hsame, fun record => ⟨hsame.linesFor record, hsame.isEnabled record.severity⟩⟩
  · by_cases hname : name ∈ levelNames
    · obtain ⟨handler, severity, _, hseverity, hreturned, hplaced⟩ :=
        exists_on_setUp_of_known hsound hasked hname
      cases hrun.symm.trans hreturned
      obtain ⟨hhandlers, hlines, hnew, hlevel⟩ := hplaced
      exact ⟨handler, hhandlers, hlines, hnew, .inl ⟨severity, hseverity, hlevel, rfl⟩⟩
    · obtain ⟨handler, _, hraised, hhandlers, hlines, hnew, hlevel⟩ :=
        exists_on_setUp_of_unknown hsound hasked hname
      cases hrun.symm.trans hraised
      exact ⟨handler, hhandlers, hlines, hnew, .inr ⟨hname, hlevel, rfl⟩⟩
  · constructor
    · intro hkept name lines hasked
      refine Decidable.byContradiction fun hname => ?_
      obtain ⟨handler, _, hraised, hhandlers, _, hnew, _⟩ :=
        exists_on_setUp_of_unknown hsound hasked hname
      cases hrun.symm.trans hraised
      rw [← hkept _ rfl, hhandlers] at hnew
      exact hnew (List.mem_singleton_self handler)
    · rintro hknown failure rfl
      cases hasked : asked now level json with
      | error _ =>
          rw [on_setUp_of_error hasked] at hrun
          cases hrun
          exact (sameLogging_readied now level json).handlers
      | ok pair =>
          obtain ⟨_, _, _, _, hreturned, _⟩ :=
            exists_on_setUp_of_known hsound hasked (hknown pair.1 pair.2 hasked)
          cases hrun.symm.trans hreturned
  · subst hlevel
    exact mem_levelNames_of_asked hasked

end Sessions

open scoped Standard

/-- A session in which logging has been set up once, with JSON lines. -/
def jsonSession : Session :=
  ((setUp (levelValue (some "INFO")) (flagValue (some true))).on {}).2

theorem setUp_again_with_plain_lines :
    ∃ handler after,
      (setUp (levelValue (some "ERROR")) (flagValue (some false))).on jsonSession =
        (.ok (handler, .int 40), after) ∧
      after.journal.handlers = [handler] ∧ handler.json = false ∧
      handler ∉ jsonSession.journal.handlers := by
  obtain ⟨handler, hhandlers, hlines, hnew, hreturned⟩ :=
    (setUp_over_course (.snoc .nil (.setUp (some "INFO") (some true) {})) rfl
      (Prod.eta ((setUp (levelValue (some "ERROR")) (flagValue (some false))).on
        jsonSession)).symm).2.2.1 "ERROR" false rfl
  obtain ⟨severity, hseverity, _, houtcome⟩ | ⟨hunknown, _⟩ := hreturned
  · cases hseverity
    exact ⟨handler, _, Prod.ext houtcome rfl, hhandlers, hlines, hnew⟩
  · exact absurd (by decide) hunknown

/-- A call that fails because of its level has put a handler with another form in place. -/
theorem unknown_level_replaces_handler :
    ((setUp (levelValue (some "LOUD")) (flagValue (some false))).on jsonSession).1 =
      .error (.raised ⟨"ValueError", "Unknown level: 'LOUD'"⟩) ∧
    jsonSession.journal.handlers = [⟨0, true⟩] ∧
    ((setUp (levelValue (some "LOUD")) (flagValue (some false))).on
      jsonSession).2.journal.handlers = [⟨1, false⟩] :=
  ⟨rfl, rfl, rfl⟩

end Log

end CallGuard
