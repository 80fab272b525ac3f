import CallGuard.Proofs.Module.Exports

/-!
# Preparing a module to be wrapped

Before the gates of a module are built, the module is asked for its exports and for what they stand
for, and the settings are looked up. All of this can fail, but never because of a parameter that is
declared twice. A module that answers what it is asked is always prepared.
-/

namespace CallGuard

open Session

/-! ### Failures before the gates are built -/

namespace Run

variable {α β : Type}

/-- An operation that never fails because of a parameter that is declared twice. -/
def Blameless (operation : Run α) : Prop :=
  ∀ session name symbol, (operation.on session).1 ≠ .error (.duplicateParameter name symbol)

namespace Blameless

theorem pure (a : α) : (Pure.pure a : Run α).Blameless := fun _ _ _ => nofun

theorem raise (e : Raised) : (Run.raise e : Run α).Blameless := fun _ _ _ => nofun

theorem ofExcept (given : Except Raised α) : (Run.ofExcept given).Blameless := by
  cases given with
  | ok a => exact pure a
  | error e => exact raise e

theorem bind {first : Run α} {next : α → Run β} (hfirst : first.Blameless)
    (hnext : ∀ a, (next a).Blameless) : (first >>= next).Blameless := by
  intro session name symbol
  have hsession := hfirst session name symbol
  rw [Run.on_bind]
  rcases hrun : first.on session with ⟨outcome, after⟩
  rw [hrun] at hsession
  cases outcome with
  | ok a => exact hnext a after name symbol
  | error failure =>
      intro h
      cases h
      exact hsession rfl

theorem unlessMissing {operation : Run α} (h : operation.Blameless) :
    (Run.unlessMissing operation).Blameless := by
  intro session name symbol hblames
  have hsession := h session name symbol
  rw [Run.unlessMissing, Run.on_tryCatch, map_eq_pure_bind, Run.on_bind] at hblames
  rcases hrun : operation.on session with ⟨outcome, after⟩
  rw [hrun] at hsession hblames
  cases outcome with
  | ok a => cases hblames
  | error failure =>
      cases failure with
      | raised e =>
          dsimp only at hblames
          split at hblames
          · cases hblames
          · cases hblames
      | duplicateParameter found function =>
          cases hblames
          exact hsession rfl
      | _ => cases hblames

end Blameless

end Run

variable [Platform]

theorem Value.call_blameless (v : Value) (arguments : Arguments) :
    (v.call arguments).Blameless := by
  cases v with
  | callable c =>
      rw [call]
      split
      · split
        · exact Run.Blameless.pure _
        · intro session name symbol h
          rw [Callable.on_refuse] at h
          cases h
      · intro session name symbol h
        rw [Callable.on_run] at h
        cases hanswer : session.behaviour c.id session.invocations arguments with
        | ok v =>
            rw [hanswer] at h
            cases h
        | error e =>
            rw [hanswer] at h
            cases h
  | _ => exact Run.Blameless.raise _

namespace Namespace

theorem read_blameless (names : Namespace) (s : String) : (read names s).Blameless := by
  unfold read
  dsimp only
  split
  · exact Run.Blameless.pure _
  · split
    · exact Run.Blameless.pure _
    · split
      · exact Value.call_blameless _ _
      · exact Run.Blameless.raise _

theorem exported_blameless (names : Namespace) : (exported names).Blameless := by
  refine (read_blameless names _).unlessMissing.bind fun listed => ?_
  split
  · exact Run.Blameless.pure _
  · exact Run.Blameless.pure _
  · exact Run.Blameless.ofExcept _

theorem scan_blameless (names : Namespace) (exports : List Value)
    (found : Table (Option (List String))) : (scan names found exports).Blameless := by
  induction exports generalizing found with
  | nil => exact Run.Blameless.pure _
  | cons given rest ih =>
      cases given with
      | text name =>
          refine Run.Blameless.bind ?_ fun lines => ih _
          exact (read_blameless names name).unlessMissing.bind fun _ => Run.Blameless.pure _
      | _ => exact Run.Blameless.raise _

end Namespace

theorem Config.current_blameless : Config.current.Blameless := by
  intro session name symbol h
  rw [fst_on_current, lookedUp] at h
  split at h
  · cases h
  · by_cases hpath : session.files.meetsLongName session.workingDirectory
      (filePath session.workingDirectory none) = true
    · rw [found, laid, if_pos hpath] at h
      cases h
    · obtain ⟨fault, hfault⟩ :=
        exists_configuration_of_found (Bool.eq_false_iff.mpr hpath) h
      cases hfault

namespace Module

theorem logNamed_blameless (site : Log.Site) (name : Value) (message : String → String)
    (extra : Table Value) : (logNamed site name message extra).Blameless := by
  unfold logNamed
  split
  · exact Run.Blameless.pure _
  · exact fun _ _ _ => nofun

theorem declarationsOf_blameless (names : Namespace) (exports : List Value) :
    (declarationsOf names exports).Blameless := by
  refine Config.current_blameless.bind fun settings => ?_
  split
  · rw [map_eq_pure_bind]
    exact (Namespace.scan_blameless names exports []).bind fun _ => Run.Blameless.pure _
  · refine (Namespace.read_blameless names _).bind fun name => ?_
    exact (logNamed_blameless _ _ _ _).bind fun _ => Run.Blameless.pure _

/-- Before the gates are built, nothing fails because of a parameter that is declared twice. -/
theorem prepare_blameless (module : Module) : module.prepare.Blameless := by
  refine Run.Blameless.bind (fun _ _ _ => nofun) fun names => ?_
  refine (Namespace.exported_blameless names).bind fun exports => ?_
  refine (declarationsOf_blameless names exports).bind fun declarations => ?_
  refine Run.Blameless.bind (fun _ _ _ => nofun) fun _ => ?_
  exact (Namespace.read_blameless names _).bind fun name => Run.Blameless.pure _

/-! ### Modules that can be wrapped -/

variable {module : Module} {names : Namespace} {listed : Option Value} {settings : Config.Settings}
  {start reached : Session}

/--
A module answers what it is asked while it is wrapped: it exports names, it has a name of its own,
and it says of any name what it stands for or that it is missing.
-/
structure Answers (start : Session) (names : Namespace) (listed : Option Value) : Prop where
  exports : ∃ texts : List String, Namespace.exportsOf names listed = .ok (texts.map .text)
  name : ∀ reached, reached.behaviour = start.behaviour →
    ∃ v, ((Namespace.read names Namespace.ownName).on reached).1 = .ok v
  names : ∀ reached, reached.behaviour = start.behaviour → ∀ s,
    ∃ answer, ((Namespace.read? names s).on reached).1 = .ok answer

/-- A module answers if it has a name, lists only names, and answers for nothing that it lacks. -/
theorem answers_of_own {texts : List String}
    (hfallback : Table.get? names Namespace.fallback = none)
    (hname : (Table.get? names Namespace.ownName).isSome)
    (hexports : Namespace.exportsOf names listed = .ok (texts.map .text)) :
    Answers start names listed := by
  refine ⟨⟨texts, hexports⟩, fun reached _ => ?_, fun reached _ s => ?_⟩
  · obtain ⟨v, hv⟩ := Option.isSome_iff_exists.mp hname
    have hreserved : Namespace.reservedNames.contains Namespace.ownName = false := by
      decide +kernel
    exact ⟨v, congrArg Prod.fst (Namespace.on_read_of_get? hreserved hv reached)⟩
  · obtain ⟨answer, hanswer⟩ := Namespace.exists_read? hfallback s reached
    exact ⟨answer, congrArg Prod.fst hanswer⟩

theorem exists_logNamed (site : Log.Site) (name : Value) (message : String → String)
    (extra : Table Value) (session : Session) :
    ∃ logged, (logNamed site name message extra).on session = (.ok (), logged) := by
  unfold logNamed
  split
  · exact ⟨session, rfl⟩
  · exact ⟨_, rfl⟩

namespace Answers

theorem exists_scan (h : Answers start names listed) (texts : List String)
    (found : Table (Option (List String))) (hreached : reached.behaviour = start.behaviour) :
    ∃ result scanned, (Namespace.scan names found (texts.map .text)).on reached =
      (.ok result, scanned) := by
  induction texts generalizing found reached with
  | nil => exact ⟨found, reached, rfl⟩
  | cons text rest ih =>
      obtain ⟨answer, hanswer⟩ := h.names reached hreached text
      have hlines : (Namespace.linesOf names text).on reached =
          (.ok (answer.bind Value.parameterLines),
            ((Namespace.read? names text).on reached).2) := by
        rw [Namespace.linesOf, Run.on_bind_of_ok (Prod.ext hanswer rfl)]
        rfl
      have hkeeps := ((Namespace.linesOf_keeps (R := Quiet) names text).of_on hlines).behaviour
      obtain ⟨result, scanned, hscan⟩ := ih _ (hkeeps.trans hreached)
      exact ⟨result, scanned, (Run.on_bind_of_ok hlines _).trans hscan⟩

theorem exists_declarationsOf (h : Answers start names listed) (texts : List String)
    (hsettings : Config.lookedUp reached = .ok settings)
    (hreached : reached.behaviour = start.behaviour) :
    ∃ declarations scanned,
      (declarationsOf names (texts.map .text)).on reached = (.ok declarations, scanned) := by
  have hcurrent : (Config.current.on reached).1 = .ok settings := by
    rw [Config.fst_on_current, hsettings]
  have hconfigured := (Config.current_keeps (R := Configured) reached).behaviour.trans hreached
  rw [declarationsOf, Run.on_bind_of_ok (Prod.ext hcurrent rfl)]
  split
  · obtain ⟨found, scanned, hscan⟩ := h.exists_scan texts [] hconfigured
    exact ⟨_, _, Run.on_map_of_ok hscan _⟩
  · obtain ⟨name, hname⟩ := h.name _ hconfigured
    rw [Run.on_bind_of_ok (Prod.ext hname rfl)]
    obtain ⟨logged, hlogged⟩ := exists_logNamed wrapSite name
      (fun shown => "Validation disabled, facade for " ++ shown ++ " will only delegate") []
      ((Namespace.read names Namespace.ownName).on (Config.current.on reached).2).2
    rw [Run.on_bind_of_ok hlogged]
    exact ⟨_, _, rfl⟩

/-- A module that answers is prepared under any settings. -/
theorem exists_prepare (h : Answers start (start.namespaceAt module.names) listed)
    (hlisted : ((Namespace.read? (start.namespaceAt module.names)
      Namespace.exportList).on start).1 = .ok listed)
    (hsettings : Config.lookedUp start = .ok settings) :
    ∃ declarations name session, module.prepare.on start = (.ok (declarations, name), session) := by
  obtain ⟨texts, htexts⟩ := h.exports
  obtain ⟨asked, hasked⟩ : ∃ asked,
      (Namespace.exported (start.namespaceAt module.names)).on start =
        (.ok (texts.map .text), asked) := by
    rw [Namespace.on_exported (Prod.ext hlisted rfl), htexts]
    exact ⟨_, rfl⟩
  have hasking := (Namespace.exported_keeps (R := Quiet) _).of_on hasked
  have hlookedUp : Config.lookedUp asked = .ok settings := by
    rw [Config.lookedUp_congr hasking.settings hasking.environment hasking.files
      hasking.workingDirectory, hsettings]
  obtain ⟨declarations, scanned, hscanned⟩ :=
    h.exists_declarationsOf texts hlookedUp hasking.behaviour
  have hscanning := (declarationsOf_keeps (R := Configured) Config.current_keeps _ _).of_on hscanned
  obtain ⟨kept, hkept, hbehaviour, _⟩ := on_keepAnnotations module declarations scanned
  obtain ⟨name, hname⟩ :=
    h.name kept (hbehaviour.trans (hscanning.behaviour.trans hasking.behaviour))
  have hnames : module.namesOf.on start = (.ok (start.namespaceAt module.names), start) := rfl
  refine ⟨declarations, name,
    ((Namespace.read (start.namespaceAt module.names) Namespace.ownName).on kept).2, ?_⟩
  rw [prepare, Run.on_bind_of_ok hnames, Run.on_bind_of_ok hasked, Run.on_bind_of_ok hscanned,
    Run.on_bind_of_ok hkept, Run.on_bind_of_ok (Prod.ext hname rfl)]
  rfl

end Answers

end Module

end CallGuard
