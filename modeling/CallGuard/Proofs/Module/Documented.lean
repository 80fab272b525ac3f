import CallGuard.Proofs.Module.Calls
import CallGuard.Proofs.Module.Preparation
import CallGuard.Standard.Platform

/-!
# The gates of a wrapped module

Three views of a module meet when it is wrapped: the list of its exports, the lines that are found
for them, and the names that the facade goes through. A name gets a gate when all three have it and
validation is enabled, and the gates stand in the order of the names. With or without a gate, every
callable of the module is called through the facade.
-/

namespace CallGuard

open Session Declaration

namespace Facade

variable [Platform]

/--
Calls of a symbol through a facade reach a callable: they invoke it once. If the symbol has a gate,
they do so once the symbol has been looked up and its gate has let the arguments pass.
-/
structure Reaches (gates : Table Gate) (place : FacadeId) (s : String) (c : Callable)
    (now : Session) : Prop where
  ungated : Table.get? gates s = none → ∀ access arguments,
    Invoked c arguments now ((callAwaited access place (.text s) arguments).on now).2
  gated : ∀ gate, Table.get? gates s = some gate → ∀ access arguments checked,
    (gate.pass arguments).on ((ask access place (.text s)).on now).2 = (.ok (), checked) →
      Invoked c arguments checked ((callAwaited access place (.text s) arguments).on now).2

/--
After any history, calls reach whatever callable a symbol is bound to by then, if the symbol has a
gate or the callable lends its looks.
-/
theorem reaches_of_create {name : Value} {names : NamespaceId} {ofModule : Bool}
    {gates : Table Gate} {before created now : Session} {place : FacadeId} {s : String}
    {c : Callable}
    (hcreate : (create name names ofModule gates).on before = (.ok place, created))
    (hhistory : History place created now) (hs : isReserved s = false)
    (hbound : now.callableAt names s = some c)
    (hlends : (Table.get? gates s).isSome ∨ refusal? (now.namespaceAt names) s = none) :
    Reaches gates place s c now := by
  obtain ⟨hcreated, _⟩ := exists_create _ _ _ _ hcreate
  obtain ⟨hserves, _⟩ := hhistory.upholds hcreated
  have hlooks : ∀ e, ¬(Charter.made name names ofModule gates before).Refuses now place s e := by
    rcases hlends with hgated | hlends
    · exact not_refuses_of_gated hserves hgated
    · intro e hrefuses
      have hlooked : Appearance.ofMember s (Table.get? (now.namespaceAt names) s) = .error e :=
        hrefuses.looks
      rw [refusal?, hlooked] at hlends
      cases hlends
  obtain ⟨delegate, facade, hask, hdelegate, _⟩ := exists_ask hserves hs hlooks
  have hreaches (access : Access) (arguments : Arguments) (checked : Session)
      (hpass : ((Charter.made name names ofModule gates before).pass s arguments).on
        (now.setFacade place facade) = (.ok (), checked)) :
      Invoked c arguments checked ((callAwaited access place (.text s) arguments).on now).2 := by
    rw [on_callAwaited_of_made (hask access)]
    exact (hdelegate.dispatches_awaited arguments _).invoked_of_pass hpass hbound
  constructor
  · intro hnone access arguments
    refine hreaches access arguments (now.setFacade place facade) ?_
    simp only [Charter.pass, Charter.made, hnone]
    rfl
  · intro gate hgate access arguments checked hpass
    rw [hask access] at hpass
    refine hreaches access arguments checked ?_
    simp only [Charter.pass, Charter.made, hgate]
    exact hpass

end Facade

namespace Module

/-! ### The gates that are requested -/

variable {module : Module} {names : Namespace} {listed : Option Value} {exports : List Value}
  {settings : Config.Settings} {declarations : Table (List Value)} {session : Session} {s : String}
  {registry : Option RegistryId} {reporter : Option Reporter}

/-- The documentation that is requested when a module is wrapped: all or none of it. -/
def requested (settings : Config.Settings) (names : Namespace) (listed : Option Value) :
    Table (List Value) :=
  if settings.enabled then Namespace.documentation names listed else []

theorem names_compiled_requested (settings : Config.Settings) (names : Namespace)
    (listed : Option Value) (registry : Option RegistryId) (reporter : Option Reporter) :
    Table.names (Gate.compiled (requested settings names listed) registry reporter
        (Table.names names)) =
      if settings.enabled then
        (Table.names names).filter fun s => (Namespace.documented? names listed s).isSome
      else [] := by
  rw [Gate.names_compiled, requested]
  cases settings.enabled with
  | true =>
      simp only [if_true, Namespace.isEmpty_linesFor_documentation, Option.not_isNone]
  | false => exact List.filter_eq_nil_iff.mpr fun s _ => Bool.false_ne_true

theorem blames_requested_iff {failure : Failure} {symbols : List String} :
    Gate.Blames (requested settings names listed) symbols failure ↔
      settings.enabled = true ∧
        Gate.Blames (Namespace.documentation names listed) symbols failure := by
  rw [requested]
  cases settings.enabled with
  | true => simp only [if_true, true_and]
  | false =>
      refine iff_of_false (fun hblames => ?_) fun h => Bool.false_ne_true h.1
      obtain ⟨s, _, hrepeats⟩ := Gate.exists_blames_iff.mp ⟨failure, hblames⟩
      exact hrepeats List.nodup_nil

theorem exists_blames_documentation_iff :
    (∃ failure, Gate.Blames (Namespace.documentation names listed) (Table.names names) failure) ↔
      ∃ s lines, Namespace.documented? names listed s = some lines ∧
        ¬(rootNamesOn (lines.map .text)).Nodup := by
  rw [Gate.exists_blames_iff]
  constructor
  · rintro ⟨s, _, hrepeats⟩
    rw [Namespace.linesFor_documentation] at hrepeats
    cases hlines : Namespace.documented? names listed s with
    | none =>
        rw [hlines] at hrepeats
        exact absurd List.nodup_nil hrepeats
    | some lines =>
        rw [hlines] at hrepeats
        exact ⟨s, lines, hlines, hrepeats⟩
  · rintro ⟨s, lines, hlines, hrepeats⟩
    obtain ⟨_, _, c, hmember, _⟩ := Namespace.documented?_eq_some_iff.mp hlines
    refine ⟨s, Table.isSome_get?_iff.mp (by rw [hmember]; rfl), ?_⟩
    rwa [Namespace.linesFor_documentation, hlines]

theorem mem_declared_documentation_iff {s : String} :
    s ∈ Facade.declared (Namespace.documentation names listed) (Table.names names) ↔
      (Namespace.documented? names listed s).isSome := by
  rw [Facade.declared, List.mem_filter, Namespace.isEmpty_linesFor_documentation,
    Option.not_isNone]
  refine ⟨fun h => h.2, fun hlines => ⟨?_, hlines⟩⟩
  obtain ⟨lines, hlines⟩ := Option.isSome_iff_exists.mp hlines
  obtain ⟨_, _, c, hmember, _⟩ := Namespace.documented?_eq_some_iff.mp hlines
  exact Table.isSome_get?_iff.mp (by rw [hmember]; rfl)

namespace Prepared

theorem linesFor_eq (h : module.Prepared names exports settings declarations session)
    (hexports : Namespace.exportsOf names listed = .ok exports)
    (hs : (Table.get? names s).isSome) :
    Gate.linesFor declarations s = Gate.linesFor (requested settings names listed) s := by
  rw [requested]
  cases henabled : settings.enabled with
  | false =>
      rw [h.unasked s (by rw [henabled]; exact fun hasked => nomatch hasked.1)]
      rfl
  | true =>
      rw [if_pos rfl, Namespace.linesFor_documentation, Namespace.documented?]
      cases hexported : Namespace.isExported names listed s with
      | true =>
          rw [if_pos rfl]
          exact h.asked henabled s ((Namespace.isExported_iff hexports).mp hexported) (.inl hs)
      | false =>
          rw [if_neg Bool.false_ne_true, h.unasked s]
          · rfl
          · rw [← Namespace.isExported_iff hexports, hexported]
            exact fun hasked => nomatch hasked.2

/--
What has been added to the names of a module since its preparation has no lines: annotations come
last, and they have none even if they are exported.
-/
theorem exists_further (h : module.Prepared names exports settings declarations session) :
    ∃ further, session.symbolsAt module.names = Table.names names ++ further ∧
      ∀ s ∈ further, Gate.linesFor declarations s = [] := by
  rcases h.kept with hkept | ⟨hnone, hkept⟩
  · exact ⟨[], by rw [symbolsAt, hkept, List.append_nil], nofun⟩
  · refine ⟨[Namespace.ownAnnotations], ?_, fun s hs => ?_⟩
    · rw [symbolsAt, hkept, Table.names_put, if_neg (Table.get?_eq_none_iff.mp hnone)]
    · obtain rfl := List.mem_singleton.mp hs
      by_cases hasked : settings.enabled = true ∧ .text Namespace.ownAnnotations ∈ exports
      · have hinherited : Namespace.inheritedNames.contains Namespace.ownAnnotations = true := by
          decide +kernel
        rw [h.asked hasked.1 _ hasked.2 (.inr hinherited), Namespace.ownLines, hnone,
          Option.bind_none, ite_self]
        rfl
      · exact h.unasked _ hasked

theorem compiled_eq (h : module.Prepared names exports settings declarations session)
    (hexports : Namespace.exportsOf names listed = .ok exports) :
    Gate.compiled declarations registry reporter (session.symbolsAt module.names) =
      Gate.compiled (requested settings names listed) registry reporter (Table.names names) := by
  obtain ⟨further, hsymbols, hfurther⟩ := h.exists_further
  rw [hsymbols]
  exact Gate.compiled_eq_of_linesFor (fun s hs => h.linesFor_eq hexports
    (Table.isSome_get?_iff.mpr hs)) hfurther

theorem blames_iff {failure : Failure}
    (h : module.Prepared names exports settings declarations session)
    (hexports : Namespace.exportsOf names listed = .ok exports) :
    Gate.Blames declarations (session.symbolsAt module.names) failure ↔
      Gate.Blames (requested settings names listed) (Table.names names) failure := by
  obtain ⟨further, hsymbols, hfurther⟩ := h.exists_further
  rw [hsymbols]
  exact Gate.blames_iff_of_linesFor (fun s hs => h.linesFor_eq hexports
    (Table.isSome_get?_iff.mpr hs)) hfurther

variable [Platform]

theorem refused_iff {failure : Failure}
    (h : module.Prepared names exports settings declarations session)
    (hexports : Namespace.exportsOf names listed = .ok exports) :
    Facade.Refused declarations (session.namespaceAt module.names) failure ↔
      Facade.Refused (requested settings names listed) names failure := by
  obtain ⟨further, hsymbols, hfurther⟩ := h.exists_further
  refine Facade.refused_iff_of_names_eq hsymbols (fun s hs => ?_) (fun s hs =>
    h.linesFor_eq hexports (Table.isSome_get?_iff.mpr hs)) hfurther
  rcases h.kept with hkept | ⟨hnone, hkept⟩
  · rw [hkept]
  · rw [hkept, Table.get?_put_of_ne]
    rintro rfl
    have hbound := Table.isSome_get?_iff.mpr hs
    rw [hnone] at hbound
    cases hbound

end Prepared

variable {start wrapped : Session} {place : FacadeId}

section

variable [Platform]

section Wrapping

variable
    (hlisted : ((Namespace.read? (start.namespaceAt module.names)
      Namespace.exportList).on start).1 = .ok listed)
    (hsettings : Config.lookedUp start = .ok settings)

include hlisted hsettings

/-- A wrapped module has the gates that are requested, and nothing in their lines is to blame. -/
theorem exists_create_of_wrap
    (hwrap : (module.wrap registry reporter).on start = (.ok place, wrapped)) :
    ∃ name before,
      (Facade.create name module.names true
        (Gate.compiled (requested settings (start.namespaceAt module.names) listed) registry
          reporter (Table.names (start.namespaceAt module.names)))).on before =
        (.ok place, wrapped) ∧
      (∀ failure, ¬Gate.Blames (requested settings (start.namespaceAt module.names) listed)
        (Table.names (start.namespaceAt module.names)) failure) ∧
      ∀ s, Facade.isReserved s = false →
        before.callableAt module.names s = start.callableAt module.names s := by
  rw [wrap_eq] at hwrap
  obtain ⟨⟨declarations, name⟩, session, hprepare, hfacade⟩ := Run.on_bind_eq_ok_iff.mp hwrap
  obtain ⟨exports, found, hexports, hfound, hprepared⟩ := prepared_of_prepare hprepare
  rw [hsettings] at hfound
  cases hfound
  have hlist := Namespace.exportsOf_of_exported hlisted hexports
  obtain ⟨before, hbefore, hbuild, hcreate⟩ := Facade.exists_of_wrap hfacade
  rw [hprepared.compiled_eq hlist] at hcreate
  refine ⟨name, before, hcreate, fun failure hblames => ?_, fun s hs => ?_⟩
  · rw [← hprepared.blames_iff hlist, ← Gate.on_buildAll_eq_error_iff session, hbuild] at hblames
    cases hblames
  · rw [callableAt, hbefore.namespaceAt, hprepared.get?_namespaceAt hs, callableAt]

/--
Once a module is prepared, wrapping it only fails when its documentation is to blame or a function
with a gate is refused.
-/
theorem wrap_eq_error_iff_of_prepare {failure : Failure} {name : Value}
    (hprepare : module.prepare.on start = (.ok (declarations, name), session)) :
    ((module.wrap registry reporter).on start).1 = .error failure ↔
      Gate.Blames (requested settings (start.namespaceAt module.names) listed)
        (Table.names (start.namespaceAt module.names)) failure ∨
      Facade.Refused (requested settings (start.namespaceAt module.names) listed)
        (start.namespaceAt module.names) failure := by
  obtain ⟨exports, found, hexports, hfound, hprepared⟩ := prepared_of_prepare hprepare
  rw [hsettings] at hfound
  cases hfound
  have hlist := Namespace.exportsOf_of_exported hlisted hexports
  rw [wrap_eq, Run.on_bind_of_ok hprepare, Facade.fst_on_wrap_eq_error_iff,
    hprepared.blames_iff hlist, hprepared.refused_iff hlist]

theorem blames_of_wrap {name : String} {symbol : Option String}
    (hwrap : ((module.wrap registry reporter).on start).1 =
      .error (.duplicateParameter name symbol)) :
    Gate.Blames (requested settings (start.namespaceAt module.names) listed)
      (Table.names (start.namespaceAt module.names)) (.duplicateParameter name symbol) := by
  rcases hprepare : module.prepare.on start with ⟨outcome, session⟩
  cases outcome with
  | ok prepared =>
      obtain ⟨declarations, title⟩ := prepared
      refine ((wrap_eq_error_iff_of_prepare hlisted hsettings hprepare).mp hwrap).resolve_right ?_
      rintro ⟨_, _, hraised, _⟩
      cases hraised
  | error failure =>
      rw [wrap_eq, Run.on_bind_of_error hprepare] at hwrap
      cases hwrap
      exact absurd (congrArg Prod.fst hprepare) (prepare_blameless module start name symbol)

end Wrapping

/-! ### Wrapped modules -/

theorem refused_requested_iff {failure : Failure} :
    Facade.Refused (requested settings names listed) names failure ↔
      settings.enabled = true ∧
        Facade.Refused (Namespace.documentation names listed) names failure := by
  rw [requested]
  cases settings.enabled with
  | true => simp only [if_true, true_and]
  | false =>
      refine iff_of_false ?_ fun h => Bool.false_ne_true h.1
      rintro ⟨_, e, _, hrefused⟩
      have hnone : Facade.declared [] (Table.names names) = [] :=
        List.filter_eq_nil_iff.mpr fun _ _ => Bool.false_ne_true
      rw [if_neg Bool.false_ne_true, hnone] at hrefused
      cases hrefused

/-- Nothing about the documentation of a module keeps it from being wrapped. -/
theorem exists_failure_iff :
    (∃ failure, Gate.Blames (Namespace.documentation names listed) (Table.names names) failure ∨
      Facade.Refused (Namespace.documentation names listed) names failure) ↔
      ¬∀ s lines, Namespace.documented? names listed s = some lines →
        (rootNamesOn (lines.map .text)).Nodup ∧ Facade.refusal? names s = none := by
  by_cases hblames : ∃ failure,
      Gate.Blames (Namespace.documentation names listed) (Table.names names) failure
  · obtain ⟨s, lines, hlines, hrepeats⟩ := exists_blames_documentation_iff.mp hblames
    obtain ⟨failure, hblames⟩ := hblames
    exact iff_of_true ⟨failure, .inl hblames⟩ fun hclear => hrepeats (hclear s lines hlines).1
  · have hdistinct : ∀ s lines, Namespace.documented? names listed s = some lines →
        (rootNamesOn (lines.map .text)).Nodup := by
      intro s lines hlines
      by_contra hrepeats
      exact hblames (exists_blames_documentation_iff.mpr ⟨s, lines, hlines, hrepeats⟩)
    have hblameless : ∀ symbol ∈ Table.names names,
        (rootNamesOn (Gate.linesFor (Namespace.documentation names listed) symbol)).Nodup := by
      intro symbol hsymbol
      by_contra hrepeats
      exact hblames (Gate.exists_blames_iff.mpr ⟨symbol, hsymbol, hrepeats⟩)
    constructor
    · rintro ⟨failure, hblamed | ⟨_, e, _, hrefused⟩⟩ hclear
      · exact hblames ⟨failure, hblamed⟩
      · obtain ⟨s, hs, hrefusal⟩ := List.exists_of_findSome?_eq_some hrefused
        obtain ⟨lines, hlines⟩ :=
          Option.isSome_iff_exists.mp (mem_declared_documentation_iff.mp hs)
        cases (hclear s lines hlines).2.symm.trans hrefusal
    · intro hunclear
      cases hfirst : (Facade.declared (Namespace.documentation names listed)
          (Table.names names)).findSome? (Facade.refusal? names) with
      | some e => exact ⟨_, .inr ⟨hblameless, e, rfl, hfirst⟩⟩
      | none =>
          refine absurd (fun s lines hlines => ⟨hdistinct s lines hlines, ?_⟩) hunclear
          exact List.findSome?_eq_none_iff.mp hfirst s
            (mem_declared_documentation_iff.mpr (by rw [hlines]; rfl))

/-- A gate that is requested is what the building of a gate gives for the same lines. -/
theorem exists_lines_of_mem_compiled {gate : Gate}
    (hclear : ∀ failure,
      ¬Gate.Blames (requested settings names listed) (Table.names names) failure)
    (hgate : (s, gate) ∈ Gate.compiled (requested settings names listed) registry reporter
      (Table.names names)) :
    ∃ lines, Namespace.documented? names listed s = some lines ∧
      ∀ session, ((Gate.build s (lines.map .text) registry reporter).on session).1 = .ok gate := by
  have hname : s ∈ Table.names (Gate.compiled (requested settings names listed) registry reporter
      (Table.names names)) := List.mem_map.mpr ⟨_, hgate, rfl⟩
  have hdistinct : (rootNamesOn (Gate.linesFor (requested settings names listed) s)).Nodup := by
    by_contra hrepeats
    rw [Gate.names_compiled] at hname
    obtain ⟨failure, hblames⟩ :=
      Gate.exists_blames_iff.mpr ⟨s, (List.mem_filter.mp hname).1, hrepeats⟩
    exact hclear failure hblames
  have heq := Gate.eq_of_mem_compiled hgate
  rw [names_compiled_requested] at hname
  rw [requested] at heq hdistinct
  cases henabled : settings.enabled with
  | false =>
      rw [henabled] at hname
      cases hname
  | true =>
      rw [henabled, if_pos rfl] at hname heq hdistinct
      obtain ⟨lines, hlines⟩ := Option.isSome_iff_exists.mp (List.mem_filter.mp hname).2
      rw [Namespace.linesFor_documentation, hlines, Option.getD_some] at heq hdistinct
      refine ⟨lines, hlines, fun session => ?_⟩
      obtain ⟨built, hbuild, _⟩ := Gate.exists_build hdistinct registry reporter session
      rw [hbuild]
      exact congrArg Except.ok heq.symm

/--
Wrapping a module gives gates to the documented names of its namespace, in their order, if
validation is enabled, and to no names if it is not. Each gate is what building a gate gives for the
lines of its name. A parameter that is declared twice stops the wrapping only if validation is
enabled and a documented name declares it. Besides it, only a documented callable that does not lend
its looks stops a module that answers, such as one that exports only texts, has a name and leaves no
answers to a function. With or without a gate, whatever callable a name that is not reserved is
bound to is called through the facade, at first and after any history, if it lends its looks or its
name has a gate.
-/
theorem gates_of_documented
    (hlisted : ((Namespace.read? (start.namespaceAt module.names)
      Namespace.exportList).on start).1 = .ok listed)
    (hsettings : (Config.current.on start).1 = .ok settings) :
    let names := start.namespaceAt module.names
    let blames := Gate.Blames (Namespace.documentation names listed) (Table.names names)
    ((Table.get? names Namespace.exportList).isSome ∨ Table.get? names Namespace.fallback = none →
      listed = Table.get? names Namespace.exportList) ∧
    (∀ place wrapped, (module.wrap registry reporter).on start = (.ok place, wrapped) →
      ∃ gates, (wrapped.facadeAt place).gates = some (.built gates) ∧
        Table.names gates =
          (if settings.enabled then
            (Table.names names).filter fun s => (Namespace.documented? names listed s).isSome
          else []) ∧
        (∀ s gate, (s, gate) ∈ gates →
          ∃ lines, Namespace.documented? names listed s = some lines ∧
            ∀ session,
              ((Gate.build s (lines.map .text) registry reporter).on session).1 = .ok gate) ∧
        (∀ s, Facade.isReserved s = false →
          wrapped.callableAt module.names s = start.callableAt module.names s) ∧
        ∀ now s c, History place wrapped now → Facade.isReserved s = false →
          now.callableAt module.names s = some c →
          ((Table.get? gates s).isSome ∨
            Facade.refusal? (now.namespaceAt module.names) s = none) →
          Facade.Reaches gates place s c now) ∧
    (∀ name symbol, ((module.wrap registry reporter).on start).1 =
        .error (.duplicateParameter name symbol) →
      settings.enabled = true ∧ blames (.duplicateParameter name symbol)) ∧
    (∀ texts : List String, Table.get? names Namespace.fallback = none →
      (Table.get? names Namespace.ownName).isSome →
      Namespace.exportsOf names listed = .ok (texts.map .text) → Answers start names listed) ∧
    (Answers start names listed →
      (∀ failure, ((module.wrap registry reporter).on start).1 = .error failure ↔
        settings.enabled = true ∧
          (blames failure ∨
            Facade.Refused (Namespace.documentation names listed) names failure)) ∧
      ((∃ place, ((module.wrap registry reporter).on start).1 = .ok place) ↔
        (settings.enabled = true → ∀ s lines, Namespace.documented? names listed s = some lines →
          (rootNamesOn (lines.map .text)).Nodup ∧ Facade.refusal? names s = none))) := by
  intro names blames
  have hlookedUp : Config.lookedUp start = .ok settings := by
    rw [← Config.fst_on_current, hsettings]
  refine ⟨Namespace.listed_eq hlisted, fun place wrapped hwrap => ?_, fun name symbol hwrap => ?_,
    fun texts => answers_of_own, fun hanswers => ?_⟩
  · obtain ⟨name, before, hcreate, hclear, hbound⟩ :=
      exists_create_of_wrap hlisted hlookedUp hwrap
    refine ⟨_, ?_, names_compiled_requested settings names listed registry reporter,
      fun s gate hgate => exists_lines_of_mem_compiled hclear hgate, fun s hs => ?_,
      fun now s c hhistory hs hcallable hlends =>
        Facade.reaches_of_create hcreate hhistory hs hcallable hlends⟩
    · exact (Facade.exports_and_gates_of_create hcreate).2
    · rw [← hbound s hs]
      obtain ⟨_, facade, _, rfl⟩ := Facade.exists_create _ _ _ _ hcreate
      rfl
  · exact blames_requested_iff.mp (blames_of_wrap hlisted hlookedUp hwrap)
  · obtain ⟨declarations, name, session, hprepare⟩ := hanswers.exists_prepare hlisted hlookedUp
    have hfails (failure : Failure) :
        ((module.wrap registry reporter).on start).1 = .error failure ↔
          settings.enabled = true ∧
            (blames failure ∨
              Facade.Refused (Namespace.documentation names listed) names failure) := by
      rw [wrap_eq_error_iff_of_prepare hlisted hlookedUp hprepare, blames_requested_iff,
        refused_requested_iff, and_or_left]
    refine ⟨hfails, ?_⟩
    constructor
    · rintro ⟨place, hok⟩ henabled
      by_contra hunclear
      obtain ⟨failure, hfailure⟩ := exists_failure_iff.mpr hunclear
      have herror := (hfails failure).mpr ⟨henabled, hfailure⟩
      rw [hok] at herror
      cases herror
    · intro hclear
      cases houtcome : ((module.wrap registry reporter).on start).1 with
      | ok place => exact ⟨place, rfl⟩
      | error failure =>
          obtain ⟨henabled, hfailure⟩ := (hfails failure).mp houtcome
          exact absurd (hclear henabled) (exists_failure_iff.mp ⟨failure, hfailure⟩)

theorem gates_eq_nil_of_wrap
    (hlisted : ((Namespace.read? (start.namespaceAt module.names)
      Namespace.exportList).on start).1 = .ok listed)
    (hsettings : Config.lookedUp start = .ok settings)
    (hwrap : (module.wrap registry reporter).on start = (.ok place, wrapped))
    (hnone : ∀ s ∈ Table.names (start.namespaceAt module.names),
      Namespace.documented? (start.namespaceAt module.names) listed s = none) :
    (wrapped.facadeAt place).gates = some (.built []) := by
  obtain ⟨name, before, hcreate, _⟩ := exists_create_of_wrap hlisted hsettings hwrap
  have hnames := names_compiled_requested settings (start.namespaceAt module.names) listed registry
    reporter
  have hempty : (Table.names (start.namespaceAt module.names)).filter (fun s =>
      (Namespace.documented? (start.namespaceAt module.names) listed s).isSome) = [] := by
    refine List.filter_eq_nil_iff.mpr fun s hs => ?_
    rw [hnone s hs]
    exact Bool.false_ne_true
  rw [hempty, ite_self] at hnames
  rw [List.map_eq_nil_iff.mp hnames] at hcreate
  exact (Facade.exports_and_gates_of_create hcreate).2

end

open scoped Standard

/-- A session with a module whose list of exports repeats a name, lacks one and names another. -/
def listedSession : Session where
  settings := some ⟨{}, 0⟩
  namespaces :=
    #[[("__name__", .text "m"), ("_g", .callable documented), ("n", .int 1),
      ("f", .callable documented), ("h", .callable documented),
      ("__all__", .list [.text "f", .text "k", .text "n", .text "_g", .text "f"])]]

/-- The gates of a module stand in the order of its names, whatever the order of its exports. -/
theorem gates_of_listed_functions :
    ∃ wrapped gates,
      ((⟨"m", 0⟩ : Module).wrap none none).on listedSession = (.ok 0, wrapped) ∧
      (wrapped.facadeAt 0).gates = some (.built gates) ∧ Table.names gates = ["_g", "f"] := by
  have hwrap : ((⟨"m", 0⟩ : Module).wrap none none).on listedSession = (.ok 0, _) :=
    Run.on_eq_of_toOption (by decide +kernel)
  have hlisted : ((Namespace.read? (listedSession.namespaceAt (⟨"m", 0⟩ : Module).names)
      Namespace.exportList).on listedSession).1 =
        .ok (some (.list [.text "f", .text "k", .text "n", .text "_g", .text "f"])) := rfl
  have hsettings : (Config.current.on listedSession).1 = .ok {} := rfl
  obtain ⟨gates, hgates, hnames, _⟩ := (gates_of_documented hlisted hsettings).2.1 0 _ hwrap
  refine ⟨_, gates, hwrap, hgates, hnames.trans ?_⟩
  decide +kernel

/-! ### Documented names without gates -/

/-- A session with a module that exports a name that stands for the module itself. -/
def reservedSession : Session where
  settings := some ⟨{}, 0⟩
  namespaces :=
    #[[("__name__", .text "m"), ("__all__", .list [.text "__class__"]),
      ("__class__", .callable documented)]]

/-- A session with a module that has no list of exports, but a function that answers for it. -/
def answeringSession : Session where
  behaviour := fun _ _ _ => .ok (.list [.text "g"])
  settings := some ⟨{}, 0⟩
  namespaces :=
    #[[("__name__", .text "m"), ("__getattr__", .callable undocumented),
      ("f", .callable documented)]]

/--
An exported callable with parameter lines has no gate if its name stands for the module itself.
Neither has a public one if the module lacks a list of exports and something answers for it.
-/
theorem ungated_documented_names :
    documented.parameterLines = some ["{String} [x]"] ∧ ({} : Config.Settings).enabled = true ∧
    (∃ wrapped,
      ((⟨"m", 0⟩ : Module).wrap none none).on reservedSession = (.ok 0, wrapped) ∧
      (Config.current.on reservedSession).1 = .ok {} ∧
      Table.get? (reservedSession.namespaceAt 0) "__all__" = some (.list [.text "__class__"]) ∧
      Table.get? (reservedSession.namespaceAt 0) "__class__" = some (.callable documented) ∧
      (wrapped.facadeAt 0).gates = some (.built [])) ∧
    ∃ wrapped,
      ((⟨"m", 0⟩ : Module).wrap none none).on answeringSession = (.ok 0, wrapped) ∧
      (Config.current.on answeringSession).1 = .ok {} ∧
      Table.get? (answeringSession.namespaceAt 0) "__all__" = none ∧
      Table.get? (answeringSession.namespaceAt 0) "f" = some (.callable documented) ∧
      (wrapped.facadeAt 0).gates = some (.built []) := by
  have hreserved : ((⟨"m", 0⟩ : Module).wrap none none).on reservedSession = (.ok 0, _) :=
    Run.on_eq_of_toOption (by decide +kernel)
  have hanswering : ((⟨"m", 0⟩ : Module).wrap none none).on answeringSession = (.ok 0, _) :=
    Run.on_eq_of_toOption (by decide +kernel)
  have hreservedList : ((Namespace.read? (reservedSession.namespaceAt (⟨"m", 0⟩ : Module).names)
      Namespace.exportList).on reservedSession).1 = .ok (some (.list [.text "__class__"])) := rfl
  have hansweringList : ((Namespace.read? (answeringSession.namespaceAt (⟨"m", 0⟩ : Module).names)
      Namespace.exportList).on answeringSession).1 = .ok (some (.list [.text "g"])) := rfl
  refine ⟨by decide +kernel, rfl, ⟨_, hreserved, rfl, rfl, rfl, ?_⟩,
    ⟨_, hanswering, rfl, rfl, rfl, ?_⟩⟩
  · exact gates_eq_nil_of_wrap hreservedList rfl hreserved (by decide +kernel)
  · exact gates_eq_nil_of_wrap hansweringList rfl hanswering (by decide +kernel)

end Module

end CallGuard
