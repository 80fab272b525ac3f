import CallGuard.Module.Require
import CallGuard.Proofs.Config.Loading
import CallGuard.Proofs.Facade.Gates

/-!
# What wrapping a module makes

Wrapping a module scans its exports and makes a facade with gates. Between the two only calls are
made, the settings are looked up and annotations may be kept. So when it ends well with validation
enabled, every exported callable with parameter lines has a gate, and that gate is made of those
lines, for the registry and the reporter that were given.
-/

namespace CallGuard

open Session

theorem Run.unlessMissing_keeps {R : Session → Session → Prop} [Lasting R] {α : Type}
    {operation : Run α} (h : operation.Keeps R) : (Run.unlessMissing operation).Keeps R := by
  refine (h.map some).tryCatch fun failure => ?_
  split
  · split
    · exact Run.Keeps.pure _
    · exact Run.Keeps.throw _
  · exact Run.Keeps.throw _

theorem Run.on_unlessMissing_of_ok {α : Type} {operation : Run α} {session after : Session} {a : α}
    (h : operation.on session = (.ok a, after)) :
    (Run.unlessMissing operation).on session = (.ok (some a), after) := by
  rw [Run.unlessMissing, Run.on_tryCatch, Run.on_map_of_ok h]

/-! ### Scanning the exports -/

namespace Namespace

variable {names : Namespace} {s : String} {c : Callable}

theorem not_mem_reservedNames (hs : Facade.isReserved s = false) :
    reservedNames.contains s = false := by
  have hreserved : ∀ name ∈ reservedNames, Facade.isReserved name = true := by decide +kernel
  rw [Bool.eq_false_iff, Ne, List.contains_iff_mem]
  intro hmem
  rw [hreserved s hmem] at hs
  cases hs

theorem inherited_of_reserved (hs : reservedNames.contains s = true) :
    inheritedNames.contains s = true := by
  have hinherited : ∀ name ∈ reservedNames, inheritedNames.contains name = true := by
    decide +kernel
  exact hinherited s (List.contains_iff_mem.mp hs)

/-- The lines that a namespace has under a name; what stands for the module itself has none. -/
def ownLines (names : Namespace) (s : String) : Option (List String) :=
  if reservedNames.contains s then none else (Table.get? names s).bind Value.parameterLines

theorem ownLines_of_callable (hs : reservedNames.contains s = false)
    (hmember : Table.get? names s = some (.callable c)) : ownLines names s = c.parameterLines := by
  rw [ownLines, hs, if_neg Bool.false_ne_true, hmember]
  rfl

theorem get?_declarations (found : Table (Option (List String))) (s : String) :
    Table.get? (declarations found) s =
      (Table.get? found s).map fun lines => (lines.getD []).map Value.text := by
  induction found with
  | nil => rfl
  | cons entry rest ih =>
      rw [declarations, List.map_cons, Table.get?, Table.get?]
      by_cases hname : entry.1 = s
      · rw [if_pos hname, if_pos hname, Option.map_some]
      · rw [if_neg hname, if_neg hname]
        exact ih

variable [Platform]

section AllowsCalls

variable {R : Session → Session → Prop} [AllowsCalls R]

theorem read_keeps (names : Namespace) (name : String) : (read names name).Keeps R := by
  unfold read
  dsimp only
  split
  · exact Run.Keeps.pure _
  · split
    · exact Run.Keeps.pure _
    · split
      · exact Value.call_keeps _ _
      · exact Run.Keeps.raise _

theorem exported_keeps (names : Namespace) : (exported names).Keeps R := by
  refine (Run.unlessMissing_keeps (read_keeps names _)).bind fun listed => ?_
  split
  · exact Run.Keeps.pure _
  · exact Run.Keeps.pure _
  · exact Run.Keeps.ofExcept _

theorem linesOf_keeps (names : Namespace) (name : String) : (linesOf names name).Keeps R :=
  (Run.unlessMissing_keeps (read_keeps names name)).bind fun _ => Run.Keeps.pure _

theorem scan_keeps (names : Namespace) (exports : List Value)
    (found : Table (Option (List String))) : (scan names found exports).Keeps R := by
  induction exports generalizing found with
  | nil => exact Run.Keeps.pure _
  | cons given rest ih =>
      cases given with
      | text name => exact (linesOf_keeps names name).bind fun lines => ih _
      | _ => exact Run.Keeps.raise _

end AllowsCalls

theorem on_read_of_get? {v : Value} (hs : reservedNames.contains s = false)
    (hmember : Table.get? names s = some v) (session : Session) :
    (read names s).on session = (.ok v, session) := by
  rw [read, hs]
  simp only [Bool.false_eq_true, if_false, hmember]
  rfl

theorem on_read_of_inherited (hs : reservedNames.contains s = true ∨ Table.get? names s = none)
    (hinherited : inheritedNames.contains s = true) (session : Session) :
    (read names s).on session = (.ok (.described "method" s), session) := by
  have hundefined : (if reservedNames.contains s then none else Table.get? names s) = none := by
    rcases hs with hs | hs
    · rw [if_pos hs]
    · rw [hs, ite_self]
  rw [read]
  simp only [hundefined, hinherited, if_true]
  rfl

/-- A name of the namespace has its own lines, and so has one that every module has. -/
theorem on_linesOf (hs : (Table.get? names s).isSome ∨ inheritedNames.contains s = true)
    (session : Session) : (linesOf names s).on session = (.ok (ownLines names s), session) := by
  have hread : ∃ v, (read names s).on session = (.ok v, session) ∧
      v.parameterLines = ownLines names s := by
    cases hreserved : reservedNames.contains s with
    | true =>
        refine ⟨_, on_read_of_inherited (.inl hreserved) (inherited_of_reserved hreserved) session,
          ?_⟩
        rw [ownLines, if_pos hreserved]
        rfl
    | false =>
        rw [ownLines, hreserved, if_neg Bool.false_ne_true]
        cases hmember : Table.get? names s with
        | some v => exact ⟨v, on_read_of_get? hreserved hmember session, rfl⟩
        | none =>
            rw [hmember] at hs
            have hinherited := hs.resolve_left Bool.false_ne_true
            exact ⟨_, on_read_of_inherited (.inr hmember) hinherited session, rfl⟩
  obtain ⟨v, hread, hlines⟩ := hread
  rw [linesOf, read?, Run.on_bind_of_ok (Run.on_unlessMissing_of_ok hread), ← hlines]
  rfl

/-- A scan that ends well has found the lines of every name that it came across. -/
theorem get?_of_scan {lines : Option (List String)}
    (hlines : ∀ session, (linesOf names s).on session = (.ok lines, session))
    {exports : List Value} {found result : Table (Option (List String))} {session after : Session}
    (hscan : (scan names found exports).on session = (.ok result, after))
    (h : Value.text s ∈ exports ∨ Table.get? found s = some lines) :
    Table.get? result s = some lines := by
  induction exports generalizing found session with
  | nil =>
      cases hscan
      exact h.resolve_left List.not_mem_nil
  | cons given rest ih =>
      cases given with
      | text name =>
          obtain ⟨given, between, hgiven, hrest⟩ := Run.on_bind_eq_ok_iff.mp hscan
          by_cases hname : name = s
          · subst hname
            rw [hlines] at hgiven
            cases hgiven
            exact ih hrest (Or.inr (Table.get?_put_self _ _ _))
          · apply ih hrest
            rw [Table.get?_put_of_ne (Ne.symm hname)]
            refine h.imp_left fun hmem => ?_
            rcases List.mem_cons.mp hmem with heq | hmem
            · exact absurd (Value.text.inj heq).symm hname
            · exact hmem
      | _ => cases hscan

/-- A scan finds nothing for a name that it does not come across. -/
theorem get?_of_scan_of_not_mem {exports : List Value}
    {found result : Table (Option (List String))} {session after : Session}
    (hscan : (scan names found exports).on session = (.ok result, after))
    (h : Value.text s ∉ exports) : Table.get? result s = Table.get? found s := by
  induction exports generalizing found session with
  | nil =>
      cases hscan
      rfl
  | cons given rest ih =>
      cases given with
      | text name =>
          obtain ⟨given, between, _, hrest⟩ := Run.on_bind_eq_ok_iff.mp hscan
          rw [ih hrest (List.not_mem_of_not_mem_cons h), Table.get?_put_of_ne]
          rintro rfl
          exact h List.mem_cons_self
      | _ => cases hscan

end Namespace

theorem Callable.parameterLines_ne_nil {c : Callable} {lines : List String}
    (h : c.parameterLines = some lines) : lines ≠ [] := by
  obtain ⟨doc, _, hscan⟩ := Option.bind_eq_some_iff.mp h
  rw [Docstring.scan] at hscan
  split at hscan
  · cases hscan
  · rename_i hne
    cases hscan
    exact hne

namespace Module

variable {module : Module} {s : String} {c : Callable}

/-- Annotations that are kept change nothing but the names, and of these only their own. -/
theorem on_keepAnnotations (module : Module) (scanned : Table (List Value)) (session : Session) :
    ∃ kept, (keepAnnotations module scanned).on session = (.ok (), kept) ∧
      kept.behaviour = session.behaviour ∧ kept.settings = session.settings ∧
      (kept.namespaceAt module.names = session.namespaceAt module.names ∨
        Table.get? (session.namespaceAt module.names) Namespace.ownAnnotations = none ∧
          kept.namespaceAt module.names =
            Table.put (session.namespaceAt module.names) Namespace.ownAnnotations
              (.mapping [])) := by
  rw [keepAnnotations, Run.on_modify]
  dsimp only
  split
  · rename_i hasked
    refine ⟨_, rfl, rfl, rfl, ?_⟩
    by_cases hplace : module.names < session.namespaces.size
    · right
      refine ⟨?_, by simp [namespaceAt, setNamespace, hplace]⟩
      rw [Bool.and_eq_true, Bool.not_eq_true', Table.has, Table.has, Option.isSome_eq_false_iff,
        Option.isNone_iff_eq_none] at hasked
      exact hasked.2
    · left
      simp [namespaceAt, setNamespace, hplace]
  · exact ⟨_, rfl, rfl, rfl, .inl rfl⟩

/--
A module with these names has been prepared: the settings are in force, at most annotations have
been added to the names, and exports have their own lines if the settings ask for them.
-/
structure Prepared (module : Module) (names : Namespace) (exports : List Value)
    (settings : Config.Settings) (declarations : Table (List Value)) (session : Session) :
    Prop where
  inForce : ∃ loaded, session.settings = some loaded ∧ loaded.settings = settings
  kept : session.namespaceAt module.names = names ∨
    Table.get? names Namespace.ownAnnotations = none ∧
      session.namespaceAt module.names =
        Table.put names Namespace.ownAnnotations (.mapping [])
  asked : settings.enabled = true → ∀ s, .text s ∈ exports →
    (Table.get? names s).isSome ∨ Namespace.inheritedNames.contains s = true →
      Gate.linesFor declarations s = ((Namespace.ownLines names s).getD []).map .text
  unasked : ∀ s, ¬(settings.enabled = true ∧ .text s ∈ exports) →
    Gate.linesFor declarations s = []

theorem linesFor_declarations (found : Table (Option (List String))) (s : String) :
    Gate.linesFor (Namespace.declarations found) s =
      (((Table.get? found s).join).getD []).map .text := by
  rw [Gate.linesFor, Namespace.get?_declarations]
  cases Table.get? found s with
  | none => rfl
  | some lines => rfl

namespace Prepared

variable {names : Namespace} {exports : List Value} {settings : Config.Settings}
  {declarations : Table (List Value)} {session : Session}

/-- Whatever is not reserved is still bound to what it was. -/
theorem get?_namespaceAt (h : module.Prepared names exports settings declarations session)
    (hs : Facade.isReserved s = false) :
    Table.get? (session.namespaceAt module.names) s = Table.get? names s := by
  rcases h.kept with hnames | ⟨_, hnames⟩
  · rw [hnames]
  · rw [hnames, Table.get?_put_of_ne]
    rintro rfl
    have hreserved : Facade.isReserved Namespace.ownAnnotations = true := by decide +kernel
    rw [hreserved] at hs
    cases hs

end Prepared

variable [Platform]

section AllowsCalls

variable {R : Session → Session → Prop} [AllowsCalls R]

theorem logNamed_keeps (site : Log.Site) (name : Value) (message : String → String)
    (extra : Table Value) : (logNamed site name message extra).Keeps R := by
  unfold logNamed
  split
  · exact Run.Keeps.pure _
  · exact Run.log_keeps _ _ _ _

theorem declarationsOf_keeps (hcurrent : Config.current.Keeps R) (names : Namespace)
    (exports : List Value) : (declarationsOf names exports).Keeps R := by
  refine hcurrent.bind fun settings => ?_
  split
  · exact (Namespace.scan_keeps names exports []).map _
  · refine (Namespace.read_keeps names _).bind fun name => ?_
    exact (logNamed_keeps _ _ _ _).bind fun _ => Run.Keeps.pure _

end AllowsCalls

/-! ### Preparing a module -/

/-- What is settled before the facade of a module is made: the lines of its exports, its name. -/
def prepare (module : Module) : Run (Table (List Value) × Value) := do
  let names ← module.namesOf
  let exported ← Namespace.exported names
  let declarations ← declarationsOf names exported
  keepAnnotations module declarations
  let name ← Namespace.read names Namespace.ownName
  pure (declarations, name)

theorem wrap_eq (module : Module) (registry : Option RegistryId) (reporter : Option Reporter) :
    module.wrap registry reporter = module.prepare >>= fun prepared =>
      Facade.wrap prepared.2 module.names true prepared.1 registry reporter := by
  simp only [wrap, prepare, bind_assoc, pure_bind]

/-- The settings that a session looks up decide whether the lines of exports are asked for. -/
theorem exists_settings_of_declarationsOf {names : Namespace} {exports : List Value}
    {declarations : Table (List Value)} {session scanned : Session}
    (h : (declarationsOf names exports).on session = (.ok declarations, scanned)) :
    ∃ settings, Config.lookedUp session = .ok settings ∧
      (∃ loaded, scanned.settings = some loaded ∧ loaded.settings = settings) ∧
      (settings.enabled = true → ∃ found configured,
        (Namespace.scan names [] exports).on configured = (.ok found, scanned) ∧
        declarations = Namespace.declarations found) ∧
      (settings.enabled = false → declarations = []) := by
  obtain ⟨settings, configured, hconfigured, hdeclared⟩ := Run.on_bind_eq_ok_iff.mp h
  obtain ⟨loaded, hloaded, hsettings⟩ := Config.settings_of_current hconfigured
  have hlookedUp : Config.lookedUp session = .ok settings := by
    rw [← Config.fst_on_current, hconfigured]
  split at hdeclared
  · rename_i henabled
    rw [map_eq_pure_bind] at hdeclared
    obtain ⟨found, after, hscan, hpure⟩ := Run.on_bind_eq_ok_iff.mp hdeclared
    cases hpure
    have hquiet := (Namespace.scan_keeps (R := Quiet) names exports []).of_on hscan
    refine ⟨settings, hlookedUp, ⟨loaded, hquiet.settings.trans hloaded, hsettings⟩,
      fun _ => ⟨found, configured, hscan, rfl⟩, fun hdisabled => ?_⟩
    rw [henabled] at hdisabled
    cases hdisabled
  · rename_i hdisabled
    obtain ⟨name, named, hname, hlogged⟩ := Run.on_bind_eq_ok_iff.mp hdeclared
    obtain ⟨_, logged, hlog, hpure⟩ := Run.on_bind_eq_ok_iff.mp hlogged
    cases hpure
    have hquiet : configured.Quiet scanned :=
      Lasting.trans ((Namespace.read_keeps names _).of_on hname)
        ((logNamed_keeps _ _ _ _).of_on hlog)
    exact ⟨settings, hlookedUp, ⟨loaded, hquiet.settings.trans hloaded, hsettings⟩,
      fun henabled => absurd henabled hdisabled, fun _ => rfl⟩

/-- A module is prepared for what it exports and for the settings looked up at the start. -/
theorem prepared_of_prepare {declarations : Table (List Value)} {name : Value}
    {start prepared : Session}
    (h : module.prepare.on start = (.ok (declarations, name), prepared)) :
    ∃ exports settings,
      ((Namespace.exported (start.namespaceAt module.names)).on start).1 = .ok exports ∧
      Config.lookedUp start = .ok settings ∧
      module.Prepared (start.namespaceAt module.names) exports settings declarations prepared := by
  have hnames : module.namesOf.on start = (.ok (start.namespaceAt module.names), start) := rfl
  rw [prepare, Run.on_bind_of_ok hnames] at h
  obtain ⟨exports, asked, hasked, hrest⟩ := Run.on_bind_eq_ok_iff.mp h
  obtain ⟨declared, scanned, hscanned, hrest⟩ := Run.on_bind_eq_ok_iff.mp hrest
  obtain ⟨kept, hkept, _, hkeptSettings, hkeptNames⟩ :=
    on_keepAnnotations module declared scanned
  rw [Run.on_bind_of_ok hkept] at hrest
  obtain ⟨read, named, hnamed, hpure⟩ := Run.on_bind_eq_ok_iff.mp hrest
  cases hpure
  have hasking := (Namespace.exported_keeps (R := Quiet) _).of_on hasked
  have hnaming := (Namespace.read_keeps (R := Quiet) _ _).of_on hnamed
  have hscanning := (declarationsOf_keeps (R := Configured) Config.current_keeps _ _).of_on hscanned
  obtain ⟨settings, hlookedUp, ⟨loaded, hloaded, hsettings⟩, henabled, hdisabled⟩ :=
    exists_settings_of_declarationsOf hscanned
  rw [Config.lookedUp_congr hasking.settings hasking.environment hasking.files
    hasking.workingDirectory] at hlookedUp
  have hstill : scanned.namespaceAt module.names = start.namespaceAt module.names := by
    rw [hscanning.namespaceAt, hasking.namespaceAt]
  refine ⟨exports, settings, congrArg Prod.fst hasked, hlookedUp, ⟨loaded, ?_, hsettings⟩, ?_, ?_,
    ?_⟩
  · exact hnaming.settings.trans (hkeptSettings.trans hloaded)
  · rw [hnaming.namespaceAt, ← hstill]
    exact hkeptNames
  · intro hon s hexported hs
    obtain ⟨found, configured, hscan, rfl⟩ := henabled hon
    rw [linesFor_declarations,
      Namespace.get?_of_scan (Namespace.on_linesOf hs) hscan (.inl hexported)]
    rfl
  · intro s hnot
    cases hon : settings.enabled with
    | false =>
        rw [hdisabled hon]
        rfl
    | true =>
        obtain ⟨found, configured, hscan, rfl⟩ := henabled hon
        rw [linesFor_declarations, Namespace.get?_of_scan_of_not_mem hscan fun hexported =>
          hnot ⟨hon, hexported⟩]
        rfl

/--
Wrapping a module with validation enabled makes a facade in which an exported callable with
parameter lines has the gate of these lines. The callable is still bound when the facade is made.
-/
theorem exists_gate_of_wrap {registry : Option RegistryId} {reporter : Option Reporter}
    {start wrapped : Session} {place : FacadeId} {loaded : LoadedSettings} {exports : List Value}
    {lines : List String}
    (hwrap : (module.wrap registry reporter).on start = (.ok place, wrapped))
    (hsettings : wrapped.settings = some loaded) (henabled : loaded.settings.enabled = true)
    (hexports : ((Namespace.exported (start.namespaceAt module.names)).on start).1 = .ok exports)
    (hexported : .text s ∈ exports) (hs : Facade.isReserved s = false)
    (hmember : Table.get? (start.namespaceAt module.names) s = some (.callable c))
    (hlines : c.parameterLines = some lines) :
    ∃ name gates before,
      (Facade.create name module.names true gates).on before = (.ok place, wrapped) ∧
      Table.get? gates s =
        some { function := s, outline := Outline.ofLines (lines.map .text), registry, reporter } ∧
      Table.get? (before.namespaceAt module.names) s = some (.callable c) := by
  rw [wrap_eq] at hwrap
  obtain ⟨⟨declarations, name⟩, session, hprepare, hfacade⟩ := Run.on_bind_eq_ok_iff.mp hwrap
  obtain ⟨asked, settings, hasked, _, hprepared⟩ := prepared_of_prepare hprepare
  obtain ⟨before, hbefore, _, hcreate⟩ := Facade.exists_of_wrap hfacade
  rw [hasked] at hexports
  cases hexports
  have hwrapped : wrapped.settings = session.settings := by
    obtain ⟨_, facade, _, rfl⟩ := Facade.exists_create _ _ _ _ hcreate
    exact hbefore.settings
  obtain ⟨inForce, hinForce, rfl⟩ := hprepared.inForce
  rw [hwrapped, hinForce] at hsettings
  cases hsettings
  have hstill : Table.get? (session.namespaceAt module.names) s = some (.callable c) := by
    rw [hprepared.get?_namespaceAt hs, hmember]
  have hlinesFor : Gate.linesFor declarations s = lines.map .text := by
    rw [hprepared.asked henabled s hexported (.inl (by rw [hmember]; rfl)),
      Namespace.ownLines_of_callable (Namespace.not_mem_reservedNames hs) hmember, hlines]
    rfl
  refine ⟨name, _, before, hcreate, ?_, ?_⟩
  · rw [Gate.get?_compiled (mem_symbolsAt hstill), hlinesFor]
    · rfl
    · rw [hlinesFor]
      exact fun hnil => Callable.parameterLines_ne_nil hlines (List.map_eq_nil_iff.mp hnil)
  · rw [hbefore.namespaceAt]
    exact hstill

end Module

end CallGuard
