import CallGuard.Proofs.Facade.Guarded
import CallGuard.Proofs.Module.Loading
import CallGuard.Proofs.Module.Wrap
import CallGuard.Standard.Platform

/-!
# The module of a file over its requests

The module of a file is kept once its body has succeeded. Until then every request for the file runs
the body again, and from then on no request does, even when the first one has failed after the body,
while its module was wrapped. So all facades that requests for one file make are over one module.
-/

namespace CallGuard

open Session

namespace Session

/-- The loaded modules stay as they are, and no body runs. -/
structure SameModules (before after : Session) : Prop where
  modules : after.modules = before.modules
  copies : after.copies = before.copies

variable [Platform]

instance : AllowsLoads SameModules where
  refl _ := ⟨rfl, rfl⟩
  trans first second :=
    ⟨second.modules.trans first.modules, second.copies.trans first.copies⟩
  call _ _ := ⟨rfl, rfl⟩
  record _ _ := ⟨rfl, rfl⟩
  environment _ _ := ⟨rfl, rfl⟩
  settings _ _ _ := ⟨rfl, rfl⟩

end Session

namespace Module

open CallGuard.Files

theorem loaded?_of_sameModules {session after : Session} (h : session.SameModules after)
    (name : String) :
    loaded? after name = loaded? session name := by
  rw [loaded?, loaded?, h.modules]

theorem formatOf?_of_endsWith {file : String} (h : file.endsWith sourceSuffix = true) :
    formatOf? file = some .source := by
  have hends (suffix : String) : file.endsWith suffix = true ↔ suffix.toList <:+ file.toList := by
    rw [String.endsWith_eq_endsWith_toSlice, String.Slice.endsWith_string_iff,
      String.copy_toSlice]
  have hlast : file.toList.getLast? = some 'y' := by
    obtain ⟨front, hfront⟩ := (hends sourceSuffix).mp h
    rw [← hfront, List.getLast?_append]
    rfl
  have hother (suffix : String) (hsuffix : suffix.toList.getLast? = some 'o') :
      file.endsWith suffix = false := by
    rw [Bool.eq_false_iff, Ne, hends]
    rintro ⟨front, hfront⟩
    rw [← hfront, List.getLast?_append, hsuffix] at hlast
    cases hlast
  simp [formatOf?, suffixes, hother, h]

/-! ### What follows a load -/

section

variable [Platform]

theorem wrap_keeps_modules (module : Module) (registry : Option RegistryId)
    (reporter : Option Reporter) : (module.wrap registry reporter).Keeps SameModules := by
  have hkeep (declarations : Table (List Value)) :
      (keepAnnotations module declarations).Keeps SameModules := by
    intro session
    rw [keepAnnotations, Run.on_modify]
    dsimp only
    split <;> exact ⟨rfl, rfl⟩
  refine (Run.Keeps.get.bind fun _ => Run.Keeps.pure _).bind fun names => ?_
  refine (Namespace.exported_keeps names).bind fun exported => ?_
  refine (declarationsOf_keeps Config.current_keeps _ _).bind fun declarations => ?_
  refine (hkeep declarations).bind fun _ => (Namespace.read_keeps _ _).bind fun name => ?_
  refine (Facade.wrap_keeps_twins _ _ _ _ _ _).mono fun before after htwins => ?_
  obtain ⟨facades, journal, rfl⟩ := htwins
  exact ⟨rfl, rfl⟩

theorem handOver_keeps_modules (module : Module) (path : String) (registry : Option RegistryId)
    (reporter : Option Reporter) : (module.handOver path registry reporter).Keeps SameModules := by
  refine (Run.Keeps.get.bind fun _ => Run.Keeps.pure _).bind fun names => ?_
  refine (Namespace.read_keeps _ _).bind fun name => (logNamed_keeps _ _ _ _).bind fun _ => ?_
  exact module.wrap_keeps_modules registry reporter

/-- The facade of a module that was found leads to the names of that module. -/
theorem exports_of_handOver {module : Module} {path : String} {registry : Option RegistryId}
    {reporter : Option Reporter} {session after : Session} {place : FacadeId}
    (h : (module.handOver path registry reporter).on session = (.ok place, after)) :
    (after.facadeAt place).exports = some (.names module.names true) := by
  obtain ⟨_, _, _, hnamed⟩ := Run.on_bind_eq_ok_iff.mp h
  obtain ⟨_, _, _, hlogged⟩ := Run.on_bind_eq_ok_iff.mp hnamed
  obtain ⟨_, logged, _, hwrap⟩ := Run.on_bind_eq_ok_iff.mp hlogged
  rw [wrap_eq] at hwrap
  obtain ⟨_, prepared, _, hfacade⟩ := Run.on_bind_eq_ok_iff.mp hwrap
  obtain ⟨before, _, _, hcreate⟩ := Facade.exists_of_wrap hfacade
  exact (Facade.exports_and_gates_of_create hcreate).1

/-! ### What a file defines, and loading it -/

/-- What the module of a file consists of, unless nothing can be run for the file. -/
def sourceAt (session : Session) (file : String) : Except Failure ModuleSource :=
  let content := (session.files.content? session.workingDirectory file).getD (.bytes [])
  match formatOf? file with
  | none => .error (.load (.notLoadable file))
  | some .extension => .error (.raised (linkError file content))
  | some format =>
    (definition format (fileModuleName file) file content).mapError (failureOf (.bodyFailed file))

/-- One body has run, and its module is kept if there is one. -/
structure Ran (file : String) (module : Option Module) (before after : Session) : Prop where
  copies : after.copies = before.copies + 1
  modules : after.modules =
    before.modules ++ (module.map fun module => (fileModuleName file, module)).toList

section Files

variable {session after : Session} {file : String} {module : Module} {failure : Failure}
  {source : ModuleSource} {e : Raised}

theorem Ran.loaded? {module : Option Module} (h : Ran file module session after)
    (name : String) :
    Module.loaded? after name =
      (Module.loaded? session name).or (if name = fileModuleName file then module else none) := by
  rw [Module.loaded?, Module.loaded?, h.modules, List.lookup_append]
  cases module with
  | none => simp
  | some module =>
      rw [Option.map_some, Option.toList_some, List.lookup_cons, List.lookup_nil]
      by_cases hname : name = fileModuleName file
      · rw [if_pos hname, beq_iff_eq.mpr hname]
      · rw [if_neg hname, beq_eq_false_iff_ne.mpr hname]

theorem exists_on_execute (file : String) (initial : Namespace) (source : ModuleSource)
    (session : Session) :
    ∃ module after,
      (execute (fileModuleName file) initial source).on session =
        (match source.failure with
          | some e => .error (.raised e)
          | none => .ok module, after) ∧
      Ran file (if source.failure.isSome then none else some module) session after := by
  rw [execute, Run.on_bind_of_ok (Run.on_get session)]
  cases source.failure with
  | some e => exact ⟨⟨fileModuleName file, 0⟩, _, rfl, rfl, (List.append_nil _).symm⟩
  | none => exact ⟨_, _, rfl, rfl, rfl⟩

theorem on_loadFile_of_loaded (h : Module.loaded? session (fileModuleName file) = some module) :
    (loadFile file).on session = (.ok module, session) := by
  rw [loadFile, Run.on_bind_of_ok (Run.on_get session), h]
  rfl

/-- A file whose module is not loaded is refused, or what it defines is run. -/
theorem on_loadFile_of_new (hnew : Module.loaded? session (fileModuleName file) = none) :
    (∃ failure, sourceAt session file = .error failure ∧
      (loadFile file).on session = (.error failure, session)) ∨
    ∃ format content,
      sourceAt session file = (definition format (fileModuleName file) file content).mapError
        (failureOf (.bodyFailed file)) ∧
      (loadFile file).on session = (runBody file format content).on session := by
  rw [loadFile, Run.on_bind_of_ok (Run.on_get session), hnew, sourceAt]
  cases formatOf? file with
  | none => exact .inl ⟨_, rfl, rfl⟩
  | some format =>
      cases format with
      | extension => exact .inl ⟨_, rfl, rfl⟩
      | source => exact .inr ⟨.source, _, rfl, rfl⟩
      | compiled => exact .inr ⟨.compiled, _, rfl, rfl⟩

/-- An error of a body leaves the loaded modules as they are, also when it has no text. -/
theorem exists_on_failBody_keeps (file : String) (e : Raised) (session : Session) :
    ∃ after, (failBody file e : Run Module).on session =
      (.error (failureOf (.bodyFailed file) e), after) ∧ session.SameModules after := by
  rw [failBody, failureOf]
  cases e.told with
  | ok cause => exact ⟨_, rfl, rfl, rfl⟩
  | error other => exact ⟨session, rfl, rfl, rfl⟩

theorem exists_on_loadFile_of_error (hnew : Module.loaded? session (fileModuleName file) = none)
    (h : sourceAt session file = .error failure) :
    ∃ after, (loadFile file).on session = (.error failure, after) ∧ session.SameModules after := by
  obtain ⟨found, hfound, hload⟩ | ⟨format, content, hsource, hload⟩ := on_loadFile_of_new hnew
  · cases hfound.symm.trans h
    exact ⟨session, hload, Lasting.refl session⟩
  · rw [hload, runBody, Run.on_tryCatch]
    rw [hsource] at h
    cases hdefinition : definition format (fileModuleName file) file content with
    | ok source =>
        rw [hdefinition] at h
        cases h
    | error e =>
        rw [hdefinition] at h
        cases h
        exact exists_on_failBody_keeps file e session

/-- The body of what a file defines runs, and its module is kept unless the body fails. -/
theorem exists_on_loadFile_of_ok (hnew : Module.loaded? session (fileModuleName file) = none)
    (h : sourceAt session file = .ok source) :
    ∃ module after,
      (loadFile file).on session =
        (match source.failure with
          | some e => .error (failureOf (.bodyFailed file) e)
          | none => .ok module, after) ∧
      Ran file (if source.failure.isSome then none else some module) session after := by
  obtain ⟨found, hfound, hload⟩ | ⟨format, content, hsource, hload⟩ := on_loadFile_of_new hnew
  · cases hfound.symm.trans h
  · rw [hload, runBody, Run.on_tryCatch]
    rw [hsource] at h
    cases hdefinition : definition format (fileModuleName file) file content with
    | error e =>
        rw [hdefinition] at h
        cases h
    | ok defined =>
        rw [hdefinition] at h
        cases h
        obtain ⟨module, ran, hrun, hran⟩ := exists_on_execute file (initialNames file)
          source session
        rw [Run.on_bind_of_ok (Run.on_ofExcept_ok source session), hrun]
        cases hfailure : source.failure with
        | none =>
            rw [hfailure] at hran
            exact ⟨module, ran, rfl, hran⟩
        | some e =>
            rw [hfailure] at hran
            obtain ⟨left, hfail, hsame⟩ := exists_on_failBody_keeps file e ran
            exact ⟨module, left, hfail, hsame.copies.trans hran.copies,
              hsame.modules.trans hran.modules⟩

end Files

/-! ### Requests -/

theorem anchors_keeps {R : Session → Session → Prop} [AllowsCalls R] (module : Module) :
    module.anchors.Keeps R := by
  refine Run.Keeps.get.bind fun session => ?_
  refine (Run.Keeps.get.bind fun _ => Run.Keeps.pure _).bind fun names => ?_
  refine (Run.unlessMissing_keeps (Namespace.read_keeps names _)).bind fun file => ?_
  refine (Run.Keeps.ofExcept _).bind fun directory => ?_
  exact (Namespace.read_keeps names _).bind fun package => Run.Keeps.pure _

theorem anchorsOf_keeps {R : Session → Session → Prop} [AllowsCalls R] (host : Host) :
    (anchorsOf host).Keeps R := by
  refine Run.Keeps.get.bind fun session => ?_
  split
  · split
    · exact anchors_keeps _
    · exact Run.Keeps.raise _
  · split
    · exact anchors_keeps _
    · exact Run.Keeps.pure _
  · exact Run.Keeps.pure _
  · exact Run.Keeps.throw _

/-- A request for a module on behalf of a host. -/
structure Request where
  path : String
  host : Host
  registry : Option RegistryId
  reporter : Option Reporter

namespace Request

def run (request : Request) : Run FacadeId :=
  require (.text request.path) request.host request.registry request.reporter

/-- Finds the module that a request asks for. -/
def find (request : Request) : Run Module := do
  let anchors ← anchorsOf request.host
  load request.path anchors

/-- A request is accepted and asks for a file, seen from a directory if its host has one. -/
structure AsksFrom (request : Request) (session : Session) (directory : Option String) : Prop where
  path : request.path ≠ ""
  isPath : isFilePath request.path = true
  host : request.host.isGiven = true
  anchored : ∃ anchors, ((anchorsOf request.host).on session).1 = .ok anchors ∧
    startOf anchors.directory request.path = .ok directory

/-- A request is accepted, and its path is resolved to a file that is there. -/
def ResolvesTo (request : Request) (session : Session) (file : String) : Prop :=
  ∃ directory, request.AsksFrom session directory ∧
    resolveFile session.files session.workingDirectory directory request.path = .ok file

variable {request : Request} {session : Session} {file : String}

/-- A request that is resolved to a file loads that file and goes on with its module. -/
theorem ResolvesTo.exists_on (h : request.ResolvesTo session file) :
    ∃ located, session.SameModules located ∧ sourceAt located file = sourceAt session file ∧
      request.find.on session = (loadFile file).on located ∧
      request.run.on session =
        (loadFile file >>= fun module =>
          module.handOver request.path request.registry request.reporter).on located := by
  obtain ⟨directory, hasks, hresolve⟩ := h
  obtain ⟨anchors, hanchors, hstart⟩ := hasks.anchored
  have hon : (anchorsOf request.host).on session =
      (.ok anchors, ((anchorsOf request.host).on session).2) := Prod.ext hanchors rfl
  have hsame : session.SameModules _ := anchorsOf_keeps request.host session
  have hfiles : session.Configured _ := anchorsOf_keeps request.host session
  generalize ((anchorsOf request.host).on session).2 = located at hon hsame hfiles
  have hload : (load request.path anchors).on located = (loadFile file).on located := by
    rw [load, if_pos hasks.isPath, Run.on_bind_of_ok (Run.on_get located), hstart,
      Run.on_bind_of_ok (Run.on_ofExcept_ok directory located), hfiles.files,
      hfiles.workingDirectory, hresolve]
  refine ⟨located, hsame, ?_, (Run.on_bind_of_ok hon _).trans hload, ?_⟩
  · rw [sourceAt, sourceAt, hfiles.files, hfiles.workingDirectory]
  · rw [run, on_require hasks.path hasks.host hon, Run.on_bind, Run.on_bind, hload]

end Request

end

/-! ### What becomes of a request -/

/--
What becomes of a request for a file: what the file defines at the time, how many bodies run, the
module that is found, and the facade that is made.
-/
structure Attempt where
  source : Except Failure ModuleSource
  bodies : Nat
  found : Except Failure Module
  outcome : Except Failure Facade

namespace Attempt

variable {attempt : Attempt} {file : String} {module : Module}

/-- A body runs and succeeds, which gives a module. -/
def Gains (attempt : Attempt) (module : Module) : Prop :=
  0 < attempt.bodies ∧ attempt.found = .ok module

/-- No body runs, and a module is used again. -/
def Reuses (attempt : Attempt) (module : Module) : Prop :=
  attempt.bodies = 0 ∧ attempt.found = .ok module

/-- The body of what the file defines runs once, unless the file is refused before that. -/
def Tries (attempt : Attempt) (file : String) : Prop :=
  match attempt.source with
  | .error failure => attempt.bodies = 0 ∧ attempt.found = .error failure
  | .ok source =>
    attempt.bodies = 1 ∧
      match source.failure with
      | some e => attempt.found = .error (failureOf (.bodyFailed file) e)
      | none => ∃ module, attempt.found = .ok module

/-- Without a module the request fails as the load does, and a facade is over the module found. -/
structure Serves (attempt : Attempt) : Prop where
  fails : ∀ failure, attempt.found = .error failure → attempt.outcome = .error failure
  exports : ∀ module facade, attempt.found = .ok module → attempt.outcome = .ok facade →
    facade.exports = some (.names module.names true)

theorem Reuses.not_gains (h : attempt.Reuses module) (other : Module) :
    ¬attempt.Gains other := by
  rintro ⟨hbodies, _⟩
  rw [h.1] at hbodies
  exact Nat.lt_irrefl 0 hbodies

theorem Tries.gains (h : attempt.Tries file) (hfound : attempt.found = .ok module) :
    attempt.Gains module := by
  rw [Tries] at h
  split at h
  · rw [h.2] at hfound
    cases hfound
  · refine ⟨?_, hfound⟩
    rw [h.1]
    exact Nat.one_pos

end Attempt

section

variable [Platform]

namespace Request

variable {request : Request} {before : Session} {file : String} {module : Module}

def attempt (request : Request) (file : String) (before : Session) : Attempt where
  source := sourceAt before file
  bodies := (request.run.on before).2.copies - before.copies
  found := (request.find.on before).1
  outcome := (request.run.on before).1.map (request.run.on before).2.facadeAt

/-- After the load a request neither runs a body nor changes which modules are loaded. -/
theorem ResolvesTo.exists_load (h : request.ResolvesTo before file) :
    ∃ located loaded, before.SameModules located ∧ sourceAt located file = sourceAt before file ∧
      (loadFile file).on located = ((request.attempt file before).found, loaded) ∧
      loaded.SameModules (request.run.on before).2 ∧ (request.attempt file before).Serves := by
  obtain ⟨located, hlocated, hsource, hfind, hrun⟩ := h.exists_on
  rcases hload : (loadFile file).on located with ⟨failure | module, loaded⟩
  · rw [Run.on_bind_of_error hload] at hrun
    refine ⟨located, loaded, hlocated, hsource, ?_, ?_, ?_⟩
    · rw [hload, attempt, hfind, hload]
    · rw [hrun]
      exact Lasting.refl loaded
    · refine ⟨fun found hfound => ?_, fun module facade hfound => ?_⟩
      · rw [attempt, hfind, hload] at hfound
        cases hfound
        rw [attempt, hrun]
        rfl
      · rw [attempt, hfind, hload] at hfound
        cases hfound
  · rw [Run.on_bind_of_ok hload] at hrun
    refine ⟨located, loaded, hlocated, hsource, ?_, ?_, ?_⟩
    · rw [hload, attempt, hfind, hload]
    · rw [hrun]
      exact module.handOver_keeps_modules _ _ _ loaded
    · refine ⟨fun failure hfound => ?_, fun found facade hfound houtcome => ?_⟩
      · rw [attempt, hfind, hload] at hfound
        cases hfound
      · rw [attempt, hfind, hload] at hfound
        cases hfound
        rw [attempt, hrun] at houtcome
        dsimp only at houtcome
        rcases hover : (module.handOver request.path request.registry request.reporter).on loaded
          with ⟨failure | place, after⟩
        · rw [hover] at houtcome
          cases houtcome
        · rw [hover] at houtcome
          cases houtcome
          exact exports_of_handOver hover

/-- A module that is loaded is used again, and stays loaded. -/
theorem ResolvesTo.reuses (h : request.ResolvesTo before file)
    (hloaded : loaded? before (fileModuleName file) = some module) :
    (request.attempt file before).Reuses module ∧
      loaded? (request.run.on before).2 (fileModuleName file) = some module := by
  obtain ⟨located, loaded, hlocated, _, hload, hafter, _⟩ := h.exists_load
  have hstill : loaded? located (fileModuleName file) = some module := by
    rw [loaded?_of_sameModules hlocated, hloaded]
  obtain ⟨hfound, rfl⟩ := Prod.mk.inj ((on_loadFile_of_loaded hstill).symm.trans hload)
  refine ⟨⟨?_, hfound.symm⟩, ?_⟩
  · rw [attempt, hafter.copies, hlocated.copies, Nat.sub_self]
  · rw [loaded?_of_sameModules hafter, hstill]

/-- Without a module the body is tried, and the module is loaded then just when it is gained. -/
theorem ResolvesTo.tries (h : request.ResolvesTo before file)
    (hnew : loaded? before (fileModuleName file) = none) :
    (request.attempt file before).Tries file ∧
      ∀ module, loaded? (request.run.on before).2 (fileModuleName file) = some module ↔
        (request.attempt file before).Gains module := by
  obtain ⟨located, loaded, hlocated, hsource, hload, hafter, _⟩ := h.exists_load
  have hstill : loaded? located (fileModuleName file) = none := by
    rw [loaded?_of_sameModules hlocated, hnew]
  have hasked : (request.attempt file before).source = sourceAt located file := hsource.symm
  have hbodies : (request.attempt file before).bodies = loaded.copies - located.copies := by
    rw [attempt, hafter.copies, hlocated.copies]
  rw [loaded?_of_sameModules hafter]
  cases hdefined : sourceAt located file with
  | error failure =>
      obtain ⟨failed, hfailed, hsame⟩ := exists_on_loadFile_of_error hstill hdefined
      obtain ⟨hfound, rfl⟩ := Prod.mk.inj (hfailed.symm.trans hload)
      have hnone : (request.attempt file before).bodies = 0 := by
        rw [hbodies, hsame.copies, Nat.sub_self]
      rw [hdefined] at hasked
      refine ⟨?_, fun module => ?_⟩
      · rw [Attempt.Tries, hasked]
        exact ⟨hnone, hfound.symm⟩
      · rw [loaded?_of_sameModules hsame, hstill, Attempt.Gains, hnone]
        simp
  | ok source =>
      obtain ⟨module, ran, hresult, hran⟩ := exists_on_loadFile_of_ok hstill hdefined
      obtain ⟨hfound, rfl⟩ := Prod.mk.inj (hresult.symm.trans hload)
      have hone : (request.attempt file before).bodies = 1 := by
        rw [hbodies, hran.copies, Nat.add_sub_cancel_left]
      rw [hdefined] at hasked
      have hkept := hran.loaded? (fileModuleName file)
      rw [hstill, Option.none_or, if_pos rfl] at hkept
      rw [Attempt.Tries, hasked, hkept]
      refine ⟨⟨hone, ?_⟩, fun gained => ?_⟩
      · rw [← hfound]
        cases source.failure with
        | some e => rfl
        | none => exact ⟨module, rfl⟩
      · rw [Attempt.Gains, hone, ← hfound]
        cases source.failure with
        | some e => simp
        | none => simp

/-- A request for another file does not touch the module. -/
theorem ResolvesTo.loaded?_of_ne {other : String} (h : request.ResolvesTo before other)
    (hother : fileModuleName other ≠ fileModuleName file) :
    loaded? (request.run.on before).2 (fileModuleName file) =
      loaded? before (fileModuleName file) := by
  obtain ⟨located, loaded, hlocated, _, hload, hafter, _⟩ := h.exists_load
  rw [loaded?_of_sameModules hafter, ← loaded?_of_sameModules hlocated]
  cases hfound : loaded? located (fileModuleName other) with
  | some module =>
      obtain ⟨_, rfl⟩ := Prod.mk.inj ((on_loadFile_of_loaded hfound).symm.trans hload)
      rfl
  | none =>
      cases hdefined : sourceAt located other with
      | error failure =>
          obtain ⟨failed, hfailed, hsame⟩ := exists_on_loadFile_of_error hfound hdefined
          obtain ⟨_, rfl⟩ := Prod.mk.inj (hfailed.symm.trans hload)
          exact loaded?_of_sameModules hsame _
      | ok source =>
          obtain ⟨module, ran, hresult, hran⟩ := exists_on_loadFile_of_ok hfound hdefined
          obtain ⟨_, rfl⟩ := Prod.mk.inj (hresult.symm.trans hload)
          rw [hran.loaded?, if_neg hother.symm, Option.or_none]

/-- What keeps the module of a source file from being found is an error of its body. -/
theorem ResolvesTo.exists_bodyFailed (h : request.ResolvesTo before file)
    (hsource : formatOf? file = some .source) {failure : Failure}
    (hfailed : (request.attempt file before).found = .error failure) :
    ∃ e, failure = failureOf (.bodyFailed file) e := by
  cases hloaded : loaded? before (fileModuleName file) with
  | some module =>
      rw [(h.reuses hloaded).1.2] at hfailed
      cases hfailed
  | none =>
      have htries := (h.tries hloaded).1
      rw [Attempt.Tries] at htries
      split at htries
      · rename_i refused hrefused
        rw [htries.2] at hfailed
        cases hfailed
        rw [attempt, sourceAt, hsource] at hrefused
        dsimp only at hrefused
        cases hdefinition : definition .source (fileModuleName file) file
            ((before.files.content? before.workingDirectory file).getD (.bytes [])) with
        | ok source =>
            rw [hdefinition] at hrefused
            cases hrefused
        | error e =>
            rw [hdefinition] at hrefused
            cases hrefused
            exact ⟨e, rfl⟩
      · have hbody := htries.2
        split at hbody
        · rename_i e _
          rw [hbody] at hfailed
          cases hfailed
          exact ⟨e, rfl⟩
        · obtain ⟨module, hfound⟩ := hbody
          rw [hfound] at hfailed
          cases hfailed

end Request

/-! ### Courses of requests -/

/--
One thing that happens to a session. Requests of interest are attempts for a file; other requests
and whatever else happens leave the module of the file alone.
-/
inductive Move (target : Request → Session → Prop) (file : String) :
    Session → Option Attempt → Session → Prop
  | request {request : Request} {before : Session} (h : target request before) :
      Move target file before (some (request.attempt file before)) (request.run.on before).2
  | elsewhere {request : Request} {before : Session} {other : String}
      (h : request.ResolvesTo before other)
      (hother : fileModuleName other ≠ fileModuleName file) :
      Move target file before none (request.run.on before).2
  | other {before after : Session}
      (h : loaded? after (fileModuleName file) = loaded? before (fileModuleName file)) :
      Move target file before none after

/-- A session is reached from another one, and these are the attempts on the way. -/
inductive Course (target : Request → Session → Prop) (file : String) (start : Session) :
    List Attempt → Session → Prop
  | nil : Course target file start [] start
  | snoc {attempts : List Attempt} {between after : Session} {attempt : Option Attempt}
      (h : Course target file start attempts between)
      (hmove : Move target file between attempt after) :
      Course target file start (attempts ++ attempt.toList) after

section Courses

variable {target wider : Request → Session → Prop} {file : String} {start before after : Session}
  {attempts earlier later : List Attempt} {attempt : Attempt} {module : Module}

theorem Move.loaded?_of_none (h : Move target file before none after) :
    loaded? after (fileModuleName file) = loaded? before (fileModuleName file) := by
  cases h with
  | elsewhere h hother => exact h.loaded?_of_ne hother
  | other h => exact h

theorem Course.mono (hle : ∀ request session, target request session → wider request session)
    (h : Course target file start attempts after) : Course wider file start attempts after := by
  induction h with
  | nil => exact .nil
  | snoc _ hmove ih =>
      refine ih.snoc ?_
      cases hmove with
      | request h => exact .request (hle _ _ h)
      | elsewhere h hother => exact .elsewhere h hother
      | other h => exact .other h

/-- A course of requests that are resolved to one file. -/
abbrev FileCourse (file : String) : Session → List Attempt → Session → Prop :=
  Course (fun request session => request.ResolvesTo session file) file

/-- An attempt gains a module only if none is loaded, and otherwise uses the one that is. -/
theorem Move.attempt_cases
    (h : Move (fun request session => request.ResolvesTo session file) file before (some attempt)
      after) :
    (∃ module, loaded? before (fileModuleName file) = some module ∧ attempt.Reuses module ∧
      loaded? after (fileModuleName file) = some module) ∨
    loaded? before (fileModuleName file) = none ∧ attempt.Tries file ∧
      ∀ module, loaded? after (fileModuleName file) = some module ↔ attempt.Gains module := by
  cases h with
  | request hresolves =>
      cases hloaded : loaded? before (fileModuleName file) with
      | some module => exact .inl ⟨module, rfl, hresolves.reuses hloaded⟩
      | none => exact .inr ⟨rfl, hresolves.tries hloaded⟩

/-- A module that an attempt has found stays loaded. -/
theorem FileCourse.loaded?_of_found (h : FileCourse file start attempts after)
    (hattempt : attempt ∈ attempts) (hfound : attempt.found = .ok module) :
    loaded? after (fileModuleName file) = some module := by
  induction h with
  | nil => cases hattempt
  | @snoc attempts between after last h hmove ih =>
      cases last with
      | none =>
          rw [Option.toList_none, List.append_nil] at hattempt
          rw [hmove.loaded?_of_none, ih hattempt]
      | some last =>
          rw [Option.toList_some, List.mem_append, List.mem_singleton] at hattempt
          obtain ⟨kept, hbefore, hreuses, hafter⟩ | ⟨hbefore, htries, hafter⟩ :=
            hmove.attempt_cases
          · rcases hattempt with hmem | rfl
            · rw [hafter, ← hbefore, ih hmem]
            · rw [hafter, ← Except.ok.inj (hreuses.2.symm.trans hfound)]
          · rcases hattempt with hmem | rfl
            · rw [ih hmem] at hbefore
              cases hbefore
            · exact (hafter module).mpr (htries.gains hfound)

/-- After an attempt that has gained a module all attempts use that module again. -/
theorem FileCourse.pairwise (h : FileCourse file start attempts after) :
    attempts.Pairwise fun first later => ∀ module, first.Gains module → later.Reuses module := by
  induction h with
  | nil => exact List.Pairwise.nil
  | @snoc attempts between after last h hmove ih =>
      cases last with
      | none => rwa [Option.toList_none, List.append_nil]
      | some last =>
          rw [Option.toList_some, List.pairwise_append]
          refine ⟨ih, List.pairwise_singleton _ _,
            fun first hfirst later hlater module hgains => ?_⟩
          obtain rfl := List.mem_singleton.mp hlater
          have hloaded := FileCourse.loaded?_of_found h hfirst hgains.2
          obtain ⟨kept, hbefore, hreuses, _⟩ | ⟨hbefore, _⟩ := hmove.attempt_cases
          · rwa [Option.some.inj (hloaded.symm.trans hbefore)]
          · rw [hloaded] at hbefore
            cases hbefore

/-- The module that is loaded is the one that some attempt has gained. -/
theorem FileCourse.loaded?_eq_some_iff (h : FileCourse file start attempts after)
    (hnew : loaded? start (fileModuleName file) = none) (module : Module) :
    loaded? after (fileModuleName file) = some module ↔
      ∃ attempt ∈ attempts, attempt.Gains module := by
  induction h generalizing module with
  | nil => simp [hnew]
  | @snoc attempts between after attempt h hmove ih =>
      cases attempt with
      | none => rw [Option.toList_none, List.append_nil, hmove.loaded?_of_none, ih]
      | some attempt =>
          have hexists : (∃ a ∈ attempts ++ [attempt], a.Gains module) ↔
              loaded? between (fileModuleName file) = some module ∨ attempt.Gains module := by
            rw [ih]
            simp only [List.mem_append, List.mem_singleton, or_and_right, exists_or,
              exists_eq_left]
          rw [Option.toList_some, hexists]
          obtain ⟨kept, hbefore, hreuses, hafter⟩ | ⟨hbefore, _, hafter⟩ := hmove.attempt_cases
          · rw [hafter, hbefore]
            exact ⟨.inl, fun h => h.resolve_right (hreuses.not_gains module)⟩
          · rw [hafter, hbefore]
            simp

/-- An attempt tries the body unless an earlier one has gained a module. -/
theorem FileCourse.tries (h : FileCourse file start attempts after)
    (hnew : loaded? start (fileModuleName file) = none)
    (hsplit : attempts = earlier ++ attempt :: later)
    (hnone : ∀ before ∈ earlier, ∀ module, ¬before.Gains module) : attempt.Tries file := by
  induction h generalizing later with
  | nil => simp at hsplit
  | @snoc attempts between after last h hmove ih =>
      cases last with
      | none => exact ih (by simpa using hsplit)
      | some last =>
          rw [Option.toList_some] at hsplit
          rcases List.eq_nil_or_concat later with rfl | ⟨rest, final, rfl⟩
          · obtain ⟨rfl, hlast⟩ := List.append_inj' hsplit rfl
            obtain rfl : last = attempt := by simpa using hlast
            obtain ⟨module, hbefore, _⟩ | ⟨_, htries, _⟩ := hmove.attempt_cases
            · obtain ⟨before, hmem, hgains⟩ :=
                (FileCourse.loaded?_eq_some_iff h hnew module).mp hbefore
              exact absurd hgains (hnone before hmem module)
            · exact htries
          · have happend : attempts ++ [last] = (earlier ++ attempt :: rest) ++ [final] := by
              rw [hsplit, List.concat_eq_append]
              simp
            exact ih (List.append_inj' happend rfl).1

theorem FileCourse.exists_resolvesTo (h : FileCourse file start attempts after)
    (hattempt : attempt ∈ attempts) :
    ∃ (request : Request) (before : Session),
      request.ResolvesTo before file ∧ attempt = request.attempt file before := by
  induction h with
  | nil => cases hattempt
  | @snoc attempts between after last h hmove ih =>
      rcases List.mem_append.mp hattempt with hmem | hmem
      · exact ih hmem
      · rw [Option.mem_toList] at hmem
        obtain rfl : last = some attempt := hmem
        cases hmove with
        | request hresolves => exact ⟨_, between, hresolves, rfl⟩

/-- The facade that an attempt has made leads to the names of the module that is loaded. -/
theorem FileCourse.exists_exports (h : FileCourse file start attempts after)
    (hattempt : attempt ∈ attempts) {facade : Facade} (houtcome : attempt.outcome = .ok facade) :
    ∃ module, loaded? after (fileModuleName file) = some module ∧
      facade.exports = some (.names module.names true) := by
  obtain ⟨request, before, hresolves, rfl⟩ := h.exists_resolvesTo hattempt
  obtain ⟨_, _, _, _, _, _, hserves⟩ := hresolves.exists_load
  cases hfound : (request.attempt file before).found with
  | error failure =>
      rw [hserves.fails failure hfound] at houtcome
      cases houtcome
  | ok module =>
      exact ⟨module, h.loaded?_of_found hattempt hfound,
        hserves.exports module facade hfound houtcome⟩

/--
The module of a source file is loaded just when an execution of its body has succeeded for some
request, and it is the one that this execution gave. Until then each request runs the body once,
unless the source cannot even be run, and a request whose body fails does so with the failure of
loading that file. From then on no request runs the body: all use that one module, also when the
request that gained it has failed afterwards. And a facade that is made is over the module found.
-/
theorem bodies_run_until_one_succeeds (hfile : file.endsWith sourceSuffix = true)
    (hnew : loaded? start (fileModuleName file) = none)
    (hcourse : FileCourse file start attempts after) :
    (∀ module, loaded? after (fileModuleName file) = some module ↔
      ∃ attempt ∈ attempts, attempt.Gains module) ∧
    (∀ earlier attempt later, attempts = earlier ++ attempt :: later →
      (∀ before ∈ earlier, ∀ module, ¬before.Gains module) → attempt.Tries file) ∧
    (attempts.Pairwise fun first later =>
      ∀ module, first.Gains module → later.Reuses module) ∧
    ∀ attempt ∈ attempts,
      (∀ failure, attempt.found = .error failure →
        attempt.outcome = .error failure ∧ ∃ e, failure = failureOf (.bodyFailed file) e) ∧
      ∀ module facade, attempt.found = .ok module → attempt.outcome = .ok facade →
        facade.exports = some (.names module.names true) := by
  refine ⟨hcourse.loaded?_eq_some_iff hnew, fun earlier attempt later hsplit =>
    hcourse.tries hnew hsplit, hcourse.pairwise, fun attempt hattempt => ?_⟩
  obtain ⟨request, before, hresolves, rfl⟩ := hcourse.exists_resolvesTo hattempt
  obtain ⟨_, _, _, _, _, _, hserves⟩ := hresolves.exists_load
  refine ⟨fun failure hfailed => ⟨hserves.fails failure hfailed, ?_⟩, hserves.exports⟩
  exact hresolves.exists_bodyFailed (formatOf?_of_endsWith hfile) hfailed

end Courses

end

open scoped Standard

/-- The session with a file of a module, and with a variable that names the reporter. -/
def staged (session : Session) (source : ModuleSource) (reporter : String) : Session :=
  { session with
    files := ⟨[(["m.py"], .file (.source source))]⟩
    workingDirectory := "/"
    environment := [("PARAMOUNT_REPORTER", reporter)] }

/-- A request for a file by its path. -/
def requestOf (path : String) : Request :=
  ⟨path, .value (.module "host"), none, none⟩

def brokenSession : Session :=
  staged {} ⟨[], none, some boom.raised⟩ "log"

/-- The body has been mended after a request, but no reporter has the name that is given. -/
def mendedSession : Session :=
  staged ((requestOf "./m").run.on brokenSession).2 ⟨[("n", .int 1)], none, none⟩ "mail"

/-- After another request the reporter is a proper one, and the body has been broken again. -/
def brokenAgain : Session :=
  staged ((requestOf "../m").run.on mendedSession).2 ⟨[], none, some boom.raised⟩ "log"

/-- A body fails, then it succeeds in vain, and then its module is used although it would fail. -/
theorem module_outlives_failed_request :
    ∃ failed gained reused after,
      FileCourse "/m.py" brokenSession [failed, gained, reused] after ∧
      (failed.Tries "/m.py" ∧ failed.bodies = 1 ∧ failed.outcome.isOk = false) ∧
      (∃ module, gained.Gains module ∧ reused.Reuses module ∧
        loaded? after (fileModuleName "/m.py") = some module) ∧
      gained.outcome.isOk = false ∧ reused.outcome.isOk = true := by
  have hbroken : (requestOf "./m").ResolvesTo brokenSession "/m.py" :=
    ⟨none, ⟨by decide, by decide +kernel, rfl, _, rfl, rfl⟩, rfl⟩
  have hmended : (requestOf "../m").ResolvesTo mendedSession "/m.py" :=
    ⟨none, ⟨by decide, by decide +kernel, rfl, _, rfl, rfl⟩, rfl⟩
  have hagain : (requestOf "./m").ResolvesTo brokenAgain "/m.py" :=
    ⟨none, ⟨by decide, by decide +kernel, rfl, _, rfl, rfl⟩, rfl⟩
  have hother {before : Session} (source : ModuleSource) (reporter : String) :
      Move (fun request session => request.ResolvesTo session "/m.py") "/m.py" before none
        (staged before source reporter) := .other rfl
  have hcourse : FileCourse "/m.py" brokenSession
      [(requestOf "./m").attempt "/m.py" brokenSession,
        (requestOf "../m").attempt "/m.py" mendedSession,
        (requestOf "./m").attempt "/m.py" brokenAgain]
      ((requestOf "./m").run.on brokenAgain).2 :=
    ((((Course.nil.snoc (.request hbroken)).snoc (hother _ _)).snoc (.request hmended)).snoc
      (hother _ _)).snoc (.request hagain)
  have hfailed : ((requestOf "./m").attempt "/m.py" brokenSession).bodies = 1 ∧
      ((requestOf "./m").attempt "/m.py" brokenSession).outcome.isOk = false := by
    decide +kernel
  have hgained : ((requestOf "../m").attempt "/m.py" mendedSession).bodies = 1 ∧
      ((requestOf "../m").attempt "/m.py" mendedSession).found.toOption =
        some ⟨fileModuleName "/m.py", 1⟩ ∧
      ((requestOf "../m").attempt "/m.py" mendedSession).outcome.isOk = false := by
    decide +kernel
  have hreused : ((requestOf "./m").attempt "/m.py" brokenAgain).outcome.isOk = true := by
    decide +kernel
  generalize (requestOf "./m").attempt "/m.py" brokenSession = failed at *
  generalize (requestOf "../m").attempt "/m.py" mendedSession = gained at *
  generalize (requestOf "./m").attempt "/m.py" brokenAgain = reused at *
  generalize ((requestOf "./m").run.on brokenAgain).2 = after at *
  obtain ⟨hbodies, hfound, hvain⟩ := hgained
  have hgains : gained.Gains ⟨fileModuleName "/m.py", 1⟩ := by
    refine ⟨?_, eq_ok_of_toOption hfound⟩
    rw [hbodies]
    exact Nat.one_pos
  have hnew : loaded? brokenSession (fileModuleName "/m.py") = none := rfl
  obtain ⟨hkept, htries, hreuses, _⟩ :=
    bodies_run_until_one_succeeds (by decide +kernel) hnew hcourse
  refine ⟨failed, gained, reused, after, hcourse, ⟨?_, hfailed⟩, ⟨_, hgains, ?_, ?_⟩, hvain,
    hreused⟩
  · exact htries [] failed [gained, reused] rfl fun _ hmem => absurd hmem List.not_mem_nil
  · have hafterwards := (List.pairwise_cons.mp (List.pairwise_cons.mp hreuses).2).1
    exact hafterwards reused (by simp) _ hgains
  · exact (hkept _).mpr ⟨gained, by simp, hgains⟩

/-- An error about a number that is too long to be written, which has no text for that reason. -/
def withoutText : Raised :=
  ⟨"Exception", .failing Value.digitExcess⟩

def mutedSession : Session :=
  staged {} ⟨[], none, some withoutText⟩ "log"

/-- A body that fails with an error that has no text is no failure of loading its file. -/
theorem error_without_text_escapes :
    (requestOf "./m").ResolvesTo mutedSession "/m.py" ∧
      sourceAt mutedSession "/m.py" = .ok ⟨[], none, some withoutText⟩ ∧
      ((requestOf "./m").attempt "/m.py" mutedSession).outcome =
        .error (.raised Value.tooManyDigits) := by
  have hmuted : (requestOf "./m").ResolvesTo mutedSession "/m.py" :=
    ⟨none, ⟨by decide, by decide +kernel, rfl, _, rfl, rfl⟩, rfl⟩
  have hsource : sourceAt mutedSession "/m.py" = .ok ⟨[], none, some withoutText⟩ := by
    rw [sourceAt, formatOf?_of_endsWith (by decide +kernel)]
    rfl
  obtain ⟨_, _, _, _, _, _, hserves⟩ := hmuted.exists_load
  have htries : ((requestOf "./m").attempt "/m.py" mutedSession).Tries "/m.py" :=
    (hmuted.tries rfl).1
  rw [Attempt.Tries, Request.attempt, hsource] at htries
  exact ⟨hmuted, hsource, hserves.fails _ htries.2⟩

end Module

end CallGuard
