import CallGuard.Module.Require
import CallGuard.Proofs.Session.Operation
import CallGuard.Standard.Platform

/-!
# How modules fail to be loaded

A module that is required may not be there, or its body may fail. Loading by the path of a file
turns both into the failure of loading a module, whatever the kind of the error of the body is.
Loading by a name does so for a module that is not there, wherever it is missed on the way. But it
lets an error of a body pass unless its kind is one of those of imports. An error has to have a text
to become a failure of loading; asking for the text of one that has none fails with another error.
-/

namespace CallGuard.Module

open CallGuard.Files

/-! ### Errors that become failures of loading -/

/-- What comes of an error that is to become a failure of loading: only one with a text does. -/
def failureOf (fault : Cause → LoadFault) (e : Raised) : Failure :=
  match e.told with
  | .ok cause => .load (fault cause)
  | .error other => .raised other

/-- A module is loaded from a session unless an error keeps it from being so. -/
def Loads (error? : Option Raised) (operation : Run Module) (session : Session) : Prop :=
  (∃ e after, error? = some e ∧ operation.on session = (.error (.raised e), after)) ∨
    ∃ module after, error? = none ∧ operation.on session = (.ok module, after)

section Loads

variable {error? : Option Raised} {operation : Run Module} {session after : Session}
  {failure : Failure} {e : Raised}

theorem Loads.exists_on (h : Loads error? operation session) (he : error? = some e) :
    ∃ after, operation.on session = (.error (.raised e), after) := by
  obtain ⟨found, after, hfound, hrun⟩ | ⟨_, _, hnone, _⟩ := h
  · cases hfound.symm.trans he
    exact ⟨after, hrun⟩
  · cases hnone.symm.trans he

end Loads

/-- A name from its parts, of which those before the last one come in reverse. -/
def dotted (before : List String) (part : String) : String :=
  ".".intercalate (before.reverse ++ [part])

section Finding

variable {session after : Session} {name part : String} {path marker : Value} {reason : Reason}
  {failure : Failure}

end Finding

section

variable [Platform]

section Importing

variable {session after : Session} {name part : String} {before parts : List String}
  {path marker : Value} {reason : Reason} {failure : Failure}

end Importing

/-! ### Importing by a name -/

/-- How a failure of importing comes out: only errors of some kinds become failures of loading. -/
def reported (path : String) (package : Value) : Failure → Failure
  | .raised e =>
    if importErrorKinds.contains e.kind then failureOf (.importFailed path package) e else .raised e
  | failure => failure

section Names

variable {session after : Session} {path : String} {package : Value} {reason : Reason}
  {failure : Failure} {parts : List String} {e : Raised}

end Names

/-! ### Loading by the path of a file -/

/-- A path leads to the place of a file, seen from a directory, whether there is a file or not. -/
structure LeadsTo (session : Session) (directory : Directory) (path file : String) : Prop where
  isPath : isFilePath path = true
  place : ∃ start, startOf directory path = .ok start ∧
    fileFor session.files session.workingDirectory
      (candidate session.workingDirectory start path) = file

/-- A file of a module that is not loaded, and what is in it. -/
structure Loadable (session : Session) (file : String) (format : Format) (content : Content) :
    Prop where
  content? : session.files.content? session.workingDirectory file = some content
  isNew : loaded? session (fileModuleName file) = none
  format? : formatOf? file = some format
  linked : format ≠ .extension

section Paths

variable {session after : Session} {anchors : Anchors} {path file : String} {format : Format}
  {content : Content} {failure : Failure} {e : Raised}

theorem LeadsTo.on_load (h : LeadsTo session anchors.directory path file)
    (hfile : session.files.isFile session.workingDirectory file = true) :
    (load path anchors).on session = (loadFile file).on session := by
  obtain ⟨start, hstart, rfl⟩ := h.place
  rw [load, if_pos h.isPath, Run.on_bind_of_ok (Run.on_get session), hstart,
    Run.on_bind_of_ok (Run.on_ofExcept_ok start session), resolveFile]
  rw [hfile]
  rfl

theorem Loadable.on_loadFile (h : Loadable session file format content) :
    (loadFile file).on session = (runBody file format content).on session := by
  rw [loadFile, Run.on_bind_of_ok (Run.on_get session), h.isNew, h.format?, h.content?]
  cases format with
  | extension => exact absurd rfl h.linked
  | _ => rfl

end Paths

/-! ### Requiring a module -/

section Requiring

variable {host : Host} {anchors : Anchors} {session located after : Session} {path : String}
  {failure : Failure}

/-- Goes on with a module that was found: it is logged and wrapped in a facade. -/
def handOver (module : Module) (path : String) (registry : Option RegistryId)
    (reporter : Option Reporter) : Run FacadeId := do
  let name ← Namespace.read (← module.namesOf) Namespace.ownName
  logNamed requireSite name (fun shown => "Loaded module " ++ shown ++ " for validation")
    [("path", .text path)]
  module.wrap registry reporter

/-- A request that is accepted loads a module and goes on with it. -/
theorem on_require (hpath : path ≠ "") (hhost : host.isGiven = true)
    (hanchors : (anchorsOf host).on session = (.ok anchors, located))
    (registry : Option RegistryId) (reporter : Option Reporter) :
    (require (.text path) host registry reporter).on session =
      (load path anchors >>= fun module => module.handOver path registry reporter).on located := by
  have htruthy : (Value.text path).truthy = true := by
    rw [Value.truthy, Bool.not_eq_true', Bool.eq_false_iff, Ne, String.isEmpty_iff]
    exact hpath
  rw [require, htruthy, hhost]
  exact Run.on_bind_of_ok hanchors _

end Requiring

end

open scoped Standard

/-- The error of a body that is none of those of imports. -/
def boom : Cause :=
  ⟨"ValueError", "boom"⟩

end CallGuard.Module
