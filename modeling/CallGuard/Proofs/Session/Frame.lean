import CallGuard.Gate.Operations
import CallGuard.Proofs.Session.Operation

/-!
# What calls leave alone

Running a callable records the call and nothing else, and logging only adds to the journal. So
checks, reports and whole passes through a gate leave the registries, the namespaces, the facades
and what callables do as they were. What a session may still have to find out on the way is which
reporter its settings choose.
-/

namespace CallGuard

namespace Session

/-- The stores of a session stay as they are: behaviours, registries, namespaces and facades. -/
structure SameStores (before after : Session) : Prop where
  behaviour : after.behaviour = before.behaviour
  sharedRegistry : after.sharedRegistry = before.sharedRegistry
  registries : after.registries = before.registries
  namespaces : after.namespaces = before.namespaces
  facades : after.facades = before.facades

/-- Nothing but the settings, the variables, the calls made and the journal changes. -/
structure Configured (before after : Session) : Prop extends SameStores before after where
  reporter : after.reporter = before.reporter
  files : after.files = before.files
  workingDirectory : after.workingDirectory = before.workingDirectory

/-- Nothing but the calls made and the journal changes. -/
structure Quiet (before after : Session) : Prop extends Configured before after where
  settings : after.settings = before.settings
  loads : after.loads = before.loads
  environment : after.environment = before.environment

instance : Lasting SameStores where
  refl _ := ⟨rfl, rfl, rfl, rfl, rfl⟩
  trans first second :=
    ⟨second.behaviour.trans first.behaviour, second.sharedRegistry.trans first.sharedRegistry,
      second.registries.trans first.registries, second.namespaces.trans first.namespaces,
      second.facades.trans first.facades⟩

instance : Lasting Configured where
  refl session := ⟨Lasting.refl session, rfl, rfl, rfl⟩
  trans first second :=
    ⟨Lasting.trans first.toSameStores second.toSameStores, second.reporter.trans first.reporter,
      second.files.trans first.files, second.workingDirectory.trans first.workingDirectory⟩

instance : Lasting Quiet where
  refl session := ⟨Lasting.refl session, rfl, rfl, rfl⟩
  trans first second :=
    ⟨Lasting.trans first.toConfigured second.toConfigured, second.settings.trans first.settings,
      second.loads.trans first.loads, second.environment.trans first.environment⟩

namespace SameStores

variable {before after : Session}

theorem registry (h : SameStores before after) (place : Option RegistryId) :
    after.registry place = before.registry place := by
  cases place with
  | none => exact h.sharedRegistry
  | some place => simp only [Session.registry, h.registries]

theorem namespaceAt (h : SameStores before after) (place : NamespaceId) :
    after.namespaceAt place = before.namespaceAt place := by
  simp only [Session.namespaceAt, h.namespaces]

end SameStores

end Session

open Session

/-! ### Logging and calls -/

namespace Session

variable [Platform]

def recording (session : Session) (entry : Log.Record) : Session :=
  { session with journal := session.journal.add entry }

/-- A lasting relation between sessions that calls and records do not end. -/
class AllowsCalls (R : Session → Session → Prop) : Prop extends Lasting R where
  call : ∀ (session : Session) (invocation : Invocation),
    R session { session with invocations := invocation :: session.invocations }
  record : ∀ (session : Session) (entry : Log.Record), R session (session.recording entry)

theorem quiet_recording (session : Session) (entry : Log.Record) :
    session.Quiet (session.recording entry) :=
  ⟨⟨⟨rfl, rfl, rfl, rfl, rfl⟩, rfl, rfl, rfl⟩, rfl, rfl, rfl⟩

instance : AllowsCalls Quiet where
  call _ _ := ⟨⟨⟨rfl, rfl, rfl, rfl, rfl⟩, rfl, rfl, rfl⟩, rfl, rfl, rfl⟩
  record := quiet_recording

instance : AllowsCalls Configured where
  call session invocation :=
    ((inferInstance : AllowsCalls Quiet).call session invocation).toConfigured
  record session entry := (session.quiet_recording entry).toConfigured

instance : AllowsCalls SameStores where
  call session invocation :=
    ((inferInstance : AllowsCalls Quiet).call session invocation).toSameStores
  record session entry := (session.quiet_recording entry).toSameStores

end Session

theorem Callable.on_refuse (c : Callable) (arguments : Arguments) (e : Raised) (session : Session) :
    (c.refuse arguments e).on session =
      (.error (.raised e),
        { session with invocations := ⟨c.id, arguments⟩ :: session.invocations }) := rfl

theorem Callable.on_run (c : Callable) (arguments : Arguments) (session : Session) :
    (c.run arguments).on session =
      (match session.behaviour c.id session.invocations arguments with
        | .ok v => .ok v
        | .error e => .error (.raised e),
        { session with invocations := ⟨c.id, arguments⟩ :: session.invocations }) := by
  rw [Callable.run, Run.on_bind_of_ok (Run.on_get session), Run.on_bind_of_ok (Run.on_set _ _)]
  cases session.behaviour c.id session.invocations arguments with
  | ok v => rfl
  | error e => rfl

variable [Platform]

theorem Run.on_log (site : Log.Site) (severity : Int) (message : String) (extra : Table Value)
    (session : Session) :
    (Run.log site severity message extra).on session =
      (.ok (), session.recording (site.record severity message extra)) := rfl

/-- The error of calling a callable that suspends with arguments that do not fit. -/
def Callable.misfit? (c : Callable) (arguments : Arguments) : Option Raised :=
  if c.suspends then
    match Platform.binds c arguments with
    | .ok _ => none
    | .error e => some e
  else none

/-- A call runs the callable or suspends, unless the arguments do not fit. -/
theorem Callable.on_call (c : Callable) (arguments : Arguments) (session : Session) :
    ((Value.callable c).call arguments).on session =
      match c.misfit? arguments with
      | some e => (c.refuse arguments e).on session
      | none =>
        if c.suspends then (.ok (.suspended c arguments.positional arguments.named), session)
        else (c.run arguments).on session := by
  rw [Value.call, Callable.misfit?]
  cases c.suspends with
  | false => rfl
  | true =>
      simp only [if_true]
      cases Platform.binds c arguments with
      | ok _ => rfl
      | error e => rfl

section AllowsCalls

variable {R : Session → Session → Prop} [AllowsCalls R]

theorem Run.record_keeps (entry : Log.Record) : (Run.record entry).Keeps R :=
  fun session => AllowsCalls.record session entry

theorem Run.log_keeps (site : Log.Site) (severity : Int) (message : String)
    (extra : Table Value) : (Run.log site severity message extra).Keeps R :=
  record_keeps _

theorem Callable.run_keeps (c : Callable) (arguments : Arguments) :
    (c.run arguments).Keeps R := by
  intro session
  rw [Callable.on_run]
  exact AllowsCalls.call session ⟨c.id, arguments⟩

theorem Callable.refuse_keeps (c : Callable) (arguments : Arguments) (e : Raised) :
    (c.refuse arguments e).Keeps R :=
  fun session => AllowsCalls.call session ⟨c.id, arguments⟩

namespace Value

theorem call_keeps (v : Value) (arguments : Arguments) : (v.call arguments).Keeps R := by
  cases v with
  | callable c =>
      rw [call]
      split
      · split
        · exact Run.Keeps.pure _
        · exact c.refuse_keeps arguments _
      · exact c.run_keeps arguments
  | _ => exact Run.Keeps.raise _

theorem callAttribute_keeps (v : Value) (name : String) (arguments : List Value) :
    (v.callAttribute name arguments).Keeps R := by
  refine (Run.Keeps.ofExcept _).bind fun held => ?_
  cases held with
  | none => exact Run.Keeps.raise _
  | some held => exact held.call_keeps _

theorem await_keeps (v : Value) : v.await.Keeps R := by
  cases v with
  | suspended c positional named => exact (c.run_keeps _).resumed
  | _ => exact Run.Keeps.raise _

end Value

end AllowsCalls

/-! ### Checks and reports -/

theorem Predicate.answer_keeps (predicate : Predicate) (v : Value) :
    (predicate.answer v).Keeps Quiet := by
  cases predicate with
  | builtin type => exact Run.Keeps.pure _
  | custom p => exact (p.call_keeps _).bind fun answer => Run.Keeps.pure _

theorem Registry.checkIn_keeps (place : Option RegistryId) (tag : String) (v : Value) :
    (Registry.checkIn place tag v).Keeps Quiet := by
  refine Run.Keeps.get.bind fun session => ?_
  split
  · exact Run.Keeps.pure _
  · exact Predicate.answer_keeps _ v

theorem Reporter.report_keeps (reporter : Reporter) (violation : Violation) :
    (reporter.report violation).Keeps Quiet := by
  cases reporter with
  | raising =>
      exact (Run.Keeps.ofExcept _).bind fun written => Run.Keeps.throw _
  | logging =>
      refine (Run.Keeps.ofExcept _).bind fun written => ?_
      exact (Run.log_keeps _ _ _ _).bind fun _ => Run.Keeps.pure _
  | custom v => exact v.call_keeps _

/-! ### The reporter that the settings choose -/

/-- A lasting relation between sessions that loads of the settings do not end either. -/
class Session.AllowsLoads (R : Session → Session → Prop) : Prop extends AllowsCalls R where
  environment : ∀ (session : Session) (environment : Config.Environment),
    R session { session with environment }
  settings : ∀ (session : Session) (settings : Option LoadedSettings) (loads : Nat),
    R session { session with settings, loads }

instance : AllowsLoads Configured where
  environment _ _ := ⟨⟨rfl, rfl, rfl, rfl, rfl⟩, rfl, rfl, rfl⟩
  settings _ _ _ := ⟨⟨rfl, rfl, rfl, rfl, rfl⟩, rfl, rfl, rfl⟩

namespace Config

variable {R : Session → Session → Prop} [AllowsLoads R]

theorem refuseFile_keeps (path : String) (cause : Cause) : (refuseFile path cause).Keeps R :=
  (Run.log_keeps _ _ _ _).bind fun _ => Run.Keeps.throw _

theorem layOver_keeps (path : String) (bindings : List Binding) :
    (layOver path bindings).Keeps R := by
  refine Run.Keeps.get.bind fun session => ?_
  refine Run.Keeps.bind (fun session => AllowsLoads.environment session _) fun _ => ?_
  split
  · exact Run.Keeps.pure _
  · exact refuseFile_keeps path _

theorem loadFile_keeps (path : String) : (loadFile path).Keeps R := by
  refine Run.Keeps.get.bind fun session => ?_
  split
  · exact Run.Keeps.raise _
  · split
    · refine (Run.log_keeps _ _ _ _).bind fun _ => ?_
      split
      · exact refuseFile_keeps path _
      · exact layOver_keeps path _
    · exact Run.log_keeps _ _ _ _

theorem readSettings_keeps : readSettings.Keeps R := by
  refine Run.Keeps.get.bind fun session => ?_
  split
  · exact (Run.log_keeps _ _ _ _).bind fun _ => Run.Keeps.throw _
  · refine Run.Keeps.bind (fun session => AllowsLoads.settings session _ _) fun _ => ?_
    exact (Run.log_keeps _ _ _ _).bind fun _ => Run.Keeps.pure _

theorem reload_keeps (file : Option String) : (reload file).Keeps R :=
  Run.Keeps.get.bind fun _ => (loadFile_keeps _).bind fun _ => readSettings_keeps

theorem load_keeps (file : Option String) : (load file).Keeps R := by
  refine Run.Keeps.get.bind fun session => ?_
  split
  · exact Run.Keeps.pure _
  · exact reload_keeps file

theorem current_keeps : current.Keeps R :=
  (load_keeps none).bind fun _ => Run.Keeps.pure _

end Config

theorem Reporter.current_keeps : Reporter.current.Keeps SameStores := by
  refine Run.Keeps.get.bind fun session => ?_
  split
  · exact Run.Keeps.pure _
  · refine Run.Keeps.bind ?_ fun _ => ?_
    · have hsettings : Config.current.Keeps Configured := Config.current_keeps
      refine (hsettings.mono fun _ _ h => h.toSameStores).bind fun settings => ?_
      exact (Run.log_keeps _ _ _ _).bind fun _ => Run.Keeps.pure _
    · exact Run.Keeps.bind (fun _ => ⟨rfl, rfl, rfl, rfl, rfl⟩) fun _ => Run.Keeps.pure _

end CallGuard
