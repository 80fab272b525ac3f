import CallGuard.Config.Environment
import CallGuard.Config.Settings
import CallGuard.Facade.Basic
import CallGuard.Files.Tree
import CallGuard.Log.Journal
import CallGuard.Registry.Basic

/-!
A session: everything that the operations of the library share and change. It holds what callables
do and which calls have been made, the registries, the current reporter, the settings, the files and
loaded modules, and the journal. An operation is a step on a session that may fail; what it has
changed before it fails stays changed.
-/

namespace CallGuard

open CallGuard.Config CallGuard.Files CallGuard.Log

/-- A call that ran: what was called and with which arguments. -/
structure Invocation where
  callee : CallableId
  arguments : Arguments
  deriving Inhabited

/--
What a callable does, in the light of the calls made before: it returns a value or raises. It does
not use the session: called code that registers, sets, rebinds or calls anything of the library
before it returns is left out.
-/
abbrev Behaviour := List Invocation → Arguments → Except Raised Value

/--
A loaded module: the name that it is loaded under, and the place of its namespace, which tells all
else about it.
-/
structure Module where
  name : String
  names : NamespaceId
  deriving DecidableEq, Repr, Inhabited

/-- The settings in force, and how many loads of settings came before. -/
structure LoadedSettings where
  settings : Settings
  serial : Nat
  deriving DecidableEq, Repr, Inhabited

/--
A session. Behaviours are kept by the identity of a callable, and calls newest first. There is one
shared registry; further ones and all namespaces are kept by their places, and loaded modules by the
names that they are loaded under.
-/
structure Session where
  behaviour : CallableId → Behaviour := fun _ _ _ => .ok .null
  definitions : Nat := 0
  copies : Nat := 0
  invocations : List Invocation := []
  sharedRegistry : Registry := .builtin
  registries : Array Registry := #[]
  reporter : Option Reporter := none
  settings : Option LoadedSettings := none
  loads : Nat := 0
  environment : Environment := []
  files : Tree := ⟨[]⟩
  workingDirectory : String := "/"
  modules : List (String × Module) := []
  namespaces : Array Namespace := #[]
  facades : Array Facade := #[]
  journal : Journal := {}
  deriving Inhabited

namespace Session

/-- Adds a definition of a callable by what it does, whichever copy of it is called. -/
def define (session : Session) (behaviour : CallableId → Behaviour) : CallableId × Session :=
  (⟨session.definitions, 0⟩,
    { session with
      behaviour := fun callee =>
        if callee.definition = session.definitions then behaviour callee
        else session.behaviour callee
      definitions := session.definitions + 1 })

/-- The registry at a place: without one, the shared registry. -/
def registry (session : Session) : Option RegistryId → Registry
  | none => session.sharedRegistry
  | some place => session.registries[place]?.getD .builtin

def setRegistry (session : Session) (place : Option RegistryId) (registry : Registry) : Session :=
  match place with
  | none => { session with sharedRegistry := registry }
  | some place => { session with registries := session.registries.setIfInBounds place registry }

def namespaceAt (session : Session) (place : NamespaceId) : Namespace :=
  session.namespaces[place]?.getD []

def setNamespace (session : Session) (place : NamespaceId) (names : Namespace) : Session :=
  { session with namespaces := session.namespaces.setIfInBounds place names }

def addNamespace (session : Session) (names : Namespace) : NamespaceId × Session :=
  (session.namespaces.size, { session with namespaces := session.namespaces.push names })

def addFacade (session : Session) (facade : Facade) : FacadeId × Session :=
  (session.facades.size, { session with facades := session.facades.push facade })

def facadeAt (session : Session) (place : FacadeId) : Facade :=
  session.facades[place]?.getD default

def setFacade (session : Session) (place : FacadeId) (facade : Facade) : Session :=
  { session with facades := session.facades.setIfInBounds place facade }

def invocationsOf (session : Session) (callee : CallableId) : List Invocation :=
  session.invocations.filter fun call => call.callee = callee

end Session

/-- An operation on a session that may fail. -/
abbrev Run := ExceptT Failure (StateM Session)

namespace Run

def on {α : Type} (operation : Run α) (session : Session) : Except Failure α × Session :=
  (ExceptT.run operation).run session

def raise {α : Type} (e : Raised) : Run α :=
  throw (.raised e)

def ofExcept {α : Type} : Except Raised α → Run α
  | .ok a => pure a
  | .error e => raise e

variable [Platform]

def record (entry : Record) : Run Unit :=
  modify fun session => { session with journal := session.journal.add entry }

def log (site : Site) (severity : Int) (message : String) (extra : Table Value) :
    Run Unit :=
  record (site.record severity message extra)

end Run

def debugSeverity : Int := 10

def infoSeverity : Int := 20

def warningSeverity : Int := 30

def errorSeverity : Int := 40

end CallGuard
