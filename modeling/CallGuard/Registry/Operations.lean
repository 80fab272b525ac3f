import CallGuard.Session.Calls
import CallGuard.Value.Key

/-!
The registries of a session: registering, checking a value, asking for a tag, and going back to the
built-in types. A check looks the tag up at the moment it is made.
-/

namespace CallGuard.Registry

def site : Log.Site := ⟨"registry", "registry", "register"⟩

/-- The predicate that constrains values under a tag; an empty one does not constrain. -/
def constraint? (registry : Registry) (tag : String) : Option Predicate :=
  match registry.get? tag with
  | some (.custom .null) => none
  | found => found

def create (registry : Registry) : Run RegistryId := do
  let session ← get
  modify fun session => { session with registries := session.registries.push registry }
  pure session.registries.size

variable [Platform]

/-- Registers a predicate for a tag in a registry of the session. -/
def registerIn (place : Option RegistryId) (tag : Value) (predicate : Predicate) : Run Unit := do
  let session ← get
  let registry := session.registry place
  match registry.register tag predicate with
  | .error failure => throw failure
  | .ok (name, updated) =>
    modify fun session => session.setRegistry place updated
    Run.log site debugSeverity ("Registered validator for type " ++ name)
      [("type_tag", .text name), ("replaced", .bool (registry.get? name).isSome)]

/-- Goes back to the built-in types in a registry of the session. -/
def resetIn (place : Option RegistryId) : Run Unit :=
  modify fun session => session.setRegistry place .builtin

def checkIn (place : Option RegistryId) (tag : String) (v : Value) : Run Bool := do
  let session ← get
  match (session.registry place).constraint? tag with
  | none => pure true
  | some predicate => predicate.answer v

/-- Checks a value against a value as a tag; one that is no text is never known. -/
def checkTag (place : Option RegistryId) (tag v : Value) : Run Bool :=
  match tag.keyFault? with
  | some e => Run.raise e
  | none =>
    match tag with
    | .text name => checkIn place name v
    | _ => pure true

/-- What a registry knows about a value as a tag: whether it is there, and has a predicate. -/
def inquire (registry : Registry) (tag : Value) : Except Raised (Bool × Bool) :=
  match tag.keyFault? with
  | some e => .error e
  | none =>
    match tag with
    | .text name => .ok ((registry.get? name).isSome, (registry.constraint? name).isSome)
    | _ => .ok (false, false)

end CallGuard.Registry
