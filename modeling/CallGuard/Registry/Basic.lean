import CallGuard.Failure
import CallGuard.Registry.Builtin
import CallGuard.Table

/-!
Registries: from type tags to predicates, in the order of first registration. Overwriting a tag
keeps its place, a refused registration changes nothing, and a tag without a predicate puts no
constraint on a value.
-/

namespace CallGuard

/-- A predicate: one of a built-in type, or a value that is called. -/
inductive Predicate
  | builtin (type : BuiltinType)
  | custom (v : Value)
  deriving Inhabited

def Predicate.isCallable : Predicate → Bool
  | .builtin _ => true
  | .custom v => v.isCallable

/-- A registry: the predicates of its tags. -/
structure Registry where
  entries : Table Predicate
  deriving Inhabited

namespace Registry

def builtin : Registry :=
  ⟨BuiltinType.all.map fun type => (type.tag, .builtin type)⟩

/-- The tags of a registry in order. -/
def tags (registry : Registry) : List String :=
  Table.names registry.entries

def get? (registry : Registry) (tag : String) : Option Predicate :=
  Table.get? registry.entries tag

/-- Sets the predicate of a tag: a known tag keeps its place. -/
def set (registry : Registry) (tag : String) (predicate : Predicate) : Registry :=
  ⟨Table.put registry.entries tag predicate⟩

/-- The registry of a list of pairs: the first of equal tags keeps its place, the last one wins. -/
def ofList (pairs : List (String × Predicate)) : Registry :=
  ⟨Table.ofList pairs⟩

/-- The text of a value that can be a tag: it must not be empty. -/
def tagOf? : Value → Option String
  | .text s => if s.isEmpty then none else some s
  | _ => none

variable [Platform]

/--
Registers a predicate for a tag, if the tag is a text that is not empty and the predicate can be
called; the tag is looked at first.
-/
def register (registry : Registry) (tag : Value) (predicate : Predicate) :
    Except Failure (String × Registry) :=
  match tagOf? tag with
  | none =>
    match tag.written with
    | .ok written => .error (.configuration (.badTag written))
    | .error e => .error (.raised e)
  | some name =>
    if predicate.isCallable then .ok (name, registry.set name predicate)
    else .error (.configuration (.badPredicate name))

end Registry

end CallGuard
