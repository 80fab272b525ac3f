import CallGuard.Session.Calls

/-!
The attributes of a module: what belongs to it as a module, then the names of its namespace, then
what every module has. A module can define what answers for all other names; without it a name that
is missing raises an error.
-/

namespace CallGuard

namespace Namespace

def ownName : String := "__name__"

def ownFile : String := "__file__"

/-- The attribute that holds the package that anchors the relative imports of a module. -/
def ownPackage : String := "__package__"

/-- The attribute that holds the directories in which the submodules of a package lie. -/
def ownPath : String := "__path__"

def ownOrigin : String := "__spec__"

def exportList : String := "__all__"

def fallback : String := "__getattr__"

/-- The attribute that holds the annotations of a module, which are made when they are asked for. -/
def ownAnnotations : String := "__annotations__"

/-- The names that every module has without defining them; none of them has parameter lines. -/
def inheritedNames : List String :=
  [ownAnnotations, "__class__", "__delattr__", "__dict__", "__dir__", "__doc__", "__eq__",
    "__format__", "__ge__", "__getattribute__", "__getstate__", "__gt__", "__hash__", "__init__",
    "__init_subclass__", "__le__", "__lt__", "__ne__", "__new__", "__reduce__", "__reduce_ex__",
    "__repr__", "__setattr__", "__sizeof__", "__str__", "__subclasshook__"]

/-- The names that stand for the module itself, whatever its namespace holds under them. -/
def reservedNames : List String :=
  ["__class__", "__dict__"]

/-- The error of asking a module for a name that it does not have; it can lack its own name. -/
def missing (names : Namespace) (name : String) : Raised :=
  match Table.get? names ownName with
  | some (.text title) => (Value.module title).noAttribute name
  | _ => ⟨"AttributeError", "module has no attribute '" ++ name ++ "'"⟩

variable [Platform]

def read (names : Namespace) (name : String) : Run Value :=
  let defined := if reservedNames.contains name then none else Table.get? names name
  match defined with
  | some v => pure v
  | none =>
    if inheritedNames.contains name then pure (.described "method" name)
    else
      match Table.get? names fallback with
      | some v => v.call ⟨[.text name], []⟩
      | none => Run.raise (missing names name)

/-- The value of an attribute of a module, if it has it. -/
def read? (names : Namespace) (name : String) : Run (Option Value) :=
  Run.unlessMissing (read names name)

end Namespace

end CallGuard
