import CallGuard.Callable.Signature
import CallGuard.Facade.Basic

/-!
The parts that a facade has because of its type. Plain parts hold a value, the others can be called:
parts that the type of facades defines take named arguments, and those that every object has take
arguments by position alone. A facade that is given another type has only the latter.
-/

namespace CallGuard.Facade

def typeName : String := "ModuleFacade"

def home : String := "paramount.facade"

def typeDoc : String :=
  "Per-module wrapper exposing validated entry points over the original exports."

/-- How a part is used: it holds a value, or takes arguments in one of several ways. -/
inductive Shape
  | plain
  | method (signature : Signature)
  | operator (operands : Option Nat) (doc : String)
  | native (operands : Option Nat) (doc : String)
  | type
  deriving DecidableEq, Repr, Inhabited

def makerSymbol : String := reservedFront ++ "make_delegate"

def signatureOf (name : String) (required optional : List String) : Signature :=
  .ofMethod (typeName ++ "." ++ name) required optional

def makingSignature : Signature :=
  signatureOf "__init__" ["exports", "gates"] ["name"]

/-- The documentation that a part of every object shares with its like on types. -/
def subclassDoc : String :=
  "This method is called when a class is subclassed.\n\n" ++
    "The default implementation does nothing. It may be\noverridden to extend subclasses.\n"

/-- The documentation of the test whether a type counts as a subtype. -/
def subtypeDoc : String :=
  "Abstract classes can override this to customize issubclass().\n\n" ++
    "This is invoked early on by abc.ABCMeta.__subclasscheck__().\n" ++
    "It should return True, False or NotImplemented.  If it returns\n" ++
    "NotImplemented, the normal algorithm is used.  Otherwise, it\n" ++
    "overrides the normal algorithm (and the outcome is cached).\n"

def definedShapes : Table Shape :=
  [(makerSymbol, .method (signatureOf "__make_delegate" ["symbol", "gate"] [])),
    ("__init__", .method makingSignature),
    ("__getattr__", .method (signatureOf "__getattr__" ["symbol"] [])),
    ("__getitem__", .method (signatureOf "__getitem__" ["symbol"] [])),
    ("__dir__", .method (signatureOf "__dir__" [] [])),
    ("__repr__", .method (signatureOf "__repr__" [] []))]

def commonShapes : Table Shape :=
  [("__dict__", .plain), ("__doc__", .plain), ("__module__", .plain), ("__weakref__", .plain),
    ("__init__", .operator none "Initialize self.  See help(type(self)) for accurate signature."),
    ("__repr__", .operator (some 0) "Return repr(self)."),
    ("__str__", .operator (some 0) "Return str(self)."),
    ("__hash__", .operator (some 0) "Return hash(self)."),
    ("__eq__", .operator (some 1) "Return self==value."),
    ("__ne__", .operator (some 1) "Return self!=value."),
    ("__lt__", .operator (some 1) "Return self<value."),
    ("__le__", .operator (some 1) "Return self<=value."),
    ("__gt__", .operator (some 1) "Return self>value."),
    ("__ge__", .operator (some 1) "Return self>=value."),
    ("__getattribute__", .operator (some 1) "Return getattr(self, name)."),
    ("__setattr__", .operator (some 2) "Implement setattr(self, name, value)."),
    ("__delattr__", .operator (some 1) "Implement delattr(self, name)."),
    ("__dir__", .native (some 0) "Default dir() implementation."),
    ("__format__", .native (some 1) "Default object formatter."),
    ("__reduce__", .native (some 0) "Helper for pickle."),
    ("__reduce_ex__", .native (some 1) "Helper for pickle."),
    ("__getstate__", .native (some 0) "Helper for pickle."),
    ("__sizeof__", .native (some 0) "Size of object in memory, in bytes."),
    ("__init_subclass__", .native (some 0) subclassDoc),
    ("__subclasshook__", .native none subtypeDoc),
    ("__new__", .native none
      "Create and return a new object.  See help(type) for accurate signature."),
    ("__class__", .type)]

/-- The parts of a facade by its type; what the type of facades defines comes first. -/
def shapes (facade : Facade) : Table Shape :=
  match facade.type with
  | none => definedShapes ++ commonShapes
  | some _ => commonShapes

def shape? (facade : Facade) (symbol : String) : Option Shape :=
  Table.get? facade.shapes symbol

def leadingParts : List String := ["__class__", "__dict__", "__weakref__"]

def ownTypeName (facade : Facade) : String :=
  match facade.type with
  | none => typeName
  | some c => c.name

def fullTypeName (facade : Facade) : String :=
  match facade.type with
  | none => home ++ "." ++ typeName
  | some c => c.owner ++ "." ++ c.name

def typeValue (facade : Facade) : Value :=
  match facade.type with
  | none => .described "type" ("<class '" ++ facade.fullTypeName ++ "'>")
  | some c => .callable c

def ownTypeDoc (facade : Facade) : Option String :=
  match facade.type with
  | none => some typeDoc
  | some c => c.doc

def ownHome (facade : Facade) : String :=
  match facade.type with
  | none => home
  | some c => c.owner

def methodName (symbol : String) : String :=
  if symbol = makerSymbol then "__make_delegate" else symbol

def isKept (symbol : String) : Shape → Bool
  | .plain | .type => true
  | .native .. => symbol == "__new__"
  | _ => false

def incomparable : Value :=
  .described "NotImplementedType" "NotImplemented"

end CallGuard.Facade
