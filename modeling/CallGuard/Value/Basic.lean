import CallGuard.Text.Quoted
import CallGuard.Number.Decimal

/-!
The values that guarded functions take and return. A callable is known by its identity and by what
can be asked of it without calling it; what a call does is kept apart, in the world that runs it.
-/

namespace CallGuard

open CallGuard.Number

/-- The forms in which something callable can come. -/
inductive CallableKind
  | function
  | builtin
  | method
  | classObject
  | object
  | application
  deriving DecidableEq, Repr, Inhabited

/-- The identity of a callable: where it is defined, and which copy of that definition it is. -/
structure CallableId where
  definition : Nat
  copy : Nat
  deriving DecidableEq, Repr, Inhabited

/--
A callable: its owner is the class of a method or the home of a class, and calling it may only
suspend. Its documentation may be its own or inherited; it can always be read, and what is there but
is no text counts as none.
-/
structure Callable where
  id : CallableId
  kind : CallableKind
  name : String
  owner : String
  doc : Option String
  inheritedDoc : Option String
  suspends : Bool
  deriving DecidableEq, Repr, Inhabited

/-- An error whose text is known. -/
structure Cause where
  kind : String
  text : String
  deriving DecidableEq, Repr, Inhabited

/-- What asking an error for its text gives: the text, or another error. -/
inductive Wording
  | known (text : String)
  | failing (e : Cause)
  deriving DecidableEq, Repr, Inhabited

instance : Coe String Wording := ⟨.known⟩

/-- An error raised by called code or by an operation on values: its kind and its text. -/
structure Raised where
  kind : String
  text : Wording
  deriving DecidableEq, Repr, Inhabited

/-- An error whose text is known, as one that is raised. -/
def Cause.raised (e : Cause) : Raised := ⟨e.kind, e.text⟩

namespace Raised

/-- The error of a kind about a text: a key error shows its key in quotes. -/
def about (kind topic : String) : Raised :=
  ⟨kind, if kind = "KeyError" then Text.quoted topic else topic⟩

/-- The error with its text, or the error of asking for that. -/
def told (e : Raised) : Except Raised Cause :=
  match e.text with
  | .known text => .ok ⟨e.kind, text⟩
  | .failing other => .error other.raised

end Raised

/--
A value. Entries of a mapping and fields of a record keep their order. Of any other value only its
type and its written form are known.
-/
inductive Value
  | null
  | bool (b : Bool)
  | int (n : Int)
  | float (x : Binary64)
  | decimal (d : Decimal)
  | fraction (num : Int) (den : Nat)
  | complex (re im : Binary64)
  | text (s : String)
  | bytes (bs : List UInt8)
  | byteArray (bs : List UInt8)
  | list (items : List Value)
  | tuple (items : List Value)
  | deque (items : List Value)
  | set (items : List Value)
  | range (start stop step : Int)
  | mapping (entries : List (Value × Value))
  | view (entries : List (Value × Value))
  | record (type : String) (fields : List (String × Value))
  | object (type : String) (attributes : List (String × Value)) (raising : List (String × Raised))
  | callable (c : Callable)
  | module (name : String)
  | suspended (c : Callable) (positional : List Value) (named : List (String × Value))
  | described (type written : String)
  deriving Inhabited

/-- The arguments of a call: by position and by name. -/
structure Arguments where
  positional : List Value := []
  named : List (String × Value) := []
  deriving Inhabited

/-- The kind of the error of asking for an attribute that is missing. -/
def attributeErrorKind : String := "AttributeError"

namespace Value

def ofText? : Option String → Value
  | some s => .text s
  | none => .null

def rangeCount (start stop step : Int) : Nat :=
  if step > 0 then ((stop - start + step - 1) / step).toNat
  else if step < 0 then ((start - stop - step - 1) / (-step)).toNat
  else 0

def typeName : Value → String
  | .null => "NoneType"
  | .bool _ => "bool"
  | .int _ => "int"
  | .float _ => "float"
  | .decimal _ => "Decimal"
  | .fraction .. => "Fraction"
  | .complex .. => "complex"
  | .text _ => "str"
  | .bytes _ => "bytes"
  | .byteArray _ => "bytearray"
  | .list _ => "list"
  | .tuple _ => "tuple"
  | .deque _ => "deque"
  | .set _ => "set"
  | .range .. => "range"
  | .mapping _ => "dict"
  | .view _ => "mappingproxy"
  | .record type _ => type
  | .object type .. => type
  | .callable c =>
    match c.kind with
    | .function => "function"
    | .builtin => "builtin_function_or_method"
    | .method => "method"
    | .classObject => "type"
    | .object => c.name
    | .application => "partial"
  | .module _ => "module"
  | .suspended .. => "coroutine"
  | .described type _ => type

/-- The full name of a value's type, as some errors show it. -/
def fullTypeName (v : Value) : String :=
  match v with
  | .decimal _ => "decimal.Decimal"
  | .deque _ => "collections.deque"
  | .callable c => if c.kind = .application then "functools.partial" else v.typeName
  | _ => v.typeName

def truthy : Value → Bool
  | .null => false
  | .bool b => b
  | .int n => n != 0
  | .float x => !x.isZero
  | .decimal d => !d.isZero
  | .fraction num _ => num != 0
  | .complex re im => !(re.isZero && im.isZero)
  | .text s => !s.isEmpty
  | .bytes bs => !bs.isEmpty
  | .byteArray bs => !bs.isEmpty
  | .list items => !items.isEmpty
  | .tuple items => !items.isEmpty
  | .deque items => !items.isEmpty
  | .set items => !items.isEmpty
  | .range start stop step => rangeCount start stop step != 0
  | .mapping entries => !entries.isEmpty
  | .view entries => !entries.isEmpty
  | .record _ fields => !fields.isEmpty
  | .object .. => true
  | .callable _ => true
  | .module _ => true
  | .suspended .. => true
  | .described .. => true

def isCallable : Value → Bool
  | .callable _ => true
  | _ => false

/-- The error of reading an attribute that a value does not have. -/
def noAttribute (v : Value) (name : String) : Raised :=
  let owner :=
    match v with
    | .module title => "module '" ++ title ++ "'"
    | .callable c =>
      if c.kind = .classObject then "type object '" ++ c.name ++ "'"
      else "'" ++ v.fullTypeName ++ "' object"
    | v => "'" ++ v.fullTypeName ++ "' object"
  ⟨attributeErrorKind, owner ++ " has no attribute '" ++ name ++ "'"⟩

/-- The error of using a value that is no text as the name of an attribute. -/
def badAttributeName (v : Value) : Raised :=
  ⟨"TypeError", "attribute name must be string, not '" ++ v.fullTypeName ++ "'"⟩

def notIterable (v : Value) : Raised :=
  ⟨"TypeError", "'" ++ v.fullTypeName ++ "' object is not iterable"⟩

/-- The error of calling a value that is not callable. -/
def notCallable (v : Value) : Raised :=
  ⟨"TypeError", "'" ++ v.fullTypeName ++ "' object is not callable"⟩

def longestList : Nat := Nat.pow 2 34

def longestLength : Nat := Nat.pow 2 63 - 1

def lengthTooLarge : Raised :=
  ⟨"OverflowError", "Python int too large to convert to C ssize_t"⟩

def rangeItems (start stop step : Int) : List Value :=
  (List.range (rangeCount start stop step)).map fun (k : Nat) => .int (start + k * step)

/-- The items of a value in order; those of a mapping are its keys. -/
def items (v : Value) : Except Raised (List Value) :=
  match v with
  | .text s => .ok (s.toList.map fun c => .text (String.singleton c))
  | .bytes bs | .byteArray bs => .ok (bs.map fun b => .int b.toNat)
  | .list items | .tuple items | .deque items | .set items => .ok items
  | .record _ fields => .ok (fields.map (·.2))
  | .range start stop step =>
    let count := rangeCount start stop step
    if count > longestLength then .error lengthTooLarge
    else if count > longestList then .error ⟨"MemoryError", ""⟩
    else .ok (rangeItems start stop step)
  | .mapping entries | .view entries => .ok (entries.map (·.1))
  | v => .error v.notIterable

mutual

/-- The value with every callable in it made another copy of its definition. -/
def withCopy (copy : Nat) : Value → Value
  | .list items => .list (withCopyItems copy items)
  | .tuple items => .tuple (withCopyItems copy items)
  | .deque items => .deque (withCopyItems copy items)
  | .set items => .set (withCopyItems copy items)
  | .mapping entries => .mapping (withCopyEntries copy entries)
  | .view entries => .view (withCopyEntries copy entries)
  | .record type fields => .record type (withCopyFields copy fields)
  | .object type attributes raising => .object type (withCopyFields copy attributes) raising
  | .callable c => .callable { c with id := { c.id with copy } }
  | v => v

def withCopyItems (copy : Nat) : List Value → List Value
  | [] => []
  | item :: rest => withCopy copy item :: withCopyItems copy rest

def withCopyEntries (copy : Nat) : List (Value × Value) → List (Value × Value)
  | [] => []
  | (key, value) :: rest => (withCopy copy key, withCopy copy value) :: withCopyEntries copy rest

def withCopyFields (copy : Nat) : List (String × Value) → List (String × Value)
  | [] => []
  | (name, value) :: rest => (name, withCopy copy value) :: withCopyFields copy rest

end

end Value

end CallGuard
