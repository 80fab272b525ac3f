import CallGuard.Platform
import CallGuard.Standard.Digest
import CallGuard.Standard.EnvironmentFile
import CallGuard.Value.Written

/-!
The standard platform, on which the library is tried out. Numbers have their parts as attributes and
callables their names. Calls take any arguments, except that a method is not given its object twice.
A few things answer in ways of their own: a parser of configurations is a mapping that has no answer
to a key alone, an object with an owner has a number as its name, an application with an owner is
one to a number that is too long to be written, and a function with an owner needs an argument of
that name.
-/

namespace CallGuard.Standard

open CallGuard.Number

def wholeAttribute (n : Int) (name : String) : Option Value :=
  match name with
  | "real" | "numerator" => some (.int n)
  | "imag" => some (.int 0)
  | "denominator" => some (.int 1)
  | _ => none

def callableAttribute (c : Callable) (name : String) : Option Value :=
  match c.kind, name with
  | .object, "__name__" => if c.owner.isEmpty then none else some (.int 1)
  | .object, _ | .application, _ => none
  | _, "__name__" => some (.text c.name)
  | .method, "__qualname__" => some (.text (c.owner ++ "." ++ c.name))
  | _, "__qualname__" => some (.text c.name)
  | _, _ => none

/-- A callable object whose name is a number. -/
def numbered : Callable :=
  { (default : Callable) with
    kind := .object
    name := "C"
    owner := "C" }

def attributeOf (v : Value) (name : String) : Option Value :=
  match v, name with
  | .bool b, name => wholeAttribute (if b then 1 else 0) name
  | .int n, name => wholeAttribute n name
  | .float x, "real" => some (.float x)
  | .float _, "imag" => some (.float (.zero false))
  | .fraction num _, "numerator" => some (.int num)
  | .fraction _ den, "denominator" => some (.int den)
  | .fraction num den, "real" => some (.fraction num den)
  | .fraction .., "imag" => some (.int 0)
  | .callable c, name => callableAttribute c name
  | _, _ => none

def callableText (c : Callable) : Except Raised String :=
  match c.kind with
  | .function => .ok ("<function " ++ c.name ++ " at 0x0>")
  | .builtin => .ok ("<built-in function " ++ c.name ++ ">")
  | .method =>
    .ok ("<bound method " ++ c.owner ++ "." ++ c.name ++ " of " ++ c.owner ++ "()>")
  | .classObject => .ok ("<class '" ++ c.owner ++ "." ++ c.name ++ "'>")
  | .object => .ok (c.name ++ "()")
  | .application =>
    if c.owner.isEmpty then .ok ("functools.partial(<function " ++ c.name ++ " at 0x0>)")
    else .error Value.tooManyDigits

/-- The name of the parameter of a method that stands for its object. -/
def selfName : String := "self"

def isGiven (arguments : Arguments) (name : String) : Bool :=
  !arguments.positional.isEmpty || (arguments.named.lookup name).isSome

def binds (c : Callable) (arguments : Arguments) : Except Raised Unit :=
  match c.kind with
  | .function =>
    if c.owner.isEmpty || isGiven arguments c.owner then .ok ()
    else
      .error ⟨"TypeError",
        c.name ++ "() missing 1 required positional argument: '" ++ c.owner ++ "'"⟩
  | .method =>
    if (arguments.named.lookup selfName).isSome then
      .error ⟨"TypeError",
        c.owner ++ "." ++ c.name ++ "() got multiple values for argument '" ++ selfName ++ "'"⟩
    else .ok ()
  | _ => .ok ()

/-- A parser of configurations, which holds nothing. -/
def parser : Value :=
  .described "ConfigParser" "<configparser.ConfigParser object at 0x0>"

/-- The error of looking for a key alone in a parser of configurations. -/
def keyAlone : Raised :=
  ⟨"TypeError", "RawConfigParser.get() missing 1 required positional argument: 'option'"⟩

def entry? : Value → Option (String → Except Raised Value)
  | .described "ConfigParser" _ => some fun _ => .error keyAlone
  | _ => none

scoped instance platform : Platform where
  attributeOf v name := .ok (attributeOf v name)
  entry? := entry?
  callableText := callableText
  binds := binds
  writtenLevels := 986
  jsonLevels := 985
  jsonLevels_pos := by decide
  bindings := EnvironmentFile.read
  digest := Digest.ofText

end CallGuard.Standard
