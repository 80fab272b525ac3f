import CallGuard.Table
import CallGuard.Value.Basic

/-!
Signatures: the named parameters of something callable, of which the last ones can be left out, and
the binding of the arguments of a call to them. The faults of a call are looked for in a fixed
order: a name that is unknown or bound twice, too many positions, and last what is missing.
-/

namespace CallGuard

/-- A signature: the name that errors show, and the parameters that must and that can be given. -/
structure Signature where
  name : String
  required : List String
  optional : List String := []
  deriving DecidableEq, Repr, Inhabited

namespace Signature

/-- All parameters in order. -/
def parameters (signature : Signature) : List String :=
  signature.required ++ signature.optional

def refusal (signature : Signature) (what : String) : Raised :=
  ⟨"TypeError", signature.name ++ "() " ++ what⟩

def bindNamed (signature : Signature) (bound : Table Value) :
    List (String × Value) → Except Raised (Table Value)
  | [] => .ok bound
  | (name, v) :: rest =>
    if !signature.parameters.contains name then
      .error (signature.refusal ("got an unexpected keyword argument '" ++ name ++ "'"))
    else if Table.has bound name then
      .error (signature.refusal ("got multiple values for argument '" ++ name ++ "'"))
    else bindNamed signature (Table.put bound name v) rest

def tooMany (signature : Signature) (given : Nat) : Raised :=
  let most := signature.parameters.length
  let least := signature.required.length
  let range :=
    if signature.optional.isEmpty then toString most
    else "from " ++ toString least ++ " to " ++ toString most
  let plural := if most = 1 && signature.optional.isEmpty then "" else "s"
  signature.refusal ("takes " ++ range ++ " positional argument" ++ plural ++ " but " ++
    toString given ++ (if given = 1 then " was given" else " were given"))

/-- Names in quotes, with commas and a last "and" between them. -/
def nameList : List String → String
  | [] => ""
  | [a] => "'" ++ a ++ "'"
  | [a, b] => "'" ++ a ++ "' and '" ++ b ++ "'"
  | names => ", ".intercalate (names.dropLast.map fun name => "'" ++ name ++ "'") ++ ", and '" ++
      names.getLast?.getD "" ++ "'"

def missing (signature : Signature) (names : List String) : Raised :=
  signature.refusal ("missing " ++ toString names.length ++ " required positional argument" ++
    (if names.length = 1 then "" else "s") ++ ": " ++ nameList names)

def bind (signature : Signature) (arguments : Arguments) : Except Raised (Table Value) := do
  let placed := signature.parameters.zip arguments.positional
  let bound ← signature.bindNamed placed arguments.named
  if arguments.positional.length > signature.parameters.length then
    .error (signature.tooMany arguments.positional.length)
  match signature.required.filter fun name => !Table.has bound name with
  | [] => .ok bound
  | names => .error (signature.missing names)

/-- The signature of something bound to an object, which then comes first under its usual name. -/
def ofMethod (name : String) (required : List String) (optional : List String) : Signature :=
  ⟨name, "self" :: required, optional⟩

/-- Binds the arguments of a call of something bound to an object. -/
def bindMethod (signature : Signature) (object : Value) (arguments : Arguments) :
    Except Raised (Table Value) :=
  signature.bind { arguments with positional := object :: arguments.positional }

end Signature

end CallGuard
