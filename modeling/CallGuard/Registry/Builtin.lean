import CallGuard.Number.Numeral
import CallGuard.Value.Basic

/-!
The built-in types. Each is a class of values, told apart without calling anything: numbers count
by their exact value and by the texts that stand for one, and a truth value is no number.
-/

namespace CallGuard

open CallGuard.Number

/-- The built-in types. -/
inductive BuiltinType
  | array
  | text
  | object
  | number
  | integer
  | function
  deriving DecidableEq, Repr, Inhabited

namespace BuiltinType

def tag : BuiltinType → String
  | .array => "Array"
  | .text => "String"
  | .object => "Object"
  | .number => "Number"
  | .integer => "Integer"
  | .function => "Function"

/-- All built-in types, in the order of a new registry. -/
def all : List BuiltinType := [.array, .text, .object, .number, .integer, .function]

/-- Whether a value is a list or a tuple, named or not. -/
def isArray : Value → Bool
  | .list _ | .tuple _ | .record .. => true
  | _ => false

def isText : Value → Bool
  | .text _ => true
  | _ => false

/-- Whether a value is an object: not empty, no text, bytes or number, and no plain function. -/
def isObject : Value → Bool
  | .null | .text _ | .bytes _ | .bool _ => false
  | .int _ | .float _ | .decimal _ | .fraction .. | .complex .. => false
  | .callable c =>
    match c.kind with
    | .function | .builtin | .method => false
    | .classObject | .object | .application => true
  | _ => true

/-- Whether a quotient is small enough for a floating-point number. -/
def fitsBinary64 (num : Int) (den : Nat) : Bool :=
  (Binary64.ofRatio (num < 0) num.natAbs den).isFinite

/-- Whether a value is a finite number, or a text that stands for one. -/
def isNumber : Value → Bool
  | .int _ => true
  | .decimal d => d.isFinite
  | .float x => x.isFinite
  | .fraction num den => fitsBinary64 num den
  | .text s => isNumberText s.toList
  | _ => false

/-- Whether a value is a whole number, or a text that stands for one. -/
def isInteger : Value → Bool
  | .int _ => true
  | .decimal d => d.isWhole
  | .float x => x.isWhole
  | .fraction num den => (Binary64.ofRatio (num < 0) num.natAbs den).isWhole
  | .text s => isWholeText s.toList
  | _ => false

def accepts : BuiltinType → Value → Bool
  | .array, v => isArray v
  | .text, v => isText v
  | .object, v => isObject v
  | .number, v => isNumber v
  | .integer, v => isInteger v
  | .function, v => v.isCallable

end BuiltinType

end CallGuard
