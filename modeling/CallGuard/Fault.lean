import CallGuard.Value.Basic

/-!
Faults found when the fields of a structure are checked: what is wrong, and where.
-/

namespace CallGuard

/-- What is wrong with a field. -/
inductive FaultKind
  | missing
  | notText
  | notUnicode
  | tooShort
  | notWhole
  | notWholeText
  | tooLongWhole
  | fractional
  | notFinite
  | tooSmall (least : Nat)
  | notFlag
  | notFlagText
  | notTuple
  | notStructure (name : String)
  | notChoice (choices : List String)
  | frozen
  deriving DecidableEq, Repr

/-- A step on the way to a field. -/
inductive Place
  | field (name : String)
  | index (n : Nat)
  deriving DecidableEq, Repr

/-- A fault at a place. -/
structure Fault where
  kind : FaultKind
  place : List Place
  deriving DecidableEq, Repr

def FaultKind.code : FaultKind → String
  | .missing => "missing"
  | .notText => "string_type"
  | .notUnicode => "string_unicode"
  | .tooShort => "string_too_short"
  | .notWhole => "int_type"
  | .notWholeText => "int_parsing"
  | .tooLongWhole => "int_parsing_size"
  | .fractional => "int_from_float"
  | .notFinite => "finite_number"
  | .tooSmall _ => "greater_than_equal"
  | .notFlag => "bool_type"
  | .notFlagText => "bool_parsing"
  | .notTuple => "tuple_type"
  | .notStructure _ => "model_type"
  | .notChoice _ => "enum"
  | .frozen => "frozen_instance"

/-- Choices in quotes, with commas and a last "or" between them. -/
def choiceText : List String → String
  | [] => ""
  | [a] => "'" ++ a ++ "'"
  | [a, b] => "'" ++ a ++ "' or '" ++ b ++ "'"
  | a :: rest => "'" ++ a ++ "', " ++ choiceText rest

def FaultKind.message : FaultKind → String
  | .missing => "Field required"
  | .notText => "Input should be a valid string"
  | .notUnicode => "Input should be a valid string, unable to parse raw data as a unicode string"
  | .tooShort => "String should have at least 1 character"
  | .notWhole => "Input should be a valid integer"
  | .notWholeText => "Input should be a valid integer, unable to parse string as an integer"
  | .tooLongWhole => "Unable to parse input string as an integer, exceeded maximum size"
  | .fractional => "Input should be a valid integer, got a number with a fractional part"
  | .notFinite => "Input should be a finite number"
  | .tooSmall least => "Input should be greater than or equal to " ++ toString least
  | .notFlag => "Input should be a valid boolean"
  | .notFlagText => "Input should be a valid boolean, unable to interpret input"
  | .notTuple => "Input should be a valid tuple"
  | .notStructure name => "Input should be a valid dictionary or instance of " ++ name
  | .notChoice choices => "Input should be " ++ choiceText choices
  | .frozen => "Instance is frozen"

def Fault.at (kind : FaultKind) (field : String) : Fault :=
  ⟨kind, [.field field]⟩

def Fault.inside (place : Place) (fault : Fault) : Fault :=
  { fault with place := place :: fault.place }

def Place.value : Place → Value
  | .field name => .text name
  | .index n => .int n

def Fault.value (fault : Fault) : Value :=
  .mapping [
    (.text "type", .text fault.kind.code),
    (.text "loc", .list (fault.place.map Place.value)),
    (.text "msg", .text fault.kind.message)]

end CallGuard
