import CallGuard.Fault
import CallGuard.Text.Letters
import CallGuard.Text.Utf8
import CallGuard.Schema.WholeText
import CallGuard.Table
import CallGuard.Value.Key

/-!
Reading the fields of a structure from values. Reading is lenient where nothing is lost: bytes can
stand for text, whole floating-point numbers and numerals for whole numbers, and a few words for a
flag. All faults of a structure are found together, in the order of its fields.
-/

namespace CallGuard.Schema

open CallGuard.Number CallGuard.Text

/-- What a reading gives: a result, or all the faults found. -/
abbrev Checked (α : Type) := Except (List Fault) α

def fault {α : Type} (kind : FaultKind) : Checked α :=
  .error [⟨kind, []⟩]

def both {α β : Type} (first : Checked α) (second : Checked β) : Checked (α × β) :=
  match first, second with
  | .ok a, .ok b => .ok (a, b)
  | .error faults, .error more => .error (faults ++ more)
  | .error faults, .ok _ => .error faults
  | .ok _, .error faults => .error faults

def inside {α : Type} (place : Place) : Checked α → Checked α
  | .ok a => .ok a
  | .error faults => .error (faults.map (Fault.inside place))

def required {α : Type} (fields : Table Value) (name : String) (read : Value → Checked α) :
    Checked α :=
  inside (.field name)
    (match Table.get? fields name with
      | none => fault .missing
      | some v => read v)

def optional {α : Type} (fields : Table Value) (name : String) (default : α)
    (read : Value → Checked α) : Checked α :=
  inside (.field name)
    (match Table.get? fields name with
      | none => .ok default
      | some v => read v)

def textOfBytes (kind : FaultKind) (bytes : List UInt8) : Checked String :=
  match decodeUtf8 bytes with
  | .ok cs => .ok (String.ofList cs)
  | .error _ => fault kind

def text : Value → Checked String
  | .text s => .ok s
  | .bytes bs | .byteArray bs => textOfBytes .notUnicode bs
  | _ => fault .notText

/-- Reads a text that is not empty. -/
def nonEmptyText (v : Value) : Checked String :=
  match text v with
  | .ok s => if s.isEmpty then fault .tooShort else .ok s
  | .error faults => .error faults

/-- Reads a text, or nothing. -/
def textOrNothing : Value → Checked (Option String)
  | .null => .ok none
  | v => (text v).map some

def wholeOfText (s : String) : Checked Int :=
  match readWhole s.toList with
  | .whole n => .ok n
  | .tooLong => fault .tooLongWhole
  | .other => fault .notWholeText

/-- The bounds of the whole numbers that a floating-point number is read as. -/
def wholeBound : Nat := Nat.pow 2 63

def wholeOfRatio (num : Int) (den : Nat) : Checked Int :=
  if num % den ≠ 0 then fault .fractional
  else
    let n := num / den
    if n.natAbs < wholeBound then .ok n else fault .tooLongWhole

def whole (v : Value) : Checked Int :=
  match v with
  | .bool b => .ok (if b then 1 else 0)
  | .int n => .ok n
  | .text s => wholeOfText s
  | .bytes bs =>
    match textOfBytes .notWholeText bs with
    | .ok s => wholeOfText s
    | .error faults => .error faults
  | .float x =>
    match x.ratio? with
    | some (num, den) => wholeOfRatio num den
    | none => fault .notFinite
  | .decimal d =>
    if !d.isFinite then fault .notFinite
    else if !d.isWhole then fault .fractional
    else .ok d.whole
  | .fraction num den => if den = 1 then .ok num else fault .fractional
  | _ => fault .notWhole

/-- Reads a whole number that is not too small. -/
def wholeFrom (least : Nat) (v : Value) : Checked Nat :=
  match whole v with
  | .ok n => if n < least then fault (.tooSmall least) else .ok n.toNat
  | .error faults => .error faults

def onWords : List String := ["1", "on", "t", "true", "y", "yes"]

def offWords : List String := ["0", "off", "f", "false", "n", "no"]

def flagOfText (s : String) : Checked Bool :=
  let word := String.ofList (smalls s.toList)
  if onWords.contains word then .ok true
  else if offWords.contains word then .ok false
  else fault .notFlagText

def flagOfWhole (n : Int) : Checked Bool :=
  if n = 0 then .ok false else if n = 1 then .ok true else fault .notFlagText

/-- Reads a flag from a quotient rounded to a floating-point number. -/
def flagOfBinary64 (x : Binary64) : Checked Bool :=
  match x.ratio? with
  | some (num, den) =>
    match wholeOfRatio num den with
    | .ok n => flagOfWhole n
    | .error _ => fault .notFlag
  | none => fault .notFlag

def flag (v : Value) : Checked Bool :=
  match v with
  | .bool b => .ok b
  | .text s => flagOfText s
  | .bytes bs =>
    match textOfBytes .notFlagText bs with
    | .ok s => flagOfText s
    | .error faults => .error faults
  | .int n =>
    if -(wholeBound : Int) ≤ n && n < wholeBound then flagOfWhole n else fault .notFlag
  | .float x => flagOfBinary64 x
  | .fraction num den => flagOfBinary64 (.ofRatio (num < 0) num.natAbs den)
  | .decimal (.finite negative coefficient exponent) =>
    flagOfBinary64 (.ofScientific negative coefficient exponent)
  | _ => fault .notFlag

def choice {α : Type} (all : List α) (name : α → String) (v : Value) : Checked α :=
  match text v with
  | .ok s =>
    match all.find? fun a => name a = s with
    | some a => .ok a
    | none => fault (.notChoice (all.map name))
  | .error _ => fault (.notChoice (all.map name))

def tupleItems? : Value → Option (List Value)
  | .list items | .tuple items | .deque items | .set items => some items
  | .record _ fields => some (fields.map (·.2))
  | .range start stop step => some (Value.rangeItems start stop step)
  | _ => none

/-- Reads items in order, from a place on. -/
def itemsFrom {α : Type} (read : Value → Checked α) : Nat → List Value → Checked (List α)
  | _, [] => .ok []
  | place, v :: rest =>
    (both (inside (.index place) (read v)) (itemsFrom read (place + 1) rest)).map fun pair =>
      pair.1 :: pair.2

def tuple {α : Type} (read : Value → Checked α) (v : Value) : Checked (List α) :=
  match tupleItems? v with
  | some items => itemsFrom read 0 items
  | none => fault .notTuple

/-- The fields that the entries of a mapping give; keys that are no texts give none. -/
def fieldsOf : List (Value × Value) → Table Value
  | [] => []
  | (.text name, v) :: rest => (name, v) :: fieldsOf rest
  | _ :: rest => fieldsOf rest

def structured {α : Type} (name : String) (read : Table Value → Checked α) (v : Value) :
    Checked α :=
  match v with
  | .mapping entries | .view entries => read (fieldsOf entries)
  | _ => fault (.notStructure name)

end CallGuard.Schema
