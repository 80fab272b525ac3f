import CallGuard.Platform
import CallGuard.Value.Key

/-!
Walking a dotted path into a value: a mapping is entered by key, a sequence by index, anything else
by attribute. A step that leads nowhere yields the empty value. The walk fails where the reading of
an attribute raises something other than an attribute error, and where a value that is entered in a
way of its own raises.
-/

namespace CallGuard.Value

open CallGuard.Number

/-- The attribute that holds the documentation of a callable. -/
def documentation : String := "__doc__"

variable [Platform]

/-- The value of an attribute, if the value has it; reading it may raise. -/
def attribute? (v : Value) (name : String) : Except Raised (Option Value) :=
  match v with
  | .object _ attributes raising =>
    match raising.lookup name with
    | some e => .error e
    | none =>
      match attributes.lookup name with
      | some held => .ok (some held)
      | none => Platform.attributeOf v name
  | .callable c =>
    if name = documentation then .ok (some (.ofText? c.doc)) else Platform.attributeOf v name
  | v => Platform.attributeOf v name

/-- The member of a list at an index that counts from the end when it is negative. -/
def itemAt? (items : List Value) (index : Int) : Option Value :=
  let place := if index < 0 then index + items.length else index
  if place < 0 then none else items[place.toNat]?

/-- The member of a range at an index that counts from the end when it is negative. -/
def rangeItemAt? (start stop step : Int) (index : Int) : Option Value :=
  let count : Int := rangeCount start stop step
  let place := if index < 0 then index + count else index
  if place < 0 || place ≥ count then none else some (.int (start + place * step))

/-- How a value is entered by a step of a path. -/
inductive Entrance
  | empty
  | keyed (entries : List (Value × Value))
  | indexed (at? : Int → Option Value)
  | own (enter : String → Except Raised Value)
  | attributed

def entrance : Value → Entrance
  | .null => .empty
  | .mapping entries => .keyed entries
  | .view entries => .keyed entries
  | .list items => .indexed (itemAt? items)
  | .tuple items => .indexed (itemAt? items)
  | .deque items => .indexed (itemAt? items)
  | .record _ fields => .indexed (itemAt? (fields.map (·.2)))
  | .byteArray bs => .indexed (itemAt? (bs.map fun b => .int b.toNat))
  | .range start stop step => .indexed (rangeItemAt? start stop step)
  | .object .. => .attributed
  | v =>
    match Platform.entry? v with
    | some enter => .own enter
    | none => .attributed

def step (v : Value) (segment : String) : Except Raised Value :=
  match v.entrance with
  | .empty => .ok .null
  | .keyed entries => .ok ((entryAt? entries segment).getD .null)
  | .indexed at? => .ok (((paddedNumeral? segment.toList).bind at?).getD .null)
  | .own enter => enter segment
  | .attributed =>
    match v.attribute? segment with
    | .ok found => .ok (found.getD .null)
    | .error e => if e.kind = attributeErrorKind then .ok .null else .error e

/-- The steps of a path in order. -/
def walk (v : Value) : List String → Except Raised Value
  | [] => .ok v
  | segment :: rest =>
    match v.step segment with
    | .ok next => walk next rest
    | .error e => .error e

def segments (path : String) : List String :=
  (Text.pieces '.' path.toList).map String.ofList

def resolve (v : Value) (path : String) : Except Raised Value :=
  v.walk (segments path)

end CallGuard.Value
