import CallGuard.Value.Path

/-!
Parts of values that have to be there: their length, the part at a place of a sequence or at a
number of a mapping, and an attribute. A part that is not there is an error of the value that lacks
it.
-/

namespace CallGuard.Value

def size? : Value → Option Nat
  | .text s => some s.length
  | .bytes bs | .byteArray bs => some bs.length
  | .list items | .tuple items | .deque items | .set items => some items.length
  | .range start stop step => some (rangeCount start stop step)
  | .mapping entries | .view entries => some entries.length
  | .record _ fields => some fields.length
  | _ => none

/-- The length of a value, or the error of asking for it. -/
def length (v : Value) : Except Raised Nat :=
  match v.size? with
  | some n => if n ≤ longestLength then .ok n else .error lengthTooLarge
  | none => .error ⟨"TypeError", "object of type '" ++ v.fullTypeName ++ "' has no len()"⟩

def beyondEnd (sequence : String) : Raised :=
  ⟨"IndexError", sequence ++ "index out of range"⟩

def notSubscriptable (v : Value) : Raised :=
  match v with
  | .callable c =>
    if c.kind = .classObject then ⟨"TypeError", "type '" ++ c.name ++ "' is not subscriptable"⟩
    else ⟨"TypeError", "'" ++ v.fullTypeName ++ "' object is not subscriptable"⟩
  | v => ⟨"TypeError", "'" ++ v.fullTypeName ++ "' object is not subscriptable"⟩

/-- A part that was looked for in a sequence, or the error of its absence. -/
def foundIn (sequence : String) (found : Option Value) : Except Raised Value :=
  match found with
  | some item => .ok item
  | none => .error (beyondEnd sequence)

/-- The value of a mapping at a number, or the error of its absence. -/
def entryAtNumber (entries : List (Value × Value)) (n : Nat) : Except Raised Value :=
  match entries.find? fun entry => entry.1.sameKey (.int n) with
  | some entry => .ok entry.2
  | none => .error ⟨"KeyError", toString n⟩

def partAt (v : Value) (place : Nat) : Except Raised Value :=
  match v with
  | .mapping entries | .view entries => entryAtNumber entries place
  | .text s => foundIn "string " (s.toList[place]?.map fun c => .text (String.singleton c))
  | .bytes bs => foundIn "" (bs[place]?.map fun b => .int b.toNat)
  | .byteArray bs => foundIn "bytearray " (bs[place]?.map fun b => .int b.toNat)
  | .list items => foundIn "list " items[place]?
  | .tuple items => foundIn "tuple " items[place]?
  | .record _ fields => foundIn "tuple " (fields[place]?.map (·.2))
  | .deque items => foundIn "deque " items[place]?
  | .range start stop step => foundIn "range object " (rangeItemAt? start stop step place)
  | v => .error v.notSubscriptable

variable [Platform]

/-- The attribute of a value, or the error of its absence. -/
def requireAttribute (v : Value) (name : String) : Except Raised Value := do
  match ← v.attribute? name with
  | some found => .ok found
  | none => .error (v.noAttribute name)

/-- An attribute that a value may have; that it is missing is no error. -/
def optionalAttribute (v : Value) (name : String) : Except Raised (Option Value) :=
  match v.attribute? name with
  | .error e => if e.kind = attributeErrorKind then .ok none else .error e
  | found => found

end CallGuard.Value
