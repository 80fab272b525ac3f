import CallGuard.Value.Key

/-!
Mappings made from other values. A mapping gives its own entries; any other value has to give pairs,
each of them a key and a value in a sequence of two.
-/

namespace CallGuard.Value

def notPair (place : Nat) : Raised :=
  ⟨"TypeError",
    "cannot convert dictionary update sequence element #" ++ toString place ++ " to a sequence"⟩

/-- The error of an item that is to be a pair but has another number of items. -/
def badPairLength (place size : Nat) : Raised :=
  ⟨"ValueError", "dictionary update sequence element #" ++ toString place ++ " has length " ++
    toString size ++ "; 2 is required"⟩

def pairAt (place : Nat) (item : Value) : Except Raised (Value × Value) :=
  match item.items with
  | .error e => .error (if e.kind = "TypeError" then notPair place else e)
  | .ok [key, v] =>
    match key.keyFault? with
    | some e => .error e
    | none => .ok (key, v)
  | .ok parts => .error (badPairLength place parts.length)

def pairsFrom (place : Nat) : List Value → Except Raised (List (Value × Value))
  | [] => .ok []
  | item :: rest => do
    let pair ← pairAt place item
    let pairs ← pairsFrom (place + 1) rest
    .ok (pair :: pairs)

def toEntries (v : Value) : Except Raised (List (Value × Value)) :=
  match v with
  | .mapping entries | .view entries => .ok entries
  | v => do
    let items ← v.items
    let pairs ← pairsFrom 0 items
    .ok (entriesOf pairs)

end CallGuard.Value
