import CallGuard.Value.Parts

/-!
Values asked for a text: whether the text is among their items, what they hold under it, and why
nothing can be put under it. Only mappings hold anything under a text.
-/

namespace CallGuard.Value

def isWithin (piece : List Char) : List Char → Bool
  | [] => piece.isEmpty
  | c :: rest => piece.isPrefixOf (c :: rest) || isWithin piece rest

def hasText (items : List Value) (symbol : String) : Bool :=
  items.any fun item => item.sameKey (.text symbol)

/-- Whether a text is among the items of a value; a text also has the pieces of it. -/
def containsText (v : Value) (symbol : String) : Except Raised Bool :=
  match v with
  | .mapping entries | .view entries => .ok (entryAt? entries symbol).isSome
  | .text s => .ok (isWithin symbol.toList s.toList)
  | .list items | .tuple items | .deque items | .set items => .ok (hasText items symbol)
  | .record _ fields => .ok (hasText (fields.map (·.2)) symbol)
  | .range .. => .ok false
  | .bytes _ | .byteArray _ =>
    .error ⟨"TypeError", "a bytes-like object is required, not 'str'"⟩
  | v => .error ⟨"TypeError", "argument of type '" ++ v.fullTypeName ++ "' is not iterable"⟩

def badPlace (sequence : String) : Raised :=
  ⟨"TypeError", sequence ++ " indices must be integers or slices, not str"⟩

def badQueuePlace : Raised :=
  ⟨"TypeError", "sequence index must be integer, not 'str'"⟩

def atText (v : Value) (symbol : String) : Except Raised Value :=
  match v with
  | .mapping entries | .view entries =>
    match entryAt? entries symbol with
    | some found => .ok found
    | none => .error (.about "KeyError" symbol)
  | .text _ => .error ⟨"TypeError", "string indices must be integers, not 'str'"⟩
  | .bytes _ => .error (badPlace "byte")
  | .byteArray _ => .error (badPlace "bytearray")
  | .list _ => .error (badPlace "list")
  | .tuple _ | .record .. => .error (badPlace "tuple")
  | .range .. => .error (badPlace "range")
  | .deque _ => .error badQueuePlace
  | v => .error v.notSubscriptable

/-- Why nothing can be put under a text of a value that is no mapping. -/
def refusalAtText (v : Value) : Raised :=
  match v with
  | .list _ => badPlace "list"
  | .byteArray _ => badPlace "bytearray"
  | .deque _ => badQueuePlace
  | v => ⟨"TypeError", "'" ++ v.fullTypeName ++ "' object does not support item assignment"⟩

end CallGuard.Value
