import CallGuard.Number.FloatText
import CallGuard.Text.Points
import CallGuard.Value.Written

/-!
JSON text in pure ASCII: members and items are separated by a comma and a blank, characters beyond
ASCII are escaped as UTF-16 units, and a value that JSON cannot hold stands as its plain form.
-/

namespace CallGuard.Log

open CallGuard.Number

def unitEscape (n : Nat) : List Char :=
  '\\' :: 'u' :: Text.hexPadded 4 n

def jsonPoint (n : Nat) : List Char :=
  if n = 34 then ['\\', '"']
  else if n = 92 then ['\\', '\\']
  else if n = 10 then ['\\', 'n']
  else if n = 13 then ['\\', 'r']
  else if n = 9 then ['\\', 't']
  else if n = 8 then ['\\', 'b']
  else if n = 12 then ['\\', 'f']
  else if 32 ≤ n && n < 127 then [Char.ofNat n]
  else if n < 0x10000 then unitEscape n
  else
    let rest := n - 0x10000
    unitEscape (0xD800 + rest / 0x400) ++ unitEscape (0xDC00 + rest % 0x400)

def jsonPoints (all : List Nat) : String :=
  String.ofList ('"' :: all.flatMap jsonPoint ++ ['"'])

def jsonString (s : String) : String :=
  jsonPoints (Text.pointsOf s)

/-- A floating-point number, with words for the values that are not finite. -/
def jsonFloat (x : Binary64) : String :=
  match x with
  | .nan => "NaN"
  | .infinite negative => if negative then "-Infinity" else "Infinity"
  | x => x.text true

def jsonKey (key : Value) : Except Raised String :=
  match key with
  | .text s => .ok s
  | .null => .ok "null"
  | .bool b => .ok (if b then "true" else "false")
  | .int n => Value.intText n
  | .float x => .ok (jsonFloat x)
  | v => .error ⟨"TypeError", "keys must be str, int, float, bool or None, not " ++ v.fullTypeName⟩

def jsonMember (key value : String) : String :=
  jsonString key ++ ": " ++ value

def jsonObject (members : List String) : String :=
  "\x7b" ++ Value.commaList members ++ "\x7d"

def encoding : String := "encoding a JSON object"

variable [Platform]

mutual

/-- The JSON text of a value for which a number of levels is left. -/
def jsonForm (levels : Nat) : Value → Except Raised String
  | .null => .ok "null"
  | .bool b => .ok (if b then "true" else "false")
  | .int n => Value.intText n
  | .float x => .ok (jsonFloat x)
  | .text s => .ok (jsonString s)
  | .list items => do
    let inner ← Value.levelsInside encoding levels 1
    let parts ← jsonItems inner items
    .ok ("[" ++ Value.commaList parts ++ "]")
  | .tuple items => do
    let inner ← Value.levelsInside encoding levels 1
    let parts ← jsonItems inner items
    .ok ("[" ++ Value.commaList parts ++ "]")
  | .record _ fields => do
    let inner ← Value.levelsInside encoding levels 1
    let parts ← jsonFields inner fields
    .ok ("[" ++ Value.commaList parts ++ "]")
  | .mapping entries => do
    let inner ← Value.levelsInside encoding levels 1
    let parts ← jsonEntries inner entries
    .ok (jsonObject parts)
  | v => do
    let s ← v.plainForm levels
    .ok (jsonString s)

def jsonItems (levels : Nat) : List Value → Except Raised (List String)
  | [] => .ok []
  | item :: rest => do
    let part ← jsonForm levels item
    let parts ← jsonItems levels rest
    .ok (part :: parts)

def jsonFields (levels : Nat) : List (String × Value) → Except Raised (List String)
  | [] => .ok []
  | (_, value) :: rest => do
    let part ← jsonForm levels value
    let parts ← jsonFields levels rest
    .ok (part :: parts)

def jsonEntries (levels : Nat) : List (Value × Value) → Except Raised (List String)
  | [] => .ok []
  | (key, value) :: rest => do
    let k ← jsonKey key
    let v ← jsonForm levels value
    let parts ← jsonEntries levels rest
    .ok (jsonMember k v :: parts)

end

def json (v : Value) : Except Raised String :=
  jsonForm Platform.jsonLevels v

end CallGuard.Log
