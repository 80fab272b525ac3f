import CallGuard.Number.FloatText
import CallGuard.Platform
import CallGuard.Value.Depth

/-!
The written form of a value, in which texts are quoted, and the plain form, in which a text stands
for itself. Both fail on whole numbers of more than 4300 digits, on values that are nested too deep
and on callables that cannot be written; of several faults the one that stands first is told.
-/

namespace CallGuard.Value

open CallGuard.Number

/-- What is wrong with writing a whole number that has too many digits. -/
def digitExcess : Cause :=
  ⟨"ValueError", "Exceeds the limit (4300 digits) for integer string conversion; " ++
    "use sys.set_int_max_str_digits() to increase the limit"⟩

def tooManyDigits : Raised :=
  ⟨digitExcess.kind, digitExcess.text⟩

def isTooLong (n : Int) : Bool :=
  Nat.pow 10 digitLimit ≤ n.natAbs

def intText (n : Int) : Except Raised String :=
  if n.natAbs ≥ Nat.pow 10 digitLimit then .error tooManyDigits
  else .ok (toString n)

/-- A complex number: a zero real part with a positive sign is left out. -/
def complexText (re im : Binary64) : String :=
  if re = Binary64.zero false then im.text false ++ "j"
  else
    let imaginary := im.text false
    let signed := if imaginary.startsWith "-" then imaginary else "+" ++ imaginary
    "(" ++ re.text false ++ signed ++ "j)"

def commaList (parts : List String) : String :=
  ", ".intercalate parts

/-- A tuple of written items; a single item is followed by a comma. -/
def tupleText (parts : List String) : String :=
  match parts with
  | [part] => "(" ++ part ++ ",)"
  | parts => "(" ++ commaList parts ++ ")"

def writing : String := "getting the repr of an object"

variable [Platform]

mutual

/-- The written form of a value for which a number of levels is left; some take up two of them. -/
def writtenForm (levels : Nat) : Value → Except Raised String
  | .null => .ok "None"
  | .bool b => .ok (if b then "True" else "False")
  | .int n => intText n
  | .float x => .ok (x.text true)
  | .decimal d => .ok ("Decimal('" ++ d.text ++ "')")
  | .fraction num den => do
    let n ← intText num
    let d ← intText den
    .ok ("Fraction(" ++ n ++ ", " ++ d ++ ")")
  | .complex re im => .ok (complexText re im)
  | .text s => .ok (Text.quoted s)
  | .bytes bs => .ok (Text.quotedBytes bs)
  | .byteArray bs => .ok (Text.quotedByteArray bs)
  | .list items => do
    let inner ← levelsInside writing levels 1
    let parts ← writtenItems inner items
    .ok ("[" ++ commaList parts ++ "]")
  | .tuple items => do
    let inner ← levelsInside writing levels 1
    let parts ← writtenItems inner items
    .ok (tupleText parts)
  | .deque items => do
    let inner ← levelsInside writing levels 2
    let parts ← writtenItems inner items
    .ok ("deque([" ++ commaList parts ++ "])")
  | .set items => do
    let inner ← levelsInside writing levels 2
    let parts ← writtenItems inner items
    .ok (if parts.isEmpty then "set()" else "\x7b" ++ commaList parts ++ "\x7d")
  | .range start stop step => do
    let a ← intText start
    let b ← intText stop
    let c ← intText step
    .ok (if step = 1 then "range(" ++ a ++ ", " ++ b ++ ")"
      else "range(" ++ a ++ ", " ++ b ++ ", " ++ c ++ ")")
  | .mapping entries => do
    let inner ← levelsInside writing levels 1
    let parts ← writtenEntries inner entries
    .ok ("\x7b" ++ commaList parts ++ "\x7d")
  | .view entries => do
    let inner ← levelsInside writing levels 2
    let parts ← writtenEntries inner entries
    .ok ("mappingproxy(\x7b" ++ commaList parts ++ "\x7d)")
  | .record type fields => do
    let inner ← levelsInside writing levels 2
    let parts ← writtenFields inner fields
    .ok (type ++ "(" ++ commaList parts ++ ")")
  | .object type attributes _ => do
    let inner ← levelsInside writing levels 2
    let parts ← writtenFields inner attributes
    .ok (type ++ "(" ++ commaList parts ++ ")")
  | .callable c => Platform.callableText c
  | .module name => .ok ("<module " ++ Text.quoted name ++ ">")
  | .suspended c _ _ => .ok ("<coroutine object " ++ c.name ++ " at 0x0>")
  | .described _ written => .ok written

/-- The written forms of items, in order. -/
def writtenItems (levels : Nat) : List Value → Except Raised (List String)
  | [] => .ok []
  | item :: rest => do
    let part ← writtenForm levels item
    let parts ← writtenItems levels rest
    .ok (part :: parts)

/-- The written forms of entries: key, colon, value. -/
def writtenEntries (levels : Nat) : List (Value × Value) → Except Raised (List String)
  | [] => .ok []
  | (key, value) :: rest => do
    let k ← writtenForm levels key
    let v ← writtenForm levels value
    let parts ← writtenEntries levels rest
    .ok ((k ++ ": " ++ v) :: parts)

/-- The written forms of fields: name, equals sign, value. -/
def writtenFields (levels : Nat) : List (String × Value) → Except Raised (List String)
  | [] => .ok []
  | (name, value) :: rest => do
    let v ← writtenForm levels value
    let parts ← writtenFields levels rest
    .ok ((name ++ "=" ++ v) :: parts)

end

def written (v : Value) : Except Raised String :=
  writtenForm Platform.writtenLevels v

/-- The plain form of a value for which a number of levels is left. -/
def plainForm (levels : Nat) : Value → Except Raised String
  | .text s => .ok s
  | .decimal d => .ok d.text
  | .fraction num den => do
    let n ← intText num
    if den = 1 then .ok n
    else
      let d ← intText den
      .ok (n ++ "/" ++ d)
  | .view entries => writtenForm levels (.mapping entries)
  | v => writtenForm levels v

def plain (v : Value) : Except Raised String :=
  plainForm Platform.writtenLevels v

end CallGuard.Value
