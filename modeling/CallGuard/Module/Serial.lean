import CallGuard.Number.Numeral
import CallGuard.Text.Utf8
import CallGuard.Value.Basic

/-!
Objects in the serial form of compiled bodies. An object is a letter and what the letter announces;
the high bit of the letter keeps the object, so that later parts can refer to it by its number. Of
an object only as much is known as the reading of others depends on. Reading goes on until the first
object is complete, and every fault is told by its cause.
-/

namespace CallGuard.Module

/-- An object in serial form. -/
inductive Serial
  | plain
  | text
  | bytes (content : List UInt8)
  | tuple (items : List Serial)
  | list
  | mapping
  | set
  | code
  deriving Inhabited

/-- Why bytes are not the serial form of an object. -/
inductive SerialFault
  | noObject
  | noByte
  | tooShort
  | unknownLetter
  | badReference
  | badSize (what : String)
  | badDigit
  | zeroDigit
  | badFloat (bytes : List UInt8)
  | badText (fault : Text.Utf8Fault)
  | absent (holder : String)
  | unhashable (type : String)
  | tooDeep
  | badCode
  | oddCode
  | tooFewNames
  | nameNotText

/-- What is not right about bytes that are no serial form. -/
def badData (what : String) : Raised :=
  ⟨"ValueError", "bad marshal data (" ++ what ++ ")"⟩

/-- Bytes as characters, with one mark in place of bytes that cannot be read together. -/
def shownBytes : Nat → List UInt8 → List Char
  | 0, _ => []
  | fuel + 1, bytes =>
    match Text.decodeUtf8 bytes with
    | .ok cs => cs
    | .error fault =>
      (Text.decodeUtf8 (bytes.take fault.position)).toOption.getD [] ++
        '\ufffd' :: shownBytes fuel (bytes.drop (fault.position + fault.count))

def shownFloatBytes : Nat := 200

def SerialFault.raised : SerialFault → Raised
  | .noObject => ⟨"EOFError", "EOF read where object expected"⟩
  | .noByte => ⟨"EOFError", "EOF read where not expected"⟩
  | .tooShort => ⟨"EOFError", "marshal data too short"⟩
  | .unknownLetter => badData "unknown type code"
  | .badReference => badData "invalid reference"
  | .badSize what => badData (what ++ " size out of range")
  | .badDigit => badData "digit out of range in long"
  | .zeroDigit => badData "unnormalized long data"
  | .badFloat bytes => ⟨"ValueError", "could not convert string to float: '" ++
      String.ofList (shownBytes bytes.length (bytes.take shownFloatBytes)) ++ "'"⟩
  | .badText fault => ⟨"UnicodeDecodeError", fault.text⟩
  | .absent holder => ⟨"TypeError", "NULL object in marshal data for " ++ holder⟩
  | .unhashable type => ⟨"TypeError", "unhashable type: '" ++ type ++ "'"⟩
  | .tooDeep => ⟨"ValueError", "recursion limit exceeded"⟩
  | .badCode => ⟨"SystemError", "Objects/codeobject.c:250: bad argument to internal function"⟩
  | .oddCode => ⟨"ValueError", "code: co_code is malformed"⟩
  | .tooFewNames => ⟨"ValueError", "code: co_varnames is too small"⟩
  | .nameNotText => ⟨"SystemError", "non-string found in code slot"⟩

namespace Serial

mutual

/-- The type that keeps an object from being a key, if there is one. -/
def unhashableType? : Serial → Option String
  | .list => some "list"
  | .mapping => some "dict"
  | .set => some "set"
  | .tuple items => anyUnhashable? items
  | _ => none

/-- The first type among items that keeps them from being a key. -/
def anyUnhashable? : List Serial → Option String
  | [] => none
  | item :: rest =>
    match unhashableType? item with
    | some type => some type
    | none => anyUnhashable? rest

end

def requireKey (s : Serial) : Except SerialFault Unit :=
  match s.unhashableType? with
  | some type => .error (.unhashable type)
  | none => .ok ()

def isText : Serial → Bool
  | .text => true
  | _ => false

end Serial

/-- What is left to be read, and the objects that can be referred to, which may be unfinished. -/
structure SerialReader where
  rest : List UInt8
  kept : Array (Option Serial)

/-- A step of reading. -/
abbrev Reading := StateT SerialReader (Except SerialFault)

namespace Reading

/-- Reads one byte, or fails. -/
def byteOr (fault : SerialFault) : Reading UInt8 := do
  let reader ← get
  match reader.rest with
  | [] => throw fault
  | b :: rest => do
    set { reader with rest }
    pure b

def bytes (n : Nat) : Reading (List UInt8) := do
  let reader ← get
  let taken := reader.rest.take n
  if taken.length < n then throw .tooShort
  set { reader with rest := reader.rest.drop n }
  pure taken

/-- The number that bytes write, the lowest byte first. -/
def wordOf (bytes : List UInt8) : Nat :=
  bytes.foldr (fun b n => n * 256 + b.toNat) 0

/-- The number that bytes write of which the highest bit is the sign. -/
def signedWord (bytes : List UInt8) : Int :=
  let n := wordOf bytes
  if 2 * n < Nat.pow 256 bytes.length then n else n - (Nat.pow 256 bytes.length : Nat)

def long : Reading Int :=
  signedWord <$> bytes 4

def size (what : String) : Reading Nat := do
  let n ← long
  if n < 0 then throw (.badSize what)
  pure n.toNat

/-- Reads the digits of a whole number, of fifteen bits each; the highest one is not zero. -/
def digits : Nat → Reading Unit
  | 0 => pure ()
  | n + 1 => do
    let digit ← signedWord <$> bytes 2
    if digit < 0 then throw .badDigit
    if digit = 0 && n = 0 then throw .zeroDigit
    digits n

/-- Reads a whole number: how many digits it has, whatever its sign, and the digits. -/
def wholeNumber : Reading Unit := do
  let n ← long
  if n = -(Nat.pow 2 31 : Nat) then throw (.badSize "long")
  digits n.natAbs

def isFloatText (cs : List Char) : Bool :=
  let unsigned :=
    match cs with
    | '+' :: rest | '-' :: rest => rest
    | cs => cs
  let word := String.ofList (unsigned.map Char.toLower)
  word ∈ ["inf", "infinity", "nan"] ||
    (!cs.contains '_' && (Number.scientificNumeral? cs).isSome)

/-- Reads a floating-point number as a short text, which ends at a zero byte. -/
def floatText : Reading Unit := do
  let n ← byteOr .noByte
  let content ← bytes n.toNat
  let content := content.takeWhile (· ≠ 0)
  if !isFloatText (content.map fun b => Char.ofNat b.toNat) then throw (.badFloat content)

/-- The fault of bytes that are no text; halves of surrogate pairs are let pass. -/
def textFault? (position : Nat) (content : List UInt8) : Nat → Option Text.Utf8Fault
  | 0 => none
  | fuel + 1 =>
    match Text.decodeUtf8 content with
    | .ok _ => none
    | .error fault =>
      let found : Text.Utf8Fault := { fault with position := position + fault.position }
      match content.drop fault.position with
      | a :: b :: c :: rest =>
        if a = 0xED && 0xA0 ≤ b && b ≤ 0xBF && 0x80 ≤ c && c ≤ 0xBF then
          textFault? (found.position + 3) rest fuel
        else some found
      | _ => some found

def text : Reading Unit := do
  let n ← size "string"
  let content ← bytes n
  match textFault? 0 content (content.length + 1) with
  | some fault => throw (.badText fault)
  | none => pure ()

def keep (marked : Bool) (s : Serial) : Reading Serial := do
  if marked then modify fun reader => { reader with kept := reader.kept.push (some s) }
  pure s

/-- Takes the next number for a marked object that is still to be read. -/
def reserve (marked : Bool) (s : Option Serial) : Reading (Option Nat) := do
  let reader ← get
  if marked then
    set { reader with kept := reader.kept.push s }
    pure (some reader.kept.size)
  else pure none

def finish (place : Option Nat) (s : Serial) : Reading Serial := do
  match place with
  | none => pure ()
  | some n => modify fun reader => { reader with kept := reader.kept.setIfInBounds n (some s) }
  pure s

/-- Reads what is behind the letter of an object that holds no others. -/
def leaf? (letter : Char) : Option (Reading Serial) :=
  match letter with
  | 'i' => some (bytes 4 *> pure .plain)
  | 'I' | 'g' => some (bytes 8 *> pure .plain)
  | 'y' => some (bytes 8 *> bytes 8 *> pure .plain)
  | 'l' => some (wholeNumber *> pure .plain)
  | 'f' => some (floatText *> pure .plain)
  | 'x' => some (floatText *> floatText *> pure .plain)
  | 's' => some (do Serial.bytes <$> bytes (← size "bytes object"))
  | 'a' | 'A' => some (do bytes (← size "string") *> pure .text)
  | 'z' | 'Z' => some (do bytes (← byteOr .noByte).toNat *> pure .text)
  | 'u' | 't' => some (text *> pure .text)
  | _ => none

def reference : Reading Serial := do
  let n ← long
  let reader ← get
  if n < 0 then throw .badReference
  match reader.kept[n.toNat]? with
  | some (some s) => pure s
  | _ => throw .badReference

end Reading

/-- The numbers in front of the parts of a code object. -/
structure CodeCounts where
  positional : Int
  positionalOnly : Int
  namedOnly : Int
  stack : Int
  flags : Int

/-- The parts of a code object that are looked at. -/
structure CodeParts where
  instructions : Serial
  constants : Serial
  names : Serial
  locals : Serial
  localKinds : Serial
  texts : List Serial
  tables : List Serial

namespace CodeParts

def localBit : Nat := 5

/-- The bits that tell that further arguments are taken, by position and by name. -/
def restBits : List Nat := [2, 3]

def isBytes : Serial → Bool
  | .bytes _ => true
  | _ => false

def check (counts : CodeCounts) (parts : CodeParts) : Except SerialFault Serial :=
  let numbers := [counts.positional - counts.positionalOnly, counts.positionalOnly,
    counts.namedOnly, counts.stack, counts.flags]
  match parts.instructions, parts.constants, parts.names, parts.locals, parts.localKinds with
  | .bytes instructions, .tuple _, .tuple names, .tuple locals, .bytes kinds =>
    let localCount := (kinds.filter fun b => b.toNat.testBit localBit).length
    let restCount := (restBits.filter fun bit => counts.flags.toNat.testBit bit).length
    if numbers.any (· < 0) || locals.length ≠ kinds.length || !parts.texts.all Serial.isText ||
        !parts.tables.all isBytes then .error .badCode
    else if instructions.length % 2 ≠ 0 then .error .oddCode
    else if (localCount : Int) < counts.positional + counts.namedOnly + restCount then
      .error .tooFewNames
    else if !(names ++ locals).all Serial.isText then .error .nameNotText
    else .ok .code
  | _, _, _, _, _ => .error .badCode

end CodeParts

def serialLevels : Nat := 2000

namespace Reading

/-- The object that has been read, which has to be there. -/
def present (holder : String) (found : Option Serial) : Reading Serial :=
  match found with
  | some s => pure s
  | none => throw (.absent holder)

/-- The letters of objects that are known by their letter alone. -/
def constantLetters : List Char := ['N', 'S', '.', 'F', 'T']

mutual

/-- Reads an object, of which there may be none at the end of a mapping. -/
def object : Nat → Nat → Reading (Option Serial)
  | 0, _ => throw .noObject
  | fuel + 1, depth => do
    let first ← byteOr .noObject
    if depth ≥ serialLevels then throw .tooDeep
    let marked := first.toNat ≥ 128
    let letter := Char.ofNat (first.toNat % 128)
    if letter = '0' then pure none
    else if constantLetters.contains letter then pure (some .plain)
    else if letter = 'r' then some <$> reference
    else
      match leaf? letter with
      | some leaf => do
        let s ← leaf
        some <$> keep marked s
      | none => some <$> holder fuel (depth + 1) letter marked

def holder : Nat → Nat → Char → Bool → Reading Serial
  | 0, _, _, _ => throw .noObject
  | fuel + 1, depth, letter, marked => do
    match letter with
    | '(' => tuple fuel depth marked (← size "tuple")
    | ')' => tuple fuel depth marked (← byteOr .noByte).toNat
    | '[' => do
      let n ← size "list"
      let _ ← keep marked .list
      let _ ← items fuel depth "list" n
      pure .list
    | '\x7b' => do
      let _ ← keep marked .mapping
      entries fuel depth
      pure .mapping
    | '<' => do
      let n ← size "set"
      let _ ← keep marked .set
      members fuel depth n
      pure .set
    | '>' => do
      let n ← size "set"
      let place ← reserve marked none
      members fuel depth n
      finish place .plain
    | 'c' => do
      let place ← reserve marked none
      let s ← code fuel depth
      finish place s
    | _ => throw .unknownLetter

def tuple : Nat → Nat → Bool → Nat → Reading Serial
  | 0, _, _, _ => throw .noObject
  | fuel + 1, depth, marked, n => do
    let place ← reserve marked (some (.tuple []))
    let found ← items fuel depth "tuple" n
    finish place (.tuple found)

def items : Nat → Nat → String → Nat → Reading (List Serial)
  | 0, _, _, _ => throw .noObject
  | _ + 1, _, _, 0 => pure []
  | fuel + 1, depth, what, n + 1 => do
    let item ← present what (← object fuel depth)
    let rest ← items fuel depth what n
    pure (item :: rest)

def members : Nat → Nat → Nat → Reading Unit
  | 0, _, _ => throw .noObject
  | _ + 1, _, 0 => pure ()
  | fuel + 1, depth, n + 1 => do
    let member ← present "set" (← object fuel depth)
    member.requireKey
    members fuel depth n

def entries : Nat → Nat → Reading Unit
  | 0, _ => throw .noObject
  | fuel + 1, depth => do
    match ← object fuel depth with
    | none => pure ()
    | some key =>
      match ← object fuel depth with
      | none => pure ()
      | some _ => do
        key.requireKey
        entries fuel depth

def code : Nat → Nat → Reading Serial
  | 0, _ => throw .noObject
  | fuel + 1, depth => do
    let part : Reading Serial := do present "code object" (← object fuel depth)
    let positional ← long
    let positionalOnly ← long
    let namedOnly ← long
    let stack ← long
    let flags ← long
    let instructions ← part
    let constants ← part
    let names ← part
    let locals ← part
    let localKinds ← part
    let file ← part
    let name ← part
    let path ← part
    let _ ← long
    let lines ← part
    let handlers ← part
    CodeParts.check ⟨positional, positionalOnly, namedOnly, stack, flags⟩
      ⟨instructions, constants, names, locals, localKinds, [file, name, path], [lines, handlers]⟩

end

end Reading

/--
The first object in bytes. Every object has a letter of its own, and no more steps than four lie
between an object and the next inside it.
-/
def Serial.ofBytes (bytes : List UInt8) : Except SerialFault Serial :=
  let reading : Reading Serial := do
    Reading.present "object" (← Reading.object (4 * (bytes.length + 1)) 0)
  reading.run' ⟨bytes, #[]⟩

end CallGuard.Module
