import CallGuard.Number.Numeral
import CallGuard.Text.Points

/-!
# What a JSON text says

JSON documents, and the grammar of JSON as a reader. A text is read from the front; it says one
document or none. Inside a text the halves of a surrogate pair that are escaped one after another
make up one character. A number is kept as it is spelled.
-/

namespace CallGuard

namespace Text

/-- The first half of a surrogate pair. -/
def isHighHalf (n : Nat) : Bool :=
  0xD800 ≤ n && n < 0xDC00

/-- The second half of a surrogate pair. -/
def isLowHalf (n : Nat) : Bool :=
  0xDC00 ≤ n && n < 0xE000

/-- The code points in which two halves that stand one after another are one character. -/
def joinHalves : List Nat → List Nat
  | high :: low :: rest =>
    if isHighHalf high && isLowHalf low then
      (0x10000 + (high - 0xD800) * 0x400 + (low - 0xDC00)) :: joinHalves rest
    else high :: joinHalves (low :: rest)
  | rest => rest

end Text

namespace Log

open CallGuard.Number

/-- A JSON document. Texts are code points, and the members of an object keep their order. -/
inductive Document
  | null
  | bool (b : Bool)
  | number (numeral : Numeral)
  | text (points : List Nat)
  | array (items : List Document)
  | object (members : List (List Nat × Document))
  deriving Inhabited

/-- A blank that may stand between any two signs of a JSON text. -/
def isJsonBlank (c : Char) : Bool :=
  c = ' ' || c = '\t' || c = '\n' || c = '\r'

def skipBlanks (cs : List Char) : List Char :=
  cs.dropWhile isJsonBlank

/-! ### Texts -/

def hexValue? (c : Char) : Option Nat :=
  let n := c.toNat
  if 48 ≤ n && n < 58 then some (n - 48)
  else if 97 ≤ n && n < 103 then some (n - 87)
  else if 65 ≤ n && n < 71 then some (n - 55)
  else none

/-- The unit that four hexadecimal digits stand for. -/
def unitOf? (a b c d : Char) : Option Nat := do
  let a ← hexValue? a
  let b ← hexValue? b
  let c ← hexValue? c
  let d ← hexValue? d
  some (a * 4096 + b * 256 + c * 16 + d)

def shortEscape? (c : Char) : Option Nat :=
  match c with
  | '"' => some 34
  | '\\' => some 92
  | '/' => some 47
  | 'b' => some 8
  | 'f' => some 12
  | 'n' => some 10
  | 'r' => some 13
  | 't' => some 9
  | _ => none

/-- Reads the rest of a text up to its closing quote: its units, and what follows the quote. -/
def readUnits : List Char → Option (List Nat × List Char)
  | [] => none
  | '\\' :: 'u' :: a :: b :: c :: d :: rest => do
    let unit ← unitOf? a b c d
    let (units, rest) ← readUnits rest
    some (unit :: units, rest)
  | '\\' :: c :: rest => do
    let unit ← shortEscape? c
    let (units, rest) ← readUnits rest
    some (unit :: units, rest)
  | c :: rest =>
    if c = '"' then some ([], rest)
    else if c.toNat < 32 then none
    else do
      let (units, rest) ← readUnits rest
      some (c.toNat :: units, rest)

/-! ### Words -/

/-- A character of a number or of one of the three words of JSON. -/
def isWordSign (c : Char) : Bool :=
  c.isAlphanum || c = '+' || c = '-' || c = '.'

/--
Whether a word is a number of JSON: a minus sign or none, digits of which only a single one may be a
leading zero, and perhaps a point with digits after it and a power of ten.
-/
def isJsonNumber (word : List Char) : Bool :=
  let body := (splitSign word).2
  let whole := body.takeWhile Char.isDigit
  let rest := body.dropWhile Char.isDigit
  let tail :=
    match rest with
    | '.' :: after => if (after.takeWhile Char.isDigit).isEmpty then rest
      else after.dropWhile Char.isDigit
    | _ => rest
  word.head? ≠ some '+' && !whole.isEmpty && (whole.head? ≠ some '0' || whole.length = 1) &&
    (powerOfTen? tail).isSome

def wordDocument? (word : List Char) : Option Document :=
  if word = ['n', 'u', 'l', 'l'] then some .null
  else if word = ['t', 'r', 'u', 'e'] then some (.bool true)
  else if word = ['f', 'a', 'l', 's', 'e'] then some (.bool false)
  else if isJsonNumber word then (scientificNumeral? word).map .number
  else none

/-! ### Documents -/

section Sequences

variable {α : Type}

/-- Reads parts with commas between them up to a closing sign; at least one part comes first. -/
def readParts (read : List Char → Option (α × List Char)) (close : Char) :
    Nat → List Char → Option (List α × List Char)
  | 0, _ => none
  | count + 1, cs => do
    let (a, rest) ← read (skipBlanks cs)
    match skipBlanks rest with
    | [] => none
    | c :: rest =>
      if c = ',' then do
        let (found, rest) ← readParts read close count rest
        some (a :: found, rest)
      else if c = close then some ([a], rest)
      else none

/-- Reads parts up to a closing sign, or the closing sign alone. -/
def readSequence (read : List Char → Option (α × List Char)) (close : Char) (cs : List Char) :
    Option (List α × List Char) :=
  match skipBlanks cs with
  | [] => none
  | c :: rest => if c = close then some ([], rest) else readParts read close cs.length (c :: rest)

/-- Reads a member of an object: its name, a colon and what is read after it. -/
def readMember (read : List Char → Option (α × List Char)) (cs : List Char) :
    Option ((List Nat × α) × List Char) :=
  match cs with
  | [] => none
  | c :: rest =>
    if c = '"' then do
      let (name, rest) ← readUnits rest
      match skipBlanks rest with
      | [] => none
      | c :: rest =>
        if c = ':' then do
          let (a, rest) ← read (skipBlanks rest)
          some ((Text.joinHalves name, a), rest)
        else none
    else none

end Sequences

/-- Reads a document for which a number of levels is left, and what follows it. -/
def readDocument : Nat → List Char → Option (Document × List Char)
  | 0, _ => none
  | _ + 1, [] => none
  | levels + 1, c :: rest =>
    if c = '"' then do
      let (units, rest) ← readUnits rest
      some (.text (Text.joinHalves units), rest)
    else if c = '[' then do
      let (items, rest) ← readSequence (readDocument levels) ']' rest
      some (.array items, rest)
    else if c = '\x7b' then do
      let (members, rest) ← readSequence (readMember (readDocument levels)) '\x7d' rest
      some (.object members, rest)
    else do
      let document ← wordDocument? ((c :: rest).takeWhile isWordSign)
      some (document, (c :: rest).dropWhile isWordSign)

/-- The document that a text says. It has fewer levels than the text has characters. -/
def Document.ofText? (s : String) : Option Document := do
  let (document, rest) ← readDocument (s.length + 1) (skipBlanks s.toList)
  if (skipBlanks rest).isEmpty then some document else none

example : Document.ofText? "[true, \"\\ud83d\\ude00\"] " =
    some (.array [.bool true, .text [0x1F600]]) := by cbv

end Log

end CallGuard
