import CallGuard.Files.Location
import CallGuard.Text.Character
import CallGuard.Text.Utf8
import CallGuard.Value.Written

/-!
Sources that are given as bytes. Of such a source only the names, the literals of text and the space
before the first line of code are looked at: a name has to be readable and made of characters that
names may have. A source that is a single name asks for its value, and one that is a single
statement may raise an error about a power of two numerals; all others define nothing.
-/

namespace CallGuard.Module

open CallGuard.Number

/-- What is wrong with a source, with the line where it shows. -/
inductive SourceFault
  | nullByte
  | indented (line : Nat)
  | unreadable (line : Nat) (fault : Text.Utf8Fault)
  | badCharacter (line : Nat) (c : Char)
  | unterminated (line : Nat)
  | unbound (name : String)

/-- A number in capital hexadecimal digits, at least four of them. -/
def pointDigits (n : Nat) : String :=
  let digits := (Nat.toDigits 16 n).map Char.toUpper
  String.ofList (List.replicate (4 - digits.length) '0' ++ digits)

/-- The words for a character that names may not have. -/
def badCharacterText (c : Char) : String :=
  let point := "U+" ++ pointDigits c.toNat
  if Text.isPrinted c then "invalid character '" ++ String.singleton c ++ "' (" ++ point ++ ")"
  else "invalid non-printable character " ++ point

def SourceFault.raised (file : String) (fault : SourceFault) : Raised :=
  let place (line : Nat) : String :=
    " (" ++ Files.baseName file ++ ", line " ++ toString line ++ ")"
  match fault with
  | .nullByte => ⟨"SyntaxError", "source code string cannot contain null bytes"⟩
  | .indented line => ⟨"IndentationError", "unexpected indent" ++ place line⟩
  | .unreadable line fault => ⟨"SyntaxError", "(unicode error) " ++ fault.text ++ place line⟩
  | .badCharacter line c => ⟨"SyntaxError", badCharacterText c ++ place line⟩
  | .unterminated line =>
    ⟨"SyntaxError",
      "unterminated string literal (detected at line " ++ toString line ++ ")" ++ place line⟩
  | .unbound name => ⟨"NameError", "name '" ++ name ++ "' is not defined"⟩

/-- A piece of a source: a name, or anything else. -/
inductive SourcePiece
  | name (text : String)
  | other
  deriving DecidableEq, Repr

namespace SourceText

def lineEnd : UInt8 := 10

def withLineEnds : List UInt8 → List UInt8
  | 13 :: 10 :: rest => lineEnd :: withLineEnds rest
  | 13 :: rest => lineEnd :: withLineEnds rest
  | b :: rest => b :: withLineEnds rest
  | [] => []

def frontMark : List UInt8 := [0xEF, 0xBB, 0xBF]

/-- The bytes without the mark at their front. -/
def withoutMark (bytes : List UInt8) : List UInt8 :=
  if frontMark.isPrefixOf bytes then bytes.drop frontMark.length else bytes

def isDigit (b : UInt8) : Bool :=
  48 ≤ b && b ≤ 57

/-- A byte that a name may have; those beyond ASCII are told apart when the name is read. -/
def isNameByte (b : UInt8) : Bool :=
  isDigit b || b == 95 || (65 ≤ b && b ≤ 90) || (97 ≤ b && b ≤ 122) || 128 ≤ b

def isQuote (b : UInt8) : Bool :=
  b == 34 || b == 39

def isLoneNumber (c : Char) : Bool :=
  ['²', '³', '¹', '¼', '½', '¾'].contains c

def isJoined (c : Char) : Bool :=
  0x300 ≤ c.toNat && c.toNat ≤ 0x36F

def startsName (c : Char) : Bool :=
  Text.isWord c && !Text.isDecimal c && !isLoneNumber c

def continuesName (c : Char) : Bool :=
  (Text.isWord c && !isLoneNumber c) || isJoined c

/-- The first character of a text that keeps it from being a name. -/
def badCharacter? : List Char → Option Char
  | [] => none
  | c :: rest => if startsName c then rest.find? fun d => !continuesName d else some c

def nameOf (line : Nat) (bytes : List UInt8) : Except SourceFault SourcePiece :=
  match Text.decodeUtf8 bytes with
  | .error fault => .error (.unreadable line fault)
  | .ok cs =>
    match badCharacter? cs with
    | some c => .error (.badCharacter line c)
    | none => .ok (.name (String.ofList cs))

/-- The content of a literal on one line up to its closing quote, and what follows the quote. -/
def literal? (quote : UInt8) : List UInt8 → Option (List UInt8 × List UInt8)
  | [] => none
  | b :: rest =>
    if b == quote then some ([], rest)
    else if b == lineEnd then none
    else
      match b, rest with
      | 92, c :: later => (literal? quote later).map fun (content, after) =>
        (b :: c :: content, after)
      | _, rest => (literal? quote rest).map fun (content, after) => (b :: content, after)

/-- Where the reading of a source has come to: the line, and what stands before its code. -/
structure Position where
  line : Nat := 1
  atStart : Bool := true
  indented : Bool := false

def Position.next (position : Position) : Position :=
  { line := position.line + 1 }

/-- The position after space; before code it indents, or starts the line anew. -/
def Position.afterSpace (position : Position) (indents : Bool) : Position :=
  if position.atStart then { position with indented := indents } else position

def Position.within (position : Position) : Position :=
  { position with atStart := false }

/-- The pieces of a source from a position on; the pieces read so far come last first. -/
def piecesFrom (position : Position) (found : List SourcePiece) :
    Nat → List UInt8 → Except SourceFault (List SourcePiece)
  | 0, _ | _, [] => .ok found.reverse
  | fuel + 1, b :: rest =>
    if b == lineEnd then piecesFrom position.next found fuel rest
    else if b == 35 then piecesFrom position found fuel (rest.dropWhile (· != lineEnd))
    else if b == 32 || b == 9 then piecesFrom (position.afterSpace true) found fuel rest
    else if b == 12 then piecesFrom (position.afterSpace false) found fuel rest
    else if found.isEmpty && position.atStart && position.indented then
      .error (.indented position.line)
    else if isQuote b then
      match literal? b rest with
      | none => .error (.unterminated position.line)
      | some (content, after) =>
        match Text.decodeUtf8 content with
        | .error fault => .error (.unreadable position.line fault)
        | .ok _ => piecesFrom position.within (.other :: found) fuel after
    else if isNameByte b && !isDigit b then do
      let piece ← nameOf position.line (b :: rest.takeWhile isNameByte)
      piecesFrom position.within (piece :: found) fuel (rest.dropWhile isNameByte)
    else piecesFrom position.within (.other :: found) fuel rest

/-- The words of sources, and the functions and types that every source knows. -/
def knownNames : List String :=
  ["False", "None", "True", "and", "as", "assert", "async", "await", "break", "class",
    "continue", "def", "del", "elif", "else", "except", "finally", "for", "from", "global", "if",
    "import", "in", "is", "lambda", "nonlocal", "not", "or", "pass", "raise", "return", "try",
    "while", "with", "yield", "__build_class__", "__builtins__", "__cached__", "__debug__",
    "__doc__", "__file__", "__import__", "__loader__", "__name__", "__package__", "__spec__",
    "abs", "aiter", "all", "anext", "any", "ascii", "bin", "bool", "breakpoint", "bytearray",
    "bytes", "callable", "chr", "classmethod", "compile", "complex", "copyright", "credits",
    "delattr", "dict", "dir", "divmod", "enumerate", "eval", "exec", "exit", "filter", "float",
    "format", "frozenset", "getattr", "globals", "hasattr", "hash", "help", "hex", "id", "input",
    "int", "isinstance", "issubclass", "iter", "len", "license", "list", "locals", "map", "max",
    "memoryview", "min", "next", "object", "oct", "open", "ord", "pow", "print", "property",
    "quit", "range", "repr", "reversed", "round", "set", "setattr", "slice", "sorted",
    "staticmethod", "str", "sum", "super", "tuple", "type", "vars", "zip"]

/-- What is wrong with a source, if anything. -/
def fault? (bytes : List UInt8) : Option SourceFault :=
  if bytes.contains 0 then some .nullByte
  else
    let code := withLineEnds (withoutMark bytes)
    match piecesFrom {} [] code.length code with
    | .error fault => some fault
    | .ok [.name name] => if knownNames.contains name then none else some (.unbound name)
    | .ok _ => none

/-- The kinds of errors that show as their text the only thing that they are about. -/
def plainKinds : List String :=
  ["ArithmeticError", "AssertionError", "Exception", "ImportError", "LookupError", "RuntimeError",
    "TypeError", "ValueError"]

/-- An error about a whole number; a number that cannot be written leaves it without a text. -/
def errorAbout (kind : String) (n : Int) : Raised :=
  ⟨kind, if Value.isTooLong n then .failing Value.digitExcess else .known (toString n)⟩

def power? (cs : List Char) : Option Int :=
  match Text.pieces '*' cs with
  | [base, [], exponent] => do
    let base ← wholeNumeral? base
    let exponent ← wholeNumeral? exponent
    some (Int.pow base exponent.toNat)
  | _ => none

def raiseWord : List Char := "raise ".toList

/-- The error that a source raises which is a single statement that raises one about a power. -/
def failure? (bytes : List UInt8) : Option Raised := do
  let code ← (Text.decodeUtf8 (withLineEnds (withoutMark bytes))).toOption
  let body := code.drop raiseWord.length
  let kind := String.ofList (body.takeWhile (· != '('))
  if !raiseWord.isPrefixOf code || !plainKinds.contains kind then none
  else
    match (Text.trimEnd (body.dropWhile (· != '('))).reverse with
    | ')' :: inner => errorAbout kind <$> power? (inner.reverse.drop 1)
    | _ => none

end SourceText

end CallGuard.Module
