import CallGuard.Number.FloatText
import CallGuard.Text.Points
import CallGuard.Value.Key
import CallGuard.Value.Written

/-!
Message templates. A directive starts with a percent sign, may name a key, flags, a width and a
precision, and ends with a letter that says how its argument is written; two percent signs stand for
one. The arguments come from a tuple in order, or from a mapping by key; every member of a tuple has
to be used. A filled template is a list of code points, since a code can be given that is none of a
character.
-/

namespace CallGuard.Log

open CallGuard.Number

/-- The flags of a directive. -/
structure Flags where
  left : Bool := false
  plus : Bool := false
  blank : Bool := false
  alternate : Bool := false
  zero : Bool := false
  deriving Repr, Inhabited

/-- The arguments that are left: members of a tuple, one value that stands alone, or nothing. -/
inductive Supply
  | members (rest : List Value)
  | single (v : Value)
  | used
  deriving Inhabited

def tooFew : Raised := ⟨"TypeError", "not enough arguments for format string"⟩

def tooMany : Raised := ⟨"TypeError", "not all arguments converted during string formatting"⟩

def Supply.next : Supply → Except Raised (Value × Supply)
  | .members (v :: rest) => .ok (v, .members rest)
  | .single v => .ok (v, .used)
  | .members [] | .used => .error tooFew

/-- A value whose parts can be looked up, so that it may stay unused. -/
def isLookup : Value → Bool
  | .mapping _ | .view _ | .list _ | .bytes _ | .byteArray _ | .range .. => true
  | _ => false

def entries? : Value → Option (List (Value × Value))
  | .mapping entries => some entries
  | .view entries => some entries
  | _ => none

/-- A directive without its key. -/
structure Directive where
  flags : Flags
  width : Nat
  precision : Option Nat
  letter : Char
  deriving Inhabited

/-- The whole number in a value, cut towards zero. -/
def wholePart (letter : Char) (v : Value) : Except Raised Int :=
  let refuse (what : String) : Except Raised Int :=
    .error ⟨"TypeError", "%" ++ String.singleton letter ++ " format: " ++ what ++
      " is required, not " ++ v.fullTypeName⟩
  match v with
  | .int n => .ok n
  | .bool b => .ok (if b then 1 else 0)
  | _ =>
    if letter = 'x' || letter = 'X' || letter = 'o' then refuse "an integer"
    else
      match v with
      | .float .nan => .error ⟨"ValueError", "cannot convert float NaN to integer"⟩
      | .float (.infinite _) =>
        .error ⟨"OverflowError", "cannot convert float infinity to integer"⟩
      | .decimal (.nan ..) => .error ⟨"ValueError", "cannot convert NaN to integer"⟩
      | .decimal (.infinite _) => .error ⟨"OverflowError", "cannot convert Infinity to integer"⟩
      | .float x =>
        match x.ratio? with
        | some (num, den) => .ok (Int.tdiv num den)
        | none => .ok 0
      | .decimal d => .ok d.whole
      | .fraction num den => .ok (Int.tdiv num den)
      | _ => refuse "a real number"

def floatPart (v : Value) : Except Raised Binary64 :=
  match v with
  | .float x => .ok x
  | .bool b => .ok (.ofInt (if b then 1 else 0))
  | .int n =>
    let x := Binary64.ofInt n
    if x.isFinite then .ok x
    else .error ⟨"OverflowError", "int too large to convert to float"⟩
  | .decimal (.finite negative coefficient exponent) =>
    .ok (.ofScientific negative coefficient exponent)
  | .decimal (.infinite negative) => .ok (.infinite negative)
  | .decimal (.nan _ signaling _) =>
    if signaling then .error ⟨"ValueError", "cannot convert signaling NaN to float"⟩ else .ok .nan
  | .fraction num den =>
    let x := Binary64.ofRatio (num < 0) num.natAbs den
    if x.isFinite then .ok x
    else .error ⟨"OverflowError", "integer division result too large for a float"⟩
  | _ => .error ⟨"TypeError", "must be real number, not " ++ v.fullTypeName⟩

def signText (flags : Flags) (negative : Bool) : List Char :=
  if negative then ['-'] else if flags.plus then ['+'] else if flags.blank then [' '] else []

def boundlessWidth : Nat := Nat.pow 10 11

def tooLarge : Raised := ⟨"MemoryError", ""⟩

/-- Fills a text up to a width: zeros go between the lead and the body, blanks outside. -/
def fill (d : Directive) (numeric : Bool) (lead body : List Nat) : Except Raised (List Nat) :=
  let missing := d.width - (lead.length + body.length)
  let pad (c : Char) : List Nat := List.replicate missing c.toNat
  if d.width ≥ boundlessWidth then .error tooLarge
  else if d.flags.left then .ok (lead ++ body ++ pad ' ')
  else if numeric && d.flags.zero then .ok (lead ++ pad '0' ++ body)
  else .ok (pad ' ' ++ lead ++ body)

def fillText (d : Directive) (numeric : Bool) (lead body : List Char) :
    Except Raised (List Nat) :=
  fill d numeric (Text.points lead) (Text.points body)

def largestWholePrecision : Nat := Nat.pow 2 31 - 4

def wholeText (d : Directive) (n : Int) : Except Raised (List Nat) := do
  if d.precision.getD 0 > largestWholePrecision then
    .error ⟨"OverflowError", "precision too large"⟩
  let size := n.natAbs
  let body ←
    if d.letter = 'x' then .ok (digitsIn 16 size)
    else if d.letter = 'X' then .ok ((digitsIn 16 size).map Char.toUpper)
    else if d.letter = 'o' then .ok (digitsIn 8 size)
    else String.toList <$> Value.intText size
  let base :=
    if !d.flags.alternate then []
    else if d.letter = 'x' then ['0', 'x']
    else if d.letter = 'X' then ['0', 'X']
    else if d.letter = 'o' then ['0', 'o']
    else []
  let padded := List.replicate (d.precision.getD 0 - body.length) '0' ++ body
  fillText d true (signText d.flags (n < 0) ++ base) padded

def floatText (d : Directive) (x : Binary64) : Except Raised (List Nat) :=
  let capital := d.letter.isUpper
  let places := d.precision.getD 6
  let body : List Char :=
    match x.abs.ratio? with
    | none => (if x = .nan then "nan" else "inf").toList
    | some (num, den) =>
      let n := num.toNat
      let keep := d.flags.alternate
      if d.letter.toLower = 'f' then fixedText n den places keep
      else if d.letter.toLower = 'e' then scientificText 'e' n den places keep
      else generalText 'e' n den places keep
  let shown := if capital then body.map Char.toUpper else body
  fillText d true (signText d.flags x.isNegative) shown

/-- The code point of a character given by its code or as a text of length one. -/
def characterOf (v : Value) : Except Raised Nat :=
  match v with
  | .int n =>
    if 0 ≤ n && n < 0x110000 then .ok n.toNat
    else .error ⟨"OverflowError", "%c arg not in range(0x110000)"⟩
  | .bool b => .ok (if b then 1 else 0)
  | .text s =>
    match s.toList with
    | [c] => .ok c.toNat
    | _ => .error ⟨"TypeError", "%c requires int or char"⟩
  | _ => .error ⟨"TypeError", "%c requires int or char"⟩

variable [Platform]

/-- The text of an argument under a directive; `index` is the place of the letter. -/
def directiveText (d : Directive) (index : Nat) (v : Value) : Except Raised (List Nat) := do
  let cut (cs : List Char) : List Char :=
    match d.precision with
    | some n => cs.take n
    | none => cs
  let letter := d.letter
  if letter = 's' then
    let s ← v.plain
    fillText d false [] (cut s.toList)
  else if letter = 'r' then
    let s ← v.written
    fillText d false [] (cut s.toList)
  else if letter = 'a' then
    let s ← v.written
    fillText d false [] (cut (Text.asciiOnly s).toList)
  else if letter = 'c' then
    let code ← characterOf v
    fill d false [] [code]
  else if letter ∈ ['d', 'i', 'u', 'x', 'X', 'o'] then
    let n ← wholePart letter v
    wholeText d n
  else if letter ∈ ['e', 'E', 'f', 'F', 'g', 'G'] then
    let x ← floatPart v
    floatText d x
  else
    let n := letter.toNat
    let shown := if 31 ≤ n && n ≤ 126 then letter else '?'
    .error ⟨"ValueError", "unsupported format character '" ++ String.singleton shown ++ "' (0x" ++
      String.ofList (Nat.toDigits 16 n) ++ ") at index " ++ toString index⟩

/-- Reads the key between parentheses, which may nest; `depth` counts the open ones. -/
def splitKey? (depth : Nat) : List Char → Option (List Char × List Char)
  | [] => none
  | ')' :: rest =>
    if depth ≤ 1 then some ([], rest)
    else (splitKey? (depth - 1) rest).map fun (key, tail) => (')' :: key, tail)
  | c :: rest =>
    (splitKey? (if c = '(' then depth + 1 else depth) rest).map fun (key, tail) => (c :: key, tail)

def splitFlags (flags : Flags) : List Char → Flags × List Char
  | '-' :: rest => splitFlags { flags with left := true } rest
  | '+' :: rest => splitFlags { flags with plus := true } rest
  | ' ' :: rest => splitFlags { flags with blank := true } rest
  | '#' :: rest => splitFlags { flags with alternate := true } rest
  | '0' :: rest => splitFlags { flags with zero := true } rest
  | rest => (flags, rest)

/-- A number in a directive: what it is called, and the largest one with the name of its type. -/
structure CountRule where
  name : String
  largest : Nat
  type : String

def widthRule : CountRule := ⟨"width", Nat.pow 2 63 - 1, "ssize_t"⟩

def precisionRule : CountRule := ⟨"precision", Nat.pow 2 31 - 1, "int"⟩

def CountRule.ofArgument (rule : CountRule) (n : Int) : Except Raised Int :=
  if -(rule.largest : Int) - 1 ≤ n && n ≤ rule.largest then .ok n
  else
    .error ⟨"OverflowError", "Python int too large to convert to C " ++ rule.type⟩

/-- Reads a number off the front: digits, or a star that takes an argument. -/
def splitCount (rule : CountRule) (supply : Supply) : List Char →
    Except Raised (Int × Supply × List Char)
  | '*' :: rest => do
    let (v, supply) ← supply.next
    match v with
    | .int n => do
      let n ← rule.ofArgument n
      .ok (n, supply, rest)
    | .bool b => .ok (if b then 1 else 0, supply, rest)
    | _ => .error ⟨"TypeError", "* wants int"⟩
  | cs =>
    let n := digitsValue (cs.takeWhile Char.isDigit)
    if n ≤ rule.largest then .ok (n, supply, cs.dropWhile Char.isDigit)
    else .error ⟨"ValueError", rule.name ++ " too big"⟩

/-- What a directive has read: itself, the arguments that are left, and the text after it. -/
structure DirectiveReading where
  directive : Directive
  supply : Supply
  rest : List Char

def readDirective (supply : Supply) (cs : List Char) : Except Raised DirectiveReading := do
  let (flags, cs) := splitFlags {} cs
  let (width, supply, cs) ← splitCount widthRule supply cs
  let flags := if width < 0 then { flags with left := true } else flags
  let (precision, supply, cs) ←
    match cs with
    | '.' :: after => do
      let (n, supply, cs) ← splitCount precisionRule supply after
      .ok (some n.toNat, supply, cs)
    | cs => .ok (none, supply, cs)
  let cs :=
    match cs with
    | c :: rest => if c = 'h' || c = 'l' || c = 'L' then rest else cs
    | [] => cs
  match cs with
  | [] => .error ⟨"ValueError", "incomplete format"⟩
  | letter :: rest => .ok ⟨⟨flags, width.natAbs, precision, letter⟩, supply, rest⟩

/-- The error of looking a text up in a sequence; other values without keys have no such error. -/
def badKey? : Value → Option Raised
  | .list _ => some (refusal "list")
  | .bytes _ => some (refusal "byte")
  | .byteArray _ => some (refusal "bytearray")
  | .range .. => some (refusal "range")
  | _ => none
where
  /-- The error for a kind of sequence. -/
  refusal (sequence : String) : Raised :=
    ⟨"TypeError", sequence ++ " indices must be integers or slices, not str"⟩

def lookUp (arguments : Value) (key : String) : Except Raised Value :=
  match entries? arguments, badKey? arguments with
  | some entries, _ =>
    match Value.entryAt? entries key with
    | some v => .ok v
    | none => .error (.about "KeyError" key)
  | none, some e => .error e
  | none, none => .error ⟨"TypeError", "format requires a mapping"⟩

/-- Fills a template from the front; `size` is the length of the whole template. -/
def fillFrom (size : Nat) (arguments : Value) : Nat → Supply → List Char →
    Except Raised (List Nat × Supply)
  | 0, supply, _ => .ok ([], supply)
  | _ + 1, supply, [] => .ok ([], supply)
  | fuel + 1, supply, '%' :: '%' :: cs => do
    let (text, supply) ← fillFrom size arguments fuel supply cs
    .ok ('%'.toNat :: text, supply)
  | fuel + 1, supply, '%' :: cs => do
    let (supply, cs) ←
      match cs with
      | '(' :: inner =>
        if !isLookup arguments then .error ⟨"TypeError", "format requires a mapping"⟩
        else
          match splitKey? 1 inner with
          | none => .error ⟨"ValueError", "incomplete format key"⟩
          | some (key, rest) => do
            let v ← lookUp arguments (String.ofList key)
            .ok (Supply.single v, rest)
      | cs => .ok (supply, cs)
    let reading ← readDirective supply cs
    let (v, supply) ← reading.supply.next
    let shown ← directiveText reading.directive (size - reading.rest.length - 1) v
    let (text, supply) ← fillFrom size arguments fuel supply reading.rest
    .ok (shown ++ text, supply)
  | fuel + 1, supply, c :: cs => do
    let (text, supply) ← fillFrom size arguments fuel supply cs
    .ok (c.toNat :: text, supply)

def supplyOf : Value → Supply
  | .tuple items => .members items
  | .record _ fields => .members (fields.map (·.2))
  | v => .single v

def fillTemplate (template : String) (arguments : Value) : Except Raised (List Nat) := do
  let cs := template.toList
  let (text, left) ← fillFrom cs.length arguments cs.length (supplyOf arguments) cs
  match left with
  | .members (_ :: _) => .error tooMany
  | .single _ => if isLookup arguments then .ok text else .error tooMany
  | _ => .ok text

end CallGuard.Log
