import CallGuard.Text.Trim
import CallGuard.Number.Binary64

/-!
Numerals in text. A whole numeral is an optional sign and decimal digits of any script; a
scientific numeral may also have a point and a power of ten. Texts of more than 4300 digits are
never read as whole numbers.
-/

namespace CallGuard.Number

open CallGuard.Text

/-- The largest number of digits in a text that is read as, or written for, a whole number. -/
def digitLimit : Nat := 4300

/-- Splits an optional sign off the front; the flag tells a minus sign. -/
def splitSign : List Char → Bool × List Char
  | '+' :: cs => (false, cs)
  | '-' :: cs => (true, cs)
  | cs => (false, cs)

/-- The digits of a text in which an underscore may stand between two digits. -/
def digitGroups? : List Char → Option (List Nat)
  | [] => none
  | c :: cs =>
    match digitValue? c with
    | none => none
    | some d =>
      match cs with
      | [] => some [d]
      | '_' :: rest => (digitGroups? rest).map (d :: ·)
      | rest => (digitGroups? rest).map (d :: ·)

def wholeNumeral? (cs : List Char) : Option Int :=
  let (negative, body) := splitSign cs
  match digitGroups? body with
  | none => none
  | some digits =>
    if digits.length > digitLimit then none
    else
      let size : Int := ofDigits 10 digits
      some (if negative then -size else size)

/-- A blank that may surround a whole numeral: the four ASCII separators are no such blanks. -/
def isNumeralBlank (c : Char) : Bool :=
  isBlank c && !(28 ≤ c.toNat && c.toNat ≤ 31)

/-- A text without the blanks that may surround a whole numeral. -/
def trimNumeral (cs : List Char) : List Char :=
  ((cs.dropWhile isNumeralBlank).reverse.dropWhile isNumeralBlank).reverse

def paddedNumeral? (cs : List Char) : Option Int :=
  wholeNumeral? (trimNumeral cs)

/-- A text that is a whole numeral without underscores, between blanks. -/
def isWholeText (cs : List Char) : Bool :=
  !cs.contains '_' && (wholeNumeral? (trim cs)).isSome

def digitsValue (cs : List Char) : Nat :=
  ofDigits 10 (cs.filterMap digitValue?)

/-- A decimal number as it is written: `± coefficient · 10 ^ exponent`. -/
structure Numeral where
  negative : Bool
  coefficient : Nat
  exponent : Int
  deriving DecidableEq, Repr

/-- The power of ten at the end of a scientific numeral; no power counts as the power zero. -/
def powerOfTen? : List Char → Option Int
  | [] => some 0
  | c :: cs =>
    if c = 'e' || c = 'E' then
      let (negative, digits) := splitSign cs
      if digits.isEmpty || !digits.all isDecimal then none
      else
        let size : Int := digitsValue digits
        some (if negative then -size else size)
    else none

def scientificNumeral? (cs : List Char) : Option Numeral :=
  let (negative, body) := splitSign cs
  let whole := body.takeWhile isDecimal
  let rest := body.dropWhile isDecimal
  let (fraction, tail) :=
    match rest with
    | '.' :: after => (after.takeWhile isDecimal, after.dropWhile isDecimal)
    | _ => ([], rest)
  if whole.isEmpty && fraction.isEmpty then none
  else
    (powerOfTen? tail).map fun power =>
      ⟨negative, digitsValue (whole ++ fraction), power - fraction.length⟩

def Numeral.toBinary64 (numeral : Numeral) : Binary64 :=
  .ofScientific numeral.negative numeral.coefficient numeral.exponent

/-- A text that is a scientific numeral without underscores, between blanks, and not too large. -/
def isNumberText (cs : List Char) : Bool :=
  !cs.contains '_' &&
    match scientificNumeral? (trim cs) with
    | some numeral => numeral.toBinary64.isFinite
    | none => false

end CallGuard.Number
