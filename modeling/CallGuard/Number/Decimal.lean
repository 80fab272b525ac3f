import CallGuard.Number.Numeral

/-!
Decimal numbers of any precision, which keep their trailing zeros, and their written form: plain
while the exponent is not positive and at most five zeros follow the point, scientific otherwise.
-/

namespace CallGuard.Number

/-- A decimal number, infinity, or an undefined number with an optional diagnostic number. -/
inductive Decimal
  | finite (negative : Bool) (coefficient : Nat) (exponent : Int)
  | infinite (negative : Bool)
  | nan (negative : Bool) (signaling : Bool) (payload : Nat)
  deriving DecidableEq, Repr, Inhabited

namespace Decimal

/-- The word for a special value at the front of a text, in any case, and what follows it. -/
def splitWord? (word : String) (cs : List Char) : Option (List Char) :=
  let front := cs.take word.length
  if front.map Char.toLower = word.toList then some (cs.drop word.length) else none

/-- The special value that a text without sign names. -/
def special? (negative : Bool) (cs : List Char) : Option Decimal :=
  let lower := cs.map Char.toLower
  if lower = "inf".toList || lower = "infinity".toList then some (.infinite negative)
  else
    match splitWord? "snan" cs, splitWord? "nan" cs with
    | some digits, _ =>
      if digits.all isDecimalDigit then some (.nan negative true (digitsValue digits)) else none
    | none, some digits =>
      if digits.all isDecimalDigit then some (.nan negative false (digitsValue digits)) else none
    | none, none => none
where
  isDecimalDigit (c : Char) : Bool := Text.isDecimal c

/-- Reads a decimal number; blanks around it and underscores in it do not count. -/
def ofText? (cs : List Char) : Option Decimal :=
  let body := (Text.trim cs).filter (· != '_')
  match scientificNumeral? body with
  | some numeral => some (.finite numeral.negative numeral.coefficient numeral.exponent)
  | none =>
    let (negative, rest) := splitSign body
    special? negative rest

def isFinite : Decimal → Bool
  | .finite .. => true
  | _ => false

def isWhole : Decimal → Bool
  | .finite _ coefficient exponent =>
    if exponent ≥ 0 then true
    else if coefficient = 0 then true
    else if (-exponent).toNat ≥ digitCount coefficient then false
    else coefficient % Nat.pow 10 (-exponent).toNat == 0
  | _ => false

/-- The whole number in a finite number, cut towards zero. -/
def whole : Decimal → Int
  | .finite negative coefficient exponent =>
    let size : Nat :=
      if coefficient = 0 then 0
      else if exponent ≥ 0 then coefficient * Nat.pow 10 exponent.toNat
      else if (-exponent).toNat ≥ digitCount coefficient then 0
      else coefficient / Nat.pow 10 (-exponent).toNat
    if negative then -(size : Int) else size
  | _ => 0

def isZero : Decimal → Bool
  | .finite _ coefficient _ => coefficient == 0
  | _ => false

/-- The written form of a finite number without its sign. -/
def finiteText (coefficient : Nat) (exponent : Int) : List Char :=
  let digits := decimalDigits coefficient
  let left : Int := exponent + digits.length
  let place : Int := if exponent ≤ 0 && left > -6 then left else 1
  let body :=
    if place ≤ 0 then '0' :: '.' :: (List.replicate (-place).toNat '0' ++ digits)
    else if place ≥ digits.length then digits ++ List.replicate (place.toNat - digits.length) '0'
    else digits.take place.toNat ++ '.' :: digits.drop place.toNat
  let shift := left - place
  if shift = 0 then body
  else body ++ 'E' :: (if shift < 0 then '-' else '+') :: decimalDigits shift.natAbs

def text (d : Decimal) : String :=
  let sign (negative : Bool) : String := if negative then "-" else ""
  match d with
  | .finite negative coefficient exponent =>
    sign negative ++ String.ofList (finiteText coefficient exponent)
  | .infinite negative => sign negative ++ "Infinity"
  | .nan negative signaling payload =>
    sign negative ++ (if signaling then "sNaN" else "NaN") ++
      (if payload = 0 then "" else toString payload)

end Decimal

end CallGuard.Number
