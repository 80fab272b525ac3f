import CallGuard.Number.Digits
import CallGuard.Number.Rounding

/-!
Floating-point numbers of 64 bits as exact values: a finite number is `± mantissa · 2 ^ exponent`
with a mantissa of at most 53 bits, and every rounding goes to the nearest such value, a half to
the even mantissa. Main functions: `ofRatio`, which rounds a quotient, and `ofScientific`, which
rounds a decimal numeral of any length without building large powers for hopeless exponents.
-/

namespace CallGuard.Number

/-- A floating-point number; equality is equality of representations, so both zeros differ. -/
inductive Binary64
  | nan
  | infinite (negative : Bool)
  | finite (negative : Bool) (mantissa : Nat) (exponent : Int)
  deriving DecidableEq, Repr, Inhabited

namespace Binary64

/-- The least exponent, that of the smallest positive number. -/
def minExponent : Int := -1074

def maxExponent : Int := 971

def zero (negative : Bool) : Binary64 :=
  .finite negative 0 minExponent

/-- A mantissa and exponent after rounding, carried to the next exponent or to infinity. -/
def assemble (negative : Bool) (mantissa : Nat) (exponent : Int) : Binary64 :=
  if mantissa = 0 then zero negative
  else if mantissa = Nat.pow 2 53 then
    (if exponent + 1 > maxExponent then .infinite negative
     else .finite negative (Nat.pow 2 52) (exponent + 1))
  else if exponent > maxExponent then .infinite negative
  else .finite negative mantissa exponent

/-- A quotient scaled by a power of two, as numerator and denominator. -/
def scaleDown (num den : Nat) (exponent : Int) : Nat × Nat :=
  if exponent ≥ 0 then (num, den * Nat.pow 2 exponent.toNat)
  else (num * Nat.pow 2 (-exponent).toNat, den)

/-- The exponent at which the quotient `num / den` has a mantissa of 53 bits, or the least one. -/
def exponentFor (num den : Nat) : Int :=
  let guess : Int := (num.log2 : Int) - (den.log2 : Int) - 52
  let (n, d) := scaleDown num den guess
  max minExponent (if n < d * Nat.pow 2 52 then guess - 1 else guess)

def ofRatio (negative : Bool) (num den : Nat) : Binary64 :=
  if num = 0 then zero negative
  else
    let exponent := exponentFor num den
    let (n, d) := scaleDown num den exponent
    assemble negative (roundDiv n d) exponent

/-- The floating-point number nearest to `± coefficient · 10 ^ exponent`. -/
def ofScientific (negative : Bool) (coefficient : Nat) (exponent : Int) : Binary64 :=
  if coefficient = 0 then zero negative
  else
    let magnitude : Int := (digitCount coefficient : Int) + exponent
    if magnitude > 310 then .infinite negative
    else if magnitude < -330 then zero negative
    else if exponent ≥ 0 then ofRatio negative (coefficient * Nat.pow 10 exponent.toNat) 1
    else ofRatio negative coefficient (Nat.pow 10 (-exponent).toNat)

def ofInt (n : Int) : Binary64 :=
  ofRatio (n < 0) n.natAbs 1

def isFinite : Binary64 → Bool
  | .finite .. => true
  | _ => false

/-- The exact value of a finite number as a quotient of whole numbers. -/
def ratio? : Binary64 → Option (Int × Nat)
  | .finite negative mantissa exponent =>
    let size := mantissa * Nat.pow 2 exponent.toNat
    some (if negative then -(size : Int) else size, Nat.pow 2 (-exponent).toNat)
  | _ => none

def isWhole (x : Binary64) : Bool :=
  match x.ratio? with
  | some (num, den) => num % den == 0
  | none => false

def isZero : Binary64 → Bool
  | .finite _ mantissa _ => mantissa == 0
  | _ => false

/-- The sign bit; an undefined number counts as positive. -/
def isNegative : Binary64 → Bool
  | .finite negative _ _ => negative
  | .infinite negative => negative
  | .nan => false

/-- The size without the sign. -/
def abs : Binary64 → Binary64
  | .finite _ mantissa exponent => .finite false mantissa exponent
  | .infinite _ => .infinite false
  | .nan => .nan

end Binary64

end CallGuard.Number
