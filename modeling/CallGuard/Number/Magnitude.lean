import CallGuard.Number.Binary64
import CallGuard.Number.Decimal

/-!
Sizes of numbers that are not kept as they are: the length of a pair of floating-point numbers,
rounded once, and the size of a decimal number in the working precision of 28 digits.
-/

namespace CallGuard.Number

/-- The exact value `mantissa · 2 ^ exponent` as a multiple of `2 ^ least`. -/
def aligned (mantissa : Nat) (exponent least : Int) : Nat :=
  mantissa * Nat.pow 2 (exponent - least).toNat

/-- The whole part of a square root, by halving an interval that holds it. -/
def rootWithin (n : Nat) : Nat → Nat → Nat → Nat
  | 0, low, _ => low
  | fuel + 1, low, high =>
    if high ≤ low + 1 then low
    else
      let middle := (low + high) / 2
      if middle * middle ≤ n then rootWithin n fuel middle high else rootWithin n fuel low middle

def wholeRoot (n : Nat) : Nat :=
  let bits := n.log2 / 2 + 1
  rootWithin n (bits + 1) 0 (Nat.pow 2 bits)

/-- The length of a pair of finite numbers, rounded once; both are multiples of a power of two. -/
def finiteLength (m n : Nat) (e f : Int) : Binary64 :=
  let least := min e f
  let square := Nat.pow (aligned m e least) 2 + Nat.pow (aligned n f least) 2
  let scaled := square * Nat.pow 4 64
  let root := wholeRoot scaled
  let tail := if root * root = scaled then 0 else 1
  let (num, den) := Binary64.scaleDown (2 * root + tail) (Nat.pow 2 65) (-least)
  Binary64.ofRatio false num den

/-- The length of a pair of numbers; none if it is too large. -/
def length? (re im : Binary64) : Option Binary64 :=
  match re, im with
  | .infinite _, _ => some (.infinite false)
  | _, .infinite _ => some (.infinite false)
  | .finite _ m e, .finite _ n f =>
    let size := finiteLength m n e f
    if size.isFinite then some size else none
  | _, _ => some .nan

def workingDigits : Nat := 28

/-- The largest exponent of the leading digit of a decimal number in working precision. -/
def largestPlace : Int := 999999

/-- The least exponent of the last digit of a decimal number in working precision. -/
def leastExponent : Int := -1000026

/-- Why a decimal number has no size in working precision. -/
inductive SizeFault
  | signaling
  | tooLarge
  deriving DecidableEq, Repr

/--
How many digits at the end of a coefficient do not fit: those beyond the working precision, or those
below the least exponent if these are more.
-/
def surplusDigits (coefficient : Nat) (exponent : Int) : Nat :=
  max (digitCount coefficient - workingDigits) (leastExponent - exponent).toNat

/-- A coefficient and exponent without the digits that do not fit, rounded once. -/
def roundSurplus (coefficient : Nat) (exponent : Int) : Nat × Int :=
  let surplus := surplusDigits coefficient exponent
  if surplus > digitCount coefficient then (0, exponent + surplus)
  else
    let kept := roundDiv coefficient (Nat.pow 10 surplus)
    if kept = Nat.pow 10 workingDigits then (kept / 10, exponent + surplus + 1)
    else (kept, exponent + surplus)

def isTooLarge (coefficient : Nat) (exponent : Int) : Bool :=
  exponent + digitCount coefficient - 1 > largestPlace

/-- The size of a decimal number in working precision; an undefined number keeps its sign. -/
def Decimal.size (d : Decimal) : Except SizeFault Decimal :=
  match d with
  | .infinite _ => .ok (.infinite false)
  | .nan _ true _ => .error .signaling
  | .nan negative false payload => .ok (.nan negative false (payload % Nat.pow 10 workingDigits))
  | .finite _ 0 exponent =>
    .ok (.finite false 0 (min largestPlace (max leastExponent exponent)))
  | .finite _ coefficient exponent =>
    if isTooLarge coefficient exponent then .error .tooLarge
    else
      let (rounded, exponent) := roundSurplus coefficient exponent
      if isTooLarge rounded exponent then .error .tooLarge
      else .ok (.finite false rounded exponent)

end CallGuard.Number
