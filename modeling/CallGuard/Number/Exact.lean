import CallGuard.Number.Decimal
import CallGuard.Number.Shortest

/-!
Exact numbers: a quotient times a power of ten, or an infinity. Two of them are compared by sign and
by the place of the leading digit first, so that a power of ten is built only when the two are of
the same size and its exponent is small.
-/

namespace CallGuard.Number

/-- An exact number `± num / den · 10 ^ exponent`, or an infinite one. -/
inductive Exact
  | finite (negative : Bool) (num den : Nat) (exponent : Int)
  | infinite (negative : Bool)
  deriving DecidableEq, Repr

namespace Exact

def zero : Exact :=
  .finite false 0 1 0

def ofRatio (num : Int) (den : Nat) : Exact :=
  .finite (num < 0) num.natAbs den 0

/-- The exact value of a floating-point number; an undefined one has none. -/
def ofBinary64? : Binary64 → Option Exact
  | .nan => none
  | .infinite negative => some (.infinite negative)
  | x => x.ratio?.map fun (num, den) => ofRatio num den

/-- The exact value of a decimal number; an undefined one has none. -/
def ofDecimal? : Decimal → Option Exact
  | .nan .. => none
  | .infinite negative => some (.infinite negative)
  | .finite negative coefficient exponent => some (.finite negative coefficient 1 exponent)

def sameSize (num den : Nat) (exponent : Int) (num' den' : Nat) (exponent' : Int) : Bool :=
  let least := min exponent exponent'
  leadingPlace num den + exponent == leadingPlace num' den' + exponent' &&
    num * den' * Nat.pow 10 (exponent - least).toNat ==
      num' * den * Nat.pow 10 (exponent' - least).toNat

def same : Exact → Exact → Bool
  | .infinite negative, .infinite negative' => negative == negative'
  | .finite negative num den exponent, .finite negative' num' den' exponent' =>
    if num = 0 || num' = 0 then num == num'
    else negative == negative' && sameSize num den exponent num' den' exponent'
  | _, _ => false

end Exact

end CallGuard.Number
