import CallGuard.Number.Binary64

/-!
The shortest decimal numeral of a floating-point number: the fewest significant digits that read
back as the same number and, of these, the nearest, a tie going to the even last digit.
-/

namespace CallGuard.Number

/-- A decimal numeral `coefficient · 10 ^ exponent`. -/
structure Scientific where
  coefficient : Nat
  exponent : Int
  deriving DecidableEq, Repr

/-- The place of the leading digit: `10 ^ (place - 1) ≤ num / den < 10 ^ place`. -/
def leadingPlace (num den : Nat) : Int :=
  let guess : Int := (digitCount num : Int) - (digitCount den : Int)
  let reached :=
    if guess ≥ 0 then decide (den * Nat.pow 10 guess.toNat ≤ num)
    else decide (den ≤ num * Nat.pow 10 (-guess).toNat)
  if reached then guess + 1 else guess

/-- The quotient `num / den · 10 ^ power` as numerator and denominator. -/
def scaleByTen (num den : Nat) (power : Int) : Nat × Nat :=
  if power ≥ 0 then (num * Nat.pow 10 power.toNat, den)
  else (num, den * Nat.pow 10 (-power).toNat)

/--
The neighbour of `num / den` on the grid of numerals with a given exponent that reads back as `x`;
if both neighbours do, the nearer one, and the even one at the same distance.
-/
def gridPoint? (x : Binary64) (num den : Nat) (exponent : Int) : Option Scientific :=
  let (n, d) := scaleByTen num den (-exponent)
  let low := n / d
  let readsBack (c : Nat) : Bool := Binary64.ofScientific false c exponent == x
  let twice := 2 * (n % d)
  let lowFirst := decide (twice < d) || (decide (twice = d) && low % 2 == 0)
  let (first, second) := if lowFirst then (low, low + 1) else (low + 1, low)
  if readsBack first then some ⟨first, exponent⟩
  else if readsBack second then some ⟨second, exponent⟩
  else none

/-- The shortest numeral of the positive number `x = num / den`: seventeen digits always suffice. -/
def shortestOf (x : Binary64) (num den : Nat) : Scientific :=
  let place := leadingPlace num den
  let found := (List.range 17).findSome? fun (i : Nat) =>
    gridPoint? x num den (place - ((i : Int) + 1))
  found.getD ⟨0, 0⟩

/-- The shortest numeral of a finite number without its sign. -/
def Binary64.shortest (x : Binary64) : Scientific :=
  match x.abs.ratio? with
  | some (.ofNat num, den) => if num = 0 then ⟨0, 0⟩ else shortestOf x.abs num den
  | _ => ⟨0, 0⟩

end CallGuard.Number
