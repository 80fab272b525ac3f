/-!
Rounding a quotient of natural numbers to a whole number, a half going to the even neighbour.
-/

namespace CallGuard.Number

/-- The whole number nearest to `num / den`; of two nearest ones the even one. -/
def roundDiv (num den : Nat) : Nat :=
  let quotient := num / den
  let rest := num % den
  if den < 2 * rest then quotient + 1
  else if 2 * rest = den then quotient + quotient % 2
  else quotient

end CallGuard.Number
