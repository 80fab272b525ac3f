import CallGuard.Number.Shortest

/-!
The written forms of floating-point numbers. The shortest form is positional from `10 ^ -4` up to
below `10 ^ 16` and scientific elsewhere; the fixed, scientific and general forms have a given
number of places and round a half to the even digit.
-/

namespace CallGuard.Number

/-- Digits without the zeros at their end. -/
def dropTrailingZeros (cs : List Char) : List Char :=
  (cs.reverse.dropWhile (· == '0')).reverse

def exponentText (mark : Char) (n : Int) : List Char :=
  let digits := decimalDigits n.natAbs
  let padded := if digits.length < 2 then '0' :: digits else digits
  mark :: (if n < 0 then '-' else '+') :: padded

/-- Digits with a point after the first `point` of them, zeros filling what is missing. -/
def positional (digits : List Char) (point : Int) : List Char × List Char :=
  if point ≤ 0 then (['0'], List.replicate (-point).toNat '0' ++ digits)
  else
    let whole := digits.take point.toNat
    (whole ++ List.replicate (point.toNat - whole.length) '0', digits.drop point.toNat)

/-- The shortest form of a finite number without its sign; `point` adds `.0` to a whole number. -/
def shortestText (x : Binary64) (point : Bool) : List Char :=
  let numeral := x.shortest
  let all := decimalDigits numeral.coefficient
  let place : Int := all.length + numeral.exponent
  let digits := if numeral.coefficient = 0 then ['0'] else dropTrailingZeros all
  if numeral.coefficient ≠ 0 && (place > 16 || place < -3) then
    digits.take 1 ++ (if digits.length > 1 then '.' :: digits.drop 1 else []) ++
      exponentText 'e' (place - 1)
  else
    let (whole, fraction) := positional digits (if numeral.coefficient = 0 then 1 else place)
    whole ++ (if fraction.isEmpty then (if point then ['.', '0'] else []) else '.' :: fraction)

/-- The text of a number in its shortest form, with the sign of a negative one. -/
def Binary64.text (x : Binary64) (point : Bool) : String :=
  match x with
  | .nan => "nan"
  | .infinite negative => if negative then "-inf" else "inf"
  | .finite negative .. =>
    String.ofList ((if negative then ['-'] else []) ++ shortestText x point)

/-- A form with a fixed number of places after the point, of the size `num / den`. -/
def fixedText (num den places : Nat) (keepPoint : Bool) : List Char :=
  let digits := decimalDigits (roundDiv (num * Nat.pow 10 places) den)
  let padded := List.replicate (places + 1 - digits.length) '0' ++ digits
  let whole := padded.take (padded.length - places)
  let fraction := padded.drop (padded.length - places)
  whole ++ (if places = 0 then (if keepPoint then ['.'] else []) else '.' :: fraction)

/-- The `places + 1` leading digits of `num / den`, rounded, and the exponent of the first one. -/
def roundedDigits (num den places : Nat) : List Char × Int :=
  if num = 0 then (List.replicate (places + 1) '0', 0)
  else
    let place := leadingPlace num den
    let (n, d) := scaleByTen num den ((places : Int) + 1 - place)
    let digits := decimalDigits (roundDiv n d)
    if digits.length > places + 1 then (digits.take (places + 1), place)
    else (digits, place - 1)

/-- A scientific form with a fixed number of places, of the size `num / den`. -/
def scientificText (mark : Char) (num den places : Nat) (keepPoint : Bool) : List Char :=
  let (digits, exponent) := roundedDigits num den places
  digits.take 1 ++ (if places = 0 then (if keepPoint then ['.'] else []) else '.' :: digits.drop 1)
    ++ exponentText mark exponent

/--
The general form with a number of significant digits: positional for exponents from -4 up to below
that number, scientific elsewhere, without trailing zeros unless the point is kept.
-/
def generalText (mark : Char) (num den significant : Nat) (keepPoint : Bool) : List Char :=
  let count := max significant 1
  let (digits, exponent) := roundedDigits num den (count - 1)
  let clean (fraction : List Char) : List Char :=
    if keepPoint then '.' :: fraction
    else
      let rest := dropTrailingZeros fraction
      if rest.isEmpty then [] else '.' :: rest
  if exponent < -4 || exponent ≥ count then
    digits.take 1 ++ clean (digits.drop 1) ++ exponentText mark exponent
  else
    let (whole, fraction) := positional digits (exponent + 1)
    whole ++ clean fraction

end CallGuard.Number
