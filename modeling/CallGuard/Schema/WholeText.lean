import CallGuard.Number.Numeral

/-!
Whole numbers from text. A bare numeral is a minus sign at most and digits without a leading zero;
any other text is read once more after it has been cleaned of blanks around it, a plus sign, leading
zeros, a fraction of zeros and single underscores. Only a text that starts with a bare numeral of
too many digits counts as too long.
-/

namespace CallGuard.Schema

open CallGuard.Number

/-- What a text holds: a whole number, one that is too long to be read, or something else. -/
inductive WholeReading
  | whole (n : Int)
  | tooLong
  | other
  deriving DecidableEq, Repr

/-- The first digit of a numeral of more than one digit. -/
def isLeadingDigit (c : Char) : Bool :=
  '1' ≤ c && c ≤ '9'

def readBare (cs : List Char) : WholeReading :=
  let (negative, body) :=
    match cs with
    | '-' :: rest => (true, rest)
    | rest => (false, rest)
  match body with
  | ['0'] => .whole 0
  | c :: _ =>
    if isLeadingDigit c then
      let digits := body.takeWhile Char.isDigit
      if digits.length > digitLimit then .tooLong
      else if digits.length < body.length then .other
      else
        let size : Int := digitsValue digits
        .whole (if negative then -size else size)
    else .other
  | [] => .other

def dropPlus? : List Char → Option (List Char)
  | '+' :: '-' :: _ => none
  | '+' :: rest => some rest
  | cs => some cs

/-- Takes zeros and underscores off the front that come after a zero; one character stays. -/
def dropZerosAfter? (last : Char) : List Char → Option (List Char)
  | [] => some [last]
  | c :: rest =>
    if c = '0' || c = '_' then dropZerosAfter? c rest
    else if isLeadingDigit c || c = '-' then some (c :: rest)
    else if c = '.' then some (last :: c :: rest)
    else none

/-- Takes leading zeros off a text, which has to start with a digit or a minus sign. -/
def dropLeadingZeros? : List Char → Option (List Char)
  | [] => none
  | c :: rest =>
    if c = '0' then dropZerosAfter? c rest
    else if isLeadingDigit c || c = '-' then some (c :: rest)
    else none

/-- Takes the leading zeros off what follows a minus sign, if there is one, or else off the text. -/
def dropZerosBehindMinus? : List Char → Option (List Char)
  | '-' :: rest => (dropLeadingZeros? rest).map ('-' :: ·)
  | cs => dropLeadingZeros? cs

/-- Takes a point off the end of a text, together with the zeros after it, of which it needs one. -/
def dropZeroFraction (cs : List Char) : List Char :=
  let reversed := cs.reverse
  match reversed.takeWhile (· == '0'), reversed.dropWhile (· == '0') with
  | _ :: _, '.' :: front => front.reverse
  | _, _ => cs

def hasDoubleUnderscore : List Char → Bool
  | '_' :: '_' :: _ => true
  | _ :: rest => hasDoubleUnderscore rest
  | [] => false

/-- Takes the underscores away, if each of them stands alone and inside. -/
def dropUnderscores (cs : List Char) : List Char :=
  if cs.head? = some '_' || cs.getLast? = some '_' || hasDoubleUnderscore cs then cs
  else cs.filter (· != '_')

/-- A text with everything taken away that is let pass around a bare numeral. -/
def cleanNumeral? (cs : List Char) : Option (List Char) := do
  let unsigned ← dropPlus? (trimNumeral cs)
  let body ← dropZerosBehindMinus? unsigned
  some (dropUnderscores (dropZeroFraction body))

/-- Reads a whole number from a text: as it is, or else cleaned. -/
def readWhole (cs : List Char) : WholeReading :=
  match readBare cs with
  | .other =>
    match (cleanNumeral? cs).map readBare with
    | some (.whole n) => .whole n
    | _ => .other
  | reading => reading

end CallGuard.Schema
