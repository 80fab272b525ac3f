import CallGuard.Text.Character

/-!
Quoted text: single quotes unless the text holds a single quote and no double one, a backslash
before the quote and the backslash, short escapes for tab and line ends, and the code point in
hexadecimal for every other character that has no printed form.
-/

namespace CallGuard.Text

/-- The hexadecimal digit of a value below sixteen, in small letters. -/
def hexDigit (n : Nat) : Char :=
  Char.ofNat (if n < 10 then 48 + n else 87 + n)

/-- The hexadecimal text of a number, padded with zeros to a given width. -/
def hexPadded (width n : Nat) : List Char :=
  (List.range width).reverse.map fun i => hexDigit (n / Nat.pow 16 i % 16)

/-- The escape of a character by its code point, in the shortest of the three widths. -/
def escapeCode (n : Nat) : List Char :=
  if n < 0x100 then '\\' :: 'x' :: hexPadded 2 n
  else if n < 0x10000 then '\\' :: 'u' :: hexPadded 4 n
  else '\\' :: 'U' :: hexPadded 8 n

def quoteFor (cs : List Char) : Char :=
  if cs.contains '\'' && !cs.contains '"' then '"' else '\''

def quoteChar (quote c : Char) : List Char :=
  if c = quote || c = '\\' then ['\\', c]
  else if c = '\t' then ['\\', 't']
  else if c = '\n' then ['\\', 'n']
  else if c = '\r' then ['\\', 'r']
  else if isPrinted c then [c]
  else escapeCode c.toNat

def quoteChars (cs : List Char) : List Char :=
  let quote := quoteFor cs
  quote :: cs.flatMap (quoteChar quote) ++ [quote]

def quoted (s : String) : String :=
  String.ofList (quoteChars s.toList)

/-- A text with the escape of the code point in place of every character beyond ASCII. -/
def asciiOnly (s : String) : String :=
  String.ofList (s.toList.flatMap fun c => if c.toNat < 128 then [c] else escapeCode c.toNat)

/-- A byte inside quotes; some characters are escaped whichever quotes are used. -/
def quoteByte (escaped : Char → Bool) (b : UInt8) : List Char :=
  let c := Char.ofNat b.toNat
  if escaped c || c = '\\' then ['\\', c]
  else if c = '\t' then ['\\', 't']
  else if c = '\n' then ['\\', 'n']
  else if c = '\r' then ['\\', 'r']
  else if 32 ≤ b.toNat && b.toNat < 127 then [c]
  else '\\' :: 'x' :: hexPadded 2 b.toNat

/-- Bytes in quotes, after a marking letter. -/
def quotedBytesWith (escaped : Char → Char → Bool) (bytes : List UInt8) : String :=
  let quote := quoteFor (bytes.map fun b => Char.ofNat b.toNat)
  String.ofList ('b' :: quote :: bytes.flatMap (quoteByte (escaped quote)) ++ [quote])

/-- Bytes in quotes: only the quote that is used is escaped. -/
def quotedBytes (bytes : List UInt8) : String :=
  quotedBytesWith (fun quote c => c = quote) bytes

/-- Changeable bytes in quotes: a single quote is escaped even between double quotes. -/
def quotedByteArray (bytes : List UInt8) : String :=
  "bytearray(" ++ quotedBytesWith (fun quote c => c = quote || c = '\'') bytes ++ ")"

end CallGuard.Text
