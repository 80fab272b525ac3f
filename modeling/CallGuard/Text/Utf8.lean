/-!
Reading UTF-8: each character is one to four bytes, in the shortest form and never a surrogate.
A fault names the bytes that cannot be read and why.
-/

namespace CallGuard.Text

/-- Why bytes are not UTF-8. -/
inductive Utf8Reason
  | start
  | continuation
  | ending
  deriving DecidableEq, Repr

/-- The first unreadable bytes: the position of the first, their number, and the reason. -/
structure Utf8Fault where
  position : Nat
  first : UInt8
  count : Nat
  reason : Utf8Reason
  deriving DecidableEq, Repr

def Utf8Reason.text : Utf8Reason → String
  | .start => "invalid start byte"
  | .continuation => "invalid continuation byte"
  | .ending => "unexpected end of data"

/-- The number of bytes that a first byte announces, if it may start a character. -/
def utf8Width? (b : UInt8) : Option Nat :=
  let n := b.toNat
  if n < 0x80 then some 1
  else if 0xC2 ≤ n && n ≤ 0xDF then some 2
  else if 0xE0 ≤ n && n ≤ 0xEF then some 3
  else if 0xF0 ≤ n && n ≤ 0xF4 then some 4
  else none

/-- The second byte of a character, which also excludes long forms, surrogates and large numbers. -/
def isSecondByte (first second : UInt8) : Bool :=
  let a := first.toNat
  let b := second.toNat
  let low := if a = 0xE0 then 0xA0 else if a = 0xF0 then 0x90 else 0x80
  let high := if a = 0xED then 0x9F else if a = 0xF4 then 0x8F else 0xBF
  low ≤ b && b ≤ high

def isLaterByte (b : UInt8) : Bool :=
  0x80 ≤ b.toNat && b.toNat ≤ 0xBF

/-- How many of the bytes after the first are good, up to the width announced. -/
def goodBytes (first : UInt8) (width : Nat) (rest : List UInt8) : Nat :=
  match rest.take (width - 1) with
  | [] => 0
  | second :: later =>
    if isSecondByte first second then 1 + (later.takeWhile isLaterByte).length else 0

def codePoint (first : UInt8) (width : Nat) (later : List UInt8) : Nat :=
  let lead := if width = 1 then first.toNat else first.toNat % Nat.pow 2 (7 - width)
  later.foldl (fun n b => n * 64 + b.toNat % 64) lead

def decodeUtf8 (bytes : List UInt8) : Except Utf8Fault (List Char) :=
  go 0 bytes bytes.length
where
  go (position : Nat) : List UInt8 → Nat → Except Utf8Fault (List Char)
    | [], _ => .ok []
    | _, 0 => .ok []
    | first :: rest, fuel + 1 =>
      match utf8Width? first with
      | none => .error ⟨position, first, 1, .start⟩
      | some width =>
        let good := goodBytes first width rest
        if good + 1 = width then
          let c := Char.ofNat (codePoint first width (rest.take good))
          (go (position + width) (rest.drop good) fuel).map (c :: ·)
        else if rest.length = good then .error ⟨position, first, good + 1, .ending⟩
        else .error ⟨position, first, good + 1, .continuation⟩

/-- The words for a fault: one byte is shown, several are counted. -/
def Utf8Fault.text (fault : Utf8Fault) : String :=
  let digits := (Nat.toDigits 16 fault.first.toNat)
  let byte := String.ofList (List.replicate (2 - digits.length) '0' ++ digits)
  let last := fault.position + fault.count - 1
  if fault.count = 1 then
    s!"'utf-8' codec can't decode byte 0x{byte} in position {fault.position}: " ++
      fault.reason.text
  else
    s!"'utf-8' codec can't decode bytes in position {fault.position}-{last}: " ++ fault.reason.text

end CallGuard.Text
