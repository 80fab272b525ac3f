/-!
The digests of the standard platform: words of 32 bits are mixed in eighty rounds for every block of
64 bytes, and of the result the first ten hexadecimal digits are kept.
-/

namespace CallGuard.Standard.Digest

/-- Five words: the state between two blocks. -/
structure State where
  a : UInt32 := 0x67452301
  b : UInt32 := 0xEFCDAB89
  c : UInt32 := 0x98BADCFE
  d : UInt32 := 0x10325476
  e : UInt32 := 0xC3D2E1F0

def rotated (places : UInt32) (word : UInt32) : UInt32 :=
  (word <<< places) ||| (word >>> (32 - places))

/-- The bytes with a mark behind them, zeros, and their number of bits, in whole blocks. -/
def padded (bytes : List UInt8) : List UInt8 :=
  let bits := bytes.length * 8
  let zeros := (119 - bytes.length % 64) % 64
  let size := (List.range 8).map fun k => UInt8.ofNat (bits >>> (8 * (7 - k)))
  bytes ++ 0x80 :: List.replicate zeros 0 ++ size

/-- The words that bytes stand for, the first byte of four counting most. -/
def words : List UInt8 → List UInt32
  | a :: b :: c :: d :: rest =>
    let word := (a.toUInt32 <<< 24) ||| (b.toUInt32 <<< 16) ||| (c.toUInt32 <<< 8) ||| d.toUInt32
    word :: words rest
  | _ => []

/-- The words of the rounds of a block: the last sixteen make the next one. -/
def schedule (block : List UInt32) : List UInt32 :=
  ((List.range 64).foldl (fun latest _ =>
    let word (back : Nat) : UInt32 := latest.getD (back - 1) 0
    rotated 1 (word 3 ^^^ word 8 ^^^ word 14 ^^^ word 16) :: latest) block.reverse).reverse

/-- The mixture of three words in a round, and the constant of the round. -/
def mixture (round : Nat) (b c d : UInt32) : UInt32 × UInt32 :=
  if round < 20 then ((b &&& c) ||| (~~~b &&& d), 0x5A827999)
  else if round < 40 then (b ^^^ c ^^^ d, 0x6ED9EBA1)
  else if round < 60 then ((b &&& c) ||| (b &&& d) ||| (c &&& d), 0x8F1BBCDC)
  else (b ^^^ c ^^^ d, 0xCA62C1D6)

def State.round (state : State) (word : UInt32 × Nat) : State :=
  let (mixed, constant) := mixture word.2 state.b state.c state.d
  { a := rotated 5 state.a + mixed + state.e + constant + word.1
    b := state.a
    c := rotated 30 state.b
    d := state.c
    e := state.d }

def State.block (state : State) (block : List UInt32) : State :=
  let mixed := (schedule block).zipIdx.foldl State.round state
  { a := state.a + mixed.a
    b := state.b + mixed.b
    c := state.c + mixed.c
    d := state.d + mixed.d
    e := state.e + mixed.e }

/-- The state after all blocks; `count` is the number of blocks. -/
def blocks (state : State) : Nat → List UInt32 → State
  | 0, _ => state
  | count + 1, all => blocks (state.block (all.take 16)) count (all.drop 16)

/-- A word in eight hexadecimal digits. -/
def hexadecimal (word : UInt32) : List Char :=
  (List.range 8).map fun k => Nat.digitChar ((word >>> UInt32.ofNat (4 * (7 - k))).toNat % 16)

def ofText (text : String) : String :=
  let all := words (padded text.toUTF8.toList)
  let state := blocks {} (all.length / 16) all
  String.ofList ((hexadecimal state.a ++ hexadecimal state.b).take 10)

end CallGuard.Standard.Digest
