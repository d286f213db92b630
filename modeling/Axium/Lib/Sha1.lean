import Axium.Lib.Literals

/-!
# SHA-1

The hash function on byte lists: padding to blocks of 64 bytes, the schedule of 80 words, and the
compression of a block into a state of five words.
-/

namespace Axium.Sha1

open List

structure State where
  a : UInt32
  b : UInt32
  c : UInt32
  d : UInt32
  e : UInt32
  deriving DecidableEq, Repr

def initial : State :=
  { a := 0x67452301, b := 0xEFCDAB89, c := 0x98BADCFE, d := 0x10325476, e := 0xC3D2E1F0 }

def rotl (n x : UInt32) : UInt32 := (x <<< n) ||| (x >>> (32 - n))

/-- The bytes of `n`, the most significant first. -/
def bytesBE (len n : Nat) : List UInt8 := (range len).map fun i => .ofNat (n >>> (8 * (len - 1 - i)))

def wordBE (bytes : List UInt8) : UInt32 :=
  bytes.foldl (fun w byte => (w <<< 8) ||| byte.toUInt32) 0

/-- A one bit, zeros, and the length in bits as a 64-bit number. -/
def pad (msg : List UInt8) : List UInt8 :=
  msg ++ 0x80 :: replicate ((119 - msg.length % 64) % 64) 0 ++ bytesBE 8 (8 * msg.length)

/-- The next word of the schedule; the words are kept with the newest first. -/
def extend (words : List UInt32) : List UInt32 :=
  rotl 1 (words.getD 2 0 ^^^ words.getD 7 0 ^^^ words.getD 13 0 ^^^ words.getD 15 0) :: words

def schedule (block : List UInt8) : List UInt32 :=
  let words := (range 16).map fun i => wordBE ((block.drop (4 * i)).take 4)
  ((range 64).foldl (fun ws _ => extend ws) words.reverse).reverse

/-- The round function and the constant of round `t`. -/
def roundFn (t : Nat) (b c d : UInt32) : UInt32 × UInt32 :=
  if t < 20 then ((b &&& c) ||| (~~~b &&& d), 0x5A827999)
  else if t < 40 then (b ^^^ c ^^^ d, 0x6ED9EBA1)
  else if t < 60 then ((b &&& c) ||| (b &&& d) ||| (c &&& d), 0x8F1BBCDC)
  else (b ^^^ c ^^^ d, 0xCA62C1D6)

def round (s : State) (tw : Nat × UInt32) : State :=
  let (f, k) := roundFn tw.1 s.b s.c s.d
  { a := rotl 5 s.a + f + s.e + k + tw.2, b := s.a, c := rotl 30 s.b, d := s.c, e := s.d }

def compress (s : State) (block : List UInt8) : State :=
  let r := ((range 80).zip (schedule block)).foldl round s
  { a := s.a + r.a, b := s.b + r.b, c := s.c + r.c, d := s.d + r.d, e := s.e + r.e }

def hash (msg : List UInt8) : List UInt8 :=
  let padded := pad msg
  let blocks := (range (padded.length / 64)).map fun i => (padded.drop (64 * i)).take 64
  let s := blocks.foldl compress initial
  [s.a, s.b, s.c, s.d, s.e].flatMap fun w => bytesBE 4 w.toNat

theorem length_bytesBE (len n : Nat) : (bytesBE len n).length = len := by simp [bytesBE]

@[simp] theorem length_hash (msg : List UInt8) : (hash msg).length = 20 := by
  simp [hash, length_bytesBE]

-- the digest of the bytes of "abc"
example : hash [0x61, 0x62, 0x63] =
    [0xA9, 0x99, 0x3E, 0x36, 0x47, 0x06, 0x81, 0x6A, 0xBA, 0x3E, 0x25, 0x71, 0x78, 0x50, 0xC2, 0x6C,
      0x9C, 0xD0, 0xD8, 0x9D] := by
  decide +kernel

end Axium.Sha1
