import Axium.Lib.Literals
import Mathlib.Data.Nat.Digits.Lemmas
import Mathlib.Data.Nat.Bits

/-!
# Big numbers

`BigNumber`, restricted to the non-negative values that the authentication server computes with.
Byte arrays are little-endian: `SetBinary` and `AsByteArray` reverse the big-endian order of
`BN_bin2bn` and `BN_bn2bin`.
-/

namespace Axium.Auth

def setBinary (bytes : List UInt8) : Nat := Nat.ofDigits 256 (bytes.map (·.toNat))

def getNumBytes (n : Nat) : Nat := (Nat.digits 256 n).length

/-- `AsByteArray`. The big-endian bytes are written at the start of a zeroed array of the full
length and the whole array is reversed, so that the filling zeros come first. -/
def asByteArray (minSize : Nat) (n : Nat) : List UInt8 :=
  List.replicate (minSize - getNumBytes n) 0 ++ (Nat.digits 256 n).map .ofNat

def hexDigit? (c : Char) : Option Nat :=
  if '0' ≤ c ∧ c ≤ '9' then some (c.toNat - '0'.toNat)
  else if 'a' ≤ c ∧ c ≤ 'f' then some (c.toNat - 'a'.toNat + 10)
  else if 'A' ≤ c ∧ c ≤ 'F' then some (c.toNat - 'A'.toNat + 10)
  else none

/-- `SetHexStr`: the leading digits of the string; without any, `BN_hex2bn` fails and the old value
stays. -/
def setHexStr (old : Nat) (str : List Char) : Nat :=
  let digits := (str.map hexDigit?).takeWhile Option.isSome
  if digits.isEmpty then old else digits.foldl (fun n d => 16 * n + d.getD 0) 0

/-- `ModExp`, by squaring along the bits of the exponent. -/
def modExp (a e m : Nat) : Nat :=
  e.bits.foldr (fun bit r => if bit then a * (r * r) % m else r * r % m) (1 % m)

/-- A value of `SetRand(bits)`: the top bit is set and the value is odd. -/
structure Rand (bits : Nat) where
  val : Nat
  odd : val % 2 = 1
  two_pow_le : 2 ^ (bits - 1) ≤ val
  lt_two_pow : val < 2 ^ bits

def Rand.least32 : Rand (32 * 8) := ⟨2 ^ 255 + 1, by decide, by decide, by decide⟩
def Rand.least19 : Rand (19 * 8) := ⟨2 ^ 151 + 1, by decide, by decide, by decide⟩
def Rand.least16 : Rand (16 * 8) := ⟨2 ^ 127 + 1, by decide, by decide, by decide⟩

theorem setHexStr_congr {str : List Char} (hne : str ≠ []) (hhex : ∀ c ∈ str, (hexDigit? c).isSome)
    (old old' : Nat) : setHexStr old str = setHexStr old' str := by
  obtain ⟨c, cs, rfl⟩ := List.exists_cons_of_ne_nil hne
  have hc : (hexDigit? c).isSome := hhex c List.mem_cons_self
  simp [setHexStr, hc]

theorem modExp_eq (a e m : Nat) : modExp a e m = a ^ e % m := by
  unfold modExp
  induction e using Nat.binaryRec' with
  | zero => simp
  | bit bit n h ih =>
    rw [Nat.bits_append_bit n bit h, List.foldr_cons, ih]
    cases bit with
    | false =>
      rw [← Nat.mul_mod, ← pow_add, ← two_mul]
      simp
    | true =>
      have hsq : (a ^ n % m) * (a ^ n % m) % m = a ^ n * a ^ n % m := (Nat.mul_mod ..).symm
      rw [Nat.bit_true, if_pos rfl, Nat.mul_mod, hsq, ← Nat.mul_mod, pow_succ]
      ring_nf

theorem setBinary_lt (bytes : List UInt8) : setBinary bytes < 256 ^ bytes.length := by
  have h : setBinary bytes < 256 ^ (bytes.map (·.toNat)).length := by
    refine Nat.ofDigits_lt_base_pow_length (by decide) fun d hd => ?_
    obtain ⟨byte, -, rfl⟩ := List.mem_map.1 hd
    exact byte.toNat_lt
  simpa using h

end Axium.Auth
