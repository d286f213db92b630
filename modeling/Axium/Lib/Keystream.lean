import Axium.Lib.Literals
import Mathlib.Data.List.Basic

/-!
# Stream ciphers

A generator `next` gives one key byte after the other; encryption and decryption are the same function, the
exclusive or of the text with the key bytes. Two ends that start in the same state stay in step as long as
they process the same number of bytes (`crypt_crypt`, `crypt_snd`).
-/

namespace Axium.Keystream

variable {κ : Type*} (next : κ → UInt8 × κ)

/-- The text with the next key bytes, and the generator after it. -/
def crypt : κ → List UInt8 → List UInt8 × κ
  | k, [] => ([], k)
  | k, b :: l => ((b ^^^ (next k).1) :: (crypt (next k).2 l).1, (crypt (next k).2 l).2)

/-- The generator after `n` key bytes. -/
def skip : κ → Nat → κ
  | k, 0 => k
  | k, n + 1 => skip (next k).2 n

@[simp] theorem length_crypt (k : κ) (l : List UInt8) : (crypt next k l).1.length = l.length := by
  induction l generalizing k with
  | nil => rfl
  | cons b l ih => simp [crypt, ih]

theorem crypt_snd (k : κ) (l : List UInt8) : (crypt next k l).2 = skip next k l.length := by
  induction l generalizing k with
  | nil => rfl
  | cons b l ih => exact ih _

@[simp] theorem crypt_crypt (k : κ) (l : List UInt8) : (crypt next k (crypt next k l).1).1 = l := by
  induction l generalizing k with
  | nil => rfl
  | cons b l ih =>
    simp only [crypt, ih]
    rw [UInt8.xor_assoc, UInt8.xor_self, UInt8.xor_zero]

end Axium.Keystream
