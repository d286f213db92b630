import Mathlib.Data.List.DropRight
import Axium.Auth.LoginProof

/-!
# Numbers as bytes

What `SetBinary` reads of the bytes that `AsByteArray` writes. The zeros that fill the array up to the
width stand before the bytes of the number, not behind them: the array stands for the number times a power
of 256 (`setBinary_asByteArray`), so that it is right only where nothing is filled up.

The log-in writes `B`, `N` and `S` with a width of 32 bytes, and compares `M` without one. A digest that
ends with zeros then gives an array that is too short, and `memcmp` compares what lies behind it.
-/

namespace Axium.Auth

open List

/-- `SetBinary` with its buffer `t` of 1000 bytes; more are written behind it. -/
def setBinary? (bytes : List UInt8) : Option Nat :=
  if bytes.length ≤ 1000 then some (setBinary bytes) else none

/-! ## The value of the bytes -/

@[simp] theorem setBinary_nil : setBinary [] = 0 := rfl

theorem setBinary_append (l l' : List UInt8) :
    setBinary (l ++ l') = setBinary l + 256 ^ l.length * setBinary l' := by
  simp [setBinary, Nat.ofDigits_append]

theorem setBinary_zeros (k : Nat) : setBinary (List.replicate k 0) = 0 := by
  simp [setBinary, Nat.ofDigits_replicate_zero]

theorem setBinary_digits (x : Nat) : setBinary ((Nat.digits 256 x).map .ofNat) = x := by
  have hdigits : ((Nat.digits 256 x).map UInt8.ofNat).map (·.toNat) = Nat.digits 256 x := by
    rw [map_map]
    refine (map_congr_left fun d hd => ?_).trans (map_id _)
    have hlt : d < 256 := Nat.digits_lt_base (by decide) hd
    simp [Nat.mod_eq_of_lt hlt]
  rw [setBinary, hdigits, Nat.ofDigits_digits]

theorem setBinary_asByteArray (n x : Nat) : setBinary (asByteArray n x) = 256 ^ (n - getNumBytes x) * x := by
  rw [asByteArray, setBinary_append, setBinary_zeros, setBinary_digits, length_replicate, zero_add]

theorem length_asByteArray (n x : Nat) : (asByteArray n x).length = max n (getNumBytes x) := by
  rw [asByteArray, length_append, length_replicate, length_map]
  unfold getNumBytes
  omega

theorem setBinary_asByteArray_eq_iff {n x : Nat} :
    setBinary (asByteArray n x) = x ↔ n ≤ getNumBytes x ∨ x = 0 := by
  rw [setBinary_asByteArray]
  rcases eq_zero_or_pos x with rfl | hx
  · simp
  · have hone : 256 ^ (n - getNumBytes x) * x = x ↔ 256 ^ (n - getNumBytes x) = 1 :=
      ⟨fun h => Nat.eq_of_mul_eq_mul_right hx (h.trans (one_mul x).symm), fun h => by rw [h, one_mul]⟩
    rw [hone, Nat.pow_eq_one]
    omega

theorem setBinary_bigNumberBytes (x : Nat) : setBinary (bigNumberBytes x) = x :=
  setBinary_asByteArray_eq_iff.2 (.inl (Nat.zero_le _))

theorem setBinary?_asByteArray_iff {n x : Nat} :
    setBinary? (asByteArray n x) = some x ↔ (n ≤ getNumBytes x ∨ x = 0) ∧ max n (getNumBytes x) ≤ 1000 := by
  unfold setBinary?
  rw [length_asByteArray]
  split
  · next hlen =>
    rw [Option.some.injEq, setBinary_asByteArray_eq_iff]
    exact ⟨fun h => ⟨h, hlen⟩, And.left⟩
  · next hlen => exact ⟨nofun, fun h => absurd h.2 hlen⟩

theorem getNumBytes_le_iff {n x : Nat} : getNumBytes x ≤ n ↔ x < 256 ^ n :=
  Nat.digits_length_le_iff (by decide) x

/-! ## A digest that is written back -/

theorem bigNumberBytes_setBinary (digest : List UInt8) :
    bigNumberBytes (setBinary digest) = digest.rdropWhile (· = 0) := by
  induction digest using List.reverseRecOn with
  | nil => simp [bigNumberBytes, asByteArray]
  | append_singleton l byte ih =>
    rw [rdropWhile_concat]
    by_cases hzero : byte = 0
    · subst hzero
      have hsame : setBinary (l ++ [0]) = setBinary l := by
        rw [setBinary_append]
        exact add_zero _
      rw [hsame, ih]
      simp
    · rw [if_neg (by simpa using hzero), bigNumberBytes, asByteArray, Nat.zero_sub, replicate_zero,
        nil_append, setBinary, Nat.digits_ofDigits 256 (by decide)]
      · rw [map_map]
        refine (map_congr_left fun b _ => ?_).trans (map_id _)
        exact UInt8.ofNat_toNat
      · intro d hd
        obtain ⟨b, -, rfl⟩ := mem_map.1 hd
        exact b.toNat_lt
      · intro hne
        simp only [map_append, map_cons, map_nil, getLast_append_singleton]
        exact fun h => hzero (UInt8.toNat_inj.1 h)

/-! ## The numbers of a log-in -/

theorem modulus_pos : 0 < modulus := by decide

theorem getNumBytes_modulus : getNumBytes modulus = 32 := by
  have hle : getNumBytes modulus ≤ 32 := getNumBytes_le_iff.2 (by decide)
  have hge : ¬ getNumBytes modulus ≤ 31 := fun h => absurd (getNumBytes_le_iff.1 h) (by decide)
  omega

theorem length_asByteArray_of_lt {x : Nat} (h : x < modulus) : (asByteArray 32 x).length = 32 := by
  have hlt : x < 256 ^ 32 := lt_trans h (by decide)
  rw [length_asByteArray]
  exact max_eq_left (getNumBytes_le_iff.2 hlt)

def fieldB (answer : List UInt8) : List UInt8 := (answer.drop 1).take 32

def fieldN (answer : List UInt8) : List UInt8 := (answer.drop 36).take 32

namespace AuthSocket

variable (sock : AuthSocket)

/-- The digest that `M` is made from. -/
def proofDigest (A K : Nat) : List UInt8 :=
  let hash := List.zipWith (· ^^^ ·) (Sha1.hash (bigNumberBytes modulus)) (Sha1.hash (bigNumberBytes generator))
  Sha1.hash (bigNumberBytes (setBinary hash) ++ Sha1.hash sock.login ++
    bigNumberBytes sock.s ++ bigNumberBytes A ++ bigNumberBytes sock.B ++ bigNumberBytes K)

theorem expectedProof_eq (A K : Nat) : sock.expectedProof A K = setBinary (sock.proofDigest A K) := rfl

theorem length_proofDigest (A K : Nat) : (sock.proofDigest A K).length = 20 := Sha1.length_hash _

theorem startSrp_B_lt (p : ChallengePacket) (account : Account) (env : Env) :
    (sock.startSrp p account env).1.B < modulus :=
  Nat.mod_lt _ modulus_pos

theorem fieldB_startSrp (p : ChallengePacket) (account : Account) (env : Env) :
    fieldB (sock.startSrp p account env).2 = asByteArray 32 (sock.startSrp p account env).1.B := by
  have hlen := length_asByteArray_of_lt (sock.startSrp_B_lt p account env)
  unfold fieldB startSrp at *
  simp only [cons_append, drop_succ_cons, drop_zero, append_assoc]
  exact take_left' hlen

theorem fieldN_startSrp (p : ChallengePacket) (account : Account) (env : Env) :
    fieldN (sock.startSrp p account env).2 = asByteArray 32 modulus := by
  have hB := length_asByteArray_of_lt (sock.startSrp_B_lt p account env)
  have hN : (asByteArray 32 modulus).length = 32 := by
    rw [length_asByteArray, getNumBytes_modulus]
    rfl
  have hg : (asByteArray 0 generator).take 1 = [7] := by decide
  unfold fieldN startSrp at *
  simp only [hg, cons_append, nil_append, drop_succ_cons, append_assoc]
  rw [show 35 = 32 + 3 from rfl, ← drop_drop, drop_left' hB]
  exact take_left' hN

/-- The bytes that `memcmp` compares are those of the digest if and only if what lies behind the array
replaces the zeros that were lost. -/
theorem take_bigNumberBytes_eq_iff (digest heap : List UInt8) (hlen : digest.length = 20) :
    (bigNumberBytes (setBinary digest) ++ heap).take 20 = digest ↔
      heap.take (digest.rtakeWhile (· = 0)).length = digest.rtakeWhile (· = 0) := by
  rw [bigNumberBytes_setBinary]
  have hsplit : digest.rdropWhile (· = 0) ++ digest.rtakeWhile (· = 0) = digest :=
    rdropWhile_append_rtakeWhile
  have hsum : (digest.rdropWhile (· = 0)).length + (digest.rtakeWhile (· = 0)).length = 20 := by
    rw [← length_append, hsplit, hlen]
  have htake : (digest.rdropWhile (· = 0) ++ heap).take 20 =
      digest.rdropWhile (· = 0) ++ heap.take (digest.rtakeWhile (· = 0)).length := by
    rw [take_append]
    congr 1
    · exact take_of_length_le (by omega)
    · congr 1
      omega
  rw [htake]
  conv_lhs => rhs; rw [← hsplit]
  exact append_right_inj _

theorem proofMatches_iff (digest : List UInt8) (hlen : digest.length = 20) (env : Env) :
    (∀ p, proofMatches (setBinary digest) p env = true ↔ p.M1 = digest) ↔
      env.heap.take (digest.rtakeWhile (· = 0)).length = digest.rtakeWhile (· = 0) := by
  rw [← take_bigNumberBytes_eq_iff digest env.heap hlen]
  unfold proofMatches
  simp only [decide_eq_true_eq]
  constructor
  · intro h
    exact (h ⟨List.replicate 32 0, digest, length_replicate, hlen⟩).2 rfl
  · intro h p
    rw [h]
    exact eq_comm

end AuthSocket

/-- **The bytes stand for the numbers** where no zeros are filled in, and the proof of the digest is the
one that is accepted where no zeros of the digest were lost, or zeros happen to follow. -/
theorem bytes_stand_iff (n x : Nat) (sock : AuthSocket) (p : ChallengePacket) (account : Account) (env : Env)
    (A K : Nat) :
    (setBinary? (asByteArray n x) = some x ↔ (n ≤ getNumBytes x ∨ x = 0) ∧ max n (getNumBytes x) ≤ 1000) ∧
    setBinary (bigNumberBytes x) = x ∧
    (setBinary (fieldN (sock.startSrp p account env).2) = modulus ∧
      (setBinary (fieldB (sock.startSrp p account env).2) = (sock.startSrp p account env).1.B ↔
        32 ≤ getNumBytes (sock.startSrp p account env).1.B ∨ (sock.startSrp p account env).1.B = 0)) ∧
    (setBinary (asByteArray 32 (sock.sharedSecret A)) = sock.sharedSecret A ↔
      32 ≤ getNumBytes (sock.sharedSecret A) ∨ sock.sharedSecret A = 0) ∧
    ((∀ p, AuthSocket.proofMatches (sock.expectedProof A K) p env = true ↔ p.M1 = sock.proofDigest A K) ↔
      env.heap.take ((sock.proofDigest A K).rtakeWhile (· = 0)).length =
        (sock.proofDigest A K).rtakeWhile (· = 0)) := by
  refine ⟨setBinary?_asByteArray_iff, setBinary_bigNumberBytes x, ⟨?_, ?_⟩, setBinary_asByteArray_eq_iff, ?_⟩
  · rw [sock.fieldN_startSrp]
    exact setBinary_asByteArray_eq_iff.2 (.inl getNumBytes_modulus.ge)
  · rw [sock.fieldB_startSrp]
    exact setBinary_asByteArray_eq_iff
  · rw [sock.expectedProof_eq]
    exact AuthSocket.proofMatches_iff _ (sock.length_proofDigest A K) env

/-- The one is written in 32 bytes and read as a power of 256. -/
theorem one_written_wide : setBinary? (asByteArray 32 1) = some (256 ^ 31) := by
  decide

end Axium.Auth
