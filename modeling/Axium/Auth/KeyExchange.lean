import Axium.Auth.ByteEncoding
import Mathlib.Data.ZMod.Basic
import Mathlib.Tactic.Ring

/-!
# The key exchange

Who knows the password of an account is let in. Between the password and the proof stand the hash of
`CalculateShaPassHash` in the database, which `_SetVSFields` reads as a number and turns back into bytes, the
salt and the verifier, which later challenges read from what `AsHexStr` wrote, and the numbers in the packets.
-/

namespace Axium.Auth

open List AuthSocket

/-- Both ends of the exchange, with `v = g ^ x` and `B = 3 v + g ^ b`. -/
theorem secrets_agree {N : Nat} (hN : 0 < N) (g a b u x : Nat) :
    (g ^ a % N * ((g ^ x % N) ^ u % N)) ^ b % N =
      ((g ^ x % N * 3 + g ^ b % N) % N + 3 * (N - g ^ x % N)) ^ (a + u * x) % N := by
  have hle : g ^ x % N ≤ N := (Nat.mod_lt _ hN).le
  refine (ZMod.natCast_eq_natCast_iff' _ _ N).1 ?_
  push_cast [Nat.cast_sub hle]
  simp only [ZMod.natCast_mod, ZMod.natCast_self, Nat.cast_pow, Nat.cast_add, Nat.cast_mul, Nat.cast_ofNat]
  have hB : (g : ZMod N) ^ x * 3 + g ^ b + 3 * (0 - g ^ x) = g ^ b := by ring
  rw [hB]
  ring

/-! ## Hexadecimal digits -/

def hexChar (nibble : Nat) : Char := .ofNat (if nibble < 10 then '0'.toNat + nibble else 'A'.toNat + nibble - 10)

def hexEncodeByteArray (bytes : List UInt8) : List Char :=
  bytes.flatMap fun byte => [hexChar (byte.toNat / 16), hexChar (byte.toNat % 16)]

/-- `AsHexStr`, the digits of `BN_bn2hex`: two for each byte, and one for zero. -/
def asHexStr (n : Nat) : List Char := if n = 0 then ['0'] else hexEncodeByteArray (bigNumberBytes n).reverse

theorem hexDigit?_hexChar : ∀ nibble < 16, hexDigit? (hexChar nibble) = some nibble := by decide

theorem map_hexDigit? (bytes : List UInt8) : (hexEncodeByteArray bytes).map hexDigit? =
    bytes.flatMap fun byte => [some (byte.toNat / 16), some (byte.toNat % 16)] := by
  unfold hexEncodeByteArray
  rw [map_flatMap]
  refine flatMap_congr fun byte _ => ?_
  have hlt : byte.toNat < 256 := byte.toNat_lt
  simp only [map_cons, map_nil]
  rw [hexDigit?_hexChar _ (by omega), hexDigit?_hexChar _ (by omega)]

/-- The digits of the bytes are read as the number with these bytes, the highest one first. -/
theorem setHexStr_hexEncodeByteArray {bytes : List UInt8} (hne : bytes ≠ []) (old : Nat) :
    setHexStr old (hexEncodeByteArray bytes) = setBinary bytes.reverse := by
  have htake : (bytes.flatMap fun byte => [some (byte.toNat / 16), some (byte.toNat % 16)]).takeWhile
      Option.isSome = _ := takeWhile_eq_self_iff.2 fun o ho => by
    obtain ⟨byte, -, hmem⟩ := mem_flatMap.1 ho
    simp only [mem_cons, not_mem_nil, or_false] at hmem
    rcases hmem with rfl | rfl <;> rfl
  obtain ⟨byte, rest, rfl⟩ := exists_cons_of_ne_nil hne
  unfold setHexStr
  rw [map_hexDigit?, htake]
  dsimp only
  rw [if_neg (by simp)]
  clear htake hne
  induction byte :: rest using List.reverseRecOn with
  | nil => rfl
  | append_singleton l b ih =>
    rw [flatMap_append, foldl_append, ih, reverse_append, setBinary_append]
    simp only [flatMap_cons, flatMap_nil, nil_append, append_nil, foldl_cons, foldl_nil,
      reverse_cons, reverse_nil, Option.getD_some, setBinary, map_cons, map_nil, Nat.ofDigits_singleton,
      length_cons, length_nil]
    omega

theorem setHexStr_asHexStr (old n : Nat) : setHexStr old (asHexStr n) = n := by
  unfold asHexStr
  split
  · next h => rw [h]; rfl
  · next h =>
    rw [setHexStr_hexEncodeByteArray, reverse_reverse, setBinary_bigNumberBytes]
    intro hnil
    exact h (by rw [← setBinary_bigNumberBytes n, reverse_eq_nil_iff.1 hnil, setBinary_nil])

/-! ## The verifier -/

/-- `CalculateShaPassHash`, before it is encoded. -/
def passDigest (name password : List UInt8) : List UInt8 := Sha1.hash (name ++ 58 :: password)

def calculateShaPassHash (name password : List UInt8) : String :=
  .ofList (hexEncodeByteArray (passDigest name password))

/-- `x` of `_SetVSFields`. -/
def privateKey (s : Nat) (digest : List UInt8) : Nat := setBinary (Sha1.hash (bigNumberBytes s ++ digest))

def verifier (s : Nat) (digest : List UInt8) : Nat := modExp generator (privateKey s digest) modulus

/-- The row of an account with this password: `v` and `s` are not there yet, or were written by `_SetVSFields`. -/
structure Registered (account : Account) (name password : List UInt8) : Prop where
  shaPassHash : account.shaPassHash = calculateShaPassHash name password
  written : account.v.length = 64 → account.s.length = 64 → ∃ s : Rand (32 * 8),
    account.s = .ofList (asHexStr s.val) ∧ account.v = .ofList (asHexStr (verifier s.val (passDigest name password)))

theorem rdropWhile_append_zeros (l : List UInt8) :
    l.rdropWhile (· = 0) ++ replicate (l.length - (l.rdropWhile (· = 0)).length) 0 = l := by
  have hsplit : l.rdropWhile (· = 0) ++ l.rtakeWhile (· = 0) = l := rdropWhile_append_rtakeWhile
  have hlen := congrArg length hsplit
  rw [length_append] at hlen
  have hzeros : l.rtakeWhile (· = 0) = replicate (l.rtakeWhile (· = 0)).length 0 :=
    eq_replicate_iff.2 ⟨rfl, fun byte hmem => by simpa using mem_rtakeWhile_imp hmem⟩
  rw [← hlen, Nat.add_sub_cancel_left, ← hzeros, hsplit]

theorem setVSFields_v (sock : AuthSocket) (name password : List UInt8) (env : Env) :
    (sock.setVSFields (calculateShaPassHash name password) env).v =
      verifier env.randS.val (passDigest name password) := by
  have hlen : (passDigest name password).length = 20 := Sha1.length_hash _
  have hne : passDigest name password ≠ [] := fun h => by simp [h] at hlen
  have hbytes : getNumBytes (setBinary (passDigest name password).reverse) ≤ 20 := by
    refine getNumBytes_le_iff.2 ((setBinary_lt _).trans_eq ?_)
    rw [length_reverse, hlen]
  have hrestored := rdropWhile_append_zeros (passDigest name password).reverse
  rw [length_reverse, hlen] at hrestored
  unfold setVSFields calculateShaPassHash
  dsimp only
  rw [String.toList_ofList, setHexStr_hexEncodeByteArray hne, if_pos hbytes, bigNumberBytes_setBinary, hrestored,
    reverse_reverse]
  rfl

/-- Whichever way they come about, salt and verifier are those of the password. -/
theorem loadVS_registered {account : Account} {name password : List UInt8} (h : Registered account name password)
    (sock : AuthSocket) (env : Env) : ∃ s : Rand (32 * 8),
    (sock.loadVS account env).s = s.val ∧ (sock.loadVS account env).v = verifier s.val (passDigest name password) := by
  unfold loadVS
  split
  · exact ⟨env.randS, rfl, by rw [h.shaPassHash, setVSFields_v]⟩
  · next hlen =>
    rw [not_or, not_ne_iff, not_ne_iff] at hlen
    obtain ⟨s, hs, hv⟩ := h.written hlen.1 hlen.2
    refine ⟨s, ?_, ?_⟩
    · rw [hs, String.toList_ofList, setHexStr_asHexStr]
    · rw [hv, String.toList_ofList, setHexStr_asHexStr]

/-! ## The client -/

/-- The bytes of `s` in the answer to a challenge. -/
def fieldS (answer : List UInt8) : List UInt8 := (answer.drop 68).take 32

/-- A client with the name, the password and the ephemeral value of its user. -/
structure Client where
  name : Login
  password : List UInt8
  a : Nat

namespace Client

variable (c : Client) (answer : List UInt8)

def A : Nat := modExp generator c.a modulus

/-- What the client hashes: its own name, and the numbers as they stand in the answer. -/
def view : AuthSocket :=
  { connect "" 0 0 with login := c.name, s := setBinary (fieldS answer), B := setBinary (fieldB answer) }

def key : Nat := privateKey (c.view answer).s (passDigest c.name c.password)

/-- `S = (B - 3 g ^ x) ^ (a + u x) mod N`, from the password instead of the verifier. -/
def secret : Nat :=
  modExp ((c.view answer).B + 3 * (modulus - modExp generator (c.key answer) modulus))
    (c.a + (c.view answer).scramble c.A * c.key answer) modulus

def sessionKey : Nat := sessionKeyOf (c.secret answer)

def proof : List UInt8 := (c.view answer).proofDigest c.A (c.sessionKey answer)

theorem A_ne_zero : c.A ≠ 0 := by
  unfold A
  rw [modExp_eq]
  intro h
  have hcop : Nat.Coprime (generator ^ c.a) modulus := Nat.Coprime.pow_left _ (by decide +kernel)
  have hone : modulus = 1 := Nat.eq_one_of_dvd_coprimes hcop (Nat.dvd_of_mod_eq_zero h) dvd_rfl
  exact absurd hone (by decide)

end Client

theorem fieldS_startSrp (sock : AuthSocket) (p : ChallengePacket) (account : Account) (env : Env)
    (hs : (asByteArray 0 (sock.startSrp p account env).1.s).length = 32) :
    fieldS (sock.startSrp p account env).2 = asByteArray 0 (sock.startSrp p account env).1.s := by
  have hB := length_asByteArray_of_lt (sock.startSrp_B_lt p account env)
  have hN : (asByteArray 32 modulus).length = 32 := by
    rw [length_asByteArray, getNumBytes_modulus]
    rfl
  have hg : (asByteArray 0 generator).take 1 = [7] := by decide
  unfold fieldS startSrp at *
  simp only [hg, cons_append, nil_append, drop_succ_cons, append_assoc]
  rw [show 67 = 32 + 35 from rfl, ← drop_drop, drop_left' hB, drop_succ_cons, drop_succ_cons, drop_succ_cons,
    drop_left' hN]
  exact take_left' hs

theorem accepts_iff {sock : AuthSocket} {p : ProofPacket} (hexp : sock.expversion ≠ 0) (hA : setBinary p.A ≠ 0)
    (env : Env) : sock.Accepts p env ↔ proofMatches
      (sock.expectedProof (setBinary p.A) (sessionKeyOf (sock.sharedSecret (setBinary p.A)))) p env = true := by
  unfold Accepts handleLogonProof
  rw [if_neg (not_or_intro hexp hA)]
  dsimp only
  split
  · next hmatch => exact iff_of_true ⟨_, rfl⟩ hmatch
  · next hmatch =>
    refine iff_of_false ?_ hmatch
    rintro ⟨K, h⟩
    have hlog := append_cancel_left (congrArg statements h)
    unfold failedLogin at hlog
    split at hlog
    · cases (cons.inj hlog).1
    · cases hlog

/-! ## A log-in -/

variable {sock : AuthSocket} {pkt : ChallengePacket} {account : Account} {env : Env}

theorem handleLogonChallenge_startSrp (hos : pkt.os.length ≤ 4)
    (h : Admitted sock.remoteAddress pkt.login env account) :
    ∃ t : AuthSocket, t.login = pkt.login ∧ t.expversion = expversionOf pkt.build ∧
      sock.handleLogonChallenge pkt env =
        ((t.startSrp pkt account env).1, some (0x00 :: 0x00 :: (t.startSrp pkt account env).2)) := by
  unfold handleLogonChallenge
  dsimp only
  rw [if_neg (by omega), admission_of_admitted h]
  obtain ⟨statements, hbans⟩ := updateExpiredBans_cases { sock with
    login := pkt.login, build := pkt.build, expversion := expversionOf pkt.build, os := pkt.os.reverse } env
  rw [hbans]
  exact ⟨_, rfl, rfl, rfl⟩

variable (pkt account env) in
theorem startSrp_fields (t : AuthSocket) : (t.startSrp pkt account env).1.login = t.login ∧
    (t.startSrp pkt account env).1.expversion = t.expversion := by
  obtain ⟨s, v, statements, hload⟩ := loadVS_cases t account env
  unfold startSrp
  rw [hload]
  exact ⟨rfl, rfl⟩

theorem getNumBytes_rand (s : Rand (32 * 8)) : getNumBytes s.val = 32 := by
  have hle : getNumBytes s.val ≤ 32 := getNumBytes_le_iff.2 (s.lt_two_pow.trans_eq (by norm_num))
  have hge : ¬ getNumBytes s.val ≤ 31 := fun h => by
    have hlt := getNumBytes_le_iff.1 h
    have hpow : 256 ^ 31 ≤ 2 ^ (32 * 8 - 1) := by norm_num
    exact absurd (hpow.trans s.two_pow_le) hlt.not_ge
  omega

/-- A client that reads the salt and `B` of the challenge computes the secret of the server. -/
theorem secret_eq (c : Client) {answer : List UInt8} (hs : (c.view answer).s = sock.s)
    (hB : (c.view answer).B = sock.B) (hv : sock.v = verifier sock.s (passDigest c.name c.password))
    (hexchange : sock.B = (sock.v * 3 + modExp generator sock.b modulus) % modulus) :
    c.secret answer = sock.sharedSecret c.A := by
  have hu : (c.view answer).scramble c.A = sock.scramble c.A := by
    unfold scramble
    rw [hB]
  have hagree := secrets_agree modulus_pos generator c.a sock.b (sock.scramble c.A) (c.key answer)
  rw [← modExp_eq generator c.a, ← Client.A] at hagree
  have hv' : sock.v = modExp generator (c.key answer) modulus := by
    rw [hv, Client.key, hs]
    rfl
  unfold Client.secret sharedSecret
  rw [hu, hB, hexchange, hv']
  simp only [modExp_eq]
  exact hagree.symm

theorem view_startSrp (c : Client) (t : AuthSocket) {s : Rand (32 * 8)} (hs : (t.startSrp pkt account env).1.s = s.val)
    (hB : 256 ^ 31 ≤ (t.startSrp pkt account env).1.B) :
    (c.view (t.startSrp pkt account env).2).s = (t.startSrp pkt account env).1.s ∧
      (c.view (t.startSrp pkt account env).2).B = (t.startSrp pkt account env).1.B := by
  unfold Client.view
  rw [fieldB_startSrp, fieldS_startSrp]
  · have hfill : ¬ getNumBytes (t.startSrp pkt account env).1.B ≤ 31 := fun h =>
      absurd hB (getNumBytes_le_iff.1 h).not_ge
    exact ⟨setBinary_bigNumberBytes _, setBinary_asByteArray_eq_iff.2 (.inl (by omega))⟩
  · rw [hs, length_asByteArray, getNumBytes_rand]
    rfl

/-- The challenge is answered. The proof that the client makes from the answer gets it the session key that it
has computed, and is accepted, unless its last bytes are zeros that are lost. -/
def LetsIn (sock : AuthSocket) (pkt : ChallengePacket) (env : Env) (c : Client) : Prop :=
  ∃ answer, (sock.handleLogonChallenge pkt env).2 = some (0x00 :: 0x00 :: answer) ∧
    ∀ (p : ProofPacket) (env' : Env), setBinary p.A = c.A → p.M1 = c.proof answer →
      ((sock.handleLogonChallenge pkt env).1.handleLogonProof p env').1.K = c.sessionKey answer ∧
      ((sock.handleLogonChallenge pkt env).1.Accepts p env' ↔
        env'.heap.take (p.M1.rtakeWhile (· = 0)).length = p.M1.rtakeWhile (· = 0))

/-- **Who knows the password is let in**, if the value `B` of the challenge fills its 32 bytes. -/
theorem honest_login (c : Client) (hreg : Registered account c.name c.password)
    (hadmitted : Admitted sock.remoteAddress pkt.login env account) (hname : pkt.login = c.name)
    (hos : pkt.os.length ≤ 4) (hbuild : expversionOf pkt.build ≠ 0)
    (hB : 256 ^ 31 ≤ (sock.handleLogonChallenge pkt env).1.B) : LetsIn sock pkt env c := by
  obtain ⟨t, hlogin, hexp, heq⟩ := handleLogonChallenge_startSrp hos hadmitted
  obtain ⟨hlogin', hexp'⟩ := startSrp_fields pkt account env t
  unfold LetsIn
  rw [heq] at hB ⊢
  dsimp only at hB ⊢
  obtain ⟨s, hs, hv⟩ := loadVS_registered hreg t env
  obtain ⟨hviews, hviewB⟩ := view_startSrp c t hs hB
  have hsecret := secret_eq c hviews hviewB (hv.trans (congrArg (verifier · _) hs.symm)) rfl
  refine ⟨_, rfl, fun p env' hA hM => ?_⟩
  have hA0 : setBinary p.A ≠ 0 := hA ▸ c.A_ne_zero
  have hexp0 : (t.startSrp pkt account env).1.expversion ≠ 0 := by rwa [hexp', hexp]
  have hproof : c.proof (t.startSrp pkt account env).2 = (t.startSrp pkt account env).1.proofDigest c.A
      (sessionKeyOf ((t.startSrp pkt account env).1.sharedSecret c.A)) := by
    unfold Client.proof Client.sessionKey proofDigest
    rw [hsecret, hviews, hviewB, hlogin', hlogin, hname]
    rfl
  constructor
  · unfold handleLogonProof Client.sessionKey
    rw [if_neg (not_or_intro hexp0 hA0), hA, hsecret]
    dsimp only
    split <;> rfl
  · rw [accepts_iff hexp0 hA0, hA, expectedProof_eq, ← hproof, ← hM, ← take_bigNumberBytes_eq_iff _ _ p.length_M1]
    exact decide_eq_true_iff

def sampleClient : Client := ⟨[0x41], [0x42], 1⟩

theorem hex_empty : ∀ c ∈ "".toList, (hexDigit? c).isSome := by simp

/-- The account `A` with the password `B`, before the first log-in. -/
def sampleAccount : Account where
  shaPassHash := calculateShaPassHash [0x41] [0x42]
  id := 1
  locked := 0
  lastIp := "127.0.0.1"
  gmlevel := 0
  v := ""
  s := ""
  hex_v := hex_empty
  hex_s := hex_empty

def registeredEnv : Env := { sampleEnv none with account := fun _ => some sampleAccount }

theorem sampleAccount_registered : Registered sampleAccount sampleClient.name sampleClient.password :=
  ⟨rfl, fun h => absurd h (by decide)⟩

theorem honest_login_sample : LetsIn (connect "127.0.0.1" 0 0) samplePacket registeredEnv sampleClient :=
  honest_login sampleClient sampleAccount_registered ⟨rfl, rfl, nofun, rfl⟩ (by decide) (by decide) (by decide)
    (by decide +kernel)

end Axium.Auth
