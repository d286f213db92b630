import Axium.Auth.AuthSocket

/-!
# What an accepted log-in proof proves

A proof is accepted when `_HandleLogonProof` sets `_authed` and stores a session key for `_login`. It
is sound when the values `s`, `v`, `b`, `B` it was checked with come from the last challenge of the
connection, which let this very account in, and when `A` is not zero modulo `N`.

The handlers guard neither. Every challenge writes the name first and the other values only at its
end; `A` is compared with zero, not reduced. **`logonProof_sound_iff`**: after any run, an accepted
proof is sound if and only if the last challenge before it was a log-on challenge of an account that
the database lets in, and `A` is not `N` itself.
-/

namespace Axium.Auth

open Axium.Run AuthSocket

/-! ## Soundness of a proof -/

def Command.isChallenge : Command → Bool
  | .logonChallenge _ | .reconnectChallenge _ => true
  | .logonProof _ | .reconnectProof _ => false

structure SrpValues where
  s : Nat
  v : Nat
  b : Nat
  B : Nat
  deriving DecidableEq, Repr

def AuthSocket.srp (sock : AuthSocket) : SrpValues := ⟨sock.s, sock.v, sock.b, sock.B⟩

def srpValuesOf (account : Account) (env : Env) : SrpValues :=
  let fresh := (connect "" 0 0).loadVS account env
  ⟨fresh.s, fresh.v, env.randB.val,
    (fresh.v * 3 + modExp generator env.randB.val modulus) % modulus⟩

/-- The account exists and neither it nor the address is banned, nor is it locked to another one. -/
structure Admitted (ip : String) (login : Login) (env : Env) (account : Account) : Prop where
  ipNotBanned : env.ipBanned = false
  row : env.account login = some account
  notLocked : account.locked = 1 → account.lastIp = ip
  notBanned : env.accountBanned account.id = none

/-- `_HandleLogonProof` sets `_authed` and stores a session key for `_login`. -/
def AuthSocket.Accepts (sock : AuthSocket) (p : ProofPacket) (env : Env) : Prop :=
  ∃ K, (sock.handleLogonProof p env).1 =
    { sock with
      K := K
      authed := true
      statements := sock.statements ++ [.updLogonProof K sock.remoteAddress sock.localizationName
        sock.os sock.login] }

/-- The values in use after `pre` were produced by a challenge that answered `WOW_SUCCESS` for the
name in use, and no challenge came since. -/
def FromChallenge (sock : AuthSocket) (pre : List (Command × Env)) : Prop :=
  ∃ pre₁ pkt env₁ mid account answer,
    pre = pre₁ ++ (.logonChallenge pkt, env₁) :: mid ∧
    (∀ ce ∈ mid, ce.1.isChallenge = false) ∧
    (handle (run step sock pre₁) (.logonChallenge pkt, env₁)).2 =
      some (0x00 :: 0x00 :: AuthResult.wowSuccess.code :: answer) ∧
    (run step sock pre).login = pkt.login ∧
    Admitted sock.remoteAddress pkt.login env₁ account ∧
    (run step sock pre).srp = srpValuesOf account env₁

/-- What an accepted proof `p` after `pre` is to guarantee. -/
structure SoundProof (sock : AuthSocket) (pre : List (Command × Env)) (p : ProofPacket) : Prop where
  fromChallenge : FromChallenge sock pre
  mod_ne_zero : setBinary p.A % modulus ≠ 0

/-! ## The condition -/

def lastChallenge (es : List (Command × Env)) : Option (Command × Env) :=
  (es.filter (·.1.isChallenge)).getLast?

/-- The last challenge is a log-on challenge, its platform name has at most four bytes, and the
database lets its account in. -/
def LastChallengeAdmitted (ip : String) (es : List (Command × Env)) : Prop :=
  ∃ pkt env account, lastChallenge es = some (.logonChallenge pkt, env) ∧ pkt.os.length ≤ 4 ∧
    Admitted ip pkt.login env account

theorem lastChallenge_eq_some {es : List (Command × Env)} {ce : Command × Env} :
    lastChallenge es = some ce ↔ ce.1.isChallenge = true ∧
      ∃ pre mid, es = pre ++ ce :: mid ∧ ∀ c ∈ mid, c.1.isChallenge = false := by
  rw [lastChallenge, List.getLast?_eq_some_iff]
  constructor
  · rintro ⟨ys, hys⟩
    obtain ⟨l₁, l₂, rfl, -, hl₂⟩ := List.filter_eq_append_iff.1 hys
    obtain ⟨m₁, m₂, rfl, -, hce, hm₂⟩ := List.filter_eq_cons_iff.1 hl₂
    refine ⟨hce, l₁ ++ m₁, m₂, by simp, fun c hc => ?_⟩
    simpa using List.filter_eq_nil_iff.1 hm₂ c hc
  · rintro ⟨hce, pre, mid, rfl, hmid⟩
    have hnil : mid.filter (·.1.isChallenge) = [] := by
      refine List.filter_eq_nil_iff.2 fun c hc => ?_
      simp [hmid c hc]
    exact ⟨pre.filter (·.1.isChallenge), by simp [hce, hnil]⟩

/-! ## What the handlers write -/

theorem loadVS_cases (sock : AuthSocket) (account : Account) (env : Env) :
    ∃ s v statements, sock.loadVS account env =
      { sock with s := s, v := v, statements := statements } := by
  unfold loadVS
  split
  · exact ⟨_, _, _, rfl⟩
  · exact ⟨_, _, _, rfl⟩

theorem updateExpiredBans_cases (sock : AuthSocket) (env : Env) :
    ∃ statements, sock.updateExpiredBans env = { sock with statements := statements } := by
  unfold updateExpiredBans
  dsimp only
  split
  · exact ⟨_, rfl⟩
  · exact ⟨_, rfl⟩

theorem loadVS_congr (sock sock' : AuthSocket) (account : Account) (env : Env) :
    (sock.loadVS account env).s = (sock'.loadVS account env).s ∧
      (sock.loadVS account env).v = (sock'.loadVS account env).v := by
  unfold loadVS
  split
  · exact ⟨rfl, rfl⟩
  · rename_i hlen
    obtain ⟨hv, hs⟩ := not_or.1 hlen
    have hv : account.v.toList ≠ [] := by
      intro h
      simp [← String.length_toList, h] at hv
    have hs : account.s.toList ≠ [] := by
      intro h
      simp [← String.length_toList, h] at hs
    exact ⟨setHexStr_congr hs account.hex_s _ _, setHexStr_congr hv account.hex_v _ _⟩

theorem startSrp_srp (sock : AuthSocket) (p : ChallengePacket) (account : Account) (env : Env) :
    (sock.startSrp p account env).1.srp = srpValuesOf account env := by
  obtain ⟨hs, hv⟩ := loadVS_congr sock (connect "" 0 0) account env
  simp only [startSrp, srp, srpValuesOf, hs, hv]

theorem handleLogonChallenge_writes (sock : AuthSocket) (pkt : ChallengePacket) (env : Env) :
    (sock.handleLogonChallenge pkt env).1.remoteAddress = sock.remoteAddress ∧
      (sock.handleLogonChallenge pkt env).1.login = pkt.login ∧
      (sock.handleLogonChallenge pkt env).1.expversion = expversionOf pkt.build := by
  unfold handleLogonChallenge
  dsimp only
  split
  · exact ⟨rfl, rfl, rfl⟩
  · obtain ⟨st, hst⟩ := updateExpiredBans_cases
      { sock with
        login := pkt.login, build := pkt.build, expversion := expversionOf pkt.build,
        os := pkt.os.reverse } env
    split
    · rw [hst]
      exact ⟨rfl, rfl, rfl⟩
    · rename_i account _
      rw [hst]
      obtain ⟨s, v, st', h⟩ := loadVS_cases
        { sock with
          login := pkt.login, build := pkt.build, expversion := expversionOf pkt.build,
          os := pkt.os.reverse, statements := st } account env
      simp only [startSrp, h, and_self]

variable {env : Env}

theorem admission_of_admitted {ip : String} {login : Login} {account : Account}
    (h : Admitted ip login env account) : admission ip login env = .ok account := by
  have hlocked : ¬ (account.locked = 1 ∧ account.lastIp ≠ ip) := fun hl => hl.2 (h.notLocked hl.1)
  simp [admission, h.ipNotBanned, h.row, h.notBanned, hlocked]

variable {sock : AuthSocket}

theorem logonChallenge_admitted {pkt : ChallengePacket} {account : Account} (hos : pkt.os.length ≤ 4)
    (h : Admitted sock.remoteAddress pkt.login env account) :
    (∃ answer, (sock.handleLogonChallenge pkt env).2 =
        some (0x00 :: 0x00 :: AuthResult.wowSuccess.code :: answer)) ∧
      (sock.handleLogonChallenge pkt env).1.login = pkt.login ∧
      (sock.handleLogonChallenge pkt env).1.srp = srpValuesOf account env := by
  have hadm := admission_of_admitted h
  have hos' : ¬ 4 < pkt.os.length := by omega
  refine ⟨?_, (handleLogonChallenge_writes sock pkt env).2.1, ?_⟩
  · simp only [handleLogonChallenge, hos', if_false, hadm]
    exact ⟨_, rfl⟩
  · simp only [handleLogonChallenge, hos', if_false, hadm]
    exact startSrp_srp ..

theorem os_length_of_answer {pkt : ChallengePacket}
    {answer : List UInt8} (h : (sock.handleLogonChallenge pkt env).2 = some answer) : pkt.os.length ≤ 4 := by
  by_contra hos
  have hos' : 4 < pkt.os.length := by omega
  simp [handleLogonChallenge, hos'] at h

theorem handleLogonProof_cases (sock : AuthSocket) (p : ProofPacket) (env : Env) :
    (sock.handleLogonProof p env).1 = sock ∨ ∃ K authed statements,
      (sock.handleLogonProof p env).1 =
        { sock with K := K, authed := authed, statements := statements } := by
  unfold handleLogonProof
  dsimp only
  split
  · exact .inl rfl
  · right
    split
    · exact ⟨_, _, _, rfl⟩
    · exact ⟨_, _, _, rfl⟩

theorem handleReconnectProof_cases (sock : AuthSocket) (p : ReconnectProofPacket) :
    ∃ authed, (sock.handleReconnectProof p).1 = { sock with authed := authed } := by
  unfold handleReconnectProof
  dsimp only
  split
  · exact ⟨sock.authed, rfl⟩
  · split
    · exact ⟨true, rfl⟩
    · exact ⟨sock.authed, rfl⟩

theorem step_remoteAddress (sock : AuthSocket) (ce : Command × Env) :
    (step sock ce).remoteAddress = sock.remoteAddress := by
  obtain ⟨cmd, env⟩ := ce
  cases cmd with
  | logonChallenge p => exact (handleLogonChallenge_writes sock p env).1
  | logonProof p =>
    obtain h | ⟨K, authed, statements, h⟩ := handleLogonProof_cases sock p env <;>
      simp only [step, handle, h]
  | reconnectChallenge p =>
    simp only [step, handle, handleReconnectChallenge]
    split
    · rfl
    · split <;> rfl
  | reconnectProof p =>
    obtain ⟨authed, h⟩ := handleReconnectProof_cases sock p
    simp only [step, handle, h]

@[simp] theorem run_remoteAddress (sock : AuthSocket) (es : List (Command × Env)) :
    (run step sock es).remoteAddress = sock.remoteAddress := by
  induction es generalizing sock with
  | nil => rfl
  | cons ce es ih => rw [run_cons, ih, step_remoteAddress]

/-- Only a challenge writes the name and the numbers of the exchange. -/
theorem step_keeps (sock : AuthSocket) {ce : Command × Env} (h : ce.1.isChallenge = false) :
    (step sock ce).login = sock.login ∧ (step sock ce).srp = sock.srp := by
  obtain ⟨cmd, env⟩ := ce
  cases cmd with
  | logonChallenge p => cases h
  | reconnectChallenge p => cases h
  | logonProof p =>
    obtain h | ⟨K, authed, statements, h⟩ := handleLogonProof_cases sock p env <;>
      simp only [step, handle, h, srp, and_self]
  | reconnectProof p =>
    obtain ⟨authed, h⟩ := handleReconnectProof_cases sock p
    simp only [step, handle, h, srp, and_self]

theorem run_keeps (sock : AuthSocket) {es : List (Command × Env)} (h : ∀ ce ∈ es, ce.1.isChallenge = false) :
    (run step sock es).login = sock.login ∧ (run step sock es).srp = sock.srp := by
  induction es generalizing sock with
  | nil => exact ⟨rfl, rfl⟩
  | cons ce es ih =>
    obtain ⟨hlogin, hsrp⟩ := step_keeps sock (h ce List.mem_cons_self)
    obtain ⟨ihlogin, ihsrp⟩ := ih (step sock ce) fun c hc => h c (List.mem_cons_of_mem _ hc)
    exact ⟨ihlogin.trans hlogin, ihsrp.trans hsrp⟩

/-! ## Accepted proofs -/

theorem AuthSocket.Accepts.A_ne_zero {p : ProofPacket} (h : sock.Accepts p env) : setBinary p.A ≠ 0 := by
  intro hA
  obtain ⟨K, hK⟩ := h
  have hsame : (sock.handleLogonProof p env).1 = sock := by
    simp [handleLogonProof, hA]
  rw [hsame] at hK
  have hlen := congrArg (·.statements.length) hK
  simp at hlen

theorem setBinary_mod_modulus {p : ProofPacket} (h0 : setBinary p.A ≠ 0) :
    setBinary p.A % modulus = 0 ↔ setBinary p.A = modulus := by
  have hlt : setBinary p.A < 256 ^ 32 := p.length_A ▸ setBinary_lt p.A
  have h2 : 256 ^ 32 < 2 * modulus := by decide
  constructor
  · intro hmod
    obtain ⟨k, hk⟩ := Nat.dvd_of_mod_eq_zero hmod
    have hk0 : k ≠ 0 := by
      rintro rfl
      exact h0 hk
    have hk2 : k < 2 := by
      by_contra hle
      have : modulus * 2 ≤ modulus * k := Nat.mul_le_mul_left _ (by omega)
      omega
    obtain rfl : k = 1 := by omega
    rw [hk, mul_one]
  · intro h
    rw [h, Nat.mod_self]

theorem FromChallenge.lastChallengeAdmitted {pre : List (Command × Env)}
    (h : FromChallenge sock pre) : LastChallengeAdmitted sock.remoteAddress pre := by
  obtain ⟨pre₁, pkt, env, mid, account, answer, rfl, hmid, hans, -, hadm, -⟩ := h
  exact ⟨pkt, env, account, lastChallenge_eq_some.2 ⟨rfl, pre₁, mid, rfl, hmid⟩, os_length_of_answer hans, hadm⟩

theorem LastChallengeAdmitted.fromChallenge {pre : List (Command × Env)}
    (h : LastChallengeAdmitted sock.remoteAddress pre) : FromChallenge sock pre := by
  obtain ⟨pkt, env, account, hlast, hos, hadm⟩ := h
  obtain ⟨-, pre₁, mid, rfl, hmid⟩ := lastChallenge_eq_some.1 hlast
  have hadm' : Admitted (run step sock pre₁).remoteAddress pkt.login env account := by
    rwa [run_remoteAddress]
  obtain ⟨⟨answer, hans⟩, hlogin, hsrp⟩ := logonChallenge_admitted hos hadm'
  -- the commands since the challenge keep the name and the values
  obtain ⟨klogin, ksrp⟩ := run_keeps (step (run step sock pre₁) (.logonChallenge pkt, env)) hmid
  refine ⟨pre₁, pkt, env, mid, account, answer, rfl, hmid, hans, ?_, hadm, ?_⟩
  · rw [run_append]
    exact klogin.trans hlogin
  · rw [run_append]
    exact ksrp.trans hsrp

/-- **Soundness of accepted proofs.** -/
theorem logonProof_sound_iff (ip : String) (build expversion : Nat) (pre : List (Command × Env))
    (p : ProofPacket) (env : Env) (h : (run step (connect ip build expversion) pre).Accepts p env) :
    SoundProof (connect ip build expversion) pre p ↔
      LastChallengeAdmitted ip pre ∧ setBinary p.A ≠ modulus := by
  have hmod := setBinary_mod_modulus h.A_ne_zero
  constructor
  · rintro ⟨hfrom, hA⟩
    exact ⟨hfrom.lastChallengeAdmitted, mt hmod.2 hA⟩
  · rintro ⟨hlast, hA⟩
    exact ⟨hlast.fromChallenge, mt hmod.1 hA⟩

/-! ## Proofs that the server accepts -/

/-- The proof for `A` that the socket would accept. -/
def proofFor (sock : AuthSocket) (A : Nat) : ProofPacket where
  A := bytesLE 32 A
  M1 := (bigNumberBytes (sock.expectedProof A (sessionKeyOf (sock.sharedSecret A))) ++
    List.replicate 20 0).take 20
  length_A := by simp [bytesLE]
  length_M1 := by simp

theorem accepts_proofFor {A : Nat} (hexp : sock.expversion ≠ 0)
    (hA : setBinary (bytesLE 32 A) = A) (hA0 : A ≠ 0) (hheap : env.heap = List.replicate 20 0) :
    sock.Accepts (proofFor sock A) env := by
  have hguard : ¬ (sock.expversion = 0 ∨ setBinary (proofFor sock A).A = 0) := by
    rintro (h | h)
    · exact hexp h
    · exact hA0 (hA.symm.trans h)
  have hmatch : proofMatches (sock.expectedProof A (sessionKeyOf (sock.sharedSecret A)))
      (proofFor sock A) env = true := by
    simp [proofMatches, proofFor, hheap]
  refine ⟨sessionKeyOf (sock.sharedSecret A), ?_⟩
  unfold handleLogonProof
  rw [if_neg hguard, show setBinary (proofFor sock A).A = A from hA]
  exact congrArg Prod.fst (if_pos hmatch)

/-- With `A = N` the shared secret is zero, whatever the verifier. -/
theorem sharedSecret_modulus (hb : sock.b ≠ 0) : sock.sharedSecret modulus = 0 := by
  rw [sharedSecret, modExp_eq, Nat.pow_mod, Nat.mul_mod_right, zero_pow (by omega), Nat.zero_mod]

theorem sharedSecret_of_b_eq_zero (hb : sock.b = 0) (A : Nat) : sock.sharedSecret A = 1 := by
  rw [sharedSecret, modExp_eq, hb, pow_zero]
  decide

/-- A challenge of client build 12340 for the account `A`. -/
def samplePacket : ChallengePacket where
  bytes := List.replicate 11 0 ++ [0x34, 0x30] ++ List.replicate 4 0 ++ [0x36, 0x38, 0x78, 0] ++
    List.replicate 13 0 ++ [0x41]
  length_le := by decide

/-- A database with one unlocked account, whose bans are `ban`. -/
def sampleEnv (ban : Option (Nat × Nat)) : Env where
  ipBanned := false
  account := fun _ => some {
    shaPassHash := "00", id := 1, locked := 0, lastIp := "127.0.0.1", gmlevel := 0, v := "", s := ""
    hex_v := by simp
    hex_s := by simp }
  accountBanned := fun _ => ban
  sessionKey := fun _ => none
  failedLogins := fun _ => none
  randS := .least32
  randB := .least19
  randUnk3 := .least16
  randReconnect := .least16
  heap := List.replicate 20 0
  wrongPassMaxCount := 0
  wrongPassBanTime := 600
  wrongPassBanType := false

def challenged (ban : Option (Nat × Nat)) : AuthSocket :=
  run step (connect "127.0.0.1" 0 0) [(.logonChallenge samplePacket, sampleEnv ban)]

theorem challenged_expversion (ban : Option (Nat × Nat)) : (challenged ban).expversion ≠ 0 := by
  have h : (challenged ban).expversion = expversionOf samplePacket.build :=
    (handleLogonChallenge_writes _ _ _).2.2
  rw [h]
  decide

theorem challenged_admitted :
    LastChallengeAdmitted "127.0.0.1" [(.logonChallenge samplePacket, sampleEnv none)] :=
  ⟨samplePacket, sampleEnv none, _, rfl, by decide, rfl, rfl, fun h => (by cases h), rfl⟩

theorem logonProof_sound_of_one :
    SoundProof (connect "127.0.0.1" 0 0) [(.logonChallenge samplePacket, sampleEnv none)]
      (proofFor (challenged none) 1) :=
  (logonProof_sound_iff "127.0.0.1" 0 0 _ _ (sampleEnv none)
    (accepts_proofFor (challenged_expversion none) (by decide) (by decide) rfl)).2
    ⟨challenged_admitted, by decide⟩

/-- Two accepted proofs for which no password is needed: `A = N` after a challenge that let the
account in, and `A = 1` after a challenge that answered that the account is banned. -/
theorem logonProof_unsound :
    ((challenged none).Accepts (proofFor (challenged none) modulus) (sampleEnv none) ∧
      (challenged none).sharedSecret modulus = 0 ∧
      ¬ SoundProof (connect "127.0.0.1" 0 0) [(.logonChallenge samplePacket, sampleEnv none)]
        (proofFor (challenged none) modulus)) ∧
    ((challenged (some (1, 1))).Accepts (proofFor (challenged (some (1, 1))) 1) (sampleEnv (some (1, 1))) ∧
      (challenged (some (1, 1))).sharedSecret 1 = 1 ∧
      ¬ SoundProof (connect "127.0.0.1" 0 0) [(.logonChallenge samplePacket, sampleEnv (some (1, 1)))]
        (proofFor (challenged (some (1, 1))) 1)) := by
  have hN : setBinary (bytesLE 32 modulus) = modulus := by decide
  refine ⟨⟨accepts_proofFor (challenged_expversion none) hN (by decide) rfl, ?_, ?_⟩,
    accepts_proofFor (challenged_expversion _) (by decide) (by decide) rfl, ?_, ?_⟩
  · have hsrp : (challenged none).srp = srpValuesOf _ (sampleEnv none) :=
      (logonChallenge_admitted (by decide) ⟨rfl, rfl, fun h => (by cases h), rfl⟩).2.2
    have hb : (challenged none).b = 2 ^ 151 + 1 := congrArg SrpValues.b hsrp
    exact sharedSecret_modulus (by rw [hb]; decide)
  · rintro ⟨-, hmod⟩
    exact hmod (by rw [show setBinary (proofFor (challenged none) modulus).A = modulus from hN, Nat.mod_self])
  · exact sharedSecret_of_b_eq_zero rfl 1
  · rintro ⟨hfrom, -⟩
    obtain ⟨pkt, env, account, hlast, -, hadm⟩ := hfrom.lastChallengeAdmitted
    cases hlast
    cases hadm.notBanned

end Axium.Auth
