import Axium.Lib.Run
import Axium.Lib.Sha1
import Axium.Auth.BigNumber

/-!
# The authentication socket

The four commands of the log-in protocol on one connection, from `AuthSocket.cpp`. `OnRead` runs the
handler of each command as it comes, in any order: the handler table asks `_authed` only for the
realm list.

A command is a complete packet. A challenge or a proof that is cut short makes its handler return
before it has read or written any field. What a handler asks of the outside (the rows of the login
database at that moment, random numbers, the configuration) is its `Env`; the statements it sends
to the database are logged.
-/

namespace Axium.Auth

/-- An account name, as the client sent it. -/
abbrev Login := List UInt8

/-- The modulus `N` of the constructor. -/
def modulus : Nat := 0x894B645E89E1535BBDAD5B8B290650530801B18EBFBF5E8FAB3C82872A3E9BB7

/-- The generator `g`. -/
def generator : Nat := 7

/-- `AuthResult`, as far as the handlers answer it. -/
inductive AuthResult where
  | wowSuccess | wowFailBanned | wowFailUnknownAccount | wowFailSuspended
  deriving DecidableEq, Repr

def AuthResult.code : AuthResult → UInt8
  | wowSuccess => 0x00 | wowFailBanned => 0x03 | wowFailUnknownAccount => 0x04
  | wowFailSuspended => 0x0C

/-- The columns of `LOGIN_SEL_LOGONCHALLENGE`. The login database only ever stores what `AsHexStr`
wrote in `v` and `s`, or no digits at all. -/
structure Account where
  shaPassHash : String
  id : Nat
  locked : Nat
  lastIp : String
  gmlevel : Nat
  v : String
  s : String
  hex_v : ∀ c ∈ v.toList, (hexDigit? c).isSome
  hex_s : ∀ c ∈ s.toList, (hexDigit? c).isSome
  deriving DecidableEq, Repr

/-- The columns of `LOGIN_SEL_SESSIONKEY`. -/
structure SessionRow where
  sessionkey : String
  gmlevel : Nat
  deriving DecidableEq, Repr

/-- A statement that changes the login database. A big number is sent as its hexadecimal digits. -/
inductive Statement where
  | updExpiredAccountBans
  | updVS (v s : Nat) (login : Login)
  | updLogonProof (sessionkey : Nat) (ip : String) (locale os : List UInt8) (login : Login)
  | updFailedLogins (login : Login)
  | insAccountAutoBanned (id banTime : Nat)
  | insIpAutoBanned (ip : String) (banTime : Nat)
  deriving DecidableEq, Repr

/-- What a handler reads from outside the socket. `heap` is what `memcmp` finds behind an array that
is shorter than the 20 bytes it compares. -/
structure Env where
  ipBanned : Bool
  account : Login → Option Account
  accountBanned : Nat → Option (Nat × Nat)
  sessionKey : Login → Option SessionRow
  failedLogins : Login → Option (Nat × Nat)
  randS : Rand (32 * 8)
  randB : Rand (19 * 8)
  randUnk3 : Rand (16 * 8)
  randReconnect : Rand (16 * 8)
  heap : List UInt8
  wrongPassMaxCount : Nat
  wrongPassBanTime : Nat
  wrongPassBanType : Bool

/-- A packet of `sAuthLogonChallenge_C`: the fixed part has 35 bytes, the name begins at offset 34. -/
structure ChallengePacket where
  bytes : List UInt8
  length_le : 35 ≤ bytes.length

/-- A packet of `sAuthLogonProof_C`, less the fields that are not read. -/
structure ProofPacket where
  A : List UInt8
  M1 : List UInt8
  length_A : A.length = 32
  length_M1 : M1.length = 20

/-- A packet of `sAuthReconnectProof_C`, less the fields that are not read. -/
structure ReconnectProofPacket where
  R1 : List UInt8
  R2 : List UInt8
  length_R1 : R1.length = 16
  length_R2 : R2.length = 20

inductive Command where
  | logonChallenge (p : ChallengePacket)
  | logonProof (p : ProofPacket)
  | reconnectChallenge (p : ChallengePacket)
  | reconnectProof (p : ReconnectProofPacket)

/-- `AuthSocket`. The big numbers start at zero; the constructor leaves `_build` and `_expversion`
uninitialised. -/
structure AuthSocket where
  remoteAddress : String
  s : Nat := 0
  v : Nat := 0
  b : Nat := 0
  B : Nat := 0
  K : Nat := 0
  reconnectProof : Nat := 0
  authed : Bool := false
  login : Login := []
  localizationName : List UInt8 := []
  os : List UInt8 := []
  build : Nat
  expversion : Nat
  accountSecurityLevel : Nat := 0
  statements : List Statement := []

/-! ## The fields of a packet -/

/-- A C string: the bytes up to the first zero, which the handlers put behind the packet. -/
def cString (bytes : List UInt8) : List UInt8 := bytes.takeWhile (· ≠ 0)

namespace ChallengePacket

variable (p : ChallengePacket)

def build : Nat := setBinary ((p.bytes.drop 11).take 2)

/-- `(const char*)ch->os`: the string may run on into the fields behind it. -/
def os : List UInt8 := cString (p.bytes.drop 17)

def country : List UInt8 := (p.bytes.drop 21).take 4

/-- `(const char*)ch->I`. -/
def login : Login := cString (p.bytes.drop 34)

end ChallengePacket

def isPostBCAcceptedClientBuild (build : Nat) : Bool :=
  build ∈ [12340, 11723, 11403, 11159, 10571, 10505, 10146, 9947, 8606]

def isPreBCAcceptedClientBuild (build : Nat) : Bool := build ∈ [5875, 6005]

/-- The flags `POST_BC_EXP_FLAG` and `PRE_BC_EXP_FLAG`. -/
def expversionOf (build : Nat) : Nat :=
  (if isPostBCAcceptedClientBuild build then 2 else 0) |||
    (if isPreBCAcceptedClientBuild build then 1 else 0)

/-- The number as `UpdateBigNumbers` hashes it. -/
def bigNumberBytes (n : Nat) : List UInt8 := asByteArray 0 n

/-- A number as a little-endian field of a packet. -/
def bytesLE (len n : Nat) : List UInt8 := (List.range len).map fun i => .ofNat (n >>> (8 * i))

namespace AuthSocket

variable (sock : AuthSocket)

/-! ## The challenge -/

/-- `_SetVSFields`: a fresh salt, and the verifier from the password hash in the database. -/
def setVSFields (shaPassHash : String) (env : Env) : AuthSocket :=
  let s := env.randS.val
  let i := setHexStr 0 shaPassHash.toList
  let digest := if getNumBytes i ≤ 20 then bigNumberBytes i else []
  let mDigest := (digest ++ List.replicate (20 - digest.length) 0).reverse
  let x := setBinary (Sha1.hash (bigNumberBytes s ++ mDigest))
  let v := modExp generator x modulus
  { sock with s := s, v := v, statements := sock.statements ++ [.updVS v s sock.login] }

/-- `(v, s)` from the database, or new ones when a column has not the length of 32 bytes. -/
def loadVS (account : Account) (env : Env) : AuthSocket :=
  if account.v.length ≠ 64 ∨ account.s.length ≠ 64 then sock.setVSFields account.shaPassHash env
  else
    { sock with
      s := setHexStr sock.s account.s.toList, v := setHexStr sock.v account.v.toList }

def startSrp (p : ChallengePacket) (account : Account) (env : Env) : AuthSocket × List UInt8 :=
  let sock := sock.loadVS account env
  let b := env.randB.val
  let B := (sock.v * 3 + modExp generator b modulus) % modulus
  let answer := AuthResult.wowSuccess.code :: asByteArray 32 B ++ 1 :: (asByteArray 0 generator).take 1
    ++ 32 :: asByteArray 32 modulus ++ asByteArray 0 sock.s ++ asByteArray 16 env.randUnk3.val ++ [0]
  ({ sock with
      b := b
      B := B
      accountSecurityLevel := min account.gmlevel 3
      localizationName := p.country.reverse }, answer)

/-- Whether the account may log in from this address, by the rows of the database. -/
def admission (ip : String) (login : Login) (env : Env) : Except AuthResult Account :=
  if env.ipBanned then .error .wowFailBanned
  else
    match env.account login with
    | none => .error .wowFailUnknownAccount
    | some account =>
      if account.locked = 1 ∧ account.lastIp ≠ ip then .error .wowFailSuspended
      else
        match env.accountBanned account.id with
        | some (bandate, unbandate) =>
          .error (if bandate = unbandate then .wowFailBanned else .wowFailSuspended)
        | none => .ok account

def updateExpiredBans (env : Env) : AuthSocket :=
  let lockedOut := (env.account sock.login).any fun account =>
    account.locked = 1 && account.lastIp ≠ sock.remoteAddress
  if env.ipBanned || (env.account sock.login).isNone || lockedOut then sock
  else { sock with statements := sock.statements ++ [.updExpiredAccountBans] }

/-- `_HandleLogonChallenge`. The name is stored before anything is decided. -/
def handleLogonChallenge (p : ChallengePacket) (env : Env) : AuthSocket × Option (List UInt8) :=
  let sock := { sock with
    login := p.login, build := p.build, expversion := expversionOf p.build, os := p.os }
  if 4 < sock.os.length then (sock, none)
  else
    let sock := { sock with os := sock.os.reverse }
    match admission sock.remoteAddress sock.login env with
    | .error r => (sock.updateExpiredBans env, some [0x00, 0x00, r.code])
    | .ok account =>
      let (sock, answer) := (sock.updateExpiredBans env).startSrp p account env
      (sock, some (0x00 :: 0x00 :: answer))

/-! ## The proof -/

/-- `u`, the scrambling parameter. -/
def scramble (A : Nat) : Nat := setBinary (Sha1.hash (bigNumberBytes A ++ bigNumberBytes sock.B))

/-- `S = (A * v ^ u) ^ b mod N`. -/
def sharedSecret (A : Nat) : Nat := modExp (A * modExp sock.v (sock.scramble A) modulus) sock.b modulus

/-- The two halves of `S` are hashed apart and their digests interleaved. -/
def sessionKeyOf (S : Nat) : Nat :=
  let t := asByteArray 32 S
  let half := fun k => Sha1.hash ((List.range 16).map fun i => t.getD (i * 2 + k) 0)
  setBinary (((half 0).zip (half 1)).flatMap fun d => [d.1, d.2])

/-- `M`, the proof that the client must send. -/
def expectedProof (A K : Nat) : Nat :=
  let hash := List.zipWith (· ^^^ ·) (Sha1.hash (bigNumberBytes modulus))
    (Sha1.hash (bigNumberBytes generator))
  setBinary (Sha1.hash (bigNumberBytes (setBinary hash) ++ Sha1.hash sock.login ++
    bigNumberBytes sock.s ++ bigNumberBytes A ++ bigNumberBytes sock.B ++ bigNumberBytes K))

/-- `memcmp(M.AsByteArray(), lp.M1, 20)`, which reads on behind a shorter array. -/
def proofMatches (M : Nat) (p : ProofPacket) (env : Env) : Bool :=
  (bigNumberBytes M ++ env.heap).take 20 = p.M1

def failedLogin (env : Env) : List Statement :=
  if 0 < env.wrongPassMaxCount then
    .updFailedLogins sock.login ::
      match env.failedLogins sock.login with
      | some (id, failed) =>
        if env.wrongPassMaxCount ≤ failed then
          if env.wrongPassBanType then [.insAccountAutoBanned id env.wrongPassBanTime]
          else [.insIpAutoBanned sock.remoteAddress env.wrongPassBanTime]
        else []
      | none => []
  else []

def handleLogonProof (p : ProofPacket) (env : Env) : AuthSocket × Option (List UInt8) :=
  let A := setBinary p.A
  if sock.expversion = 0 ∨ A = 0 then (sock, some [])
  else
    let K := sessionKeyOf (sock.sharedSecret A)
    let M := sock.expectedProof A K
    let sock := { sock with K := K }
    if proofMatches M p env then
      let M2 := Sha1.hash (bigNumberBytes A ++ bigNumberBytes M ++ bigNumberBytes K)
      let answer := 0x01 :: 0x00 :: M2 ++
        if sock.expversion &&& 2 ≠ 0 then bytesLE 4 0x00800000 ++ bytesLE 4 0 ++ bytesLE 2 0
        else bytesLE 4 0
      ({ sock with
          authed := true
          statements := sock.statements ++ [.updLogonProof K sock.remoteAddress
            sock.localizationName sock.os sock.login] }, some answer)
    else
      ({ sock with statements := sock.statements ++ sock.failedLogin env },
        some [0x01, AuthResult.wowFailUnknownAccount.code, 3, 0])

/-! ## Reconnecting -/

/-- `_HandleReconnectChallenge`. It writes the name and the key `K`, not the other values. -/
def handleReconnectChallenge (p : ChallengePacket) (env : Env) : AuthSocket × Option (List UInt8) :=
  let sock := { sock with login := p.login }
  match env.sessionKey sock.login with
  | none => (sock, none)
  | some row =>
    let sock := { sock with build := p.build, expversion := expversionOf p.build, os := p.os }
    if 4 < sock.os.length then (sock, none)
    else
      ({ sock with
          os := sock.os.reverse
          accountSecurityLevel := min row.gmlevel 3
          K := setHexStr sock.K row.sessionkey.toList
          reconnectProof := env.randReconnect.val },
        some (0x02 :: 0x00 :: asByteArray 16 env.randReconnect.val ++ List.replicate 16 0))

def handleReconnectProof (p : ReconnectProofPacket) : AuthSocket × Option (List UInt8) :=
  if sock.login.isEmpty ∨ getNumBytes sock.reconnectProof = 0 ∨ getNumBytes sock.K = 0 then
    (sock, none)
  else
    let digest := Sha1.hash (sock.login ++ bigNumberBytes (setBinary p.R1) ++
      bigNumberBytes sock.reconnectProof ++ bigNumberBytes sock.K)
    if digest = p.R2 then ({ sock with authed := true }, some [0x03, 0x00, 0x00, 0x00])
    else (sock, none)

end AuthSocket

/-! ## Runs -/

/-- One command through the handler table, with the bytes it sends: `none` when the handler returns
false. -/
def handle (sock : AuthSocket) (ce : Command × Env) : AuthSocket × Option (List UInt8) :=
  match ce.1 with
  | .logonChallenge p => sock.handleLogonChallenge p ce.2
  | .logonProof p => sock.handleLogonProof p ce.2
  | .reconnectChallenge p => sock.handleReconnectChallenge p ce.2
  | .reconnectProof p => sock.handleReconnectProof p

def step (sock : AuthSocket) (ce : Command × Env) : AuthSocket := (handle sock ce).1

def connect (remoteAddress : String) (build expversion : Nat) : AuthSocket :=
  { remoteAddress := remoteAddress, build := build, expversion := expversion }

end Axium.Auth
