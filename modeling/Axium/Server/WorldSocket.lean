import Axium.Lib.Keystream

/-!
# The world socket

`WorldSocket` of one connection: the cipher over the headers, the packets with their two kinds of header, the
message blocks, and the input half with its two buffers.

An assertion that fails makes a function return nothing. What `ProcessIncoming` calls outside the socket
(the clock, the handlers of the instant opcodes, the packet queue of the session) is a `Services`.
-/

namespace Axium.Server

structure WorldPacket where
  opcode : UInt16
  contents : List UInt8
deriving DecidableEq, Repr

/-! ## The cipher -/

/-- `AuthCrypt`: one ARC4 generator for each direction. -/
structure AuthCrypt (κ : Type) where
  clientDecrypt : κ
  serverEncrypt : κ
  initialized : Bool
deriving DecidableEq, Repr

namespace AuthCrypt

variable {κ : Type} (next : κ → UInt8 × κ)

/-- `Init`, from the two generators keyed with the session key: ARC4-drop1024. -/
@[irreducible] def init (decrypt encrypt : κ) : AuthCrypt κ where
  clientDecrypt := (Keystream.crypt next decrypt (List.replicate 1024 0)).2
  serverEncrypt := (Keystream.crypt next encrypt (List.replicate 1024 0)).2
  initialized := true

def decryptRecv (c : AuthCrypt κ) (data : List UInt8) : List UInt8 × AuthCrypt κ :=
  if c.initialized then
    ((Keystream.crypt next c.clientDecrypt data).1,
      { c with clientDecrypt := (Keystream.crypt next c.clientDecrypt data).2 })
  else (data, c)

def encryptSend (c : AuthCrypt κ) (data : List UInt8) : List UInt8 × AuthCrypt κ :=
  if c.initialized then
    ((Keystream.crypt next c.serverEncrypt data).1,
      { c with serverEncrypt := (Keystream.crypt next c.serverEncrypt data).2 })
  else (data, c)

@[simp] theorem length_decryptRecv (c : AuthCrypt κ) (data : List UInt8) :
    (c.decryptRecv next data).1.length = data.length := by
  unfold decryptRecv
  by_cases h : c.initialized = true
  · rw [if_pos h]
    exact Keystream.length_crypt next _ _
  · rw [if_neg h]

end AuthCrypt

/-! ## Message blocks -/

/-- `ACE_Message_Block`: the size of its buffer and the bytes between the read and the write pointer. A block
that data is copied into has them at the base of the buffer. -/
structure MessageBlock where
  size : Nat
  data : List UInt8
deriving DecidableEq, Repr

namespace MessageBlock

variable (m : MessageBlock)

def space : Nat := m.size - m.data.length

def copy (buf : List UInt8) : MessageBlock :=
  if m.space < buf.length then m else { m with data := m.data ++ buf }

end MessageBlock

/-! ## Incoming packets -/

/-- `ClientPktHeader`: the size big-endian, the opcode little-endian. -/
structure ClientPktHeader where
  size : Nat
  cmd : Nat
deriving DecidableEq, Repr

namespace ClientPktHeader

def ofBytes (l : List UInt8) : ClientPktHeader where
  size := 256 * (l.getD 0 0).toNat + (l.getD 1 0).toNat
  cmd := (l.getD 2 0).toNat + 256 * (l.getD 3 0).toNat + 65536 * (l.getD 4 0).toNat +
    16777216 * (l.getD 5 0).toNat

/-- The check of `handle_input_header`. -/
def Malformed (h : ClientPktHeader) : Prop := h.size < 4 ∨ 10240 < h.size ∨ 10240 < h.cmd

instance (h : ClientPktHeader) : Decidable h.Malformed := inferInstanceAs (Decidable (_ ∨ _ ∨ _))

end ClientPktHeader

/-- The counter of the rate limit, in `WorldSession`. -/
structure WorldSession where
  lastPacketCount : Nat
  lastPacketCountCheck : Int
deriving DecidableEq, Repr

/-- The answer of `HandleAuthSession`. With `keys` the account was accepted: the session exists and the
cipher is initialised. -/
structure AuthReply (σ κ : Type) where
  ok : Bool
  keys : Option (κ × κ)
  rest : σ

/-- What `ProcessIncoming` uses outside the socket. A handler that returns -1 or throws answers `false`. -/
structure Services (σ κ : Type) where
  next : κ → UInt8 × κ
  time : σ → Int × σ
  handlePing : Bool → σ → WorldPacket → Bool × σ
  handleAuthSession : σ → WorldPacket → AuthReply σ κ
  queuePacket : σ → WorldPacket → σ

/-- The part of the socket that `ProcessIncoming` works on. -/
structure Core (σ κ : Type) where
  closing : Bool
  session : Option WorldSession
  crypt : AuthCrypt κ
  rest : σ
deriving DecidableEq

def CMSG_PING : UInt16 := 0x1DC
def CMSG_AUTH_SESSION : UInt16 := 0x1ED
def CMSG_KEEP_ALIVE : UInt16 := 0x407

section Input

variable {σ κ : Type} (S : Services σ κ)

def countPacket (c : Core σ κ) : Bool × Core σ κ :=
  match c.session with
  | none => (true, c)
  | some session =>
    let now := (S.time c.rest).1
    let c := { c with rest := (S.time c.rest).2 }
    if 1 ≤ now - session.lastPacketCountCheck then
      if 2000 ≤ session.lastPacketCount then (false, c)
      else (true, { c with session := some ⟨1, now⟩ })
    else
      (true, { c with
        session := some { session with lastPacketCount := (session.lastPacketCount + 1) % 2 ^ 32 } })

/-- The `switch` of `ProcessIncoming`. -/
def dispatch (c : Core σ κ) (pct : WorldPacket) : Bool × Core σ κ :=
  if pct.opcode = CMSG_PING then
    let reply := S.handlePing c.session.isSome c.rest pct
    (reply.1, { c with rest := reply.2 })
  else if pct.opcode = CMSG_AUTH_SESSION then
    -- "Player send CMSG_AUTH_SESSION again"
    if c.session.isSome then (false, c)
    else
      let reply := S.handleAuthSession c.rest pct
      match reply.keys with
      | none => (reply.ok, { c with rest := reply.rest })
      | some (decrypt, encrypt) =>
        (reply.ok, { c with
          session := some ⟨0, 0⟩, crypt := AuthCrypt.init S.next decrypt encrypt, rest := reply.rest })
  else if pct.opcode = CMSG_KEEP_ALIVE then (true, c)
  else if c.session.isSome then (true, { c with rest := S.queuePacket c.rest pct })
  else (false, c)

/-- `ProcessIncoming`; `false` is -1. -/
def processIncoming (c : Core σ κ) (pct : WorldPacket) : Bool × Core σ κ :=
  if c.closing then (false, c)
  else if (countPacket S c).1 then dispatch S (countPacket S c).2 pct
  else (false, (countPacket S c).2)

/-- The packet under construction, `m_RecvWPct`: its storage is what `m_RecvPct` fills. -/
structure RecvPacket where
  opcode : UInt16
  size : Nat
deriving DecidableEq, Repr

/-- The input half of `WorldSocket`, with the packets that were passed to `ProcessIncoming`. -/
structure WorldSocket (σ κ : Type) where
  header : MessageBlock := ⟨6, []⟩
  recvWPct : Option RecvPacket := none
  recvPct : MessageBlock := ⟨0, []⟩
  core : Core σ κ
  passed : List WorldPacket := []
deriving DecidableEq

namespace WorldSocket

/-- `handle_input_header`; `false` is -1. -/
def handleInputHeader (s : WorldSocket σ κ) : Option (Bool × WorldSocket σ κ) :=
  if s.recvWPct ≠ none ∨ s.header.data.length ≠ 6 then none
  else
    let plain := s.core.crypt.decryptRecv S.next s.header.data
    let hdr := ClientPktHeader.ofBytes plain.1
    let s := { s with
      header := { s.header with data := plain.1 }
      core := { s.core with crypt := plain.2 } }
    if hdr.Malformed then some (false, s)
    else
      let size := hdr.size - 4
      let s := { s with recvWPct := some ⟨UInt16.ofNat hdr.cmd, size⟩ }
      if 0 < size then some (true, { s with recvPct := ⟨size, []⟩ })
      else if s.recvPct.space = 0 then some (true, s)
      else none

/-- `handle_input_payload`; `false` is -1. -/
def handleInputPayload (s : WorldSocket σ κ) : Option (Bool × WorldSocket σ κ) :=
  match s.recvWPct with
  | none => none
  | some p =>
    if s.recvPct.space ≠ 0 ∨ s.header.space ≠ 0 then none
    else
      let pct : WorldPacket := ⟨p.opcode, s.recvPct.data.take p.size⟩
      let reply := processIncoming S s.core pct
      some (reply.1, { s with
        header := { s.header with data := [] }
        recvWPct := none
        recvPct := ⟨0, []⟩
        core := reply.2
        passed := s.passed ++ [pct] })

/-- What `handle_input_missing_data` returns: -1 with `EWOULDBLOCK`, -1 with another error, 0, and 1 or 2
with whether the chunk filled the buffer. -/
inductive Ret where
  | wouldBlock
  | invalid
  | peerClosed
  | received (full : Bool)
deriving DecidableEq, Repr

inductive Flow (σ κ : Type) where
  | ret (r : Ret) (s : WorldSocket σ κ)
  | goOn (s : WorldSocket σ κ) (buf : List UInt8)

def readHeader (s : WorldSocket σ κ) (buf : List UInt8) : Option (Flow σ κ) :=
  if 0 < s.header.space then
    let toHeader := if s.header.space < buf.length then s.header.space else buf.length
    let s := { s with header := s.header.copy (buf.take toHeader) }
    let buf := buf.drop toHeader
    if 0 < s.header.space then
      if buf.length = 0 then some (.ret .wouldBlock s) else none
    else
      match s.handleInputHeader S with
      | none => none
      | some (false, s) => some (.ret .invalid s)
      | some (true, s) => some (.goOn s buf)
  else some (.goOn s buf)

def finishPayload (s : WorldSocket σ κ) (buf : List UInt8) : Option (Flow σ κ) :=
  match s.handleInputPayload S with
  | none => none
  | some (false, s) => some (.ret .invalid s)
  | some (true, s) => some (.goOn s buf)

def readPayload (s : WorldSocket σ κ) (buf : List UInt8) : Option (Flow σ κ) :=
  -- "Forcing close on input m_RecvWPct = NULL"
  if s.recvWPct = none then some (.ret .invalid s)
  else if 0 < s.recvPct.space then
    let toData := if s.recvPct.space < buf.length then s.recvPct.space else buf.length
    let s := { s with recvPct := s.recvPct.copy (buf.take toData) }
    let buf := buf.drop toData
    if 0 < s.recvPct.space then
      if buf.length = 0 then some (.ret .wouldBlock s) else none
    else s.finishPayload S buf
  else s.finishPayload S buf

/-- `while (message_block.length() > 0)`. The last argument is what is left of the chunk. -/
def inputLoop (full : Bool) : Nat → WorldSocket σ κ → List UInt8 → Option (Ret × WorldSocket σ κ)
  | 0, _, _ => none
  | fuel + 1, s, buf =>
    if buf = [] then some (.received full, s)
    else
      match s.readHeader S buf with
      | none => none
      | some (.ret r s) => some (r, s)
      | some (.goOn s buf) =>
        match s.readPayload S buf with
        | none => none
        | some (.ret r s) => some (r, s)
        | some (.goOn s buf) => inputLoop full fuel s buf

/-- `handle_input_missing_data`, for the bytes that `recv` returned. Every pass through the loop takes a byte
or resets a full header. -/
def handleInputMissingData (s : WorldSocket σ κ) (chunk : List UInt8) : Option (Ret × WorldSocket σ κ) :=
  if chunk = [] then some (.peerClosed, s)
  else inputLoop S (chunk.length == 4096) (2 * chunk.length + 1) s chunk

def handleClose (s : WorldSocket σ κ) : WorldSocket σ κ :=
  { s with core := { s.core with closing := true, session := none } }

/-- `handle_input`, and the `handle_close` of the reactor when it returns -1. -/
def handleInput (s : WorldSocket σ κ) (chunk : List UInt8) : Option (WorldSocket σ κ) :=
  if s.core.closing then some s
  else
    match s.handleInputMissingData S chunk with
    | none => none
    | some (.invalid, s) => some s.handleClose
    | some (.peerClosed, s) => some s.handleClose
    | some (_, s) => some s

def receive : WorldSocket σ κ → List (List UInt8) → Option (WorldSocket σ κ)
  | s, [] => some s
  | s, chunk :: chunks =>
    match s.handleInput S chunk with
    | none => none
    | some s => receive s chunks

end WorldSocket

end Input

end Axium.Server
