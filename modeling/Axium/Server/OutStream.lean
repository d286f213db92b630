import Axium.Lib.Run
import Axium.Server.WorldSocket

/-!
# The outgoing stream

`SendPacket`, `handle_output` and `handle_output_queue` of `WorldSocket`, with the queue of
`ACE_Message_Queue`. A packet goes to the contiguous buffer or, once the buffer has no room for it, to the
queue; the header is encrypted before it is known whether the queue takes the packet.

The stream stays in order and decodable in every run in which no packet is refused by a full queue after the
cipher was initialised, and no block whose sending would block is put back into a full queue.
-/

namespace Axium.Server

open List AuthCrypt

/-! ## Headers -/

/-- `ServerPktHeader`; `size` is the length of the payload plus the length of the opcode. -/
structure ServerPktHeader where
  size : Nat
  cmd : UInt16
deriving DecidableEq, Repr

namespace ServerPktHeader

variable (h : ServerPktHeader)

def isLargePacket : Bool := 0x7FFF < h.size

/-- The array `header` as the constructor fills it. -/
def header : List UInt8 :=
  (if h.isLargePacket then [UInt8.ofNat (0x80 ||| (0xFF &&& (h.size >>> 16)))] else []) ++
    [UInt8.ofNat (0xFF &&& (h.size >>> 8)), UInt8.ofNat (0xFF &&& h.size),
      UInt8.ofNat (0xFF &&& h.cmd.toNat), UInt8.ofNat (0xFF &&& (h.cmd.toNat >>> 8))]

def ofPacket (pct : WorldPacket) : ServerPktHeader := ⟨(pct.contents.length + 2) % 2 ^ 32, pct.opcode⟩

/-- How the peer reads a header: the highest bit of the first byte tells the two forms apart. -/
def parse : List UInt8 → Option (Nat × UInt16)
  | [a, b, c, d] =>
    if a.toNat < 0x80 then
      some (a.toNat * 256 + b.toNat, UInt16.ofNat (c.toNat + d.toNat * 256))
    else none
  | [a, b, c, d, e] =>
    if 0x80 ≤ a.toNat then
      some ((a.toNat - 0x80) * 65536 + b.toNat * 256 + c.toNat, UInt16.ofNat (d.toNat + e.toNat * 256))
    else none
  | _ => none

theorem and_ff (n : Nat) : 0xFF &&& n = n % 256 := by
  rw [Nat.and_comm]
  exact Nat.and_two_pow_sub_one_eq_mod n 8

theorem toNat_ofNat_byte (n : Nat) : (UInt8.ofNat (0xFF &&& n)).toNat = n % 256 := by
  rw [and_ff, UInt8.toNat_ofNat', Nat.mod_mod]

theorem toNat_large_byte {n : Nat} (h : n < 128) : (UInt8.ofNat (0x80 ||| (0xFF &&& n))).toNat = 128 + n := by
  rw [and_ff, Nat.mod_eq_of_lt (by omega), UInt8.toNat_ofNat']
  have hor : 128 ||| n = 128 + n := by
    have := Nat.two_pow_add_eq_or_of_lt (i := 7) (b := n) h 1
    simpa using this.symm
  rw [hor, Nat.mod_eq_of_lt (by omega)]

theorem ofNat_cmd (cmd : UInt16) : UInt16.ofNat (cmd.toNat % 256 + cmd.toNat / 256 % 256 * 256) = cmd := by
  have hlt : cmd.toNat < 65536 := cmd.toNat_lt
  rw [show cmd.toNat % 256 + cmd.toNat / 256 % 256 * 256 = cmd.toNat by omega]
  exact UInt16.ofNat_toNat

theorem parse_header (hsize : h.size < 2 ^ 23) : parse h.header = some (h.size, h.cmd) := by
  have hshift8 : h.size >>> 8 = h.size / 256 := Nat.shiftRight_eq_div_pow ..
  have hshift16 : h.size >>> 16 = h.size / 65536 := Nat.shiftRight_eq_div_pow ..
  have hcmd8 : h.cmd.toNat >>> 8 = h.cmd.toNat / 256 := Nat.shiftRight_eq_div_pow ..
  by_cases hl : h.isLargePacket = true
  · have hlarge : 0x7FFF < h.size := by simpa [isLargePacket] using hl
    have htop : h.size / 65536 < 128 := by omega
    rw [header, if_pos hl]
    simp only [cons_append, nil_append, parse, toNat_ofNat_byte, hshift8, hshift16, hcmd8,
      toNat_large_byte htop, ofNat_cmd]
    rw [if_pos (by omega), show (128 + h.size / 65536 - 128) * 65536 + h.size / 256 % 256 * 256 +
      h.size % 256 = h.size by omega]
  · have hsmall : h.size ≤ 0x7FFF := by simpa [isLargePacket] using hl
    rw [header, if_neg hl]
    simp only [nil_append, parse, toNat_ofNat_byte, hshift8, hcmd8, ofNat_cmd]
    rw [if_pos (by omega), show h.size / 256 % 256 * 256 + h.size % 256 = h.size by omega]

end ServerPktHeader

/-! ## The queue -/

def highWaterMark : Nat := 8 * 1024 * 1024

/-- `cur_bytes_` of the queue: it counts the sizes of the blocks, not what is left of them. -/
def curBytes (queue : List MessageBlock) : Nat := (queue.map (·.size)).sum

/-- `is_full_i`. -/
def IsFull (queue : List MessageBlock) : Prop := highWaterMark ≤ curBytes queue

instance (queue : List MessageBlock) : Decidable (IsFull queue) := inferInstanceAs (Decidable (_ ≤ _))

/-- `enqueue_tail` with a timeout of zero; nothing is -1. -/
def enqueueTail (queue : List MessageBlock) (mb : MessageBlock) : Option (List MessageBlock) :=
  if IsFull queue then none else some (queue ++ [mb])

/-- `enqueue_head` with a timeout of zero; nothing is -1. -/
def enqueueHead (queue : List MessageBlock) (mb : MessageBlock) : Option (List MessageBlock) :=
  if IsFull queue then none else some (mb :: queue)

/-! ## The socket -/

/-- The output half of `WorldSocket`. `failing`: `handle_output` has returned -1 and the reactor goes on to
close the connection, without a further `handle_output`. -/
structure OutSocket (κ : Type) where
  closing : Bool
  failing : Bool
  crypt : AuthCrypt κ
  outBuffer : MessageBlock
  msgQueue : List MessageBlock
  outActive : Bool

/-- The result of `peer().send`: a number of bytes, -1 with `EWOULDBLOCK`, or -1 with another error. -/
inductive SendResult where
  | sent (n : Nat)
  | wouldBlock
  | error
deriving DecidableEq, Repr

/-- What a call returns (`false` is -1), the socket after it and the bytes that the peer was sent. -/
structure Output (κ : Type) where
  ok : Bool
  sock : OutSocket κ
  bytes : List UInt8

namespace OutSocket

variable {κ : Type} (next : κ → UInt8 × κ)

def FitsBuffer (s : OutSocket κ) (pct : WorldPacket) : Prop :=
  pct.contents.length + (ServerPktHeader.ofPacket pct).header.length ≤ s.outBuffer.space ∧ s.msgQueue = []

instance (s : OutSocket κ) (pct : WorldPacket) : Decidable (s.FitsBuffer pct) :=
  inferInstanceAs (Decidable (_ ∧ _))

def sendPacket (s : OutSocket κ) (pct : WorldPacket) : Bool × OutSocket κ :=
  if s.closing then (false, s)
  else
    let header := s.crypt.encryptSend next (ServerPktHeader.ofPacket pct).header
    let s := { s with crypt := header.2 }
    if s.FitsBuffer pct then
      (true, { s with outBuffer := (s.outBuffer.copy header.1).copy pct.contents })
    else
      match enqueueTail s.msgQueue
          ⟨pct.contents.length + header.1.length, header.1 ++ pct.contents⟩ with
      | none => (false, s)
      | some queue => (true, { s with msgQueue := queue })

/-- `cancel_wakeup_output`; `wake` is the answer of the reactor. -/
def cancelWakeupOutput (s : OutSocket κ) (wake : Bool) (bytes : List UInt8) : Output κ :=
  if s.outActive then ⟨wake, { s with outActive := false }, bytes⟩ else ⟨true, s, bytes⟩

def scheduleWakeupOutput (s : OutSocket κ) (wake : Bool) (bytes : List UInt8) : Output κ :=
  if s.outActive then ⟨true, s, bytes⟩ else ⟨wake, { s with outActive := true }, bytes⟩

def handleOutputQueue (s : OutSocket κ) (r : SendResult) (wake : Bool) : Output κ :=
  match s.msgQueue with
  | [] => s.cancelWakeupOutput wake []
  | mblk :: queue =>
    let s := { s with msgQueue := queue }
    match r with
    | .sent n =>
      if n = 0 then ⟨false, s, []⟩
      else if n < mblk.data.length then
        match enqueueHead queue { mblk with data := mblk.data.drop n } with
        | none => ⟨false, s, mblk.data.take n⟩
        | some queue => ({ s with msgQueue := queue }).scheduleWakeupOutput wake (mblk.data.take n)
      else if queue = [] then s.cancelWakeupOutput wake mblk.data
      else ⟨true, s, mblk.data⟩
    | .wouldBlock =>
      match enqueueHead queue mblk with
      -- the result of `enqueue_head` is not looked at
      | none => s.scheduleWakeupOutput wake []
      | some queue => ({ s with msgQueue := queue }).scheduleWakeupOutput wake []
    | .error => ⟨false, s, []⟩

/-- `handle_output`, with the results of its two calls of `peer().send`. -/
def handleOutput (s : OutSocket κ) (r r' : SendResult) (wake : Bool) : Output κ :=
  if s.closing then ⟨false, s, []⟩
  else if s.outBuffer.data = [] then s.handleOutputQueue r' wake
  else
    match r with
    | .sent n =>
      if n = 0 then ⟨false, s, []⟩
      else if n < s.outBuffer.data.length then
        ({ s with outBuffer := { s.outBuffer with data := s.outBuffer.data.drop n } }).scheduleWakeupOutput
          wake (s.outBuffer.data.take n)
      else
        let out := ({ s with outBuffer := { s.outBuffer with data := [] } }).handleOutputQueue r' wake
        { out with bytes := s.outBuffer.data ++ out.bytes }
    | .wouldBlock => s.scheduleWakeupOutput wake []
    | .error => ⟨false, s, []⟩

/-- `CloseSocket` and `handle_close`. -/
def close (s : OutSocket κ) : OutSocket κ := { s with closing := true }

end OutSocket

/-! ## Runs -/

/-- What the server has done on a connection that the peer should be able to follow: it keyed the cipher, or
`SendPacket` returned 0, with the header as it was encrypted. -/
inductive Entry (κ : Type) where
  | keyed (decrypt encrypt : κ)
  | packet (pct : WorldPacket) (header : List UInt8)

namespace Entry

variable {κ : Type}

def bytes : Entry κ → List UInt8
  | keyed _ _ => []
  | packet pct header => header ++ pct.contents

/-- What the peer should read in the header. -/
def sizeAndOpcode : Entry κ → List (Option (Nat × UInt16))
  | keyed _ _ => []
  | packet pct _ => [some (pct.contents.length + 2, pct.opcode)]

end Entry

structure Connection (κ : Type) where
  sock : OutSocket κ
  written : List UInt8
  accepted : List (Entry κ)

inductive OutEvent (κ : Type) where
  | initCrypt (decrypt encrypt : κ)
  | sendPacket (pct : WorldPacket)
  | handleOutput (r r' : SendResult) (wake : Bool)
  | close

namespace Connection

variable {κ : Type} (next : κ → UInt8 × κ)

/-- A connection as `open` prepares it for its first packet. -/
def start (crypt : AuthCrypt κ) (outBufferSize : Nat) : Connection κ where
  sock :=
    { closing := false
      failing := false
      crypt := crypt
      outBuffer := ⟨outBufferSize, []⟩
      msgQueue := []
      outActive := true }
  written := []
  accepted := []

def step (conn : Connection κ) : OutEvent κ → Connection κ
  | .initCrypt decrypt encrypt =>
    { conn with
      sock := { conn.sock with crypt := init next decrypt encrypt }
      accepted := conn.accepted ++ [.keyed decrypt encrypt] }
  | .sendPacket pct =>
    let header := (conn.sock.crypt.encryptSend next (ServerPktHeader.ofPacket pct).header).1
    let reply := conn.sock.sendPacket next pct
    { conn with
      sock := reply.2
      accepted := if reply.1 then conn.accepted ++ [.packet pct header] else conn.accepted }
  | .handleOutput r r' wake =>
    if conn.sock.failing then conn
    else
      let out := conn.sock.handleOutput r r' wake
      { conn with
        sock := { out.sock with failing := !out.ok }
        written := conn.written ++ out.bytes }
  | .close => { conn with sock := conn.sock.close }

def peerReads : AuthCrypt κ → List (Entry κ) → List (Option (Nat × UInt16)) × AuthCrypt κ
  | c, [] => ([], c)
  | _, .keyed decrypt encrypt :: l => peerReads (init next decrypt encrypt) l
  | c, .packet _ header :: l =>
    let plain := c.encryptSend next header
    (ServerPktHeader.parse plain.1 :: (peerReads plain.2 l).1, (peerReads plain.2 l).2)

/-- The peer can follow: the bytes are those of the accepted packets in order, and every header is read as the
size and the opcode of its packet. -/
structure Decodable (crypt : AuthCrypt κ) (conn : Connection κ) : Prop where
  ordered : conn.written <+: conn.accepted.flatMap Entry.bytes
  readable : (peerReads next crypt conn.accepted).1 = conn.accepted.flatMap Entry.sizeAndOpcode

/-- The step keeps the peer in step. A packet is not refused by a full queue once the cipher is initialised,
and a block of the queue whose sending would block is not put back into a full queue. -/
def Kept (conn : Connection κ) : OutEvent κ → Prop
  | .sendPacket pct =>
    conn.sock.closing = true ∨ conn.sock.crypt.initialized = false ∨ conn.sock.FitsBuffer pct ∨
      ¬ IsFull conn.sock.msgQueue
  | .handleOutput r r' _ =>
    conn.sock.closing = false → conn.sock.failing = false →
      (conn.sock.outBuffer.data = [] ∨ ∃ n, r = .sent n ∧ n ≠ 0 ∧ conn.sock.outBuffer.data.length ≤ n) →
        r' = .wouldBlock → ¬ IsFull conn.sock.msgQueue.tail
  | _ => True

def Sized : OutEvent κ → Prop
  | .sendPacket pct => pct.contents.length < 2 ^ 23 - 2
  | _ => True

end Connection

/-! ## The cipher of the peer -/

section Peer

variable {κ : Type} (next : κ → UInt8 × κ)

theorem AuthCrypt.encryptSend_encryptSend (c : AuthCrypt κ) (data : List UInt8) :
    c.encryptSend next (c.encryptSend next data).1 = (data, (c.encryptSend next data).2) := by
  unfold encryptSend
  by_cases h : c.initialized = true
  · simp only [if_pos h, Keystream.crypt_crypt, Keystream.crypt_snd, Keystream.length_crypt]
  · simp only [if_neg h]

theorem AuthCrypt.encryptSend_of_not_initialized {c : AuthCrypt κ} (h : c.initialized = false)
    (data : List UInt8) : (c.encryptSend next data).2 = c := by
  rw [encryptSend, if_neg (by simp [h])]

theorem AuthCrypt.length_encryptSend (c : AuthCrypt κ) (data : List UInt8) :
    (c.encryptSend next data).1.length = data.length := by
  unfold encryptSend
  by_cases h : c.initialized = true
  · rw [if_pos h]
    exact Keystream.length_crypt next _ _
  · rw [if_neg h]

namespace Connection

theorem peerReads_append (c : AuthCrypt κ) (l l' : List (Entry κ)) :
    peerReads next c (l ++ l') =
      ((peerReads next c l).1 ++ (peerReads next (peerReads next c l).2 l').1,
        (peerReads next (peerReads next c l).2 l').2) := by
  induction l generalizing c with
  | nil => rfl
  | cons e l ih =>
    cases e with
    | keyed decrypt encrypt => exact ih _
    | packet pct header => simp only [cons_append, peerReads, ih]

theorem peerReads_packet (c : AuthCrypt κ) {pct : WorldPacket} (hsize : pct.contents.length < 2 ^ 23 - 2) :
    peerReads next c [.packet pct (c.encryptSend next (ServerPktHeader.ofPacket pct).header).1] =
      ([some (pct.contents.length + 2, pct.opcode)],
        (c.encryptSend next (ServerPktHeader.ofPacket pct).header).2) := by
  have hmod : (pct.contents.length + 2) % 2 ^ 32 = pct.contents.length + 2 := Nat.mod_eq_of_lt (by omega)
  have hlt : (ServerPktHeader.ofPacket pct).size < 2 ^ 23 := by
    rw [ServerPktHeader.ofPacket, hmod]
    change pct.contents.length + 2 < _
    omega
  have hparse := ServerPktHeader.parse_header (ServerPktHeader.ofPacket pct) hlt
  simp only [peerReads, encryptSend_encryptSend, hparse]
  rw [ServerPktHeader.ofPacket, hmod]

end Connection

end Peer

/-! ## The bytes of the socket -/

namespace OutSocket

variable {κ : Type} (next : κ → UInt8 × κ)

def content (s : OutSocket κ) : List UInt8 := s.outBuffer.data ++ s.msgQueue.flatMap (·.data)

/-- The two sockets differ in their buffers and in `outActive` only. -/
structure SameState (s t : OutSocket κ) : Prop where
  closing : t.closing = s.closing
  failing : t.failing = s.failing
  crypt : t.crypt = s.crypt

/-- A call of `handle_output` sends the first bytes of the socket and, if it does not fail, keeps the others. -/
structure Conveys (s : OutSocket κ) (out : Output κ) : Prop where
  same : SameState s out.sock
  bytes : out.bytes <+: s.content
  rest : out.ok = true → out.bytes ++ out.sock.content = s.content

variable {s t : OutSocket κ} {bytes : List UInt8}

theorem Conveys.of_split {ok : Bool} (hsame : SameState s t)
    (h : bytes ++ t.content = s.content) : Conveys s ⟨ok, t, bytes⟩ where
  same := hsame
  bytes := ⟨t.content, h⟩
  rest _ := h

theorem Conveys.of_failed (hsame : SameState s t) (h : bytes <+: s.content) : Conveys s ⟨false, t, bytes⟩ where
  same := hsame
  bytes := h
  rest hok := absurd hok Bool.false_ne_true

theorem Conveys.cancelWakeupOutput (hsame : SameState s t)
    (h : bytes ++ t.content = s.content) (wake : Bool) : Conveys s (t.cancelWakeupOutput wake bytes) := by
  unfold OutSocket.cancelWakeupOutput
  by_cases hactive : t.outActive = true
  · rw [if_pos hactive]
    exact .of_split ⟨hsame.closing, hsame.failing, hsame.crypt⟩ h
  · rw [if_neg hactive]
    exact .of_split hsame h

theorem Conveys.scheduleWakeupOutput (hsame : SameState s t)
    (h : bytes ++ t.content = s.content) (wake : Bool) : Conveys s (t.scheduleWakeupOutput wake bytes) := by
  unfold OutSocket.scheduleWakeupOutput
  by_cases hactive : t.outActive = true
  · rw [if_pos hactive]
    exact .of_split hsame h
  · rw [if_neg hactive]
    exact .of_split ⟨hsame.closing, hsame.failing, hsame.crypt⟩ h

theorem sameState_queue (s : OutSocket κ) (queue : List MessageBlock) :
    SameState s { s with msgQueue := queue } :=
  ⟨rfl, rfl, rfl⟩

theorem conveys_handleOutputQueue (hbuffer : s.outBuffer.data = []) {r : SendResult}
    (hkept : r = .wouldBlock → ¬ IsFull s.msgQueue.tail) (wake : Bool) :
    Conveys s (s.handleOutputQueue r wake) := by
  unfold handleOutputQueue
  cases hqueue : s.msgQueue with
  | nil => exact .cancelWakeupOutput ⟨rfl, rfl, rfl⟩ rfl wake
  | cons mblk queue =>
    have hcontent : s.content = mblk.data ++ queue.flatMap (·.data) := by
      rw [content, hbuffer, hqueue, nil_append, flatMap_cons]
    rw [hqueue, tail_cons] at hkept
    cases r with
    | error => exact .of_failed ⟨rfl, rfl, rfl⟩ nil_prefix
    | wouldBlock =>
      dsimp only
      rw [enqueueHead, if_neg (hkept rfl)]
      refine .scheduleWakeupOutput (s.sameState_queue (mblk :: queue)) ?_ wake
      rw [hcontent, content, hbuffer]
      rfl
    | sent n =>
      dsimp only
      by_cases hzero : n = 0
      · rw [if_pos hzero]
        exact .of_failed ⟨rfl, rfl, rfl⟩ nil_prefix
      rw [if_neg hzero]
      by_cases hpart : n < mblk.data.length
      · rw [if_pos hpart, enqueueHead]
        by_cases hfull : IsFull queue
        · -- the block is lost, and the connection with it
          rw [if_pos hfull]
          refine .of_failed ⟨rfl, rfl, rfl⟩ ?_
          rw [hcontent]
          exact (List.take_prefix n _).trans (prefix_append _ _)
        · rw [if_neg hfull]
          refine .scheduleWakeupOutput (s.sameState_queue (_ :: queue)) ?_ wake
          rw [hcontent, content, hbuffer, nil_append, flatMap_cons, ← append_assoc, take_append_drop]
      · rw [if_neg hpart]
        have hsplit : mblk.data ++ ({ s with msgQueue := queue } : OutSocket κ).content = s.content := by
          rw [hcontent, content, hbuffer, nil_append]
        by_cases hlast : queue = []
        · rw [if_pos hlast]
          exact .cancelWakeupOutput (s.sameState_queue queue) hsplit wake
        · rw [if_neg hlast]
          exact .of_split (s.sameState_queue queue) hsplit

theorem conveys_handleOutput (hopen : s.closing = false) {r r' : SendResult}
    (hkept : (s.outBuffer.data = [] ∨ ∃ n, r = .sent n ∧ n ≠ 0 ∧ s.outBuffer.data.length ≤ n) →
      r' = .wouldBlock → ¬ IsFull s.msgQueue.tail) (wake : Bool) : Conveys s (s.handleOutput r r' wake) := by
  unfold handleOutput
  rw [if_neg (by simp [hopen])]
  by_cases hempty : s.outBuffer.data = []
  · rw [if_pos hempty]
    exact conveys_handleOutputQueue hempty (hkept (.inl hempty)) wake
  rw [if_neg hempty]
  cases r with
  | error => exact .of_failed ⟨rfl, rfl, rfl⟩ nil_prefix
  | wouldBlock => exact .scheduleWakeupOutput ⟨rfl, rfl, rfl⟩ rfl wake
  | sent n =>
    dsimp only
    by_cases hzero : n = 0
    · rw [if_pos hzero]
      exact .of_failed ⟨rfl, rfl, rfl⟩ nil_prefix
    rw [if_neg hzero]
    by_cases hpart : n < s.outBuffer.data.length
    · rw [if_pos hpart]
      have hsame : SameState s { s with outBuffer := { s.outBuffer with data := s.outBuffer.data.drop n } } :=
        ⟨rfl, rfl, rfl⟩
      refine .scheduleWakeupOutput hsame ?_ wake
      rw [content, content, ← append_assoc, take_append_drop]
    · rw [if_neg hpart]
      have hq := conveys_handleOutputQueue (s := { s with outBuffer := { s.outBuffer with data := [] } })
        rfl (hkept (.inr ⟨n, rfl, hzero, by omega⟩)) wake
      have hcontent : s.content =
          s.outBuffer.data ++ ({ s with outBuffer := { s.outBuffer with data := [] } } : OutSocket κ).content :=
        rfl
      refine ⟨⟨hq.same.closing, hq.same.failing, hq.same.crypt⟩, ?_, fun hok => ?_⟩
      · rw [hcontent]
        exact prefix_append_right_inj _ |>.2 hq.bytes
      · rw [hcontent, ← hq.rest hok, append_assoc]

def sealedHeader (s : OutSocket κ) (pct : WorldPacket) : List UInt8 × AuthCrypt κ :=
  s.crypt.encryptSend next (ServerPktHeader.ofPacket pct).header

theorem sendPacket_of_closing (h : s.closing = true) (pct : WorldPacket) :
    s.sendPacket next pct = (false, s) := by
  rw [sendPacket, if_pos h]

variable {pct : WorldPacket}

theorem sendPacket_of_fits (hopen : s.closing = false)
    (hfits : s.FitsBuffer pct) :
    s.sendPacket next pct = (true, { s with
      crypt := (s.sealedHeader next pct).2
      outBuffer := ⟨s.outBuffer.size, s.outBuffer.data ++ ((s.sealedHeader next pct).1 ++ pct.contents)⟩ }) := by
  have hspace := hfits.1
  have hlen : (s.sealedHeader next pct).1.length = (ServerPktHeader.ofPacket pct).header.length :=
    length_encryptSend ..
  have hfirst : s.outBuffer.copy (s.sealedHeader next pct).1 =
      ⟨s.outBuffer.size, s.outBuffer.data ++ (s.sealedHeader next pct).1⟩ := by
    rw [MessageBlock.copy, if_neg (by omega)]
  have hsecond : (s.outBuffer.copy (s.sealedHeader next pct).1).copy pct.contents =
      ⟨s.outBuffer.size, s.outBuffer.data ++ ((s.sealedHeader next pct).1 ++ pct.contents)⟩ := by
    rw [hfirst, MessageBlock.copy, if_neg, append_assoc]
    simp only [MessageBlock.space, length_append] at hspace ⊢
    omega
  rw [sendPacket, if_neg (by simp [hopen]), ← hsecond]
  exact if_pos hfits

theorem sendPacket_of_full (hopen : s.closing = false)
    (hfits : ¬ s.FitsBuffer pct) (hfull : IsFull s.msgQueue) :
    s.sendPacket next pct = (false, { s with crypt := (s.sealedHeader next pct).2 }) := by
  rw [sendPacket, if_neg (by simp [hopen])]
  refine (if_neg hfits).trans ?_
  rw [enqueueTail, if_pos hfull]
  rfl

theorem sendPacket_of_queued (hopen : s.closing = false)
    (hfits : ¬ s.FitsBuffer pct) (hfull : ¬ IsFull s.msgQueue) :
    s.sendPacket next pct = (true, { s with
      crypt := (s.sealedHeader next pct).2
      msgQueue := s.msgQueue ++ [⟨pct.contents.length + (s.sealedHeader next pct).1.length,
        (s.sealedHeader next pct).1 ++ pct.contents⟩] }) := by
  rw [sendPacket, if_neg (by simp [hopen])]
  refine (if_neg hfits).trans ?_
  rw [enqueueTail, if_neg hfull]
  rfl

theorem sendPacket_accepted (h : (s.sendPacket next pct).1 = true) :
    (s.sendPacket next pct).2.closing = s.closing ∧ (s.sendPacket next pct).2.failing = s.failing ∧
      (s.sendPacket next pct).2.crypt = (s.sealedHeader next pct).2 ∧
      (s.sendPacket next pct).2.content = s.content ++ ((s.sealedHeader next pct).1 ++ pct.contents) := by
  cases hopen : s.closing with
  | true => rw [sendPacket_of_closing next hopen] at h; exact absurd h Bool.false_ne_true
  | false =>
    by_cases hfits : s.FitsBuffer pct
    · rw [sendPacket_of_fits next hopen hfits]
      refine ⟨hopen, rfl, rfl, ?_⟩
      simp only [content, hfits.2, flatMap_nil, append_nil]
    · by_cases hfull : IsFull s.msgQueue
      · rw [sendPacket_of_full next hopen hfits hfull] at h
        exact absurd h Bool.false_ne_true
      · rw [sendPacket_of_queued next hopen hfits hfull]
        refine ⟨hopen, rfl, rfl, ?_⟩
        simp [content]

end OutSocket

/-! ## The invariant -/

namespace Connection

variable {κ : Type} (next : κ → UInt8 × κ)

/-- The cipher is where the peer has it, and as long as the connection lives the bytes that were written and
those that are left are those of the accepted packets. -/
structure InStep (crypt : AuthCrypt κ) (conn : Connection κ) : Prop extends Decodable next crypt conn where
  cipher : (peerReads next crypt conn.accepted).2 = conn.sock.crypt
  live : conn.sock.closing = false → conn.sock.failing = false →
    conn.written ++ conn.sock.content = conn.accepted.flatMap Entry.bytes

variable {next} {crypt : AuthCrypt κ} {conn : Connection κ}

theorem inStep_start (crypt : AuthCrypt κ) (outBufferSize : Nat) :
    InStep next crypt (start crypt outBufferSize) where
  ordered := nil_prefix
  readable := rfl
  cipher := rfl
  live _ _ := rfl

section

variable (h : InStep next crypt conn)
include h

theorem InStep.initCrypt (decrypt encrypt : κ) :
    InStep next crypt (step next conn (.initCrypt decrypt encrypt)) where
  ordered := by simpa [step, Entry.bytes] using h.ordered
  readable := by simpa [step, peerReads_append, peerReads, Entry.sizeAndOpcode] using h.readable
  cipher := by simp [step, peerReads_append, peerReads]
  live hopen hfail := by
    simpa [step, Entry.bytes, OutSocket.content] using h.live hopen hfail

theorem InStep.sendPacket {pct : WorldPacket}
    (hsize : pct.contents.length < 2 ^ 23 - 2) (hkept : Kept conn (.sendPacket pct)) :
    InStep next crypt (step next conn (.sendPacket pct)) := by
  rw [step]
  cases hreply : (conn.sock.sendPacket next pct).1 with
  | true =>
    obtain ⟨hclosing, hfailing, hcrypt, hcontent⟩ := OutSocket.sendPacket_accepted next hreply
    have hread := peerReads_packet next conn.sock.crypt hsize
    constructor
    · constructor
      · change conn.written <+: _
        rw [if_pos rfl, flatMap_append]
        exact h.ordered.trans (prefix_append _ _)
      · rw [if_pos rfl, peerReads_append, h.cipher, hread, h.readable, flatMap_append]
        rfl
    · rw [if_pos rfl, peerReads_append, h.cipher, hread]
      exact hcrypt.symm
    · intro hopen hfail
      rw [if_pos rfl, hcontent, flatMap_append, ← h.live (hclosing ▸ hopen) (hfailing ▸ hfail)]
      simp [Entry.bytes, OutSocket.sealedHeader]
  | false =>
    -- a refused packet leaves everything but the cipher as it was
    have hsame : (conn.sock.sendPacket next pct).2 = conn.sock := by
      cases hopen : conn.sock.closing with
      | true => rw [OutSocket.sendPacket_of_closing next hopen]
      | false =>
        by_cases hfits : conn.sock.FitsBuffer pct
        · rw [OutSocket.sendPacket_of_fits next hopen hfits] at hreply
          exact absurd hreply Bool.true_eq_false.mp
        by_cases hfull : IsFull conn.sock.msgQueue
        · rw [OutSocket.sendPacket_of_full next hopen hfits hfull, OutSocket.sealedHeader]
          have hinit : conn.sock.crypt.initialized = false := by
            rcases hkept with hc | hi | hf | hq
            · rw [hopen] at hc; exact absurd hc Bool.false_ne_true
            · exact hi
            · exact absurd hf hfits
            · exact absurd hfull hq
          rw [encryptSend_of_not_initialized next hinit]
        · rw [OutSocket.sendPacket_of_queued next hopen hfits hfull] at hreply
          exact absurd hreply Bool.true_eq_false.mp
    rw [hsame]
    exact h

theorem InStep.handleOutput {r r' : SendResult} {wake : Bool} (hkept : Kept conn (.handleOutput r r' wake)) :
    InStep next crypt (step next conn (.handleOutput r r' wake)) := by
  rw [step]
  cases hfail : conn.sock.failing with
  | true => exact h
  | false =>
    rw [if_neg Bool.false_ne_true]
    cases hopen : conn.sock.closing with
    | true =>
      have hout : conn.sock.handleOutput r r' wake = ⟨false, conn.sock, []⟩ := by
        exact if_pos hopen
      rw [hout]
      exact
        { ordered := by simpa using h.ordered
          readable := h.readable
          cipher := h.cipher
          live := fun hc _ => absurd (hopen.symm.trans hc) Bool.true_eq_false.mp }
    | false =>
      have hconv := OutSocket.conveys_handleOutput hopen (hkept hopen hfail) wake
      have hlive := h.live hopen hfail
      exact
        { ordered := by
            rw [← hlive]
            exact (prefix_append_right_inj _).2 hconv.bytes
          readable := h.readable
          cipher := h.cipher.trans hconv.same.crypt.symm
          live := fun _ hok => by
            have hok : (conn.sock.handleOutput r r' wake).ok = true := by simpa using hok
            change conn.written ++ _ ++ (conn.sock.handleOutput r r' wake).sock.content = _
            rw [← hlive, ← hconv.rest hok, append_assoc] }

theorem InStep.close : InStep next crypt (step next conn .close) where
  ordered := h.ordered
  readable := h.readable
  cipher := h.cipher
  live hopen _ := absurd hopen Bool.true_eq_false.mp

/-- What the client decodes keeps in step with what was sent. -/
theorem InStep.step {e : OutEvent κ} (hsize : Sized e)
    (hkept : Kept conn e) : InStep next crypt (step next conn e) := by
  cases e with
  | initCrypt decrypt encrypt => exact h.initCrypt decrypt encrypt
  | sendPacket pct => exact h.sendPacket hsize hkept
  | handleOutput r r' wake => exact h.handleOutput hkept
  | close => exact h.close

end

/-- **The outgoing stream.** In a run in which no packet is refused by a full queue once the cipher is
initialised, and no block whose sending would block is put back into a full queue, the peer can follow in every
state. -/
theorem decodable_of_kept (next : κ → UInt8 × κ) (crypt : AuthCrypt κ) (outBufferSize : Nat)
    (pre post : List (OutEvent κ)) (hsize : ∀ e ∈ pre ++ post, Sized e)
    (hkept : Run.AllSteps (step next) Kept (start crypt outBufferSize) (pre ++ post)) :
    Decodable next crypt (Run.run (step next) (start crypt outBufferSize) pre) := by
  have hboth : Run.AllSteps (Connection.step next) (fun conn e => Sized e ∧ Kept conn e)
      (start crypt outBufferSize) (pre ++ post) := hkept.and_mem hsize
  have := Run.AllSteps.reaches (I := InStep next crypt)
    (fun _ _ h hstep => h.step hstep.1 hstep.2) (inStep_start crypt outBufferSize) hboth
  exact this.toDecodable

def counter (k : UInt8) : UInt8 × UInt8 := (k, k + 1)

theorem decodable_of_kept_two_pieces :
    Decodable counter ⟨0, 0, true⟩ (Run.run (step counter) (start ⟨0, 0, true⟩ 65536)
      [.sendPacket ⟨0x1DD, [1, 2]⟩, .handleOutput (.sent 3) .error true,
        .handleOutput (.sent 3) .error true]) := by
  refine decodable_of_kept counter ⟨0, 0, true⟩ 65536 _ [] ?_ ⟨?_, ?_, ?_, trivial⟩
  · intro e he
    simp only [append_nil, mem_cons, not_mem_nil, or_false] at he
    rcases he with rfl | rfl | rfl
    · exact (by decide : ([1, 2] : List UInt8).length < 2 ^ 23 - 2)
    · trivial
    · trivial
  · exact .inr (.inr (.inl (by decide)))
  · exact fun _ _ _ h => by cases h
  · exact fun _ _ _ h => by cases h

def refusedRun (payload : List UInt8) : List (OutEvent UInt8) :=
  [.sendPacket ⟨0x1DD, payload⟩, .sendPacket ⟨0x1DD, []⟩, .handleOutput .error (.sent 8388610) true,
    .sendPacket ⟨0x1DD, []⟩]

/-- The states of that run: only the first packet is accepted, and its header was sent as
`[255, 254, 253, 0xDE, 5]`. -/
def refusedState (payload : List UInt8) (key : UInt8) (queue : List MessageBlock)
    (written : List UInt8) : Connection UInt8 where
  sock :=
    { closing := false
      failing := false
      crypt := ⟨0, key, true⟩
      outBuffer := ⟨65536, []⟩
      msgQueue := queue
      outActive := !queue.isEmpty }
  written := written
  accepted := [.packet ⟨0x1DD, payload⟩ [255, 254, 253, 0xDE, 5]]

variable {payload : List UInt8}

theorem refusedRun_first (hlen : payload.length = 8388605) :
    step counter (start ⟨0, 0, true⟩ 65536) (.sendPacket ⟨0x1DD, payload⟩) =
      refusedState payload 5 [⟨8388610, [255, 254, 253, 0xDE, 5] ++ payload⟩] [] := by
  have hbig : (ServerPktHeader.ofPacket ⟨0x1DD, payload⟩).header = [255, 255, 255, 0xDD, 1] := by
    rw [ServerPktHeader.ofPacket]
    dsimp only
    rw [hlen]
    decide
  have hfits : ¬ (start ⟨0, 0, true⟩ 65536 : Connection UInt8).sock.FitsBuffer ⟨0x1DD, payload⟩ := by
    rintro ⟨hspace, -⟩
    rw [hbig] at hspace
    change payload.length + 5 ≤ 65536 at hspace
    omega
  have hseal : (start ⟨0, 0, true⟩ 65536 : Connection UInt8).sock.sealedHeader counter
      ⟨0x1DD, payload⟩ = ([255, 254, 253, 0xDE, 5], ⟨0, 5, true⟩) := by
    rw [OutSocket.sealedHeader, hbig]
    decide
  rw [step, OutSocket.sendPacket_of_queued counter rfl hfits (by decide),
    show (start ⟨0, 0, true⟩ 65536 : Connection UInt8).sock.crypt.encryptSend counter
      (ServerPktHeader.ofPacket ⟨0x1DD, payload⟩).header = _ from hseal, hseal]
  rw [hlen]
  rfl

theorem refusedRun_second (payload : List UInt8) :
    step counter (refusedState payload 5 [⟨8388610, [255, 254, 253, 0xDE, 5] ++ payload⟩] [])
        (.sendPacket ⟨0x1DD, []⟩) =
      refusedState payload 9 [⟨8388610, [255, 254, 253, 0xDE, 5] ++ payload⟩] [] := by
  have hfull : IsFull [⟨8388610, [255, 254, 253, 0xDE, 5] ++ payload⟩] := by
    change 8 * 1024 * 1024 ≤ 8388610 + 0
    decide
  rw [step]
  rfl

theorem refusedRun_third (hlen : payload.length = 8388605) :
    step counter (refusedState payload 9 [⟨8388610, [255, 254, 253, 0xDE, 5] ++ payload⟩] [])
        (.handleOutput .error (.sent 8388610) true) =
      refusedState payload 9 [] ([255, 254, 253, 0xDE, 5] ++ payload) := by
  have hall : ¬ 8388610 < ([255, 254, 253, 0xDE, 5] ++ payload).length := by
    rw [length_append, hlen]
    decide
  simp only [step, refusedState, OutSocket.handleOutput, OutSocket.handleOutputQueue, if_neg hall]
  rfl

theorem refusedRun_fourth (payload written : List UInt8) :
    (step counter (refusedState payload 9 [] written) (.sendPacket ⟨0x1DD, []⟩)).accepted =
      [.packet ⟨0x1DD, payload⟩ [255, 254, 253, 0xDE, 5], .packet ⟨0x1DD, []⟩ [9, 8, 0xD6, 0x0D]] := by
  have hfits : (refusedState payload 9 [] written).sock.FitsBuffer ⟨0x1DD, []⟩ :=
    ⟨(by decide : 0 + 4 ≤ 65536 - 0), rfl⟩
  have hseal : (encryptSend counter ⟨0, 9, true⟩
      (ServerPktHeader.ofPacket ⟨0x1DD, []⟩).header).1 = [9, 8, 0xD6, 0x0D] := by
    decide
  rw [step, show (encryptSend counter (refusedState payload 9 [] written).sock.crypt _).1 = _ from hseal]
  rfl

theorem not_decodable_refusedRun (hlen : payload.length = 8388605) :
    ¬ Decodable counter ⟨0, 0, true⟩
      (Run.run (step counter) (start ⟨0, 0, true⟩ 65536) (refusedRun payload)) := by
  rw [refusedRun, Run.run_cons, refusedRun_first hlen, Run.run_cons, refusedRun_second, Run.run_cons,
    refusedRun_third hlen, Run.run_cons, Run.run_nil]
  rintro ⟨-, hread⟩
  rw [refusedRun_fourth] at hread
  have hpeer : (peerReads counter ⟨0, 0, true⟩ [.packet ⟨0x1DD, payload⟩ [255, 254, 253, 0xDE, 5],
      .packet ⟨0x1DD, []⟩ [9, 8, 0xD6, 0x0D]]).1 = [some (8388607, 0x1DD), some (3086, 0x5D1)] := by
    simp only [peerReads]
    decide
  rw [hpeer] at hread
  simp [Entry.sizeAndOpcode] at hread

/-- **A refused packet breaks the stream.** After log-in a packet of 8388605 bytes fills the queue, the next
packet is refused, and the peer can no longer read the headers of those that follow. -/
theorem refused_packet_breaks_stream :
    ¬ Decodable counter ⟨0, 0, true⟩ (Run.run (step counter) (start ⟨0, 0, true⟩ 65536)
      (refusedRun (replicate 8388605 0))) :=
  not_decodable_refusedRun length_replicate

end Connection

end Axium.Server
