import Axium.Server.WorldSocket

/-!
# The reassembly of incoming packets

The packets that the socket passes to `ProcessIncoming` do not depend on how the stream was cut into chunks:
they are the ones that `decode` reads from the whole stream. Like the socket, `decode` stops at a malformed
header and at a packet that `ProcessIncoming` answers with -1.

The invariant of the loop is `Ready`: the socket is collecting a header, or has a header and is collecting its
payload. What the bytes to come will add to the passed packets is `pending`.
-/

namespace Axium.Server

open List MessageBlock ClientPktHeader

variable {σ κ : Type} (S : Services σ κ)

/-- The stream decoded from its beginning. With `heed`, a packet that `ProcessIncoming` answers with -1 is the
last one. -/
def decode (heed : Bool) (c : Core σ κ) (l : List UInt8) : List WorldPacket :=
  if _h : 6 ≤ l.length then
    let plain := c.crypt.decryptRecv S.next (l.take 6)
    let hdr := ofBytes plain.1
    if hdr.Malformed then []
    else
      let body := l.drop 6
      let size := hdr.size - 4
      if size ≤ body.length then
        let pct : WorldPacket := ⟨UInt16.ofNat hdr.cmd, body.take size⟩
        let reply := processIncoming S { c with crypt := plain.2 } pct
        if reply.1 || !heed then pct :: decode heed reply.2 (body.drop size) else [pct]
      else []
  else []
termination_by l.length
decreasing_by simp only [length_drop]; omega

def decodeBody (c : Core σ κ) (p : RecvPacket) (l : List UInt8) : List WorldPacket :=
  if p.size ≤ l.length then
    let pct : WorldPacket := ⟨p.opcode, l.take p.size⟩
    let reply := processIncoming S c pct
    if reply.1 then pct :: decode S true reply.2 (l.drop p.size) else [pct]
  else []

variable {l : List UInt8}

variable (c : Core σ κ)

theorem decode_of_short {heed : Bool} (h : l.length < 6) : decode S heed c l = [] := by
  rw [decode, dif_neg (by omega)]

theorem decode_of_malformed {heed : Bool} (h : (ofBytes (c.crypt.decryptRecv S.next (l.take 6)).1).Malformed) :
    decode S heed c l = [] := by
  rw [decode]
  by_cases hlen : 6 ≤ l.length
  · rw [dif_pos hlen]
    rw [if_pos h]
  · rw [dif_neg hlen]

theorem decode_of_header (hlen : 6 ≤ l.length)
    (h : ¬ (ofBytes (c.crypt.decryptRecv S.next (l.take 6)).1).Malformed) :
    decode S true c l =
      decodeBody S { c with crypt := (c.crypt.decryptRecv S.next (l.take 6)).2 }
        ⟨UInt16.ofNat (ofBytes (c.crypt.decryptRecv S.next (l.take 6)).1).cmd,
          (ofBytes (c.crypt.decryptRecv S.next (l.take 6)).1).size - 4⟩ (l.drop 6) := by
  rw [decode, dif_pos hlen]
  rw [if_neg h, decodeBody]
  simp only [Bool.not_true, Bool.or_false]

/-! ## What `ProcessIncoming` leaves alone -/

theorem countPacket_closing : (countPacket S c).2.closing = c.closing := by
  unfold countPacket
  cases c.session with
  | none => rfl
  | some session =>
    dsimp only
    split
    · split <;> rfl
    · rfl

theorem dispatch_closing (pct : WorldPacket) : (dispatch S c pct).2.closing = c.closing := by
  unfold dispatch
  split
  · rfl
  split
  · split
    · rfl
    · dsimp only
      cases (S.handleAuthSession c.rest pct).keys <;> rfl
  split
  · rfl
  split <;> rfl

theorem processIncoming_closing (pct : WorldPacket) : (processIncoming S c pct).2.closing = c.closing := by
  unfold processIncoming
  split
  · rfl
  split
  · rw [dispatch_closing, countPacket_closing]
  · exact countPacket_closing S c

/-! ## Copying into a block -/

theorem take_clip (space : Nat) (buf : List UInt8) :
    buf.take (if space < buf.length then space else buf.length) = buf.take space := by
  by_cases h : space < buf.length
  · rw [if_pos h]
  · rw [if_neg h, take_length, take_of_length_le (by omega)]

theorem drop_clip (space : Nat) (buf : List UInt8) :
    buf.drop (if space < buf.length then space else buf.length) = buf.drop space := by
  by_cases h : space < buf.length
  · rw [if_pos h]
  · rw [if_neg h, drop_length, drop_of_length_le (by omega)]

theorem MessageBlock.space_mk (size : Nat) (data : List UInt8) :
    space ⟨size, data⟩ = size - data.length := rfl

theorem MessageBlock.copy_take (m : MessageBlock) (buf : List UInt8) :
    m.copy (buf.take m.space) = ⟨m.size, m.data ++ buf.take m.space⟩ := by
  rw [copy, if_neg]
  rw [length_take]
  omega

/-! ## The invariant of the loop -/

namespace WorldSocket

/-- The socket waits for the rest of a header. -/
structure Collecting (s : WorldSocket σ κ) : Prop where
  header_size : s.header.size = 6
  short : s.header.data.length < 6
  recvWPct : s.recvWPct = none
  recvPct : s.recvPct = ⟨0, []⟩
  isOpen : s.core.closing = false

/-- The socket has the header of the packet `p` and a part of its payload. -/
structure Headed (s : WorldSocket σ κ) (p : RecvPacket) : Prop where
  header_size : s.header.size = 6
  full : s.header.data.length = 6
  recvWPct : s.recvWPct = some p
  recvPct_size : s.recvPct.size = p.size
  fits : s.recvPct.data.length ≤ p.size
  isOpen : s.core.closing = false

def Ready (s : WorldSocket σ κ) : Prop := s.Collecting ∨ ∃ p, s.Headed p ∧ s.recvPct.data.length < p.size

def pending (s : WorldSocket σ κ) (future : List UInt8) : List WorldPacket :=
  match s.recvWPct with
  | none => decode S true s.core (s.header.data ++ future)
  | some p => decodeBody S s.core p (s.recvPct.data ++ future)

/-- Whatever follows, `s` with the bytes `buf` ahead and `t` with the bytes `rest` ahead pass the same packets
in all. -/
def Agrees (s : WorldSocket σ κ) (buf : List UInt8) (t : WorldSocket σ κ) (rest : List UInt8) : Prop :=
  ∀ future, s.passed ++ pending S s (buf ++ future) = t.passed ++ pending S t (rest ++ future)

/-- Whatever follows, `t` has passed all that `s` with the bytes `buf` ahead passes. -/
def Complete (s : WorldSocket σ κ) (buf : List UInt8) (t : WorldSocket σ κ) : Prop :=
  ∀ future, s.passed ++ pending S s (buf ++ future) = t.passed

variable {s t u : WorldSocket σ κ}

theorem Agrees.trans {a b c : List UInt8} (h : Agrees S s a t b) (h' : Agrees S t b u c) : Agrees S s a u c :=
  fun future => (h future).trans (h' future)

theorem Agrees.complete {a b : List UInt8} (h : Agrees S s a t b) (h' : Complete S t b u) : Complete S s a u :=
  fun future => (h future).trans (h' future)

theorem Collecting.pending_eq (hs : s.Collecting) (future : List UInt8) :
    pending S s future = decode S true s.core (s.header.data ++ future) := by
  rw [pending, hs.recvWPct]

variable {p : RecvPacket}

theorem Headed.pending_eq (hs : s.Headed p) (future : List UInt8) :
    pending S s future = decodeBody S s.core p (s.recvPct.data ++ future) := by
  rw [pending, hs.recvWPct]

/-! ### Returns -/

/-- What a return from the loop tells of the socket `s` with the bytes `buf` ahead. -/
def LoopDone (s : WorldSocket σ κ) (buf : List UInt8) (r : Ret) (t : WorldSocket σ κ) : Prop :=
  match r with
  | .wouldBlock => t.Ready ∧ Agrees S s buf t []
  | .received _ => t.Ready ∧ Agrees S s buf t []
  | .invalid => Complete S s buf t
  | .peerClosed => False

variable {buf : List UInt8}

theorem LoopDone.of_agrees {rest : List UInt8} {r : Ret}
    (h : Agrees S s buf t rest) (h' : LoopDone S t rest r u) : LoopDone S s buf r u := by
  cases r with
  | wouldBlock => exact ⟨h'.1, h.trans S h'.2⟩
  | received full => exact ⟨h'.1, h.trans S h'.2⟩
  | invalid => exact h.complete S h'
  | peerClosed => exact h'

/-! ### The header -/

/-- What `readHeader` does to a socket that collects a header. -/
def HeaderRead (s : WorldSocket σ κ) (buf : List UInt8) : Flow σ κ → Prop
  | .ret r t => LoopDone S s buf r t
  | .goOn t rest => (∃ p, t.Headed p) ∧ rest.length < buf.length ∧ Agrees S s buf t rest

theorem Collecting.keep (hs : s.Collecting)
    (hshort : s.header.data.length + buf.length < 6) :
    HeaderRead S s buf (.ret .wouldBlock { s with header := ⟨6, s.header.data ++ buf⟩ }) := by
  have ht : Collecting { s with header := ⟨6, s.header.data ++ buf⟩ } :=
    { header_size := rfl
      short := by rw [length_append]; exact hshort
      recvWPct := hs.recvWPct
      recvPct := hs.recvPct
      isOpen := hs.isOpen }
  refine ⟨.inl ht, fun future => ?_⟩
  rw [hs.pending_eq, ht.pending_eq, nil_append, append_assoc]

theorem Collecting.handleInputHeader (hs : s.Collecting) {head : List UInt8}
    (hhead : (s.header.data ++ head).length = 6) (rest : List UInt8) :
    ∃ f, (match handleInputHeader S { s with header := ⟨6, s.header.data ++ head⟩ } with
        | none => none
        | some (false, t) => some (Flow.ret .invalid t)
        | some (true, t) => some (Flow.goOn t rest)) = some f ∧
      (0 < head.length → HeaderRead S s (head ++ rest) f) := by
  rw [WorldSocket.handleInputHeader, if_neg (by simp [hs.recvWPct, hhead])]
  generalize hp : s.core.crypt.decryptRecv S.next (s.header.data ++ head) = plain
  have hlen : plain.1.length = 6 := by rw [← hp, AuthCrypt.length_decryptRecv, hhead]
  have htake (future : List UInt8) :
      (s.header.data ++ (head ++ rest ++ future)).take 6 = s.header.data ++ head := by
    rw [← hhead, append_assoc, ← append_assoc, take_left]
  have hdrop (future : List UInt8) : (s.header.data ++ (head ++ rest ++ future)).drop 6 = rest ++ future := by
    rw [← hhead, append_assoc, ← append_assoc, drop_left]
  by_cases hm : (ofBytes plain.1).Malformed
  · rw [if_pos hm]
    refine ⟨_, rfl, fun _ future => ?_⟩
    rw [hs.pending_eq, decode_of_malformed S _ (by rw [htake, hp]; exact hm), append_nil]
  · rw [if_neg hm]
    -- the packet that both branches set up
    have hagree (t : WorldSocket σ κ) (ht : t.Headed ⟨UInt16.ofNat (ofBytes plain.1).cmd,
          (ofBytes plain.1).size - 4⟩)
        (hcore : t.core = { s.core with crypt := plain.2 }) (hdata : t.recvPct.data = [])
        (hpassed : t.passed = s.passed) (hpos : 0 < head.length) :
        HeaderRead S s (head ++ rest) (.goOn t rest) := by
      refine ⟨⟨_, ht⟩, by simp [hpos], fun future => ?_⟩
      have hlong : 6 ≤ (s.header.data ++ (head ++ rest ++ future)).length := by
        simp only [length_append] at hhead ⊢
        omega
      rw [hs.pending_eq, decode_of_header S _ hlong (by rw [htake, hp]; exact hm), htake, hdrop, hp,
        ht.pending_eq, hcore, hdata, hpassed, nil_append]
    by_cases hsize : 0 < (ofBytes plain.1).size - 4
    · rw [if_pos hsize]
      exact ⟨_, rfl, hagree _ ⟨rfl, hlen, rfl, rfl, Nat.zero_le _, hs.isOpen⟩ rfl rfl rfl⟩
    · rw [if_neg hsize, if_pos (by rw [hs.recvPct]; rfl)]
      refine ⟨_, rfl, hagree _ ⟨rfl, hlen, rfl, ?_, ?_, hs.isOpen⟩ rfl ?_ rfl⟩
      · change s.recvPct.size = (ofBytes plain.1).size - 4
        rw [hs.recvPct]
        change 0 = _
        omega
      · change s.recvPct.data.length ≤ _
        rw [hs.recvPct]
        exact Nat.zero_le _
      · change s.recvPct.data = []
        rw [hs.recvPct]

theorem Collecting.readHeader (hs : s.Collecting)
    (hbuf : buf ≠ []) : ∃ f, s.readHeader S buf = some f ∧ HeaderRead S s buf f := by
  have hshort := hs.short
  have hspace : s.header.space = 6 - s.header.data.length := by
    rw [space, hs.header_size]
  have hpos : 0 < buf.length := length_pos_iff.2 hbuf
  rw [WorldSocket.readHeader, if_pos (by omega)]
  dsimp only
  rw [take_clip, drop_clip, copy_take, hs.header_size]
  by_cases hcut : s.header.data.length + buf.length < 6
  · -- the chunk ends first
    have htake : buf.take s.header.space = buf := take_of_length_le (by omega)
    have hdrop : buf.drop s.header.space = [] := drop_of_length_le (by omega)
    rw [htake, hdrop, if_pos (by simp only [space, length_append]; omega)]
    exact ⟨_, rfl, hs.keep S hcut⟩
  · have hhead : (s.header.data ++ buf.take s.header.space).length = 6 := by
      rw [length_append, length_take]
      omega
    rw [space_mk, if_neg (by omega)]
    obtain ⟨f, hf, hread⟩ := hs.handleInputHeader S hhead (buf.drop s.header.space)
    refine ⟨f, hf, ?_⟩
    rw [take_append_drop] at hread
    exact hread (by rw [length_take]; omega)

/-! ### The payload -/

/-- What `readPayload` does to a socket that has a header. -/
def PayloadRead (s : WorldSocket σ κ) (buf : List UInt8) : Flow σ κ → Prop
  | .ret r t => LoopDone S s buf r t
  | .goOn t rest => t.Collecting ∧ rest.length ≤ buf.length ∧
      (0 < s.recvPct.space → 0 < buf.length → rest.length < buf.length) ∧ Agrees S s buf t rest

theorem Headed.finishPayload (hs : s.Headed p)
    (hfull : s.recvPct.data.length = p.size) (rest : List UInt8) :
    ∃ f, s.finishPayload S rest = some f ∧
      match f with
      | .ret r t => LoopDone S s rest r t
      | .goOn t rest' => t.Collecting ∧ rest' = rest ∧ Agrees S s rest t rest := by
  have hheader : s.header.space = 0 := by rw [space, hs.header_size, hs.full]
  have hspace : s.recvPct.space = 0 := by rw [space, hs.recvPct_size, hfull, Nat.sub_self]
  have htake : s.recvPct.data.take p.size = s.recvPct.data := by rw [← hfull, take_length]
  have hpending (future : List UInt8) : pending S s (rest ++ future) =
      if (processIncoming S s.core ⟨p.opcode, s.recvPct.data⟩).1 then
        ⟨p.opcode, s.recvPct.data⟩ ::
          decode S true (processIncoming S s.core ⟨p.opcode, s.recvPct.data⟩).2 (rest ++ future)
      else [⟨p.opcode, s.recvPct.data⟩] := by
    rw [hs.pending_eq, decodeBody, if_pos (by rw [length_append]; omega)]
    rw [← hfull, take_left, drop_left]
  rw [WorldSocket.finishPayload, handleInputPayload, hs.recvWPct]
  dsimp only
  rw [if_neg (by simp [hheader, hspace]), htake]
  have hclosing := processIncoming_closing S s.core ⟨p.opcode, s.recvPct.data⟩
  generalize processIncoming S s.core ⟨p.opcode, s.recvPct.data⟩ = reply at hpending hclosing ⊢
  obtain ⟨ok, core⟩ := reply
  cases ok with
  | false =>
    refine ⟨_, rfl, fun future => ?_⟩
    rw [hpending]
    rfl
  | true =>
    have ht : WorldSocket.Collecting
        { s with
          header := { s.header with data := [] }
          recvWPct := none
          recvPct := ⟨0, []⟩
          core := core
          passed := s.passed ++ [⟨p.opcode, s.recvPct.data⟩] } :=
      { header_size := hs.header_size
        short := Nat.zero_lt_succ 5
        recvWPct := rfl
        recvPct := rfl
        isOpen := hclosing.trans hs.isOpen }
    refine ⟨_, rfl, ht, rfl, fun future => ?_⟩
    rw [hpending, ht.pending_eq]
    simp

theorem Headed.readPayload (hs : s.Headed p)
    (buf : List UInt8) : ∃ f, s.readPayload S buf = some f ∧ PayloadRead S s buf f := by
  have hfits := hs.fits
  have hspace : s.recvPct.space = p.size - s.recvPct.data.length := by
    rw [space, hs.recvPct_size]
  rw [WorldSocket.readPayload, if_neg (by simp [hs.recvWPct])]
  by_cases hmissing : 0 < s.recvPct.space
  · rw [if_pos hmissing]
    dsimp only
    rw [take_clip, drop_clip, copy_take, hs.recvPct_size]
    -- the socket with the bytes that fit
    have ht : Headed { s with recvPct := ⟨p.size, s.recvPct.data ++ buf.take s.recvPct.space⟩ } p :=
      { header_size := hs.header_size
        full := hs.full
        recvWPct := hs.recvWPct
        recvPct_size := rfl
        fits := by
          simp only [length_append, length_take]
          omega
        isOpen := hs.isOpen }
    have hagree : Agrees S s buf { s with recvPct := ⟨p.size, s.recvPct.data ++ buf.take s.recvPct.space⟩ }
        (buf.drop s.recvPct.space) := by
      intro future
      rw [hs.pending_eq, ht.pending_eq, append_assoc, ← append_assoc (buf.take _), take_append_drop]
    by_cases hcut : s.recvPct.data.length + buf.length < p.size
    · -- the chunk ends first
      have hdrop : buf.drop s.recvPct.space = [] := drop_of_length_le (by omega)
      have hleft : (s.recvPct.data ++ buf.take s.recvPct.space).length < p.size := by
        rw [length_append, length_take]
        omega
      rw [space_mk, if_pos (by omega), hdrop]
      rw [hdrop] at hagree
      exact ⟨_, rfl, .inr ⟨p, ht, hleft⟩, hagree⟩
    · have hfull : (s.recvPct.data ++ buf.take s.recvPct.space).length = p.size := by
        rw [length_append, length_take]
        omega
      rw [space_mk, if_neg (by omega)]
      obtain ⟨f, hf, hfin⟩ := ht.finishPayload S hfull (buf.drop s.recvPct.space)
      refine ⟨f, hf, ?_⟩
      cases f with
      | ret r t => exact .of_agrees S hagree hfin
      | goOn t rest =>
        obtain ⟨hcollecting, rfl, hfin⟩ := hfin
        refine ⟨hcollecting, ?_, ?_, hagree.trans S hfin⟩
        · simp
        · intro _ hpos
          rw [length_drop]
          omega
  · rw [if_neg hmissing]
    obtain ⟨f, hf, hfin⟩ := hs.finishPayload S (by omega) buf
    refine ⟨f, hf, ?_⟩
    cases f with
    | ret r t => exact hfin
    | goOn t rest =>
      obtain ⟨hcollecting, rfl, hfin⟩ := hfin
      exact ⟨hcollecting, le_refl _, fun h => absurd h hmissing, hfin⟩

/-! ### The loop and the run -/

theorem Ready.inputLoop (hs : s.Ready) (full : Bool) {fuel : Nat} (hfuel : buf.length < fuel) :
    ∃ r t, inputLoop S full fuel s buf = some (r, t) ∧ LoopDone S s buf r t := by
  induction fuel generalizing s buf with
  | zero => omega
  | succ fuel ih =>
    rw [WorldSocket.inputLoop]
    by_cases hbuf : buf = []
    · rw [if_pos hbuf]
      refine ⟨_, _, rfl, hs, ?_⟩
      rw [hbuf]
      exact fun _ => rfl
    · rw [if_neg hbuf]
      have hpos : 0 < buf.length := length_pos_iff.2 hbuf
      obtain hs | ⟨p, hs, hmissing⟩ := hs
      · obtain ⟨f, hf, hread⟩ := hs.readHeader S hbuf
        rw [hf]
        cases f with
        | ret r t => exact ⟨r, t, rfl, hread⟩
        | goOn t rest =>
          obtain ⟨⟨p, ht⟩, hlt, hagree⟩ := hread
          obtain ⟨f, hf, hpass⟩ := ht.readPayload S rest
          dsimp only
          rw [hf]
          cases f with
          | ret r u => exact ⟨r, u, rfl, .of_agrees S hagree hpass⟩
          | goOn u rest' =>
            obtain ⟨hu, hle, -, hagree'⟩ := hpass
            obtain ⟨r, v, hloop, hdone⟩ := ih (.inl hu) (show rest'.length < fuel by omega)
            exact ⟨r, v, hloop, .of_agrees S hagree (.of_agrees S hagree' hdone)⟩
      · -- the header is complete
        have hspace : s.header.space = 0 := by rw [space, hs.header_size, hs.full]
        have hpayload : 0 < s.recvPct.space := by
          rw [space, hs.recvPct_size]
          omega
        rw [WorldSocket.readHeader, if_neg (by omega)]
        obtain ⟨f, hf, hpass⟩ := hs.readPayload S buf
        dsimp only
        rw [hf]
        cases f with
        | ret r t => exact ⟨r, t, rfl, hpass⟩
        | goOn t rest =>
          obtain ⟨ht, -, hlt, hagree⟩ := hpass
          obtain ⟨r, u, hloop, hdone⟩ := ih (.inl ht) (show rest.length < fuel by omega)
          exact ⟨r, u, hloop, .of_agrees S hagree hdone⟩

theorem receive_of_closing (h : s.core.closing = true)
    (chunks : List (List UInt8)) : receive S s chunks = some s := by
  induction chunks with
  | nil => rfl
  | cons chunk chunks ih =>
    rw [receive, handleInput, if_pos h]
    exact ih

theorem Ready.receive (hs : s.Ready) {chunks : List (List UInt8)} (hchunks : ∀ chunk ∈ chunks, chunk ≠ []) :
    ∃ t, receive S s chunks = some t ∧ t.passed = s.passed ++ pending S s chunks.flatten := by
  have hopen : s.core.closing = false := by
    obtain hs | ⟨_, hs, -⟩ := hs
    · exact hs.isOpen
    · exact hs.isOpen
  induction chunks generalizing s with
  | nil =>
    refine ⟨s, rfl, ?_⟩
    rw [flatten_nil]
    -- an incomplete packet passes nothing
    obtain hs | ⟨p, hs, hmissing⟩ := hs
    · rw [hs.pending_eq, append_nil, decode_of_short S _ hs.short, append_nil]
    · rw [hs.pending_eq, append_nil, decodeBody, if_neg (by omega), append_nil]
  | cons chunk chunks ih =>
    have hchunk : chunk ≠ [] := hchunks chunk mem_cons_self
    have hrest := fun c hc => hchunks c (mem_cons_of_mem chunk hc)
    obtain ⟨r, t, hloop, hdone⟩ :=
      hs.inputLoop S (chunk.length == 4096) (show chunk.length < 2 * chunk.length + 1 by omega)
    rw [WorldSocket.receive, handleInput, if_neg (by simp [hopen]), handleInputMissingData,
      if_neg hchunk, hloop]
    have hgo (ht : t.Ready) (hagree : Agrees S s chunk t []) : ∃ u, WorldSocket.receive S t chunks = some u ∧
          u.passed = s.passed ++ pending S s (chunk ++ chunks.flatten) := by
      have htopen : t.core.closing = false := by
        obtain ht | ⟨_, ht, -⟩ := ht
        · exact ht.isOpen
        · exact ht.isOpen
      obtain ⟨u, hu, hpassed⟩ := ih ht hrest htopen
      exact ⟨u, hu, hpassed.trans (hagree _).symm⟩
    cases r with
    | wouldBlock => exact hgo hdone.1 hdone.2
    | received full => exact hgo hdone.1 hdone.2
    | peerClosed => exact hdone.elim
    | invalid =>
      refine ⟨t.handleClose, receive_of_closing S rfl chunks, ?_⟩
      exact (hdone _).symm

end WorldSocket

open WorldSocket

/-- **Reassembly.** From an open connection, every way to cut a stream into chunks passes the packets of the
whole stream to `ProcessIncoming`, and no assertion fails. -/
theorem passed_eq_decode (c : Core σ κ) (hopen : c.closing = false) (chunks : List (List UInt8))
    (hchunks : ∀ chunk ∈ chunks, 1 ≤ chunk.length ∧ chunk.length ≤ 4096) :
    ∃ t, receive S { core := c } chunks = some t ∧ t.passed = decode S true c chunks.flatten := by
  have hs : Ready { core := c } := .inl
    { header_size := rfl
      short := Nat.zero_lt_succ 5
      recvWPct := rfl
      recvPct := rfl
      isOpen := hopen }
  have hne : ∀ chunk ∈ chunks, chunk ≠ [] := by
    intro chunk hmem hnil
    have := (hchunks chunk hmem).1
    rw [hnil] at this
    exact absurd this (by decide)
  exact hs.receive S hne

def plainServices : Services Unit Unit where
  next _ := (0, ())
  time _ := (1, ())
  handlePing authed _ _ := (authed, ())
  handleAuthSession _ _ := ⟨true, some ((), ()), ()⟩
  queuePacket _ _ := ()

def plainCore : Core Unit Unit where
  closing := false
  session := none
  crypt := ⟨(), (), false⟩
  rest := ()

/-- A log-in and a keep-alive, cut inside both headers. -/
theorem passed_eq_decode_cut : ∃ t,
    receive plainServices { core := plainCore } [[0, 4, 0xED], [1, 0, 0, 0], [4, 7, 4, 0, 0]] = some t ∧
      t.passed = decode plainServices true plainCore [0, 4, 0xED, 1, 0, 0, 0, 4, 7, 4, 0, 0] :=
  passed_eq_decode plainServices plainCore rfl [[0, 4, 0xED], [1, 0, 0, 0], [4, 7, 4, 0, 0]]
    (by decide)

/-- Two packets before the log-in: `ProcessIncoming` answers the first one with -1 ("Client not authed"), and
the second one is never passed although both headers are well formed. -/
theorem unauthed_packet_is_last : ∃ t,
    receive plainServices { core := plainCore } [[0, 4, 0, 1, 0, 0], [0, 4, 0, 1, 0, 0]] = some t ∧
      t.passed = [⟨0x100, []⟩] ∧
      t.passed ≠ decode plainServices false plainCore [0, 4, 0, 1, 0, 0, 0, 4, 0, 1, 0, 0] := by
  have hone : decode plainServices false plainCore [0, 4, 0, 1, 0, 0] = [⟨0x100, []⟩] := by
    rw [decode]
    change ⟨0x100, []⟩ :: decode plainServices false plainCore [] = _
    rw [decode_of_short _ _ (by decide)]
  have htwo : decode plainServices false plainCore [0, 4, 0, 1, 0, 0, 0, 4, 0, 1, 0, 0] =
      [⟨0x100, []⟩, ⟨0x100, []⟩] := by
    rw [decode]
    change ⟨0x100, []⟩ :: decode plainServices false plainCore [0, 4, 0, 1, 0, 0] = _
    rw [hone]
  refine ⟨_, rfl, by decide, ?_⟩
  rw [htwo]
  decide

end Axium.Server
