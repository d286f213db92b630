import Axium.Packets.RoundTrip

/-!
# Hostile lengths

What a read may do to a buffer whose bytes somebody else has chosen. `Bounded` is the contract of a read: it
leaves the bytes alone, and the cursor stays inside the buffer, where it moved on by at least so many bytes,
or an exception says where it stands.

Nothing in a container checks its length, which is 32 bits of the packet. What bounds the number of its
elements is that each takes bytes of the buffer, so that they run out. A string takes none at the end of the
buffer, and it throws nothing: a vector of strings is as long as the packet says it is. In a map the strings
that take no byte are one key.
-/

namespace Axium.Packets

open List Codec Outcome ByteBuffer

variable {b' : ByteBuffer}
variable {α : Type} {get : ByteBuffer → Outcome α}

theorem Outcome.bind_eq_ok {α β : Type} {o : Outcome α} {f : α → ByteBuffer → Outcome β} {w : β}
    (h : o.bind f = .ok w b') : ∃ v b, o = .ok v b ∧ f v b = .ok w b' := by
  cases o with
  | ok v b => exact ⟨v, b, rfl, h⟩
  | throws e => cases h
  | fault => cases h

/-- The contract of a read that takes `least` bytes or more. -/
structure Bounded {α : Type} (get : ByteBuffer → Outcome α) (least : Nat) : Prop where
  ok : ∀ {b v b'}, b.rpos ≤ b.size → get b = .ok v b' →
    b'.storage = b.storage ∧ b.rpos + least ≤ b'.rpos ∧ b'.rpos ≤ b.size
  throws : ∀ {b e}, b.rpos ≤ b.size → get b = .throws e → b.rpos ≤ e.pos ∧ e.pos ≤ b.size
  safe : ∀ b, get b ≠ .fault

namespace Bounded

variable {α β : Type} {get : ByteBuffer → Outcome α} {least : Nat}

theorem size_eq {b b' : ByteBuffer} (h : b'.storage = b.storage) : b'.size = b.size := congrArg length h

theorem mono (h : Bounded get least) {n : Nat} (hn : n ≤ least) : Bounded get n where
  ok hb hget := by
    obtain ⟨hstorage, hleast, hsize⟩ := h.ok hb hget
    exact ⟨hstorage, by omega, hsize⟩
  throws := h.throws
  safe := h.safe

theorem pure (v : α) : Bounded (fun b => .ok v b) 0 where
  ok hb hget := by
    cases hget
    exact ⟨rfl, le_refl _, hb⟩
  throws _ hget := nomatch hget
  safe _ := nofun

theorem read (host : Host) (n : Nat) : Bounded (fun b => b.read host n) n where
  ok {b v b'} _ hget := by
    rw [read_eq] at hget
    split at hget
    · cases hget
    · next hfits =>
      cases hget
      exact ⟨rfl, le_refl _, Nat.not_lt.1 hfits⟩
  throws {b e} hb hget := by
    rw [read_eq] at hget
    split at hget
    · cases hget
      exact ⟨le_refl _, hb⟩
    · cases hget
  safe b := b.read_ne_fault host n

theorem bind (h : Bounded get least) {f : α → ByteBuffer → Outcome β} {n : Nat}
    (hf : ∀ v, Bounded (f v) n) : Bounded (fun b => (get b).bind f) (least + n) where
  ok {b w b''} hb hget := by
    obtain ⟨v, b', hv, hw⟩ := bind_eq_ok hget
    obtain ⟨hstorage, hleast, hsize⟩ := h.ok hb hv
    have hb' : b'.rpos ≤ b'.size := size_eq hstorage ▸ hsize
    obtain ⟨hstorage', hleast', hsize'⟩ := (hf v).ok hb' hw
    rw [size_eq hstorage] at hsize'
    exact ⟨hstorage'.trans hstorage, by omega, hsize'⟩
  throws {b e} hb hget := by
    cases hv : get b with
    | throws e' =>
      rw [hv] at hget
      cases hget
      exact h.throws hb hv
    | fault => exact absurd hv (h.safe b)
    | ok v b' =>
      rw [hv] at hget
      obtain ⟨hstorage, hleast, hsize⟩ := h.ok hb hv
      obtain ⟨hlow, hhigh⟩ := (hf v).throws (size_eq hstorage ▸ hsize) hget
      rw [size_eq hstorage] at hhigh
      exact ⟨by omega, hhigh⟩
  safe b := bind_ne_fault (h.safe b) fun v => (hf v).safe

theorem map (h : Bounded get least) (f : α → β) : Bounded (fun b => (get b).bind fun v => .ok (f v)) least :=
  h.bind fun v => Bounded.pure (f v)

theorem ite {get' : ByteBuffer → Outcome α} {p : ByteBuffer → Prop} [DecidablePred p] (h : Bounded get least)
    (h' : Bounded get' least) : Bounded (fun b => if p b then get b else get' b) least where
  ok {b v b'} hb hget := by
    by_cases hp : p b
    · rw [if_pos hp] at hget
      exact h.ok hb hget
    · rw [if_neg hp] at hget
      exact h'.ok hb hget
  throws {b e} hb hget := by
    by_cases hp : p b
    · rw [if_pos hp] at hget
      exact h.throws hb hget
    · rw [if_neg hp] at hget
      exact h'.throws hb hget
  safe b := by
    by_cases hp : p b
    · rw [if_pos hp]
      exact h.safe b
    · rw [if_neg hp]
      exact h'.safe b

theorem readLoop (h : Bounded get least) (n : Nat) : Bounded (readLoop get n) (least * n) := by
  induction n with
  | zero => exact Bounded.pure []
  | succ n ih =>
    rw [Nat.mul_succ, add_comm (least * n)]
    exact h.bind fun x => ih.map (x :: ·)

end Bounded

/-! ## Every type -/

theorem bounded_readString (host : Host) (fuel : Nat) (value : CString) :
    Bounded (readString host fuel value) 0 := by
  induction fuel generalizing value with
  | zero => exact Bounded.pure value
  | succ fuel ih =>
    refine Bounded.ite (Bounded.mono ?_ (Nat.zero_le 1)) (Bounded.pure value)
    refine (Bounded.read host 1).bind (n := 0) fun c => ?_
    by_cases h : Fin.ofNat 256 c = 0
    · simp only [dif_pos h]
      exact Bounded.pure value
    · simp only [dif_neg h]
      exact ih _

theorem bounded_string (host : Host) : Bounded (string.read host) 0 where
  ok hb hget := (bounded_readString host _ _).ok hb hget
  throws hb hget := (bounded_readString host _ _).throws hb hget
  safe b := (bounded_readString host _ _).safe b

theorem readString_returns (host : Host) (fuel : Nat) (value : CString) (b : ByteBuffer) :
    ∃ v b', readString host fuel value b = .ok v b' := by
  induction fuel generalizing value b with
  | zero => exact ⟨value, b, rfl⟩
  | succ fuel ih =>
    rw [readString]
    by_cases hlt : b.rpos < b.size
    · rw [if_pos hlt, read_eq, if_neg (Nat.not_lt.2 hlt), bind_ok]
      split
      · exact ⟨_, _, rfl⟩
      · exact ih _ _
    · rw [if_neg hlt]
      exact ⟨_, _, rfl⟩

variable {host : Host} {b : ByteBuffer}

theorem string_takes {v : CString} (hb : b.rpos ≤ b.size)
    (h : string.read host b = .ok v b') : b.rpos < b'.rpos ∨ v = ⟨[], nofun⟩ := by
  rcases eq_or_lt_of_le hb with hend | hlt
  · right
    change readString host (b.size - b.rpos) _ b = _ at h
    rw [hend, Nat.sub_self] at h
    cases h
    rfl
  · left
    obtain ⟨fuel, hfuel⟩ := Nat.exists_eq_add_one.2 (Nat.sub_pos_of_lt hlt)
    change readString host (b.size - b.rpos) _ b = _ at h
    rw [hfuel, readString, if_pos hlt, read_eq, if_neg (Nat.not_lt.2 hlt), bind_ok] at h
    split at h
    · cases h
      exact Nat.lt_succ_self b.rpos
    · have hskip : (b.skip 1).rpos ≤ (b.skip 1).size := hlt
      exact ((bounded_readString host fuel _).ok hskip h).2.1

def Ty.least : Ty → Nat
  | .uint w => w.bytes
  | .int w => w.bytes
  | .bool => 1
  | .string => 0
  | .vector _ => 4
  | .list _ => 4
  | .map _ _ => 4

theorem Ty.least_pos {t : Ty} (ht : t ≠ .string) : 0 < t.least := by
  cases t with
  | uint w => exact w.bytes_pos
  | int w => exact w.bytes_pos
  | bool => exact one_pos
  | string => exact absurd rfl ht
  | vector t => exact Nat.succ_pos 3
  | list t => exact Nat.succ_pos 3
  | map k v => exact Nat.succ_pos 3

variable {v k : Codec} {m n : Nat}

theorem bounded_readPair (hk : Bounded (k.read host) m)
    (hv : Bounded (v.read host) n) : Bounded (readPair (k := k) (v := v) host) (m + n) :=
  hk.bind fun key => hv.map fun value => (key, value)

theorem bounded_sequence {c : Codec} (hc : Bounded (c.read host) n) : Bounded ((sequence c).read host) 4 :=
  (Bounded.read host 4).bind fun vsize => (hc.readLoop vsize).mono (Nat.zero_le _)

theorem bounded_map (hk : Bounded (k.read host) m)
    (hv : Bounded (v.read host) n) : Bounded ((map k v).read host) 4 := by
  refine (Bounded.read host 4).bind (n := 0) fun msize => ?_
  have hmap : readMap host msize (.empty : Codec.Map k v) = fun b =>
      (readLoop (readPair host) msize b).bind fun es => .ok (es.foldl insertNew .empty) :=
    funext fun b => readMap_eq host msize .empty b
  rw [hmap]
  exact (((bounded_readPair hk hv).readLoop msize).map _).mono (Nat.zero_le _)

theorem bounded_codec (host : Host) (t : Ty) : Bounded (t.codec.read host) t.least := by
  induction t with
  | uint w => exact (Bounded.read host w.bytes).map _
  | int w => exact (Bounded.read host w.bytes).map _
  | bool => exact (Bounded.read host 1).map _
  | string => exact bounded_string host
  | vector t ih => exact bounded_sequence ih
  | list t ih => exact bounded_sequence ih
  | map k v ihk ihv => exact bounded_map ihk ihv

theorem guarded_read (host : Host) (b : ByteBuffer) (f : Nat → ByteBuffer → Outcome α) :
    (if b.size < b.rpos + 1 then .throws { add := false, pos := b.rpos, esize := 1, size := b.size }
      else (b.read host 1).bind f) = (b.read host 1).bind f := by
  by_cases h : b.size < b.rpos + 1
  · rw [if_pos h, read_eq, if_pos h, bind_throws]
  · rw [if_neg h]

theorem bounded_unpackLoop (host : Host) (guidmark : Nat) (is : List Nat) (guid : Nat) :
    Bounded (unpackLoop host guidmark is guid) 0 := by
  induction is generalizing guid with
  | nil => exact Bounded.pure guid
  | cons i is ih =>
    by_cases hbit : guidmark.testBit i = true
    · have hturn : unpackLoop host guidmark (i :: is) guid = fun b =>
          (b.read host 1).bind fun bit => unpackLoop host guidmark is (guid ||| bit <<< (i * 8)) := by
        funext b
        rw [unpackLoop, if_pos hbit, guarded_read]
      rw [hturn]
      exact ((Bounded.read host 1).bind fun bit => ih _).mono (Nat.zero_le _)
    · have hturn : unpackLoop host guidmark (i :: is) guid = unpackLoop host guidmark is guid := by
        funext b
        rw [unpackLoop, if_neg hbit]
      rw [hturn]
      exact ih guid

theorem bounded_packGUID (host : Host) : Bounded (packGUID.read host) 1 := by
  have hread : packGUID.read host = fun b => (b.read host 1).bind fun guidmark b =>
      (unpackLoop host guidmark (range 8) 0 b).bind fun guid => .ok (Fin.ofNat _ guid) :=
    funext fun b => guarded_read host b _
  rw [hread]
  exact (Bounded.read host 1).bind (n := 0) fun guidmark => (bounded_unpackLoop host guidmark _ 0).map _

/-! ## The number of elements -/

theorem readLoop_length {xs : List α}
    (h : readLoop get n b = .ok xs b') : xs.length = n := by
  induction n generalizing b xs with
  | zero =>
    cases h
    rfl
  | succ n ih =>
    obtain ⟨x, b₁, -, hrest⟩ := bind_eq_ok h
    obtain ⟨xs', b₂, hxs, heq⟩ := bind_eq_ok hrest
    cases heq
    rw [length_cons, ih hxs]

theorem readLoop_takes {q : α → Bool} (hget : Bounded get 0)
    (hq : ∀ {b v b'}, b.rpos ≤ b.size → get b = .ok v b' → b.rpos < b'.rpos ∨ q v = true)
    {xs : List α} (hb : b.rpos ≤ b.size) (h : readLoop get n b = .ok xs b') :
    b.rpos + xs.countP (fun x => !q x) ≤ b'.rpos := by
  induction n generalizing b xs with
  | zero =>
    cases h
    exact le_refl _
  | succ n ih =>
    obtain ⟨x, b₁, hx, hrest⟩ := bind_eq_ok h
    obtain ⟨xs', b₂, hxs, heq⟩ := bind_eq_ok hrest
    cases heq
    obtain ⟨hstorage, hle, hsize⟩ := hget.ok hb hx
    have hnext := ih (Bounded.size_eq hstorage ▸ hsize) hxs
    rcases hq hb hx with hlt | hskip
    · have hcount := countP_cons (p := fun x => !q x) (a := x) (l := xs')
      split at hcount
      · omega
      · omega
    · rw [countP_cons, hskip]
      change b.rpos + (xs'.countP (fun x => !q x) + 0) ≤ b'.rpos
      omega

theorem readLoop_returns (h : ∀ b, ∃ v b', get b = .ok v b')
    (n : Nat) (b : ByteBuffer) : ∃ xs b', readLoop get n b = .ok xs b' ∧ xs.length = n := by
  induction n generalizing b with
  | zero => exact ⟨[], b, rfl, rfl⟩
  | succ n ih =>
    obtain ⟨x, b₁, hx⟩ := h b
    obtain ⟨xs, b₂, hxs, hlen⟩ := ih b₁
    refine ⟨x :: xs, b₂, ?_, by rw [length_cons, hlen]⟩
    rw [readLoop, hx, bind_ok, hxs, bind_ok]

theorem mem_keys_foldl_insertNew {es : List (k.α × v.α)} {m : Codec.Map k v} {key : k.α}
    (h : key ∈ (es.foldl insertNew m).keys) : key ∈ m.keys ∨ ∃ e ∈ es, e.1 = key := by
  induction es generalizing m with
  | nil => exact .inl h
  | cons e es ih =>
    rcases ih h with hmem | ⟨e', he', heq⟩
    · unfold insertNew at hmem
      split at hmem
      · exact .inl hmem
      · rcases OrdMap.mem_keys_insert.1 hmem with heq | hold
        · exact .inr ⟨e, mem_cons_self, heq⟩
        · exact .inl hold
    · exact .inr ⟨e', mem_cons_of_mem e he', heq⟩

theorem length_ofPairs_le (blank : k.α) (es : List (k.α × v.α)) :
    (ofPairs es).entries.length ≤ es.countP (fun e => !decide (e.1 = blank)) + 1 := by
  have hsub : (ofPairs es).keys ⊆ blank :: (es.filter fun e => !decide (e.1 = blank)).map Prod.fst := by
    intro key hkey
    by_cases hblank : key = blank
    · exact hblank ▸ mem_cons_self
    · rcases mem_keys_foldl_insertNew hkey with hmem | ⟨e, he, heq⟩
      · cases hmem
      · refine mem_cons_of_mem _ (mem_map.2 ⟨e, mem_filter.2 ⟨he, ?_⟩, heq⟩)
        rw [heq, decide_eq_false hblank]
        rfl
  have hlen := (List.Nodup.subperm (ofPairs es).keys_nodup hsub).length_le
  rw [length_cons, length_map, ← countP_eq_length_filter] at hlen
  unfold OrdMap.keys at hlen
  rwa [length_map] at hlen

/-! ## Which reads do no harm -/

/-- `read_skip`, in which the sum is a `size_t`. -/
def ByteBuffer.readSkip (b : ByteBuffer) (skip : Fin (2 ^ 64)) : Outcome Unit :=
  let sum := (b.rpos + skip.val) % 2 ^ 64
  if b.size < sum then .throws { add := false, pos := b.rpos, esize := skip.val, size := b.size }
  else .ok () { b with rpos := sum }

inductive Reading where
  /-- `read` of a type of `n` bytes. -/
  | fixed (n : Nat)
  | skip (skip : Fin (2 ^ 64))
  /-- `operator>>`. -/
  | value (t : Ty)
  | packGUID

/-- The elements of a container; those of containers inside it are not added. -/
def Ty.count : (t : Ty) → t.codec.α → Nat
  | .vector t, v => length (α := t.codec.α) v
  | .list t, v => length (α := t.codec.α) v
  | .map k v, m => OrdMap.size (κ := k.codec.α) (ν := v.codec.α) m
  | _, _ => 0

variable {α : Type}

def Inside (o : Outcome α) (b : ByteBuffer) : Prop :=
  match o with
  | .ok _ b' => b'.storage = b.storage ∧ b'.rpos ≤ b.size
  | .throws e => e.pos ≤ b.size
  | .fault => False

def Refused (o : Outcome α) (b : ByteBuffer) : Prop := ∃ e, o = .throws e ∧ e.pos = b.rpos

/-- What does not fit is refused, and no container has more elements than there are bytes left. -/
def Harmless (host : Host) (b : ByteBuffer) : Reading → Prop
  | .fixed n => (b.size < b.rpos + n → Refused (b.read host n) b) ∧ Inside (b.read host n) b
  | .skip n => (b.size < b.rpos + n.val → Refused (b.readSkip n) b) ∧ Inside (b.readSkip n) b
  | .value t => Inside (t.codec.read host b) b ∧
      ∀ v b', t.codec.read host b = .ok v b' → t.count v ≤ b.size - b.rpos
  | .packGUID => Inside (packGUID.read host b) b

/-- The length in front of the elements, where there is one, is no more than the bytes left. -/
def LengthFits (b : ByteBuffer) : Prop := 4 ≤ b.rest.length → ofLE (b.rest.take 4) ≤ b.rest.length

/-- The sum of `read_skip` is not cut off, and a vector or list of strings is no longer than what is left. -/
def Clear (b : ByteBuffer) : Reading → Prop
  | .skip n => b.rpos + n.val < 2 ^ 64
  | .value (.vector t) => t = .string → LengthFits b
  | .value (.list t) => t = .string → LengthFits b
  | _ => True

theorem Bounded.inside {least : Nat} (h : Bounded get least)
    (hb : b.rpos ≤ b.size) : Inside (get b) b := by
  cases hget : get b with
  | ok v b' => exact ⟨(h.ok hb hget).1, (h.ok hb hget).2.2⟩
  | throws e => exact (h.throws hb hget).2
  | fault => exact h.safe b hget

theorem harmless_fixed (hb : b.rpos ≤ b.size) (n : Nat) : Harmless host b (.fixed n) := by
  refine ⟨fun hshort => ?_, (Bounded.read host n).inside hb⟩
  rw [read_eq, if_pos hshort]
  exact ⟨_, rfl, rfl⟩

theorem harmless_skip (hb : b.rpos ≤ b.size) (hsize : b.size < 2 ^ 64)
    (n : Fin (2 ^ 64)) : Harmless host b (.skip n) ↔ b.rpos + n.val < 2 ^ 64 := by
  constructor
  · intro h
    by_contra hwrap
    -- the sum is cut off to a position before the cursor
    have hmod : (b.rpos + n.val) % 2 ^ 64 ≤ b.size := by omega
    obtain ⟨e, he, -⟩ := h.1 (by omega)
    unfold readSkip at he
    rw [if_neg (Nat.not_lt.2 hmod)] at he
    cases he
  · intro h
    have hskip : b.readSkip n = if b.size < b.rpos + n.val then
          .throws { add := false, pos := b.rpos, esize := n.val, size := b.size }
        else .ok () (b.skip n.val) := by
      unfold readSkip
      rw [Nat.mod_eq_of_lt h]
      rfl
    unfold Harmless
    dsimp only
    rw [hskip]
    by_cases hshort : b.size < b.rpos + n.val
    · rw [if_pos hshort]
      exact ⟨fun _ => ⟨_, rfl, rfl⟩, hb⟩
    · rw [if_neg hshort]
      exact ⟨fun hlt => absurd hlt hshort, rfl, Nat.not_lt.1 hshort⟩

theorem length_sequence_le {c : Codec} {least : Nat} (hc : Bounded (c.read host) least)
    (hleast : 0 < least) {v : List c.α} (hb : b.rpos ≤ b.size)
    (h : (sequence c).read host b = .ok v b') : v.length ≤ b.size - b.rpos := by
  obtain ⟨vsize, b₁, hvsize, hloop⟩ := bind_eq_ok h
  obtain ⟨hstorage, hle, hsize⟩ := (Bounded.read host 4).ok hb hvsize
  obtain ⟨-, hleast', hsize'⟩ := (hc.readLoop vsize).ok (Bounded.size_eq hstorage ▸ hsize) hloop
  rw [Bounded.size_eq hstorage] at hsize'
  have hmul : 1 * vsize ≤ least * vsize := Nat.mul_le_mul_right vsize hleast
  rw [readLoop_length hloop]
  omega

theorem strings_iff :
    (∀ v b', (Codec.sequence .string).read host b = .ok v b' → List.length v ≤ b.size - b.rpos) ↔
      LengthFits b := by
  unfold LengthFits
  rw [b.length_rest]
  constructor
  · intro h hfour
    have hread : b.read host 4 = .ok (ofLE (b.rest.take 4)) (b.skip 4) := by
      rw [read_eq, if_neg (by omega)]
    obtain ⟨xs, b', hxs, hlen⟩ := readLoop_returns
      (fun b => readString_returns host _ _ b : ∀ b, ∃ v b', string.read host b = .ok v b') (ofLE (b.rest.take 4)) (b.skip 4)
    rw [← hlen]
    refine h xs b' ?_
    change (b.read host 4).bind _ = _
    rw [hread]
    exact hxs
  · intro h v b' hread
    obtain ⟨vsize, b₁, hvsize, hloop⟩ := bind_eq_ok hread
    rw [readLoop_length hloop]
    rw [read_eq] at hvsize
    split at hvsize
    · cases hvsize
    · cases hvsize
      exact h (by omega)

theorem length_map_le (hk : Bounded (k.read host) m) (hv : Bounded (v.read host) n) (blank : k.α)
    (hblank : ∀ {b key b'}, b.rpos ≤ b.size → k.read host b = .ok key b' → b.rpos < b'.rpos ∨ key = blank)
    {es : Codec.Map k v} (hb : b.rpos ≤ b.size)
    (h : (map k v).read host b = .ok es b') : es.size ≤ b.size - b.rpos := by
  obtain ⟨msize, b₁, hmsize, hloop⟩ := bind_eq_ok h
  rw [readMap_eq] at hloop
  obtain ⟨pairs, b₂, hpairs, heq⟩ := bind_eq_ok hloop
  cases heq
  obtain ⟨hstorage, hle, hsize⟩ := (Bounded.read host 4).ok hb hmsize
  have hb₁ : b₁.rpos ≤ b₁.size := Bounded.size_eq hstorage ▸ hsize
  have hpair := (bounded_readPair hk hv).mono (Nat.zero_le _)
  have htakes := readLoop_takes (q := fun e => decide (e.1 = blank)) hpair (fun {b e b'} hb hread => ?_) hb₁ hpairs
  · obtain ⟨-, -, hsize'⟩ := (hpair.readLoop msize).ok hb₁ hpairs
    rw [Bounded.size_eq hstorage] at hsize'
    have hcount := length_ofPairs_le blank pairs
    change (ofPairs pairs).entries.length ≤ _
    omega
  · obtain ⟨key, b₃, hkey, hrest⟩ := bind_eq_ok hread
    obtain ⟨value, b₄, hvalue, heq⟩ := bind_eq_ok hrest
    cases heq
    obtain ⟨hstorage', -, hsize''⟩ := hk.ok hb hkey
    obtain ⟨-, hle', -⟩ := hv.ok (Bounded.size_eq hstorage' ▸ hsize'') hvalue
    rcases hblank hb hkey with hlt | heq
    · exact .inl (by omega)
    · exact .inr (decide_eq_true heq)

theorem key_takes (host : Host) (t : Ty) : ∃ blank : t.codec.α, ∀ {b key b'}, b.rpos ≤ b.size →
    t.codec.read host b = .ok key b' → b.rpos < b'.rpos ∨ key = blank := by
  have htakes : t ≠ .string → ∀ {b key b'}, b.rpos ≤ b.size → t.codec.read host b = .ok key b' →
      b.rpos < b'.rpos := fun ht b key b' hb hread => by
    have hle := ((bounded_codec host t).ok hb hread).2.1
    have hpos := Ty.least_pos ht
    omega
  cases t with
  | uint w => exact ⟨Fin.ofNat _ 0, fun hb hread => .inl (htakes nofun hb hread)⟩
  | int w => exact ⟨SInt.ofBits _ 0, fun hb hread => .inl (htakes nofun hb hread)⟩
  | bool => exact ⟨false, fun hb hread => .inl (htakes nofun hb hread)⟩
  | string => exact ⟨⟨[], nofun⟩, fun hb hread => string_takes hb hread⟩
  | vector t => exact ⟨[], fun hb hread => .inl (htakes nofun hb hread)⟩
  | list t => exact ⟨[], fun hb hread => .inl (htakes nofun hb hread)⟩
  | map k v => exact ⟨OrdMap.empty, fun hb hread => .inl (htakes nofun hb hread)⟩

theorem harmless_value (hb : b.rpos ≤ b.size) (t : Ty) :
    Harmless host b (.value t) ↔ ∀ v b', t.codec.read host b = .ok v b' → t.count v ≤ b.size - b.rpos :=
  and_iff_right ((bounded_codec host t).inside hb)

theorem count_sequence_iff (hb : b.rpos ≤ b.size) (t : Ty) :
    (∀ v b', (sequence t.codec).read host b = .ok v b' → List.length v ≤ b.size - b.rpos) ↔
      (t = .string → LengthFits b) := by
  by_cases ht : t = .string
  · subst ht
    exact strings_iff.trans ⟨fun h _ => h, fun h => h rfl⟩
  · exact iff_of_true (fun _ _ hread => length_sequence_le (bounded_codec host t) (Ty.least_pos ht) hb hread)
      fun heq => absurd heq ht

/-- Every read but `read_skip` of a length that is cut off and the vectors and lists of strings that say they
are longer than what is left does no harm. -/
theorem harmless_iff (host : Host) (b : ByteBuffer) (hb : b.rpos ≤ b.size) (hsize : b.size < 2 ^ 64)
    (r : Reading) : Harmless host b r ↔ Clear b r := by
  cases r with
  | fixed n => exact iff_of_true (harmless_fixed hb n) trivial
  | skip n => exact harmless_skip hb hsize n
  | packGUID => exact iff_of_true ((bounded_packGUID host).inside hb) trivial
  | value t =>
    rw [harmless_value hb]
    cases t with
    | uint w => exact iff_of_true (fun _ _ _ => Nat.zero_le _) trivial
    | int w => exact iff_of_true (fun _ _ _ => Nat.zero_le _) trivial
    | bool => exact iff_of_true (fun _ _ _ => Nat.zero_le _) trivial
    | string => exact iff_of_true (fun _ _ _ => Nat.zero_le _) trivial
    | vector t => exact count_sequence_iff hb t
    | list t => exact count_sequence_iff hb t
    | map k v =>
      obtain ⟨blank, hblank⟩ := key_takes host k
      exact iff_of_true
        (fun es b' hread => length_map_le (bounded_codec host k) (bounded_codec host v) blank hblank hb hread) trivial

theorem harmless_iff_two : Harmless .littleEndian { storage := [2, 0, 0, 0, 104, 0, 105, 0] }
    (.value (.vector .string)) :=
  (harmless_iff .littleEndian _ (by decide) (by decide) (.value (.vector .string))).2 fun _ _ => by decide

/-- Five strings come out of the four bytes of their number. -/
theorem not_harmless_five :
    ¬ Harmless .littleEndian { storage := [5, 0, 0, 0] } (.value (.vector .string)) := by
  intro h
  have hcount := h.2 (replicate 5 ⟨[], nofun⟩) { storage := [5, 0, 0, 0], rpos := 4 } rfl
  revert hcount
  decide

end Axium.Packets
