import Axium.Packets.ByteBuffer

/-!
# Written and read again

What `operator<<` appends to a buffer is a list of bytes that depends on the value alone. `Spec` gives these
bytes, and what a read makes of them when they are cut off: an integer or a length that is cut off throws, a
string that is cut off is read up to the end of the buffer, and every string after it is empty.

`Sound` says that a pair of operators does what its `Spec` says. It is proved for the integers, the strings
and the packed GUID and carried through the containers. The operators of `bool` are sound but for the values
themselves, which are written with four bytes and read with one.
-/

namespace Axium.Packets

open List Option ByteBuffer Codec Outcome

variable {post : List Byte} {v : CString}

/-! ## Byte order -/

theorem length_leBytes (n v : Nat) : (leBytes n v).length = n := by
  induction n generalizing v with
  | zero => rfl
  | succ n ih => rw [leBytes, length_cons, ih]

theorem ofLE_leBytes (n v : Nat) : ofLE (leBytes n v) = v % 256 ^ n := by
  induction n generalizing v with
  | zero => simp [leBytes, ofLE, Nat.mod_one]
  | succ n ih =>
    rw [leBytes, ofLE, ih, pow_succ', Nat.mod_mul]
    rfl

theorem convert_length (l : List Byte) : convert l.length l = l.reverse := by
  induction h : l.length using Nat.strong_induction_on generalizing l with
  | _ T ih =>
    match l, h with
    | [], h => subst h; rfl
    | [a], h => subst h; rfl
    | a :: b :: l, h =>
      subst h
      have hlt : l.length < (a :: b :: l).length := by
        simp only [length_cons]
        omega
      have hinit := ih l.length hlt (b :: l).dropLast (by simp)
      rw [length_cons, length_cons, convert, hinit, reverse_cons]
      conv_rhs => rw [← dropLast_append_getLast (cons_ne_nil b l), reverse_append]
      rfl

theorem endianConvert_image (host : Host) (n v : Nat) : endianConvert host (image host n v) = leBytes n v := by
  cases host with
  | littleEndian => rfl
  | bigEndian =>
    unfold endianConvert image
    rw [convert_length, reverse_reverse]

theorem ofImage_endianConvert (host : Host) (l : List Byte) : ofImage host (endianConvert host l) = ofLE l := by
  cases host with
  | littleEndian => rfl
  | bigEndian =>
    unfold ofImage endianConvert
    rw [convert_length, reverse_reverse]

/-! ## The cursors -/

namespace ByteBuffer

variable {b b' : ByteBuffer}

def rest (b : ByteBuffer) : List Byte := b.storage.drop b.rpos

/-- The buffer with `n` bytes more read. -/
def skip (b : ByteBuffer) (n : Nat) : ByteBuffer := { b with rpos := b.rpos + n }

def atEnd (b : ByteBuffer) : ByteBuffer := { b with rpos := b.size }

def extend (b : ByteBuffer) (src : List Byte) : ByteBuffer :=
  { b with storage := b.storage ++ src, wpos := b.wpos + src.length }

theorem length_rest (b : ByteBuffer) : b.rest.length = b.size - b.rpos := length_drop

variable {l post : List Byte}

theorem rest_skip (h : b.rest = l ++ post) : (b.skip l.length).rest = post := by
  unfold rest at h ⊢
  change b.storage.drop (b.rpos + l.length) = post
  rw [← drop_drop, h, drop_left]

theorem rpos_skip_le (hb : b.rpos ≤ b.size) (h : b.rest = l ++ post) :
    (b.skip l.length).rpos ≤ (b.skip l.length).size := by
  have hlen := b.length_rest
  rw [h, length_append] at hlen
  change b.rpos + l.length ≤ b.size
  omega

theorem skip_skip (m n : Nat) : (b.skip m).skip n = b.skip (m + n) := by
  unfold skip
  rw [add_assoc]

theorem skip_eq_atEnd (hb : b.rpos ≤ b.size) (h : b.rest = l) : b.skip l.length = b.atEnd := by
  have hlen := b.length_rest
  rw [h] at hlen
  unfold skip atEnd
  rw [hlen, Nat.add_sub_of_le hb]

theorem extend_extend (src src' : List Byte) : (b.extend src).extend src' = b.extend (src ++ src') := by
  unfold extend
  simp [add_assoc]

theorem size_extend (src : List Byte) : (b.extend src).size = b.size + src.length := length_append

theorem wpos_extend (hb : b.wpos = b.size) (src : List Byte) : (b.extend src).wpos = (b.extend src).size := by
  rw [size_extend, ← hb]
  rfl

theorem append_eq_some {src : List Byte} (hb : b.wpos = b.size) (h : b.append src = some b') :
    b' = b.extend src ∧ (src ≠ [] → b.size < 10000000) := by
  unfold append at h
  by_cases hsrc : src = []
  · rw [if_pos hsrc, some.injEq] at h
    subst hsrc
    refine ⟨?_, fun hne => absurd rfl hne⟩
    unfold extend
    simp [← h]
  · rw [if_neg hsrc] at h
    by_cases hsize : b.size < 10000000
    · have hpos : 0 < src.length := length_pos_of_ne_nil hsrc
      rw [if_pos hsize, hb, if_pos (by omega), some.injEq] at h
      refine ⟨?_, fun _ => hsize⟩
      subst h
      have hresize : resize (b.size + src.length) b.storage = b.storage ++ replicate src.length 0 := by
        unfold resize size
        rw [Nat.add_sub_cancel_left]
      unfold extend
      rw [hresize, hb]
      have hlen : b.size = b.storage.length := rfl
      rw [hlen, take_left, drop_eq_nil_of_le (by simp), append_nil]
    · rw [if_neg hsize] at h
      cases h

variable {n : Nat}

theorem appendInt_eq_some {host : Host} {v : Nat} (hn : 0 < n) (hb : b.wpos = b.size)
    (h : b.appendInt host n v = some b') : b' = b.extend (leBytes n v) ∧ b.size < 10000000 := by
  unfold appendInt at h
  rw [endianConvert_image] at h
  obtain ⟨heq, hsize⟩ := append_eq_some hb h
  refine ⟨heq, hsize fun hnil => ?_⟩
  have hlen := length_leBytes n v
  rw [hnil] at hlen
  simp only [length_nil] at hlen
  omega

theorem load_eq (storage : List Byte) {pos : Nat} (h : pos + n ≤ storage.length) :
    load storage pos n = some ((storage.drop pos).take n) := by
  induction n generalizing pos with
  | zero => rfl
  | succ n ih =>
    have hlt : pos < storage.length := by omega
    unfold load
    rw [getElem?_eq_getElem hlt, ih (by omega), drop_eq_getElem_cons hlt]
    rfl

theorem read_eq (b : ByteBuffer) (host : Host) (n : Nat) :
    b.read host n =
      if b.size < b.rpos + n then
        .throws { add := false, pos := b.rpos, esize := n, size := b.size }
      else .ok (ofLE (b.rest.take n)) (b.skip n) := by
  unfold read
  by_cases h : b.size < b.rpos + n
  · rw [if_pos h, if_pos h]
  · rw [if_neg h, if_neg h, load_eq b.storage (not_lt.1 h)]
    dsimp only
    rw [ofImage_endianConvert]
    rfl

theorem read_of_rest (host : Host) (hb : b.rpos ≤ b.size) (h : b.rest = l ++ post) :
    b.read host l.length = .ok (ofLE l) (b.skip l.length) := by
  have hlen := b.length_rest
  rw [h, length_append] at hlen
  rw [read_eq, if_neg (by omega), h, take_left]

theorem read_short {host : Host} (h : b.rest.length < n) : ∃ e, b.read host n = .throws e := by
  rw [length_rest] at h
  exact ⟨_, by rw [read_eq, if_pos (by omega)]⟩

end ByteBuffer

/-! ## Sound operators -/

structure Spec (α : Type) where
  /-- The bytes of a value. -/
  enc : α → List Byte
  /-- No `bool` is written. -/
  noBool : α → Prop
  fits : α → Prop
  cut : α → α → Prop
  /-- What is read at the end of the buffer. -/
  blank : α → Prop

def Throws {α : Type} (o : Outcome α) : Prop := ∃ e, o = .throws e

/-- What `put` writes, `get` reads back; what is cut short throws or reads the cut value. -/
structure Sound {α : Type} (put : α → ByteBuffer → Option ByteBuffer) (get : ByteBuffer → Outcome α)
    (s : Spec α) : Prop where
  enc_ne : ∀ v, s.enc v ≠ []
  write : ∀ {v b b'}, b.wpos = b.size → put v b = some b' →
    b' = b.extend (s.enc v) ∧ b.size < 10000000 ∧ s.fits v
  read : ∀ {v b post}, s.noBool v → s.fits v → b.rpos ≤ b.size → b.rest = s.enc v ++ post →
    get b = .ok v (b.skip (s.enc v).length)
  cut : ∀ {v b n}, s.noBool v → s.fits v → b.rpos ≤ b.size → n < (s.enc v).length →
    b.rest = (s.enc v).take n → Throws (get b) ∨ ∃ v', get b = .ok v' b.atEnd ∧ s.cut v v'
  blank : ∀ {b}, b.rpos = b.size → Throws (get b) ∨ ∃ v', get b = .ok v' b ∧ s.blank v'
  safe : ∀ b, get b ≠ .fault

/-- Two lists that agree up to a value that is cut off, behind which nothing is left to read. -/
inductive CutList {α : Type} (C : α → α → Prop) (B : α → Prop) : List α → List α → Prop where
  | here {x x' : α} {xs xs' : List α} (h : C x x') (hlen : xs'.length = xs.length)
      (hblank : ∀ y ∈ xs', B y) : CutList C B (x :: xs) (x' :: xs')
  | later {x : α} {xs xs' : List α} (h : CutList C B xs xs') : CutList C B (x :: xs) (x :: xs')

theorem Throws.bind {α β : Type} {o : Outcome α} (h : Throws o) (f : α → ByteBuffer → Outcome β) :
    Throws (o.bind f) := by
  obtain ⟨e, rfl⟩ := h
  exact ⟨e, rfl⟩

theorem Outcome.bind_ne_fault {α β : Type} {o : Outcome α} {f : α → ByteBuffer → Outcome β}
    (ho : o ≠ .fault) (hf : ∀ a b, f a b ≠ .fault) : o.bind f ≠ .fault := by
  cases o with
  | ok a b => exact hf a b
  | throws e => nofun
  | fault => exact absurd rfl ho

theorem ByteBuffer.read_ne_fault (b : ByteBuffer) (host : Host) (n : Nat) : b.read host n ≠ .fault := by
  rw [read_eq]
  split
  · nofun
  · nofun

variable {l : List Byte} {n : Nat}

theorem take_append_cases {b : ByteBuffer} {l' : List Byte} (hn : n < (l ++ l').length)
    (h : b.rest = (l ++ l').take n) :
    n < l.length ∧ b.rest = l.take n ∨
      ∃ m, m < l'.length ∧ n = l.length + m ∧ b.rest = l ++ l'.take m := by
  rw [length_append] at hn
  by_cases hlt : n < l.length
  · exact .inl ⟨hlt, by rw [h, take_append_of_le_length hlt.le]⟩
  · refine .inr ⟨n - l.length, by omega, by omega, ?_⟩
    rw [h, take_append, take_of_length_le (not_lt.1 hlt)]

namespace Sound

variable {α : Type} {put : α → ByteBuffer → Option ByteBuffer} {get : ByteBuffer → Outcome α}
  {s : Spec α}

/-! ## Loops -/

variable {vs : List α}

section

variable (h : Sound put get s)
include h

theorem writeLoop {b b' : ByteBuffer} (hb : b.wpos = b.size) (hw : Codec.writeLoop put vs b = some b') :
    b' = b.extend (vs.flatMap s.enc) ∧ (vs ≠ [] → b.size + vs.length ≤ 10000000) ∧
      ∀ v ∈ vs, s.fits v := by
  induction vs generalizing b with
  | nil =>
    cases hw
    exact ⟨by simp [extend], fun hne => absurd rfl hne, nofun⟩
  | cons v vs ih =>
    obtain ⟨b₁, hv, hrest⟩ := bind_eq_some_iff.1 hw
    obtain ⟨rfl, hsize, hfits⟩ := h.write hb hv
    obtain ⟨rfl, hlen, hfitss⟩ := ih (wpos_extend hb _) hrest
    refine ⟨?_, fun _ => ?_, ?_⟩
    · rw [extend_extend, flatMap_cons]
    · have hpos := length_pos_of_ne_nil (h.enc_ne v)
      rw [size_extend] at hlen
      rw [length_cons]
      by_cases hvs : vs = []
      · rw [hvs, length_nil]
        omega
      · have hrestLen := hlen hvs
        omega
    · intro v' hv'
      rcases mem_cons.1 hv' with rfl | hv'
      · exact hfits
      · exact hfitss v' hv'

theorem readLoop {b : ByteBuffer}
    (hvs : ∀ v ∈ vs, s.noBool v ∧ s.fits v) (hb : b.rpos ≤ b.size) (hrest : b.rest = vs.flatMap s.enc ++ post) :
    Codec.readLoop get vs.length b = .ok vs (b.skip (vs.flatMap s.enc).length) := by
  induction vs generalizing b with
  | nil => rfl
  | cons v vs ih =>
    rw [flatMap_cons, append_assoc] at hrest
    obtain ⟨hnoBool, hfits⟩ := hvs v mem_cons_self
    rw [length_cons, Codec.readLoop, h.read hnoBool hfits hb hrest, bind_ok,
      ih (fun v' hv' => hvs v' (mem_cons_of_mem v hv')) (rpos_skip_le hb hrest)
        (rest_skip hrest), bind_ok, skip_skip, flatMap_cons,
      length_append]

theorem readLoop_blank {b : ByteBuffer} (hb : b.rpos = b.size) (n : Nat) :
    Throws (Codec.readLoop get n b) ∨
      ∃ vs, Codec.readLoop get n b = .ok vs b ∧ vs.length = n ∧ ∀ v ∈ vs, s.blank v := by
  induction n with
  | zero => exact .inr ⟨[], rfl, rfl, nofun⟩
  | succ n ih =>
    rw [Codec.readLoop]
    rcases h.blank hb with hthrows | ⟨v, hv, hblank⟩
    · exact .inl (hthrows.bind _)
    · rw [hv, bind_ok]
      rcases ih with hthrows | ⟨vs, hvs, hlen, hall⟩
      · exact .inl (hthrows.bind _)
      · refine .inr ⟨v :: vs, by rw [hvs]; rfl, by rw [length_cons, hlen], fun v' hv' => ?_⟩
        rcases mem_cons.1 hv' with rfl | hv'
        · exact hblank
        · exact hall v' hv'

theorem readLoop_cut {b : ByteBuffer} {n : Nat}
    (hvs : ∀ v ∈ vs, s.noBool v ∧ s.fits v) (hb : b.rpos ≤ b.size) (hn : n < (vs.flatMap s.enc).length)
    (hrest : b.rest = (vs.flatMap s.enc).take n) :
    Throws (Codec.readLoop get vs.length b) ∨
      ∃ vs', Codec.readLoop get vs.length b = .ok vs' b.atEnd ∧ CutList s.cut s.blank vs vs' := by
  induction vs generalizing b n with
  | nil => exact absurd hn (Nat.not_lt_zero n)
  | cons v vs ih =>
    obtain ⟨hnoBool, hfits⟩ := hvs v mem_cons_self
    rw [length_cons, Codec.readLoop]
    rcases take_append_cases hn hrest with ⟨hlt, hsplit⟩ | ⟨m, hm, -, hsplit⟩
    · rcases h.cut hnoBool hfits hb hlt hsplit with hthrows | ⟨v', hv', hcut⟩
      · exact .inl (hthrows.bind _)
      · rw [hv', bind_ok]
        rcases h.readLoop_blank (b := b.atEnd) rfl vs.length with hthrows | ⟨vs', hvs', hlen, hblank⟩
        · exact .inl (hthrows.bind _)
        · exact .inr ⟨v' :: vs', by rw [hvs']; rfl, .here hcut hlen hblank⟩
    · rw [h.read hnoBool hfits hb hsplit, bind_ok]
      rcases ih (fun v' hv' => hvs v' (mem_cons_of_mem v hv')) (rpos_skip_le hb hsplit) hm
        (rest_skip hsplit) with hthrows | ⟨vs', hvs', hcut⟩
      · exact .inl (hthrows.bind _)
      · exact .inr ⟨v :: vs', by rw [hvs']; rfl, .later hcut⟩

theorem readLoop_safe (n : Nat) (b : ByteBuffer) : Codec.readLoop get n b ≠ .fault := by
  induction n generalizing b with
  | zero => nofun
  | succ n ih => exact bind_ne_fault (h.safe b) fun v b => bind_ne_fault (ih b) nofun

end

end Sound

/-! ## Integers and strings -/

variable {host : Host}

theorem sound_int {α : Type} (hn : 0 < n) {toBits : α → Nat} {ofBits : Nat → α}
    {s : Spec α} (henc : ∀ v, s.enc v = leBytes n (toBits v)) (hfits : ∀ v, s.fits v)
    (hof : ∀ v, s.noBool v → ofBits (toBits v % 256 ^ n) = v) :
    Sound (fun v b => b.appendInt host n (toBits v))
      (fun b => (b.read host n).bind fun v => .ok (ofBits v)) s where
  enc_ne v hnil := by
    have hlen := length_leBytes n (toBits v)
    rw [← henc, hnil, length_nil] at hlen
    omega
  write {v b b'} hb hw := by
    obtain ⟨heq, hsize⟩ := appendInt_eq_some hn hb hw
    exact ⟨by rw [heq, henc], hsize, hfits v⟩
  read {v b post} hnoBool _ hb hrest := by
    rw [henc] at hrest ⊢
    have hread := read_of_rest host hb hrest
    rw [length_leBytes] at hread ⊢
    rw [hread, bind_ok, ofLE_leBytes, hof v hnoBool]
  cut {v b m} _ _ _ hm hrest := by
    left
    rw [henc, length_leBytes] at hm
    have hshort : b.rest.length < n := by
      rw [hrest, length_take]
      omega
    exact Throws.bind (read_short hshort) _
  blank {b} hb := by
    left
    have hshort : b.rest.length < n := by
      rw [length_rest]
      omega
    exact Throws.bind (read_short hshort) _
  safe b := bind_ne_fault (b.read_ne_fault host n) nofun

theorem Width.bytes_pos (w : Width) : 0 < w.bytes := by
  cases w <;> decide

def Spec.uint (w : Width) : Spec (Fin (256 ^ w.bytes)) where
  enc v := leBytes w.bytes v.val
  noBool _ := True
  fits _ := True
  cut _ _ := False
  blank _ := False

theorem sound_uint (host : Host) (w : Width) : Sound ((uint w).write host) ((uint w).read host) (Spec.uint w) :=
  sound_int w.bytes_pos (fun _ => rfl) (fun _ => trivial) fun v _ => by
    refine Fin.ext ?_
    change v.val % 256 ^ w.bytes % 256 ^ w.bytes = v.val
    rw [Nat.mod_mod, Nat.mod_eq_of_lt v.isLt]

def Spec.int (w : Width) : Spec (SInt w.bytes) where
  enc v := leBytes w.bytes v.toBits
  noBool _ := True
  fits _ := True
  cut _ _ := False
  blank _ := False

theorem SInt.val_ofBits (n v : Nat) :
    (SInt.ofBits n v).val =
      if 2 * (v % 256 ^ n) < 256 ^ n then ((v % 256 ^ n : Nat) : Int)
      else (v % 256 ^ n : Nat) - (256 ^ n : Nat) := by
  unfold ofBits
  by_cases h : 2 * (v % 256 ^ n) < 256 ^ n
  · rw [dif_pos h, if_pos h]
  · rw [dif_neg h, if_neg h]

theorem SInt.ofBits_toBits (i : SInt n) : SInt.ofBits n (i.toBits % 256 ^ n) = i := by
  obtain ⟨i, hlow, hhigh⟩ := i
  refine Subtype.ext ?_
  rw [val_ofBits, Nat.mod_mod]
  unfold toBits
  dsimp only
  generalize hM : 256 ^ n = M at *
  have hpos : 0 < M := hM ▸ Nat.pow_pos (by decide)
  -- the remainder is the number itself, or that plus the modulus
  have hmod : i % (M : Int) = if 0 ≤ i then i else i + M := by
    by_cases hi : 0 ≤ i
    · rw [if_pos hi, Int.emod_eq_of_lt hi (by omega)]
    · rw [if_neg hi, ← Int.add_emod_right, Int.emod_eq_of_lt (by omega) (by omega)]
  have hbits : (i % (M : Int)).toNat % M = (i % (M : Int)).toNat := by
    refine Nat.mod_eq_of_lt ?_
    rw [hmod]
    by_cases hi : 0 ≤ i
    · rw [if_pos hi]
      omega
    · rw [if_neg hi]
      omega
  rw [hbits, hmod]
  by_cases hi : 0 ≤ i
  · rw [if_pos (by omega)]
    omega
  · rw [if_neg (by omega)]
    omega

theorem sound_sint (host : Host) (w : Width) : Sound ((int w).write host) ((int w).read host) (Spec.int w) :=
  sound_int w.bytes_pos (fun _ => rfl) (fun _ => trivial) fun v _ => v.ofBits_toBits

/-- The operators of `bool`: four bytes are written, and no value is promised to be read. -/
def Spec.bool : Spec Bool where
  enc v := leBytes 4 v.toNat
  noBool _ := False
  fits _ := True
  cut _ _ := False
  blank _ := False

theorem sound_bool (host : Host) : Sound (bool.write host) (bool.read host) Spec.bool where
  enc_ne v := by cases v <;> simp [Spec.bool, leBytes]
  write {v b b'} hb hw := by
    obtain ⟨heq, hsize⟩ := appendInt_eq_some (by decide) hb hw
    exact ⟨heq, hsize, trivial⟩
  read h := h.elim
  cut h := h.elim
  blank {b} hb := by
    left
    have hshort : b.rest.length < 1 := by
      rw [length_rest]
      omega
    exact Throws.bind (read_short hshort) _
  safe b := bind_ne_fault (b.read_ne_fault host 1) nofun

def Spec.string : Spec CString where
  enc v := v.val ++ [0]
  noBool _ := True
  fits _ := True
  cut v v' := v'.val <+: v.val
  blank v := v.val = []

variable {fuel : Nat} {value : CString}

theorem readString_succ {b : ByteBuffer} {c : Byte} (hb : b.rpos ≤ b.size) (hrest : b.rest = c :: l) :
    (c = 0 → readString host (fuel + 1) value b = .ok value (b.skip 1)) ∧
      (c ≠ 0 → ∀ value' : CString, value'.val = value.val ++ [c] →
        readString host (fuel + 1) value b = readString host fuel value' (b.skip 1)) := by
  have hlt : b.rpos < b.size := by
    have hlen := b.length_rest
    rw [hrest, length_cons] at hlen
    omega
  have hread := read_of_rest (l := [c]) host hb hrest
  have hc : Fin.ofNat 256 (ofLE [c]) = c := by
    refine Fin.ext ?_
    change (c.val + 256 * 0) % 256 = c.val
    rw [mul_zero, add_zero, Nat.mod_eq_of_lt c.isLt]
  rw [length_singleton] at hread
  constructor
  · intro h
    rw [readString, if_pos hlt, hread, bind_ok, dif_pos (hc.trans h)]
  · intro h value' hvalue'
    rw [readString, if_pos hlt, hread, bind_ok, dif_neg fun h' => h (hc.symm.trans h')]
    congr 1
    refine Subtype.ext ?_
    change value.val ++ [Fin.ofNat 256 (ofLE [c])] = value'.val
    rw [hc, hvalue']

theorem readString_append {b : ByteBuffer} (hv : v.val = value.val ++ l)
    (hb : b.rpos ≤ b.size) (hrest : b.rest = l ++ post) (fuel : Nat) :
    readString host (l.length + fuel) value b = readString host fuel v (b.skip l.length) := by
  induction l generalizing value b with
  | nil =>
    have heq : value = v := Subtype.ext (by rw [hv, append_nil])
    rw [heq, length_nil, zero_add]
    rfl
  | cons c l ih =>
    have hc : c ≠ 0 := v.2 c (by rw [hv]; simp)
    set value' : CString := ⟨value.val ++ [c], by
      intro a ha
      rcases mem_append.1 ha with ha | ha
      · exact value.2 a ha
      · exact mem_singleton.1 ha ▸ hc⟩
    have hnext := @ih value' (b.skip 1) (by rw [hv]; simp [value'])
      (rpos_skip_le (l := [c]) hb hrest) (rest_skip (l := [c]) hrest)
    rw [length_cons, add_right_comm, (readString_succ hb hrest).2 hc value' rfl, hnext, skip_skip, add_comm 1]

theorem readString_terminated {b : ByteBuffer} (hv : v.val = value.val ++ l) (hb : b.rpos ≤ b.size)
    (hrest : b.rest = l ++ 0 :: post) (hfuel : l.length < fuel) :
    readString host fuel value b = .ok v (b.skip (l.length + 1)) := by
  obtain ⟨fuel, rfl⟩ := Nat.exists_eq_add_of_lt hfuel
  rw [add_assoc, readString_append hv hb hrest]
  exact (readString_succ (rpos_skip_le hb hrest) (rest_skip hrest)).1 rfl

theorem readString_unterminated
    {b : ByteBuffer} (hv : v.val = value.val ++ l) (hb : b.rpos ≤ b.size) (hrest : b.rest = l)
    (hfuel : l.length = fuel) : readString host fuel value b = .ok v (b.skip l.length) := by
  rw [← hfuel]
  exact readString_append hv hb (hrest.trans (append_nil l).symm) 0

theorem readString_safe (host : Host) (fuel : Nat) (value : CString) (b : ByteBuffer) :
    readString host fuel value b ≠ .fault := by
  induction fuel generalizing value b with
  | zero => nofun
  | succ fuel ih =>
    rw [readString]
    split
    · refine bind_ne_fault (b.read_ne_fault host 1) fun c b => ?_
      split
      · nofun
      · exact ih _ _
    · nofun

theorem sound_string (host : Host) : Sound (string.write host) (string.read host) Spec.string where
  enc_ne v := by simp [Spec.string]
  write {v b b'} hb hw := by
    obtain ⟨b₁, hv, hnul⟩ := bind_eq_some_iff.1 hw
    obtain ⟨rfl, -⟩ := append_eq_some hb hv
    obtain ⟨rfl, hsize⟩ := appendInt_eq_some (by decide) (wpos_extend hb _) hnul
    rw [size_extend] at hsize
    exact ⟨extend_extend _ _, by omega, trivial⟩
  read {v b post} _ _ hb hrest := by
    have hfuel : v.val.length < b.size - b.rpos := by
      rw [← length_rest, hrest]
      simp [Spec.string]
    have hlen : (Spec.string.enc v).length = v.val.length + 1 := by simp [Spec.string]
    have hsplit : b.rest = v.val ++ 0 :: post := by
      rw [hrest]
      simp [Spec.string]
    rw [hlen]
    exact readString_terminated rfl hb hsplit hfuel
  cut {v b n} _ _ hb hn hrest := by
    right
    have hlen : (Spec.string.enc v).length = v.val.length + 1 := by simp [Spec.string]
    have hsplit : b.rest = v.val.take n := by
      rw [hrest]
      exact take_append_of_le_length (by omega)
    refine ⟨⟨v.val.take n, fun c hc => v.2 c (mem_of_mem_take hc)⟩, ?_, List.take_prefix n v.val⟩
    rw [← skip_eq_atEnd hb hsplit]
    exact readString_unterminated rfl hb hsplit (by rw [← length_rest, hsplit])
  blank {b} hb := by
    right
    refine ⟨⟨[], ne_zero_of_mem_nil⟩, ?_, rfl⟩
    change readString host (b.size - b.rpos) _ b = _
    rw [hb, Nat.sub_self]
    rfl
  safe b := readString_safe host _ _ b

/-! ## Containers -/

theorem sound_counted {α β : Type} {put : α → ByteBuffer → Option ByteBuffer}
    {get : ByteBuffer → Outcome α} {s : Spec α} (h : Sound put get s) (toList : β → List α)
    (ofList : List α → β) (hof : ∀ v, ofList (toList v) = v) {read : Nat → ByteBuffer → Outcome β}
    (hread : ∀ n b, read n b = (Codec.readLoop get n b).bind fun xs b => .ok (ofList xs) b) :
    Sound (fun v b => (b.appendInt host 4 (toList v).length).bind (Codec.writeLoop put (toList v)))
      (fun b => (b.read host 4).bind read)
      { enc := fun v => leBytes 4 (toList v).length ++ (toList v).flatMap s.enc
        noBool := fun v => ∀ x ∈ toList v, s.noBool x
        fits := fun v => (toList v).length < 256 ^ 4 ∧ ∀ x ∈ toList v, s.fits x
        cut := fun v v' => ∃ xs', CutList s.cut s.blank (toList v) xs' ∧ v' = ofList xs'
        blank := fun _ => False } where
  enc_ne v hnil := by
    have hlen := congrArg length hnil
    rw [length_append, length_leBytes, length_nil] at hlen
    omega
  write {v b b'} hb hw := by
    obtain ⟨b₁, hlen, hloop⟩ := bind_eq_some_iff.1 hw
    obtain ⟨rfl, hsize⟩ := appendInt_eq_some (by decide) hb hlen
    obtain ⟨rfl, hcount, hfits⟩ := h.writeLoop (wpos_extend hb _) hloop
    refine ⟨extend_extend _ _, hsize, ?_, hfits⟩
    -- every element takes a byte of a buffer of limited size
    by_cases hne : toList v = []
    · rw [hne, length_nil]
      decide
    · have hle := hcount hne
      have hlt : (10000000 : Nat) < 256 ^ 4 := by decide
      omega
  read {v b post} hnoBool hfits hb hrest := by
    rw [append_assoc] at hrest
    have hlen := read_of_rest host hb hrest
    have hskip := rest_skip hrest
    have hle := rpos_skip_le hb hrest
    rw [length_leBytes, ofLE_leBytes, Nat.mod_eq_of_lt hfits.1] at hlen
    rw [length_leBytes] at hskip hle
    rw [hlen, bind_ok, hread, h.readLoop (fun x hx => ⟨hnoBool x hx, hfits.2 x hx⟩) hle hskip, bind_ok, hof,
      skip_skip, length_append, length_leBytes]
  cut {v b n} hnoBool hfits hb hn hrest := by
    rcases take_append_cases hn hrest with ⟨hlt, hsplit⟩ | ⟨m, hm, -, hsplit⟩
    · left
      refine Throws.bind (read_short ?_) _
      rw [hsplit, length_take]
      rw [length_leBytes] at hlt
      omega
    · have hlen := read_of_rest host hb hsplit
      have hskip := rest_skip hsplit
      have hle := rpos_skip_le hb hsplit
      rw [length_leBytes, ofLE_leBytes, Nat.mod_eq_of_lt hfits.1] at hlen
      rw [length_leBytes] at hskip hle
      rw [hlen, bind_ok, hread]
      rcases h.readLoop_cut (fun x hx => ⟨hnoBool x hx, hfits.2 x hx⟩) hle hm hskip with
        hthrows | ⟨xs', hxs', hcut⟩
      · exact .inl (hthrows.bind _)
      · exact .inr ⟨ofList xs', by rw [hxs']; rfl, xs', hcut, rfl⟩
  blank {b} hb := by
    left
    refine Throws.bind (read_short ?_) _
    rw [length_rest]
    omega
  safe b := by
    refine bind_ne_fault (b.read_ne_fault host 4) fun n b => ?_
    rw [hread]
    exact bind_ne_fault (h.readLoop_safe n b) nofun

/-- `std::vector` and `std::list`. -/
def Spec.sequence {α : Type} (s : Spec α) : Spec (List α) where
  enc v := leBytes 4 v.length ++ v.flatMap s.enc
  noBool v := ∀ x ∈ v, s.noBool x
  fits v := v.length < 256 ^ 4 ∧ ∀ x ∈ v, s.fits x
  cut v v' := ∃ xs', CutList s.cut s.blank v xs' ∧ v' = xs'
  blank _ := False

theorem sound_sequence {c : Codec} {s : Spec c.α} (h : Sound (c.write host) (c.read host) s) :
    Sound ((sequence c).write host) ((sequence c).read host) s.sequence := by
  refine sound_counted h id id (fun _ => rfl) fun n b => ?_
  cases Codec.readLoop (c.read host) n b <;> rfl

def Spec.pair {α β : Type} (s : Spec α) (t : Spec β) : Spec (α × β) where
  enc e := s.enc e.1 ++ t.enc e.2
  noBool e := s.noBool e.1 ∧ t.noBool e.2
  fits e := s.fits e.1 ∧ t.fits e.2
  cut e e' := e'.1 = e.1 ∧ t.cut e.2 e'.2 ∨ s.cut e.1 e'.1 ∧ t.blank e'.2
  blank e := s.blank e.1 ∧ t.blank e.2

/-- `b >> k >> v`. -/
def readPair {k v : Codec} (host : Host) (b : ByteBuffer) : Outcome (k.α × v.α) :=
  (k.read host b).bind fun key b => (v.read host b).bind fun value b => .ok (key, value) b

variable {v k : Codec}

theorem sound_pair {s : Spec k.α} {t : Spec v.α}
    (hk : Sound (k.write host) (k.read host) s) (hv : Sound (v.write host) (v.read host) t) :
    Sound (fun e b => (k.write host e.1 b).bind (v.write host e.2)) (readPair host) (s.pair t) where
  enc_ne e := by
    unfold Spec.pair
    simp [hk.enc_ne e.1]
  write {e b b'} hb hw := by
    obtain ⟨b₁, hkey, hvalue⟩ := bind_eq_some_iff.1 hw
    obtain ⟨rfl, hsize, hfits⟩ := hk.write hb hkey
    obtain ⟨rfl, -, hfits'⟩ := hv.write (wpos_extend hb _) hvalue
    exact ⟨extend_extend _ _, hsize, hfits, hfits'⟩
  read {e b post} hnoBool hfits hb hrest := by
    unfold Spec.pair at hrest ⊢
    rw [append_assoc] at hrest
    unfold readPair
    rw [hk.read hnoBool.1 hfits.1 hb hrest, bind_ok,
      hv.read hnoBool.2 hfits.2 (rpos_skip_le hb hrest) (rest_skip hrest),
      bind_ok, skip_skip, length_append]
  cut {e b n} hnoBool hfits hb hn hrest := by
    unfold readPair
    rcases take_append_cases hn hrest with ⟨hlt, hsplit⟩ | ⟨m, hm, -, hsplit⟩
    · rcases hk.cut hnoBool.1 hfits.1 hb hlt hsplit with hthrows | ⟨key', hkey', hcut⟩
      · exact .inl (hthrows.bind _)
      · rw [hkey', bind_ok]
        rcases hv.blank (b := b.atEnd) rfl with hthrows | ⟨value', hvalue', hblank⟩
        · exact .inl (hthrows.bind _)
        · exact .inr ⟨(key', value'), by rw [hvalue']; rfl, .inr ⟨hcut, hblank⟩⟩
    · rw [hk.read hnoBool.1 hfits.1 hb hsplit, bind_ok]
      rcases hv.cut hnoBool.2 hfits.2 (rpos_skip_le hb hsplit) hm
        (rest_skip hsplit) with hthrows | ⟨value', hvalue', hcut⟩
      · exact .inl (hthrows.bind _)
      · exact .inr ⟨(e.1, value'), by rw [hvalue']; rfl, .inl ⟨rfl, hcut⟩⟩
  blank {b} hb := by
    unfold readPair
    rcases hk.blank hb with hthrows | ⟨key, hkey, hblank⟩
    · exact .inl (hthrows.bind _)
    · rw [hkey, bind_ok]
      rcases hv.blank hb with hthrows | ⟨value, hvalue, hblank'⟩
      · exact .inl (hthrows.bind _)
      · exact .inr ⟨(key, value), by rw [hvalue]; rfl, hblank, hblank'⟩
  safe b := bind_ne_fault (hk.safe b) fun _ b => bind_ne_fault (hv.safe b) nofun

def ofPairs {k v : Codec} (es : List (k.α × v.α)) : Codec.Map k v := es.foldl insertNew .empty

theorem foldl_insertNew {es : List (k.α × v.α)} {m : Codec.Map k v}
    (h : (m.entries ++ es).Pairwise fun a b => a.1 < b.1) :
    (es.foldl insertNew m).entries = m.entries ++ es := by
  induction es generalizing m with
  | nil => rw [foldl_nil, append_nil]
  | cons e es ih =>
    have hlast : ∀ e' ∈ m.entries, e'.1 < e.1 := fun e' he' =>
      (pairwise_append.1 h).2.2 e' he' e mem_cons_self
    have hnew : m.contains e.1 = false := by
      rw [Bool.eq_false_iff]
      intro hkey
      obtain ⟨e', he', heq⟩ := mem_map.1 (OrdMap.contains_iff.1 hkey)
      exact absurd heq (hlast e' he').ne
    have hinsert : ∀ l : List (k.α × v.α), (∀ e' ∈ l, e'.1 < e.1) → OrdMap.insertL e.1 e.2 l = l ++ [e] := by
      intro l hl
      induction l with
      | nil => rfl
      | cons e' l ihl =>
        have hlt := hl e' mem_cons_self
        unfold OrdMap.insertL
        rw [if_neg hlt.not_gt, if_neg hlt.ne, ihl fun e'' he'' => hl e'' (mem_cons_of_mem e' he'')]
        rfl
    have hentries : (insertNew m e).entries = m.entries ++ [e] := by
      unfold insertNew
      rw [hnew]
      exact hinsert m.entries hlast
    rw [foldl_cons, ih (by rwa [hentries, append_assoc]), hentries, append_assoc]
    rfl

theorem ofPairs_entries (m : Codec.Map k v) : ofPairs m.entries = m :=
  OrdMap.ext (foldl_insertNew (m := .empty) m.sorted)

theorem readMap_eq (host : Host) (n : Nat) (m : Codec.Map k v) (b : ByteBuffer) :
    readMap host n m b =
      (Codec.readLoop (readPair host) n b).bind fun es b => .ok (es.foldl insertNew m) b := by
  induction n generalizing m b with
  | zero => rfl
  | succ n ih =>
    rw [readMap, Codec.readLoop]
    unfold readPair
    cases k.read host b with
    | throws e => rfl
    | fault => rfl
    | ok key b =>
      simp only [bind_ok]
      cases v.read host b with
      | throws e => rfl
      | fault => rfl
      | ok value b =>
        simp only [bind_ok]
        rw [ih]
        cases hloop : Codec.readLoop (readPair host) n b with
        | throws e =>
          unfold readPair at hloop
          rw [hloop]
          rfl
        | fault =>
          unfold readPair at hloop
          rw [hloop]
          rfl
        | ok es b =>
          unfold readPair at hloop
          rw [hloop]
          rfl

def Spec.map {k v : Codec} (s : Spec k.α) (t : Spec v.α) : Spec (Codec.Map k v) where
  enc m := leBytes 4 m.entries.length ++ m.entries.flatMap (s.pair t).enc
  noBool m := ∀ e ∈ m.entries, (s.pair t).noBool e
  fits m := m.entries.length < 256 ^ 4 ∧ ∀ e ∈ m.entries, (s.pair t).fits e
  cut m m' := ∃ es', CutList (s.pair t).cut (s.pair t).blank m.entries es' ∧ m' = ofPairs es'
  blank _ := False

theorem sound_map {s : Spec k.α} {t : Spec v.α}
    (hk : Sound (k.write host) (k.read host) s) (hv : Sound (v.write host) (v.read host) t) :
    Sound ((map k v).write host) ((map k v).read host) (s.map t) :=
  sound_counted (sound_pair hk hv) (fun m : Codec.Map k v => m.entries) ofPairs ofPairs_entries fun n b => readMap_eq host n .empty b

/-! ## Packed GUIDs -/

variable {M : Nat} {is : List Nat}

theorem unpackLoop_none (h : ∀ j ∈ is, M.testBit j = false)
    (guid : Nat) (b : ByteBuffer) : unpackLoop host M is guid b = .ok guid b := by
  induction is with
  | nil => rfl
  | cons i is ih =>
    rw [unpackLoop, h i mem_cons_self]
    exact ih fun j hj => h j (mem_cons_of_mem i hj)

theorem unpackLoop_byte {i : Nat} {guid : Nat} {b : ByteBuffer} {d : Byte}
    (hbit : M.testBit i = true) (hguid : guid < 256 ^ i) (hb : b.rpos ≤ b.size) (hrest : b.rest = d :: l) :
    unpackLoop host M (i :: is) guid b = unpackLoop host M is (guid + 256 ^ i * d.val) (b.skip 1) := by
  have hlen := b.length_rest
  rw [hrest, length_cons] at hlen
  have hread := read_of_rest (l := [d]) host hb hrest
  rw [length_singleton] at hread
  have hpow : 2 ^ (i * 8) = 256 ^ i := by
    rw [Nat.mul_comm, Nat.pow_mul]
  have hor : guid ||| ofLE [d] <<< (i * 8) = guid + 256 ^ i * d.val := by
    rw [Nat.or_comm, ← Nat.shiftLeft_add_eq_or_of_lt (hpow.symm ▸ hguid), Nat.shiftLeft_eq, hpow]
    change (d.val + 256 * 0) * 256 ^ i + guid = _
    rw [mul_zero, add_zero, Nat.mul_comm, add_comm]
  rw [unpackLoop, if_pos hbit, if_neg (by omega), hread, bind_ok, hor]

theorem unpackLoop_throws {i : Nat} {guid : Nat} {b : ByteBuffer}
    (hbit : M.testBit i = true) (hrest : b.rest = []) : Throws (unpackLoop host M (i :: is) guid b) := by
  have hlen := b.length_rest
  rw [hrest, length_nil] at hlen
  rw [unpackLoop, if_pos hbit, if_pos (by omega)]
  exact ⟨_, rfl⟩

theorem unpackLoop_safe (host : Host) (M : Nat) (is : List Nat) (guid : Nat) (b : ByteBuffer) :
    unpackLoop host M is guid b ≠ .fault := by
  induction is generalizing guid b with
  | nil => nofun
  | cons i is ih =>
    rw [unpackLoop]
    split
    · split
      · nofun
      · exact bind_ne_fault (b.read_ne_fault host 1) fun bit b => ih _ b
    · exact ih guid b

theorem packLoop_spec (host : Host) (f : Nat) : ∀ (i g mask : Nat) (out : List Byte), i + f = 8 →
    g < 256 ^ f → mask < 2 ^ i → ∃ M tail, packLoop f i g mask out = (M, out ++ tail) ∧ M < 256 ∧
      (∀ j < i, M.testBit j = mask.testBit j) ∧
      (∀ {guid b post}, guid < 256 ^ i → b.rpos ≤ b.size → b.rest = tail ++ post →
        unpackLoop host M (List.range' i f) guid b = .ok (guid + 256 ^ i * g) (b.skip tail.length)) ∧
      ∀ {guid b n}, guid < 256 ^ i → b.rpos ≤ b.size → n < tail.length → b.rest = tail.take n →
        Throws (unpackLoop host M (List.range' i f) guid b) := by
  have hnone : ∀ {i mask : Nat} (f : Nat), mask < 2 ^ i → ∀ j ∈ List.range' i f, mask.testBit j = false := by
    intro i mask f hmask j hj
    rw [mem_range'_1] at hj
    exact Nat.testBit_lt_two_pow (hmask.trans_le (Nat.pow_le_pow_right (by decide) hj.1))
  have hmaskLt : ∀ {i mask : Nat}, i ≤ 8 → mask < 2 ^ i → mask < 256 := fun hi hmask =>
    hmask.trans_le (Nat.pow_le_pow_right (by decide) hi)
  induction f with
  | zero =>
    intro i g mask out hi hg hmask
    have hzero : g = 0 := by simpa using hg
    refine ⟨mask, [], by rw [packLoop, append_nil], hmaskLt (by omega) hmask, fun _ _ => rfl,
      fun {guid b post} _ _ _ => ?_, fun {guid b n} _ _ hn => absurd hn (Nat.not_lt_zero n)⟩
    rw [hzero]
    rfl
  | succ f ih =>
    intro i g mask out hi hg hmask
    have hpow : 256 ^ (i + 1) = 256 ^ i * 256 := pow_succ 256 i
    have hgdiv : g / 256 < 256 ^ f := by
      exact Nat.div_lt_of_lt_mul (by omega)
    rw [packLoop, range'_succ]
    by_cases hzero : g = 0
    · rw [if_pos hzero]
      refine ⟨mask, [], by rw [append_nil], hmaskLt (by omega) hmask, fun _ _ => rfl,
        fun {guid b post} _ _ _ => ?_, fun {guid b n} _ _ hn => absurd hn (Nat.not_lt_zero n)⟩
      rw [← range'_succ, unpackLoop_none (hnone (f + 1) hmask), hzero]
      rfl
    · rw [if_neg hzero]
      by_cases hdigit : g % 256 = 0
      · rw [if_pos hdigit]
        obtain ⟨M, tail, heq, hM, hbits, hread, hcut⟩ := ih (i + 1) (g / 256) mask out (by omega) hgdiv
          (hmask.trans_le (Nat.pow_le_pow_right (by decide) (Nat.le_succ i)))
        have hbit : M.testBit i = false := by
          rw [hbits i (Nat.lt_succ_self i)]
          exact Nat.testBit_lt_two_pow hmask
        have hskip : ∀ guid b, unpackLoop host M (i :: List.range' (i + 1) f) guid b =
            unpackLoop host M (List.range' (i + 1) f) guid b := by
          intro guid b
          rw [unpackLoop, hbit, if_neg Bool.false_ne_true]
        refine ⟨M, tail, heq, hM, fun j hj => hbits j (by omega), fun {guid b post} hguid hb hrest => ?_,
          fun {guid b n} hguid hb hn hrest => ?_⟩
        · rw [hskip, hread (by omega) hb hrest, hpow, mul_assoc]
          congr 3
          omega
        · rw [hskip]
          exact hcut (by omega) hb hn hrest
      · rw [if_neg hdigit]
        have hshift : (1 <<< i) % 256 = 2 ^ i := by
          rw [Nat.one_shiftLeft, Nat.mod_eq_of_lt]
          exact (Nat.pow_lt_pow_right (by decide) (show i < 8 by omega))
        have hmask' : mask ||| 2 ^ i < 2 ^ (i + 1) := by
          refine Nat.or_lt_two_pow (hmask.trans_le (Nat.pow_le_pow_right (by decide) (Nat.le_succ i))) ?_
          exact Nat.pow_lt_pow_right (by decide) (Nat.lt_succ_self i)
        rw [hshift]
        obtain ⟨M, tail, heq, hM, hbits, hread, hcut⟩ := ih (i + 1) (g / 256) (mask ||| 2 ^ i)
          (out ++ [Fin.ofNat 256 g]) (by omega) hgdiv hmask'
        have hbit : M.testBit i = true := by
          rw [hbits i (Nat.lt_succ_self i), Nat.testBit_or, Nat.testBit_two_pow_self, Bool.or_true]
        have hval : (Fin.ofNat 256 g : Byte).val = g % 256 := rfl
        have hguid' : ∀ {guid : Nat}, guid < 256 ^ i → guid + 256 ^ i * (g % 256) < 256 ^ (i + 1) := by
          intro guid hguid
          have hmul : 256 ^ i * (g % 256) ≤ 256 ^ i * 255 := Nat.mul_le_mul_left _ (by omega)
          omega
        refine ⟨M, Fin.ofNat 256 g :: tail, by rw [heq, append_assoc]; rfl, hM, fun j hj => ?_,
          fun {guid b post} hguid hb hrest => ?_, fun {guid b n} hguid hb hn hrest => ?_⟩
        · rw [hbits j (by omega), Nat.testBit_or, Nat.testBit_two_pow_of_ne (by omega), Bool.or_false]
        · have hnext := @hread _ (b.skip 1) post (hguid' hguid) (rpos_skip_le (l := [Fin.ofNat 256 g]) hb hrest)
            (rest_skip (l := [Fin.ofNat 256 g]) hrest)
          rw [unpackLoop_byte hbit hguid hb hrest, hval, hnext, skip_skip, hpow]
          congr 1
          · rw [add_assoc, mul_assoc, ← mul_add, Nat.mod_add_div]
          · rw [length_cons, add_comm]
        · cases n with
          | zero => exact unpackLoop_throws hbit hrest
          | succ n =>
            rw [unpackLoop_byte hbit hguid hb hrest]
            exact hcut (hguid' hguid) (rpos_skip_le (l := [Fin.ofNat 256 g]) hb hrest)
              (by simpa using hn) (rest_skip (l := [Fin.ofNat 256 g]) hrest)

def Spec.packGUID : Spec (Fin (256 ^ 8)) where
  enc guid := Fin.ofNat 256 (packLoop 8 0 guid.val 0 []).1 :: (packLoop 8 0 guid.val 0 []).2
  noBool _ := True
  fits _ := True
  cut _ _ := False
  blank _ := False

theorem enc_packGUID {guid : Fin (256 ^ 8)} {tail : List Byte}
    (h : packLoop 8 0 guid.val 0 [] = (M, [] ++ tail)) : Spec.packGUID.enc guid = Fin.ofNat 256 M :: tail := by
  unfold Spec.packGUID
  dsimp only
  rw [h]
  rfl

theorem ofLE_singleton (hM : M < 256) : ofLE [Fin.ofNat 256 M] = M := by
  change M % 256 + 256 * 0 = M
  rw [Nat.mod_eq_of_lt hM, mul_zero, add_zero]

theorem sound_packGUID (host : Host) : Sound (packGUID.write host) (packGUID.read host) Spec.packGUID where
  enc_ne guid := cons_ne_nil _ _
  write {guid b b'} hb hw := by
    have happend : b.append (Spec.packGUID.enc guid) = some b' := hw
    obtain ⟨heq, hsize⟩ := append_eq_some hb happend
    exact ⟨heq, hsize (cons_ne_nil _ _), trivial⟩
  read {guid b post} _ _ hb hrest := by
    obtain ⟨M, tail, heq, hM, -, hread, -⟩ := packLoop_spec host 8 0 guid.val 0 [] rfl guid.isLt (by decide)
    rw [enc_packGUID heq] at hrest ⊢
    have hlen := b.length_rest
    rw [hrest, cons_append, length_cons] at hlen
    have hmark := read_of_rest (l := [Fin.ofNat 256 M]) host hb hrest
    have hskip := rest_skip (l := [Fin.ofNat 256 M]) hrest
    have hle := rpos_skip_le (l := [Fin.ofNat 256 M]) hb hrest
    rw [ofLE_singleton hM, length_singleton] at hmark
    have hloop := @hread 0 (b.skip 1) post (by decide) hle hskip
    unfold packGUID
    dsimp only
    rw [if_neg (by omega), hmark, bind_ok, range_eq_range', hloop, bind_ok, skip_skip]
    congr 1
    · refine Fin.ext ?_
      change (0 + 256 ^ 0 * guid.val) % 256 ^ 8 = guid.val
      rw [pow_zero, one_mul, zero_add, Nat.mod_eq_of_lt guid.isLt]
    · rw [length_cons, add_comm]
  cut {guid b n} _ _ hb hn hrest := by
    left
    obtain ⟨M, tail, heq, hM, -, -, hcut⟩ := packLoop_spec host 8 0 guid.val 0 [] rfl guid.isLt (by decide)
    rw [enc_packGUID heq] at hn hrest
    have hlen := b.length_rest
    unfold packGUID
    dsimp only
    cases n with
    | zero =>
      rw [hrest, take_zero, length_nil] at hlen
      rw [if_pos (by omega)]
      exact ⟨_, rfl⟩
    | succ n =>
      rw [take_succ_cons] at hrest
      rw [hrest, length_cons] at hlen
      have hmark := read_of_rest (l := [Fin.ofNat 256 M]) host hb hrest
      have hskip := rest_skip (l := [Fin.ofNat 256 M]) hrest
      have hle := rpos_skip_le (l := [Fin.ofNat 256 M]) hb hrest
      rw [ofLE_singleton hM, length_singleton] at hmark
      rw [if_neg (by omega), hmark]
      exact (@hcut 0 (b.skip 1) n (by decide) hle (by simpa using hn) hskip).bind _
  blank {b} hb := by
    left
    unfold packGUID
    dsimp only
    rw [if_pos (by omega)]
    exact ⟨_, rfl⟩
  safe b := by
    unfold packGUID
    dsimp only
    split
    · nofun
    · exact bind_ne_fault (b.read_ne_fault host 1) fun M b =>
        bind_ne_fault (unpackLoop_safe host M _ 0 b) nofun

/-! ## Sequences of values -/

def Ty.spec : (t : Ty) → Spec t.codec.α
  | .uint w => Spec.uint w
  | .int w => Spec.int w
  | .bool => Spec.bool
  | .string => Spec.string
  | .vector t => t.spec.sequence
  | .list t => t.spec.sequence
  | .map k v => k.spec.map v.spec

theorem Ty.sound (host : Host) (t : Ty) : Sound (t.codec.write host) (t.codec.read host) t.spec := by
  induction t with
  | uint w => exact sound_uint host w
  | int w => exact sound_sint host w
  | bool => exact sound_bool host
  | string => exact sound_string host
  | vector t ih => exact sound_sequence ih
  | list t ih => exact sound_sequence ih
  | map k v ihk ihv => exact sound_map ihk ihv

def Kind.spec : (k : Kind) → Spec k.codec.α
  | .value t => t.spec
  | .packGUID => Spec.packGUID

theorem Kind.sound (host : Host) (k : Kind) : Sound (k.codec.write host) (k.codec.read host) k.spec := by
  cases k with
  | value t => exact t.sound host
  | packGUID => exact sound_packGUID host

namespace Field

def enc (f : Field) : List Byte := f.kind.spec.enc f.value

/-- No `bool` is in the value. -/
def NoBool (f : Field) : Prop := f.kind.spec.noBool f.value

/-- What is read of a value that is cut off: the same up to a string, and a prefix of that string. -/
inductive Cut : Field → Field → Prop where
  | mk {k : Kind} {v v' : k.codec.α} (h : k.spec.cut v v') : Cut ⟨k, v⟩ ⟨k, v'⟩

/-- What is read where nothing is left: an empty string. -/
def Blank (f : Field) : Prop := f.kind.spec.blank f.value

end Field

variable {fs : List Field}

theorem writeAll_eq {b b' : ByteBuffer} (hb : b.wpos = b.size) (h : writeAll host fs b = some b') :
    b' = b.extend (fs.flatMap Field.enc) ∧ ∀ f ∈ fs, f.kind.spec.fits f.value := by
  induction fs generalizing b with
  | nil =>
    cases h
    exact ⟨by simp [extend], nofun⟩
  | cons f fs ih =>
    obtain ⟨b₁, hf, hrest⟩ := bind_eq_some_iff.1 h
    obtain ⟨rfl, -, hfits⟩ := (f.kind.sound host).write hb hf
    obtain ⟨rfl, hfitss⟩ := ih (wpos_extend hb _) hrest
    refine ⟨by rw [extend_extend]; rfl, fun f' hf' => ?_⟩
    rcases mem_cons.1 hf' with rfl | hf'
    · exact hfits
    · exact hfitss f' hf'

theorem readAll_eq {b : ByteBuffer}
    (hfs : ∀ f ∈ fs, f.NoBool ∧ f.kind.spec.fits f.value) (hb : b.rpos ≤ b.size)
    (hrest : b.rest = fs.flatMap Field.enc ++ post) :
    readAll host (fs.map (·.kind)) b = .ok fs (b.skip (fs.flatMap Field.enc).length) := by
  induction fs generalizing b with
  | nil => rfl
  | cons f fs ih =>
    rw [flatMap_cons, append_assoc] at hrest
    obtain ⟨hnoBool, hfits⟩ := hfs f mem_cons_self
    have hf := (f.kind.sound host).read hnoBool hfits hb hrest
    have hnext := ih (fun f' hf' => hfs f' (mem_cons_of_mem f hf')) (rpos_skip_le hb hrest) (rest_skip hrest)
    rw [map_cons, readAll, hf]
    change (readAll host (fs.map (·.kind)) (b.skip f.enc.length)).bind _ = _
    rw [hnext, bind_ok, skip_skip, flatMap_cons, length_append]

theorem readAll_blank (host : Host) {b : ByteBuffer} (hb : b.rpos = b.size) (ks : List Kind) :
    Throws (readAll host ks b) ∨
      ∃ fs, readAll host ks b = .ok fs b ∧ fs.length = ks.length ∧ ∀ f ∈ fs, f.Blank := by
  induction ks with
  | nil => exact .inr ⟨[], rfl, rfl, nofun⟩
  | cons k ks ih =>
    rw [readAll]
    rcases (k.sound host).blank hb with hthrows | ⟨v, hv, hblank⟩
    · exact .inl (hthrows.bind _)
    · rw [hv, bind_ok]
      rcases ih with hthrows | ⟨fs, hfs, hlen, hall⟩
      · exact .inl (hthrows.bind _)
      · refine .inr ⟨⟨k, v⟩ :: fs, by rw [hfs]; rfl, by rw [length_cons, length_cons, hlen], fun f hf => ?_⟩
        rcases mem_cons.1 hf with rfl | hf
        · exact hblank
        · exact hall f hf

theorem readAll_cut {b : ByteBuffer}
    (hfs : ∀ f ∈ fs, f.NoBool ∧ f.kind.spec.fits f.value) (hb : b.rpos ≤ b.size)
    (hn : n < (fs.flatMap Field.enc).length) (hrest : b.rest = (fs.flatMap Field.enc).take n) :
    Throws (readAll host (fs.map (·.kind)) b) ∨
      ∃ fs', readAll host (fs.map (·.kind)) b = .ok fs' b.atEnd ∧ CutList Field.Cut Field.Blank fs fs' := by
  induction fs generalizing b n with
  | nil => exact absurd hn (Nat.not_lt_zero n)
  | cons f fs ih =>
    obtain ⟨hnoBool, hfits⟩ := hfs f mem_cons_self
    rw [map_cons, readAll]
    rcases take_append_cases hn hrest with ⟨hlt, hsplit⟩ | ⟨m, hm, -, hsplit⟩
    · rcases (f.kind.sound host).cut hnoBool hfits hb hlt hsplit with hthrows | ⟨v', hv', hcut⟩
      · exact .inl (hthrows.bind _)
      · rw [hv', bind_ok]
        rcases readAll_blank host (b := b.atEnd) rfl (fs.map (·.kind)) with
          hthrows | ⟨fs', hfs', hlen, hblank⟩
        · exact .inl (hthrows.bind _)
        · exact .inr ⟨⟨f.kind, v'⟩ :: fs', by rw [hfs']; rfl,
            .here (.mk hcut) (hlen.trans (length_map _)) hblank⟩
    · rw [(f.kind.sound host).read hnoBool hfits hb hsplit]
      rcases ih (fun f' hf' => hfs f' (mem_cons_of_mem f hf')) (rpos_skip_le hb hsplit) hm
        (rest_skip hsplit) with hthrows | ⟨fs', hfs', hcut⟩
      · exact .inl (hthrows.bind _)
      · refine .inr ⟨f :: fs', ?_, .later hcut⟩
        change (readAll host (fs.map (·.kind)) (b.skip f.enc.length)).bind _ = _
        rw [hfs']
        rfl

/-- A buffer with the first `n` bytes. -/
def ByteBuffer.take (b : ByteBuffer) (n : Nat) : ByteBuffer :=
  { storage := b.storage.take n, rpos := 0, wpos := n }

/-- The buffer that some values were written to gives them back and is read to its end. A proper prefix of
it throws, or the values agree up to a string that is cut off, behind which there are only strings, which
are empty. -/
structure RoundTrip (host : Host) (fs : List Field) (b : ByteBuffer) : Prop where
  full : readAll host (fs.map (·.kind)) b = .ok fs b.atEnd
  wpos : b.wpos = b.size
  proper : ∀ n < b.size, Throws (readAll host (fs.map (·.kind)) (b.take n)) ∨
    ∃ fs', readAll host (fs.map (·.kind)) (b.take n) = .ok fs' (b.take n).atEnd ∧
      CutList Field.Cut Field.Blank fs fs'

/-- **What is written is read again**, unless a `bool` was written. -/
theorem roundTrip_of_noBool {host : Host} {fs : List Field} {b : ByteBuffer}
    (hw : writeAll host fs {} = some b) (hfs : ∀ f ∈ fs, f.NoBool) : RoundTrip host fs b := by
  obtain ⟨rfl, hfits⟩ := writeAll_eq rfl hw
  have hall : ∀ f ∈ fs, f.NoBool ∧ f.kind.spec.fits f.value := fun f hf => ⟨hfs f hf, hfits f hf⟩
  set b := extend {} (fs.flatMap Field.enc) with hb
  have hstorage : b.storage = fs.flatMap Field.enc := nil_append _
  refine ⟨?_, wpos_extend rfl _, fun n hn => ?_⟩
  · have hrest : b.rest = fs.flatMap Field.enc ++ [] := by
      rw [append_nil]
      exact hstorage
    rw [readAll_eq hall (Nat.zero_le _) hrest]
    congr 1
    exact skip_eq_atEnd (Nat.zero_le _) hstorage
  · have hlen : b.size = (fs.flatMap Field.enc).length := congrArg length hstorage
    refine readAll_cut hall (Nat.zero_le _) (hlen ▸ hn) ?_
    change b.storage.take n = _
    rw [hstorage]

/-- `true` is written as four bytes, of which one is read. -/
theorem bool_roundTrip_fails :
    writeAll .littleEndian [⟨.value .bool, true⟩] {} =
        some { storage := [1, 0, 0, 0], rpos := 0, wpos := 4 } ∧
      ¬ RoundTrip .littleEndian [⟨.value .bool, true⟩]
        { storage := [1, 0, 0, 0], rpos := 0, wpos := 4 } := by
  refine ⟨rfl, fun h => ?_⟩
  have hend : ({ storage := [1, 0, 0, 0], rpos := 1, wpos := 4 } : ByteBuffer) =
      { storage := [1, 0, 0, 0], rpos := 4, wpos := 4 } := (ok.inj h.full).2
  exact absurd hend (by decide)

def mixedFields : List Field :=
  [⟨.value (.int .w16), ⟨-2, by decide, by decide⟩⟩,
    ⟨.value .string, ⟨[97, 98], by simp⟩⟩,
    ⟨.value (.list .string), [⟨[120], by simp⟩, ⟨[], ne_zero_of_mem_nil⟩]⟩,
    ⟨.value (.map (.uint .w8) .string), ⟨[((1 : Fin 256), ⟨[97], by simp⟩)], pairwise_singleton _ _⟩⟩,
    ⟨.packGUID, (4294967301 : Fin (256 ^ 8))⟩]

theorem mixedFields_roundTrip :
    ∃ b, writeAll .bigEndian mixedFields {} = some b ∧ RoundTrip .bigEndian mixedFields b := by
  refine ⟨_, rfl, roundTrip_of_noBool rfl ?_⟩
  refine forall_mem_cons.2 ⟨trivial, forall_mem_cons.2 ⟨trivial, forall_mem_cons.2
    ⟨fun _ _ => trivial, forall_mem_cons.2 ⟨fun _ _ => ⟨trivial, trivial⟩, ?_⟩⟩⟩⟩
  exact forall_mem_singleton.2 trivial

end Axium.Packets
