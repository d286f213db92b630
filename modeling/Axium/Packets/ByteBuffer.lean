import Axium.Lib.OrdMap
import Mathlib.Data.List.Lex
import Mathlib.Data.Prod.Lex
import Mathlib.Data.Nat.Bitwise
import Mathlib.Order.Fin.Basic

/-!
# The byte buffer

`ByteBuffer` with its two cursors, and the operators that write a value to it and read one from it. A type
that both operators exist for is a `Codec`: fixed-width integers, `bool`, strings and containers of them.

A write returns nothing where the assertion on the size of the buffer fails. A read returns a value, throws
`ByteBufferException`, or faults: it accessed a byte outside the storage.
-/

namespace Axium.Packets

/-- `uint8`. -/
abbrev Byte := Fin 256

/-! ## Byte order -/

/-- `AXIUM_ENDIAN`. -/
inductive Host where
  | littleEndian
  | bigEndian
deriving DecidableEq, Repr

/-- The `n` lowest bytes of a number, the lowest one first. -/
def leBytes : Nat → Nat → List Byte
  | 0, _ => []
  | n + 1, v => Fin.ofNat 256 v :: leBytes n (v / 256)

/-- The number with the given bytes, the lowest one first. -/
def ofLE : List Byte → Nat
  | [] => 0
  | a :: l => a.val + 256 * ofLE l

def image (host : Host) (n v : Nat) : List Byte :=
  match host with
  | .littleEndian => leBytes n v
  | .bigEndian => (leBytes n v).reverse

def ofImage (host : Host) (l : List Byte) : Nat :=
  match host with
  | .littleEndian => ofLE l
  | .bigEndian => ofLE l.reverse

/-- `ByteConverter::convert`: it swaps the two ends and goes on between them. -/
def convert : Nat → List Byte → List Byte
  | T + 2, a :: b :: l => (b :: l).getLast (List.cons_ne_nil b l) :: (convert T (b :: l).dropLast ++ [a])
  | _, l => l

def endianConvert (host : Host) (l : List Byte) : List Byte :=
  match host with
  | .littleEndian => l
  | .bigEndian => convert l.length l

/-! ## The buffer -/

structure ByteBuffer where
  storage : List Byte := []
  rpos : Nat := 0
  wpos : Nat := 0
deriving DecidableEq, Repr

structure ByteBufferException where
  add : Bool
  pos : Nat
  esize : Nat
  size : Nat
deriving DecidableEq, Repr

/-- What a read returns, and the buffer after it. -/
inductive Outcome (α : Type) where
  | ok (value : α) (b : ByteBuffer)
  | throws (e : ByteBufferException)
  | fault

namespace Outcome

variable {α β : Type}

def bind (o : Outcome α) (f : α → ByteBuffer → Outcome β) : Outcome β :=
  match o with
  | ok a b => f a b
  | throws e => throws e
  | fault => fault

@[simp] theorem bind_ok (a : α) (b : ByteBuffer) (f : α → ByteBuffer → Outcome β) :
    (ok a b).bind f = f a b := rfl

@[simp] theorem bind_throws (e : ByteBufferException) (f : α → ByteBuffer → Outcome β) :
    (throws e).bind f = throws e := rfl

end Outcome

namespace ByteBuffer

variable (b : ByteBuffer)

def size : Nat := b.storage.length

def resize (n : Nat) (l : List Byte) : List Byte := l ++ List.replicate (n - l.length) 0

/-- `append` of some bytes, with its assertion. -/
def append (src : List Byte) : Option ByteBuffer :=
  if src = [] then some b
  else if b.size < 10000000 then
    let storage :=
      if b.size < b.wpos + src.length then resize (b.wpos + src.length) b.storage else b.storage
    some { b with
      storage := storage.take b.wpos ++ src ++ storage.drop (b.wpos + src.length)
      wpos := b.wpos + src.length }
  else none

/-- `append` of an integer of `n` bytes. -/
def appendInt (host : Host) (n v : Nat) : Option ByteBuffer :=
  b.append (endianConvert host (image host n v))

def load (storage : List Byte) (pos : Nat) : Nat → Option (List Byte)
  | 0 => some []
  | n + 1 => do
    let a ← storage[pos]?
    let l ← load storage (pos + 1) n
    return a :: l

/-- `read` of an integer of `n` bytes. -/
def read (host : Host) (n : Nat) : Outcome Nat :=
  if b.size < b.rpos + n then .throws { add := false, pos := b.rpos, esize := n, size := b.size }
  else
    match load b.storage b.rpos n with
    | none => .fault
    | some l => .ok (ofImage host (endianConvert host l)) { b with rpos := b.rpos + n }

end ByteBuffer

/-! ## Operators -/

/-- A type that can be written and read. `order` is `operator<`, by which a map sorts its keys. -/
structure Codec where
  α : Type
  order : LinearOrder α
  write : Host → α → ByteBuffer → Option ByteBuffer
  read : Host → ByteBuffer → Outcome α

instance (c : Codec) : LinearOrder c.α := c.order

inductive Width where
  | w8
  | w16
  | w32
  | w64
deriving DecidableEq, Repr

/-- `sizeof`. -/
def Width.bytes : Width → Nat
  | .w8 => 1
  | .w16 => 2
  | .w32 => 4
  | .w64 => 8

instance neZero_pow (n : Nat) : NeZero (256 ^ n) := ⟨(Nat.pow_pos (by decide)).ne'⟩

instance neZero_guid : NeZero (256 ^ 8) := neZero_pow 8

/-- A signed integer of `n` bytes. -/
abbrev SInt (n : Nat) : Type := { i : Int // -(256 ^ n : Nat) ≤ 2 * i ∧ 2 * i < (256 ^ n : Nat) }

namespace SInt

variable {n : Nat}

def toBits (i : SInt n) : Nat := (i.val % (256 ^ n : Nat)).toNat

def ofBits (n v : Nat) : SInt n :=
  let u := v % 256 ^ n
  if h : 2 * u < 256 ^ n then ⟨u, by omega, by omega⟩
  else
    have hu : u < 256 ^ n := Nat.mod_lt _ (Nat.pos_of_ne_zero (NeZero.ne _))
    ⟨u - (256 ^ n : Nat), by omega, by omega⟩

end SInt

abbrev CString : Type := { s : List Byte // ∀ c ∈ s, c ≠ 0 }

theorem ne_zero_of_mem_nil : ∀ c ∈ ([] : List Byte), c ≠ 0 := nofun

namespace Codec

/-- `operator<<` and `operator>>` of the unsigned integers. -/
def uint (w : Width) : Codec where
  α := Fin (256 ^ w.bytes)
  order := inferInstance
  write host v b := b.appendInt host w.bytes v.val
  read host b := (b.read host w.bytes).bind fun v => .ok (Fin.ofNat _ v)

/-- `operator<<` and `operator>>` of the signed integers. -/
def int (w : Width) : Codec where
  α := SInt w.bytes
  order := inferInstance
  write host v b := b.appendInt host w.bytes v.toBits
  read host b := (b.read host w.bytes).bind fun v => .ok (SInt.ofBits _ v)

/-- `operator>>` of `bool`. There is no `operator<<` of it: a `bool` is promoted to `int`, and that of
`int32` is taken. -/
def bool : Codec where
  α := Bool
  order := inferInstance
  write host v b := b.appendInt host 4 v.toNat
  -- `read<char>() > 0`, of a signed `char`
  read host b := (b.read host 1).bind fun v => .ok (decide (0 < v ∧ v < 128))

/-- The loop of `operator>>` of a string. -/
def readString (host : Host) : Nat → CString → ByteBuffer → Outcome CString
  | 0, value, b => .ok value b
  | fuel + 1, value, b =>
    if b.rpos < b.size then
      (b.read host 1).bind fun c b =>
        if h : Fin.ofNat 256 c = 0 then .ok value b
        else readString host fuel ⟨value.val ++ [Fin.ofNat 256 c], by
          intro a ha
          rcases List.mem_append.1 ha with ha | ha
          · exact value.2 a ha
          · exact List.mem_singleton.1 ha ▸ h⟩ b
    else .ok value b

/-- `operator<<` and `operator>>` of `std::string`. -/
def string : Codec where
  α := CString
  order := inferInstance
  write host v b := (b.append v.val).bind fun b => b.appendInt host 1 0
  read host b := readString host (b.size - b.rpos) ⟨[], ne_zero_of_mem_nil⟩ b

def writeLoop {α : Type} (write : α → ByteBuffer → Option ByteBuffer) :
    List α → ByteBuffer → Option ByteBuffer
  | [], b => some b
  | x :: xs, b => (write x b).bind (writeLoop write xs)

def readLoop {α : Type} (read : ByteBuffer → Outcome α) : Nat → ByteBuffer → Outcome (List α)
  | 0, b => .ok [] b
  | n + 1, b => (read b).bind fun x b => (readLoop read n b).bind fun xs b => .ok (x :: xs) b

def sequence (c : Codec) : Codec where
  α := List c.α
  order := inferInstance
  write host v b := (b.appendInt host 4 v.length).bind (writeLoop (c.write host) v)
  read host b := (b.read host 4).bind fun vsize => readLoop (c.read host) vsize

/-- `operator<<` and `operator>>` of `std::vector`. -/
def vector (c : Codec) : Codec := sequence c

/-- `operator<<` and `operator>>` of `std::list`. -/
def list (c : Codec) : Codec := sequence c

abbrev Map (k v : Codec) : Type := OrdMap k.α v.α

/-- `std::map::insert`, which keeps the value of an old key. -/
def insertNew {k v : Codec} (m : Map k v) (e : k.α × v.α) : Map k v :=
  if m.contains e.1 then m else m.insert e.1 e.2

/-- `operator<` of `std::map`, which compares the entries. -/
abbrev mapOrder (k v : Codec) : LinearOrder (Map k v) :=
  LinearOrder.lift' (fun m : Map k v => m.entries.map (toLex : k.α × v.α → k.α ×ₗ v.α)) fun _ _ h =>
    OrdMap.ext (List.map_injective_iff.2 toLex.injective h)

/-- The loop of `operator>>` of a map. -/
def readMap {k v : Codec} (host : Host) : Nat → Map k v → ByteBuffer → Outcome (Map k v)
  | 0, m, b => .ok m b
  | n + 1, m, b =>
    (k.read host b).bind fun key b =>
      (v.read host b).bind fun value b => readMap host n (insertNew m (key, value)) b

/-- `operator<<` and `operator>>` of `std::map`. -/
def map (k v : Codec) : Codec where
  α := Map k v
  order := mapOrder k v
  write host m b := (b.appendInt host 4 m.entries.length).bind
    (writeLoop (fun e b => (k.write host e.1 b).bind (v.write host e.2)) m.entries)
  read host b := (b.read host 4).bind fun msize => readMap host msize (.empty : Map k v)

/-- The loop of `appendPackGUID`, which ends with the last of the eight bytes. -/
def packLoop : Nat → (i guid mask : Nat) → List Byte → Nat × List Byte
  | 0, _, _, mask, out => (mask, out)
  | fuel + 1, i, guid, mask, out =>
    if guid = 0 then (mask, out)
    else if guid % 256 = 0 then packLoop fuel (i + 1) (guid / 256) mask out
    else packLoop fuel (i + 1) (guid / 256) (mask ||| (1 <<< i) % 256) (out ++ [Fin.ofNat 256 guid])

/-- The loop of `readPackGUID`. -/
def unpackLoop (host : Host) (guidmark : Nat) : List Nat → Nat → ByteBuffer → Outcome Nat
  | [], guid, b => .ok guid b
  | i :: is, guid, b =>
    if guidmark.testBit i then
      if b.size < b.rpos + 1 then .throws { add := false, pos := b.rpos, esize := 1, size := b.size }
      else (b.read host 1).bind fun bit => unpackLoop host guidmark is (guid ||| bit <<< (i * 8))
    else unpackLoop host guidmark is guid b

/-- `appendPackGUID` and `readPackGUID`. -/
def packGUID : Codec where
  α := Fin (256 ^ 8)
  order := inferInstance
  write _ guid b :=
    let (mask, out) := packLoop 8 0 guid.val 0 []
    b.append (Fin.ofNat 256 mask :: out)
  read host b :=
    if b.size < b.rpos + 1 then .throws { add := false, pos := b.rpos, esize := 1, size := b.size }
    else (b.read host 1).bind fun guidmark b =>
      (unpackLoop host guidmark (List.range 8) 0 b).bind fun guid => .ok (Fin.ofNat _ guid)

end Codec

inductive Ty where
  | uint (w : Width)
  | int (w : Width)
  | bool
  | string
  | vector (t : Ty)
  | list (t : Ty)
  | map (k v : Ty)
deriving DecidableEq, Repr

def Ty.codec : Ty → Codec
  | .uint w => .uint w
  | .int w => .int w
  | .bool => .bool
  | .string => .string
  | .vector t => .vector t.codec
  | .list t => .list t.codec
  | .map k v => .map k.codec v.codec

/-- What one call writes or reads: a value by the operators of its type, or a packed GUID. -/
inductive Kind where
  | value (t : Ty)
  | packGUID
deriving DecidableEq, Repr

def Kind.codec : Kind → Codec
  | .value t => t.codec
  | .packGUID => .packGUID

structure Field where
  kind : Kind
  value : kind.codec.α

def writeAll (host : Host) : List Field → ByteBuffer → Option ByteBuffer
  | [], b => some b
  | f :: fs, b => (f.kind.codec.write host f.value b).bind (writeAll host fs)

def readAll (host : Host) : List Kind → ByteBuffer → Outcome (List Field)
  | [], b => .ok [] b
  | k :: ks, b => (k.codec.read host b).bind fun v b =>
    (readAll host ks b).bind fun fs b => .ok (⟨k, v⟩ :: fs) b

end Axium.Packets
