import Axium.Lib.LeastFree
import Axium.Lib.Run
import Mathlib.Data.List.MinMax
import Mathlib.Data.List.Range

/-!
# Instance ids

The allocator of `MapManager`: the next id and a bit for every id, in a table that grows in blocks of 32. A
write behind the end of the table is kept in a flag. The table is sized by `roundUp`, which leaves no place
for an id that is itself a multiple of 32.
-/

namespace Axium.Instances

open Axium.Run List

structure InstanceIds where
  nextInstanceId : Nat := 1
  instanceIds : List Bool := []
  /-- `_instanceIds.capacity()` -/
  capacity : Nat := 0
  /-- A bit behind the end of the table has been written. -/
  outOfBounds : Bool := false

namespace InstanceIds

/-- The new size in `InitInstanceIds` and `GenerateInstanceId`. -/
def roundUp (id : Nat) : Nat := (id / 32 * 32 + if 0 < id % 32 then 32 else 0) % 2 ^ 32

-- the capacity that the library gives a table of this size which is made larger, for the new size
variable (grow : Nat → Nat → Nat) (s : InstanceIds)

def inUse (id : Nat) : Bool := s.instanceIds.getD id false

def resize (n : Nat) : InstanceIds :=
  { s with
    instanceIds := s.instanceIds.take n ++ replicate (n - s.instanceIds.length) false
    capacity := if s.capacity < n then grow s.instanceIds.length n else s.capacity }

def write (id : Nat) (bit : Bool) : InstanceIds :=
  { s with
    instanceIds := s.instanceIds.set id bit
    outOfBounds := s.outOfBounds || decide (s.instanceIds.length ≤ id) }

def initInstanceIds (maxId : Nat) : InstanceIds := resize grow {} (roundUp maxId)

def registerInstanceId (id : Nat) : InstanceIds := s.write id true

def loadRow (id : Nat) : InstanceIds :=
  registerInstanceId { s with
    nextInstanceId := if s.nextInstanceId = id then (id + 1) % 2 ^ 32 else s.nextInstanceId } id

/-- `MAX(id)`, which is read as 0 if there are no rows. -/
def maxId (rows : List Nat) : Nat := rows.foldr max 0

/-- The ids of the table `instance`, in ascending order. -/
def loadResetTimes (rows : List Nat) : InstanceIds := rows.foldl loadRow (initInstanceIds grow (maxId rows))

/-- The loop of `GenerateInstanceId`. The server is stopped if the id is the new one itself, which it is not:
without a free id it is the one after. -/
def findNext : Nat :=
  let i := (s.nextInstanceId + 1) % 2 ^ 32
  ((List.range' i (0xFFFFFFFF - i)).find? fun i => !s.inUse i).getD i

def allocate (newInstanceId : Nat) : InstanceIds :=
  if s.instanceIds.length ≤ newInstanceId then
    if s.instanceIds.length < s.capacity then s.resize grow s.capacity else s.resize grow (roundUp newInstanceId)
  else s

def generateInstanceId : Nat × InstanceIds :=
  let newInstanceId := s.nextInstanceId
  let s := { s with nextInstanceId := s.findNext }
  (newInstanceId, (s.allocate grow newInstanceId).write newInstanceId true)

def freeInstanceId (id : Nat) : InstanceIds :=
  write { s with nextInstanceId := if id < s.nextInstanceId then id else s.nextInstanceId } id false

inductive Happening where
  | generate
  | free (id : Nat)

def step : Happening → InstanceIds
  | .generate => (s.generateInstanceId grow).2
  | .free id => s.freeInstanceId id

/-- An id is left after the next one, and the next one has a place in the table, in its capacity or in the new
table. Only ids in use are given back. -/
def Legal : Happening → Prop
  | .generate => (∃ i, s.nextInstanceId < i ∧ i < 0xFFFFFFFF ∧ s.inUse i = false) ∧
      (s.nextInstanceId < s.instanceIds.length ∨ s.instanceIds.length < s.capacity ∨
        s.nextInstanceId < roundUp s.nextInstanceId)
  | .free id => s.inUse id

/-- The next id is the least free one, within the table. -/
structure Sound : Prop where
  inBounds : s.outOfBounds = false
  least : LeastFree (fun id => s.inUse id) s.nextInstanceId
  -- a table without entries has no capacity
  empty : s.instanceIds.length = 0 → s.capacity = 0

variable {grow s} {id k n : Nat}

theorem inUse_lt (h : s.inUse id) : id < s.instanceIds.length := by
  by_contra hge
  rw [inUse, getD_eq_getElem?_getD, getElem?_eq_none (not_lt.1 hge)] at h
  cases h

theorem inUse_resize (hn : s.instanceIds.length ≤ n) : (s.resize grow n).inUse id = s.inUse id := by
  unfold resize inUse
  rw [take_of_length_le hn, getD_eq_getElem?_getD, getElem?_append, getD_eq_getElem?_getD]
  split
  · rfl
  · next hge =>
    rw [getElem?_eq_none (not_lt.1 hge), getElem?_replicate]
    split <;> rfl

theorem inUse_write (hid : id < s.instanceIds.length) (bit : Bool) :
    (s.write id bit).inUse k = if k = id then bit else s.inUse k := by
  unfold write inUse
  rw [getD_eq_getElem?_getD, getElem?_set, getD_eq_getElem?_getD]
  by_cases h : id = k
  · rw [if_pos h, if_pos h.symm, if_pos (h ▸ hid)]
    rfl
  · rw [if_neg h, if_neg (Ne.symm h)]

theorem length_resize (hn : s.instanceIds.length ≤ n) : (s.resize grow n).instanceIds.length = n := by
  unfold resize
  rw [length_append, length_take, length_replicate]
  omega

theorem sound_write (hbounds : s.outOfBounds = false) (hid : id < s.instanceIds.length) {bit : Bool} {next : Nat}
    (hleast : LeastFree (fun k => if k = id then bit else s.inUse k) next) :
    (write { s with nextInstanceId := next } id bit).Sound := by
  refine ⟨?_, ?_, fun hzero => ?_⟩
  · unfold write
    simp [hbounds, hid]
  · simp only [inUse_write (s := { s with nextInstanceId := next }) hid]
    exact hleast
  · have hset : s.instanceIds.length = 0 := (length_set ..).symm.trans hzero
    omega

/-! ## The operations -/

theorem findNext_spec (h : ∃ i, s.nextInstanceId < i ∧ i < 0xFFFFFFFF ∧ s.inUse i = false) :
    s.nextInstanceId < s.findNext ∧ s.inUse s.findNext = false ∧
      ∀ k, s.nextInstanceId < k → k < s.findNext → s.inUse k := by
  obtain ⟨i, hlow, hhigh, hfree⟩ := h
  have hmod : (s.nextInstanceId + 1) % 2 ^ 32 = s.nextInstanceId + 1 := Nat.mod_eq_of_lt (by omega)
  unfold findNext
  rw [hmod]
  dsimp only
  cases hfind : (List.range' (s.nextInstanceId + 1) (0xFFFFFFFF - (s.nextInstanceId + 1))).find?
      fun i => !s.inUse i with
  | none =>
    have hused := find?_eq_none.1 hfind i (mem_range'_1.2 (by omega))
    simp [hfree] at hused
  | some j =>
    obtain ⟨hj, hmem, hused⟩ := find?_range'_eq_some.1 hfind
    have hfreej : s.inUse j = false := by simpa using hj
    exact ⟨(mem_range'_1.1 hmem).1, hfreej, fun k hk hkj => by simpa using hused k hk hkj⟩

variable (grow s) in
theorem allocate_spec (hempty : s.instanceIds.length = 0 → s.capacity = 0) (hid : id ≤ s.instanceIds.length + 1)
    (hone : s.instanceIds.length < id → s.instanceIds.length = 0)
    (h : id < s.instanceIds.length ∨ s.instanceIds.length < s.capacity ∨ id < roundUp id) :
    id < (s.allocate grow id).instanceIds.length ∧ (∀ k, (s.allocate grow id).inUse k = s.inUse k) ∧
      (s.allocate grow id).nextInstanceId = s.nextInstanceId ∧
      (s.allocate grow id).outOfBounds = s.outOfBounds := by
  unfold allocate
  split
  · next hge =>
    split
    · next hcap =>
      have hle := le_of_lt hcap
      refine ⟨?_, fun k => inUse_resize hle, rfl, rfl⟩
      rw [length_resize hle]
      omega
    · next hcap =>
      have hfits : id < roundUp id := (h.resolve_left (not_lt.2 hge)).resolve_left hcap
      have hle : s.instanceIds.length ≤ roundUp id := by omega
      exact ⟨hfits.trans_eq (length_resize hle).symm, fun k => inUse_resize hle, rfl, rfl⟩
  · next hlt => exact ⟨not_le.1 hlt, fun k => rfl, rfl, rfl⟩

namespace Sound

theorem next_le (h : s.Sound) : s.nextInstanceId ≤ s.instanceIds.length + 1 ∧
    (s.instanceIds.length < s.nextInstanceId → s.instanceIds.length = 0) := by
  have hpos := h.least.pos
  by_cases hone : s.nextInstanceId = 1
  · omega
  · have hlt := inUse_lt (h.least.used (s.nextInstanceId - 1) (by omega) (by omega))
    omega

theorem generate (h : s.Sound) (hlegal : s.Legal .generate) : (s.step grow .generate).Sound := by
  obtain ⟨hleft, hplace⟩ := hlegal
  obtain ⟨hlt, hfree, hused⟩ := findNext_spec hleft
  set t : InstanceIds := { s with nextInstanceId := s.findNext }
  obtain ⟨hin, hsame, hnext, hbounds⟩ := allocate_spec grow t h.empty h.next_le.1 h.next_le.2 hplace
  have hfree' : ¬ s.inUse s.findNext := by simp [hfree]
  have hleast : LeastFree (fun k => if k = s.nextInstanceId then true else (t.allocate grow s.nextInstanceId).inUse k)
      (t.allocate grow s.nextInstanceId).nextInstanceId := by
    rw [hnext]
    refine h.least.take hlt hfree' hused fun k => ?_
    rw [hsame]
    by_cases hk : k = s.nextInstanceId <;> simp [hk, inUse, t]
  exact sound_write (hbounds.trans h.inBounds) hin hleast

theorem free (h : s.Sound) (hid : s.inUse id) : (s.step grow (.free id)).Sound := by
  refine sound_write h.inBounds (inUse_lt hid) (h.least.release hid fun k => ?_)
  by_cases hk : k = id <;> simp [hk, inUse]

/-- Each legal change leaves the least free id as the next one, however the table grows. -/
theorem step {e : Happening} (h : s.Sound) (hlegal : s.Legal e) : (s.step grow e).Sound := by
  cases e with
  | generate => exact h.generate hlegal
  | free id => exact h.free hlegal

theorem loadRow (h : s.Sound) (hpos : 0 < id) (hin : id < s.instanceIds.length) (hlt : id + 1 < 2 ^ 32)
    (habove : ∀ k, s.inUse k → k < id) : (s.loadRow id).Sound := by
  refine sound_write h.inBounds hin ?_
  have hnext : (if s.nextInstanceId = id then (id + 1) % 2 ^ 32 else s.nextInstanceId) =
      if s.nextInstanceId = id then s.nextInstanceId + 1 else s.nextInstanceId := by
    rw [Nat.mod_eq_of_lt hlt]
    split
    · next heq => rw [heq]
    · rfl
  rw [hnext]
  refine h.least.load hpos habove fun k => ?_
  by_cases hk : k = id <;> simp [hk, inUse]

end Sound

theorem inUse_init (n k : Nat) : (initInstanceIds grow n).inUse k = false :=
  (inUse_resize (s := {}) (Nat.zero_le _)).trans rfl

theorem sound_init (n : Nat) : (initInstanceIds grow n).Sound := by
  refine ⟨rfl, ⟨one_pos, by simp [inUse_init], by simp [inUse_init], fun id hid hlow => ?_⟩, fun hzero => ?_⟩
  · change id < 1 at hlow
    omega
  · have hlen : (initInstanceIds grow n).instanceIds.length = roundUp n := length_resize (Nat.zero_le _)
    rw [hzero] at hlen
    unfold initInstanceIds resize
    simp [← hlen]

theorem loadRow_bits (hin : id < s.instanceIds.length) :
    (s.loadRow id).instanceIds.length = s.instanceIds.length ∧
      ∀ k, (s.loadRow id).inUse k = if k = id then true else s.inUse k :=
  ⟨length_set .., fun _ => inUse_write (s := { s with nextInstanceId := _ }) hin true⟩

theorem sound_foldl {rows : List Nat} (h : s.Sound)
    (hrows : ∀ id ∈ rows, 0 < id ∧ id < s.instanceIds.length ∧ id + 1 < 2 ^ 32) (hsorted : rows.Pairwise (· < ·))
    (habove : ∀ k, s.inUse k → ∀ id ∈ rows, k < id) : (rows.foldl loadRow s).Sound := by
  induction rows generalizing s with
  | nil => exact h
  | cons row rows ih =>
    obtain ⟨hrow, hrest⟩ := pairwise_cons.1 hsorted
    obtain ⟨hpos, hin, hlt⟩ := hrows row mem_cons_self
    obtain ⟨hlen, hbits⟩ := loadRow_bits hin
    refine ih (h.loadRow hpos hin hlt fun k hk => habove k hk row mem_cons_self) (fun id hid => ?_) hrest ?_
    · rw [hlen]
      exact hrows id (mem_cons_of_mem _ hid)
    · intro k hk id hid
      rw [hbits] at hk
      split at hk
      · next heq => exact heq ▸ hrow id hid
      · exact habove k hk id (mem_cons_of_mem _ hid)

def LoadFits (rows : List Nat) : Prop := rows = [] ∨ maxId rows < roundUp (maxId rows)

theorem sound_loadResetTimes {rows : List Nat} (hpos : ∀ id ∈ rows, 0 < id) (hsorted : rows.Pairwise (· < ·))
    (hfits : LoadFits rows) : (loadResetTimes grow rows).Sound := by
  refine sound_foldl (sound_init _) (fun id hid => ?_) hsorted fun k hk => ?_
  · have hmax : id ≤ maxId rows := le_max_of_le' 0 hid (le_refl id)
    have hfit : maxId rows < roundUp (maxId rows) :=
      hfits.resolve_left fun hnil => absurd (hnil ▸ hid) not_mem_nil
    have hlen : (initInstanceIds grow (maxId rows)).instanceIds.length = roundUp (maxId rows) :=
      length_resize (Nat.zero_le _)
    have hlt : roundUp (maxId rows) < 2 ^ 32 := Nat.mod_lt _ (by decide)
    have := hpos id hid
    omega
  · rw [inUse_init] at hk
    cases hk

/-- **Instance ids are in bounds and never shared.** If the table made for the loaded ids and for each new id
has a place for it, no bit behind the end is written in any run, the next id is always the least free one, and
it is the one that is generated. -/
theorem sound_run (grow : Nat → Nat → Nat) (rows : List Nat) (es : List Happening) (hpos : ∀ id ∈ rows, 0 < id)
    (hsorted : rows.Pairwise (· < ·)) (hfits : LoadFits rows)
    (hlegal : AllSteps (step grow) Legal (loadResetTimes grow rows) es) :
    let s := run (step grow) (loadResetTimes grow rows) es
    s.Sound ∧ s.inUse (s.generateInstanceId grow).1 = false := by
  have hsound : (run (step grow) (loadResetTimes grow rows) es).Sound :=
    hlegal.invariant (fun s e h he => h.step he) (sound_loadResetTimes hpos hsorted hfits)
  have hfree : ¬ (run (step grow) (loadResetTimes grow rows) es).inUse
      (run (step grow) (loadResetTimes grow rows) es).nextInstanceId := hsound.least.free
  exact ⟨hsound, Bool.eq_false_iff.2 hfree⟩

def wordGrow (size n : Nat) : Nat := (max (2 * size) n + 63) / 64 * 64

theorem sound_run_hole :
    let s := run (step wordGrow) (loadResetTimes wordGrow [1, 2, 4]) [.generate, .free 2, .generate]
    s.Sound ∧ s.inUse (s.generateInstanceId wordGrow).1 = false :=
  sound_run wordGrow [1, 2, 4] [.generate, .free 2, .generate] (by decide) (by decide) (.inr (by decide))
    ⟨⟨⟨5, by decide⟩, by decide⟩, rfl, ⟨⟨5, by decide⟩, by decide⟩, trivial⟩

/-- A bit behind the end is written when the one instance 32 is loaded, and when the id 64 is made. -/
theorem not_inBounds : (loadResetTimes wordGrow [32]).outOfBounds = true ∧
    (run (step wordGrow) (loadResetTimes wordGrow []) (replicate 64 .generate)).outOfBounds = true := by
  decide +kernel

end InstanceIds

end Axium.Instances
