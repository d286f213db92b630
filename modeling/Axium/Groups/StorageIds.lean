import Axium.Groups.Loading
import Axium.Lib.LeastFree

/-!
# The ids under which groups are stored

The allocator of `GroupMgr`: a lower bound and a vector of group pointers with holes, as in the source, with
the end of the search at `0xFFFFFFFF`.

The bound is always the least free id (`Sound`), which is what makes the id of a new group its own.
-/

namespace Axium.Groups

open Axium.Run List Option Finset

/-- `NextGroupDbStoreId` and `GroupDbStore`. -/
structure StoreIds where
  nextGroupDbStoreId : Nat := 1
  groupDbStore : List (Option Nat) := []

namespace StoreIds

def idLimit : Nat := 0xFFFFFFFF

/-- The loop of `GenerateNewGroupDbStoreId` from `i`: the first id that is not in use, among `n` of them. -/
def holeFrom (store : List (Option Nat)) : Nat → Nat → Option Nat
  | 0, _ => none
  | n + 1, i => if (store.getD i none).isNone then some i else holeFrom store n (i + 1)

variable (s : StoreIds)

def getGroupByDbStoreId (storageId : Nat) : Option Nat := s.groupDbStore.getD storageId none

/-- `GenerateNewGroupDbStoreId`. If no id is found the bound stays behind the new id; the server is stopped
if it is the new id itself, which it is not. -/
def generateNewGroupDbStoreId : Nat × StoreIds :=
  let newStorageId := s.nextGroupDbStoreId
  let i := (newStorageId + 1) % 2 ^ 32
  (newStorageId, { s with nextGroupDbStoreId := (holeFrom s.groupDbStore (idLimit - i) i).getD i })

def registerGroupDbStoreId (storageId group : Nat) : StoreIds :=
  { s with groupDbStore :=
      (s.groupDbStore ++ replicate (storageId + 1 - s.groupDbStore.length) none).set storageId (some group) }

def freeGroupDbStoreId (storageId : Nat) : StoreIds :=
  { nextGroupDbStoreId := if storageId < s.nextGroupDbStoreId then storageId else s.nextGroupDbStoreId
    groupDbStore := s.groupDbStore.set storageId none }

/-- One row of `LoadGroups`: the id and the group made from it. -/
def loadRow (row : Nat × Nat) : StoreIds :=
  let s := s.registerGroupDbStoreId row.1 row.2
  { s with nextGroupDbStoreId :=
      if row.1 = s.nextGroupDbStoreId then (s.nextGroupDbStoreId + 1) % 2 ^ 32 else s.nextGroupDbStoreId }

def loadGroups (rows : List (Nat × Nat)) : StoreIds := rows.foldl loadRow {}

inductive Happening where
  | create (group : Nat)
  | free (storageId : Nat)

def step : Happening → StoreIds
  | .create group => s.generateNewGroupDbStoreId.2.registerGroupDbStoreId s.generateNewGroupDbStoreId.1 group
  | .free storageId => s.freeGroupDbStoreId storageId

def registered : Finset Nat := (Finset.range s.groupDbStore.length).filter fun id => (s.getGroupByDbStoreId id).isSome

def Legal : Happening → Prop
  | .create _ => s.registered.card + 2 < idLimit
  | .free storageId => storageId ∈ s.registered

instance : (e : Happening) → Decidable (s.Legal e)
  | .create _ => inferInstanceAs (Decidable (_ < _))
  | .free _ => inferInstanceAs (Decidable (_ ∈ _))

/-- The next id is free, and all ids below it are taken. -/
structure Sound : Prop where
  pos : 0 < s.nextGroupDbStoreId
  free : s.getGroupByDbStoreId s.nextGroupDbStoreId = none
  used : ∀ id, 0 < id → id < s.nextGroupDbStoreId → (s.getGroupByDbStoreId id).isSome
  zero : s.getGroupByDbStoreId 0 = none

/-! ## The search for a hole -/

theorem holeFrom_some {store : List (Option Nat)} {n i j : Nat} (h : holeFrom store n i = some j) :
    i ≤ j ∧ j < i + n ∧ store.getD j none = none ∧ ∀ k, i ≤ k → k < j → (store.getD k none).isSome := by
  induction n generalizing i with
  | zero => cases h
  | succ n ih =>
    rw [holeFrom] at h
    split at h
    · next hhole =>
      cases h
      exact ⟨le_refl _, by omega, isNone_iff_eq_none.1 hhole, fun k hik hki => by omega⟩
    · next hused =>
      obtain ⟨hle, hlt, hfree, hbelow⟩ := ih h
      refine ⟨by omega, by omega, hfree, fun k hik hkj => ?_⟩
      by_cases hk : k = i
      · subst hk
        exact ne_none_iff_isSome.1 fun hnone => hused (isNone_iff_eq_none.2 hnone)
      · exact hbelow k (by omega) hkj

theorem holeFrom_none {store : List (Option Nat)} {n i : Nat} (h : holeFrom store n i = none) :
    ∀ k, i ≤ k → k < i + n → (store.getD k none).isSome := by
  induction n generalizing i with
  | zero => exact fun k hik hkn => by omega
  | succ n ih =>
    rw [holeFrom] at h
    split at h
    · cases h
    · next hused =>
      intro k hik hkn
      by_cases hk : k = i
      · subst hk
        exact ne_none_iff_isSome.1 fun hnone => hused (isNone_iff_eq_none.2 hnone)
      · exact ih h k (by omega) (by omega)

/-! ## What the operations do to the ids in use -/

variable {s} {id storageId group : Nat}

theorem mem_registered : id ∈ s.registered ↔ (s.getGroupByDbStoreId id).isSome := by
  unfold registered getGroupByDbStoreId
  rw [Finset.mem_filter, Finset.mem_range]
  refine ⟨And.right, fun h => ⟨?_, h⟩⟩
  by_contra hge
  rw [getD_eq_getElem?_getD, getElem?_eq_none (not_lt.1 hge)] at h
  cases h

theorem getGroupByDbStoreId_register (storageId group id : Nat) :
    (s.registerGroupDbStoreId storageId group).getGroupByDbStoreId id =
      if id = storageId then some group else s.getGroupByDbStoreId id := by
  unfold registerGroupDbStoreId getGroupByDbStoreId
  split
  · next h =>
    subst h
    rw [getD_eq_getElem?_getD, getElem?_set_self]
    · rfl
    · rw [length_append, length_replicate]
      omega
  · next h =>
    rw [getD_eq_getElem?_getD, getElem?_set_ne (Ne.symm h), ← getD_eq_getElem?_getD, getD_append_replicate]

theorem getGroupByDbStoreId_free (storageId id : Nat) :
    (s.freeGroupDbStoreId storageId).getGroupByDbStoreId id =
      if id = storageId then none else s.getGroupByDbStoreId id := by
  unfold freeGroupDbStoreId getGroupByDbStoreId
  rw [getD_eq_getElem?_getD, getElem?_set, getD_eq_getElem?_getD]
  by_cases h : id = storageId
  · subst h
    rw [if_pos rfl, if_pos rfl]
    split <;> rfl
  · rw [if_neg (Ne.symm h), if_neg h]

theorem isSome_register (storageId group id : Nat) :
    ((s.registerGroupDbStoreId storageId group).getGroupByDbStoreId id).isSome ↔
      id = storageId ∨ (s.getGroupByDbStoreId id).isSome := by
  rw [getGroupByDbStoreId_register]
  by_cases h : id = storageId <;> simp [h]

theorem sound_iff : s.Sound ↔ LeastFree (fun id => (s.getGroupByDbStoreId id).isSome) s.nextGroupDbStoreId :=
  ⟨fun h => ⟨h.pos, by simp [h.zero], by simp [h.free], h.used⟩,
    fun h => ⟨h.pos, not_isSome_iff_eq_none.1 h.free, h.used, not_isSome_iff_eq_none.1 h.zero⟩⟩

namespace Sound

theorem generate_least (h : s.Sound) (hid : 0 < id) (hfree : s.getGroupByDbStoreId id = none) :
    s.generateNewGroupDbStoreId.1 ≤ id :=
  (sound_iff.1 h).le hid (by simp [hfree])

theorem exists_hole (h : s.Sound) (hleft : s.registered.card + 2 < idLimit) :
    s.nextGroupDbStoreId + 1 < idLimit ∧ ∃ j,
      holeFrom s.groupDbStore (idLimit - (s.nextGroupDbStoreId + 1)) (s.nextGroupDbStoreId + 1) = some j := by
  have hbelow : Finset.Ico 1 s.nextGroupDbStoreId ⊆ s.registered := fun id hid =>
    mem_registered.2 (h.used id (mem_Ico.1 hid).1 (mem_Ico.1 hid).2)
  have hcard := card_le_card hbelow
  rw [Nat.card_Ico] at hcard
  have hlt : s.nextGroupDbStoreId + 1 < idLimit := by omega
  refine ⟨hlt, ?_⟩
  cases hhole : holeFrom s.groupDbStore (idLimit - (s.nextGroupDbStoreId + 1)) (s.nextGroupDbStoreId + 1) with
  | some j => exact ⟨j, rfl⟩
  | none =>
    -- all ids but the new one are in use, which are too many
    have hall : (Finset.Ico 1 idLimit).erase s.nextGroupDbStoreId ⊆ s.registered := by
      intro id hid
      obtain ⟨hne, hmem⟩ := mem_erase.1 hid
      obtain ⟨hpos, hend⟩ := mem_Ico.1 hmem
      rcases lt_or_gt_of_ne hne with hlow | hhigh
      · exact mem_registered.2 (h.used id hpos hlow)
      · exact mem_registered.2 (holeFrom_none hhole id hhigh (by omega))
    have hmany := card_le_card hall
    rw [card_erase_of_mem (mem_Ico.2 ⟨h.pos, by omega⟩), Nat.card_Ico] at hmany
    omega

theorem create (h : s.Sound) (hleft : s.registered.card + 2 < idLimit) (group : Nat) :
    (s.step (.create group)).Sound := by
  obtain ⟨hlt, j, hj⟩ := h.exists_hole hleft
  have hmod : (s.nextGroupDbStoreId + 1) % 2 ^ 32 = s.nextGroupDbStoreId + 1 :=
    Nat.mod_eq_of_lt (by unfold idLimit at hlt; omega)
  obtain ⟨hle, -, hfree, hused⟩ := holeFrom_some hj
  have hgenerate : s.generateNewGroupDbStoreId.2 = { s with nextGroupDbStoreId := j } := by
    unfold generateNewGroupDbStoreId
    dsimp only
    rw [hmod, hj]
    rfl
  refine sound_iff.2 ?_
  unfold StoreIds.step
  rw [hgenerate]
  have hfree : s.getGroupByDbStoreId j = none := hfree
  have hsome : ¬ (s.getGroupByDbStoreId j).isSome := by simp [hfree]
  exact (sound_iff.1 h).take hle hsome hused fun id => isSome_register s.nextGroupDbStoreId group id

theorem freeGroup (h : s.Sound) (hmem : storageId ∈ s.registered) : (s.step (.free storageId)).Sound := by
  refine sound_iff.2 ((sound_iff.1 h).release (mem_registered.1 hmem) fun id => ?_)
  rw [StoreIds.step, getGroupByDbStoreId_free]
  by_cases heq : id = storageId <;> simp [heq]

theorem loadRow (h : s.Sound) {row : Nat × Nat} (hpos : 0 < row.1) (hlt : row.1 < idLimit)
    (habove : ∀ id ∈ s.registered, id < row.1) : (s.loadRow row).Sound := by
  have hload := (sound_iff.1 h).load hpos (fun id hid => habove id (mem_registered.2 hid))
    (isSome_register row.1 row.2)
  have hnext : (s.loadRow row).nextGroupDbStoreId =
      if s.nextGroupDbStoreId = row.1 then s.nextGroupDbStoreId + 1 else s.nextGroupDbStoreId := by
    change (if row.1 = s.nextGroupDbStoreId then (s.nextGroupDbStoreId + 1) % 2 ^ 32 else s.nextGroupDbStoreId) = _
    by_cases heq : row.1 = s.nextGroupDbStoreId
    · rw [if_pos heq, if_pos heq.symm]
      exact Nat.mod_eq_of_lt (by unfold idLimit at hlt; omega)
    · rw [if_neg heq, if_neg (Ne.symm heq)]
  rw [← hnext] at hload
  exact sound_iff.2 hload

/-- Each legal change leaves the least free id as the next one. -/
theorem step (h : s.Sound) {e : Happening} (hlegal : s.Legal e) : (s.step e).Sound := by
  cases e with
  | create group => exact h.create hlegal group
  | free storageId => exact h.freeGroup hlegal

end Sound

theorem sound_init : Sound {} := by
  refine ⟨one_pos, rfl, fun id hid hlow => ?_, rfl⟩
  change id < 1 at hlow
  omega

theorem mem_registered_loadRow {row : Nat × Nat} :
    id ∈ (s.loadRow row).registered ↔ id = row.1 ∨ id ∈ s.registered := by
  rw [mem_registered, mem_registered]
  exact isSome_register row.1 row.2 id

theorem sound_loadGroups {rows : List (Nat × Nat)} (hpos : ∀ row ∈ rows, 0 < row.1 ∧ row.1 < idLimit)
    (hsorted : rows.Pairwise fun r r' => r.1 < r'.1) : (loadGroups rows).Sound := by
  have hfold : ∀ s : StoreIds, s.Sound → (∀ id ∈ s.registered, ∀ row ∈ rows, id < row.1) →
      (rows.foldl loadRow s).Sound := by
    induction rows with
    | nil => exact fun s h _ => h
    | cons row rows ih =>
      intro s h habove
      obtain ⟨hrow, hrest⟩ := pairwise_cons.1 hsorted
      obtain ⟨hrowpos, hrowlt⟩ := hpos row mem_cons_self
      refine ih (fun r hr => hpos r (mem_cons_of_mem _ hr)) hrest _
        (h.loadRow hrowpos hrowlt fun id hid => habove id hid row mem_cons_self) ?_
      intro id hid r hr
      rcases mem_registered_loadRow.1 hid with rfl | hold
      · exact hrow r hr
      · exact habove id hold r (mem_cons_of_mem _ hr)
  refine hfold {} sound_init fun id hid => ?_
  cases Finset.mem_range.1 (Finset.mem_filter.1 hid).1

/-- **Ids are never shared.** After loading and any operations, the bound is free and all smaller ids are in
use, so that the next id is the least free one. -/
theorem ids_never_shared (rows : List (Nat × Nat)) (es : List Happening)
    (hpos : ∀ row ∈ rows, 0 < row.1 ∧ row.1 < idLimit) (hsorted : rows.Pairwise fun r r' => r.1 < r'.1)
    (hlegal : AllSteps step Legal (loadGroups rows) es) :
    let s := run step (loadGroups rows) es
    s.getGroupByDbStoreId s.nextGroupDbStoreId = none ∧
    (∀ id, 0 < id → id < s.nextGroupDbStoreId → (s.getGroupByDbStoreId id).isSome) ∧
    0 < s.generateNewGroupDbStoreId.1 ∧ s.getGroupByDbStoreId s.generateNewGroupDbStoreId.1 = none ∧
    ∀ id, 0 < id → s.getGroupByDbStoreId id = none → s.generateNewGroupDbStoreId.1 ≤ id := by
  have hsound : (run step (loadGroups rows) es).Sound :=
    hlegal.invariant (fun s e h he => h.step he) (sound_loadGroups hpos hsorted)
  exact ⟨hsound.free, hsound.used, hsound.pos, hsound.free, fun id => hsound.generate_least⟩

theorem ids_never_shared_hole :
    let s := run step (loadGroups [(1, 0), (2, 1), (4, 2)]) [.free 2, .create 3, .create 4]
    s.getGroupByDbStoreId s.nextGroupDbStoreId = none ∧ s.nextGroupDbStoreId = 5 ∧
      s.getGroupByDbStoreId 2 = some 3 ∧ s.getGroupByDbStoreId 3 = some 4 :=
  have h := ids_never_shared [(1, 0), (2, 1), (4, 2)] [.free 2, .create 3, .create 4]
    (by decide) (by decide) (by decide)
  ⟨h.1, by decide, by decide, by decide⟩

end StoreIds

end Axium.Groups
