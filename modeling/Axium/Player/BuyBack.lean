import Axium.Lib.Run

/-!
# The buyback list

`AddItemToBuyBackSlot` and `RemoveItemFromBuyBackSlot` of `Player.cpp`. A sale stores the item in the slot
under a cursor. If that slot is taken, a loop looks for the oldest item and stops at the first free slot,
but what it found free is overwritten by the oldest slot seen so far. So the sale deletes an item although
a slot is free, unless the first slot is the free one: **`keepsWhileFree_iff`**.
-/

namespace Axium.Player

open Run List Function Option

structure SoldItem where
  guid : Nat
  count : Nat
  /-- `SellPrice` of the template. -/
  sellPrice : Nat := 0
  /-- `ExtendedCost2` of the template. -/
  extendedCost2 : Nat := 0
deriving DecidableEq, Repr

def SoldItem.buybackPrice (item : SoldItem) : Nat :=
  if item.extendedCost2 ≠ 0 then item.count
  else if item.sellPrice ≠ 0 then item.sellPrice * item.count % 4294967296 else 1

def buybackSlotStart : Nat := 74

def buybackSlotEnd : Nat := 86

/-- The part of `m_items` from `BUYBACK_SLOT_START` on, the three fields that show it to the client, and
`m_currentBuybackSlot`. The fields are indexed by the slot as well. -/
structure BuyBack where
  items : Nat → Option SoldItem := fun _ => none
  vendorbuybackSlot : Nat → Nat := fun _ => 0
  buybackPrice : Nat → Nat := fun _ => 0
  buybackTimestamp : Nat → Nat := fun _ => 0
  currentBuybackSlot : Nat := buybackSlotStart

namespace BuyBack

def slots : List Nat := List.range' buybackSlotStart (buybackSlotEnd - buybackSlotStart)

variable (b : BuyBack)

/-- `RemoveItemFromBuyBackSlot`, with the item it deletes. -/
def removeItemFromBuyBackSlot (slot : Nat) (del : Bool) : BuyBack × Option SoldItem :=
  if buybackSlotStart ≤ slot ∧ slot < buybackSlotEnd then
    let items := update b.items slot none
    ({ items
       vendorbuybackSlot := update b.vendorbuybackSlot slot 0
       buybackPrice := update b.buybackPrice slot 0
       buybackTimestamp := update b.buybackTimestamp slot 0
       currentBuybackSlot :=
        if (items b.currentBuybackSlot).isSome then slot else b.currentBuybackSlot },
      if del then b.items slot else none)
  else (b, none)

/-- The loop of `AddItemToBuyBackSlot` over the slots: the slot it found free, or `slot`, and the oldest
one it saw. -/
def searchOldest : List Nat → (slot oldestTime oldestSlot : Nat) → Nat × Nat
  | [], slot, _, oldestSlot => (slot, oldestSlot)
  | i :: is, slot, oldestTime, oldestSlot =>
    if (b.items i).isNone then (i, oldestSlot)
    else if b.buybackTimestamp i < oldestTime then searchOldest is slot (b.buybackTimestamp i) i
    else searchOldest is slot oldestTime oldestSlot

/-- The slot that `AddItemToBuyBackSlot` stores to. -/
def targetSlot : Nat :=
  let slot := b.currentBuybackSlot
  if (b.items slot).isSome then
    let (_, oldestSlot) := b.searchOldest (List.range' (buybackSlotStart + 1)
      (buybackSlotEnd - (buybackSlotStart + 1))) slot (b.buybackTimestamp buybackSlotStart)
      buybackSlotStart
    -- the free slot of the loop is dropped here
    oldestSlot
  else slot

/-- `AddItemToBuyBackSlot` at the time `etime`, with the item it deletes. -/
def addItemToBuyBackSlot (item : SoldItem) (etime : Nat) : BuyBack × Option SoldItem :=
  let slot := b.targetSlot
  let (b, deleted) := b.removeItemFromBuyBackSlot slot true
  ({ items := update b.items slot (some item)
     vendorbuybackSlot := update b.vendorbuybackSlot slot item.guid
     buybackPrice := update b.buybackPrice slot item.buybackPrice
     buybackTimestamp := update b.buybackTimestamp slot etime
     currentBuybackSlot :=
      if b.currentBuybackSlot < buybackSlotEnd - 1 then b.currentBuybackSlot + 1
      else b.currentBuybackSlot },
    deleted)

def getItemFromBuyBackSlot (slot : Nat) : Option SoldItem :=
  if buybackSlotStart ≤ slot ∧ slot < buybackSlotEnd then b.items slot else none

inductive Event where
  | sell (item : SoldItem) (etime : Nat)
  | buyback (slot : Nat)

/-- One event. `HandleBuybackItem` removes nothing from a free slot. -/
def step (b : BuyBack) : Event → BuyBack
  | .sell item etime => (b.addItemToBuyBackSlot item etime).1
  | .buyback slot =>
    if (b.getItemFromBuyBackSlot slot).isSome then (b.removeItemFromBuyBackSlot slot false).1 else b

/-! ## What the list is for -/

def Full : Prop := ∀ slot ∈ slots, (b.items slot).isSome

instance : Decidable b.Full := inferInstanceAs (Decidable (∀ slot ∈ slots, _))

/-- A sale deletes an item only if no slot is free, and then one with the smallest timestamp. -/
def KeepsWhileFree : Event → Prop
  | .sell item etime => ∀ deleted, (b.addItemToBuyBackSlot item etime).2 = some deleted →
    b.Full ∧ ∃ slot ∈ slots, b.items slot = some deleted ∧
      ∀ i ∈ slots, b.buybackTimestamp slot ≤ b.buybackTimestamp i
  | .buyback _ => True

def FindsFree : Event → Prop
  | .sell _ _ => b.items b.currentBuybackSlot = none ∨ b.items buybackSlotStart = none ∨ b.Full
  | .buyback _ => True

instance : (e : Event) → Decidable (b.FindsFree e)
  | .sell _ _ => inferInstanceAs (Decidable (_ ∨ _))
  | .buyback _ => inferInstanceAs (Decidable True)

/-! ## The fields follow the items -/

/-- The fields that the client sees follow the items, and the next slot is a slot. -/
structure Consistent : Prop where
  start_le : buybackSlotStart ≤ b.currentBuybackSlot
  lt_end : b.currentBuybackSlot < buybackSlotEnd
  free : ∀ slot, b.items slot = none →
    b.vendorbuybackSlot slot = 0 ∧ b.buybackPrice slot = 0 ∧ b.buybackTimestamp slot = 0
  shown : ∀ slot item, b.items slot = some item →
    b.vendorbuybackSlot slot = item.guid ∧ b.buybackPrice slot = item.buybackPrice

variable {b}

theorem consistent_new : Consistent {} where
  start_le := le_refl _
  lt_end := by decide
  free _ _ := ⟨rfl, rfl, rfl⟩
  shown _ _ h := nomatch h

theorem mem_slots {slot : Nat} : slot ∈ slots ↔ buybackSlotStart ≤ slot ∧ slot < buybackSlotEnd := by
  rw [slots, mem_range'_1, Nat.add_sub_cancel' (by decide)]

theorem Consistent.remove (hb : b.Consistent) (slot : Nat) (del : Bool) :
    (b.removeItemFromBuyBackSlot slot del).1.Consistent := by
  unfold removeItemFromBuyBackSlot
  by_cases hslot : buybackSlotStart ≤ slot ∧ slot < buybackSlotEnd
  · rw [if_pos hslot]
    have hcurrent : buybackSlotStart ≤ (if (update b.items slot none
          b.currentBuybackSlot).isSome then slot else b.currentBuybackSlot) ∧
        (if (update b.items slot none b.currentBuybackSlot).isSome then slot
          else b.currentBuybackSlot) < buybackSlotEnd := by
      by_cases hc : (update b.items slot none b.currentBuybackSlot).isSome
      · rw [if_pos hc]
        exact hslot
      · rw [if_neg hc]
        exact ⟨hb.start_le, hb.lt_end⟩
    refine ⟨hcurrent.1, hcurrent.2, fun i hi => ?_, fun i item hi => ?_⟩
    · by_cases h : i = slot
      · subst h
        simp
      · simp only [update_of_ne h] at hi ⊢
        exact hb.free i hi
    · by_cases h : i = slot
      · subst h
        simp at hi
      · simp only [update_of_ne h] at hi ⊢
        exact hb.shown i item hi
  · rw [if_neg hslot]
    exact hb

theorem Consistent.add (hb : b.Consistent) (item : SoldItem) (etime : Nat) :
    (b.addItemToBuyBackSlot item etime).1.Consistent := by
  have hr := hb.remove b.targetSlot true
  refine ⟨?_, ?_, fun i hi => ?_, fun i x hi => ?_⟩
  · have hlo := hr.start_le
    dsimp only [addItemToBuyBackSlot]
    split <;> omega
  · have hhi := hr.lt_end
    dsimp only [addItemToBuyBackSlot]
    split <;> omega
  · dsimp only [addItemToBuyBackSlot] at hi ⊢
    by_cases h : i = b.targetSlot
    · subst h
      simp at hi
    · simp only [update_of_ne h] at hi ⊢
      exact hr.free i hi
  · dsimp only [addItemToBuyBackSlot] at hi ⊢
    by_cases h : i = b.targetSlot
    · subst h
      simp only [update_self, some.injEq] at hi ⊢
      rw [hi]
      exact ⟨rfl, rfl⟩
    · simp only [update_of_ne h] at hi ⊢
      exact hr.shown i x hi

/-- Every event keeps the fields in step with the items. -/
theorem Consistent.step (hb : b.Consistent) (e : Event) : (b.step e).Consistent := by
  cases e with
  | sell item etime => exact hb.add item etime
  | buyback slot =>
    unfold BuyBack.step
    by_cases h : (b.getItemFromBuyBackSlot slot).isSome
    · simp only [h, if_true]
      exact hb.remove slot false
    · simp only [h]
      exact hb

/-! ## The search -/

theorem searchOldest_taken (is : List Nat) (slot time oldest : Nat) :
    (b.searchOldest is slot time oldest).2 = oldest ∨
      (b.searchOldest is slot time oldest).2 ∈ is ∧
        (b.items (b.searchOldest is slot time oldest).2).isSome := by
  induction is generalizing time oldest with
  | nil => exact .inl rfl
  | cons i is ih =>
    unfold searchOldest
    by_cases hi : (b.items i).isNone
    · rw [if_pos hi]
      exact .inl rfl
    · rw [if_neg hi]
      have hsome : (b.items i).isSome := by simpa [isSome_iff_ne_none] using hi
      by_cases ht : b.buybackTimestamp i < time
      · rw [if_pos ht]
        rcases ih (b.buybackTimestamp i) i with heq | ⟨hmem, htaken⟩
        · rw [heq]
          exact .inr ⟨mem_cons_self, hsome⟩
        · exact .inr ⟨mem_cons_of_mem i hmem, htaken⟩
      · rw [if_neg ht]
        rcases ih time oldest with heq | ⟨hmem, htaken⟩
        · exact .inl heq
        · exact .inr ⟨mem_cons_of_mem i hmem, htaken⟩

theorem searchOldest_zero (is : List Nat) (slot oldest : Nat) :
    (b.searchOldest is slot 0 oldest).2 = oldest := by
  induction is with
  | nil => rfl
  | cons i is ih =>
    unfold searchOldest
    by_cases hi : (b.items i).isNone
    · rw [if_pos hi]
    · rw [if_neg hi]
      exact ih

theorem searchOldest_le {is : List Nat} (htaken : ∀ i ∈ is, (b.items i).isSome) {slot oldest : Nat} :
    ∀ i ∈ oldest :: is, b.buybackTimestamp
      (b.searchOldest is slot (b.buybackTimestamp oldest) oldest).2 ≤ b.buybackTimestamp i := by
  induction is generalizing oldest with
  | nil => simp [searchOldest]
  | cons i is ih =>
    have hi : ¬ (b.items i).isNone := by
      simpa [isSome_iff_ne_none] using htaken i mem_cons_self
    have hrest : ∀ i ∈ is, (b.items i).isSome := fun j hj => htaken j (mem_cons_of_mem i hj)
    unfold searchOldest
    rw [if_neg hi]
    by_cases ht : b.buybackTimestamp i < b.buybackTimestamp oldest
    · rw [if_pos ht]
      intro j hj
      have hle := @ih hrest i
      rcases mem_cons.1 hj with rfl | hj
      · exact le_trans (hle i mem_cons_self) (le_of_lt ht)
      · exact hle j hj
    · rw [if_neg ht]
      intro j hj
      have hle := @ih hrest oldest
      rcases mem_cons.1 hj with rfl | hj
      · exact hle j mem_cons_self
      · rcases mem_cons.1 hj with rfl | hj
        · exact le_trans (hle oldest mem_cons_self) (Nat.le_of_not_lt ht)
        · exact hle j (mem_cons_of_mem _ hj)

/-! ## Sales -/

theorem slots_eq_cons : slots = buybackSlotStart :: List.range' (buybackSlotStart + 1)
    (buybackSlotEnd - (buybackSlotStart + 1)) := rfl

theorem targetSlot_of_free (h : b.items b.currentBuybackSlot = none) : b.targetSlot = b.currentBuybackSlot := by
  unfold targetSlot
  simp [h]

theorem targetSlot_of_taken (h : (b.items b.currentBuybackSlot).isSome) :
    b.targetSlot = (b.searchOldest (List.range' (buybackSlotStart + 1)
      (buybackSlotEnd - (buybackSlotStart + 1))) b.currentBuybackSlot
      (b.buybackTimestamp buybackSlotStart) buybackSlotStart).2 := by
  unfold targetSlot
  simp [h]

theorem targetSlot_mem (hb : b.Consistent) : b.targetSlot ∈ slots := by
  by_cases h : (b.items b.currentBuybackSlot).isSome
  · rw [targetSlot_of_taken h]
    rcases searchOldest_taken (b := b) _ b.currentBuybackSlot _ buybackSlotStart with heq | ⟨hmem, -⟩
    · rw [heq]
      exact mem_cons_self
    · exact mem_cons_of_mem _ hmem
  · rw [targetSlot_of_free (by simpa using h)]
    exact mem_slots.2 ⟨hb.start_le, hb.lt_end⟩

theorem deleted_eq (hb : b.Consistent) (item : SoldItem) (etime : Nat) :
    (b.addItemToBuyBackSlot item etime).2 = b.items b.targetSlot := by
  change (b.removeItemFromBuyBackSlot b.targetSlot true).2 = _
  unfold removeItemFromBuyBackSlot
  rw [if_pos (mem_slots.1 (targetSlot_mem hb))]
  rfl

theorem targetSlot_taken (hcurrent : (b.items b.currentBuybackSlot).isSome)
    (hstart : (b.items buybackSlotStart).isSome) : (b.items b.targetSlot).isSome := by
  rw [targetSlot_of_taken hcurrent]
  rcases searchOldest_taken (b := b) _ b.currentBuybackSlot _ buybackSlotStart with heq | ⟨-, htaken⟩
  · rw [heq]
    exact hstart
  · exact htaken

theorem keepsWhileFree_iff_findsFree (hb : b.Consistent) (e : Event) : b.KeepsWhileFree e ↔ b.FindsFree e := by
  cases e with
  | buyback slot => exact Iff.rfl
  | sell item etime =>
    dsimp only [KeepsWhileFree, FindsFree]
    rw [deleted_eq hb]
    constructor
    · intro h
      by_contra hcon
      obtain ⟨hcurrent, hstart, hfull⟩ : b.items b.currentBuybackSlot ≠ none ∧
          b.items buybackSlotStart ≠ none ∧ ¬ b.Full := by
        rw [not_or, not_or] at hcon
        exact hcon
      obtain ⟨deleted, hdeleted⟩ := isSome_iff_exists.1 (targetSlot_taken
        (isSome_iff_ne_none.2 hcurrent) (isSome_iff_ne_none.2 hstart))
      exact hfull (h deleted hdeleted).1
    · intro h deleted hdeleted
      by_cases hcurrent : b.items b.currentBuybackSlot = none
      · rw [targetSlot_of_free hcurrent, hcurrent] at hdeleted
        cases hdeleted
      · have htarget := targetSlot_of_taken (isSome_iff_ne_none.2 hcurrent)
        rcases h with hfree | hfree | hfull
        · exact absurd hfree hcurrent
        · -- the first slot is free, so its timestamp is zero and the search stays there
          rw [(hb.free _ hfree).2.2, searchOldest_zero] at htarget
          rw [htarget, hfree] at hdeleted
          cases hdeleted
        · refine ⟨hfull, b.targetSlot, targetSlot_mem hb, hdeleted, ?_⟩
          rw [htarget]
          exact searchOldest_le fun i hi => hfull i (slots_eq_cons ▸ mem_cons_of_mem _ hi)

/-- **The buyback list over whole runs.** From an empty list, every sale deletes only the oldest item of
a full list if and only if every sale finds the slot under the cursor or the first slot free, or none. -/
theorem keepsWhileFree_iff (es : List Event) :
    AllSteps step KeepsWhileFree {} es ↔ AllSteps step FindsFree {} es :=
  AllSteps.congr_invariant (I := Consistent) (fun _ e hb => hb.step e)
    (fun _ e hb => keepsWhileFree_iff_findsFree hb e) consistent_new es

def twelveSold : List Event :=
  (range 12).map (fun n => .sell { guid := n + 1, count := 1 } (108000 + n)) ++
    [.buyback 80, .buyback 77, .sell { guid := 13, count := 1 } 108012]

/-- A sale deletes what is in the slot of the cursor, although another slot is free. -/
theorem deletes_while_free :
    ((run step {} twelveSold).addItemToBuyBackSlot { guid := 14, count := 1 } 108013).2 =
        some { guid := 1, count := 1 } ∧
      ¬ AllSteps step KeepsWhileFree {}
        (twelveSold ++ [.sell { guid := 14, count := 1 } 108013]) := by
  have hdeleted : ((run step {} twelveSold).addItemToBuyBackSlot { guid := 14, count := 1 }
      108013).2 = some { guid := 1, count := 1 } := by decide +kernel
  refine ⟨hdeleted, fun h => ?_⟩
  obtain ⟨-, hlast, -⟩ := allSteps_append.1 h
  have hfree : ((run step {} twelveSold).items 77).isSome = false := by decide +kernel
  have hfull := (hlast _ hdeleted).1 77 (by decide)
  exact absurd hfull (by simp [hfree])

end BuyBack

end Axium.Player
