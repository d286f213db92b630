import Axium.Lib.Drain
import Axium.Player.Custody

/-!
# Destroying a number of items

`HasItemCount` counts the items of an entry that a player has at hand, and `DestroyItemCount` destroys a
number of them: whole stacks, slot after slot in four loops, and a part of the last one. The four loops are
over the slots that `HasItemCount` counts, in another order, and together they are `Stacks.drain`
(`destroyItemCount_slots`), unless the running total, a `uint32`, wraps before the number is reached. Then
the loop goes on with a small total and destroys too much, so `destroyItemCount_iff` has the exact
condition (`NoWrap`).
-/

namespace Axium.Player

open Guilds Stacks Function Vault List Pos

variable {p : Pos} {o : Option Item} {ps : List Pos}

/-- The slots from `slotBegin` to `slotEnd` outside the bags. -/
def topSlots (slotBegin slotEnd : Nat) : List Pos :=
  (List.range' slotBegin (slotEnd - slotBegin)).map fun j => ⟨bag0, Fin.ofNat 256 j⟩

namespace Inventory

variable (W : Rules) (inTrade : Nat → Bool) (inv : Inventory)

def bagPositions (bag : Byte) : List Pos :=
  match inv.getBagByPos W bag with
  | some b => (range (W.template b.entry).containerSlots.val).map fun j => ⟨bag, Fin.ofNat 256 j⟩
  | none => []

/-! ## Counting -/

/-- `tempcount`, and whether it has reached the number. -/
structure Counting where
  tempcount : Nat := 0
  found : Bool := false

/-- The turn of a slot in the loops of `HasItemCount`. -/
def countTurn (entry count : Nat) (st : Counting) (p : Pos) : Counting :=
  if st.found then st
  else match inv.getItemByPos W p with
    | some it =>
      if it.entry = entry ∧ ¬ inTrade it.guid then
        let tempcount := (st.tempcount + it.count) % 2 ^ 32
        { tempcount := tempcount, found := count ≤ tempcount }
      else st
    | none => st

def hasItemCount (entry count : Nat) (inBankAlso : Bool) : Bool :=
  let turn := inv.countTurn W inTrade entry count
  let st := (topSlots 0 39).foldl turn {}
  let st := (topSlots 86 150).foldl turn st
  let st := inventoryBags.foldl (fun st i => (inv.bagPositions W i).foldl turn st) st
  if inBankAlso then
    let st := (topSlots 39 67).foldl turn st
    (bankBags.foldl (fun st i => (inv.bagPositions W i).foldl turn st) st).found
  else st.found

/-! ## Destroying -/

/-- `DestroyItem` of an item that has nothing in it. -/
def destroySingle (p : Pos) : Inventory :=
  match inv.getItemByPos W p with
  | some it =>
    { inv with
      slots := update inv.slots p.place none
      own := update inv.own it.guid (if p.bag = bag0 then (inv.own it.guid).1 else none, nullSlot) }
  | none => inv

/-- `DestroyItem`. What is in a bag goes first. -/
def destroyItem (p : Pos) : Inventory :=
  match inv.getItemByPos W p with
  | some it =>
    if (W.template it.entry).isBag ∧ inv.isNotEmptyBag W it then
      ((range 36).foldl (fun inv j => inv.destroySingle W ⟨p.slot, Fin.ofNat 256 j⟩) inv).destroySingle W p
    else inv.destroySingle W p
  | none => inv

/-- The inventory, `remcount`, and whether the function has returned. -/
structure Destroying where
  inv : Inventory
  remcount : Nat := 0
  done : Bool := false

/-- The turn of a slot in the loops of `DestroyItemCount`. Only the last loop asks whether an item can be
unequipped. -/
def destroyTurn (entry count : Nat) (unequipCheck : Bool) (st : Destroying) (p : Pos) : Destroying :=
  if st.done then st
  else match st.inv.getItemByPos W p with
    | some it =>
      if it.entry = entry ∧ ¬ inTrade it.guid then
        if (it.count + st.remcount) % 2 ^ 32 ≤ count then
          if unequipCheck ∧ ¬ st.inv.canUnequipItem W p false then st
          else
            let remcount := (st.remcount + it.count) % 2 ^ 32
            { inv := st.inv.destroyItem W p, remcount := remcount, done := count ≤ remcount }
        else
          let rest := uint32 ((it.count : Int) - count + st.remcount)
          { st with
            inv := { st.inv with slots := update st.inv.slots p.place (some { it with count := rest }) }
            done := true }
      else st
    | none => st

def destroyItemCount (entry count : Nat) (unequipCheck : Bool) : Inventory :=
  let turn := destroyTurn W inTrade entry count
  -- in inventory
  let st := (topSlots 23 39).foldl (turn false) { inv }
  let st := (topSlots 86 150).foldl (turn false) st
  -- in inventory bags
  let st := inventoryBags.foldl (fun st i => (st.inv.bagPositions W i).foldl (turn false) st) st
  -- in equipment and bag list
  ((topSlots 0 23).foldl (turn unequipCheck) st).inv

/-! ## The slots that are looked at -/

/-- The slots that `HasItemCount` counts outside the bank, in its order. -/
def counted : List Pos := topSlots 0 39 ++ topSlots 86 150 ++ inventoryBags.flatMap (inv.bagPositions W)

/-- The slots that `DestroyItemCount` goes through, in its order. -/
def scanned : List Pos :=
  topSlots 23 39 ++ topSlots 86 150 ++ inventoryBags.flatMap (inv.bagPositions W) ++ topSlots 0 23

def meant (entry guid entry' : Nat) : Bool := entry' = entry ∧ ¬ inTrade guid

/-- The number of units that `HasItemCount` counts. -/
def carried (entry : Nat) : Nat := along (meant inTrade entry) ((inv.counted W).map place) inv.slots

variable {W inTrade inv} {inv' : Inventory} {entry count : Nat}

theorem mem_topSlots {slotBegin slotEnd : Nat} (hend : slotEnd ≤ 256) :
    p ∈ topSlots slotBegin slotEnd ↔ p.bag = bag0 ∧ slotBegin ≤ p.slot.val ∧ p.slot.val < slotEnd := by
  unfold topSlots
  simp only [mem_map, mem_range'_1]
  constructor
  · rintro ⟨j, hj, rfl⟩
    have hslot : (Fin.ofNat 256 j).val = j := Nat.mod_eq_of_lt (by omega)
    rw [hslot]
    exact ⟨rfl, by omega⟩
  · obtain ⟨bag, slot⟩ := p
    rintro ⟨rfl, hlo, hhi⟩
    dsimp only at hlo hhi
    refine ⟨slot.val, by omega, ?_⟩
    congr 1
    exact Fin.ext (Nat.mod_eq_of_lt slot.isLt)

theorem mem_bagPositions {bag : Byte} :
    p ∈ inv.bagPositions W bag ↔ p.bag = bag ∧
      ∃ b, inv.getBagByPos W bag = some b ∧ p.slot.val < (W.template b.entry).containerSlots.val := by
  unfold bagPositions
  cases hb : inv.getBagByPos W bag with
  | none => simp
  | some b =>
    simp only [mem_map, mem_range, Option.some.injEq, exists_eq_left']
    constructor
    · rintro ⟨j, hj, rfl⟩
      have hslot : (Fin.ofNat 256 j).val = j := Nat.mod_eq_of_lt (by omega)
      rw [hslot]
      exact ⟨rfl, hj⟩
    · obtain ⟨bag', slot⟩ := p
      rintro ⟨rfl, hslot⟩
      refine ⟨slot.val, hslot, ?_⟩
      congr 1
      exact Fin.ext (Nat.mod_eq_of_lt slot.isLt)

theorem slot_injOn {bag : Byte} {i j : Nat} (hi : i < 256) (hj : j < 256)
    (heq : Pos.mk bag (Fin.ofNat 256 i) = ⟨bag, Fin.ofNat 256 j⟩) : i = j := by
  have hval := congrArg (·.slot.val) heq
  rwa [ofNat_val hi, ofNat_val hj] at hval

theorem nodup_topSlots {slotBegin slotEnd : Nat} (hend : slotEnd ≤ 256) :
    (topSlots slotBegin slotEnd).Nodup := by
  refine List.Nodup.map_on ?_ nodup_range'
  intro i hi j hj heq
  rw [mem_range'_1] at hi hj
  exact slot_injOn (by omega) (by omega) heq

theorem nodup_bagPositions (bag : Byte) : (inv.bagPositions W bag).Nodup := by
  unfold bagPositions
  cases inv.getBagByPos W bag with
  | none => exact .nil
  | some b =>
    refine List.Nodup.map_on ?_ nodup_range
    intro i hi j hj heq
    rw [mem_range] at hi hj
    exact slot_injOn (by omega) (by omega) heq

theorem counted_perm_scanned (W : Rules) (inv : Inventory) : (inv.counted W).Perm (inv.scanned W) := by
  have htop : topSlots 0 39 = topSlots 0 23 ++ topSlots 23 39 := by decide +kernel
  unfold counted scanned
  rw [htop, append_assoc, append_assoc]
  refine perm_append_comm.trans ?_
  exact .refl _

theorem nodup_counted (W : Rules) (inv : Inventory) : ((inv.counted W).map place).Nodup := by
  refine List.Nodup.map (fun _ _ => Pos.place_injective) ?_
  have hbags : (inventoryBags.flatMap (inv.bagPositions W)).Nodup := by
    refine nodup_flatMap.2 ⟨fun bag _ => nodup_bagPositions bag, ?_⟩
    have hne : inventoryBags.Pairwise (· ≠ ·) := by decide
    refine hne.imp fun hne p hp hp' => hne ?_
    rw [← (mem_bagPositions.1 hp).1, (mem_bagPositions.1 hp').1]
  have htop : (topSlots 0 39 ++ topSlots 86 150).Nodup := by
    refine nodup_append'.2 ⟨nodup_topSlots (by decide), nodup_topSlots (by decide), fun p hp hp' => ?_⟩
    have := ((mem_topSlots (by decide)).1 hp).2
    have := ((mem_topSlots (by decide)).1 hp').2
    omega
  refine nodup_append'.2 ⟨htop, hbags, fun p hp hp' => ?_⟩
  obtain ⟨bag, hbag, hmem⟩ := mem_flatMap.1 hp'
  have hbag0 : p.bag = bag0 := by
    rcases mem_append.1 hp with hp | hp
    · exact ((mem_topSlots (by decide)).1 hp).1
    · exact ((mem_topSlots (by decide)).1 hp).1
  rw [← (mem_bagPositions.1 hmem).1, hbag0] at hbag
  exact absurd hbag (by decide)

theorem nodup_scanned (W : Rules) (inv : Inventory) : ((inv.scanned W).map place).Nodup :=
  ((counted_perm_scanned W inv).map place).nodup_iff.1 (nodup_counted W inv)

def SameBags (W : Rules) (inv inv' : Inventory) : Prop :=
  ∀ bag, inv'.getBagByPos W bag = inv.getBagByPos W bag

theorem SameBags.bagPositions (h : SameBags W inv inv') (bag : Byte) :
    inv'.bagPositions W bag = inv.bagPositions W bag := by
  unfold Inventory.bagPositions
  rw [h bag]

theorem SameBags.counted (h : SameBags W inv inv') : inv'.counted W = inv.counted W := by
  unfold Inventory.counted
  rw [funext h.bagPositions]

theorem SameBags.scanned (h : SameBags W inv inv') : inv'.scanned W = inv.scanned W := by
  unfold Inventory.scanned
  rw [funext h.bagPositions]

theorem getItemByPos_of_counted (hp : p ∈ inv.counted W) :
    inv.getItemByPos W p = inv.slots p.place := by
  apply getItemByPos_of_visible
  unfold Inventory.counted at hp
  simp only [mem_append, mem_topSlots (show 39 ≤ 256 by decide), mem_topSlots (show 150 ≤ 256 by decide),
    mem_flatMap, mem_bagPositions] at hp
  rcases hp with (⟨hbag, -, hslot⟩ | ⟨hbag, hlo, hhi⟩) | ⟨bag, -, rfl, b, hb, hslot⟩
  · exact visible_player.2 (.inl ⟨hbag, by omega⟩)
  · exact visible_player.2 (.inl ⟨hbag, by omega⟩)
  · exact visible_player.2 (.inr ⟨b, hb, hslot⟩)

theorem getItemByPos_of_scanned (hbags : SameBags W inv inv') (hp : p ∈ inv.scanned W) :
    inv'.getItemByPos W p = inv'.slots p.place := by
  apply getItemByPos_of_counted
  rw [hbags.counted]
  exact (counted_perm_scanned W inv).mem_iff.2 hp

/-! ## One turn -/

section Turns

variable {st : Destroying} {unequipCheck : Bool} {p : Pos} {it : Item}

theorem destroyTurn_of_done (h : st.done = true) : destroyTurn W inTrade entry count unequipCheck st p = st :=
  if_pos h

theorem foldl_destroyTurn_of_done (ps : List Pos) (h : st.done = true) :
    ps.foldl (destroyTurn W inTrade entry count unequipCheck) st = st := by
  induction ps with
  | nil => rfl
  | cons p ps ih => rw [foldl_cons, destroyTurn_of_done h, ih]

theorem destroyTurn_of_not_meant
    (h : ∀ t, st.inv.getItemByPos W p = some t → meant inTrade entry t.guid t.entry = false) :
    destroyTurn W inTrade entry count unequipCheck st p = st := by
  unfold destroyTurn
  split
  · rfl
  · split
    · rename_i t ht
      rw [if_neg]
      intro hmeant
      have hnot := h t ht
      exact (decide_eq_false_iff_not.1 hnot) hmeant
    · rfl

theorem destroyItem_slots (hit : st.inv.getItemByPos W p = some it) (hbag : (W.template it.entry).isBag = false) :
    (st.inv.destroyItem W p).slots = update st.inv.slots p.place none := by
  unfold destroyItem destroySingle
  simp only [hit]
  rw [if_neg]
  rw [hbag]
  exact fun h => absurd h.1 Bool.false_ne_true

theorem destroyTurn_of_meant (hdone : st.done = false) (hit : st.inv.getItemByPos W p = some it)
    (hmeant : meant inTrade entry it.guid it.entry = true) :
    destroyTurn W inTrade entry count false st p =
      if (it.count + st.remcount) % 2 ^ 32 ≤ count then
        { inv := st.inv.destroyItem W p
          remcount := (st.remcount + it.count) % 2 ^ 32
          done := count ≤ (st.remcount + it.count) % 2 ^ 32 }
      else
        { inv := { st.inv with
            slots := update st.inv.slots p.place
              (some { it with count := uint32 ((it.count : Int) - count + st.remcount) }) }
          remcount := st.remcount
          done := true } := by
  rw [destroyTurn, if_neg (by rw [hdone]; decide), hit]
  simp only
  have hgoes : ¬ (false = true ∧ ¬ st.inv.canUnequipItem W p false = true) := fun h => Bool.false_ne_true h.1
  rw [if_pos (decide_eq_true_iff.1 hmeant), if_neg hgoes]

structure MeantAt (W : Rules) (inTrade : Nat → Bool) (entry : Nat) (st : Destroying) (p : Pos) (it : Item) :
    Prop where
  slot : st.inv.slots p.place = some it
  item : st.inv.getItemByPos W p = some it
  meant : meant inTrade entry it.guid it.entry = true
  notBag : (W.template it.entry).isBag = false

theorem entry_of_meant {guid entry' : Nat} (h : meant inTrade entry guid entry' = true) : entry' = entry :=
  (decide_eq_true_iff.1 h).1

theorem picked_of_meant (hmeant : meant inTrade entry it.guid it.entry = true) (n : Nat) :
    picked (meant inTrade entry) (some { it with count := n }) = n := if_pos hmeant

theorem MeantAt.picked_eq (h : MeantAt W inTrade entry st p it) :
    picked (Inventory.meant inTrade entry) (st.inv.slots p.place) = it.count := by
  rw [h.slot]
  exact picked_of_meant h.meant it.count

theorem skip_or_meant (hread : st.inv.getItemByPos W p = st.inv.slots p.place) :
    (destroyTurn W inTrade entry count unequipCheck st p = st ∧
      picked (meant inTrade entry) (st.inv.slots p.place) = 0 ∧
      ∀ n, lower (meant inTrade entry) n (st.inv.slots p.place) = st.inv.slots p.place) ∨
    ∃ it, st.inv.slots p.place = some it ∧ meant inTrade entry it.guid it.entry = true := by
  cases hslot : st.inv.slots p.place with
  | none =>
    refine .inl ⟨destroyTurn_of_not_meant fun t ht => ?_, rfl, fun _ => rfl⟩
    rw [hread, hslot] at ht
    cases ht
  | some it =>
    cases hmeant : meant inTrade entry it.guid it.entry with
    | true => exact .inr ⟨it, rfl, hmeant⟩
    | false =>
      refine .inl ⟨destroyTurn_of_not_meant fun t ht => ?_, by simp [picked, hmeant], fun n =>
        lower_of_not_pick hmeant⟩
      rw [hread, hslot] at ht
      rw [← Option.some.inj ht]
      exact hmeant

theorem meantAt_of_meant (hentry : (W.template entry).isBag = false)
    (hread : st.inv.getItemByPos W p = st.inv.slots p.place)
    (h : ∃ it, st.inv.slots p.place = some it ∧ meant inTrade entry it.guid it.entry = true) :
    ∃ it, MeantAt W inTrade entry st p it := by
  obtain ⟨it, hslot, hmeant⟩ := h
  exact ⟨it, hslot, hread.trans hslot, hmeant, entry_of_meant hmeant ▸ hentry⟩

/-- The slot can be read, and what is meant in it can be destroyed alone. -/
structure Removable (W : Rules) (inTrade : Nat → Bool) (entry : Nat) (st : Destroying) (p : Pos) : Prop where
  read : st.inv.getItemByPos W p = st.inv.slots p.place
  emptied : ∀ it, st.inv.slots p.place = some it → meant inTrade entry it.guid it.entry = true →
    (st.inv.destroyItem W p).slots = update st.inv.slots p.place none

theorem sameBags_of_update {q : Place} (hslots : inv'.slots = update inv.slots q o)
    (hold : ∀ t, inv.slots q = some t → (W.template t.entry).isBag = false)
    (hnew : ∀ t, o = some t → (W.template t.entry).isBag = false) : SameBags W inv inv' := by
  intro bag
  change (if bag ∈ inventoryBags ∨ bag ∈ bankBags then Option.filter _ (inv'.slots _) else none) =
    if bag ∈ inventoryBags ∨ bag ∈ bankBags then Option.filter _ (inv.slots _) else none
  rw [hslots]
  by_cases hq : (⟨false, bag0, bag⟩ : Place) = q
  · rw [hq, update_self]
    have hnone : ∀ {o : Option Item}, (∀ t, o = some t → (W.template t.entry).isBag = false) →
        o.filter (fun it => (W.template it.entry).isBag) = none := by
      intro o ho
      cases o with
      | none => rfl
      | some t => simp [ho t rfl]
    exact if_congr Iff.rfl ((hnone hnew).trans (hnone hold).symm) rfl
  · rw [update_of_ne hq]
    rfl

theorem destroyTurn_sameBags (hentry : (W.template entry).isBag = false)
    (hread : st.inv.getItemByPos W p = st.inv.slots p.place) :
    SameBags W st.inv (destroyTurn W inTrade entry count false st p).inv := by
  cases hdone : st.done with
  | true =>
    rw [destroyTurn_of_done hdone]
    exact fun _ => rfl
  | false =>
    rcases skip_or_meant hread with ⟨hskip, -, -⟩ | hmeant
    · rw [hskip]
      exact fun _ => rfl
    · obtain ⟨it, hm⟩ := meantAt_of_meant hentry hread hmeant
      have hold : ∀ t, st.inv.slots p.place = some t → (W.template t.entry).isBag = false := by
        intro t ht
        rw [hm.slot] at ht
        rw [← Option.some.inj ht]
        exact hm.notBag
      rw [destroyTurn_of_meant hdone hm.item hm.meant]
      split
      · exact sameBags_of_update (destroyItem_slots hm.item hm.notBag) hold fun t ht => by cases ht
      · refine sameBags_of_update rfl hold fun t ht => ?_
        rw [← Option.some.inj ht]
        exact hm.notBag

end Turns

/-! ## The loops -/

/-- The numbers are added to `r` until `count` is reached, and the sum stays below 2^32. -/
def NoWrap (count : Nat) : Nat → List Nat → Prop
  | _, [] => True
  | r, c :: cs => r + c < 2 ^ 32 ∧ (r + c < count → NoWrap count (r + c) cs)

instance NoWrap.decidable (count : Nat) : ∀ (r : Nat) (cs : List Nat), Decidable (NoWrap count r cs)
  | _, [] => isTrue trivial
  | r, c :: cs =>
    have := NoWrap.decidable count (r + c) cs
    inferInstanceAs (Decidable (r + c < 2 ^ 32 ∧ (r + c < count → NoWrap count (r + c) cs)))

theorem noWrap_of_sum_lt {count r : Nat} {cs : List Nat} (h : r + cs.sum < 2 ^ 32) : NoWrap count r cs := by
  induction cs generalizing r with
  | nil => trivial
  | cons c cs ih =>
    rw [sum_cons] at h
    exact ⟨by omega, fun _ => ih (by omega)⟩

def meantCounts (inTrade : Nat → Bool) (entry : Nat) (slots : Store Place Nat) (ps : List Pos) : List Nat :=
  ps.map fun p => picked (meant inTrade entry) (slots p.place)

theorem sum_meantCounts (slots : Store Place Nat) (ps : List Pos) :
    (meantCounts inTrade entry slots ps).sum = along (meant inTrade entry) (ps.map place) slots := by
  rw [along, map_map]
  rfl

theorem meantCounts_update {slots : Store Place Nat}
    (hp : p.place ∉ ps.map place) :
    meantCounts inTrade entry (update slots p.place o) ps = meantCounts inTrade entry slots ps := by
  apply map_congr_left
  intro p' hp'
  rw [update_of_ne]
  exact fun heq => hp (heq ▸ mem_map_of_mem hp')

theorem noWrap_cons {r : Nat} {slots : Store Place Nat} :
    NoWrap count r (meantCounts inTrade entry slots (p :: ps)) ↔
      r + picked (meant inTrade entry) (slots p.place) < 2 ^ 32 ∧
        (r + picked (meant inTrade entry) (slots p.place) < count →
          NoWrap count (r + picked (meant inTrade entry) (slots p.place))
            (meantCounts inTrade entry slots ps)) :=
  Iff.rfl

section Loops

variable {st : Destroying} {ps : List Pos}

/-- The positions are among those that are scanned, each once, and the bags are those of the beginning. -/
structure Ahead (W : Rules) (inv : Inventory) (st : Destroying) (ps : List Pos) : Prop where
  nodup : (ps.map place).Nodup
  scanned : ∀ p ∈ ps, p ∈ inv.scanned W
  bags : SameBags W inv st.inv

namespace Ahead

variable {p : Pos}

theorem read (h : Ahead W inv st (p :: ps)) : st.inv.getItemByPos W p = st.inv.slots p.place :=
  getItemByPos_of_scanned h.bags (h.scanned p mem_cons_self)

theorem turn (h : Ahead W inv st (p :: ps)) (hentry : (W.template entry).isBag = false) :
    Ahead W inv (destroyTurn W inTrade entry count false st p) ps where
  nodup := (nodup_cons.1 h.nodup).2
  scanned p' hp' := h.scanned p' (mem_cons_of_mem p hp')
  bags bag := (destroyTurn_sameBags hentry h.read bag).trans (h.bags bag)

theorem notMem (h : Ahead W inv st (p :: ps)) : p.place ∉ ps.map place := (nodup_cons.1 h.nodup).1

end Ahead

theorem foldl_sameBags (hentry : (W.template entry).isBag = false) (hbags : SameBags W inv st.inv)
    (hscanned : ∀ p ∈ ps, p ∈ inv.scanned W) :
    SameBags W inv (ps.foldl (destroyTurn W inTrade entry count false) st).inv := by
  induction ps generalizing st with
  | nil => exact hbags
  | cons p ps ih =>
    obtain ⟨hp, hps⟩ := forall_mem_cons.1 hscanned
    refine ih (fun bag => ?_) hps
    exact (destroyTurn_sameBags hentry (getItemByPos_of_scanned hbags hp) bag).trans (hbags bag)

/-- **Without a wrap the loop takes what is left of the number.** `I` is what holds before each turn: the stack in
the next slot can be destroyed. -/
theorem foldl_destroyTurn_slots {I : Destroying → List Pos → Prop}
    (hI : ∀ {st p ps}, I st (p :: ps) → Removable W inTrade entry st p ∧
      p.place ∉ ps.map place ∧ I (destroyTurn W inTrade entry count false st p) ps)
    (h : I st ps) (hdone : st.done = false) (hlt : st.remcount < count) (hcount : count < 2 ^ 32)
    (hwrap : NoWrap count st.remcount (meantCounts inTrade entry st.inv.slots ps)) :
    (ps.foldl (destroyTurn W inTrade entry count false) st).inv.slots =
      drain (meant inTrade entry) (count - st.remcount) (ps.map place) st.inv.slots := by
  induction ps generalizing st with
  | nil => rfl
  | cons p ps ih =>
    have hne : count - st.remcount ≠ 0 := by omega
    obtain ⟨hp, hnotMem, hnext⟩ := hI h
    rw [foldl_cons, map_cons, drain_cons hne]
    rcases skip_or_meant hp.read with ⟨hskip, hzero, hlower⟩ | ⟨it, hslot, hmeant⟩
    · rw [hskip] at hnext ⊢
      rw [hzero, hlower, update_eq_self]
      refine ih hnext hdone hlt ?_
      have hrest := (noWrap_cons.1 hwrap).2
      rw [hzero] at hrest
      exact hrest hlt
    · have hpicked : picked (meant inTrade entry) (st.inv.slots p.place) = it.count := by
        rw [hslot]
        exact picked_of_meant hmeant it.count
      have hemptied := hp.emptied it hslot hmeant
      obtain ⟨hsum, hrest⟩ := noWrap_cons.1 hwrap
      rw [hpicked] at hsum hrest
      have hmod : (it.count + st.remcount) % 2 ^ 32 = st.remcount + it.count := by
        rw [add_comm]
        exact Nat.mod_eq_of_lt hsum
      have hmod' : (st.remcount + it.count) % 2 ^ 32 = st.remcount + it.count := Nat.mod_eq_of_lt hsum
      rw [destroyTurn_of_meant hdone (hp.read.trans hslot) hmeant, hmod, hmod'] at hnext ⊢
      rw [hpicked, hslot]
      by_cases hle : st.remcount + it.count ≤ count
      · rw [if_pos hle] at hnext ⊢
        rw [lower_of_le hmeant (by omega)]
        by_cases hreach : count ≤ st.remcount + it.count
        · have hzero : count - st.remcount - it.count = 0 := by omega
          rw [foldl_destroyTurn_of_done _ (decide_eq_true hreach), hzero, drain_zero]
          exact hemptied
        · have hlater := ih hnext (decide_eq_false hreach) (Nat.lt_of_not_le hreach) ?_
          · rw [hlater]
            rw [hemptied, Nat.sub_sub]
          · dsimp only
            rw [hemptied, meantCounts_update hnotMem]
            exact hrest (Nat.lt_of_not_le hreach)
      · have hpart : uint32 ((it.count : Int) - count + st.remcount) = it.count - (count - st.remcount) := by
          unfold uint32
          omega
        have hzero : count - st.remcount - it.count = 0 := by omega
        rw [if_neg hle] at hnext ⊢
        rw [foldl_destroyTurn_of_done _ rfl, lower_of_lt hmeant (by omega), hzero, drain_zero]
        rw [hpart]

/-- The loop is not over while the number is not reached, and the stacks are `uint32`s. -/
structure Fits (count : Nat) (st : Destroying) : Prop where
  remcount_lt : st.done = false → st.remcount < count
  counts : ∀ q it, st.inv.slots q = some it → it.count < 2 ^ 32

theorem rest_lt {c r : Nat} (hc : c < 2 ^ 32) (hr : r < count) (hcount : count < 2 ^ 32)
    (hlt : ¬ (c + r) % 2 ^ 32 ≤ count) :
    uint32 ((c : Int) - count + r) = (c + r) % 2 ^ 32 - count ∧ (c + r) % 2 ^ 32 - count < c := by
  unfold uint32
  omega

theorem picked_le_count (t : Item) : picked (meant inTrade entry) (some t) ≤ t.count := by
  unfold picked
  simp only
  split
  · exact le_refl _
  · exact Nat.zero_le _

theorem frame_of_lower {it : Item} (hm : MeantAt W inTrade entry st p it)
    (hcounts : ∀ q t, st.inv.slots q = some t → t.count < 2 ^ 32)
    (hslots : inv'.slots = update st.inv.slots p.place o) (ho : ∀ t, o = some t → t.count < it.count) :
    (∀ q t, inv'.slots q = some t → t.count < 2 ^ 32) ∧
      (∀ q, q ≠ p.place → inv'.slots q = st.inv.slots q) ∧
      picked (meant inTrade entry) (inv'.slots p.place) ≤
        picked (meant inTrade entry) (st.inv.slots p.place) := by
  rw [hslots]
  refine ⟨fun q t ht => ?_, fun q hq => update_of_ne hq .., ?_⟩
  · by_cases hq : q = p.place
    · rw [hq, update_self] at ht
      exact (ho t ht).trans (hcounts _ _ hm.slot)
    · rw [update_of_ne hq] at ht
      exact hcounts q t ht
  · rw [update_self, hm.picked_eq]
    cases o with
    | none => exact Nat.zero_le _
    | some t => exact (picked_le_count t).trans (ho t rfl).le

variable (inTrade) in
theorem destroyTurn_frame (h : Ahead W inv st (p :: ps)) (hentry : (W.template entry).isBag = false)
    (hcount : count < 2 ^ 32) (hfits : Fits count st) :
    let st' := destroyTurn W inTrade entry count false st p
    Fits count st' ∧ (∀ q, q ≠ p.place → st'.inv.slots q = st.inv.slots q) ∧
      picked (meant inTrade entry) (st'.inv.slots p.place) ≤
        picked (meant inTrade entry) (st.inv.slots p.place) := by
  intro st'
  cases hdone : st.done with
  | true =>
    have hsame : st' = st := destroyTurn_of_done hdone
    rw [hsame]
    exact ⟨hfits, fun _ _ => rfl, le_refl _⟩
  | false =>
    rcases skip_or_meant h.read with ⟨hskip, -, -⟩ | hmeant
    · have hsame : st' = st := hskip
      rw [hsame]
      exact ⟨hfits, fun _ _ => rfl, le_refl _⟩
    · obtain ⟨it, hm⟩ := meantAt_of_meant hentry h.read hmeant
      have hturn : st' = _ := destroyTurn_of_meant hdone hm.item hm.meant
      by_cases hwhole : (it.count + st.remcount) % 2 ^ 32 ≤ count
      · rw [if_pos hwhole] at hturn
        have hslots : st'.inv.slots = update st.inv.slots p.place none := by
          rw [hturn]
          exact destroyItem_slots hm.item hm.notBag
        obtain ⟨hcounts, hframe⟩ := frame_of_lower hm hfits.counts hslots fun t ht => by cases ht
        refine ⟨⟨fun hnot => ?_, hcounts⟩, hframe⟩
        rw [hturn] at hnot ⊢
        exact Nat.lt_of_not_le (of_decide_eq_false hnot)
      · rw [if_neg hwhole] at hturn
        obtain ⟨hrest, hless⟩ := rest_lt (hfits.counts _ _ hm.slot) (hfits.remcount_lt hdone) hcount hwhole
        have hslots : st'.inv.slots = update st.inv.slots p.place
            (some { it with count := (it.count + st.remcount) % 2 ^ 32 - count }) := by
          rw [hturn, hrest]
        obtain ⟨hcounts, hframe⟩ := frame_of_lower hm hfits.counts hslots fun t ht => by
          rw [← Option.some.inj ht]
          exact hless
        refine ⟨⟨fun hnot => ?_, hcounts⟩, hframe⟩
        rw [hturn] at hnot
        cases hnot

theorem along_destroyTurn (h : Ahead W inv st (p :: ps)) (hframe : ∀ q, q ≠ p.place →
      (destroyTurn W inTrade entry count false st p).inv.slots q = st.inv.slots q) :
    along (meant inTrade entry) (ps.map place) (destroyTurn W inTrade entry count false st p).inv.slots =
      along (meant inTrade entry) (ps.map place) st.inv.slots := by
  rw [← sum_meantCounts, ← sum_meantCounts]
  congr 1
  apply map_congr_left
  intro p' hp'
  rw [hframe]
  exact fun heq => h.notMem (heq ▸ mem_map_of_mem hp')

variable (inTrade) in
theorem foldl_destroyTurn_le (hentry : (W.template entry).isBag = false) (hcount : count < 2 ^ 32)
    (h : Ahead W inv st ps) (hfits : Fits count st) :
    let st' := ps.foldl (destroyTurn W inTrade entry count false) st
    (∀ q, q ∉ ps.map place → st'.inv.slots q = st.inv.slots q) ∧
      along (meant inTrade entry) (ps.map place) st'.inv.slots ≤
        along (meant inTrade entry) (ps.map place) st.inv.slots := by
  induction ps generalizing st with
  | nil => exact ⟨fun _ _ => rfl, le_refl _⟩
  | cons p ps ih =>
    obtain ⟨hfits', hframe, hle⟩ := destroyTurn_frame inTrade h hentry hcount hfits
    obtain ⟨hrest, hsum⟩ := ih (h.turn hentry) hfits'
    have hsame := along_destroyTurn h hframe
    constructor
    · intro q hq
      rw [map_cons, mem_cons, not_or] at hq
      exact (hrest q hq.2).trans (hframe q hq.1)
    · rw [foldl_cons, map_cons, along_cons, along_cons, hrest _ h.notMem, ← hsame]
      exact add_le_add hle hsum

variable (inTrade) in
theorem foldl_destroyTurn_wrap (hentry : (W.template entry).isBag = false) (hcount : count < 2 ^ 32)
    (h : Ahead W inv st ps) (hfits : Fits count st) (hdone : st.done = false)
    (hwrap : ¬ NoWrap count st.remcount (meantCounts inTrade entry st.inv.slots ps)) :
    along (meant inTrade entry) (ps.map place)
        (ps.foldl (destroyTurn W inTrade entry count false) st).inv.slots + (count - st.remcount) <
      along (meant inTrade entry) (ps.map place) st.inv.slots := by
  induction ps generalizing st with
  | nil => exact absurd trivial hwrap
  | cons p ps ih =>
    have hlt := hfits.remcount_lt hdone
    obtain ⟨hfits', hframe, -⟩ := destroyTurn_frame inTrade h hentry hcount hfits
    have hahead : Ahead W inv (destroyTurn W inTrade entry count false st p) ps := h.turn hentry
    obtain ⟨hrest, hsum⟩ := foldl_destroyTurn_le inTrade hentry hcount hahead hfits'
    have hsame := along_destroyTurn h hframe
    rw [foldl_cons, map_cons, along_cons, along_cons, hrest _ h.notMem]
    rcases skip_or_meant h.read with ⟨hskip, hzero, -⟩ | hmeant
    · rw [hskip] at hahead hsum ⊢
      rw [noWrap_cons, hzero] at hwrap
      have hnext := ih hahead hfits hdone fun hno => hwrap ⟨by omega, fun _ => hno⟩
      omega
    · obtain ⟨it, hm⟩ := meantAt_of_meant hentry h.read hmeant
      have hc := hfits.counts _ _ hm.slot
      have hturn : destroyTurn W inTrade entry count false st p = _ :=
        destroyTurn_of_meant hdone hm.item hm.meant
      rw [noWrap_cons, hm.picked_eq] at hwrap
      rw [hm.picked_eq]
      by_cases hwhole : (it.count + st.remcount) % 2 ^ 32 ≤ count
      · rw [if_pos hwhole] at hturn
        have hnow : picked (meant inTrade entry)
            ((destroyTurn W inTrade entry count false st p).inv.slots p.place) = 0 := by
          rw [hturn]
          rw [destroyItem_slots hm.item hm.notBag, update_self]
          rfl
        by_cases hsmall : st.remcount + it.count < 2 ^ 32
        · -- the total wraps later
          have hmod : (st.remcount + it.count) % 2 ^ 32 = st.remcount + it.count := Nat.mod_eq_of_lt hsmall
          have hlater : st.remcount + it.count < count ∧ ¬ NoWrap count (st.remcount + it.count)
              (meantCounts inTrade entry st.inv.slots ps) := by
            by_contra hno
            exact hwrap ⟨hsmall, fun hlt => not_not.1 fun hw => hno ⟨hlt, hw⟩⟩
          have hrem : (destroyTurn W inTrade entry count false st p).remcount = st.remcount + it.count := by
            rw [hturn]
            exact hmod
          have hnot : (destroyTurn W inTrade entry count false st p).done = false := by
            rw [hturn]
            rw [hmod]
            exact decide_eq_false (not_le.2 hlater.1)
          have hcounts : meantCounts inTrade entry (destroyTurn W inTrade entry count false st p).inv.slots ps
              = meantCounts inTrade entry st.inv.slots ps := by
            rw [hturn]
            dsimp only
            rw [destroyItem_slots hm.item hm.notBag, meantCounts_update h.notMem]
          have hnext := ih hahead hfits' hnot (by rw [hrem, hcounts]; exact hlater.2)
          omega
        · omega
      · rw [if_neg hwhole] at hturn
        obtain ⟨hpart, -⟩ := rest_lt hc hlt hcount hwhole
        have hnow : picked (meant inTrade entry)
            ((destroyTurn W inTrade entry count false st p).inv.slots p.place) =
              (it.count + st.remcount) % 2 ^ 32 - count := by
          rw [hturn]
          dsimp only
          rw [update_self, picked_of_meant hm.meant, hpart]
        have hbig : 2 ^ 32 ≤ it.count + st.remcount := by
          by_contra hsmall
          exact hwrap ⟨by omega, fun hlt => absurd hlt (by omega)⟩
        omega

theorem foldl_bags {J : Destroying → Prop} (hJ : ∀ {st}, J st → SameBags W inv st.inv) {bags : List Byte}
    (hstep : ∀ {st : Destroying} {bag}, bag ∈ bags → J st →
      J ((inv.bagPositions W bag).foldl (destroyTurn W inTrade entry count false) st)) (h : J st) :
    bags.foldl (fun st i => (st.inv.bagPositions W i).foldl (destroyTurn W inTrade entry count false) st) st =
      (bags.flatMap (inv.bagPositions W)).foldl (destroyTurn W inTrade entry count false) st := by
  induction bags generalizing st with
  | nil => rfl
  | cons bag bags ih =>
    rw [flatMap_cons, foldl_cons, foldl_append, (hJ h).bagPositions]
    exact ih (fun hbag => hstep (mem_cons_of_mem _ hbag)) (hstep mem_cons_self h)

end Loops

theorem destroyItemCount_eq (hentry : (W.template entry).isBag = false) :
    inv.destroyItemCount W inTrade entry count false =
      ((inv.scanned W).foldl (destroyTurn W inTrade entry count false) { inv }).inv := by
  have hbackpack : ∀ p ∈ topSlots 23 39, p ∈ inv.scanned W := fun p hp => by simp [scanned, hp]
  have hkeys : ∀ p ∈ topSlots 86 150, p ∈ inv.scanned W := fun p hp => by simp [scanned, hp]
  have hsame : SameBags W inv (({ inv } : Destroying)).inv := fun _ => rfl
  have hstep : ∀ {st : Destroying} {bag}, bag ∈ inventoryBags → SameBags W inv st.inv →
      SameBags W inv ((inv.bagPositions W bag).foldl (destroyTurn W inTrade entry count false) st).inv := by
    intro st bag hbag hst
    refine foldl_sameBags hentry hst fun p hp => ?_
    exact mem_append_left _ (mem_append_right _ (mem_flatMap.2 ⟨bag, hbag, hp⟩))
  unfold destroyItemCount
  simp only
  rw [foldl_bags (J := fun st => SameBags W inv st.inv) id hstep
    (foldl_sameBags hentry (foldl_sameBags hentry hsame hbackpack) hkeys)]
  simp only [scanned, foldl_append]

theorem ahead_scanned (W : Rules) (inv : Inventory) : Ahead W inv { inv } (inv.scanned W) where
  nodup := nodup_scanned W inv
  scanned _ hp := hp
  bags _ := rfl

theorem destroyItemCount_sameBags (hentry : (W.template entry).isBag = false) :
    SameBags W inv (inv.destroyItemCount W inTrade entry count false) := by
  rw [destroyItemCount_eq hentry]
  exact foldl_sameBags hentry (fun _ => rfl) fun _ hp => hp

theorem carried_eq (inv : Inventory) :
    inv.carried W inTrade entry = along (meant inTrade entry) ((inv.scanned W).map place) inv.slots := by
  unfold carried along
  exact (((counted_perm_scanned W inv).map place).map _).sum_eq

theorem carried_destroyItemCount (hentry : (W.template entry).isBag = false) :
    (inv.destroyItemCount W inTrade entry count false).carried W inTrade entry =
      along (meant inTrade entry) ((inv.scanned W).map place)
        (inv.destroyItemCount W inTrade entry count false).slots := by
  rw [carried_eq, (destroyItemCount_sameBags hentry).scanned]

/-- The sums of the stacks in the order of the loops, up to the one that reaches the number, stay below
2^32. -/
def ReachesCount (W : Rules) (inTrade : Nat → Bool) (entry count : Nat) (inv : Inventory) : Prop :=
  NoWrap count 0 (meantCounts inTrade entry inv.slots (inv.scanned W))

instance (inv : Inventory) : Decidable (ReachesCount W inTrade entry count inv) :=
  inferInstanceAs (Decidable (NoWrap _ _ _))

theorem destroyItemCount_slots (hentry : (W.template entry).isBag = false) (hpos : 1 ≤ count)
    (hcount : count < 2 ^ 32) (hwrap : ReachesCount W inTrade entry count inv) :
    (inv.destroyItemCount W inTrade entry count false).slots =
      drain (meant inTrade entry) count ((inv.scanned W).map place) inv.slots := by
  rw [destroyItemCount_eq hentry]
  refine foldl_destroyTurn_slots (I := Ahead W inv) ?_ (ahead_scanned W inv) rfl hpos hcount hwrap
  intro st p ps h
  refine ⟨⟨h.read, fun it hslot hmeant => ?_⟩, h.notMem, h.turn hentry⟩
  exact destroyItem_slots (h.read.trans hslot) (entry_of_meant hmeant ▸ hentry)

/-! ## Counting and destroying -/

structure CountedUpTo (count total : Nat) (st : Counting) : Prop where
  le : st.tempcount ≤ total
  found : st.found = true → count ≤ st.tempcount

theorem CountedUpTo.turn {st : Counting} {total : Nat} (h : CountedUpTo count total st)
    (hread : inv.getItemByPos W p = inv.slots p.place) :
    CountedUpTo count (total + picked (meant inTrade entry) (inv.slots p.place))
      (inv.countTurn W inTrade entry count st p) := by
  have hskip : CountedUpTo count (total + picked (meant inTrade entry) (inv.slots p.place)) st :=
    ⟨h.le.trans (Nat.le_add_right _ _), h.found⟩
  unfold countTurn
  split
  · exact hskip
  · split
    · rename_i it hit
      split
      · rename_i hmeant
        have hpicked : picked (meant inTrade entry) (inv.slots p.place) = it.count := by
          rw [← hread, hit]
          exact if_pos (decide_eq_true_iff.2 hmeant)
        rw [hpicked]
        refine ⟨(Nat.mod_le _ _).trans (Nat.add_le_add_right h.le _), fun hfound => ?_⟩
        exact of_decide_eq_true hfound
      · exact hskip
    · exact hskip

theorem CountedUpTo.foldl (hread : ∀ p ∈ ps, inv.getItemByPos W p = inv.slots p.place)
    {st : Counting} {total : Nat} (h : CountedUpTo count total st) :
    CountedUpTo count (total + along (meant inTrade entry) (ps.map place) inv.slots)
      (ps.foldl (inv.countTurn W inTrade entry count) st) := by
  induction ps generalizing st total with
  | nil => exact h
  | cons p ps ih =>
    obtain ⟨hp, hps⟩ := forall_mem_cons.1 hread
    rw [map_cons, along_cons, ← add_assoc]
    exact ih hps (h.turn hp)

theorem le_carried_of_hasItemCount (h : inv.hasItemCount W inTrade entry count false = true) :
    count ≤ inv.carried W inTrade entry := by
  have hcount : CountedUpTo count (inv.carried W inTrade entry)
      ((inv.counted W).foldl (inv.countTurn W inTrade entry count) {}) := by
    have hall : CountedUpTo count (0 + inv.carried W inTrade entry)
        ((inv.counted W).foldl (inv.countTurn W inTrade entry count) {}) :=
      CountedUpTo.foldl (fun _ hp => getItemByPos_of_counted hp) ⟨Nat.zero_le _, nofun⟩
    rwa [zero_add] at hall
  have hfound : ((inv.counted W).foldl (inv.countTurn W inTrade entry count) {}).found = true := by
    rw [counted, foldl_append, foldl_append, foldl_flatMap]
    exact h
  exact (hcount.found hfound).trans hcount.le

/-- Exactly `count` units of the entry are destroyed, or all, and nothing else is touched. -/
structure DestroysExactly (W : Rules) (inTrade : Nat → Bool) (entry count : Nat) (inv inv' : Inventory) :
    Prop where
  removed : inv'.carried W inTrade entry + min count (inv.carried W inTrade entry) =
    inv.carried W inTrade entry
  hasItemCount : inv.hasItemCount W inTrade entry count false = true →
    inv'.carried W inTrade entry + count = inv.carried W inTrade entry
  others : ∀ q it, inv.slots q = some it → it.entry ≠ entry ∨ inTrade it.guid = true →
    inv'.slots q = some it
  free : ∀ q, inv.slots q = none → inv'.slots q = none
  elsewhere : ∀ q, q ∉ (inv.counted W).map place → inv'.slots q = inv.slots q
  nonempty : ∀ q it, inv'.slots q = some it → it.count ≠ 0

/-- **Exactly the number is destroyed, unless the running total wraps before it is reached.** -/
theorem destroyItemCount_iff (hentry : (W.template entry).isBag = false) (hpos : 1 ≤ count)
    (hcount : count < 2 ^ 32) (hstacks : ∀ q it, inv.slots q = some it → 0 < it.count ∧ it.count < 2 ^ 32) :
    DestroysExactly W inTrade entry count inv (inv.destroyItemCount W inTrade entry count false) ↔
      ReachesCount W inTrade entry count inv := by
  constructor
  · intro h
    by_contra hwrap
    have hmore := foldl_destroyTurn_wrap inTrade hentry hcount (ahead_scanned W inv)
      ⟨fun _ => hpos, fun q it hit => (hstacks q it hit).2⟩ rfl hwrap
    have hremoved := h.removed
    rw [carried_destroyItemCount hentry, carried_eq, destroyItemCount_eq hentry] at hremoved
    dsimp only at hmore
    omega
  · intro hwrap
    have hslots := destroyItemCount_slots hentry hpos hcount hwrap
    have hnodup := nodup_scanned W inv
    have hremoved : (inv.destroyItemCount W inTrade entry count false).carried W inTrade entry +
        min count (inv.carried W inTrade entry) = inv.carried W inTrade entry := by
      rw [carried_destroyItemCount hentry, carried_eq, hslots]
      exact along_drain hnodup
    refine ⟨hremoved, fun hfound => ?_, ?_, ?_, ?_, ?_⟩
    · rwa [min_eq_left (le_carried_of_hasItemCount hfound)] at hremoved
    · intro q it hit hother
      rw [hslots, drain_of_not_pick hnodup, hit]
      intro t ht
      rw [hit] at ht
      rw [← Option.some.inj ht]
      refine decide_eq_false fun hmeant => ?_
      rcases hother with hne | htrade
      · exact hne hmeant.1
      · exact hmeant.2 htrade
    · intro q hq
      rw [hslots, drain_of_not_pick hnodup, hq]
      intro t ht
      rw [hq] at ht
      cases ht
    · intro q hq
      rw [hslots, drain_of_notMem]
      exact fun hmem => hq (((counted_perm_scanned W inv).map place).mem_iff.2 hmem)
    · intro q it hit
      rw [hslots] at hit
      exact drain_count_ne_zero hnodup (fun q it hit => (hstacks q it hit).1.ne') hit

end Inventory

/-! ## Coins in the backpack -/

def coinRules : Rules := { Rules.lax with template := fun _ => { stackable := 0 } }

def coins (n : Nat) : Inventory :=
  { Inventory.empty 4 with
    slots := fun q =>
      if q.isBank = false ∧ q.container = bag0 ∧ 23 ≤ q.slot.val ∧ q.slot.val < 26 then
        some ⟨q.slot.val - 22, 1, n⟩
      else none }

theorem coins_count {n : Nat} (hn : 0 < n) (hlt : n < 2 ^ 32) (q : Place) (it : Item)
    (h : (coins n).slots q = some it) : 0 < it.count ∧ it.count < 2 ^ 32 := by
  unfold coins at h
  dsimp only at h
  split at h
  · rw [← Option.some.inj h]
    exact ⟨hn, hlt⟩
  · cases h

theorem destroyItemCount_coins :
    Inventory.DestroysExactly coinRules (fun _ => false) 1 25 (coins 20)
      ((coins 20).destroyItemCount coinRules (fun _ => false) 1 25 false) :=
  (Inventory.destroyItemCount_iff rfl (by decide) (by decide) (coins_count (by decide) (by decide))).2
    (by decide +kernel)

/-- The sum of three full stacks passes 32 bits. -/
theorem destroyItemCount_all :
    (coinRules.template 1).getMaxStackSize = 0x7FFFFFFE ∧
      (coins 0x7FFFFFFE).carried coinRules (fun _ => false) 1 = 0xFFFFFFFF + 2147483643 ∧
      ((coins 0x7FFFFFFE).destroyItemCount coinRules (fun _ => false) 1 0xFFFFFFFF false).carried coinRules
        (fun _ => false) 1 = 0 := by
  decide +kernel

end Axium.Player
