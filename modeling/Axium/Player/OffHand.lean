import Axium.Player.Custody

/-!
# The off-hand makes way

`AutoUnequipOffhandIfNeed` takes the item out of the off-hand: to the space that `CanStoreItem` finds when no
position is asked for, or by mail. That space is in the backpack, among the keys and tokens or in a bag that
is there (`Pack`), so nothing that is worn is touched but the off-hand, which is empty then.
-/

namespace Axium.Player

open Guilds Stacks Function Vault List

variable {W : Rules} {R : Realm} {v : Vault} {it : Item} {proto : ItemTemplate} {P : Plan Place} {bag slot : Byte}

/-! ## Where space is found -/

def Pack (R : Realm) (v : Vault) (q : Place) : Prop :=
  q.isBank = false ∧
    (q.container = bag0 ∧ (23 ≤ q.slot.val ∧ q.slot.val < 39 ∨ 86 ≤ q.slot.val ∧ q.slot.val < 150) ∨
      q.container ≠ bag0 ∧ ∃ b, v.getBagByPos R q.container = some b ∧ q.slot.val < getBagSize R b)

def InPack (R : Realm) (v : Vault) (P : Plan Place) : Prop := ∀ q ∈ P.dest, Pack R v q.1

theorem InPack.reserve (h : InPack R v P) {p : Place} (hp : Pack R v p) (space : Nat) :
    InPack R v (P.reserve p space) := by
  unfold Plan.reserve
  by_cases hin : p ∈ P.dest.map Prod.fst
  · rw [if_pos hin]
    exact h
  · rw [if_neg hin]
    intro q hq
    rcases mem_append.1 hq with hq | hq
    · exact h q hq
    · rw [mem_singleton.1 hq]
      exact hp

theorem pack_offering {a : Attempt} (ha : a ∈ attempts nullBag nullSlot proto) :
    a.Offering R v it nullBag nullSlot false fun o => Pack R v o.1 := by
  have hbag : ∀ {i skipBag skipSlot merge nonSpecialized},
      ∀ o ∈ (v.bagOffers R it i merge nonSpecialized skipBag skipSlot).2, Pack R v o.1 := by
    intro i skipBag skipSlot merge nonSpecialized o ho
    obtain ⟨b, j, hb, hlt, hoffer⟩ := mem_bagOffers ho
    rw [slotOffer_fst hoffer]
    refine ⟨rfl, .inr ⟨?_, b, hb, hlt⟩⟩
    rintro rfl
    exact bag0_not_bag (getBagByPos_some.1 hb).1
  cases a with
  | specificSlot =>
    unfold attempts at ha
    aesop
  | inventorySlots slotBegin slotEnd merge =>
    have hrange := mem_attempts ha
    simp only [mem_cons, Prod.mk.injEq, not_mem_nil, or_false] at hrange
    intro o ho
    obtain ⟨j, hle, hlt, hoffer⟩ := mem_inventoryOffers (by omega) ho
    rw [slotOffer_fst hoffer]
    exact ⟨rfl, .inl ⟨rfl, by dsimp only; omega⟩⟩
  | specificBag merge => exact fun _ => hbag
  | bags merge nonSpecialized => exact fun _ => hbag
  | emptyBagCheck => trivial

/-- When no position is asked for, what is found is in the pack. -/
theorem canStoreItem_inPack {vec : List (Place × Nat)}
    (h : v.canStoreItem R nullBag nullSlot it false = (.ok, vec)) : ∀ q ∈ vec, Pack R v q.1 := by
  obtain ⟨noSimilar, P, rfl, hrun⟩ := canStoreItem_run h
  have hfound : Found (InPack R v) noSimilar (.error (.ok, P)) := by
    rw [← hrun]
    exact run_found (fun _ _ ho hP => hP.reserve ho _) (fun _ ha => pack_offering ha) fun q hq => nomatch hq
  exact hfound.1

theorem Pack.congr {v' : Vault} {q : Place} (hq : Pack R v q)
    (hbags : ∀ bag, (bag ∈ inventoryBags ∨ bag ∈ bankBags) →
      v'.slots ⟨false, bag0, bag⟩ = v.slots ⟨false, bag0, bag⟩) : Pack R v' q := by
  refine ⟨hq.1, hq.2.imp_right fun ⟨hne, b, hb, hsize⟩ => ⟨hne, b, ?_, hsize⟩⟩
  obtain ⟨hmem, hslots, hisBag⟩ := getBagByPos_some.1 hb
  exact getBagByPos_some.2 ⟨hmem, (hbags _ hmem).trans hslots, hisBag⟩

theorem Pack.visible {q : Place} (hq : Pack R v q) : Visible R v q := by
  obtain ⟨bank, container, slot⟩ := q
  obtain ⟨rfl, hpack⟩ := hq
  dsimp only at hpack
  exact visible_player.2 (hpack.imp (fun h => ⟨h.1, by omega⟩) fun h => h.2)

theorem le_bagSlot (hbag : bag ∈ inventoryBags ∨ bag ∈ bankBags) : 19 ≤ bag.val := by
  have hall : ∀ b ∈ inventoryBags ++ bankBags, 19 ≤ b.val := by simp [inventoryBags, bankBags]
  exact hall bag (mem_append.2 hbag)

theorem Pack.not_bagSlot (hq : Pack R v q) (hbag : bag ∈ inventoryBags ∨ bag ∈ bankBags) :
    (⟨false, bag0, bag⟩ : Place) ≠ q := by
  rintro rfl
  rcases hq.2 with ⟨-, hslot⟩ | ⟨hne, -⟩
  · have hall : ∀ b ∈ inventoryBags ++ bankBags, b.val < 23 ∨ 67 ≤ b.val ∧ b.val < 74 := by
      simp [inventoryBags, bankBags]
    have hb := hall bag (mem_append.2 hbag)
    dsimp only at hslot
    omega
  · exact hne rfl

theorem Pack.not_worn (hq : Pack R v q) (hslot : slot.val < 23) : (⟨false, bag0, slot⟩ : Place) ≠ q := by
  rintro rfl
  rcases hq.2 with ⟨-, hpack⟩ | ⟨hne, -⟩
  · dsimp only at hpack
    omega
  · exact hne rfl

/-! ## Nothing else is written -/

namespace Inventory

variable {inv : Inventory} {p : Pos} {swap clone : Bool} {count : Nat} {q : Place} {dest : List (Place × Nat)}

theorem setItem_frame (hq : Pack (W.realm inv.toVault) inv.toVault q) {r : Place} (hr : r ≠ q) :
    (inv.setItem W q it).slots r = inv.slots r := by
  unfold setItem
  obtain ⟨bank, container, slot⟩ := q
  obtain ⟨rfl, hpack⟩ := hq
  rcases hpack with ⟨rfl, hslot⟩ | ⟨hne, b, hb, -⟩
  · rw [if_pos rfl]
    have hpos : ¬ isBagPos bag0 slot = true := by
      intro hpos
      have hpack : Pack (W.realm inv.toVault) inv.toVault ⟨false, bag0, slot⟩ := ⟨rfl, .inl ⟨rfl, hslot⟩⟩
      exact hpack.not_bagSlot (Inventory.isBagPos_iff.1 hpos).2 rfl
    unfold setTop
    dsimp only
    rw [if_neg hpos]
    exact update_of_ne hr ..
  · rw [if_neg hne, show inv.getBagByPos W container = some b from hb]
    dsimp only
    by_cases hguid : b.guid = it.guid
    · rw [if_pos hguid]
    · rw [if_neg hguid]
      exact update_of_ne hr ..

theorem storeAt_frame (hq : Pack (W.realm inv.toVault) inv.toVault q) {r : Place} (hr : r ≠ q) :
    (inv.storeAt W it clone q count).slots r = inv.slots r := by
  unfold storeAt
  cases inv.getItemByPos W ⟨q.container, q.slot⟩ with
  | some t => exact update_of_ne hr ..
  | none =>
    cases clone with
    | false => exact setItem_frame hq hr
    | true =>
      cases Stacks.clone (W.realm inv.toVault).maxStack inv.nextGuid it count with
      | none => rfl
      | some c =>
        let inv' : Inventory := { inv with nextGuid := inv.nextGuid + 1 }
        have hq' : Pack (W.realm inv'.toVault) inv'.toVault q := hq
        exact setItem_frame hq' hr

theorem storeItem_worn (hdest : ∀ q ∈ dest, Pack (W.realm inv.toVault) inv.toVault q.1) (hslot : slot.val < 23) :
    (storeItem W it dest inv).slots ⟨false, bag0, slot⟩ = inv.slots ⟨false, bag0, slot⟩ := by
  induction dest generalizing inv with
  | nil => rfl
  | cons q rest ih =>
    obtain ⟨q, count⟩ := q
    have hq := hdest (q, count) (mem_cons_self ..)
    unfold storeItem
    rw [ih, storeAt_frame hq (hq.not_worn hslot)]
    intro u hu
    exact Pack.congr (R := W.realm inv.toVault) (hdest u (mem_cons_of_mem _ hu)) fun bag hbag =>
      storeAt_frame hq (hq.not_bagSlot hbag)

/-! ## The forced removal -/

theorem canStoreItem_vault (h : inv.canStoreItem W p it swap = some dest) :
    inv.toVault.canStoreItem (W.realm inv.toVault) p.bag p.slot it swap = (.ok, dest) := by
  unfold canStoreItem at h
  cases hcan : inv.canStoreItemOnto W [] p it swap with
  | mk res vec =>
    rw [hcan] at h
    cases res
    case ok =>
      cases h
      exact hcan
    all_goals cases h

theorem canStoreItem_pack (h : inv.canStoreItem W ⟨nullBag, nullSlot⟩ it false = some dest) :
    ∀ q ∈ dest, Pack (W.realm inv.toVault) inv.toVault q.1 :=
  canStoreItem_inPack (canStoreItem_vault h)

theorem getItemByPos_top (hslot : slot.val < 74) :
    inv.getItemByPos W ⟨bag0, slot⟩ = inv.slots ⟨false, bag0, slot⟩ :=
  getItemByPos_of_visible (p := ⟨bag0, slot⟩) (visible_player.2 (.inl ⟨rfl, .inl hslot⟩))

theorem autoUnequip_of_free {force : Bool} (hfree : inv.getItemByPos W ⟨bag0, offhand⟩ = none) :
    inv.autoUnequipOffhandIfNeed W force = inv := by
  unfold autoUnequipOffhandIfNeed
  rw [hfree]

theorem autoUnequip_of_taken (hoff : inv.getItemByPos W ⟨bag0, offhand⟩ = some it) :
    inv.autoUnequipOffhandIfNeed W true =
      match inv.canStoreItem W ⟨nullBag, nullSlot⟩ it false with
      | some dest => storeItem W it dest (inv.removeItem W ⟨bag0, offhand⟩)
      | none =>
        { inv.removeItem W ⟨bag0, offhand⟩ with mailed := it :: (inv.removeItem W ⟨bag0, offhand⟩).mailed } := by
  unfold autoUnequipOffhandIfNeed
  rw [hoff]
  refine (if_neg ?_).trans rfl
  exact fun h => h.1 rfl

theorem removeItem_worn (hslot : slot.val < 19) (hit : inv.getItemByPos W ⟨bag0, slot⟩ = some it) :
    (inv.removeItem W ⟨bag0, slot⟩).slots = update inv.slots ⟨false, bag0, slot⟩ none := by
  have hpos : ¬ isBagPos bag0 slot = true := by
    intro hpos
    exact absurd (le_bagSlot (isBagPos_iff.1 hpos).2) (not_le.2 hslot)
  unfold removeItem
  rw [hit]
  dsimp only
  rw [if_neg hpos]
  rfl

theorem canStoreItem_pack_removed (hslot : slot.val < 19) (hit : inv.getItemByPos W ⟨bag0, slot⟩ = some it)
    (hcan : inv.canStoreItem W ⟨nullBag, nullSlot⟩ it false = some dest) :
    ∀ q ∈ dest, Pack (W.realm inv.toVault) (inv.removeItem W ⟨bag0, slot⟩).toVault q.1 := by
  intro q hq
  refine (canStoreItem_pack hcan q hq).congr fun bag hbag => ?_
  rw [removeItem_worn hslot hit, update_of_ne]
  intro heq
  have hbagSlot : bag = slot := congrArg Place.slot heq
  rw [hbagSlot] at hbag
  exact absurd (le_bagSlot hbag) (not_le.2 hslot)

theorem restore_worn {other : Byte} (hslot : slot.val < 19) (hit : inv.getItemByPos W ⟨bag0, slot⟩ = some it)
    (hcan : inv.canStoreItem W ⟨nullBag, nullSlot⟩ it false = some dest) (hother : other.val < 23) :
    (storeItem W it dest (inv.removeItem W ⟨bag0, slot⟩)).slots ⟨false, bag0, other⟩ =
      update inv.slots ⟨false, bag0, slot⟩ none ⟨false, bag0, other⟩ :=
  (storeItem_worn (canStoreItem_pack_removed hslot hit hcan) hother).trans
    (congrFun (removeItem_worn hslot hit) _)

theorem autoUnequip_worn (hslot : slot.val < 23) :
    (inv.autoUnequipOffhandIfNeed W true).slots ⟨false, bag0, slot⟩ =
      if slot = offhand then none else inv.slots ⟨false, bag0, slot⟩ := by
  have hupdate : update inv.slots ⟨false, bag0, offhand⟩ none ⟨false, bag0, slot⟩ =
      if slot = offhand then none else inv.slots ⟨false, bag0, slot⟩ := by
    by_cases heq : slot = offhand
    · rw [if_pos heq, heq, update_self]
    · rw [if_neg heq, update_of_ne (fun h => heq (congrArg Place.slot h))]
  cases hoff : inv.getItemByPos W ⟨bag0, offhand⟩ with
  | none =>
    rw [autoUnequip_of_free hoff, ← hupdate]
    rw [update_eq_self_iff.2 hoff.symm]
  | some it =>
    rw [autoUnequip_of_taken hoff, ← hupdate]
    cases hcan : inv.canStoreItem W ⟨nullBag, nullSlot⟩ it false with
    | none => exact congrFun (removeItem_worn (by decide) hoff) _
    | some dest => exact restore_worn (by decide) hoff hcan hslot

theorem autoUnequip_offhand : (inv.autoUnequipOffhandIfNeed W true).getItemByPos W ⟨bag0, offhand⟩ = none := by
  rw [getItemByPos_top (by decide), autoUnequip_worn (by decide)]
  exact if_pos rfl

theorem autoUnequip_eq_iff :
    inv.autoUnequipOffhandIfNeed W true = inv ↔ inv.getItemByPos W ⟨bag0, offhand⟩ = none := by
  constructor
  · intro h
    rw [← h]
    exact autoUnequip_offhand
  · exact autoUnequip_of_free

end Inventory

end Axium.Player
