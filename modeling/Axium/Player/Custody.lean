import Axium.Guilds.ItemMoves
import Axium.Player.Inventory

/-!
# Items in their places

An inventory is `WellKept` when every item object is in one position, which its own fields name, no stack is
too high, and no bag outside a bag slot has anything in it. Here is what taking an item out and putting it
away do to such an inventory: they do what the vault does, and the fields of the items follow.
-/

namespace Axium.Player

open Guilds Stacks Function Vault

namespace Inventory

variable {W : Rules} {inv inv' : Inventory} {p : Pos} {it t : Item}

def containerAt (inv : Inventory) (bag : Byte) : Option Nat :=
  if bag = bag0 then none else (inv.slots ⟨false, bag0, bag⟩).map (·.guid)

/-- Every item is in one position, which its fields name. Items that were sold are in buyback slots, where
their fields say nothing. -/
structure WellKept (W : Rules) (inv : Inventory) : Prop where
  valid : Valid (W.realm inv.toVault) inv.toVault
  player : ∀ {q it}, inv.slots q = some it → q.isBank = false
  tracked : ∀ {p : Pos} {it}, inv.slots p.place = some it → ¬ InBuyback p.place →
    inv.own it.guid = (inv.containerAt p.bag, p.slot)
  stash : ∀ guid j, inv.stash guid j = none

variable {bag : Byte}

theorem containerAt_congr
    (h : bag ≠ bag0 → (inv'.slots ⟨false, bag0, bag⟩).map (·.guid) = (inv.slots ⟨false, bag0, bag⟩).map (·.guid)) :
    inv'.containerAt bag = inv.containerAt bag := by
  unfold containerAt
  by_cases hbag : bag = bag0
  · rw [if_pos hbag, if_pos hbag]
  · rw [if_neg hbag, if_neg hbag, h hbag]

theorem Pos.place_injective {p q : Pos} (h : p.place = q.place) : p = q := by
  obtain ⟨bag', slot'⟩ := q
  cases h
  rfl

/-! ## What is read depends on the templates and the slots -/

theorem Valid.realm {u u' v : Vault} (h : Valid (W.realm u) v) : Valid (W.realm u') v := ⟨h.sound, h.placed⟩

theorem place_mk (q : Place) (h : q.isBank = false) : (Pos.mk q.container q.slot).place = q := by
  obtain ⟨bank, container, slot⟩ := q
  cases h
  rfl

theorem getItemByPos_some (h : inv.getItemByPos W p = some it) :
    Visible (W.realm inv.toVault) inv.toVault p.place ∧ inv.slots p.place = some it :=
  visible_of_itemAt (R := W.realm inv.toVault) (v := inv.toVault) (p := p.place) h

theorem getItemByPos_of_visible (h : Visible (W.realm inv.toVault) inv.toVault p.place) :
    inv.getItemByPos W p = inv.slots p.place :=
  itemAt_of_visible (R := W.realm inv.toVault) (v := inv.toVault) (p := p.place) h

theorem not_inBuyback_of_visible {u v : Vault} {q : Place} (h : Visible (W.realm u) v q)
    (hplayer : q.isBank = false) : ¬ InBuyback q := by
  rintro ⟨-, hbag, hlo, hhi⟩
  obtain ⟨bank, container, slot⟩ := q
  cases hplayer
  dsimp only at hbag hlo hhi
  subst hbag
  rcases visible_player.1 h with hout | ⟨b, hb, -⟩
  · omega
  · exact bag0_not_bag (getBagByPos_some.1 hb).1

theorem bagSlot_lt (h : bag ∈ inventoryBags ∨ bag ∈ bankBags) : bag.val < 74 := by
  have hmem : bag ∈ inventoryBags ++ bankBags := List.mem_append.2 h
  have hall : ∀ b ∈ inventoryBags ++ bankBags, b.val < 74 := by simp [inventoryBags, bankBags]
  exact hall bag hmem

theorem bagSlot_not_inBuyback (h : bag ∈ inventoryBags ∨ bag ∈ bankBags) : ¬ InBuyback ⟨false, bag0, bag⟩ := by
  rintro ⟨-, -, hlo, -⟩
  exact absurd (bagSlot_lt h) (not_lt.2 hlo)

namespace WellKept

variable (h : WellKept W inv)
include h

theorem visible {q : Place} (hq : inv.slots q = some it) (hsold : ¬ InBuyback q) :
    Visible (W.realm inv.toVault) inv.toVault q :=
  (h.valid.placed hq).resolve_right hsold

theorem bag_around (hp : inv.slots p.place = some it) (hbag : p.bag ≠ bag0) :
    ∃ b, inv.getBagByPos W p.bag = some b ∧ inv.slots ⟨false, bag0, p.bag⟩ = some b ∧
      p.slot.val < (W.template b.entry).containerSlots.val := by
  have hsold : ¬ InBuyback p.place := fun hsold => hbag hsold.2.1
  rcases visible_player.1 (h.visible hp hsold) with hout | ⟨b, hb, hslot⟩
  · exact absurd hout.1 hbag
  · exact ⟨b, hb, (getBagByPos_some.1 hb).2.1, hslot⟩

theorem getPos_eq (hp : inv.slots p.place = some it) (hsold : ¬ InBuyback p.place) :
    inv.getPos it.guid = p := by
  have hown := h.tracked hp hsold
  unfold getPos
  rw [hown]
  unfold containerAt
  by_cases hbag : p.bag = bag0
  · rw [if_pos hbag]
    obtain ⟨bag, slot⟩ := p
    cases hbag
    rfl
  · rw [if_neg hbag]
    obtain ⟨b, hb, hslots, -⟩ := h.bag_around hp hbag
    have hmem := (getBagByPos_some.1 hb).1
    have hbown := h.tracked (p := ⟨bag0, p.bag⟩) hslots (bagSlot_not_inBuyback hmem)
    rw [hslots]
    dsimp only [Option.map_some]
    rw [hbown]

theorem getPos_of_getItemByPos (hp : inv.getItemByPos W p = some it) : inv.getPos it.guid = p := by
  obtain ⟨hvis, hslots⟩ := getItemByPos_some hp
  exact h.getPos_eq hslots (not_inBuyback_of_visible hvis rfl)

theorem deref_eq (hp : inv.slots p.place = some it) (hsold : ¬ InBuyback p.place) : inv.deref it = it := by
  unfold deref
  rw [h.getPos_eq hp hsold, hp]
  exact if_pos rfl

theorem room_empty {bag : Byte} (hbag : bag ≠ bag0)
    (hno : ∀ b, inv.slots ⟨false, bag0, bag⟩ = some b → inv.isNotEmptyBag W b = false) (j : Byte) :
    inv.slots ⟨false, bag, j⟩ = none := by
  cases ht : inv.slots ⟨false, bag, j⟩ with
  | none => rfl
  | some t =>
    obtain ⟨b, hb, hslots, hj⟩ := h.bag_around (p := ⟨bag, j⟩) ht hbag
    have hnot := isNotEmptyBag_of_mem hb hj ht
    have hempty := hno b hslots
    unfold isNotEmptyBag at hempty
    rw [hnot] at hempty
    cases hempty

end WellKept

theorem fillRoom_self {slots : Store Place Nat} {contents : Byte → Option Item}
    (h : ∀ j, slots ⟨false, bag, j⟩ = contents j) : fillRoom slots bag contents = slots := by
  funext q
  unfold fillRoom
  by_cases hq : q.isBank = false ∧ q.container = bag
  · rw [if_pos hq]
    obtain ⟨bank, container, slot⟩ := q
    obtain ⟨rfl, rfl⟩ := hq
    exact (h slot).symm
  · rw [if_neg hq]

theorem isBagPos_iff {bag slot : Byte} :
    isBagPos bag slot = true ↔ bag = bag0 ∧ (slot ∈ inventoryBags ∨ slot ∈ bankBags) := by
  exact decide_eq_true_iff

theorem bagSlot_ne_bag0 {bag slot : Byte} (h : isBagPos bag slot = true) : slot ≠ bag0 := by
  rintro rfl
  exact bag0_not_bag (isBagPos_iff.1 h).2

/-! ## Taking out -/

section

variable (h : WellKept W inv)
include h

theorem WellKept.no_container (hit : inv.getItemByPos W p = some it) :
    (if p.bag = bag0 then (inv.own it.guid).1 else none) = none := by
  obtain ⟨hvis, hslots⟩ := getItemByPos_some hit
  by_cases hbag : p.bag = bag0
  · rw [if_pos hbag, h.tracked hslots (not_inBuyback_of_visible hvis rfl)]
    exact if_pos hbag
  · exact if_neg hbag

theorem removeItem_eq (hit : inv.getItemByPos W p = some it)
    (hempty : inv.isNotEmptyBag W it = false) :
    inv.removeItem W p =
      { inv with
        slots := update inv.slots p.place none
        own := update inv.own it.guid (none, nullSlot) } := by
  have hslots := (getItemByPos_some hit).2
  have hcontainer := h.no_container hit
  unfold removeItem
  rw [hit]
  dsimp only
  by_cases hpos : isBagPos p.bag p.slot = true
  · rw [if_pos hpos]
    obtain ⟨hbag, -⟩ := isBagPos_iff.1 hpos
    have hroom : ∀ j, inv.slots ⟨false, p.slot, j⟩ = none := by
      apply h.room_empty (bagSlot_ne_bag0 hpos)
      intro b hb
      have hplace : p.place = ⟨false, bag0, p.slot⟩ := by
        unfold Pos.place
        rw [hbag]
      rw [← hplace, hslots] at hb
      cases hb
      exact hempty
    have hslotsEq : fillRoom (update inv.slots p.place none) p.slot (fun _ => none) =
        update inv.slots p.place none := by
      apply fillRoom_self
      intro j
      by_cases hj : (⟨false, p.slot, j⟩ : Place) = p.place
      · rw [hj, update_self]
      · rw [update_of_ne hj, hroom]
    have hstashEq : (update inv.stash it.guid fun j => inv.slots ⟨false, p.slot, j⟩) = inv.stash := by
      funext guid j
      by_cases hguid : guid = it.guid
      · subst hguid
        rw [update_self, hroom, h.stash]
      · rw [update_of_ne hguid]
    rw [if_pos hbag] at hcontainer
    rw [hslotsEq, hstashEq, hcontainer]
  · rw [if_neg hpos, hcontainer]

theorem WellKept.take (hit : inv.getItemByPos W p = some it) (hempty : inv.isNotEmptyBag W it = false) :
    WellKept W (inv.removeItem W p) := by
  obtain ⟨hvis, hslots⟩ := getItemByPos_some hit
  rw [removeItem_eq h hit hempty]
  have hold : ∀ {q t}, update inv.slots p.place none q = some t → inv.slots q = some t ∧ t.guid ≠ it.guid := by
    intro q t hq
    have hqp : q ≠ p.place := by
      rintro rfl
      rw [update_self] at hq
      cases hq
    rw [update_of_ne hqp] at hq
    exact ⟨hq, fun hguid => hqp (h.valid.sound.apart hq hslots hguid)⟩
  refine ⟨Valid.realm (h.valid.take hslots fun _ => hempty), ?_, ?_, h.stash⟩
  · intro q t hq
    exact h.player (hold hq).1
  · intro q t hq hsold
    obtain ⟨hqold, hguid⟩ := hold hq
    change update inv.own it.guid (none, nullSlot) t.guid = _
    rw [update_of_ne hguid, h.tracked hqold hsold]
    refine congrArg (·, q.slot) (containerAt_congr fun hbag => ?_).symm
    -- the bag around an item is not the one that was taken out
    have hne : (⟨false, bag0, q.bag⟩ : Place) ≠ p.place := by
      intro hp
      obtain ⟨b, hb, hbslots, hj⟩ := h.bag_around hqold hbag
      rw [hp, hslots] at hbslots
      cases hbslots
      have hnot := isNotEmptyBag_of_mem hb hj hqold
      unfold isNotEmptyBag at hempty
      rw [hnot] at hempty
      cases hempty
    change Option.map _ (update inv.slots p.place none _) = _
    rw [update_of_ne hne]

theorem removeItem_slots (hit : inv.getItemByPos W p = some it) (hempty : inv.isNotEmptyBag W it = false) :
    (inv.removeItem W p).slots = update inv.slots p.place none := by
  rw [removeItem_eq h hit hempty]

theorem removeItem_nextGuid (hit : inv.getItemByPos W p = some it)
    (hempty : inv.isNotEmptyBag W it = false) : (inv.removeItem W p).nextGuid = inv.nextGuid := by
  rw [removeItem_eq h hit hempty]

end

/-! ## Putting in -/

theorem setTop_eq (h : WellKept W inv) {slot : Byte} (hfree : inv.slots ⟨false, bag0, slot⟩ = none) :
    inv.setTop slot it =
      { inv with
        slots := update inv.slots ⟨false, bag0, slot⟩ (some it)
        own := update inv.own it.guid (none, slot) } := by
  unfold setTop
  by_cases hpos : isBagPos bag0 slot = true
  · rw [if_pos hpos]
    have hslotsEq : fillRoom (update inv.slots ⟨false, bag0, slot⟩ (some it)) slot (inv.stash it.guid) =
        update inv.slots ⟨false, bag0, slot⟩ (some it) := by
      apply fillRoom_self
      intro j
      have hne : (⟨false, slot, j⟩ : Place) ≠ ⟨false, bag0, slot⟩ :=
        fun heq => bagSlot_ne_bag0 hpos (congrArg Place.container heq)
      rw [update_of_ne hne, h.stash]
      apply h.room_empty (bagSlot_ne_bag0 hpos)
      intro b hb
      rw [hfree] at hb
      cases hb
    have hstashEq : (update inv.stash it.guid fun _ => none) = inv.stash := by
      funext guid j
      by_cases hguid : guid = it.guid
      · subst hguid
        rw [update_self, h.stash]
      · rw [update_of_ne hguid]
    rw [hslotsEq, hstashEq]
  · rw [if_neg hpos]

theorem setItem_eq (h : WellKept W inv) (hp : Visible (W.realm inv.toVault) inv.toVault p.place)
    (hfree : inv.slots p.place = none) (hguid : ∀ {q t}, inv.slots q = some t → t.guid ≠ it.guid) :
    inv.setItem W p.place it =
      { inv with
        slots := update inv.slots p.place (some it)
        own := update inv.own it.guid (inv.containerAt p.bag, p.slot) } := by
  unfold setItem containerAt
  have hcontainer : p.place.container = p.bag := rfl
  rw [hcontainer]
  by_cases hbag : p.bag = bag0
  · have hplace : p.place = ⟨false, bag0, p.slot⟩ := by
      unfold Pos.place
      rw [hbag]
    rw [if_pos hbag, if_pos hbag, hplace]
    rw [hplace] at hfree
    exact setTop_eq h hfree
  · rw [if_neg hbag, if_neg hbag]
    rcases visible_player.1 hp with hout | ⟨b, hb, -⟩
    · exact absurd hout.1 hbag
    · have hslots := (getBagByPos_some.1 hb).2.1
      rw [show inv.getBagByPos W p.bag = some b from hb]
      dsimp only
      rw [if_neg (hguid hslots), hslots]
      rfl

theorem WellKept.put (h : WellKept W inv) (hp : Visible (W.realm inv.toVault) inv.toVault p.place)
    (hfree : inv.slots p.place = none) (hguid : ∀ {q t}, inv.slots q = some t → t.guid ≠ it.guid)
    (hmax : it.count ≤ (W.realm inv.toVault).maxStack it.entry) {next : Nat} (hle : inv.nextGuid ≤ next)
    (hfresh : it.guid < next) :
    WellKept W
      { inv with
        nextGuid := next
        slots := update inv.slots p.place (some it)
        own := update inv.own it.guid (inv.containerAt p.bag, p.slot) } := by
  have hnew : ∀ {q t}, update inv.slots p.place (some it) q = some t →
      q = p.place ∧ t = it ∨ q ≠ p.place ∧ inv.slots q = some t := by
    intro q t hq
    by_cases hqp : q = p.place
    · rw [hqp, update_self] at hq
      cases hq
      exact .inl ⟨hqp, rfl⟩
    · rw [update_of_ne hqp] at hq
      exact .inr ⟨hqp, hq⟩
  have hkeeps : ∀ {q t}, inv.slots q = some t →
      ∃ m, update inv.slots p.place (some it) q = some { t with count := m } := by
    intro q t hq
    have hqp : q ≠ p.place := by
      rintro rfl
      rw [hfree] at hq
      cases hq
    exact ⟨t.count, by rw [update_of_ne hqp, hq]⟩
  refine ⟨⟨?_, ?_⟩, ?_, ?_, h.stash⟩
  · exact (h.valid.sound.mono hle).put hmax hfresh (fun _ hu => hguid hu)
  · intro q t hq
    have hvis : Visible (W.realm inv.toVault) inv.toVault q ∨ InBuyback q := by
      rcases hnew hq with ⟨rfl, -⟩ | ⟨-, hold⟩
      · exact .inl hp
      · exact h.valid.placed hold
    exact hvis.imp_left fun hvis => hvis.mono rfl hkeeps
  · intro q t hq
    rcases hnew hq with ⟨rfl, -⟩ | ⟨-, hold⟩
    · rfl
    · exact h.player hold
  · intro q t hq hsold
    -- the bag around an item stays where it is
    have hcontainer : ∀ bag : Byte, (bag ≠ bag0 → (⟨false, bag0, bag⟩ : Place) ≠ p.place) →
        containerAt { inv with slots := update inv.slots p.place (some it) } bag = inv.containerAt bag := by
      intro bag hne
      refine containerAt_congr fun hbag => ?_
      change Option.map _ (update inv.slots p.place (some it) _) = _
      rw [update_of_ne (hne hbag)]
    change update inv.own it.guid _ t.guid = (containerAt { inv with slots := _ } q.bag, _)
    rcases hnew hq with ⟨hqp, rfl⟩ | ⟨-, hold⟩
    · obtain rfl := Pos.place_injective hqp
      rw [update_self, hcontainer]
      exact fun hbag heq => hbag (congrArg Place.container heq).symm
    · rw [update_of_ne (hguid hold), h.tracked hold hsold, hcontainer]
      intro hbag heq
      obtain ⟨c, -, hc, -⟩ := h.bag_around hold hbag
      rw [heq, hfree] at hc
      cases hc

theorem WellKept.resize {q : Place} {n : Nat} (h : WellKept W inv) (hq : inv.slots q = some t)
    (hmax : n ≤ (W.realm inv.toVault).maxStack t.entry) :
    WellKept W { inv with slots := update inv.slots q (some { t with count := n }) } := by
  have hkeeps : ∀ {i u}, inv.slots i = some u →
      ∃ m, update inv.slots q (some { t with count := n }) i = some { u with count := m } :=
    fun hu => setCount_keeps hq hu
  have hold : ∀ {i u}, update inv.slots q (some { t with count := n }) i = some u →
      ∃ w, inv.slots i = some w ∧ w.guid = u.guid := by
    intro i u hu
    by_cases hiq : i = q
    · rw [hiq, update_self] at hu
      cases hu
      exact ⟨t, hiq ▸ hq, rfl⟩
    · rw [update_of_ne hiq] at hu
      exact ⟨u, hu, rfl⟩
  refine ⟨⟨h.valid.sound.setCount hq hmax, ?_⟩, ?_, ?_, h.stash⟩
  · intro i u hu
    obtain ⟨w, hw, -⟩ := hold hu
    exact (h.valid.placed hw).imp_left fun hvis => hvis.mono rfl hkeeps
  · intro i u hu
    obtain ⟨w, hw, -⟩ := hold hu
    exact h.player hw
  · intro p u hu hsold
    obtain ⟨w, hw, hguid⟩ := hold hu
    rw [← hguid]
    refine (h.tracked hw hsold).trans (congrArg (·, p.slot) (containerAt_congr fun _ => ?_).symm)
    change Option.map _ (update inv.slots q (some { t with count := n }) ⟨false, bag0, p.bag⟩) = _
    by_cases hbq : (⟨false, bag0, p.bag⟩ : Place) = q
    · rw [hbq, update_self, hq]
      rfl
    · rw [update_of_ne hbq]

theorem WellKept.next (h : WellKept W inv) {next : Nat} (hle : inv.nextGuid ≤ next) :
    WellKept W { inv with nextGuid := next } :=
  ⟨⟨h.valid.sound.mono hle, h.valid.placed⟩, h.player, h.tracked, h.stash⟩

/-- `m` is the store of `inv` with other slots and another counter. -/
structure Restocked (inv : Inventory) (w : Nat × Store Place Nat) (inv' : Inventory) : Prop where
  slots : inv'.slots = w.2
  nextGuid : inv'.nextGuid = w.1
  guild : inv'.guild = inv.guild
  mailed : inv'.mailed = inv.mailed

theorem WellKept.storeAt {count : Nat} (h : WellKept W inv) (clone : Bool)
    (hit : InHand inv.nextGuid inv.slots it) (hp : Visible (W.realm inv.toVault) inv.toVault p.place)
    (hroom : Room (W.realm inv.toVault).maxStack inv.slots it.entry p.place count) :
    WellKept W (inv.storeAt W it clone p.place count) ∧
      Restocked inv (drop (W.realm inv.toVault).maxStack it (!clone) p.place count (inv.nextGuid, inv.slots))
        (inv.storeAt W it clone p.place count) := by
  unfold Inventory.storeAt drop
  dsimp only
  rw [show inv.getItemByPos W ⟨p.place.container, p.place.slot⟩ = inv.slots p.place from
    getItemByPos_of_visible hp]
  cases ht : inv.slots p.place with
  | some t =>
    obtain ⟨hentry, hmax⟩ := (room_some ht).1 hroom
    rw [← hentry] at hmax
    exact ⟨h.resize ht hmax, rfl, rfl, rfl, rfl⟩
  | none =>
    have hmax := (room_none ht).1 hroom
    cases clone with
    | false =>
      have hguid : ∀ {q t}, inv.slots q = some t → t.guid ≠ ({ it with count := count } : Item).guid :=
        fun hq => hit.apart hq
      rw [setItem_eq h hp ht hguid]
      exact ⟨h.put hp ht hguid hmax le_rfl hit.fresh, rfl, rfl, rfl, rfl⟩
    | true =>
      unfold Stacks.clone
      by_cases hzero : count = 0
      · rw [if_pos hzero]
        exact ⟨h, rfl, rfl, rfl, rfl⟩
      · rw [if_neg hzero]
        dsimp only
        rw [min_eq_left hmax]
        have hnext := h.next (Nat.le_succ inv.nextGuid)
        have hguid : ∀ {q t}, inv.slots q = some t → t.guid ≠ (⟨inv.nextGuid, it.entry, count⟩ : Item).guid :=
          fun hq => (h.valid.sound.fresh hq).ne
        rw [setItem_eq hnext hp ht hguid]
        exact ⟨h.put hp ht hguid hmax (Nat.le_succ _) (Nat.lt_succ_self _), rfl, rfl, rfl, rfl⟩

theorem WellKept.store {vec : List (Place × Nat)} (h : WellKept W inv)
    (hit : InHand inv.nextGuid inv.slots it) (hnodup : (vec.map Prod.fst).Nodup)
    (hvec : ∀ q ∈ vec, q.1.isBank = false ∧ Visible (W.realm inv.toVault) inv.toVault q.1 ∧
      Room (W.realm inv.toVault).maxStack inv.slots it.entry q.1 q.2) :
    WellKept W (storeItem W it vec inv) ∧
      Restocked inv (stow (W.realm inv.toVault).maxStack it vec (inv.nextGuid, inv.slots))
        (storeItem W it vec inv) := by
  -- by induction on the vector; while a position is left the item stays in hand
  induction vec generalizing inv with
  | nil => exact ⟨h, rfl, rfl, rfl, rfl⟩
  | cons q rest ih =>
    obtain ⟨q, count⟩ := q
    obtain ⟨hplayer, hvis, hroom⟩ := hvec (q, count) (List.mem_cons_self ..)
    rw [List.map_cons, List.nodup_cons] at hnodup
    rw [← place_mk q hplayer] at hvis hroom
    have hfirst := h.storeAt (!rest.isEmpty) hit hvis hroom
    have hdrop := drop_spec h.valid.sound hit rest.isEmpty hroom
    rw [place_mk q hplayer, Bool.not_not] at hfirst
    rw [place_mk q hplayer] at hdrop
    obtain ⟨hkept, hslots, hnext, hguild, hmailed⟩ := hfirst
    unfold storeItem stow
    cases rest with
    | nil => exact ⟨hkept, hslots, hnext, hguild, hmailed⟩
    | cons r rest =>
      have hhand := hdrop.2 rfl
      obtain ⟨hkept', hslots', hnext', hguild', hmailed'⟩ := ih hkept (by rw [hslots, hnext]; exact hhand)
        hnodup.2 (by
          intro u hu
          obtain ⟨huplayer, huvis, huroom⟩ := hvec u (List.mem_cons_of_mem _ hu)
          have hne : u.1 ∉ [q] := by
            intro hmem
            apply hnodup.1
            rw [← List.mem_singleton.1 hmem]
            exact List.mem_map.2 ⟨u, hu, rfl⟩
          refine ⟨huplayer, huvis.mono (by rw [hguild]) ?_, ?_⟩
          · intro i t ht
            rw [hslots]
            exact hdrop.1.keeps ht
          · unfold Room
            rw [hslots, hdrop.1.only hne]
            exact huroom)
      refine ⟨hkept', ?_, ?_, hguild'.trans hguild, hmailed'.trans hmailed⟩
      · rw [hslots', hslots, hnext]
        rfl
      · rw [hnext', hslots, hnext]
        rfl

def empty (next : Nat) : Inventory :=
  ⟨⟨{ leaderGuid := 0 }, fun _ => none, next⟩, fun _ => (none, nullSlot), fun _ _ => none, []⟩

theorem wellKept_empty (next : Nat) : WellKept W (empty next) where
  valid :=
    { sound := ⟨(nomatch ·), fun h => (nomatch h), (nomatch ·)⟩
      placed := (nomatch ·) }
  player := (nomatch ·)
  tracked := fun h => (nomatch h)
  stash := fun _ _ => rfl

theorem WellKept.putTop (h : WellKept W inv) {slot : Byte} (hslot : slot.val < 74)
    (hfree : inv.slots ⟨false, bag0, slot⟩ = none) (hguid : ∀ {q t}, inv.slots q = some t → t.guid ≠ it.guid)
    (hmax : it.count ≤ (W.template it.entry).getMaxStackSize) (hfresh : it.guid < inv.nextGuid) :
    WellKept W
      { inv with
        slots := update inv.slots ⟨false, bag0, slot⟩ (some it)
        own := update inv.own it.guid (none, slot) } :=
  h.put (p := ⟨bag0, slot⟩) (visible_player.2 (.inl ⟨rfl, .inl hslot⟩)) hfree hguid hmax le_rfl hfresh

end Inventory

end Axium.Player
