import Axium.Guilds.Gold
import Axium.Player.EquipRefusal
import Axium.Player.Selling

/-!
# Buying from a vendor

`Player::BuyItemFromVendorSlot` and `_StoreOrEquipNewItem`. What a purchase costs is checked requirement by
requirement, for the count that was asked for; then the count is clipped, the place of the new items is planned,
and only then everything is paid. A purchase that is refused changes nothing but what `CanEquipNewItem` does to
the off-hand, and one that goes through costs exactly what the vendor charges (`buy_exact`).

The stock of the vendor after a purchase, the refund data, quests and packets are left out.
-/

namespace Axium.Player

open Guilds Stacks Vault Function List Inventory Option

/-- `ItemExtendedCostEntry`. The pairs are `reqitem[i]` and `reqitemcount[i]`. -/
structure ItemExtendedCost where
  reqhonorpoints : Nat := 0
  reqarenapoints : Nat := 0
  reqarenaslot : Nat := 0
  reqitems : List (Nat × Nat) := []
  reqpersonalarenarating : Nat := 0

/-- What a purchase reads of `ItemTemplate`. `extCostRequiresGold` is the bit
`ITEM_FLAGS_EXTRA_EXT_COST_REQUIRES_GOLD` of `Flags2`. -/
structure BuyTemplate where
  buyCount : Byte := 1
  buyPrice : Int := 0
  extCostRequiresGold : Bool := false
  requiredReputationFaction : Nat := 0
  requiredReputationRank : Nat := 0

structure VendorItem where
  item : Nat
  maxcount : Nat := 0
  extendedCost : Nat := 0

def VendorItem.isGoldRequired (crItem : VendorItem) (pProto : BuyTemplate) : Bool :=
  pProto.extCostRequiresGold || crItem.extendedCost = 0

/-- A creature that sells. `currentCount` is `GetVendorItemCurrentCount`, and `discounted` the price with
`GetReputationPriceDiscount`, a `float`, rounded down. -/
structure Vendor where
  items : List VendorItem
  isTransmogrifier : Bool := false
  isMallInOne : Bool := false
  isVanityRewards : Bool := false
  isVipVendor : Bool := false
  currentCount : VendorItem → Nat
  discounted : Nat → Nat

def Vendor.find (v : Vendor) (vendorslot item : Nat) : Option VendorItem :=
  if v.isTransmogrifier ∨ v.isMallInOne ∨ v.isVanityRewards then v.items.find? fun crItem => crItem.item = item
  else v.items[vendorslot]?

/-- What a purchase reads beside the vendor and the belongings of the player. The limits of points are settings
that `LoadConfigSettings` does not let be negative. -/
structure Shop where
  template : Nat → Option BuyTemplate
  itemExtendedCostStore : Nat → Option ItemExtendedCost
  limits : Limits
  inTrade : Nat → Bool
  reputationRank : Nat → Nat
  isVip : Bool
  maxPersonalArenaRating : Nat → Nat
  maxHonorPoints : Nat
  maxArenaPoints : Nat
  maxHonorPoints_lt : maxHonorPoints < 2 ^ 31
  maxArenaPoints_lt : maxArenaPoints < 2 ^ 31

/-- Why nothing is bought: the codes of `SendBuyError` and `SendEquipError`, or no message at all. -/
inductive Refusal where
  | slotOutOfBag
  | notAlive
  | cantFindItem
  | distanceTooFar
  | transmogrified
  | itemAlreadySold
  | reputationRequire
  | wrongExtendedCost
  | notEnoughHonorPoints
  | notEnoughArenaPoints
  | vendorMissingTurnins
  | cantEquipRank
  | notEnoughtMoney
  | itemCantBeEquipped
  | itemDoesntGoToSlot
  | cantStore (msg : InventoryResult)
  | cantEquip

structure Shopper where
  inv : Inventory
  money : Nat
  honorPoints : Nat
  arenaPoints : Nat

structure Offer where
  vendor : Vendor
  crItem : VendorItem
  pProto : BuyTemplate

/-- `ModifyHonorPoints` and `ModifyArenaPoints`: a negative sum is stored as zero, one above the limit as the
limit. -/
def modifyPoints (limit points : Nat) (value : Int) : Nat :=
  let newValue := int32 (uint32 (int32 points + value))
  min (if newValue < 0 then 0 else newValue.toNat) limit

/-- `CanEquipNewItem`. The item of the check is deleted again. -/
def Inventory.canEquipNewItem (W : Rules) (slot : Byte) (item : Nat) (inv : Inventory) : Option Byte × Inventory :=
  { inv with nextGuid := inv.nextGuid + 1 }.canEquipItem W slot ⟨inv.nextGuid, item, 1⟩ false

def Inventory.equipNewItem (W : Rules) (slot : Byte) (item : Nat) (inv : Inventory) : Inventory :=
  { inv with nextGuid := inv.nextGuid + 1 }.equipItem W slot ⟨inv.nextGuid, item, 1⟩

namespace Shop

variable (S : Shop) (W : Rules)

def offer (creature : Option Vendor) (vendorslot item count : Nat) (slot : Byte) : Except Refusal Offer :=
  if 36 < slot.val ∧ slot ≠ nullSlot then .error .slotOutOfBag
  else if ¬ W.isAlive then .error .notAlive
  else match S.template item with
    | none => .error .cantFindItem
    | some pProto =>
      match creature with
      | none => .error .distanceTooFar
      | some vendor =>
        if vendor.items.length ≤ vendorslot then .error .cantFindItem
        else match vendor.find vendorslot item with
          | none => .error .cantFindItem
          | some crItem =>
            if crItem.item ≠ item then .error .cantFindItem
            else if vendor.isTransmogrifier then .error .transmogrified
            -- check current item amount if it limited
            else if crItem.maxcount ≠ 0 ∧ vendor.currentCount crItem < pProto.buyCount.val * count then
              .error .itemAlreadySold
            else if pProto.requiredReputationFaction ≠ 0 ∧
                S.reputationRank pProto.requiredReputationFaction < pProto.requiredReputationRank then
              .error .reputationRequire
            else .ok ⟨vendor, crItem, pProto⟩

def chargesExtendedCost (o : Offer) : Bool := o.crItem.extendedCost ≠ 0 ∧ ¬ (S.isVip ∧ o.vendor.isVipVendor)

def checkExtendedCost (o : Offer) (count : Nat) (c : Shopper) : Option Refusal :=
  if ¬ S.chargesExtendedCost o then none
  else match S.itemExtendedCostStore o.crItem.extendedCost with
    | none => some .wrongExtendedCost
    | some iece =>
      if c.honorPoints < iece.reqhonorpoints * count % 2 ^ 32 then some .notEnoughHonorPoints
      else if c.arenaPoints < iece.reqarenapoints * count % 2 ^ 32 then some .notEnoughArenaPoints
      else if iece.reqitems.any fun r =>
          r.1 ≠ 0 && !c.inv.hasItemCount W S.inTrade r.1 (r.2 * count % 2 ^ 32) false then
        some .vendorMissingTurnins
      else if S.maxPersonalArenaRating iece.reqarenaslot < iece.reqpersonalarenarating then some .cantEquipRank
      else none

end Shop

namespace Offer

variable (o : Offer)

def costsMoney : Bool := o.crItem.isGoldRequired o.pProto && 0 < o.pProto.buyPrice

/-- The count that is bought: the price of more would be above the limit of money. -/
def clipped (count : Nat) : Nat :=
  if o.costsMoney ∧ maxMoneyAmount / o.pProto.buyPrice.toNat < count then maxMoneyAmount / o.pProto.buyPrice.toNat
  else count

def price (count : Nat) : Nat :=
  if o.costsMoney then o.vendor.discounted (o.pProto.buyPrice.toNat * count) else 0

end Offer

namespace Shop

variable (S : Shop) (W : Rules)

def cost (o : Offer) : ItemExtendedCost :=
  if S.chargesExtendedCost o then (S.itemExtendedCostStore o.crItem.extendedCost).getD {} else {}

def pay (o : Offer) (count price : Nat) (c : Shopper) : Shopper :=
  let c := { c with money := modifyMoney c.money (-int32 price) }
  let iece := S.cost o
  let c := if iece.reqhonorpoints ≠ 0 then
      { c with
        honorPoints := modifyPoints S.maxHonorPoints c.honorPoints (-int32 (iece.reqhonorpoints * count % 2 ^ 32)) }
    else c
  let c := if iece.reqarenapoints ≠ 0 then
      { c with
        arenaPoints := modifyPoints S.maxArenaPoints c.arenaPoints (-int32 (iece.reqarenapoints * count % 2 ^ 32)) }
    else c
  { c with inv := c.inv.payItems W S.inTrade count iece.reqitems }

def storeOrEquipNewItem (o : Offer) (count : Nat) (bag slot : Byte) (price : Nat) (bStore : Bool) (c : Shopper) :
    Except Refusal Nat × Shopper :=
  let item := o.crItem.item
  if bStore then
    let r := S.limits.canStoreItem (W.realm c.inv.toVault) c.inv.toVault bag slot item (o.pProto.buyCount.val * count)
      none false
    if r.result ≠ .ok then (.error (.cantStore r.result), c)
    else
      let c := S.pay W o count price c
      (.ok count, { c with inv := c.inv.storeNewItem W r.dest item })
  else
    match c.inv.canEquipNewItem W slot item with
    | (none, inv) => (.error .cantEquip, { c with inv })
    | (some uiDest, inv) =>
      let c := S.pay W o count price { c with inv }
      (.ok count, { c with inv := (c.inv.equipNewItem W uiDest item).autoUnequipOffhandIfNeed W false })

/-- `BuyItemFromVendorSlot`, with the count that was bought. -/
def buyItemFromVendorSlot (creature : Option Vendor) (vendorslot item : Nat) (count bag slot : Byte) (c : Shopper) :
    Except Refusal Nat × Shopper :=
  -- cheating attempt
  let count := max count.val 1
  match S.offer W creature vendorslot item count slot with
  | .error e => (.error e, c)
  | .ok o =>
    match S.checkExtendedCost W o count c with
    | some e => (.error e, c)
    | none =>
      let count := o.clipped count
      let price := o.price count
      if c.money < price then (.error .notEnoughtMoney, c)
      else if (bag = nullBag ∧ slot = nullSlot) ∨ isInventoryPos ⟨bag, slot⟩ then
        S.storeOrEquipNewItem W o count bag slot price true c
      else if isEquipmentPos ⟨bag, slot⟩ then
        if o.pProto.buyCount.val * count ≠ 1 then (.error .itemCantBeEquipped, c)
        else S.storeOrEquipNewItem W o count bag slot price false c
      else (.error .itemDoesntGoToSlot, c)

/-! ## What is promised -/

/-- The player has every item in one place, and no more money and points than there can be. -/
structure Sound (c : Shopper) : Prop where
  inv : (Belongings.mk c.inv []).Sound W
  money : c.money ≤ maxMoneyAmount
  honorPoints : c.honorPoints ≤ S.maxHonorPoints
  arenaPoints : c.arenaPoints ≤ S.maxArenaPoints

def paidFrom (bag slot : Byte) (item : Nat) (c : Shopper) : Inventory :=
  if (bag = nullBag ∧ slot = nullSlot) ∨ isInventoryPos ⟨bag, slot⟩ then c.inv else (c.inv.canEquipNewItem W slot item).2

/-- Nothing that the checks of the cost do not see. The products are no more than a `uint32`, as is what is carried;
nothing that is paid is a bag in a bag slot; and the sum for an entry is still at hand where two requirements name it,
or where the check of the place has emptied the off-hand. -/
structure Clear (o : Offer) (asked : Nat) (bag slot : Byte) (c : Shopper) : Prop where
  honorPoints : (S.cost o).reqhonorpoints * asked < 2 ^ 32
  arenaPoints : (S.cost o).reqarenapoints * asked < 2 ^ 32
  items : ∀ r ∈ (S.cost o).reqitems, r.1 ≠ 0 → r.2 * asked < 2 ^ 32
  payable : ∀ r ∈ (S.cost o).reqitems, r.1 ≠ 0 →
    Inventory.Payable W S.inTrade r.1 (paidFrom W bag slot o.crItem.item c)
  small : ∀ r ∈ (S.cost o).reqitems, r.1 ≠ 0 →
    (paidFrom W bag slot o.crItem.item c).carried W S.inTrade r.1 < 2 ^ 32
  covered : ∀ r ∈ (S.cost o).reqitems, r.1 ≠ 0 → Inventory.Repeated (S.cost o).reqitems r.1 ∨
      (paidFrom W bag slot o.crItem.item c).slots ≠ c.inv.slots →
    owed (o.clipped asked) (S.cost o).reqitems r.1 ≤
      (paidFrom W bag slot o.crItem.item c).carried W S.inTrade r.1

end Shop

namespace Shopper

def units (c : Shopper) (e : Nat) : Nat := (Belongings.mk c.inv []).units e

structure Untouched (c c' : Shopper) : Prop where
  money : c'.money = c.money
  honorPoints : c'.honorPoints = c.honorPoints
  arenaPoints : c'.arenaPoints = c.arenaPoints
  units : ∀ e, c'.units e = c.units e

/-- `arrived` units are paid with a price in money and `n` times the extended cost, and nothing else is touched. -/
structure Exchanged (price n : Nat) (iece : ItemExtendedCost) (item arrived : Nat) (c c' : Shopper) : Prop where
  money : c'.money + price = c.money
  honorPoints : c'.honorPoints + iece.reqhonorpoints * n = c.honorPoints
  arenaPoints : c'.arenaPoints + iece.reqarenapoints * n = c.arenaPoints
  units : ∀ e, c'.units e + owed n iece.reqitems e = c.units e + if item = e then arrived else 0

theorem units_eq (c : Shopper) (e : Nat) :
    c.units e = total e c.inv.slots + (c.inv.mailed.map (amount e ∘ some)).sum := by
  unfold units Belongings.units
  simp

end Shopper

/-! ## Money and points -/

theorem modifyPoints_pay {limit points d : Nat} (hmax : points ≤ limit) (hlimit : limit < 2 ^ 31) (hle : d ≤ points) :
    modifyPoints limit points (-int32 d) + d = points := by
  unfold modifyPoints int32 uint32
  dsimp only
  split_ifs <;> omega

theorem payPoints {limit points req n : Nat} (hmax : points ≤ limit) (hlimit : limit < 2 ^ 31)
    (hle : req * n ≤ points) :
    (if req ≠ 0 then modifyPoints limit points (-int32 (req * n % 2 ^ 32)) else points) + req * n = points := by
  by_cases hreq : req = 0
  · rw [if_neg (not_not.2 hreq), hreq, zero_mul, add_zero]
  · rw [if_pos hreq, Nat.mod_eq_of_lt (by omega)]
    exact modifyPoints_pay hmax hlimit hle

namespace Shop

variable {S : Shop} {W : Rules} {o : Offer} {c : Shopper} {n price : Nat}

theorem pay_eq : S.pay W o n price c =
    { inv := c.inv.payItems W S.inTrade n (S.cost o).reqitems
      money := modifyMoney c.money (-int32 price)
      honorPoints := if (S.cost o).reqhonorpoints ≠ 0 then modifyPoints S.maxHonorPoints c.honorPoints
        (-int32 ((S.cost o).reqhonorpoints * n % 2 ^ 32)) else c.honorPoints
      arenaPoints := if (S.cost o).reqarenapoints ≠ 0 then modifyPoints S.maxArenaPoints c.arenaPoints
        (-int32 ((S.cost o).reqarenapoints * n % 2 ^ 32)) else c.arenaPoints } := by
  unfold pay
  dsimp only
  split_ifs <;> rfl

theorem pay_exact (hc : S.Sound W c) (hmoney : price ≤ c.money)
    (hhonor : (S.cost o).reqhonorpoints * n ≤ c.honorPoints) (harena : (S.cost o).reqarenapoints * n ≤ c.arenaPoints)
    (hitems : Inventory.Affordable W S.inTrade n (S.cost o).reqitems c.inv) :
    (S.pay W o n price c).money + price = c.money ∧
    (S.pay W o n price c).honorPoints + (S.cost o).reqhonorpoints * n = c.honorPoints ∧
    (S.pay W o n price c).arenaPoints + (S.cost o).reqarenapoints * n = c.arenaPoints ∧
    Inventory.Charged W S.inTrade (owed n (S.cost o).reqitems) c.inv (S.pay W o n price c).inv := by
  have hpaid : modifyMoney c.money (-int32 price) + price = c.money := by
    rw [modifyMoney_pay hc.money hmoney]
    exact Nat.sub_add_cancel hmoney
  rw [pay_eq]
  exact ⟨hpaid, payPoints hc.honorPoints S.maxHonorPoints_lt hhonor,
    payPoints hc.arenaPoints S.maxArenaPoints_lt harena, payItems_charged hc.inv.wellKept hitems⟩

end Shop

/-! ## Belongings after a payment -/

namespace Inventory

variable {W : Rules} {inv inv' : Inventory} {q : Place} {item : Nat} {slot : Byte}

theorem Taken.visible (h : Taken W inv inv') (hq : q.isBank = false)
    (hvis : Visible (W.realm inv.toVault) inv.toVault q) : Visible (W.realm inv'.toVault) inv'.toVault q := by
  obtain ⟨bank, container, place⟩ := q
  cases hq
  rcases visible_player.1 hvis with hout | ⟨b, hb, hslot⟩
  · exact visible_player.2 (.inl hout)
  · exact visible_player.2 (.inr ⟨b, (h.bags container).trans hb, hslot⟩)

theorem Taken.room (h : Taken W inv inv') {max : Nat → Nat} {e n : Nat} (hroom : Room max inv.slots e q n) :
    Room max inv'.slots e q n := by
  cases ht : inv'.slots q with
  | none =>
    refine (room_none ht).2 ?_
    cases hu : inv.slots q with
    | none => exact (room_none hu).1 hroom
    | some u => exact (Nat.le_add_left ..).trans ((room_some hu).1 hroom).2
  | some t =>
    obtain ⟨m, hm, hle⟩ := h.less ht
    obtain ⟨hentry, hmax⟩ := (room_some hm).1 hroom
    exact (room_some ht).2 ⟨hentry, (Nat.add_le_add_right hle n).trans hmax⟩

theorem Taken.sound (h : Taken W inv inv') (hinv : (Belongings.mk inv []).Sound W) :
    (Belongings.mk inv' []).Sound W where
  wellKept := h.kept
  nodup := by
    rw [h.mailed]
    exact hinv.nodup
  posted hm := by
    rw [h.mailed] at hm
    obtain ⟨hlt, hapart⟩ := hinv.posted hm
    rw [h.nextGuid]
    refine ⟨hlt, fun {_ t} hq => ?_⟩
    obtain ⟨n, hn, -⟩ := h.less hq
    exact hapart (t := { t with count := n }) hn
  alive _ := not_mem_nil
  intact _ := not_mem_nil
  given hg := absurd hg not_mem_nil

theorem sound_next (h : (Belongings.mk inv []).Sound W) :
    (Belongings.mk { inv with nextGuid := inv.nextGuid + 1 } []).Sound W where
  wellKept := h.wellKept.next (Nat.le_succ _)
  nodup := h.nodup
  posted hm := ⟨Nat.lt_succ_of_lt (h.posted hm).1, (h.posted hm).2⟩
  alive := h.alive
  intact := h.intact
  given hg := Nat.lt_succ_of_lt (h.given hg)

theorem canEquipNewItem_displaces (h : (Belongings.mk inv []).Sound W) :
    (Belongings.mk { inv with nextGuid := inv.nextGuid + 1 } []).Displaces W
      (Belongings.mk (inv.canEquipNewItem W slot item).2 []) := by
  unfold canEquipNewItem
  rw [canEquipItem_snd]
  split_ifs
  · exact (sound_next h).autoUnequip true
  · exact Belongings.Displaces.refl (sound_next h)

variable {it : Item}

theorem gearSlots_worn : ∀ s ∈ gearSlots W it, s.val < 23 := by
  have hworn : mainhand.val < 23 ∧ offhand.val < 23 ∧ rangedSlot.val < 23 := ⟨by decide, by decide, by decide⟩
  unfold gearSlots
  cases W.inventoryType it.entry with
  | weapon => split_ifs <;> simp [hworn]
  | relic =>
    dsimp only
    split_ifs <;> simp [hworn]
  | bag => simp [inventoryBags]
  | _ => simp [hworn]

theorem equipSlots_worn : ∀ s ∈ (inv.equipSlots W it).1, s.val < 23 := by
  have hworn : mainhand.val < 23 ∧ offhand.val < 23 := ⟨by decide, by decide⟩
  unfold equipSlots
  split_ifs
  · simp [hworn]
  · simp [hworn]
  · exact gearSlots_worn

theorem findEquipSlot_mem : (inv.findEquipSlot W it slot false).1 = nullSlot ∨
    (inv.findEquipSlot W it slot false).1 ∈ (inv.equipSlots W it).1 := by
  unfold findEquipSlot
  cases inv.equipSlots W it with
  | mk slots inv' =>
    dsimp only
    by_cases hasked : slot ≠ nullSlot
    · rw [if_pos hasked]
      by_cases hmem : (false = true ∨ (inv'.getItemByPos W ⟨bag0, slot⟩).isNone = true) ∧ slot ∈ slots
      · rw [if_pos hmem]
        exact .inr hmem.2
      · rw [if_neg hmem]
        exact .inl rfl
    · rw [if_neg hasked]
      cases hfind : slots.find? fun s =>
          (inv'.getItemByPos W ⟨bag0, s⟩).isNone && (s ≠ offhand || !inv'.isTwoHandUsed W) with
      | some s => exact .inr (mem_of_find?_eq_some hfind)
      | none => exact .inl rfl

theorem canEquipItem_free {dest : Byte} (h : inv.canEquipItem W slot it false = (some dest, inv')) :
    dest.val < 23 ∧ inv'.slots ⟨false, bag0, dest⟩ = none := by
  have hmem := @findEquipSlot_mem W inv slot it
  have hworn := @equipSlots_worn W inv it
  unfold canEquipItem at h
  by_cases hreach : inv.reachesSearch W it = true
  · rw [if_neg (reachesSearch_iff.1 hreach)] at h
    generalize inv.findEquipSlot W it slot false = found at h hmem
    obtain ⟨eslot, left⟩ := found
    simp only [Bool.false_eq_true, if_false, not_false_eq_true, true_and] at h hmem
    split at h
    · cases congrArg Prod.fst h
    · rename_i hslot
      obtain ⟨hdest, rfl⟩ := Prod.mk.inj h
      obtain rfl := some.inj hdest
      rw [not_or, not_or, not_or] at hslot
      obtain ⟨hnull, -, htaken, -⟩ := hslot
      have hlt : eslot.val < 23 := hworn eslot (hmem.resolve_left hnull)
      refine ⟨hlt, ?_⟩
      rw [← getItemByPos_top (by omega)]
      exact Option.not_isSome_iff_eq_none.1 htaken
  · rw [if_pos (not_not.1 fun hnot => hreach (reachesSearch_iff.2 hnot))] at h
    cases congrArg Prod.fst h

theorem equipNewItem_sound (h : (Belongings.mk inv []).Sound W) (hslot : slot.val < 23)
    (hfree : inv.slots ⟨false, bag0, slot⟩ = none) :
    (Belongings.mk (inv.equipNewItem W slot item) []).Sound W ∧
      (inv.equipNewItem W slot item).slots =
        update inv.slots ⟨false, bag0, slot⟩ (some ⟨inv.nextGuid, item, 1⟩) ∧
      (inv.equipNewItem W slot item).mailed = inv.mailed := by
  have hnext := sound_next h
  have hread : ({ inv with nextGuid := inv.nextGuid + 1 } : Inventory).getItemByPos W ⟨bag0, slot⟩ = none :=
    (getItemByPos_top (by omega)).trans hfree
  have hnew : ∀ {q t}, inv.slots q = some t → t.guid ≠ inv.nextGuid := fun hq =>
    (h.wellKept.valid.sound.fresh hq).ne
  have hmax : (⟨inv.nextGuid, item, 1⟩ : Item).count ≤ (W.template item).getMaxStackSize :=
    maxStack_pos (W.realm inv.toVault) item
  have hput := hnext.wellKept.putTop (by omega) hfree hnew hmax (Nat.lt_succ_self _)
  unfold equipNewItem equipItem
  rw [hread]
  rw [setTop_eq hnext.wellKept hfree]
  refine ⟨⟨hput, h.nodup, fun hm => ?_, fun _ => not_mem_nil, fun _ => not_mem_nil,
    fun hg => absurd hg not_mem_nil⟩, rfl, rfl⟩
  obtain ⟨hlt, hapart⟩ := hnext.posted hm
  refine ⟨hlt, fun {q t} hq => ?_⟩
  change update inv.slots ⟨false, bag0, slot⟩ (some ⟨inv.nextGuid, item, 1⟩) q = some t at hq
  by_cases hplace : q = ⟨false, bag0, slot⟩
  · rw [hplace, update_self] at hq
    rw [← some.inj hq]
    exact (h.posted hm).1.ne'
  · rw [update_of_ne hplace] at hq
    exact hapart hq

theorem carried_congr {inTrade : Nat → Bool} (h : inv'.slots = inv.slots) (e : Nat) :
    inv'.carried W inTrade e = inv.carried W inTrade e := by
  have hbags : SameBags W inv inv' := by
    intro bag
    change (if bag ∈ inventoryBags ∨ bag ∈ bankBags then Option.filter _ (inv'.slots _) else none) =
      if bag ∈ inventoryBags ∨ bag ∈ bankBags then Option.filter _ (inv.slots _) else none
    rw [h]
    rfl
  unfold carried
  rw [hbags.counted, h]

end Inventory

/-! ## The whole purchase -/

namespace Shop

variable {S : Shop} {W : Rules} {o : Offer} {c c' : Shopper} {n price asked : Nat} {bag slot : Byte}

/-- There is enough of everything, and the items are in `inv`. -/
structure Enough (S : Shop) (W : Rules) (o : Offer) (n price : Nat) (inv : Inventory) (c : Shopper) : Prop where
  money : price ≤ c.money
  honorPoints : (S.cost o).reqhonorpoints * n ≤ c.honorPoints
  arenaPoints : (S.cost o).reqarenapoints * n ≤ c.arenaPoints
  items : Inventory.Affordable W S.inTrade n (S.cost o).reqitems inv

theorem clipped_le : o.clipped asked ≤ asked := by
  unfold Offer.clipped
  split_ifs with h
  · exact h.2.le
  · exact le_rfl

theorem check_none (h : S.checkExtendedCost W o asked c = none) :
    (S.cost o).reqhonorpoints * asked % 2 ^ 32 ≤ c.honorPoints ∧
    (S.cost o).reqarenapoints * asked % 2 ^ 32 ≤ c.arenaPoints ∧
    ∀ r ∈ (S.cost o).reqitems, r.1 ≠ 0 →
      c.inv.hasItemCount W S.inTrade r.1 (r.2 * asked % 2 ^ 32) false = true := by
  unfold checkExtendedCost at h
  unfold cost
  by_cases hcharged : S.chargesExtendedCost o = true
  · rw [if_neg (not_not.2 hcharged)] at h
    rw [if_pos hcharged]
    cases hiece : S.itemExtendedCostStore o.crItem.extendedCost with
    | none =>
      rw [hiece] at h
      cases h
    | some iece =>
      rw [hiece] at h
      dsimp only [Option.getD_some] at h ⊢
      split_ifs at h with hhonor harena hitems
      refine ⟨not_lt.1 hhonor, not_lt.1 harena, fun r hr hne => ?_⟩
      by_contra hnot
      refine hitems (any_eq_true.2 ⟨r, hr, ?_⟩)
      rw [Bool.and_eq_true, Bool.not_eq_true']
      exact ⟨decide_eq_true hne, eq_false_of_ne_true hnot⟩
  · rw [if_neg hcharged]
    refine ⟨?_, ?_, fun r hr => absurd hr not_mem_nil⟩
    · simp
    · simp

theorem Clear.enough (h : S.Clear W o asked bag slot c) (hcheck : S.checkExtendedCost W o asked c = none)
    (hmoney : price ≤ c.money) :
    S.Enough W o (o.clipped asked) price (paidFrom W bag slot o.crItem.item c) c := by
  obtain ⟨hhonor, harena, hitems⟩ := check_none hcheck
  rw [Nat.mod_eq_of_lt h.honorPoints] at hhonor
  rw [Nat.mod_eq_of_lt h.arenaPoints] at harena
  have hle : o.clipped asked ≤ asked := clipped_le
  refine ⟨hmoney, (Nat.mul_le_mul_left _ hle).trans hhonor, (Nat.mul_le_mul_left _ hle).trans harena, ?_⟩
  refine affordable_of_each h.payable h.small fun r hr hne => ?_
  split_ifs with htwice
  · exact h.covered r hr hne (.inl htwice)
  · by_cases hslots : (paidFrom W bag slot o.crItem.item c).slots = c.inv.slots
    · have hfound := le_carried_of_hasItemCount (hitems r hr hne)
      rw [Nat.mod_eq_of_lt (h.items r hr hne)] at hfound
      rw [carried_congr hslots]
      exact (Nat.mul_le_mul_left _ hle).trans hfound
    · exact (le_owed hr hne).trans (h.covered r hr hne (.inr hslots))

theorem storeNewItem_mailed {inv : Inventory} {dest : List (Place × Nat)} {item : Nat} :
    (inv.storeNewItem W dest item).mailed = inv.mailed := by
  unfold storeNewItem
  dsimp only
  split_ifs
  · rfl
  · exact storeItem_mailed

theorem store_exact (hc : S.Sound W c) (hcount : o.pProto.buyCount.val * n < 2 ^ 32) :
    match S.storeOrEquipNewItem W o n bag slot price true c with
    | (.error _, c') => c' = c
    | (.ok m, c') => m = n ∧ (S.Enough W o n price c.inv c →
        Shopper.Exchanged price n (S.cost o) o.crItem.item (o.pProto.buyCount.val * n) c c') := by
  unfold storeOrEquipNewItem
  rw [if_pos rfl]
  by_cases hres : (S.limits.canStoreItem (W.realm c.inv.toVault) c.inv.toVault bag slot o.crItem.item
      (o.pProto.buyCount.val * n) none false).result ≠ .ok
  · rw [if_pos hres]
  rw [if_neg hres]
  refine ⟨rfl, fun henough => ?_⟩
  have hfits := Limits.canStoreItem_fits hcount (not_not.1 hres)
  generalize (S.limits.canStoreItem (W.realm c.inv.toVault) c.inv.toVault bag slot o.crItem.item
      (o.pProto.buyCount.val * n) none false).dest = dest at hfits
  have hsum : (dest.map Prod.snd).sum = o.pProto.buyCount.val * n := hfits.sum
  have hkept := hc.inv.wellKept
  obtain ⟨hmoney, hhonor, harena, hpaid⟩ := pay_exact hc henough.money henough.honorPoints henough.arenaPoints
    henough.items
  -- what was set aside is still free
  have hdest : ∀ q ∈ dest, q.1.isBank = false ∧
      Visible (W.realm (S.pay W o n price c).inv.toVault) (S.pay W o n price c).inv.toVault q.1 ∧
      Room (W.realm (S.pay W o n price c).inv.toVault).maxStack (S.pay W o n price c).inv.slots o.crItem.item q.1 q.2 := by
    intro q hq
    obtain ⟨⟨hvis, hplayer⟩, hroom⟩ := hfits.room q hq
    rw [show without (wanted c.inv.toVault o.crItem.item none).guid c.inv.slots = c.inv.slots from
      without_of_le hkept.valid.sound le_rfl] at hroom
    exact ⟨hplayer, hpaid.taken.visible hplayer hvis, hpaid.taken.room hroom⟩
  refine ⟨hmoney, hhonor, harena, fun e => ?_⟩
  obtain ⟨-, htotal⟩ := storeNewItem_total hpaid.taken.kept (hsum ▸ hcount) hfits.nodup hdest e
  have howed := hpaid.total e
  rw [Shopper.units_eq, Shopper.units_eq]
  dsimp only
  rw [htotal, hsum, storeNewItem_mailed, hpaid.taken.mailed]
  omega

theorem equip_exact (hc : S.Sound W c) (hcount : o.pProto.buyCount.val * n = 1) :
    match S.storeOrEquipNewItem W o n bag slot price false c with
    | (.error _, c') => c.Untouched c'
    | (.ok m, c') => m = n ∧ (S.Enough W o n price (c.inv.canEquipNewItem W slot o.crItem.item).2 c →
        Shopper.Exchanged price n (S.cost o) o.crItem.item (o.pProto.buyCount.val * n) c c') := by
  have hcheck : (Belongings.mk { c.inv with nextGuid := c.inv.nextGuid + 1 } []).Displaces W
      (Belongings.mk (c.inv.canEquipNewItem W slot o.crItem.item).2 []) :=
    canEquipNewItem_displaces hc.inv
  unfold storeOrEquipNewItem
  rw [if_neg Bool.false_ne_true]
  cases hcan : c.inv.canEquipNewItem W slot o.crItem.item with
  | mk found inv =>
    rw [hcan] at hcheck
    have hsame : ∀ e, ({ c with inv } : Shopper).units e = c.units e := hcheck.units
    cases found with
    | none => exact ⟨rfl, rfl, rfl, hsame⟩
    | some dest =>
      refine ⟨rfl, fun henough => ?_⟩
      obtain ⟨hslot, hfree⟩ := canEquipItem_free hcan
      have hc' : S.Sound W { c with inv } := ⟨hcheck.sound, hc.money, hc.honorPoints, hc.arenaPoints⟩
      obtain ⟨hmoney, hhonor, harena, hpaid⟩ := pay_exact hc' henough.money henough.honorPoints henough.arenaPoints
        henough.items
      have hfree' : (S.pay W o n price { c with inv }).inv.slots ⟨false, bag0, dest⟩ = none := by
        cases ht : (S.pay W o n price { c with inv }).inv.slots ⟨false, bag0, dest⟩ with
        | none => rfl
        | some t =>
          obtain ⟨m, hm, -⟩ := hpaid.taken.less ht
          rw [hfree] at hm
          cases hm
      obtain ⟨hsound, hslots, hmailed⟩ :
          (Belongings.mk ((S.pay W o n price { c with inv }).inv.equipNewItem W dest o.crItem.item) []).Sound W ∧ _ :=
        equipNewItem_sound (hpaid.taken.sound hcheck.sound) hslot hfree'
      refine ⟨hmoney, hhonor, harena, fun e => ?_⟩
      have hworn : ({ S.pay W o n price { c with inv } with
          inv := (S.pay W o n price { c with inv }).inv.equipNewItem W dest o.crItem.item } : Shopper).units e +
            owed n (S.cost o).reqitems e =
          ({ c with inv } : Shopper).units e + if o.crItem.item = e then 1 else 0 := by
        have hnew := total_update e (S.pay W o n price { c with inv }).inv.slots ⟨false, bag0, dest⟩
          (some ⟨(S.pay W o n price { c with inv }).inv.nextGuid, o.crItem.item, 1⟩)
        have howed := hpaid.total e
        rw [hfree', amount_none, amount_some] at hnew
        rw [Shopper.units_eq, Shopper.units_eq]
        dsimp only at hnew howed ⊢
        rw [hslots, hmailed, hpaid.taken.mailed]
        dsimp only
        omega
      rw [hsame e] at hworn
      rw [hcount, ← hworn]
      -- the off-hand is put away once more, as a whole
      exact congrArg (· + _) ((hsound.autoUnequip false).units e)

theorem offer_item {creature : Option Vendor} {vendorslot item count : Nat}
    (h : S.offer W creature vendorslot item count slot = .ok o) : o.crItem.item = item := by
  unfold offer at h
  repeat' split at h
  all_goals cases h
  rename_i hitem _ _ _
  exact not_not.1 hitem

theorem buy_result {creature : Option Vendor} {vendorslot item : Nat} {count : Byte} (hc : S.Sound W c) :
    match S.buyItemFromVendorSlot W creature vendorslot item count bag slot c with
    | (.error _, c') => c.Untouched c'
    | (.ok n, c') => ∃ o, S.offer W creature vendorslot item (max count.val 1) slot = .ok o ∧
        n = o.clipped (max count.val 1) ∧
        (S.Clear W o (max count.val 1) bag slot c →
          Shopper.Exchanged (o.price n) n (S.cost o) item (o.pProto.buyCount.val * n) c c') := by
  have hrefused : c.Untouched c := ⟨rfl, rfl, rfl, fun _ => rfl⟩
  unfold buyItemFromVendorSlot
  dsimp only
  generalize hasked : max count.val 1 = asked
  cases hoffer : S.offer W creature vendorslot item asked slot with
  | error e => exact hrefused
  | ok o =>
    dsimp only
    obtain rfl := offer_item hoffer
    cases hcheck : S.checkExtendedCost W o asked c with
    | some e => exact hrefused
    | none =>
      dsimp only
      have hle : o.clipped asked ≤ asked := clipped_le
      by_cases hmoney : c.money < o.price (o.clipped asked)
      · rw [if_pos hmoney]
        exact hrefused
      rw [if_neg hmoney]
      by_cases hstore : (bag = nullBag ∧ slot = nullSlot) ∨ isInventoryPos ⟨bag, slot⟩ = true
      · -- the new items are stored
        have hbound : o.pProto.buyCount.val * o.clipped asked < 2 ^ 32 := by
          have hmul := mul_le_mul (Nat.le_of_lt_succ o.pProto.buyCount.isLt) (hle.trans (show asked ≤ 255 by omega))
          omega
        have hfrom : paidFrom W bag slot o.crItem.item c = c.inv := if_pos hstore
        have hexact := @store_exact S W o c (o.clipped asked) (o.price (o.clipped asked)) bag slot hc hbound
        rw [if_pos hstore]
        split at hexact
        · rw [hexact]
          exact hrefused
        · refine ⟨o, rfl, hexact.1, fun hclear => ?_⟩
          rw [hexact.1]
          exact hexact.2 (hfrom ▸ hclear.enough hcheck (not_lt.1 hmoney))
      rw [if_neg hstore]
      by_cases hequip : isEquipmentPos ⟨bag, slot⟩ = true
      · rw [if_pos hequip]
        by_cases hone : o.pProto.buyCount.val * o.clipped asked ≠ 1
        · rw [if_pos hone]
          exact hrefused
        -- the new item is worn
        have hfrom : paidFrom W bag slot o.crItem.item c = (c.inv.canEquipNewItem W slot o.crItem.item).2 :=
          if_neg hstore
        have hexact := @equip_exact S W o c (o.clipped asked) (o.price (o.clipped asked)) bag slot hc (not_not.1 hone)
        rw [if_neg hone]
        split at hexact
        · exact hexact
        · refine ⟨o, rfl, hexact.1, fun hclear => ?_⟩
          rw [hexact.1]
          exact hexact.2 (hfrom ▸ hclear.enough hcheck (not_lt.1 hmoney))
      · rw [if_neg hequip]
        exact hrefused

/-- **A purchase that is refused touches nothing, and one that goes through is paid**: with the price and the extended
cost of the vendor for the count that was bought, if the checks overlook nothing. -/
theorem buy_exact {creature : Option Vendor} {vendorslot item : Nat} {count : Byte} (hc : S.Sound W c) :
    (∀ e c', S.buyItemFromVendorSlot W creature vendorslot item count bag slot c = (.error e, c') →
      c.Untouched c') ∧
    ∀ n c', S.buyItemFromVendorSlot W creature vendorslot item count bag slot c = (.ok n, c') →
      ∃ o, S.offer W creature vendorslot item (max count.val 1) slot = .ok o ∧ n = o.clipped (max count.val 1) ∧
        (S.Clear W o (max count.val 1) bag slot c →
          Shopper.Exchanged (o.price n) n (S.cost o) item (o.pProto.buyCount.val * n) c c') := by
  have hresult := @buy_result S W c bag slot creature vendorslot item count hc
  constructor
  · intro e c' hrun
    rw [hrun] at hresult
    exact hresult
  · intro n c' hrun
    rw [hrun] at hresult
    exact hresult

/-! ## A baker -/

def loafCost : ItemExtendedCost := { reqhonorpoints := 10, reqarenapoints := 3, reqitems := [(1, 4), (0, 0)] }

def stall (extCostRequiresGold isVip : Bool) : Shop where
  template := fun _ => some { buyCount := 5, buyPrice := 100, extCostRequiresGold }
  itemExtendedCostStore := fun _ => some loafCost
  limits := {}
  inTrade := fun _ => false
  reputationRank := fun _ => 4
  isVip
  maxPersonalArenaRating := fun _ => 0
  maxHonorPoints := 75000
  maxArenaPoints := 10000
  maxHonorPoints_lt := by decide
  maxArenaPoints_lt := by decide

def baker (extendedCost : Nat) (isVipVendor : Bool) : Vendor where
  items := [{ item := 2, extendedCost }]
  isVipVendor
  currentCount := fun _ => 0
  discounted := fun price => price - price / 20

def shopper : Shopper := ⟨Market.apples, 1000, 100, 50⟩

theorem shopper_sound {requiresGold isVip : Bool} : (stall requiresGold isVip).Sound coinRules shopper where
  inv := ⟨Market.apples_wellKept, nodup_nil, fun hm => absurd hm not_mem_nil, fun _ => not_mem_nil,
    fun _ => not_mem_nil, fun hg => absurd hg not_mem_nil⟩
  money := by decide
  honorPoints := (by decide : 100 ≤ 75000)
  arenaPoints := (by decide : 50 ≤ 10000)

theorem apples_payable : Inventory.Payable coinRules (fun _ => false) 1 Market.apples := by
  intro slot hslot it hit
  have hne : (⟨false, bag0, slot⟩ : Place) ≠ ⟨false, bag0, 23⟩ := by
    intro heq
    have hval : slot = 23 := congrArg Place.slot heq
    rw [hval] at hslot
    exact absurd hslot (by decide)
  have hnone : Market.apples.slots ⟨false, bag0, slot⟩ = none := update_of_ne hne ..
  rw [hnone] at hit
  cases hit

def loaves (extCostRequiresGold : Bool) (extendedCost : Nat) (isVipVendor : Bool) : Offer where
  vendor := baker extendedCost isVipVendor
  crItem := { item := 2, extendedCost }
  pProto := { buyCount := 5, buyPrice := 100, extCostRequiresGold }

theorem apples_clear : (stall true false).Clear coinRules (loaves true 7 false) 2 nullBag nullSlot shopper where
  honorPoints := by decide
  arenaPoints := by decide
  items r hr _ := by
    have hall : ∀ r ∈ loafCost.reqitems, r.2 * 2 < 2 ^ 32 := by decide
    exact hall r hr
  payable r hr hne := by
    have hall : ∀ r ∈ loafCost.reqitems, r.1 ≠ 0 → r.1 = 1 := by decide
    rw [hall r hr hne]
    exact apples_payable
  small r hr hne := by
    have hall : ∀ r ∈ loafCost.reqitems, r.1 ≠ 0 → r.1 = 1 := by decide
    rw [hall r hr hne]
    exact (by decide +kernel : Market.apples.carried coinRules (fun _ => false) 1 < 2 ^ 32)
  covered r hr hne h := by
    have hall : ∀ r ∈ loafCost.reqitems, ¬ Inventory.Repeated loafCost.reqitems r.1 := by decide
    rcases h with htwice | hmoved
    · exact absurd htwice (hall r hr)
    · exact absurd rfl hmoved

theorem buy_exact_loaves : ∃ c', (stall true false).buyItemFromVendorSlot coinRules (some (baker 7 false)) 0 2 2
      nullBag nullSlot shopper = (.ok 2, c') ∧
    Shopper.Exchanged 190 2 loafCost 2 10 shopper c' := by
  have hrun : ((stall true false).buyItemFromVendorSlot coinRules (some (baker 7 false)) 0 2 2 nullBag nullSlot
      shopper).1.toOption = some 2 := by decide +kernel
  obtain ⟨-, hexact⟩ := @buy_exact (stall true false) coinRules shopper nullBag nullSlot (some (baker 7 false)) 0 2 2
    shopper_sound
  generalize hr : (stall true false).buyItemFromVendorSlot coinRules (some (baker 7 false)) 0 2 2 nullBag nullSlot
    shopper = r at hrun hexact ⊢
  obtain ⟨res, c'⟩ := r
  cases res with
  | error e => cases hrun
  | ok n =>
    obtain rfl : n = 2 := some.inj hrun
    obtain ⟨o, hoffer, -, hpaid⟩ := hexact 2 c' rfl
    have ho : o = loaves true 7 false := (Except.ok.inj hoffer).symm
    subst ho
    exact ⟨c', rfl, hpaid apples_clear⟩

theorem bought_of_left {requiresGold isVip isVipVendor : Bool} {extendedCost price m h : Nat}
    {iece : ItemExtendedCost}
    (hrun : ((stall requiresGold isVip).buyItemFromVendorSlot coinRules (some (baker extendedCost isVipVendor)) 0 2 1
      nullBag nullSlot shopper).map (·.toOption) (fun c => (c.money, c.honorPoints)) = (some 1, m, h))
    (hleft : m + price ≠ 1000 ∨ h + iece.reqhonorpoints ≠ 100) :
    ∃ c', (stall requiresGold isVip).buyItemFromVendorSlot coinRules (some (baker extendedCost isVipVendor)) 0 2 1
      nullBag nullSlot shopper = (.ok 1, c') ∧ ¬ Shopper.Exchanged price 1 iece 2 5 shopper c' := by
  generalize (stall requiresGold isVip).buyItemFromVendorSlot coinRules (some (baker extendedCost isVipVendor))
    0 2 1 nullBag nullSlot shopper = r at hrun ⊢
  obtain ⟨res, c'⟩ := r
  obtain ⟨hres, hmoney, hhonor⟩ : res.toOption = some 1 ∧ c'.money = m ∧ c'.honorPoints = h :=
    ⟨congrArg Prod.fst hrun, congrArg (·.2.1) hrun, congrArg (·.2.2) hrun⟩
  cases res with
  | error e => cases hres
  | ok n =>
    obtain rfl : n = 1 := some.inj hres
    refine ⟨c', rfl, fun hpaid => ?_⟩
    have hprice : c'.money + price = 1000 := hpaid.money
    have hpoints : c'.honorPoints + iece.reqhonorpoints * 1 = 100 := hpaid.honorPoints
    omega

/-- `BuyPrice` and the extended cost are not what is paid: not with a discount, not for an item whose extended cost
is instead of gold, and not by a VIP at a VIP vendor. -/
theorem buy_not_listed :
    (∃ c', (stall false false).buyItemFromVendorSlot coinRules (some (baker 0 false)) 0 2 1 nullBag nullSlot shopper =
      (.ok 1, c') ∧ ¬ Shopper.Exchanged 100 1 {} 2 5 shopper c') ∧
    (∃ c', (stall false false).buyItemFromVendorSlot coinRules (some (baker 7 false)) 0 2 1 nullBag nullSlot shopper =
      (.ok 1, c') ∧ ¬ Shopper.Exchanged 100 1 loafCost 2 5 shopper c') ∧
    (∃ c', (stall true true).buyItemFromVendorSlot coinRules (some (baker 7 true)) 0 2 1 nullBag nullSlot shopper =
      (.ok 1, c') ∧ ¬ Shopper.Exchanged 95 1 loafCost 2 5 shopper c') :=
  ⟨bought_of_left (m := 905) (h := 100) (by decide +kernel) (.inl (by decide)),
    bought_of_left (m := 1000) (h := 90) (by decide +kernel) (.inl (by decide)),
    bought_of_left (m := 905) (h := 100) (by decide +kernel) (.inr (by decide))⟩

end Shop

end Axium.Player
