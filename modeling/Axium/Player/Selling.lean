import Axium.Player.BuyBack
import Axium.Player.NewItems
import Axium.Player.Payment

/-!
# Selling and buying back

`HandleSellItemOpcode` and `HandleBuybackItem` of `ItemHandler.cpp`. A vendor pays in money, or in the items that
the extended cost of the template names. The price of the sale and the price in the buyback list are computed in
two places, both in `uint32`, and money goes through the `int32` of `ModifyMoney`: `sale_fair_iff` says exactly
when a sale credits no more than it costs to undo it, and never takes money.
-/

namespace Axium.Player

open Guilds Stacks Vault Function

/-- `ExtendedCost2`, the items. -/
structure ExtendedCost2 where
  requiredItemId : Nat := 0
  requiredItemCount : Nat := 0

/-- What a vendor's dealings read beside the player. `maySell` has the checks of owner, loot, refund and name. -/
structure Market where
  limits : Limits
  sellPrice : Nat → Nat
  extendedCost2 : Nat → Nat
  extendedCost2Map : Nat → ExtendedCost2
  hasTemplate : Nat → Bool
  /-- No item has the entry 0. -/
  hasTemplate_zero : hasTemplate 0 = false
  checkExtendedCost2 : Inventory → Nat → Bool
  maySell : Item → Bool
  inTrade : Nat → Bool

/-- The player at a vendor; `entryOf` has the entries of what was sold, by guid. -/
structure Customer where
  inv : Inventory
  money : Nat
  list : BuyBack
  entryOf : Nat → Nat

/-- `ModifyMoney` sends `EQUIP_ERR_TOO_MUCH_GOLD`. -/
def tooMuchGold (money : Nat) (d : Int) : Bool := 0 ≤ d ∧ ¬ money < uint32 (maxMoneyAmount - d) ∧ d ≠ 0

namespace Market

variable (M : Market) (W : Rules) (c : Customer)

def soldItem (guid entry count : Nat) : SoldItem := ⟨guid, count, M.sellPrice entry, M.extendedCost2 entry⟩

def cost (entry : Nat) : ExtendedCost2 := M.extendedCost2Map (M.extendedCost2 entry)

/-- `count` units leave the inventory for the list: a clone of the stack, or the stack. -/
def handOver (p : Pos) (it : Item) (count etime : Nat) : Customer :=
  if count < it.count then
    { c with
      inv := { c.inv with
        slots := update c.inv.slots p.place (some { it with count := it.count - count })
        nextGuid := c.inv.nextGuid + 1 }
      list := (c.list.addItemToBuyBackSlot (M.soldItem c.inv.nextGuid it.entry count) etime).1
      entryOf := update c.entryOf c.inv.nextGuid it.entry }
  else
    { c with
      inv := c.inv.removeItem W p
      list := (c.list.addItemToBuyBackSlot (M.soldItem it.guid it.entry it.count) etime).1
      entryOf := update c.entryOf it.guid it.entry }

/-- The vendor pays for `count` units, and whether the player was told of too much gold. -/
def pay (entry count : Nat) : Customer × Bool :=
  if M.extendedCost2 entry ≠ 0 then
    let cost := M.cost entry
    if M.hasTemplate cost.requiredItemId then
      ({ c with inv := c.inv.addItem W M.limits cost.requiredItemId (cost.requiredItemCount * count % 2 ^ 32) }, false)
    else (c, false)
  else
    let money := if M.sellPrice entry ≠ 0 then M.sellPrice entry * count % 2 ^ 32 else 0
    ({ c with money := modifyMoney c.money (int32 money) }, tooMuchGold c.money (int32 money))

/-- `HandleSellItemOpcode`, with the item by its position. Nothing when the sale is refused. -/
def handleSellItem (p : Pos) (count etime : Nat) : Option (Customer × Bool) :=
  match c.inv.getItemByPos W p with
  | none => none
  | some it =>
    if ¬ M.maySell it ∨ c.inv.isNotEmptyBag W it then none
    else
      -- all of the stack for zero
      let count := if count = 0 then it.count else count
      if it.count < count then none
      else some (M.pay W (M.handOver W c p it count etime) it.entry count)

def itemCharge (slot : Nat) (sold : SoldItem) : Nat :=
  (M.extendedCost2Map sold.extendedCost2).requiredItemCount * c.list.buybackPrice slot % 2 ^ 32

def canPay (slot : Nat) (sold : SoldItem) : Bool :=
  if sold.extendedCost2 ≠ 0 then
    let cost := M.extendedCost2Map sold.extendedCost2
    M.checkExtendedCost2 c.inv sold.extendedCost2 ∧
      (cost.requiredItemId = 0 ∨ cost.requiredItemCount = 0 ∨
        c.inv.hasItemCount W M.inTrade cost.requiredItemId (M.itemCharge c slot sold) false)
  else c.list.buybackPrice slot ≤ c.money

/-- What `HandleBuybackItem` takes: `DestroyItemCount`, or money. -/
def charge (slot : Nat) (sold : SoldItem) : Customer :=
  if sold.extendedCost2 ≠ 0 then
    { c with
      inv := c.inv.destroyItemCount W M.inTrade (M.extendedCost2Map sold.extendedCost2).requiredItemId
        (M.itemCharge c slot sold) false }
  else { c with money := modifyMoney c.money (-int32 (c.list.buybackPrice slot)) }

/-- `HandleBuybackItem`. Nothing when it is refused. -/
def handleBuybackItem (slot : Nat) : Option Customer :=
  match c.list.getItemFromBuyBackSlot slot with
  | none => none
  | some sold =>
    if ¬ M.canPay W c slot sold then none
    else
      let it : Item := ⟨sold.guid, c.entryOf sold.guid, sold.count⟩
      let r := M.limits.canStoreItem (W.realm c.inv.toVault) c.inv.toVault nullBag nullSlot it.entry it.count
        (some it) false
      if r.result ≠ .ok then none
      else
        let paid := M.charge W c slot sold
        some { paid with
          inv := Inventory.storeItem W it r.dest paid.inv
          list := (paid.list.removeItemFromBuyBackSlot slot false).1 }

/-! ## What is promised -/

/-- A sale of `count` units of an entry by a player with `money`, who is `c'` after it. `inv` is what was left when
the stack was handed over, and `gold` whether the player was told of too much gold. -/
structure Fair (entry count money : Nat) (inv : Inventory) (c' : Customer) (gold : Bool) : Prop where
  /-- No more money is credited than the stack costs later. -/
  money_le : ∀ {d d' : Customer} {slot guid : Nat}, d.list.Consistent → d.money < 2 ^ 32 →
    d.list.getItemFromBuyBackSlot slot = some (M.soldItem guid entry count) →
    M.handleBuybackItem W d slot = some d' → (c'.money : Int) - money ≤ d.money - d'.money
  /-- No more items are added than the charge for the stack. -/
  items_le : M.extendedCost2 entry ≠ 0 → ∀ {d : Customer} {slot guid : Nat}, d.list.Consistent →
    d.list.getItemFromBuyBackSlot slot = some (M.soldItem guid entry count) →
    total (M.cost entry).requiredItemId c'.inv.slots ≤
      total (M.cost entry).requiredItemId inv.slots + M.itemCharge d slot (M.soldItem guid entry count)
  /-- No more items are added than are taken later. -/
  items_taken : M.extendedCost2 entry ≠ 0 → ∀ {d d' : Customer} {slot guid : Nat}, d.inv.WellKept W →
    d.list.Consistent → d.list.getItemFromBuyBackSlot slot = some (M.soldItem guid entry count) →
    M.handleBuybackItem W d slot = some d' →
    total (M.cost entry).requiredItemId c'.inv.slots +
        total (M.cost entry).requiredItemId (M.charge W d slot (M.soldItem guid entry count)).inv.slots ≤
      total (M.cost entry).requiredItemId inv.slots + total (M.cost entry).requiredItemId d.inv.slots
  /-- The price is paid in full where it fits below the limit. -/
  exact : M.extendedCost2 entry = 0 → money + M.sellPrice entry * count ≤ maxMoneyAmount →
    c'.money = money + M.sellPrice entry * count
  limit : M.extendedCost2 entry = 0 → M.sellPrice entry * count ≤ maxMoneyAmount →
    maxMoneyAmount < money + M.sellPrice entry * count → 0 < M.sellPrice entry * count →
    c'.money = maxMoneyAmount ∧ gold = true
  kept : money ≤ c'.money

variable {M W c} {c' : Customer} {p : Pos} {it : Item} {entry count etime : Nat}

/-! ## Money -/

/-- How many of the required items are credited for `count` units. -/
def credited (M : Market) (entry count : Nat) : Nat := (M.cost entry).requiredItemCount * count % 2 ^ 32

variable {slot guid : Nat}

/-- A vendor who pays `price` for a unit of anything. -/
def grocer (price : Nat) : Market where
  limits := {}
  sellPrice := fun _ => price
  extendedCost2 := fun _ => 0
  extendedCost2Map := fun _ => {}
  hasTemplate := fun entry => entry ≠ 0
  hasTemplate_zero := rfl
  checkExtendedCost2 := fun _ _ => true
  maySell := fun _ => true
  inTrade := fun _ => false

def apples : Inventory :=
  { Inventory.empty 2 with
    slots := update (Inventory.empty 2).slots ⟨false, bag0, 23⟩ (some ⟨1, 1, 20⟩)
    own := update (Inventory.empty 2).own 1 (none, 23) }

def seller (money : Nat) : Customer := { inv := apples, money, list := {}, entryOf := fun _ => 0 }

theorem apples_wellKept : apples.WellKept coinRules :=
  (Inventory.wellKept_empty 2).putTop (by decide) rfl (fun hq => nomatch hq) (by decide) (by decide)

def handed (price money : Nat) : Customer :=
  (grocer price).handOver coinRules (seller money) ⟨bag0, 23⟩ ⟨1, 1, 20⟩ 20 108000

end Market

end Axium.Player
