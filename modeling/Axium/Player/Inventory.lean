import Axium.Guilds.BankItems

/-!
# The inventory of a player

The requests that move items between the positions of one player, translated from `Player.cpp` and
`ItemHandler.cpp`: `SwapItem`, `SplitItem`, `HandleAutoEquipItemOpcode` and `HandleAutoStoreBagItemOpcode`.

The slots are those of a `Vault`, on the side of the player; the guild of the vault is not read. An item
object is known by its guid, as the source knows it by its pointer: what it holds is read from the position
that its own fields name (`deref`), also after a check has moved it. A bag takes its contents along: while
it is in a bag slot they are at the positions inside it, else they are kept in `stash`.

`FindEquipSlot` is not pure: for a two-handed weapon it can unequip the off-hand, and every check that
calls it returns the inventory as it left it.

The codes of refusals are sent to the client only, so a check gives what it found or nothing. Checks of
single items that can only refuse (combat, level, skills, uniqueness) are fields of `Rules`. Bindings,
enchantments, item bonuses, quests, packets and the rows of the database are left out.
-/

namespace Axium.Player

open Guilds Stacks Function

/-- `InventoryType` of the templates, as far as `FindEquipSlot` tells them apart. -/
inductive InventoryType where
  | nonEquip
  | head
  | neck
  | shoulders
  | shirt
  | chest
  | robe
  | waist
  | legs
  | feet
  | wrists
  | hands
  | finger
  | trinket
  | cloak
  | weapon
  | shield
  | ranged
  | twoHandWeapon
  | tabard
  | weaponMainhand
  | weaponOffhand
  | holdable
  | thrown
  | rangedRight
  | bag
  | relic
  deriving DecidableEq, Repr

def mainhand : Byte := 15

def offhand : Byte := 16

def rangedSlot : Byte := 17

structure Pos where
  bag : Byte
  slot : Byte
  deriving DecidableEq, Repr

def Pos.place (p : Pos) : Place := ⟨false, p.bag, p.slot⟩

def isInventoryPos (p : Pos) : Bool :=
  p.bag = bag0 ∧ p.slot = nullSlot ∨
  p.bag = bag0 ∧ 23 ≤ p.slot.val ∧ p.slot.val < 39 ∨
  p.bag ∈ inventoryBags ∨
  p.bag = bag0 ∧ 86 ≤ p.slot.val ∧ p.slot.val < 150

def isEquipmentPos (p : Pos) : Bool :=
  p.bag = bag0 ∧ p.slot.val < 19 ∨ p.bag = bag0 ∧ p.slot ∈ inventoryBags

def isBankPos (p : Pos) : Bool :=
  p.bag = bag0 ∧ 39 ≤ p.slot.val ∧ p.slot.val < 67 ∨ p.bag = bag0 ∧ p.slot ∈ bankBags ∨ p.bag ∈ bankBags

/-- What the requests read beside the slots. Of the checks of `CanEquipItem`, `mayEquipNow` has those
before `FindEquipSlot` (control, combat, arena, level), `canEquipUniqueItem` takes the slot that is left
out, and `mayWear` has the last one. `mayUnequip` has the checks of combat and arena of
`CanUnequipItem`. -/
structure Rules where
  template : Nat → ItemTemplate
  /-- `InventoryType` of an entry that is no bag. -/
  gear : Nat → InventoryType
  playerClass : Nat
  isAlive : Bool
  canDualWield : Bool
  canTitanGrip : Bool
  bankBagSlotCount : Nat
  lootGenerated : Item → Bool
  isBindedNotWith : Item → Bool
  canTakeMoreSimilarItems : Vault → Nat → Nat → Item → InventoryResult × Nat
  canUseItem : Item → Bool
  mayEquipNow : Item → Bool
  canEquipUniqueItem : Vault → Item → Byte → Bool
  mayWear : Item → Bool
  mayUnequip : Item → Bool

namespace Rules

/-- Nothing is refused, and nothing can be worn. -/
def lax : Rules where
  template := fun _ => {}
  gear := fun _ => .nonEquip
  playerClass := 1
  isAlive := true
  canDualWield := false
  canTitanGrip := false
  bankBagSlotCount := 0
  lootGenerated := fun _ => false
  isBindedNotWith := fun _ => false
  canTakeMoreSimilarItems := fun _ _ _ _ => (.ok, 0)
  canUseItem := fun _ => true
  mayEquipNow := fun _ => true
  canEquipUniqueItem := fun _ _ _ => true
  mayWear := fun _ => true
  mayUnequip := fun _ => true

variable (W : Rules)

def inventoryType (entry : Nat) : InventoryType := if (W.template entry).isBag then .bag else W.gear entry

/-- `ITEM_SUBCLASS_WEAPON_POLEARM` or `ITEM_SUBCLASS_WEAPON_STAFF`, whatever the class is. -/
def isPolearmOrStaff (entry : Nat) : Bool := (W.template entry).subClass = 6 ∨ (W.template entry).subClass = 10

/-- What the checks of the vault read, when the slots are those of `v`. -/
def realm (v : Vault) : Realm where
  template := W.template
  player := 0
  now := 0
  isSoulBound := fun _ => false
  canBeTraded := fun _ => true
  lootGenerated := W.lootGenerated
  isBindedNotWith := W.isBindedNotWith
  canTakeMoreSimilarItems := W.canTakeMoreSimilarItems v

end Rules

/-- The slots of a player. `own` has `m_container` and `m_slot` of each item, by guid; `stash` what is in a
bag that is in no bag slot; `mailed` the items that were sent to the player himself. -/
structure Inventory extends Vault where
  own : Nat → Option Nat × Byte
  stash : Nat → Byte → Option Item
  mailed : List Item

namespace Inventory

variable (W : Rules) (inv : Inventory)

def getItemByPos (p : Pos) : Option Item := inv.toVault.getItemByPos (W.realm inv.toVault) p.bag p.slot

def getBagByPos (bag : Byte) : Option Item := inv.toVault.getBagByPos (W.realm inv.toVault) bag

def isValidPos (p : Pos) (explicitPos : Bool) : Bool :=
  if p.bag = nullBag ∧ ¬ explicitPos then true
  else if p.bag = bag0 then
    (p.slot = nullSlot ∧ ¬ explicitPos) ∨ p.slot.val < 74 ∨ (86 ≤ p.slot.val ∧ p.slot.val < 118)
  else match inv.getBagByPos W p.bag with
    | some b => (p.slot = nullSlot ∧ ¬ explicitPos) ∨ p.slot.val < (W.template b.entry).containerSlots.val
    | none => false

def isNotEmptyBag (it : Item) : Bool := inv.toVault.isNotEmptyBag (W.realm inv.toVault) it

def getPos (guid : Nat) : Pos :=
  ⟨match (inv.own guid).1 with
    | some container => (inv.own container).2
    | none => bag0,
   (inv.own guid).2⟩

def deref (it : Item) : Item :=
  match inv.slots (inv.getPos it.guid).place with
  | some t => if t.guid = it.guid then t else it
  | none => it

def setCount (it : Item) (count : Nat) : Inventory :=
  match inv.slots (inv.getPos it.guid).place with
  | some t =>
    if t.guid = it.guid then
      { inv with slots := update inv.slots (inv.getPos it.guid).place (some { t with count := count }) }
    else inv
  | none => inv

/-! ## Taking out and putting in -/

/-- The slots when the contents of the bag slot `bag` are `contents`. -/
def fillRoom (slots : Store Place Nat) (bag : Byte) (contents : Byte → Option Item) : Store Place Nat :=
  fun p => if p.isBank = false ∧ p.container = bag then contents p.slot else slots p

/-- `Player::RemoveItem`. A bag that leaves its bag slot takes along what is in it. -/
def removeItem (p : Pos) : Inventory :=
  match inv.getItemByPos W p with
  | none => inv
  | some it =>
    let slots := update inv.slots p.place none
    if isBagPos p.bag p.slot then
      { inv with
        slots := fillRoom slots p.slot fun _ => none
        stash := update inv.stash it.guid fun j => inv.slots ⟨false, p.slot, j⟩
        own := update inv.own it.guid ((inv.own it.guid).1, nullSlot) }
    else
      { inv with
        slots
        own := update inv.own it.guid (if p.bag = bag0 then (inv.own it.guid).1 else none, nullSlot) }

def setTop (slot : Byte) (it : Item) : Inventory :=
  let slots := update inv.slots ⟨false, bag0, slot⟩ (some it)
  if isBagPos bag0 slot then
    { inv with
      slots := fillRoom slots slot (inv.stash it.guid)
      stash := update inv.stash it.guid fun _ => none
      own := update inv.own it.guid (none, slot) }
  else { inv with slots, own := update inv.own it.guid (none, slot) }

/-- The writing of a slot in `_StoreItem`, and `Bag::StoreItem`. -/
def setItem (p : Place) (it : Item) : Inventory :=
  match (if p.container = bag0 then none else inv.getBagByPos W p.container) with
  | none => inv.setTop p.slot it
  | some b =>
    if b.guid = it.guid then inv
    else
      { inv with
        slots := update inv.slots p (some it)
        own := update inv.own it.guid (some b.guid, p.slot) }

def storeAt (it : Item) (clone : Bool) (p : Place) (count : Nat) : Inventory :=
  match inv.getItemByPos W ⟨p.container, p.slot⟩ with
  | some t => { inv with slots := update inv.slots p (some { t with count := t.count + count }) }
  | none =>
    if clone then
      match Stacks.clone (W.realm inv.toVault).maxStack inv.nextGuid it count with
      | some c => { inv with nextGuid := inv.nextGuid + 1 }.setItem W p c
      | none => inv
    else inv.setItem W p { it with count := count }

/-- `Player::StoreItem`, and `BankItem`. -/
def storeItem (it : Item) : List (Place × Nat) → Inventory → Inventory
  | [], inv => inv
  | (p, count) :: rest, inv => storeItem it rest (inv.storeAt W it (!rest.isEmpty) p count)

def equipItem (slot : Byte) (it : Item) : Inventory :=
  match inv.getItemByPos W ⟨bag0, slot⟩ with
  | some t => { inv with slots := update inv.slots ⟨false, bag0, slot⟩ (some { t with count := t.count + it.count }) }
  | none => inv.setTop slot it

/-! ## Checks -/

/-- `Player::CanStoreItem` that goes on from positions that `dest` already has. -/
def canStoreItemOnto (dest : List (Place × Nat)) (p : Pos) (it : Item) (swap : Bool) :
    InventoryResult × List (Place × Nat) :=
  let R := W.realm inv.toVault
  if R.lootGenerated it then (.alreadyLooted, dest)
  else if R.isBindedNotWith it then (.dontOwnThatItem, dest)
  else
    let r := R.canTakeMoreSimilarItems it.entry it.count it
    if r.1 ≠ .ok ∧ it.count = r.2 then (r.1, dest)
    else
      let noSimilar := if r.1 ≠ .ok then r.2 else 0
      match (Vault.attempts p.bag p.slot (R.template it.entry)).foldlM
          (inv.toVault.attempt R p.bag p.slot it swap noSimilar)
          ⟨dest, uint32 (it.count - noSimilar)⟩ with
      | .error (res, P) => (res, P.dest)
      | .ok P => (.inventoryFull, P.dest)

def canStoreItem (p : Pos) (it : Item) (swap : Bool) : Option (List (Place × Nat)) :=
  match inv.canStoreItemOnto W [] p it swap with
  | (.ok, dest) => some dest
  | _ => none

/-- The attempts of `Player::CanBankItem`, in order. -/
def bankAttempts (bag slot : Byte) (proto : ItemTemplate) : List Vault.Attempt :=
  -- in specific slot
  (if bag ≠ nullBag ∧ slot ≠ nullSlot then [.specificSlot] else []) ++
  -- in specific bag
  (if bag = nullBag then []
   else
    .emptyBagCheck ::
    (if bag = bag0 then
      (if proto.stackable ≠ 1 then [.inventorySlots 39 67 true] else []) ++ [.inventorySlots 39 67 false]
     else (if proto.stackable ≠ 1 then [.specificBag true] else []) ++ [.specificBag false])) ++
  -- search stack for merge to
  (if proto.stackable ≠ 1 then
    [.inventorySlots 39 67 true] ++ (if proto.bagFamily ≠ 0 then [.bags true false] else []) ++
    [.bags true true]
   else []) ++
  -- search free place in special bag, then anywhere
  (if proto.bagFamily ≠ 0 then [.bags false false] else []) ++
  [.inventorySlots 39 67 false, .bags false true]

/-- One attempt of `Player::CanBankItem`: the bags are those of the bank. -/
def bankAttempt (R : Realm) (p : Pos) (it : Item) (swap : Bool) (P : Plan Place) :
    Vault.Attempt → Except (InventoryResult × Plan Place) (Plan Place)
  | .bags merge nonSpecialized =>
    bankBags.foldlM (fun P i =>
      let r := inv.toVault.canStoreItemInBag R i it merge nonSpecialized p.bag p.slot P
      if r.1 ≠ .ok then .ok P else Vault.settle 0 r) P
  | a => inv.toVault.attempt R p.bag p.slot it swap 0 P a

/-- `Player::CanBankItem` that goes on from positions that `dest` already has. -/
def canBankItemOnto (dest : List (Place × Nat)) (p : Pos) (it : Item) (swap : Bool) :
    InventoryResult × List (Place × Nat) :=
  let R := W.realm inv.toVault
  if R.lootGenerated it then (.alreadyLooted, dest)
  else if R.isBindedNotWith it then (.dontOwnThatItem, dest)
  -- currency tokens stay in their hidden bag
  else if 118 ≤ (inv.own it.guid).2.val ∧ (inv.own it.guid).2.val < 150 then (.itemDoesntGoIntoBag, dest)
  else if (R.canTakeMoreSimilarItems it.entry it.count it).1 ≠ .ok then
    ((R.canTakeMoreSimilarItems it.entry it.count it).1, dest)
  -- bank bag slots
  else if p.bag ≠ nullBag ∧ p.slot ∈ bankBags ∧
      (¬ (R.template it.entry).isBag ∨ W.bankBagSlotCount ≤ p.slot.val - 67 ∨ ¬ W.canUseItem it) then
    (.itemDoesntGoIntoBag, dest)
  else
    match (bankAttempts p.bag p.slot (R.template it.entry)).foldlM (inv.bankAttempt R p it swap)
        ⟨dest, it.count⟩ with
    | .error (res, P) => (res, P.dest)
    | .ok P => (.bankFull, P.dest)

def canBankItem (p : Pos) (it : Item) (swap : Bool) : Option (List (Place × Nat)) :=
  match inv.canBankItemOnto W [] p it swap with
  | (.ok, dest) => some dest
  | _ => none

def canUnequipItem (p : Pos) (swap : Bool) : Bool :=
  if ¬ isEquipmentPos p ∧ ¬ isBagPos p.bag p.slot then true
  else match inv.getItemByPos W p with
    | none => true
    | some it => !W.lootGenerated it && W.mayUnequip it && (swap || !inv.isNotEmptyBag W it)

def isTwoHandUsed : Bool :=
  match inv.getItemByPos W ⟨bag0, mainhand⟩ with
  | some mainItem => W.inventoryType mainItem.entry = .twoHandWeapon ∧ ¬ W.canTitanGrip
  | none => false

/-- `AutoUnequipOffhandIfNeed`: the item of the off-hand goes to the inventory, or by mail when there is
no space. -/
def autoUnequipOffhandIfNeed (force : Bool) : Inventory :=
  match inv.getItemByPos W ⟨bag0, offhand⟩ with
  | none => inv
  | some offItem =>
    let offType := W.inventoryType offItem.entry
    let force := force || (!W.canDualWield && (offType = .weaponOffhand || offType = .weapon))
    if ¬ force ∧ (W.canTitanGrip ∨ (offType ≠ .twoHandWeapon ∧ ¬ inv.isTwoHandUsed W)) then inv
    else match inv.canStoreItem W ⟨nullBag, nullSlot⟩ offItem false with
      | some dest => storeItem W offItem dest (inv.removeItem W ⟨bag0, offhand⟩)
      | none =>
        let inv := inv.removeItem W ⟨bag0, offhand⟩
        { inv with mailed := offItem :: inv.mailed }

/-- The slots that an item can be worn in, first choice first. Two-handed weapons are treated apart. -/
def gearSlots (it : Item) : List Byte :=
  match W.inventoryType it.entry with
  | .head => [0]
  | .neck => [1]
  | .shoulders => [2]
  | .shirt => [3]
  | .chest => [4]
  | .robe => [4]
  | .waist => [5]
  | .legs => [6]
  | .feet => [7]
  | .wrists => [8]
  | .hands => [9]
  | .finger => [10, 11]
  | .trinket => [12, 13]
  | .cloak => [14]
  | .weapon => if W.canDualWield then [mainhand, offhand] else [mainhand]
  | .shield => [offhand]
  | .ranged => [rangedSlot]
  | .twoHandWeapon => [mainhand]
  | .tabard => [18]
  | .weaponMainhand => [mainhand]
  | .weaponOffhand => [offhand]
  | .holdable => [offhand]
  | .thrown => [rangedSlot]
  | .rangedRight => [rangedSlot]
  | .bag => inventoryBags
  | .relic =>
    -- libram, idol, totem, misc and sigil, each for its class
    if (((W.template it.entry).subClass, W.playerClass) : Nat × Nat) ∈ [(7, 2), (8, 11), (9, 7), (0, 9), (10, 6)]
    then [rangedSlot]
    else []
  | .nonEquip => []

/-- The check of `FindEquipSlot` of a two-handed weapon unequips the off-hand: when the main hand holds a
polearm or a staff, or when the weapon is one and the off-hand is taken. -/
def unequipsOffhand (it : Item) : Bool :=
  W.inventoryType it.entry = .twoHandWeapon &&
    ((inv.getItemByPos W ⟨bag0, mainhand⟩).any (fun mhWeapon => W.isPolearmOrStaff mhWeapon.entry) ||
      (inv.getItemByPos W ⟨bag0, offhand⟩).isSome && W.isPolearmOrStaff it.entry)

/-- The slots of `FindEquipSlot`, with what the search for them does to the off-hand. -/
def equipSlots (it : Item) : List Byte × Inventory :=
  if inv.unequipsOffhand W it then ([mainhand], inv.autoUnequipOffhandIfNeed W true)
  else if W.inventoryType it.entry = .twoHandWeapon ∧ W.canDualWield ∧ W.canTitanGrip ∧
      ¬ W.isPolearmOrStaff it.entry then ([mainhand, offhand], inv)
  else (gearSlots W it, inv)

def findEquipSlot (it : Item) (slot : Byte) (swap : Bool) : Byte × Inventory :=
  let (slots, inv) := inv.equipSlots W it
  let free := fun s => (inv.getItemByPos W ⟨bag0, s⟩).isNone
  if slot ≠ nullSlot then (if (swap ∨ free slot) ∧ slot ∈ slots then slot else nullSlot, inv)
  else
    -- search free slot at first
    match slots.find? fun s => free s && (s ≠ offhand || !inv.isTwoHandUsed W) with
    | some s => (s, inv)
    | none => (if swap then slots.headD nullSlot else nullSlot, inv)

/-- The checks of `CanEquipItem` of an item that goes to the off-hand. -/
def mayHoldOffhand (it : Item) : Bool :=
  !(W.inventoryType it.entry = .weapon && (W.template it.entry).subClass = 6) &&
  !((W.inventoryType it.entry = .weapon || W.inventoryType it.entry = .weaponOffhand) && !W.canDualWield) &&
  !(W.inventoryType it.entry = .twoHandWeapon && !(W.canDualWield && W.canTitanGrip)) &&
  !inv.isTwoHandUsed W

/-- The checks of `CanEquipItem` of a two-handed weapon. -/
def mayHoldTwoHand (slot : Byte) : Bool :=
  (if slot = offhand then W.canTitanGrip else slot = mainhand) &&
  (W.canTitanGrip ||
    match inv.getItemByPos W ⟨bag0, offhand⟩ with
    | some offItem =>
      inv.canUnequipItem W ⟨bag0, offhand⟩ false &&
        (inv.canStoreItem W ⟨nullBag, nullSlot⟩ offItem false).isSome
    | none => true)

def otherQuiver (it : Item) (slot : Byte) (swap : Bool) : Bool :=
  (W.template it.entry).itemClass = 11 ∧
    inventoryBags.any fun i =>
      match inv.getItemByPos W ⟨bag0, i⟩ with
      | some b => b.guid ≠ it.guid ∧ (W.template b.entry).itemClass = 11 ∧ (¬ swap ∨ i ≠ slot)
      | none => false

/-- `Player::CanEquipItem`, in the game. -/
def canEquipItem (slot : Byte) (it : Item) (swap : Bool) : Option Byte × Inventory :=
  let R := W.realm inv.toVault
  if R.lootGenerated it ∨ R.isBindedNotWith it ∨ (R.canTakeMoreSimilarItems it.entry it.count it).1 ≠ .ok ∨
      ¬ W.mayEquipNow it then (none, inv)
  else
    let (eslot, inv) := inv.findEquipSlot W it slot swap
    if eslot = nullSlot ∨ ¬ W.canUseItem it ∨
        (¬ swap ∧ (inv.getItemByPos W ⟨bag0, eslot⟩).isSome) ∨
        ¬ W.canEquipUniqueItem inv.toVault it (if swap then eslot else nullSlot) ∨
        inv.otherQuiver W it eslot swap ∨
        (eslot = offhand ∧ ¬ inv.mayHoldOffhand W it) ∨
        (W.inventoryType it.entry = .twoHandWeapon ∧ ¬ inv.mayHoldTwoHand W eslot) ∨ ¬ W.mayWear it then
      (none, inv)
    else (some eslot, inv)

/-! ## Requests -/

/-- Where an item can go: to the positions of `StoreItem` and `BankItem`, or to a slot of the equipment. -/
inductive Target where
  | store (dest : List (Place × Nat))
  | equip (slot : Byte)
  | nowhere

def canPlace (p : Pos) (it : Item) : Option Target × Inventory :=
  if isInventoryPos p then ((inv.canStoreItem W p it true).map .store, inv)
  else if isBankPos p then ((inv.canBankItem W p it true).map .store, inv)
  else if isEquipmentPos p then
    match inv.canEquipItem W p.slot it true with
    | (some eslot, inv) => (if inv.canUnequipItem W ⟨bag0, eslot⟩ true then some (.equip eslot) else none, inv)
    | (none, inv) => (none, inv)
  else (some .nowhere, inv)

def putAt (it : Item) : Target → Inventory
  | .store dest => storeItem W it dest inv
  | .equip slot => inv.equipItem W slot it
  | .nowhere => inv

/-- The part of `SwapItem` for a destination that is free. -/
def moveItem (src dst : Pos) (it : Item) : Inventory :=
  if isInventoryPos dst then
    match inv.canStoreItem W dst it false with
    | some dest => storeItem W it dest (inv.removeItem W src)
    | none => inv
  else if isBankPos dst then
    match inv.canBankItem W dst it false with
    | some dest => storeItem W it dest (inv.removeItem W src)
    | none => inv
  else if isEquipmentPos dst then
    match inv.canEquipItem W dst.slot it false with
    | (some eslot, inv) =>
      ((inv.removeItem W src).equipItem W eslot (inv.deref it)).autoUnequipOffhandIfNeed W false
    | (none, inv) => inv
  else inv

def canMerge (dst : Pos) (it : Item) : Option Target × Inventory :=
  if isInventoryPos dst then ((inv.canStoreItem W dst it false).map .store, inv)
  else if isBankPos dst then ((inv.canBankItem W dst it false).map .store, inv)
  else if isEquipmentPos dst then
    let (eslot, inv) := inv.canEquipItem W dst.slot it false
    (eslot.map .equip, inv)
  else (none, inv)

/-- The part of `SwapItem` for two stacks that can be merged: as a whole, or as much as fits. -/
def mergeOrFill (src : Pos) (s d : Item) (target : Target) : Inventory :=
  let maxStack := (W.template s.entry).getMaxStackSize
  if s.count + d.count ≤ maxStack then
    let inv := (inv.removeItem W src).putAt W s target
    match target with
    | .equip _ => inv.autoUnequipOffhandIfNeed W false
    | _ => inv
  else (inv.setCount s (s.count + d.count - maxStack)).setCount d maxStack

def isEmptyBag (it : Item) : Bool := (W.template it.entry).isBag && !inv.isNotEmptyBag W it

def bagItem (b : Item) (j : Byte) : Option Item :=
  if isBagPos (inv.getPos b.guid).bag (inv.getPos b.guid).slot then
    inv.slots ⟨false, (inv.getPos b.guid).slot, j⟩
  else inv.stash b.guid j

def setBagItem (b : Item) (j : Byte) (o : Option Item) : Inventory :=
  if isBagPos (inv.getPos b.guid).bag (inv.getPos b.guid).slot then
    { inv with slots := update inv.slots ⟨false, (inv.getPos b.guid).slot, j⟩ o }
  else { inv with stash := update inv.stash b.guid (update (inv.stash b.guid) j o) }

/-- The items of the full bag go to the empty one, `count` were moved before. -/
def moveBagItems (full empty : Item) : List Nat → Nat → Inventory → Inventory
  | [], _, inv => inv
  | j :: rest, count, inv =>
    match inv.bagItem full (Fin.ofNat 256 j) with
    | none => moveBagItems full empty rest count inv
    | some it =>
      let inv := (inv.setBagItem full (Fin.ofNat 256 j) none).setBagItem empty (Fin.ofNat 256 count) (some it)
      moveBagItems full empty rest (count + 1)
        { inv with own := update inv.own it.guid (some empty.guid, Fin.ofNat 256 count) }

def emptyAndFull (src dst : Pos) (s d : Item) : Option (Item × Item) :=
  if ¬ (W.template s.entry).isBag ∨ ¬ (W.template d.entry).isBag then none
  else if inv.isEmptyBag W s ∧ ¬ isBagPos src.bag src.slot then some (s, d)
  else if inv.isEmptyBag W d ∧ ¬ isBagPos dst.bag dst.slot then some (d, s)
  else none

def swapBagItems (src dst : Pos) (s d : Item) : Option Inventory :=
  match inv.emptyAndFull W src dst s d with
  | none => some inv
  | some (empty, full) =>
    let size := (W.template full.entry).containerSlots.val
    let bagItems := (List.range size).filterMap fun j => inv.bagItem full (Fin.ofNat 256 j)
    if bagItems.any fun it => !(W.template it.entry).canGoIntoBag (W.template empty.entry) then none
    else if (W.template empty.entry).containerSlots.val < bagItems.length then none
    else some (moveBagItems full empty (List.range size) 0 inv)

/-- The part of `SwapItem` for two items that change places. -/
def realSwap (src dst : Pos) (s d : Item) : Inventory :=
  match inv.canPlace W dst (inv.deref s) with
  | (none, inv) => inv
  | (some toDst, inv) =>
    match inv.canPlace W src (inv.deref d) with
    | (none, inv) => inv
    | (some toSrc, inv) =>
      match inv.swapBagItems W src dst (inv.deref s) (inv.deref d) with
      | none => inv
      | some inv =>
        let s := inv.deref s
        let d := inv.deref d
        let inv := (inv.removeItem W dst).removeItem W src
        ((inv.putAt W s toDst).putAt W d toSrc).autoUnequipOffhandIfNeed W false

/-- The part of `SwapItem` for a destination that is taken. -/
def swapWith (src dst : Pos) (s d : Item) : Inventory :=
  if (W.template s.entry).isBag ∨ (W.template d.entry).isBag then inv.realSwap W src dst s d
  else match inv.canMerge W dst s with
    | (some target, inv) => inv.mergeOrFill W src (inv.deref s) (inv.deref d) target
    | (none, inv) => inv.realSwap W src dst s d

def swapItem (src dst : Pos) : Inventory :=
  match inv.getItemByPos W src with
  | none => inv
  | some s =>
    let d := inv.getItemByPos W dst
    if ¬ W.isAlive ∨ W.lootGenerated s then inv
    -- bags can be swapped with empty bag slots, or with an empty bag
    else if (isEquipmentPos src ∨ isBagPos src.bag src.slot) ∧
        ¬ inv.canUnequipItem W src
          (!isBagPos src.bag src.slot || isBagPos dst.bag dst.slot || d.any (inv.isEmptyBag W)) then inv
    -- a bag does not go into itself, nor into the slot of the bag it is in
    else if isBagPos src.bag src.slot ∧ src.slot = dst.bag then inv
    else if isBagPos dst.bag dst.slot ∧ src.bag = dst.slot then inv
    else match d with
      | none => inv.moveItem W src dst s
      | some d =>
        if W.lootGenerated d then inv
        else if (isEquipmentPos dst ∨ isBagPos dst.bag dst.slot) ∧
            ¬ inv.canUnequipItem W dst
              (!isBagPos dst.bag dst.slot || isBagPos src.bag src.slot || inv.isEmptyBag W s) then inv
        else inv.swapWith W src dst s d

/-- The part of `SplitItem` from the clone on: the stack is lowered before the checks, and raised again
when there is no place for the clone. -/
def splitOff (dst : Pos) (s c : Item) (count : Nat) : Inventory :=
  let lowered := inv.setCount s (s.count - count)
  if isInventoryPos dst then
    match lowered.canStoreItem W dst c false with
    | some dest => storeItem W c dest lowered
    | none => lowered.setCount s ((lowered.deref s).count + count)
  else if isBankPos dst then
    match lowered.canBankItem W dst c false with
    | some dest => storeItem W c dest lowered
    | none => lowered.setCount s ((lowered.deref s).count + count)
  else if isEquipmentPos dst then
    match lowered.canEquipItem W dst.slot c false with
    | (some eslot, inv) => (inv.equipItem W eslot c).autoUnequipOffhandIfNeed W false
    | (none, inv) => inv.setCount s ((inv.deref s).count + count)
  else inv

/-- `Player::SplitItem`. `inTrade` says which items are in the trade window of the player. -/
def splitItem (inTrade : Item → Bool) (src dst : Pos) (count : Nat) : Inventory :=
  match inv.getItemByPos W src with
  | none => inv
  | some s =>
    if W.lootGenerated s ∨ s.count = count ∨ s.count < count ∨ inTrade s then inv
    else match Stacks.clone (W.realm inv.toVault).maxStack inv.nextGuid s count with
      | none => inv
      | some c => { inv with nextGuid := inv.nextGuid + 1 }.splitOff W dst s c count

/-- The three tries of `HandleAutoEquipItemOpcode` to store an item: at the position, in its bag, anywhere.
The positions that a failed try has found stay in the vector. -/
def tryStore (canStore : List (Place × Nat) → Pos → InventoryResult × List (Place × Nat)) (p : Pos) :
    Option (List (Place × Nat)) :=
  match canStore [] p with
  | (.ok, dest) => some dest
  | (_, dest) =>
    match canStore dest ⟨p.bag, nullSlot⟩ with
    | (.ok, dest) => some dest
    | (_, dest) =>
      match canStore dest ⟨nullBag, nullSlot⟩ with
      | (.ok, dest) => some dest
      | _ => none

/-- Whether the item that is unequipped can go back to where the other one comes from. `src` is where that
one is now, `p` where the client said it was. -/
def canPlaceBack (src p : Pos) (d : Item) : Option Target × Inventory :=
  if isInventoryPos src then
    ((tryStore (fun dest q => inv.canStoreItemOnto W dest q d true) p).map .store, inv)
  else if isBankPos src then
    ((tryStore (fun dest q => inv.canBankItemOnto W dest q d true) p).map .store, inv)
  else if isEquipmentPos src then
    match inv.canEquipItem W p.slot d true with
    | (some eslot, inv) => (if inv.canUnequipItem W ⟨bag0, eslot⟩ true then some (.equip eslot) else none, inv)
    | (none, inv) => (none, inv)
  else (some .nowhere, inv)

def handleAutoEquipItem (p : Pos) : Inventory :=
  match inv.getItemByPos W p with
  | none => inv
  | some s =>
    let isBag := (W.template s.entry).isBag
    match inv.canEquipItem W nullSlot s (!isBag) with
    | (none, inv) => inv
    | (some dest, inv) =>
      let src := inv.getPos s.guid
      -- prevent equip in same slot
      if src = ⟨bag0, dest⟩ then inv
      else match inv.getItemByPos W ⟨bag0, dest⟩ with
        | none => ((inv.removeItem W p).equipItem W dest (inv.deref s)).autoUnequipOffhandIfNeed W false
        | some d =>
          let dst := inv.getPos d.guid
          if ¬ inv.canUnequipItem W ⟨bag0, dest⟩ (!isBag) then inv
          else match inv.canPlaceBack W src p d with
            | (none, inv) => inv
            | (some toSrc, inv) =>
              let s := inv.deref s
              let d := inv.deref d
              let inv := (inv.removeItem W dst).removeItem W p
              ((inv.equipItem W dest s).putAt W d toSrc).autoUnequipOffhandIfNeed W false

def handleAutoStoreBagItem (p : Pos) (dstbag : Byte) : Inventory :=
  match inv.getItemByPos W p with
  | none => inv
  | some it =>
    if ¬ inv.isValidPos W ⟨dstbag, nullSlot⟩ false then inv
    else
      let src := inv.getPos it.guid
      if (isEquipmentPos src ∨ isBagPos src.bag src.slot) ∧
          ¬ inv.canUnequipItem W src (!isBagPos src.bag src.slot) then inv
      else match inv.canStoreItem W ⟨dstbag, nullSlot⟩ it false with
        | none => inv
        | some dest =>
          -- placed in same slot
          if dest.map Prod.fst = [src.place] then inv
          else storeItem W it dest (inv.removeItem W p)

/-! ## Items by guid -/

/-- The positions that `GetItemByGuid` looks at, in order: the bag slots of the bank are not among them. -/
def searched : List Pos :=
  (List.range' 0 39 ++ List.range' 86 64 ++ List.range' 39 28).map (fun j => ⟨bag0, Fin.ofNat 256 j⟩) ++
  (inventoryBags ++ bankBags).flatMap fun bag =>
    match inv.getBagByPos W bag with
    | some b => (List.range (W.template b.entry).containerSlots.val).map fun j => ⟨bag, Fin.ofNat 256 j⟩
    | none => []

def getItemByGuid (guid : Nat) : Option Item :=
  (inv.searched W).findSome? fun p => (inv.getItemByPos W p).filter fun it => it.guid = guid

end Inventory

end Axium.Player
