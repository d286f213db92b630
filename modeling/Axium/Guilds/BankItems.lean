import Mathlib.Tactic.DeriveFintype
import Axium.Lib.Stacks
import Axium.Guilds.Bank

/-!
# The guild bank: items

The items of the bank and of the player who moves them, and the requests `Guild::SwapItems` and
`Guild::SwapItemsWithInventory`, translated from `Guild.cpp`, `Player.cpp` and `Item.cpp`.

A slot is addressed as the source addresses it: by the tab and the slot in the bank, by the bag and the
slot at the player, where the bag in the slot `bag` of the player has the slots `(bag, ·)`. An `Item` is
an object with its low guid; pointers are compared by guid. What a request reads of the items and of the
player beyond that (bindings, loot, the limits on similar items) is a `Realm`, and nothing is assumed of
it: these checks can only refuse.

Bindings set on a stored item, enchantments, quests, achievements, logs, packets and the rows of the
database are left out.
-/

namespace Axium.Guilds

open Stacks Function

/-- `uint8`. -/
abbrev Byte := Fin 256

instance lawfulBEq_byte : LawfulBEq Byte := inferInstance

abbrev Item := Stack Nat

structure Place where
  isBank : Bool
  container : Byte
  slot : Byte
  deriving DecidableEq, Fintype

def bankMaxSlots : Nat := 98

def rightDepositItem : Nat := 0x03

def nullBag : Byte := 0

def nullSlot : Byte := 255

/-- `INVENTORY_SLOT_BAG_0`. -/
def bag0 : Byte := 255

/-- `INVENTORY_SLOT_BAG_START` to `INVENTORY_SLOT_BAG_END`. -/
def inventoryBags : List Byte := [19, 20, 21, 22]

/-- `BANK_SLOT_BAG_START` to `BANK_SLOT_BAG_END`. -/
def bankBags : List Byte := [67, 68, 69, 70, 71, 72, 73]

/-- `InventoryResult`, the results that a request can meet. -/
inductive InventoryResult where
  | ok
  | nonemptyBagOverOtherBag
  | itemDoesntGoIntoBag
  | cantCarryMoreOfThis
  | itemCantStack
  | cantDropSoulbound
  | canOnlyDoWithEmptyBags
  | dontOwnThatItem
  | alreadyLooted
  | inventoryFull
  | bankFull
  | itemCantBeEquipped
  | itemMaxLimitCategoryCountExceeded
  deriving DecidableEq, Repr

theorem one_le_int32 : (1 : Int) ≤ 2147483647 := by decide

theorem twenty_le_int32 : (20 : Int) ≤ 2147483647 := by decide

/-- `ItemTemplate`. `Stackable` is an `int32`, and `LoadItemTemplates` cuts the number of slots down to
`MAX_BAG_SIZE`. -/
structure ItemTemplate where
  stackable : Int := 1
  stackable_le : stackable ≤ 2147483647 := by first | exact one_le_int32 | exact twenty_le_int32 | decide
  bagFamily : Nat := 0
  itemClass : Nat := 0
  subClass : Nat := 0
  isBag : Bool := false
  containerSlots : Fin 37 := 0

namespace ItemTemplate

variable (proto : ItemTemplate)

def getMaxStackSize : Nat :=
  if proto.stackable = 2147483647 ∨ proto.stackable ≤ 0 then 0x7FFFFFFE else proto.stackable.toNat

def hasFamily (mask : Nat) : Bool := proto.bagFamily &&& mask ≠ 0

def isKey : Bool := proto.hasFamily 0x100

def isCurrencyToken : Bool := proto.hasFamily 0x2000

/-- `ITEM_CLASS_CONTAINER` with `ITEM_SUBCLASS_CONTAINER`. -/
def isPlainBag : Bool := proto.itemClass = 1 ∧ proto.subClass = 0

def canGoIntoBag (bagProto : ItemTemplate) : Bool :=
  match bagProto.itemClass, bagProto.subClass with
  | 1, 0 => true
  | 1, 1 => proto.hasFamily 0x4
  | 1, 2 => proto.hasFamily 0x20
  | 1, 3 => proto.hasFamily 0x40
  | 1, 4 => proto.hasFamily 0x80
  | 1, 5 => proto.hasFamily 0x200
  | 1, 6 => proto.hasFamily 0x400
  | 1, 7 => proto.hasFamily 0x8
  | 1, 8 => proto.hasFamily 0x10
  | 11, 2 => proto.hasFamily 0x1
  | 11, 3 => proto.hasFamily 0x2
  | _, _ => false

end ItemTemplate

/-- What a request reads beside the guild and the slots: the templates, who asks and when, and the checks
of single items. `CanTakeMoreSimilarItems` takes the entry, the count and the item, and gives with an
error the number of items that are too many. -/
structure Realm where
  template : Nat → ItemTemplate
  player : Guid
  now : Nat
  isSoulBound : Item → Bool
  canBeTraded : Item → Bool
  lootGenerated : Item → Bool
  isBindedNotWith : Item → Bool
  canTakeMoreSimilarItems : Nat → Nat → Item → InventoryResult × Nat

/-- `GetMaxStackSize` of the template of the entry. -/
def Realm.maxStack (R : Realm) (entry : Nat) : Nat := (R.template entry).getMaxStackSize

def isBagPos (bag slot : Byte) : Bool := bag = bag0 ∧ (slot ∈ inventoryBags ∨ slot ∈ bankBags)

structure Vault where
  guild : Guild
  slots : Store Place Nat
  nextGuid : Nat

namespace Vault

variable (R : Realm) (v : Vault)

/-! ## Reading slots -/

def getBagByPos (bag : Byte) : Option Item :=
  if bag ∈ inventoryBags ∨ bag ∈ bankBags then
    (v.slots ⟨false, bag0, bag⟩).filter fun it => (R.template it.entry).isBag
  else none

def getBagSize (b : Item) : Nat := (R.template b.entry).containerSlots

def getItemByPos (bag slot : Byte) : Option Item :=
  if bag = bag0 ∧ (slot.val < 74 ∨ 86 ≤ slot.val ∧ slot.val < 150) then v.slots ⟨false, bag, slot⟩
  else match v.getBagByPos R bag with
    | some b => if slot.val < getBagSize R b then v.slots ⟨false, bag, slot⟩ else none
    | none => none

def getItem (tab slot : Byte) : Option Item :=
  if tab.val < v.guild.purchasedTabs ∧ slot.val < bankMaxSlots then v.slots ⟨true, tab, slot⟩ else none

def itemAt (p : Place) : Option Item :=
  if p.isBank then v.getItem p.container p.slot else v.getItemByPos R p.container p.slot

def otherAt (it : Item) (p : Place) : Option Item := (v.itemAt R p).filter fun t => t.guid ≠ it.guid

/-- `Item::IsNotEmptyBag`. Only the bags in bag slots have slots of their own. -/
def isNotEmptyBag (it : Item) : Bool :=
  (inventoryBags ++ bankBags).any fun bag =>
    match v.getBagByPos R bag with
    | some b =>
      b.guid = it.guid ∧
        (List.range (getBagSize R b)).any fun j => (v.slots ⟨false, bag, Fin.ofNat 256 j⟩).isSome
    | none => false

def canBeMergedPartlyWith (R : Realm) (it : Item) (entry : Nat) : InventoryResult :=
  if R.lootGenerated it then .alreadyLooted
  else if it.entry ≠ entry then .itemCantStack
  else if R.maxStack entry ≤ it.count then .itemCantStack
  else .ok

/-! ## Space at the player -/

/-- The checks of `CanStoreItem_InSpecificSlot` of a slot that is free, or is going to be. -/
def fitToSlot (bag slot : Byte) (proto : ItemTemplate) : InventoryResult :=
  if bag = bag0 then
    if 86 ≤ slot.val ∧ slot.val < 118 ∧ ¬ proto.isKey then .itemDoesntGoIntoBag
    else if 118 ≤ slot.val ∧ slot.val < 150 ∧ ¬ proto.isCurrencyToken then .itemDoesntGoIntoBag
    else if (74 ≤ slot.val ∧ slot.val < 86) ∨ 150 ≤ slot.val then .itemDoesntGoIntoBag
    else .ok
  else match v.getBagByPos R bag with
    | none => .itemDoesntGoIntoBag
    | some b =>
      if getBagSize R b ≤ slot.val then .itemDoesntGoIntoBag
      else if ¬ proto.canGoIntoBag (R.template b.entry) then .itemDoesntGoIntoBag
      else .ok

def canStoreItemInSpecificSlot (bag slot : Byte) (it : Item) (swap : Bool) (P : Plan Place) :
    InventoryResult × Plan Place :=
  if v.isNotEmptyBag R it ∧ ¬ isBagPos bag slot then (.canOnlyDoWithEmptyBags, P)
  else match (if swap then none else v.otherAt R it ⟨false, bag, slot⟩) with
    | none =>
      match v.fitToSlot R bag slot (R.template it.entry) with
      | .ok => (.ok, P.reserve ⟨false, bag, slot⟩ (R.maxStack it.entry))
      | res => (res, P)
    | some item2 =>
      match canBeMergedPartlyWith R item2 it.entry with
      | .ok => (.ok, P.reserve ⟨false, bag, slot⟩ (R.maxStack it.entry - item2.count))
      | res => (res, P)

/-- The space that a slot with `item2` in it has for the item, if it can take any. -/
def needSpace (R : Realm) (it : Item) : Option Item → Option Nat
  | none => some (R.maxStack it.entry)
  | some item2 =>
    if canBeMergedPartlyWith R item2 it.entry = .ok then some (R.maxStack it.entry - item2.count)
    else none

/-- The loop over slots of `CanStoreItem_InBag` and `CanStoreItem_InInventorySlots`: over those that are
taken when `merge`, else over the free ones. It ends when nothing is left to store. -/
def searchSlots (it : Item) (merge : Bool) : List Place → Plan Place → Plan Place
  | [], P => P
  | p :: rest, P =>
    if (v.otherAt R it p).isSome ≠ merge then searchSlots it merge rest P
    else match needSpace R it (v.otherAt R it p) with
      | none => searchSlots it merge rest P
      | some space =>
        if p ∈ P.dest.map Prod.fst then searchSlots it merge rest P
        else if (P.reserve p space).left = 0 then P.reserve p space
        else searchSlots it merge rest (P.reserve p space)

/-- `CanStoreItem_InBag`. The slot that is skipped is skipped in every bag. -/
def canStoreItemInBag (bag : Byte) (it : Item) (merge nonSpecialized : Bool) (skipBag skipSlot : Byte)
    (P : Plan Place) : InventoryResult × Plan Place :=
  if bag = skipBag then (.itemDoesntGoIntoBag, P)
  else match v.getBagByPos R bag with
    | none => (.itemDoesntGoIntoBag, P)
    | some b =>
      if b.guid = it.guid then (.itemDoesntGoIntoBag, P)
      else if v.isNotEmptyBag R it then (.canOnlyDoWithEmptyBags, P)
      else if nonSpecialized ≠ (R.template b.entry).isPlainBag then (.itemDoesntGoIntoBag, P)
      else if ¬ (R.template it.entry).canGoIntoBag (R.template b.entry) then (.itemDoesntGoIntoBag, P)
      else
        (.ok, v.searchSlots R it merge
          (((List.range (getBagSize R b)).filter (· ≠ skipSlot.val)).map
            fun j => ⟨false, bag, Fin.ofNat 256 j⟩) P)

def canStoreItemInInventorySlots (slotBegin slotEnd : Nat) (it : Item) (merge : Bool)
    (skipBag skipSlot : Byte) (P : Plan Place) : InventoryResult × Plan Place :=
  if v.isNotEmptyBag R it then (.canOnlyDoWithEmptyBags, P)
  else
    (.ok, v.searchSlots R it merge
      (((List.range' slotBegin (slotEnd - slotBegin)).filter
        fun j => ¬ (bag0 = skipBag ∧ j = skipSlot.val)).map fun j => ⟨false, bag0, Fin.ofNat 256 j⟩) P)

/-- What `Player::CanStoreItem` tries: the slot that was asked for, a range of slots outside bags, the bag
that was asked for, each of the bags. Before the last free slots are tried comes a check. -/
inductive Attempt where
  | specificSlot
  | inventorySlots (slotBegin slotEnd : Nat) (merge : Bool)
  | specificBag (merge : Bool)
  | bags (merge nonSpecialized : Bool)
  | emptyBagCheck
  deriving DecidableEq, Repr

/-- The attempts of `Player::CanStoreItem`, in order. -/
def attempts (bag slot : Byte) (proto : ItemTemplate) : List Attempt :=
  -- in specific slot
  (if bag ≠ nullBag ∧ slot ≠ nullSlot then [.specificSlot] else []) ++
  -- in specific bag
  (if bag = nullBag then []
   else if bag = bag0 then
    (if proto.stackable ≠ 1 then [.inventorySlots 86 150 true, .inventorySlots 23 39 true] else []) ++
    (if proto.isKey then [.inventorySlots 86 118 false, .inventorySlots 118 150 false]
     else if proto.isCurrencyToken then [.inventorySlots 118 150 false]
     else []) ++
    [.inventorySlots 23 39 false]
   else (if proto.stackable ≠ 1 then [.specificBag true] else []) ++ [.specificBag false]) ++
  -- search stack for merge to
  (if proto.stackable ≠ 1 then
    [.inventorySlots 86 150 true, .inventorySlots 23 39 true] ++
    (if proto.bagFamily ≠ 0 then [.bags true false] else []) ++
    [.bags true true]
   else []) ++
  -- search free slot - special bag case
  (if proto.bagFamily ≠ 0 then
    (if proto.isKey then [.inventorySlots 86 118 false]
     else if proto.isCurrencyToken then [.inventorySlots 118 150 false]
     else []) ++
    [.bags false false]
   else []) ++
  -- search free slot
  [.emptyBagCheck, .inventorySlots 23 39 false, .bags false true]

/-- What follows an attempt: an error is returned, and so is the result when nothing is left to store. An
early return is thrown. -/
def settle (noSimilar : Nat) (r : InventoryResult × Plan Place) :
    Except (InventoryResult × Plan Place) (Plan Place) :=
  if r.1 ≠ .ok then .error r
  else if r.2.left = 0 then .error (if noSimilar = 0 then .ok else .cantCarryMoreOfThis, r.2)
  else .ok r.2

def attempt (bag slot : Byte) (it : Item) (swap : Bool) (noSimilar : Nat) (P : Plan Place) :
    Attempt → Except (InventoryResult × Plan Place) (Plan Place)
  | .specificSlot => settle noSimilar (v.canStoreItemInSpecificSlot R bag slot it swap P)
  | .inventorySlots slotBegin slotEnd merge =>
    settle noSimilar (v.canStoreItemInInventorySlots R slotBegin slotEnd it merge bag slot P)
  | .specificBag merge =>
    -- specialized first, then not; `NULL_BAG` so that the bag is not skipped
    let r := v.canStoreItemInBag R bag it merge false nullBag slot P
    settle noSimilar
      (if r.1 ≠ .ok then v.canStoreItemInBag R bag it merge true nullBag slot P else r)
  | .bags merge nonSpecialized =>
    inventoryBags.foldlM (fun P i =>
      let r := v.canStoreItemInBag R i it merge nonSpecialized bag slot P
      if r.1 ≠ .ok then .ok P else settle noSimilar r) P
  | .emptyBagCheck => if v.isNotEmptyBag R it then .error (.nonemptyBagOverOtherBag, P) else .ok P

def canStoreItem (bag slot : Byte) (it : Item) (swap : Bool) : InventoryResult × List (Place × Nat) :=
  if R.lootGenerated it then (.alreadyLooted, [])
  else if R.isBindedNotWith it then (.dontOwnThatItem, [])
  else
    let r := R.canTakeMoreSimilarItems it.entry it.count it
    if r.1 ≠ .ok ∧ it.count = r.2 then (r.1, [])
    else
      let noSimilar := if r.1 ≠ .ok then r.2 else 0
      match (attempts bag slot (R.template it.entry)).foldlM (v.attempt R bag slot it swap noSimilar)
          ⟨[], uint32 (it.count - noSimilar)⟩ with
      | .error (res, P) => (res, P.dest)
      | .ok P => (.inventoryFull, P.dest)

/-! ## Space in the bank -/

/-- `_ReserveSpace`; nothing when the item in the slot cannot be used. -/
def reserveSpace (R : Realm) (p : Place) (it : Item) (dest : Option Item) (P : Plan Place) :
    Option (Plan Place) :=
  match dest with
  | some d =>
    if d.entry ≠ it.entry ∨ R.maxStack it.entry ≤ d.count then none
    else some (P.reserve p (R.maxStack it.entry - d.count))
  | none => some (P.reserve p (R.maxStack it.entry))

/-- `CanStoreItemInTab`, on the slots that are left to look at. -/
def canStoreItemInTab (tab : Byte) (it : Item) (skipSlot : Byte) (merge : Bool) :
    List Nat → Plan Place → Plan Place
  | [], P => P
  | j :: rest, P =>
    if P.left = 0 then P
    else if j = skipSlot.val then canStoreItemInTab tab it skipSlot merge rest P
    else
      let p : Place := ⟨true, tab, Fin.ofNat 256 j⟩
      if (v.otherAt R it p).isSome ≠ merge then canStoreItemInTab tab it skipSlot merge rest P
      else
        canStoreItemInTab tab it skipSlot merge rest
          ((reserveSpace R p it (v.otherAt R it p) P).getD P)

/-- The part of `BankMoveItemData::CanStore` after the slot that was asked for. -/
def canStoreInRest (tab slot : Byte) (it : Item) (P : Plan Place) : InventoryResult × Plan Place :=
  let P :=
    if 1 < R.maxStack it.entry then v.canStoreItemInTab R tab it slot true (List.range bankMaxSlots) P
    else P
  let P := v.canStoreItemInTab R tab it slot false (List.range bankMaxSlots) P
  (if P.left = 0 then .ok else .bankFull, P)

def canStoreInBank (tab slot : Byte) (it : Item) (swap : Bool) : InventoryResult × List (Place × Nat) :=
  if R.isSoulBound it then (.cantDropSoulbound, [])
  else if v.guild.purchasedTabs ≤ tab.val then (.itemDoesntGoIntoBag, [])
  else if slot ≠ nullSlot then
    let dest := if swap then none else v.otherAt R it ⟨true, tab, slot⟩
    match reserveSpace R ⟨true, tab, slot⟩ it dest ⟨[], it.count⟩ with
    | none => (.itemCantStack, [])
    | some P => if P.left = 0 then (.ok, P.dest) else (v.canStoreInRest R tab slot it P).map id (·.dest)
  else (v.canStoreInRest R tab slot it ⟨[], it.count⟩).map id (·.dest)

/-! ## Moves

A side of a move is a `MoveItemData`: the bank or the player, with the container and the slot that were
asked for. -/

def canStore (side : Place) (it : Item) (swap : Bool) : InventoryResult × List (Place × Nat) :=
  if side.isBank then v.canStoreInBank R side.container side.slot it swap
  else v.canStoreItem R side.container side.slot it swap

def initItem (side : Place) : Option Item :=
  if side.isBank then v.getItem side.container side.slot
  else
    (v.getItemByPos R side.container side.slot).filter fun it => !v.isNotEmptyBag R it && R.canBeTraded it

def sameTab (side other : Place) : Bool := other.isBank ∧ other.container = side.container

/-- `_MemberHasTabRights`, of the player who asks. -/
def memberHasTabRights (tab : Byte) (rights : Nat) : Bool :=
  match v.guild.members.find? R.player with
  | some m =>
    if m.rankId = guildMaster ∨ v.guild.leaderGuid = R.player then true
    else if h : tab.val < 6 then v.guild.getRankBankTabRights m.rankId ⟨tab, h⟩ &&& rights = rights
    else false
  | none => false

def hasStoreRights (side other : Place) : Bool :=
  !side.isBank || sameTab side other || v.memberHasTabRights R side.container rightDepositItem

/-- `MoveItemData::HasWithdrawRights`. To read what is left for today can renew it. -/
def hasWithdrawRights (side other : Place) : Bool × Guild :=
  if !side.isBank || sameTab side other then (true, v.guild)
  else if h : side.container.val < 6 then
    let r := v.guild.getMemberRemaining R.player (tabAllowance ⟨side.container, h⟩) R.now
    (r.1 ≠ 0, r.2)
  else (false, v.guild)

/-- `MoveItemData::RemoveItem`, of the item at the side. -/
def removeItem (side other : Place) (it : Item) (splitedAmount : Nat) : Vault :=
  { v with
    slots := update v.slots side
      (if splitedAmount ≠ 0 then some { it with count := it.count - splitedAmount } else none)
    guild :=
      if !side.isBank || sameTab side other then v.guild
      else if h : side.container.val < 6 then
        v.guild.decreaseMemberRemainingSlots R.player ⟨side.container, h⟩ R.now
      else v.guild }

/-- `BankTab::SetItem`, and the writing of a slot in `Player::_StoreItem`. -/
def setItem (p : Place) (it : Item) : Vault :=
  if p.isBank then
    if p.container.val < v.guild.purchasedTabs ∧ p.slot.val < bankMaxSlots then
      { v with slots := update v.slots p (some it) }
    else v
  else if p.container = bag0 ∨ v.getBagByPos R p.container = none then
    { v with slots := update v.slots ⟨false, bag0, p.slot⟩ (some it) }
  else { v with slots := update v.slots p (some it) }

/-- `_StoreItem`, of the bank and of the player. -/
def storeAt (it : Item) (clone : Bool) (p : Place) (count : Nat) : Vault :=
  match v.itemAt R p with
  | some t => { v with slots := update v.slots p (some { t with count := t.count + count }) }
  | none =>
    if clone then
      match Stacks.clone R.maxStack v.nextGuid it count with
      | some c => { v.setItem R p c with nextGuid := v.nextGuid + 1 }
      | none => v
    else v.setItem R p { it with count := count }

/-- `StoreItem`, of the bank and of the player: clones go to all positions but the last. -/
def storeItem (it : Item) : List (Place × Nat) → Vault → Vault
  | [], v => v
  | (p, count) :: rest, v => storeItem it rest (v.storeAt R it (!rest.isEmpty) p count)

/-- `_DoItemsMove`; nothing when there is no space. `it` is the item of the source, `srcItem` the item
that is moved: `it` or a clone of it. -/
def doItemsMove (src dest : Place) (it srcItem : Item) (destItem : Option Item) (splitedAmount : Nat) :
    Option Vault :=
  match v.canStore R dest srcItem destItem.isSome with
  | (.ok, vec) =>
    match destItem with
    | none =>
      let v := v.removeItem R src dest it splitedAmount
      some (storeItem R srcItem vec v)
    | some d =>
      match v.canStore R src d true with
      | (.ok, vec') =>
        let v := v.removeItem R src dest it splitedAmount
        let v := v.removeItem R dest src d 0
        let v := storeItem R srcItem vec v
        some (storeItem R d vec' v)
      | _ => none
  | _ => none

/-- The part of `_MoveItems` from the swap on. The flag says whether anything was moved. -/
def swapMove (src dest : Place) (it : Item) : Bool × Vault :=
  match v.initItem R dest with
  | none => (false, v)
  | some d =>
    if ¬ v.hasStoreRights R src dest then (false, v)
    else
      let r := v.hasWithdrawRights R dest src
      let v := { v with guild := r.2 }
      if ¬ r.1 then (false, v)
      else match v.doItemsMove R src dest it it (some d) 0 with
        | some v => (true, v)
        | none => (false, v)

/-- The part of `_MoveItems` after the rights: a split, or a merge and then a swap. The clone of a split
is made before it is known whether there is space. -/
def splitOrMerge (src dest : Place) (it : Item) (splitedAmount : Nat) : Bool × Vault :=
  if splitedAmount ≠ 0 then
    match Stacks.clone R.maxStack v.nextGuid it splitedAmount with
    | none => (false, v)
    | some c =>
      let v := { v with nextGuid := v.nextGuid + 1 }
      match v.doItemsMove R src dest it c none splitedAmount with
      | some v => (true, v)
      | none => (false, v)
  else match v.doItemsMove R src dest it it none 0 with
    | some v => (true, v)
    | none => v.swapMove R src dest it

def moveItems (src dest : Place) (splitedAmount : Nat) : Bool × Vault :=
  match v.initItem R src with
  | none => (false, v)
  | some it =>
    if it.count < splitedAmount then (false, v)
    else if ¬ v.hasStoreRights R dest src then (false, v)
    else
      let r := v.hasWithdrawRights R src dest
      let v := { v with guild := r.2 }
      if ¬ r.1 then (false, v)
      else v.splitOrMerge R src dest it (if splitedAmount = it.count then 0 else splitedAmount)

inductive Request where
  | swapItems (tab slot destTab destSlot : Byte) (splitedAmount : Nat)
  | swapItemsWithInventory (toChar : Bool) (tab slot playerBag playerSlot : Byte) (splitedAmount : Nat)
  deriving DecidableEq

def swapItems (tab slot destTab destSlot : Byte) (splitedAmount : Nat) : Bool × Vault :=
  if v.guild.purchasedTabs ≤ tab.val ∨ bankMaxSlots ≤ slot.val ∨ v.guild.purchasedTabs ≤ destTab.val ∨
      bankMaxSlots ≤ destSlot.val then (false, v)
  else if tab = destTab ∧ slot = destSlot then (false, v)
  else v.moveItems R ⟨true, tab, slot⟩ ⟨true, destTab, destSlot⟩ splitedAmount

def swapItemsWithInventory (toChar : Bool) (tab slot playerBag playerSlot : Byte) (splitedAmount : Nat) :
    Bool × Vault :=
  if (bankMaxSlots ≤ slot.val ∧ slot ≠ nullSlot) ∨ v.guild.purchasedTabs ≤ tab.val then (false, v)
  else if toChar then v.moveItems R ⟨true, tab, slot⟩ ⟨false, playerBag, playerSlot⟩ splitedAmount
  else v.moveItems R ⟨false, playerBag, playerSlot⟩ ⟨true, tab, slot⟩ splitedAmount

def request : Request → Bool × Vault
  | .swapItems tab slot destTab destSlot splitedAmount => v.swapItems R tab slot destTab destSlot splitedAmount
  | .swapItemsWithInventory toChar tab slot playerBag playerSlot splitedAmount =>
    v.swapItemsWithInventory R toChar tab slot playerBag playerSlot splitedAmount

end Vault

end Axium.Guilds
