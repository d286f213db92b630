import Axium.Player.Inventory

/-!
# Trades between two players

`TradeData` of `Player.cpp` and the handlers of `TradeHandler.cpp`, with the other requests of the two
players that change their items while the trade is open.

An offer names items by guid, and `GetItem` looks them up each time. Setting an item, the gold or the spell
takes back both acceptances; requests that change the items do not.

The state has, beside what the source keeps, the offer that each trader saw at his last accept (`shown`)
and, once the exchange was executed, what each one gave (`given`). Both inventories carry the one counter
of item guids. What an item sold goes to, and the effect of the spells that are cast at the end, are left
out; `CanStoreItems` and the checks of single items and spells can only refuse and are fields of `Market`.
-/

namespace Axium.Trade

open Guilds Stacks Function Player

inductive Side where
  | left
  | right
  deriving DecidableEq, Repr

def Side.other : Side → Side
  | .left => .right
  | .right => .left

@[simp] theorem Side.other_other (s : Side) : s.other.other = s := by cases s <;> rfl

theorem Side.other_ne (s : Side) : s.other ≠ s := by cases s <;> decide

theorem Side.eq_or_eq_other (s x : Side) : x = s ∨ x = s.other := by cases s <;> cases x <;> decide

def slotNontraded : Fin 7 := 6

def tradedSlots : List (Fin 7) := [0, 1, 2, 3, 4, 5]

/-- `TradeData` of one trader. An item is named by its guid, `0` is none. The constructor sets neither
`items` nor `spellCastItem`. -/
structure TradeData where
  items : Fin 7 → Nat
  money : Nat := 0
  spell : Nat := 0
  spellCastItem : Nat := 0
  accepted : Bool := false

def TradeData.hasItem (td : TradeData) (guid : Nat) : Bool := (List.finRange 7).any fun i => td.items i = guid

/-- What the handlers read beside the traders. `mayBeTraded` has the checks of `CanBeTraded` of the item
alone, `checkCast` those of the spell of a trader, `canSell` those of `HandleSellItemOpcode`. `payment` is
the `ExtendedCost2` of an entry. -/
structure Market where
  template : Nat → ItemTemplate
  player : Side → Rules
  mayBeTraded : Side → Item → Bool
  canStoreItems : Side → Inventory → List (Option Item) → Bool
  hasSpellInfo : Nat → Bool
  checkCast : Side → Nat → Bool
  canSell : Side → Item → Bool
  sellPrice : Nat → Nat
  payment : Nat → Option (Nat × Nat)
  isIndestructible : Nat → Bool

def Market.rules (M : Market) (s : Side) : Rules := { M.player s with template := M.template }

structure Trader where
  inv : Inventory
  money : Nat

structure Offer where
  items : List (Option Item)
  money : Nat
  deriving DecidableEq

structure Table where
  trader : Side → Trader
  trade : Option (Side → TradeData)
  shown : Side → Offer
  given : Option (Side → Offer) := none

/-! ## The window -/

section window

variable (trade : Side → TradeData) (s : Side)

def setAccepted (state : Bool) : Side → TradeData := update trade s { trade s with accepted := state }

def setSpell (spell castItem : Nat) : Side → TradeData :=
  if (trade s).spell = spell ∧ (trade s).spellCastItem = castItem then trade
  else
    let trade := update trade s { trade s with spell := spell, spellCastItem := castItem }
    setAccepted (setAccepted trade s false) s.other false

def setItem (slot : Fin 7) (guid : Nat) : Side → TradeData :=
  if (trade s).items slot = guid then trade
  else
    let trade := update trade s { trade s with items := update (trade s).items slot guid }
    let trade := setAccepted (setAccepted trade s false) s.other false
    -- need remove possible trader spell applied to changed item
    let trade := if slot = slotNontraded then setSpell trade s.other 0 0 else trade
    setSpell trade s 0 0

def setMoney (money : Nat) : Side → TradeData :=
  if (trade s).money = money then trade
  else
    let trade := update trade s { trade s with money := money }
    setAccepted (setAccepted trade s false) s.other false

end window

namespace Table

variable (M : Market) (t : Table)

abbrev inv (s : Side) : Inventory := (t.trader s).inv

def setInv (s : Side) (inv : Inventory) : Table :=
  { t with
    trader := fun x =>
      if x = s then { t.trader x with inv }
      else { t.trader x with inv := { t.inv x with nextGuid := inv.nextGuid } } }

def getItem (trade : Side → TradeData) (s : Side) (slot : Fin 7) : Option Item :=
  if (trade s).items slot = 0 then none
  else (t.inv s).getItemByGuid (M.rules s) ((trade s).items slot)

def tradedItems (trade : Side → TradeData) (s : Side) : List (Option Item) :=
  tradedSlots.map (t.getItem M trade s)

def offer (trade : Side → TradeData) (s : Side) : Offer := ⟨t.tradedItems M trade s, (trade s).money⟩

/-! ## The exchange -/

def canBeTraded (s : Side) (it : Item) : Bool :=
  let inv := t.inv s
  let p := inv.getPos it.guid
  M.mayBeTraded s it &&
  !((M.template it.entry).isBag && (isBagPos p.bag p.slot || inv.isNotEmptyBag (M.rules s) it)) &&
  inv.canUnequipItem (M.rules s) p false

def tradeable (trade : Side → TradeData) (me : Side) : Bool :=
  tradedSlots.all fun i =>
    (t.getItem M trade me i).all (fun it =>
      t.canBeTraded M me it && !(M.rules me.other).isBindedNotWith it) &&
    (t.getItem M trade me.other i).all (t.canBeTraded M me.other)

def spellFails (trade : Side → TradeData) (s : Side) : Bool :=
  (trade s).spell ≠ 0 ∧
    (¬ M.hasSpellInfo (trade s).spell ∨ t.getItem M trade s.other slotNontraded = none ∨
      ((trade s).spellCastItem ≠ 0 ∧ (t.inv s).getItemByGuid (M.rules s) (trade s).spellCastItem = none) ∨
      ¬ M.checkCast s (trade s).spell)

def takeOut (s : Side) (it : Item) : Table :=
  t.setInv s ((t.inv s).removeItem (M.rules s) ((t.inv s).getPos it.guid))

def takeAll (me : Side) : List (Option Item × Option Item) → Table → Table
  | [], t => t
  | (mine, his) :: rest, t =>
    let t := mine.elim t (t.takeOut M me)
    let t := his.elim t (t.takeOut M me.other)
    takeAll me rest t

/-- `CanStoreItem` anywhere, from the positions that `dest` already has; no item can always be stored. -/
def canStore (s : Side) (dest : List (Place × Nat)) : Option Item → Bool × List (Place × Nat)
  | none => (true, dest)
  | some it =>
    let r := (t.inv s).canStoreItemOnto (M.rules s) dest ⟨nullBag, nullSlot⟩ it false
    (r.1 = .ok, r.2)

/-- `MoveItemToInventory`. -/
def store (s : Side) (dest : List (Place × Nat)) (it : Item) : Table :=
  t.setInv s (Inventory.storeItem (M.rules s) it dest (t.inv s))

/-- The item goes back to its owner, from the positions that `dest` already has. It is lost when it cannot
be stored. -/
def giveBack (s : Side) (dest : List (Place × Nat)) : Option Item → Table
  | none => t
  | some it =>
    let r := t.canStore M s dest (some it)
    if r.1 then t.store M s r.2 it else t

/-- One round of `moveItems`. The flag says whether the items changed hands. -/
def movePair (me : Side) (mine his : Option Item) : Table × Bool :=
  let trader := t.canStore M me.other [] mine
  let player := t.canStore M me [] his
  if trader.1 ∧ player.1 then
    let t := mine.elim t (t.store M me.other trader.2)
    (his.elim t (t.store M me player.2), true)
  else
    -- the vectors of the other item are used again here
    let t := t.giveBack M me player.2 mine
    (t.giveBack M me.other trader.2 his, false)

/-- `moveItems`, with the pairs that changed hands. -/
def moveItems (me : Side) : List (Option Item × Option Item) → Table → Table × List (Option Item × Option Item)
  | [], t => (t, [])
  | (mine, his) :: rest, t =>
    let r := t.movePair M me mine his
    let q := moveItems me rest r.1
    (q.1, (if r.2 then (mine, his) else (none, none)) :: q.2)

def payAndEarn (money pays earns : Nat) : Nat := modifyMoney (modifyMoney money (-int32 pays)) (int32 earns)

def pairs (trade : Side → TradeData) (me : Side) : List (Option Item × Option Item) :=
  (t.tradedItems M trade me).zip (t.tradedItems M trade me.other)

def execute (trade : Side → TradeData) (me : Side) : Table :=
  let pairs := t.pairs M trade me
  let r := moveItems M me pairs (takeAll M me pairs t)
  { r.1 with
    trader := fun x =>
      { r.1.trader x with
        money := payAndEarn (r.1.trader x).money (trade x).money (trade x.other).money }
    trade := none
    given := some fun x => ⟨if x = me then r.2.map Prod.fst else r.2.map Prod.snd, (trade x).money⟩ }

/-- The checks of `HandleAcceptTradeOpcode`, after `me` has accepted: the trade as it stays open, or nothing
when the exchange is executed. -/
def staysOpen (trade : Side → TradeData) (me : Side) : Option (Side → TradeData) :=
  -- not accept case incorrect money amount
  if (t.trader me).money < (trade me).money then some (setAccepted trade me false)
  else if (t.trader me.other).money < (trade me.other).money then some (setAccepted trade me.other false)
  else if ¬ t.tradeable M trade me then some trade
  else if ¬ (trade me.other).accepted then some trade
  -- not accept if spell can't be casted now
  else if t.spellFails M trade me then some (setSpell trade me 0 0)
  else if t.spellFails M trade me.other then some (setSpell trade me.other 0 0)
  -- test if item will fit in each inventory
  else if ¬ (M.canStoreItems me.other (t.inv me.other) (t.tradedItems M trade me) ∧
      M.canStoreItems me (t.inv me) (t.tradedItems M trade me.other)) then
    some (setAccepted (setAccepted trade me false) me.other false)
  else none

def handleAccept (me : Side) : Table :=
  match t.trade with
  | none => t
  | some trade =>
    let shown := update t.shown me (t.offer M trade me.other)
    let trade := setAccepted trade me true
    match t.staysOpen M trade me with
    | some trade => { t with shown, trade := some trade }
    | none => { t.execute M trade me with shown }

/-! ## Requests -/

/-- `DestroyItemCount`, of one item. -/
def destroyItemCount (W : Rules) (inv : Inventory) (it : Item) (count : Nat) : Inventory :=
  if it.count ≤ count then inv.removeItem W (inv.getPos it.guid) else inv.setCount it (it.count - count)

def handleDestroyItem (s : Side) (inv : Inventory) (p : Pos) (count : Nat) : Inventory :=
  let W := M.rules s
  if (isEquipmentPos p ∨ isBagPos p.bag p.slot) ∧ ¬ inv.canUnequipItem W p false then inv
  else match inv.getItemByPos W p with
    | none => inv
    | some it =>
      if M.isIndestructible it.entry then inv
      else if count ≠ 0 then destroyItemCount W inv it count
      else inv.removeItem W p

/-- `Player::AddItem`, with the positions that were found for the new item. -/
def addItem (W : Rules) (inv : Inventory) (entry count : Nat) : Inventory :=
  let r := inv.canStoreItemOnto W [] ⟨nullBag, nullSlot⟩ ⟨inv.nextGuid, entry, count⟩ false
  if count = 0 ∨ r.2 = [] then inv
  else
    Inventory.storeItem W ⟨inv.nextGuid, entry, (r.2.map Prod.snd).sum⟩ r.2
      { inv with nextGuid := inv.nextGuid + 1 }

/-- `HandleSellItemOpcode`, with the argument of `ModifyMoney`. What is sold leaves the inventory. -/
def handleSellItem (s : Side) (inv : Inventory) (guid count : Nat) : Inventory × Option Nat :=
  let W := M.rules s
  match inv.getItemByGuid W guid with
  | none => (inv, none)
  | some it =>
    if guid = 0 ∨ ¬ M.canSell s it ∨ inv.isNotEmptyBag W it ∨ it.count < count then (inv, none)
    else
      -- sell all
      let count := if count = 0 then it.count else count
      let inv :=
        if count < it.count then { inv.setCount it (it.count - count) with nextGuid := inv.nextGuid + 1 }
        else inv.removeItem W (inv.getPos it.guid)
      match M.payment it.entry with
      | some (entry, n) => (addItem W inv entry (n * count), none)
      | none => (inv, some (M.sellPrice it.entry * count % 4294967296))

/-- The requests of a player that change his items. `use` is the use of the last charge of an item. -/
inductive ItemRequest where
  | swapItem (src dst : Pos)
  | splitItem (src dst : Pos) (count : Nat)
  | autoEquipItem (p : Pos)
  | autoStoreBagItem (p : Pos) (dstbag : Byte)
  | destroyItem (p : Pos) (count : Nat)
  | sellItem (guid count : Nat)
  | useItem (guid : Nat)

/-- The request of a player, with the argument of `ModifyMoney` if it is called. `inTrade` has the items of
his trade window. -/
def itemRequest (s : Side) (inTrade : Item → Bool) (inv : Inventory) : ItemRequest → Inventory × Option Nat
  | .swapItem src dst =>
    let W := M.rules s
    if src = dst ∨ ¬ inv.isValidPos W src true ∨ ¬ inv.isValidPos W dst true then (inv, none)
    else (inv.swapItem W src dst, none)
  | .splitItem src dst count =>
    let W := M.rules s
    if src = dst ∨ count = 0 ∨ ¬ inv.isValidPos W src true ∨ ¬ inv.isValidPos W dst false then (inv, none)
    else (inv.splitItem W inTrade src dst count, none)
  | .autoEquipItem p => (inv.handleAutoEquipItem (M.rules s) p, none)
  | .autoStoreBagItem p dstbag => (inv.handleAutoStoreBagItem (M.rules s) p dstbag, none)
  | .destroyItem p count => (handleDestroyItem M s inv p count, none)
  | .sellItem guid count => handleSellItem M s inv guid count
  | .useItem guid =>
    match inv.getItemByGuid (M.rules s) guid with
    | some it => (destroyItemCount (M.rules s) inv it 1, none)
    | none => (inv, none)

inductive Request where
  | setItem (tradeSlot : Nat) (p : Pos)
  | clearItem (tradeSlot : Nat)
  | setGold (gold : Nat)
  | setSpell (spell castItem : Nat)
  | accept
  | unaccept
  | cancel
  | items (r : ItemRequest)

def handleSetTradeItem (trade : Side → TradeData) (s : Side) (tradeSlot : Nat) (p : Pos) : Side → TradeData :=
  if h : tradeSlot < 7 then
    match (t.inv s).getItemByPos (M.rules s) p with
    | none => trade
    | some it =>
      if (tradeSlot ≠ 6 ∧ ¬ t.canBeTraded M s it) ∨ (trade s).hasItem it.guid then trade
      else Trade.setItem trade s ⟨tradeSlot, h⟩ it.guid
  else trade

def onTrade (f : (Side → TradeData) → Side → TradeData) : Table := { t with trade := t.trade.map f }

def inWindow (s : Side) (it : Item) : Bool :=
  match t.trade with
  | some trade => (trade s).hasItem it.guid
  | none => false

def handleItems (s : Side) (r : ItemRequest) : Table :=
  let q := itemRequest M s (t.inWindow s) (t.inv s) r
  let t := t.setInv s q.1
  match q.2 with
  | none => t
  | some d =>
    { t with trader := update t.trader s { t.trader s with money := modifyMoney (t.trader s).money (int32 d) } }

def step (t : Table) : Side × Request → Table
  | (s, .setItem tradeSlot p) => t.onTrade fun trade => t.handleSetTradeItem M trade s tradeSlot p
  | (s, .clearItem tradeSlot) =>
    t.onTrade fun trade => if h : tradeSlot < 7 then Trade.setItem trade s ⟨tradeSlot, h⟩ 0 else trade
  | (s, .setGold gold) => t.onTrade fun trade => setMoney trade s (gold % 4294967296)
  | (s, .setSpell spell castItem) => t.onTrade fun trade => Trade.setSpell trade s spell castItem
  | (s, .accept) => t.handleAccept M s
  | (s, .unaccept) => t.onTrade fun trade => setAccepted trade s false
  | (_, .cancel) => { t with trade := none }
  | (s, .items r) => t.handleItems M s r

end Table

end Axium.Trade
