import Axium.Lib.OrdMap
import Axium.Lib.Run
import Axium.Battleground.Basic

/-!
# The loot of a corpse or a chest

`Loot` of `LootMgr.cpp` with its filling, and the three ways an item leaves it: `StoreLootItem` of
`Player.cpp`, `HandleLootMasterGiveOpcode` of `LootHandler.cpp` and `CountTheRoll` of `Group.cpp`. Each of
them returns the loot and what it handed out.

Whether there is room for an item in the bags of a player is asked of `CanStoreNewItem`; its answer is an
argument here, as are the dice of `urand`.
-/

namespace Axium.Looting

open Option

def maxNrLootItems : Nat := 16

def maxNrQuestItems : Nat := 32

/-- `++` of a `uint8`, `n` times. -/
def add8 (a n : Nat) : Nat := (a + n) % 256

def dec8 (a : Nat) : Nat := (a + 255) % 256

structure LootItem where
  itemid : Nat
  randomSuffix : Nat := 0
  randomPropertyId : Int := 0
  conditions : List Nat := []
  allowedGUIDs : List Guid := []
  count : Nat := 1
  isLooted : Bool := false
  isBlocked : Bool := false
  freeforall : Bool := false
  isUnderthreshold : Bool := false
  isCounted : Bool := false
  needsQuest : Bool := false
deriving DecidableEq, Repr

/-- `QuestItem`: an item registered for a player, by its position. -/
structure QuestItem where
  index : Nat
  isLooted : Bool := false
deriving DecidableEq, Repr

structure Loot where
  items : List LootItem := []
  questItems : List LootItem := []
  gold : Nat := 0
  unlootedCount : Nat := 0
  roundRobinPlayer : Guid := 0
  playerQuestItems : OrdMap Guid (List QuestItem) := .empty
  playerFFAItems : OrdMap Guid (List QuestItem) := .empty
  playerNonQuestNonFFAConditionalItems : OrdMap Guid (List QuestItem) := .empty
deriving DecidableEq

/-- A position in `items` or in `quest_items`. -/
inductive Entry where
  | item (i : Nat)
  | quest (i : Nat)
deriving DecidableEq, Repr

structure Delivery where
  entry : Entry
  receiver : Guid
deriving DecidableEq, Repr

/-- What the loot asks of the templates and of the players. -/
structure Env where
  /-- `ITEM_PROTO_FLAG_PARTY_LOOT`. -/
  partyLoot : Nat → Bool
  /-- `BAG_FAMILY_MASK_CURRENCY_TOKENS`. -/
  currencyToken : Nat → Bool
  /-- `AllowedForPlayer`, which reads the item, its conditions and `needs_quest`. -/
  allowedForPlayer : Guid → Nat → List Nat → Bool → Bool

def LootItem.allowedForPlayer (env : Env) (item : LootItem) (player : Guid) : Bool :=
  env.allowedForPlayer player item.itemid item.conditions item.needsQuest

/-- `LootStoreItem`, with the count and the random properties that its `LootItem` draws. -/
structure LootStoreItem where
  itemid : Nat
  conditions : List Nat := []
  needsQuest : Bool := false
  count : Nat := 1
  randomSuffix : Nat := 0
  randomPropertyId : Int := 0

/-- The constructor of `LootItem`. -/
def LootStoreItem.lootItem (env : Env) (item : LootStoreItem) : LootItem where
  itemid := item.itemid
  randomSuffix := item.randomSuffix
  randomPropertyId := item.randomPropertyId
  conditions := item.conditions
  count := item.count
  freeforall := env.partyLoot item.itemid
  needsQuest := item.needsQuest

namespace Loot

variable (env : Env) (loot : Loot)

def isLooted : Prop := loot.gold = 0 ∧ loot.unlootedCount = 0

instance : Decidable loot.isLooted := inferInstanceAs (Decidable (_ ∧ _))

def itemOf? : Entry → Option LootItem
  | .item i => loot.items[i]?
  | .quest i => loot.questItems[i]?

def modifyEntry (f : LootItem → LootItem) : Entry → Loot
  | .item i => { loot with items := loot.items.modify i f }
  | .quest i => { loot with questItems := loot.questItems.modify i f }

variable (f : LootItem → LootItem)

theorem itemOf?_modifyEntry (e e' : Entry) :
    (loot.modifyEntry f e).itemOf? e' = if e = e' then (loot.itemOf? e').map f else loot.itemOf? e' := by
  have hlist : ∀ (l : List LootItem) (i j : Nat),
      (l.modify i f)[j]? = if i = j then l[j]?.map f else l[j]? := by
    intro l i j
    by_cases h : i = j
    · rw [if_pos h, h, List.getElem?_modify_eq]
      rfl
    · rw [if_neg h, List.getElem?_modify_ne _ _ h]
  cases e with
  | item i =>
    cases e' with
    | item j =>
      simp only [Entry.item.injEq]
      exact hlist loot.items i j
    | quest j => exact (if_neg (by simp)).symm
  | quest i =>
    cases e' with
    | item j => exact (if_neg (by simp)).symm
    | quest j =>
      simp only [Entry.quest.injEq]
      exact hlist loot.questItems i j

@[simp] theorem playerFFAItems_modifyEntry (e : Entry) :
    (loot.modifyEntry f e).playerFFAItems = loot.playerFFAItems := by
  cases e <;> rfl

@[simp] theorem playerQuestItems_modifyEntry (e : Entry) :
    (loot.modifyEntry f e).playerQuestItems = loot.playerQuestItems := by
  cases e <;> rfl

/-! ## Filling -/

def addItem (item : LootStoreItem) : Loot :=
  let lootItem := item.lootItem env
  if item.needsQuest then
    if loot.questItems.length < maxNrQuestItems then
      { loot with questItems := loot.questItems ++ [lootItem] }
    else loot
  else if loot.items.length < maxNrLootItems then
    { loot with
      items := loot.items ++ [lootItem]
      unlootedCount :=
        if item.conditions = [] ∧ lootItem.freeforall = false then add8 loot.unlootedCount 1
        else loot.unlootedCount }
  else loot

def positions (p : LootItem → Bool) (items : List LootItem) : List Nat :=
  (List.range items.length).filter fun i => items[i]?.any p

/-- The list of a player, registered unless it is empty. -/
def register (m : OrdMap Guid (List QuestItem)) (player : Guid) (ql : List Nat) :
    OrdMap Guid (List QuestItem) :=
  if ql = [] then m else m.insert player (ql.map fun i => { index := i })

def fillFFALoot (player : Guid) : Loot :=
  let ql := positions (fun item => !item.isLooted && item.freeforall &&
    item.allowedForPlayer env player) loot.items
  { loot with
    unlootedCount := add8 loot.unlootedCount ql.length
    playerFFAItems := register loot.playerFFAItems player ql }

/-- `FillQuestLoot`. The loop stops when the window of the player is full. -/
def fillQuestLoot (player : Guid) : Loot :=
  let ql := (positions (fun item => !item.isLooted && item.allowedForPlayer env player)
    loot.questItems).take (maxNrLootItems - loot.items.length)
  -- once if one looter only, looter-times if free for all
  let counted := ql.filter fun i => loot.questItems[i]?.any fun item => item.freeforall || !item.isBlocked
  { loot with
    questItems := loot.questItems.mapIdx fun i item =>
      if i ∈ ql then { item with isBlocked := true } else item
    unlootedCount := add8 loot.unlootedCount counted.length
    playerQuestItems := register loot.playerQuestItems player ql }

def fillNonQuestNonFFAConditionalLoot (player : Guid) (presentAtLooting : Bool) : Loot :=
  let seen (item : LootItem) : Bool :=
    !item.isLooted && !item.freeforall && item.allowedForPlayer env player
  let ql := positions (fun item => seen item && decide (item.conditions ≠ [])) loot.items
  let counted := ql.filter fun i => loot.items[i]?.any fun item => !item.isCounted
  { loot with
    items := loot.items.map fun item =>
      if seen item then
        { item with
          allowedGUIDs :=
            if presentAtLooting then item.allowedGUIDs.insert player else item.allowedGUIDs
          isCounted := item.isCounted || decide (item.conditions ≠ []) }
      else item
    unlootedCount := add8 loot.unlootedCount counted.length
    playerNonQuestNonFFAConditionalItems := register loot.playerNonQuestNonFFAConditionalItems player ql }

/-! ## Looting -/

/-- The slot of a player: the entry, and which of the pointers of `LootItemInSlot` are set. `qitem` is a
position in the list of the player. -/
structure Slot where
  entry : Entry
  qitem : Option Nat := none
  ffaitem : Bool := false
  conditem : Bool := false
deriving DecidableEq, Repr

/-- The first of the registered items at a position. -/
def registered (m : OrdMap Guid (List QuestItem)) (player : Guid) (i : Nat) : Option QuestItem :=
  (m.find? player).bind fun ql => ql.find? (·.index = i)

def lootItemInSlot (lootSlot : Nat) (player : Guid) : Option Slot :=
  match loot.items[lootSlot]? with
  | none =>
    let questSlot := lootSlot - loot.items.length
    match (loot.playerQuestItems.find? player).bind (·[questSlot]?) with
    | some qitem =>
      if qitem.isLooted then none else some { entry := .quest qitem.index, qitem := some questSlot }
    | none => none
  | some item =>
    if item.freeforall then
      if loot.playerFFAItems.contains player then
        match registered loot.playerFFAItems player lootSlot with
        | some ffaitem => if ffaitem.isLooted then none else some { entry := .item lootSlot, ffaitem := true }
        | none => if item.isLooted then none else some { entry := .item lootSlot }
      else none
    else if item.conditions ≠ [] then
      match registered loot.playerNonQuestNonFFAConditionalItems player lootSlot with
      | some conditem => if conditem.isLooted then none else some { entry := .item lootSlot, conditem := true }
      | none => if item.isLooted then none else some { entry := .item lootSlot }
    else if item.isLooted then none else some { entry := .item lootSlot }

inductive Found (player : Guid) (lootSlot : Nat) : Slot → Prop where
  | quest {ql : List QuestItem} {q : QuestItem} (hslot : loot.items.length ≤ lootSlot)
      (hql : loot.playerQuestItems.find? player = some ql)
      (hq : ql[lootSlot - loot.items.length]? = some q) (hfree : q.isLooted = false) :
      Found player lootSlot
        { entry := .quest q.index, qitem := some (lootSlot - loot.items.length) }
  | ffa {item : LootItem} {q : QuestItem} (hitem : loot.items[lootSlot]? = some item)
      (hffa : item.freeforall = true) (hq : registered loot.playerFFAItems player lootSlot = some q)
      (hfree : q.isLooted = false) : Found player lootSlot { entry := .item lootSlot, ffaitem := true }
  | unregistered {item : LootItem} (hitem : loot.items[lootSlot]? = some item)
      (hffa : item.freeforall = true) (hlist : loot.playerFFAItems.contains player = true)
      (hq : registered loot.playerFFAItems player lootSlot = none) (hfree : item.isLooted = false) :
      Found player lootSlot { entry := .item lootSlot }
  | cond {item : LootItem} {q : QuestItem} (hitem : loot.items[lootSlot]? = some item)
      (hffa : item.freeforall = false) (hcond : item.conditions ≠ [])
      (hq : registered loot.playerNonQuestNonFFAConditionalItems player lootSlot = some q)
      (hfree : q.isLooted = false) : Found player lootSlot { entry := .item lootSlot, conditem := true }
  | plain {item : LootItem} (hitem : loot.items[lootSlot]? = some item)
      (hffa : item.freeforall = false)
      (hcond : item.conditions = [] ∨
        registered loot.playerNonQuestNonFFAConditionalItems player lootSlot = none)
      (hfree : item.isLooted = false) : Found player lootSlot { entry := .item lootSlot }

theorem of_not_looted {looted : Bool} {x slot : Slot} (h : (if looted then none else some x) = some slot) :
    looted = false ∧ x = slot := by
  cases looted with
  | true => cases h
  | false => exact ⟨rfl, Option.some.inj h⟩

theorem found_of_lootItemInSlot {loot : Loot} {lootSlot : Nat} {player : Guid} {slot : Slot}
    (h : loot.lootItemInSlot lootSlot player = some slot) : loot.Found player lootSlot slot := by
  unfold lootItemInSlot at h
  cases hitem : loot.items[lootSlot]? with
  | none =>
    simp only [hitem] at h
    cases hq : (loot.playerQuestItems.find? player).bind (·[lootSlot - loot.items.length]?) with
    | none => simp only [hq, reduceCtorEq] at h
    | some q =>
      simp only [hq] at h
      obtain ⟨ql, hql, hq⟩ := Option.bind_eq_some_iff.1 hq
      obtain ⟨hl, rfl⟩ := of_not_looted h
      exact .quest (List.getElem?_eq_none_iff.1 hitem) hql hq hl
  | some item =>
    simp only [hitem] at h
    cases hffa : item.freeforall with
    | true =>
      simp only [hffa, if_true] at h
      cases hlist : loot.playerFFAItems.contains player with
      | false => simp [hlist] at h
      | true =>
        simp only [hlist, if_true] at h
        cases hq : registered loot.playerFFAItems player lootSlot with
        | none =>
          simp only [hq] at h
          obtain ⟨hl, rfl⟩ := of_not_looted h
          exact .unregistered hitem hffa hlist hq hl
        | some q =>
          simp only [hq] at h
          obtain ⟨hl, rfl⟩ := of_not_looted h
          exact .ffa hitem hffa hq hl
    | false =>
      simp only [hffa, Bool.false_eq_true, if_false] at h
      by_cases hcond : item.conditions = []
      · simp only [hcond, ne_eq, not_true_eq_false, if_false] at h
        obtain ⟨hl, rfl⟩ := of_not_looted h
        exact .plain hitem hffa (.inl hcond) hl
      · simp only [ne_eq, hcond, not_false_eq_true, if_true] at h
        cases hq : registered loot.playerNonQuestNonFFAConditionalItems player lootSlot with
        | none =>
          simp only [hq] at h
          obtain ⟨hl, rfl⟩ := of_not_looted h
          exact .plain hitem hffa (.inr hq) hl
        | some q =>
          simp only [hq] at h
          obtain ⟨hl, rfl⟩ := of_not_looted h
          exact .cond hitem hffa hcond hq hl

def markLooted (i : Nat) : List QuestItem → List QuestItem
  | [] => []
  | q :: ql => if q.index = i then { q with isLooted := true } :: ql else q :: markLooted i ql

/-- The mark of the player in his list: `qitem`, `ffaitem` or `conditem`. -/
def markOwn (player : Guid) (slot : Slot) : Loot :=
  match slot.qitem, slot.entry with
  | some j, _ =>
    { loot with
      playerQuestItems := loot.playerQuestItems.modify player
        (·.modify j fun q => { q with isLooted := true }) }
  | none, .item i =>
    if slot.ffaitem then
      { loot with playerFFAItems := loot.playerFFAItems.modify player (markLooted i) }
    else if slot.conditem then
      { loot with
        playerNonQuestNonFFAConditionalItems :=
          loot.playerNonQuestNonFFAConditionalItems.modify player (markLooted i) }
    else loot
  | none, .quest _ => loot

/-- What `StoreLootItem` marks when it has stored the item of the slot. -/
def markStored (player : Guid) (slot : Slot) (freeforall : Bool) : Loot :=
  let loot := loot.markOwn player slot
  let loot := if freeforall then loot
    else loot.modifyEntry (fun item => { item with isLooted := true }) slot.entry
  { loot with unlootedCount := dec8 loot.unlootedCount }

variable (player : Guid)

theorem itemOf?_markOwn (slot : Slot) (e : Entry) : (loot.markOwn player slot).itemOf? e = loot.itemOf? e := by
  rcases slot with ⟨_ | _, _ | _, _ | _, _ | _⟩ <;> cases e <;> rfl

theorem itemOf?_markStored (slot : Slot) (ffa : Bool) (e : Entry) :
    (loot.markStored player slot ffa).itemOf? e =
      if ffa = false ∧ slot.entry = e then
        (loot.itemOf? e).map fun item => { item with isLooted := true }
      else loot.itemOf? e := by
  cases ffa with
  | true =>
    rw [← loot.itemOf?_markOwn player slot e]
    cases e <;> rfl
  | false =>
    have hmod := itemOf?_modifyEntry (loot.markOwn player slot)
      (fun item => { item with isLooted := true }) slot.entry e
    rw [loot.itemOf?_markOwn player slot e] at hmod
    simp only [true_and]
    rw [← hmod]
    cases e <;> rfl

theorem playerQuestItems_markStored (slot : Slot) (ffa : Bool) :
    (loot.markStored player slot ffa).playerQuestItems = (loot.markOwn player slot).playerQuestItems := by
  cases ffa with
  | true => rfl
  | false => exact playerQuestItems_modifyEntry _ _ _

theorem playerFFAItems_markStored (slot : Slot) (ffa : Bool) :
    (loot.markStored player slot ffa).playerFFAItems = (loot.markOwn player slot).playerFFAItems := by
  cases ffa with
  | true => rfl
  | false => exact playerFFAItems_modifyEntry _ _ _

/-- What `StoreNewItem` hands out: `CreateItem` makes no item of count zero. -/
def handOut (item : LootItem) (entry : Entry) (receiver : Guid) : Option Delivery :=
  if item.count = 0 then none else some { entry, receiver }

def storeLootItem (lootSlot : Nat) (player : Guid) (canStore : Bool) : Loot × Option Delivery :=
  match loot.lootItemInSlot lootSlot player with
  | none => (loot, none)
  | some slot =>
    match loot.itemOf? slot.entry with
    | none => (loot, none)
    | some item =>
      -- questitems use the blocked field for other purposes
      if slot.qitem = none ∧ item.isBlocked then (loot, none)
      else if canStore then
        (loot.markStored player slot item.freeforall, handOut item slot.entry player)
      else (loot, none)

theorem storeLootItem_cases (lootSlot : Nat) (player : Guid) (canStore : Bool) :
    loot.storeLootItem lootSlot player canStore = (loot, none) ∨
      ∃ slot item, loot.Found player lootSlot slot ∧ loot.itemOf? slot.entry = some item ∧
        (slot.qitem = none → item.isBlocked = false) ∧
        loot.storeLootItem lootSlot player canStore =
          (loot.markStored player slot item.freeforall, handOut item slot.entry player) := by
  unfold storeLootItem
  cases hslot : loot.lootItemInSlot lootSlot player with
  | none => exact .inl rfl
  | some slot =>
    cases hitem : loot.itemOf? slot.entry with
    | none =>
      left
      simp only [hitem]
    | some item =>
      simp only [hitem]
      by_cases hblocked : slot.qitem = none ∧ item.isBlocked = true
      · rw [if_pos hblocked]
        exact .inl rfl
      · rw [if_neg hblocked]
        cases canStore with
        | false => exact .inl rfl
        | true =>
          refine .inr ⟨slot, item, found_of_lootItemInSlot hslot, hitem, fun hq => ?_, rfl⟩
          exact Bool.eq_false_iff.2 fun hb => hblocked ⟨hq, hb⟩

/-- The loop of `FillNotNormalLootFor` over the currency tokens. It tests `quest_items` by position, and
`StoreLootItem` takes the slot of the player. -/
def storeCurrency (player : Guid) (canStore : Nat → Bool) :
    List Nat → Loot → List Delivery → Loot × List Delivery
  | [], loot, out => (loot, out)
  | i :: is, loot, out =>
    let item := if i < loot.items.length then loot.items[i]?
      else loot.questItems[i - loot.items.length]?
    if item.any fun item => !item.isLooted && item.freeforall && item.allowedForPlayer env player &&
        env.currencyToken item.itemid then
      let (loot, handed) := loot.storeLootItem i player (canStore i)
      storeCurrency player canStore is loot (out ++ handed.toList)
    else storeCurrency player canStore is loot out

def getMaxSlotInLootFor (player : Guid) : Nat :=
  loot.items.length + ((loot.playerQuestItems.find? player).getD []).length

/-- The three lists of `FillNotNormalLootFor`, each filled once. -/
def fillLists (player : Guid) (presentAtLooting : Bool) : Loot :=
  let loot := if loot.playerQuestItems.contains player then loot else loot.fillQuestLoot env player
  let loot := if loot.playerFFAItems.contains player then loot else loot.fillFFALoot env player
  if loot.playerNonQuestNonFFAConditionalItems.contains player then loot
  else loot.fillNonQuestNonFFAConditionalLoot env player presentAtLooting

def fillNotNormalLootFor (player : Guid) (presentAtLooting : Bool) (canStore : Nat → Bool) :
    Loot × List Delivery :=
  let loot := loot.fillLists env player presentAtLooting
  if presentAtLooting then
    storeCurrency env player canStore (List.range (loot.getMaxSlotInLootFor player)) loot []
  else (loot, [])

/-! ## Master loot -/

def markGiven (slotid : Nat) : Loot :=
  { loot with
    items := loot.items.modify slotid fun item => { item with count := 0, isLooted := true }
    unlootedCount := dec8 loot.unlootedCount }

/-- `HandleLootMasterGiveOpcode` from its check of the slot on. There is no result where it reads an item
behind the end of `items`. -/
def masterGive (slotid : Nat) (target : Guid) (canStore : Bool) : Option (Loot × Option Delivery) :=
  if loot.items.length < slotid then some (loot, none)
  else
    match loot.items[slotid]? with
    | none => none
    | some item =>
      if canStore then some (loot.markGiven slotid, handOut item (.item slotid) target)
      else some (loot, none)

end Loot

/-! ## Rolls -/

inductive RollVote where
  | pass
  | need
  | greed
  | disenchant
  | notEmitedYet
  | notValid
deriving DecidableEq, Repr

/-- `Roll`, for an item of the loot that it is linked to. -/
structure Roll where
  lootId : Nat := 0
  itemGUID : Nat
  itemid : Nat
  itemSlot : Nat
  playerVote : OrdMap Guid RollVote
  totalPlayersRolling : Nat
  totalNeed : Nat := 0
  totalGreed : Nat := 0
  totalPass : Nat := 0
deriving DecidableEq

/-- What `CountTheRoll` draws and asks: `urand(1, 100)` is `dice + 1`. -/
structure Draw where
  dice : Guid → Fin 100
  /-- `FindPlayer` finds the player, and he has a session. -/
  online : Guid → Bool
  canStoreNewItem : Guid → Bool

/-- The loop of `CountTheRoll` over the votes that count. -/
def bestRoll (counts : RollVote → Bool) (dice : Guid → Fin 100) :
    List (Guid × RollVote) → (maxresul : Nat) → (maxguid : Guid) → (rollvote : RollVote) → Guid × RollVote
  | [], _, maxguid, rollvote => (maxguid, rollvote)
  | (guid, vote) :: votes, maxresul, maxguid, rollvote =>
    if counts vote then
      let randomN := (dice guid).val + 1
      if maxresul < randomN then bestRoll counts dice votes randomN guid vote
      else bestRoll counts dice votes maxresul maxguid rollvote
    else bestRoll counts dice votes maxresul maxguid rollvote

/-- The votes that count for `totalGreed`. -/
def RollVote.greedy (v : RollVote) : Bool := v = .greed || v = .disenchant

namespace Loot

variable (loot : Loot)

def markWon (slot : Nat) : Loot :=
  { loot with
    items := loot.items.modify slot fun item => { item with isLooted := true }
    unlootedCount := dec8 loot.unlootedCount }

def unblock (slot : Nat) : Loot :=
  { loot with items := loot.items.modify slot fun item => { item with isBlocked := false } }

def storeWon (slot : Nat) (item : LootItem) (winner : Guid) (canStore : Bool) : Loot × Option Delivery :=
  if canStore then (loot.markWon slot, handOut item (.item slot) winner)
  else (loot.unblock slot, none)

/-- `CountTheRoll` on the loot. -/
def countTheRoll (roll : Roll) (draw : Draw) : Loot × Option Delivery :=
  match loot.items[roll.itemSlot]? with
  | none => (loot, none)
  | some item =>
    if 0 < roll.totalNeed then
      match roll.playerVote.first? with
      | none => (loot, none)
      | some first =>
        let winner := (bestRoll (· = .need) draw.dice roll.playerVote.entries 0 first .notValid).1
        if draw.online winner then
          loot.storeWon roll.itemSlot item winner (draw.canStoreNewItem winner)
        else (loot, none)
    else if 0 < roll.totalGreed then
      match roll.playerVote.first? with
      | none => (loot, none)
      | some first =>
        let (winner, rollvote) :=
          bestRoll RollVote.greedy draw.dice roll.playerVote.entries 0 first .notValid
        if draw.online winner then
          if rollvote = .greed then
            loot.storeWon roll.itemSlot item winner (draw.canStoreNewItem winner)
          else if rollvote = .disenchant then
            -- `AutoStoreLoot` of what the item is disenchanted to
            (loot.markWon roll.itemSlot, some { entry := .item roll.itemSlot, receiver := winner })
          else (loot, none)
        else (loot, none)
    else (loot.unblock roll.itemSlot, none)

theorem storeWon_cases (slot : Nat) (item : LootItem) (winner : Guid) (canStore : Bool) :
    loot.storeWon slot item winner canStore = (loot.unblock slot, none) ∨
      loot.storeWon slot item winner canStore = (loot.markWon slot, handOut item (.item slot) winner) := by
  cases canStore with
  | true => exact .inr rfl
  | false => exact .inl rfl

theorem countTheRoll_cases (roll : Roll) (draw : Draw) :
    loot.countTheRoll roll draw = (loot, none) ∨
    loot.countTheRoll roll draw = (loot.unblock roll.itemSlot, none) ∨
    ∃ item winner, loot.items[roll.itemSlot]? = some item ∧
      (roll.totalNeed ≠ 0 ∨ roll.totalGreed ≠ 0) ∧
      (loot.countTheRoll roll draw =
          (loot.markWon roll.itemSlot, handOut item (.item roll.itemSlot) winner) ∨
        loot.countTheRoll roll draw = (loot.markWon roll.itemSlot, some ⟨.item roll.itemSlot, winner⟩)) := by
  unfold countTheRoll
  cases hitem : loot.items[roll.itemSlot]? with
  | none => exact .inl rfl
  | some item =>
    dsimp only
    by_cases hneed : 0 < roll.totalNeed
    · rw [if_pos hneed]
      cases hfirst : roll.playerVote.first? with
      | none => exact .inl rfl
      | some first =>
        dsimp only
        split
        · rcases storeWon_cases loot roll.itemSlot item _ _ with heq | heq
          · exact .inr (.inl heq)
          · exact .inr (.inr ⟨item, _, rfl, .inl (by omega), .inl heq⟩)
        · exact .inl rfl
    · rw [if_neg hneed]
      by_cases hgreed : 0 < roll.totalGreed
      · rw [if_pos hgreed]
        cases hfirst : roll.playerVote.first? with
        | none => exact .inl rfl
        | some first =>
          dsimp only
          split
          · split
            · rcases storeWon_cases loot roll.itemSlot item _ _ with heq | heq
              · exact .inr (.inl heq)
              · exact .inr (.inr ⟨item, _, rfl, .inr (by omega), .inl heq⟩)
            · split
              · exact .inr (.inr ⟨item, _, rfl, .inr (by omega), .inr rfl⟩)
              · exact .inl rfl
          · exact .inl rfl
      · rw [if_neg hgreed]
        exact .inr (.inl rfl)

variable {loot} in
theorem lootItemInSlot_outOfRange {lootSlot : Nat} {player : Guid}
    (h : loot.getMaxSlotInLootFor player ≤ lootSlot) : loot.lootItemInSlot lootSlot player = none := by
  unfold getMaxSlotInLootFor at h
  have hitems : loot.items[lootSlot]? = none := List.getElem?_eq_none (by omega)
  unfold lootItemInSlot
  rw [hitems]
  dsimp only
  cases hql : loot.playerQuestItems.find? player with
  | none => rfl
  | some ql =>
    rw [hql, Option.getD_some] at h
    rw [Option.bind_some, List.getElem?_eq_none (by omega)]

end Loot

end Axium.Looting
