import Axium.Looting.Loot
import Mathlib.Data.Rat.Floor

/-!
# Loot templates

`LootTemplate`, `LootGroup` and `LootStore` of `LootMgr.cpp`: how a table is loaded, and how a template is
processed into a loot.

The dice are sequences of draws, and a state counts the draws that were made. A `float` is a rational number
that is rounded after every operation; how it is rounded is an argument. Processing follows references, and
nothing bounds their depth: `process` and `hasDrop` have fuel for it, and there is no result where it does not
suffice.
-/

namespace Axium.LootStore

open Looting

structure LootStoreItem where
  itemid : Nat
  chance : ℚ
  /-- The least count of an item, or minus the id of a reference. -/
  mincountOrRef : Int
  lootmode : BitVec 16
  group : Nat := 0
  needsQuest : Bool := false
  /-- The largest count of an item, or how many times a reference is followed. -/
  maxcount : Nat := 1
  conditions : List Nat := []
deriving DecidableEq, Repr

structure LootGroup where
  explicitlyChanced : List LootStoreItem := []
  equalChanced : List LootStoreItem := []
deriving DecidableEq, Repr

structure LootTemplate where
  entries : List LootStoreItem := []
  groups : List LootGroup := []
deriving DecidableEq, Repr

abbrev LootTemplateMap : Type := OrdMap Nat LootTemplate

structure Config extends Looting.Env where
  /-- `InventoryType` of an item with a template. -/
  inventoryType : Nat → Option Nat
  /-- The nearest `float`. -/
  float : ℚ → ℚ := id
  /-- `RATE_DROP_ITEM_REFERENCED`. -/
  rateReferenced : ℚ := 1
  rateQuality : Nat → ℚ := fun _ => 1
  /-- `uint32(float(maxcount) * RATE_DROP_ITEM_REFERENCED_AMOUNT)`. -/
  referencedAmount : Nat → Nat := id
  /-- `GenerateEnchSuffixFactor`. -/
  enchSuffixFactor : Nat → Nat := fun _ => 0
  /-- `GenerateItemRandomPropertyId`, of a draw. -/
  itemRandomPropertyId : Nat → Nat → Int := fun _ _ => 0

/-- What `rand_chance` and the draws of a number return, one after the other. -/
structure Dice where
  randChance : Nat → { r : ℚ // 0 ≤ r ∧ r < 100 }
  irand : Nat → Nat

/-! ## Loading -/

structure Row where
  entry : Nat
  item : Nat
  chanceOrQuestChance : ℚ
  lootmode : BitVec 16
  groupid : Nat
  mincountOrRef : Int
  maxcount : Int

inductive LoadError where
  | maxcountTooLarge
  | wrongMincountOrRef
  | itemNotListed
  | equalChancedWithoutGroup
  | lowChance
  | maxcountLessThanMin
  | questChanceOfReference
  | zeroChanceOfReference
  | totalChance
  | equalChancedBesideFullChance
  | notExistedId (id : Nat)
deriving DecidableEq, Repr

/-- The constructor of `LootStoreItem`. The fields `group` and `maxcount` have seven and eight bits. -/
def Row.lootStoreItem (r : Row) : LootStoreItem where
  itemid := r.item
  chance := |r.chanceOrQuestChance|
  mincountOrRef := r.mincountOrRef
  lootmode := r.lootmode
  group := r.groupid % 128
  needsQuest := r.chanceOrQuestChance < 0
  maxcount := (r.maxcount % 256).toNat

/-- `LootStoreItem::IsValid`, and what it reports. -/
def LootStoreItem.isValid (C : Config) (i : LootStoreItem) : Bool × List LoadError :=
  if i.mincountOrRef = 0 then (false, [.wrongMincountOrRef])
  else if 0 < i.mincountOrRef then
    if C.inventoryType i.itemid = none then (false, [.itemNotListed])
    else if i.chance = 0 ∧ i.group = 0 then (false, [.equalChancedWithoutGroup])
    else if i.chance ≠ 0 ∧ i.chance < C.float (1 / 1000000) then (false, [.lowChance])
    else if (i.maxcount : Int) < i.mincountOrRef then (false, [.maxcountLessThanMin])
    else (true, [])
  else if i.needsQuest then (true, [.questChanceOfReference])
  else if i.chance = 0 then (false, [.zeroChanceOfReference])
  else (true, [])

def LootGroup.addEntry (g : LootGroup) (item : LootStoreItem) : LootGroup :=
  if item.chance ≠ 0 then { g with explicitlyChanced := g.explicitlyChanced ++ [item] }
  else { g with equalChanced := g.equalChanced ++ [item] }

def LootTemplate.addEntry (t : LootTemplate) (item : LootStoreItem) : LootTemplate :=
  if 0 < item.group ∧ 0 < item.mincountOrRef then
    let groups :=
      if t.groups.length ≤ item.group then
        t.groups ++ List.replicate (item.group - t.groups.length) ({} : LootGroup)
      else t.groups
    { t with groups := groups.modify (item.group - 1) (·.addEntry item) }
  else { t with entries := t.entries ++ [item] }

/-- One turn of the loop of `LoadLootTable`. -/
def loadRow (C : Config) (s : LootTemplateMap × List LoadError) (r : Row) : LootTemplateMap × List LoadError :=
  if 255 < r.maxcount then (s.1, s.2 ++ [.maxcountTooLarge])
  else
    let storeitem := r.lootStoreItem
    let (valid, errors) := storeitem.isValid C
    if valid then
      (s.1.insert r.entry (((s.1.find? r.entry).getD {}).addEntry storeitem), s.2 ++ errors)
    else (s.1, s.2 ++ errors)

def LootGroup.rawTotalChance (C : Config) (g : LootGroup) : ℚ :=
  (g.explicitlyChanced.filter fun i => !i.needsQuest).foldl (fun result i => C.float (result + i.chance)) 0

def LootGroup.verify (C : Config) (g : LootGroup) : List LoadError :=
  let chance := g.rawTotalChance C
  (if 101 < chance then [.totalChance] else []) ++
    if 100 ≤ chance ∧ g.equalChanced ≠ [] then [.equalChancedBesideFullChance] else []

/-- `LootTemplate::Verify`. References are not checked. -/
def LootTemplate.verify (C : Config) (t : LootTemplate) : List LoadError := t.groups.flatMap (·.verify C)

def LootStoreItem.referenced (m : LootTemplateMap) (i : LootStoreItem) : Option LootTemplate :=
  m.find? (-i.mincountOrRef).toNat

def checkRefs (refs : LootTemplateMap) (is : List LootStoreItem) : List LoadError :=
  is.filterMap fun i =>
    if i.mincountOrRef < 0 ∧ i.referenced refs = none then some (.notExistedId (-i.mincountOrRef).toNat)
    else none

def LootTemplate.checkLootRefs (refs : LootTemplateMap) (t : LootTemplate) : List LoadError :=
  checkRefs refs t.entries ++
    t.groups.flatMap fun g => checkRefs refs g.explicitlyChanced ++ checkRefs refs g.equalChanced

/-- `LoadLootTable`, with `Verify` at its end. -/
def loadLootTable (C : Config) (rows : List Row) : LootTemplateMap × List LoadError :=
  let (m, errors) := rows.foldl (loadRow C) (.empty, [])
  (m, errors ++ m.entries.flatMap fun e => e.2.verify C)

def loadReferences (C : Config) (rows : List Row) : LootTemplateMap × List LoadError :=
  let (m, errors) := loadLootTable C rows
  (m, errors ++ m.entries.flatMap fun e => e.2.checkLootRefs m)

/-! ## Processing -/

structure Drop where
  before : Loot
  entry : LootStoreItem
  /-- The entry is not in a group. -/
  plain : Bool

structure Rolling where
  loot : Loot := {}
  draws : Nat := 0
  log : List Drop := []

namespace Rolling

variable (st : Rolling)

def drawn : Rolling := { st with draws := st.draws + 1 }

/-- `Loot::AddItem`, in which `LootItem` draws its count and its random property. -/
def addItem (C : Config) (dice : Dice) (plain : Bool) (i : LootStoreItem) : Rolling :=
  let mincount := i.mincountOrRef.toNat
  let count := mincount + dice.irand st.draws % (i.maxcount + 1 - mincount)
  { loot := st.loot.addItem C.toEnv
      { itemid := i.itemid, conditions := i.conditions, needsQuest := i.needsQuest, count := count % 256
        randomSuffix := C.enchSuffixFactor i.itemid
        randomPropertyId := C.itemRandomPropertyId i.itemid (dice.irand (st.draws + 1)) }
    draws := st.draws + 2
    log := st.log ++ [⟨st.loot, i, plain⟩] }

end Rolling

variable (C : Config) (dice : Dice)

def LootStoreItem.roll (rate : Bool) (i : LootStoreItem) (st : Rolling) : Bool × Rolling :=
  if 100 ≤ i.chance then (true, st)
  else
    let modifier :=
      if i.mincountOrRef < 0 then if rate then C.rateReferenced else 1
      else if C.inventoryType i.itemid ≠ none ∧ rate then C.rateQuality i.itemid else 1
    (decide ((dice.randChance st.draws).val < C.float (i.chance * modifier)), st.drawn)

/-- The search of `LootGroup::Process` for an item that has dropped as often as it may. -/
def isDuplicate (InventoryType : Nat) (itemid : Nat) :
    List LootItem → (itemCounter : Nat) → (duplicate : Bool) → Bool
  | [], _, duplicate => duplicate
  | item :: items, itemCounter, duplicate =>
    if item.itemid = itemid then
      let itemCounter := itemCounter + 1
      if InventoryType = 0 ∧ itemCounter = 3 then isDuplicate InventoryType itemid items itemCounter true
      else if InventoryType ≠ 0 ∧ itemCounter = 1 then isDuplicate InventoryType itemid items itemCounter true
      else isDuplicate InventoryType itemid items itemCounter duplicate
    else isDuplicate InventoryType itemid items itemCounter duplicate

/-- The search of `LootTemplate::Process`. Its `continue` is that of the search, so the search goes on to the
end; the result is whether it stopped before. -/
def stopsAtDuplicate (InventoryType : Nat) (itemid : Nat) : List LootItem → (itemCounter : Nat) → Bool
  | [], _ => false
  | item :: items, itemCounter =>
    if item.itemid = itemid then
      let itemCounter := itemCounter + 1
      if InventoryType = 0 ∧ itemCounter = 3 then stopsAtDuplicate InventoryType itemid items itemCounter
      else if InventoryType ≠ 0 ∧ itemCounter = 1 then stopsAtDuplicate InventoryType itemid items itemCounter
      else stopsAtDuplicate InventoryType itemid items itemCounter
    else stopsAtDuplicate InventoryType itemid items itemCounter

namespace LootGroup

/-- The loop over the explicitly chanced entries. It erases those that miss; what is left begins with the entry
that was hit. -/
def rollExplicit : (Roll : ℚ) → List LootStoreItem → List LootStoreItem
  | _, [] => []
  | Roll, i :: is =>
    if 100 ≤ i.chance then i :: is
    else
      let Roll := C.float (Roll - i.chance)
      if Roll < 0 then i :: is else rollExplicit Roll is

def modeMatches (lootMode : BitVec 16) (item : LootStoreItem) : Bool := item.lootmode &&& lootMode ≠ 0

def duplicate (loot : Loot) (item : LootStoreItem) : Bool :=
  match C.inventoryType item.itemid with
  | some InventoryType => isDuplicate InventoryType item.itemid loot.items 0 false
  | none => false

/-- The loop of `LootGroup::Process`, with as many attempts as are left. -/
def processLoop (lootMode : BitVec 16) :
    Nat → (explicitPossibleDrops equalPossibleDrops : List LootStoreItem) → Rolling → Rolling
  | 0, _, _, st => st
  | left + 1, explicitPossibleDrops, equalPossibleDrops, st =>
    if explicitPossibleDrops = [] ∧ equalPossibleDrops = [] then st
    else
      let (explicitPossibleDrops, st) :=
        if explicitPossibleDrops = [] then ([], st)
        else (rollExplicit C (C.float (dice.randChance st.draws).val) explicitPossibleDrops, st.drawn)
      match explicitPossibleDrops with
      | item :: rest =>
        if modeMatches lootMode item then
          if duplicate C st.loot item then processLoop lootMode left rest equalPossibleDrops st
          else st.addItem C dice false item
        else processLoop lootMode left (item :: rest) equalPossibleDrops st
      | [] =>
        let i := dice.irand st.draws % equalPossibleDrops.length
        match equalPossibleDrops[i]? with
        | none => processLoop lootMode left [] equalPossibleDrops st
        | some item =>
          let st := st.drawn
          if modeMatches lootMode item then
            if duplicate C st.loot item then processLoop lootMode left [] (equalPossibleDrops.eraseIdx i) st
            else st.addItem C dice false item
          else processLoop lootMode left [] equalPossibleDrops st

/-- `uiMaxAttempts`, a `uint8`. -/
def maxAttempts (g : LootGroup) : Nat := (g.explicitlyChanced.length + g.equalChanced.length) % 256

def process (lootMode : BitVec 16) (g : LootGroup) (st : Rolling) : Rolling :=
  processLoop C dice lootMode g.maxAttempts g.explicitlyChanced g.equalChanced st

/-- `LootGroup::Roll`: the entry that is drawn. -/
def roll (g : LootGroup) (st : Rolling) : Option LootStoreItem :=
  let (explicit, st) :=
    if g.explicitlyChanced = [] then ([], st)
    else (rollExplicit C (C.float (dice.randChance st.draws).val) g.explicitlyChanced, st.drawn)
  match explicit with
  | item :: _ => some item
  | [] => g.equalChanced[dice.irand st.draws % g.equalChanced.length]?

end LootGroup

def repeatCall {σ : Type} (call : σ → Option σ) : Nat → σ → Option σ
  | 0, s => some s
  | n + 1, s => (call s).bind (repeatCall call n)

namespace LootTemplate

/-- The loop of `LootTemplate::Process` over the entries. `call` is the call for a referenced template. -/
def processEntries (refs : LootTemplateMap) (rate : Bool) (lootMode : BitVec 16)
    (call : LootTemplate → Nat → Rolling → Option Rolling) : List LootStoreItem → Rolling → Option Rolling
  | [], st => some st
  | i :: is, st =>
    if i.lootmode &&& ~~~lootMode ≠ 0 then processEntries refs rate lootMode call is st
    else
      let (hit, st) := i.roll C dice rate st
      if !hit then processEntries refs rate lootMode call is st
      else if (C.inventoryType i.itemid).any fun t => stopsAtDuplicate t i.itemid st.loot.items 0 then
        processEntries refs rate lootMode call is st
      else if i.mincountOrRef < 0 then
        match i.referenced refs with
        | none => processEntries refs rate lootMode call is st
        | some Referenced =>
          (repeatCall (call Referenced i.group) (C.referencedAmount i.maxcount) st).bind
            (processEntries refs rate lootMode call is)
      else processEntries refs rate lootMode call is (st.addItem C dice true i)

def process (refs : LootTemplateMap) (rate : Bool) (lootMode : BitVec 16) :
    Nat → LootTemplate → (groupId : Nat) → Rolling → Option Rolling
  | 0, _, _, _ => none
  | fuel + 1, t, 0, st =>
    (processEntries C dice refs rate lootMode (process refs rate lootMode fuel) t.entries st).map fun st =>
      t.groups.foldl (fun st g => g.process C dice lootMode st) st
  | _ + 1, t, groupId + 1, st =>
    match t.groups[groupId]? with
    | none => some st
    | some g => some (g.process C dice lootMode st)

end LootTemplate

/-! ### One turn of the loop -/

theorem stopsAtDuplicate_eq (InventoryType itemid : Nat) (items : List LootItem) (itemCounter : Nat) :
    stopsAtDuplicate InventoryType itemid items itemCounter = false := by
  induction items generalizing itemCounter with
  | nil => rfl
  | cons item items ih =>
    unfold stopsAtDuplicate
    dsimp only
    rw [ih, ih, ite_self, ite_self, ite_self]

/-- The turn of an entry that is no reference to go into: it is passed over, missed, or added. -/
inductive Passed (C : Config) (dice : Dice) (rate : Bool) (lootMode : BitVec 16) (i : LootStoreItem)
    (st : Rolling) : Rolling → Prop where
  | mode : Passed C dice rate lootMode i st st
  | rolled : Passed C dice rate lootMode i st (i.roll C dice rate st).2
  | added (hmode : i.lootmode &&& ~~~lootMode = 0) :
      Passed C dice rate lootMode i st ((i.roll C dice rate st).2.addItem C dice true i)

structure Followed (C : Config) (dice : Dice) (refs : LootTemplateMap) (rate : Bool) (lootMode : BitVec 16)
    (i : LootStoreItem) (st : Rolling) (Referenced : LootTemplate) : Prop where
  mode : i.lootmode &&& ~~~lootMode = 0
  hit : (i.roll C dice rate st).1 = true
  reference : i.mincountOrRef < 0
  referenced : i.referenced refs = some Referenced

theorem processEntries_cons (refs : LootTemplateMap) (rate : Bool) (lootMode : BitVec 16) (i : LootStoreItem)
    (is : List LootStoreItem) (st : Rolling) :
    ((∀ t, ¬ Followed C dice refs rate lootMode i st t) ∧ ∃ st₁, Passed C dice rate lootMode i st st₁ ∧
      ∀ call, LootTemplate.processEntries C dice refs rate lootMode call (i :: is) st =
        LootTemplate.processEntries C dice refs rate lootMode call is st₁) ∨
    ∃ Referenced, Followed C dice refs rate lootMode i st Referenced ∧
      ∀ call, LootTemplate.processEntries C dice refs rate lootMode call (i :: is) st =
        (repeatCall (call Referenced i.group) (C.referencedAmount i.maxcount) (i.roll C dice rate st).2).bind
          (LootTemplate.processEntries C dice refs rate lootMode call is) := by
  have hsearch : ((C.inventoryType i.itemid).any fun t =>
      stopsAtDuplicate t i.itemid (i.roll C dice rate st).2.loot.items 0) = false := by
    simp only [stopsAtDuplicate_eq]
    cases C.inventoryType i.itemid with
    | none => rfl
    | some t => rfl
  have hturn : ∀ call, LootTemplate.processEntries C dice refs rate lootMode call (i :: is) st =
      if i.lootmode &&& ~~~lootMode ≠ 0 then LootTemplate.processEntries C dice refs rate lootMode call is st
      else if (i.roll C dice rate st).1 = false then
        LootTemplate.processEntries C dice refs rate lootMode call is (i.roll C dice rate st).2
      else if i.mincountOrRef < 0 then
        match i.referenced refs with
        | none => LootTemplate.processEntries C dice refs rate lootMode call is (i.roll C dice rate st).2
        | some Referenced =>
          (repeatCall (call Referenced i.group) (C.referencedAmount i.maxcount) (i.roll C dice rate st).2).bind
            (LootTemplate.processEntries C dice refs rate lootMode call is)
      else LootTemplate.processEntries C dice refs rate lootMode call is
        ((i.roll C dice rate st).2.addItem C dice true i) := by
    intro call
    rw [LootTemplate.processEntries]
    dsimp only
    rw [hsearch, if_neg Bool.false_ne_true]
    simp only [Bool.not_eq_true']
  by_cases hmode : i.lootmode &&& ~~~lootMode ≠ 0
  · left
    refine ⟨fun t h => hmode h.mode, st, .mode, fun call => ?_⟩
    rw [hturn, if_pos hmode]
  cases hhit : (i.roll C dice rate st).1 with
  | false =>
    left
    refine ⟨fun t h => Bool.noConfusion (h.hit.symm.trans hhit), _, .rolled, fun call => ?_⟩
    rw [hturn, if_neg hmode, if_pos hhit]
  | true =>
    have hmiss : ¬ (i.roll C dice rate st).1 = false := by
      rw [hhit]
      decide
    by_cases href : i.mincountOrRef < 0
    · cases hreferenced : i.referenced refs with
      | none =>
        left
        refine ⟨fun t h => (Option.some_ne_none t) (h.referenced.symm.trans hreferenced), _, .rolled, fun call => ?_⟩
        rw [hturn, if_neg hmode, if_neg hmiss, if_pos href, hreferenced]
      | some Referenced =>
        right
        refine ⟨Referenced, ⟨not_not.1 hmode, hhit, href, hreferenced⟩, fun call => ?_⟩
        rw [hturn, if_neg hmode, if_neg hmiss, if_pos href, hreferenced]
    · left
      refine ⟨fun t h => href h.reference, _, .added (not_not.1 hmode), fun call => ?_⟩
      rw [hturn, if_neg hmode, if_neg hmiss, if_neg href]

/-! ## Quest drops -/

/-- The search of `HasQuestDrop` and `HasQuestDropForPlayer` in a group. -/
def LootGroup.hasDrop (p : LootStoreItem → Bool) (g : LootGroup) : Bool :=
  g.explicitlyChanced.any p || g.equalChanced.any p

namespace LootTemplate

def hasDropEntries (store : LootTemplateMap) (p : LootStoreItem → Bool)
    (call : LootTemplate → Nat → Option Bool) : List LootStoreItem → Option Bool
  | [] => some false
  | i :: is =>
    if i.mincountOrRef < 0 then
      match i.referenced store with
      | none => hasDropEntries store p call is
      | some Referenced => (call Referenced i.group).bind fun found =>
        if found then some true else hasDropEntries store p call is
    else if p i then some true
    else hasDropEntries store p call is

def hasDrop (store : LootTemplateMap) (p : LootStoreItem → Bool) :
    Nat → LootTemplate → (groupId : Nat) → Option Bool
  | 0, _, _ => none
  | fuel + 1, t, 0 =>
    (hasDropEntries store p (hasDrop store p fuel) t.entries).map fun found => found || t.groups.any (·.hasDrop p)
  | _ + 1, t, groupId + 1 => some ((t.groups[groupId]?).any (·.hasDrop p))

def hasQuestDrop (store : LootTemplateMap) : Nat → LootTemplate → (groupId : Nat) → Option Bool :=
  hasDrop store (·.needsQuest)

def hasQuestDropForPlayer (store : LootTemplateMap) (hasQuestForItem : Nat → Bool) :
    Nat → LootTemplate → (groupId : Nat) → Option Bool :=
  hasDrop store fun i => hasQuestForItem i.itemid

end LootTemplate

end Axium.LootStore
