import Axium.Looting.LootShape

/-!
# The loot window and the request for a slot

`operator<<` of `LootView` shows a loot to a player, and `StoreLootItem` takes what he asks for. The view sorts
the items by the permission, the owner in round robin and the conditions; the request asks only
`LootItemInSlot` and whether the item is blocked.

What is shown is right in every loot: the count, the slots, and the item in each slot. But the request takes
more than the view offers: items of the owner in round robin, items whose conditions the player does not meet,
and everything where he has no permission at all.
-/

namespace Axium.Looting

open List Loot

inductive PermissionTypes where
  | all
  | group
  | master
  | roundRobin
  | owner
  | none
deriving DecidableEq, Repr

inductive LootSlotType where
  | allowLoot
  | rollOngoing
  | master
  | locked
  | owner
deriving DecidableEq, Repr

/-- What the packet has for an item: the slot, what `operator<<` of `LootItem` writes, and the slot type. -/
structure Line where
  slot : Nat
  itemid : Nat
  count : Nat
  displayInfoID : Nat
  randomSuffix : Nat
  randomPropertyId : Nat
  slotType : LootSlotType
  /-- Which item it is. This is not written. -/
  entry : Entry
deriving DecidableEq, Repr

/-- `operator<<` of `LootItem`, between the slot and its type. -/
def LootItem.line (displayInfoID : Nat → Nat) (item : LootItem) (entry : Entry) (slot : Nat)
    (slotType : LootSlotType) : Line where
  slot := slot % 256
  itemid := item.itemid
  count := item.count
  displayInfoID := displayInfoID item.itemid
  randomSuffix := item.randomSuffix
  randomPropertyId := (item.randomPropertyId % 2 ^ 32).toNat
  slotType
  entry

/-- The packet. `itemsShown` is the byte before the items. -/
structure Response where
  gold : Nat := 0
  itemsShown : Nat := 0
  lines : List Line := []
deriving DecidableEq, Repr

def Response.put (b : Response) : Option Line → Response
  | none => b
  | some line => { b with itemsShown := add8 b.itemsShown 1, lines := b.lines ++ [line] }

structure LootView where
  loot : Loot
  viewer : Guid
  permission : PermissionTypes := .all

namespace LootView

variable (env : Env) (displayInfoID : Nat → Nat) (lv : LootView)

def plainSlotType (item : LootItem) : Option LootSlotType :=
  match lv.permission with
  | .group =>
    if item.isBlocked then some .rollOngoing
    else if lv.loot.roundRobinPlayer = 0 ∨ item.isUnderthreshold = false ∨
        lv.viewer = lv.loot.roundRobinPlayer then some .allowLoot
    else none
  | .roundRobin =>
    if lv.loot.roundRobinPlayer ≠ 0 ∧ lv.viewer ≠ lv.loot.roundRobinPlayer then none else some .allowLoot
  | .all => some .allowLoot
  | .master => some .master
  | .owner => some .owner
  | .none => none

def plainLine (i : Nat) : Option Line :=
  match lv.loot.items[i]? with
  | none => none
  | some item =>
    if item.isLooted = false ∧ item.freeforall = false ∧ item.conditions = [] ∧
        item.allowedForPlayer env lv.viewer then
      (lv.plainSlotType item).map (item.line displayInfoID (.item i) i)
    else none

def slotType : LootSlotType := if lv.permission = .owner then .owner else .allowLoot

def list (m : OrdMap Guid (List QuestItem)) : List QuestItem := (m.find? lv.viewer).getD []

def questLine (e : QuestItem × Nat) : Option Line :=
  match lv.loot.questItems[e.1.index]? with
  | none => none
  | some item =>
    if e.1.isLooted = false ∧ item.isLooted = false then
      some (item.line displayInfoID (.quest e.1.index) (lv.loot.items.length + e.2) lv.slotType)
    else none

def listLine (q : QuestItem) : Option Line :=
  match lv.loot.items[q.index]? with
  | none => none
  | some item =>
    if q.isLooted = false ∧ item.isLooted = false then
      some (item.line displayInfoID (.item q.index) q.index lv.slotType)
    else none

/-- `operator<<` of `LootView`. -/
def write : Response :=
  if lv.permission = .none then {}
  else
    let l := lv.loot
    let b : Response := { gold := l.gold }
    let b := (range l.items.length).foldl (fun b i => b.put (lv.plainLine env displayInfoID i)) b
    let b := (lv.list l.playerQuestItems).zipIdx.foldl (fun b e => b.put (lv.questLine displayInfoID e)) b
    let b := (lv.list l.playerFFAItems).foldl (fun b q => b.put (lv.listLine displayInfoID q)) b
    (lv.list l.playerNonQuestNonFFAConditionalItems).foldl
      (fun b q => b.put (lv.listLine displayInfoID q)) b

def Offers (lootSlot : Nat) : Prop :=
  ∃ line ∈ (lv.write env displayInfoID).lines, line.slot = lootSlot ∧
    (line.slotType = .allowLoot ∨ line.slotType = .owner ∨ line.slotType = .master)

def Takes (lootSlot : Nat) : Prop :=
  ∃ canStore, (lv.loot.storeLootItem lootSlot lv.viewer canStore).2 ≠ none

structure Faithful : Prop where
  count : (lv.write env displayInfoID).itemsShown = (lv.write env displayInfoID).lines.length
  slots : ((lv.write env displayInfoID).lines.map (·.slot)).Nodup
  lookup : ∀ line ∈ (lv.write env displayInfoID).lines, ∃ slot item,
    lv.loot.lootItemInSlot line.slot lv.viewer = some slot ∧ slot.entry = line.entry ∧
      lv.loot.itemOf? line.entry = some item ∧
      line = item.line displayInfoID line.entry line.slot line.slotType
  take : ∀ lootSlot, lv.Takes lootSlot → lv.Offers env displayInfoID lootSlot

/-! ## When the request takes no more -/

structure Entitled (item : LootItem) : Prop where
  permission : lv.permission ≠ .none
  allowed : item.allowedForPlayer env lv.viewer = true
  group : lv.permission = .group → lv.loot.roundRobinPlayer = 0 ∨ item.isUnderthreshold = false ∨
    lv.viewer = lv.loot.roundRobinPlayer
  roundRobin : lv.permission = .roundRobin → lv.loot.roundRobinPlayer = 0 ∨
    lv.viewer = lv.loot.roundRobinPlayer

def Listed (m : OrdMap Guid (List QuestItem)) (i : Nat) (item : LootItem) : Prop :=
  match registered m lv.viewer i with
  | some q => q.isLooted = false → lv.permission ≠ .none ∧ item.isLooted = false
  | none => item.isLooted = true

structure Guarded : Prop where
  plain : ∀ (i : Nat) item, lv.loot.items[i]? = some item → item.isBlocked = false → item.count ≠ 0 →
    item.freeforall = false → item.conditions = [] → item.isLooted = false → lv.Entitled env item
  cond : ∀ (i : Nat) item, lv.loot.items[i]? = some item → item.isBlocked = false → item.count ≠ 0 →
    Loot.Conditional item → lv.Listed lv.loot.playerNonQuestNonFFAConditionalItems i item
  ffa : ∀ (i : Nat) item, lv.loot.items[i]? = some item → item.isBlocked = false → item.count ≠ 0 →
    Loot.FreeForAll item → lv.loot.playerFFAItems.contains lv.viewer = true →
      lv.Listed lv.loot.playerFFAItems i item
  quest : ∀ q ∈ lv.list lv.loot.playerQuestItems, q.isLooted = false →
    ∀ item, lv.loot.questItems[q.index]? = some item → item.count ≠ 0 →
      lv.permission ≠ .none ∧ item.isLooted = false

/-! ## What is written -/

def Counted (b : Response) : Prop := b.itemsShown = b.lines.length % 256

section Loops

variable {α : Type} {f : α → Option Line}

theorem lines_foldl_put (l : List α) (b : Response) :
    (l.foldl (fun b x => b.put (f x)) b).lines = b.lines ++ l.filterMap f := by
  induction l generalizing b with
  | nil => exact (append_nil _).symm
  | cons x l ih =>
    rw [foldl_cons, ih]
    cases hx : f x with
    | none =>
      rw [filterMap_cons_none hx]
      rfl
    | some line =>
      rw [filterMap_cons_some hx]
      exact append_assoc _ _ _

theorem Counted.foldl_put {b : Response} (h : Counted b) (l : List α) :
    Counted (l.foldl (fun b x => b.put (f x)) b) := by
  induction l generalizing b with
  | nil => exact h
  | cons x l ih =>
    refine ih ?_
    dsimp only
    cases f x with
    | none => exact h
    | some line =>
      change (b.itemsShown + 1) % 256 = (b.lines ++ [line]).length % 256
      rw [h, length_append, length_singleton, Nat.mod_add_mod]

theorem nodup_slots (key : α → Nat) {l : List α}
    (hslot : ∀ x ∈ l, ∀ line, f x = some line → line.slot = key x) (hnodup : (l.map key).Nodup) : ((l.filterMap f).map (·.slot)).Nodup := by
  have hsub : Sublist ((l.filterMap f).map (·.slot)) (l.map key) := by
    clear hnodup
    induction l with
    | nil => exact .refl _
    | cons x l ih =>
      have hrest := ih fun y hy => hslot y (mem_cons_of_mem x hy)
      cases hx : f x with
      | none =>
        rw [filterMap_cons_none hx]
        exact .cons _ hrest
      | some line =>
        rw [filterMap_cons_some hx, map_cons, hslot x mem_cons_self line hx]
        exact .cons_cons _ hrest
  exact hnodup.sublist hsub

end Loops

variable {env displayInfoID lv}

/-- An item is written, by one of the four loops. -/
inductive Shows (env : Env) (displayInfoID : Nat → Nat) (lv : LootView) : Line → Prop where
  | plain {i : Nat} {item : LootItem} {t : LootSlotType} (hitem : lv.loot.items[i]? = some item)
      (hfree : item.isLooted = false) (hffa : item.freeforall = false) (hcond : item.conditions = [])
      (hallowed : item.allowedForPlayer env lv.viewer = true) (ht : lv.plainSlotType item = some t) :
      Shows env displayInfoID lv (item.line displayInfoID (.item i) i t)
  | quest {q : QuestItem} {j : Nat} {item : LootItem} (hq : (lv.list lv.loot.playerQuestItems)[j]? = some q)
      (hitem : lv.loot.questItems[q.index]? = some item) (hfree : q.isLooted = false)
      (hthere : item.isLooted = false) :
      Shows env displayInfoID lv
        (item.line displayInfoID (.quest q.index) (lv.loot.items.length + j) lv.slotType)
  | ffa {q : QuestItem} {item : LootItem} (hq : q ∈ lv.list lv.loot.playerFFAItems)
      (hitem : lv.loot.items[q.index]? = some item) (hfree : q.isLooted = false)
      (hthere : item.isLooted = false) :
      Shows env displayInfoID lv (item.line displayInfoID (.item q.index) q.index lv.slotType)
  | cond {q : QuestItem} {item : LootItem} (hq : q ∈ lv.list lv.loot.playerNonQuestNonFFAConditionalItems)
      (hitem : lv.loot.items[q.index]? = some item) (hfree : q.isLooted = false)
      (hthere : item.isLooted = false) :
      Shows env displayInfoID lv (item.line displayInfoID (.item q.index) q.index lv.slotType)

def lines (env : Env) (displayInfoID : Nat → Nat) (lv : LootView) : List Line :=
  (range lv.loot.items.length).filterMap (lv.plainLine env displayInfoID) ++
    (lv.list lv.loot.playerQuestItems).zipIdx.filterMap (lv.questLine displayInfoID) ++
    (lv.list lv.loot.playerFFAItems).filterMap (lv.listLine displayInfoID) ++
    (lv.list lv.loot.playerNonQuestNonFFAConditionalItems).filterMap (lv.listLine displayInfoID)

theorem write_none (h : lv.permission = .none) : lv.write env displayInfoID = {} := if_pos h

theorem lines_write (h : lv.permission ≠ .none) :
    (lv.write env displayInfoID).lines = lv.lines env displayInfoID := by
  unfold write
  rw [if_neg h]
  rw [lines_foldl_put, lines_foldl_put, lines_foldl_put, lines_foldl_put]
  rfl

theorem counted_write : Counted (lv.write env displayInfoID) := by
  unfold write
  split
  · rfl
  · dsimp only
    exact (((Counted.foldl_put (b := { gold := lv.loot.gold }) rfl _).foldl_put _).foldl_put _).foldl_put _

variable {line : Line} {i : Nat}

theorem plainLine_eq_some (h : lv.plainLine env displayInfoID i = some line) :
    ∃ item t, lv.loot.items[i]? = some item ∧ item.isLooted = false ∧ item.freeforall = false ∧
      item.conditions = [] ∧ item.allowedForPlayer env lv.viewer = true ∧
      lv.plainSlotType item = some t ∧ line = item.line displayInfoID (.item i) i t := by
  unfold plainLine at h
  cases hitem : lv.loot.items[i]? with
  | none =>
    rw [hitem] at h
    cases h
  | some item =>
    rw [hitem] at h
    dsimp only at h
    split at h
    · next hc =>
      obtain ⟨t, ht, rfl⟩ := Option.map_eq_some_iff.1 h
      exact ⟨item, t, rfl, hc.1, hc.2.1, hc.2.2.1, hc.2.2.2, ht, rfl⟩
    · cases h

variable {q : QuestItem} {j : Nat}

theorem questLine_eq_some : lv.questLine displayInfoID (q, j) = some line ↔
    ∃ item, lv.loot.questItems[q.index]? = some item ∧ q.isLooted = false ∧ item.isLooted = false ∧
      item.line displayInfoID (.quest q.index) (lv.loot.items.length + j) lv.slotType = line := by
  unfold questLine
  cases lv.loot.questItems[q.index]? with
  | none => simp
  | some item => simp only [Option.ite_none_right_eq_some, Option.some.injEq, exists_eq_left', and_assoc]

theorem listLine_eq_some : lv.listLine displayInfoID q = some line ↔
    ∃ item, lv.loot.items[q.index]? = some item ∧ q.isLooted = false ∧ item.isLooted = false ∧
      item.line displayInfoID (.item q.index) q.index lv.slotType = line := by
  unfold listLine
  cases lv.loot.items[q.index]? with
  | none => simp
  | some item => simp only [Option.ite_none_right_eq_some, Option.some.injEq, exists_eq_left', and_assoc]

theorem mem_lines : line ∈ lv.lines env displayInfoID ↔ lv.Shows env displayInfoID line := by
  unfold lines
  rw [mem_append, mem_append, mem_append, mem_filterMap, mem_filterMap, mem_filterMap, mem_filterMap]
  constructor
  · rintro (((⟨i, -, h⟩ | ⟨⟨q, j⟩, hq, h⟩) | ⟨q, hq, h⟩) | ⟨q, hq, h⟩)
    · obtain ⟨item, t, hitem, hfree, hffa, hcond, hallowed, ht, rfl⟩ := plainLine_eq_some h
      exact .plain hitem hfree hffa hcond hallowed ht
    · obtain ⟨item, hitem, hfree, hthere, rfl⟩ := questLine_eq_some.1 h
      exact .quest (mem_zipIdx_iff_getElem?.1 hq) hitem hfree hthere
    · obtain ⟨item, hitem, hfree, hthere, rfl⟩ := listLine_eq_some.1 h
      exact .ffa hq hitem hfree hthere
    · obtain ⟨item, hitem, hfree, hthere, rfl⟩ := listLine_eq_some.1 h
      exact .cond hq hitem hfree hthere
  · intro h
    cases h with
    | @plain i item t hitem hfree hffa hcond hallowed ht =>
      refine .inl (.inl (.inl ⟨i, List.mem_range.2 (List.getElem?_eq_some_iff.1 hitem).1, ?_⟩))
      unfold plainLine
      rw [hitem]
      dsimp only
      rw [if_pos ⟨hfree, hffa, hcond, hallowed⟩, ht, Option.map_some]
    | @quest q j item hq hitem hfree hthere =>
      exact .inl (.inl (.inr ⟨(q, j), mem_zipIdx_iff_getElem?.2 hq,
        questLine_eq_some.2 ⟨item, hitem, hfree, hthere, rfl⟩⟩))
    | @ffa q item hq hitem hfree hthere =>
      exact .inl (.inr ⟨q, hq, listLine_eq_some.2 ⟨item, hitem, hfree, hthere, rfl⟩⟩)
    | @cond q item hq hitem hfree hthere =>
      exact .inr ⟨q, hq, listLine_eq_some.2 ⟨item, hitem, hfree, hthere, rfl⟩⟩

/-! ## What is shown is right -/

variable {m : OrdMap Guid (List QuestItem)}

theorem mem_list (h : q ∈ lv.list m) : ∃ ql, m.find? lv.viewer = some ql ∧ lv.list m = ql := by
  unfold list at h ⊢
  cases hql : m.find? lv.viewer with
  | none =>
    rw [hql] at h
    cases h
  | some ql => exact ⟨ql, rfl, rfl⟩

variable {p : LootItem → Prop}

theorem names_list (h : Loot.Names p lv.loot.items m) : (indices (lv.list m)).Nodup ∧
      ∀ q ∈ lv.list m, ∃ item, lv.loot.items[q.index]? = some item ∧ p item := by
  unfold list
  cases hql : m.find? lv.viewer with
  | none => exact ⟨.nil, nofun⟩
  | some ql =>
    obtain ⟨hnodup, hnames⟩ := h lv.viewer ql hql
    exact ⟨hnodup, fun q hq => hnames q.index (mem_map_of_mem hq)⟩

theorem names_of_mem {item : LootItem}
    (h : Loot.Names p lv.loot.items m) (hq : q ∈ lv.list m) (hitem : lv.loot.items[q.index]? = some item) :
    p item := by
  obtain ⟨item', hitem', hp⟩ := (names_list h).2 q hq
  rwa [Option.some.inj (hitem.symm.trans hitem')]

theorem registered_of_mem (h : Loot.Names p lv.loot.items m) (hq : q ∈ lv.list m) :
    registered m lv.viewer q.index = some q := by
  obtain ⟨ql, hql, heq⟩ := mem_list hq
  have hnodup := (names_list h).1
  rw [heq] at hq hnodup
  unfold registered
  rw [hql]
  exact find?_of_nodup hnodup hq

theorem mem_of_registered (h : registered m lv.viewer i = some q) : q ∈ lv.list m ∧ q.index = i := by
  obtain ⟨ql, hql, hq⟩ := Option.bind_eq_some_iff.1 h
  unfold list
  rw [hql]
  exact ⟨mem_of_find?_eq_some hq, by simpa using find?_some hq⟩

theorem lt_of_items (h : lv.loot.Registered) {item : LootItem}
    (hitem : lv.loot.items[i]? = some item) : i < 16 :=
  lt_of_lt_of_le (List.getElem?_eq_some_iff.1 hitem).1 h.items

theorem slot_of_items (h : lv.loot.Registered) {item : LootItem}
    (hitem : lv.loot.items[i]? = some item) : i % 256 = i :=
  Nat.mod_eq_of_lt ((lt_of_items h hitem).trans (by decide))

theorem lt_of_quest (h : lv.loot.Registered)
    (hq : (lv.list lv.loot.playerQuestItems)[j]? = some q) : lv.loot.items.length + j < 16 := by
  obtain ⟨ql, hql, heq⟩ := mem_list (List.mem_of_getElem? hq)
  rw [heq] at hq
  have hroom : lv.loot.items.length + ql.length ≤ 16 := (h.quest lv.viewer ql hql).1
  have hj := (List.getElem?_eq_some_iff.1 hq).1
  omega

theorem slot_of_quest (h : lv.loot.Registered) (hq : (lv.list lv.loot.playerQuestItems)[j]? = some q) :
    (lv.loot.items.length + j) % 256 = lv.loot.items.length + j :=
  Nat.mod_eq_of_lt ((lt_of_quest h hq).trans (by decide))

theorem Shows.slot_eq (h : lv.loot.Registered) (hline : lv.Shows env displayInfoID line) :
    line.slot < 16 ∧ ∃ item slot, lv.loot.itemOf? line.entry = some item ∧
      line = item.line displayInfoID line.entry line.slot line.slotType ∧ slot.entry = line.entry ∧
      lv.loot.lootItemInSlot line.slot lv.viewer = some slot := by
  cases hline with
  | @plain i item t hitem hfree hffa hcond hallowed ht =>
    have hi := lt_of_items h hitem
    have hslot : (item.line displayInfoID (.item i) i t).slot = i := slot_of_items h hitem
    refine ⟨hslot.trans_lt hi, item, { entry := .item i }, hitem, ?_, rfl, ?_⟩
    · rw [hslot]
      rfl
    · rw [hslot]
      unfold lootItemInSlot
      simp only [hitem, hffa, hcond, hfree, Bool.false_eq_true, if_false, ne_eq, not_true_eq_false]
  | @quest q j item hq hitem hfree hthere =>
    have hj := lt_of_quest h hq
    have hslot : (item.line displayInfoID (.quest q.index) (lv.loot.items.length + j) lv.slotType).slot =
        lv.loot.items.length + j := slot_of_quest h hq
    refine ⟨hslot.trans_lt hj, item, { entry := .quest q.index, qitem := some j }, hitem, ?_, rfl, ?_⟩
    · rw [hslot]
      rfl
    · obtain ⟨ql, hql, heq⟩ := mem_list (List.mem_of_getElem? hq)
      rw [heq] at hq
      have hitems : lv.loot.items[lv.loot.items.length + j]? = none :=
        getElem?_eq_none (Nat.le_add_right _ _)
      rw [hslot]
      unfold lootItemInSlot
      simp only [hitems, hql, Option.bind_some, Nat.add_sub_cancel_left, hq, hfree, Bool.false_eq_true, if_false]
  | @ffa q item hq hitem hfree hthere =>
    have hi := lt_of_items h hitem
    have hslot : (item.line displayInfoID (.item q.index) q.index lv.slotType).slot = q.index :=
      slot_of_items h hitem
    have hffa : item.freeforall = true := names_of_mem h.ffa hq hitem
    refine ⟨hslot.trans_lt hi, item, { entry := .item q.index, ffaitem := true }, hitem, ?_, rfl, ?_⟩
    · rw [hslot]
      rfl
    · obtain ⟨ql, hql, -⟩ := mem_list hq
      have hlist : lv.loot.playerFFAItems.contains lv.viewer = true := by
        unfold OrdMap.contains
        rw [hql]
        rfl
      rw [hslot]
      unfold lootItemInSlot
      simp only [hitem, hffa, hlist, if_true, registered_of_mem h.ffa hq, hfree, Bool.false_eq_true, if_false]
  | @cond q item hq hitem hfree hthere =>
    have hi := lt_of_items h hitem
    have hslot : (item.line displayInfoID (.item q.index) q.index lv.slotType).slot = q.index :=
      slot_of_items h hitem
    obtain ⟨hffa, hcond⟩ := names_of_mem h.cond hq hitem
    refine ⟨hslot.trans_lt hi, item, { entry := .item q.index, conditem := true }, hitem, ?_, rfl, ?_⟩
    · rw [hslot]
      rfl
    · rw [hslot]
      unfold lootItemInSlot
      simp only [hitem, hffa, hcond, ne_eq, not_false_eq_true, if_true, registered_of_mem h.cond hq, hfree,
        Bool.false_eq_true, if_false]

def loopOf (loot : Loot) (lootSlot : Nat) : Nat :=
  match loot.items[lootSlot]? with
  | some item => if item.freeforall then 2 else if item.conditions = [] then 0 else 3
  | none => 1

def Apart (loot : Loot) (n : Nat) (lines : List Line) : Prop :=
  (lines.map (·.slot)).Nodup ∧ ∀ line ∈ lines, loopOf loot line.slot < n

theorem Apart.append {loot : Loot} {n : Nat} {written lines : List Line} (h : Apart loot n written)
    (hnodup : (lines.map (·.slot)).Nodup) (hloop : ∀ line ∈ lines, loopOf loot line.slot = n) :
    Apart loot (n + 1) (written ++ lines) := by
  refine ⟨?_, fun line hline => ?_⟩
  · rw [map_append, nodup_append]
    refine ⟨h.1, hnodup, fun slot hslot slot' hslot' heq => ?_⟩
    obtain ⟨line, hline, rfl⟩ := mem_map.1 hslot
    obtain ⟨line', hline', rfl⟩ := mem_map.1 hslot'
    have hlt := h.2 line hline
    rw [heq, hloop line' hline'] at hlt
    exact lt_irrefl n hlt
  · rcases mem_append.1 hline with hold | hnew
    · exact (h.2 line hold).trans (Nat.lt_succ_self n)
    · rw [hloop line hnew]
      exact Nat.lt_succ_self n

theorem slots_plainLine (h : lv.loot.Registered) :
    Apart lv.loot 1 ((range lv.loot.items.length).filterMap (lv.plainLine env displayInfoID)) := by
  have hslot : ∀ i ∈ range lv.loot.items.length, ∀ line,
      lv.plainLine env displayInfoID i = some line → line.slot = i := by
    intro i _ line hline
    obtain ⟨item, t, hitem, -, -, -, -, -, rfl⟩ := plainLine_eq_some hline
    exact slot_of_items h hitem
  refine ⟨nodup_slots id hslot (by rw [map_id]; exact nodup_range), fun line hline => ?_⟩
  obtain ⟨i, hi, hline⟩ := mem_filterMap.1 hline
  obtain ⟨item, t, hitem, -, hffa, hcond, -, -, -⟩ := plainLine_eq_some hline
  rw [hslot i hi line hline]
  unfold loopOf
  rw [hitem]
  dsimp only
  rw [hffa, if_pos hcond]
  exact zero_lt_one

theorem slots_questLine (h : lv.loot.Registered) :
    (((lv.list lv.loot.playerQuestItems).zipIdx.filterMap (lv.questLine displayInfoID)).map (·.slot)).Nodup ∧
      ∀ line ∈ (lv.list lv.loot.playerQuestItems).zipIdx.filterMap (lv.questLine displayInfoID),
        loopOf lv.loot line.slot = 1 := by
  have hslot : ∀ e ∈ (lv.list lv.loot.playerQuestItems).zipIdx, ∀ line,
      lv.questLine displayInfoID e = some line → line.slot = lv.loot.items.length + e.2 := by
    rintro ⟨q, j⟩ hq line hline
    obtain ⟨item, -, -, -, rfl⟩ := questLine_eq_some.1 hline
    exact slot_of_quest h (mem_zipIdx_iff_getElem?.1 hq)
  refine ⟨nodup_slots (fun e => lv.loot.items.length + e.2) hslot ?_, fun line hline => ?_⟩
  · have hpositions : ((lv.list lv.loot.playerQuestItems).zipIdx.map Prod.snd).Nodup := by
      rw [zipIdx_map_snd]
      exact nodup_range'
    have hshift := hpositions.map (f := (lv.loot.items.length + ·)) fun _ _ => add_left_cancel
    rwa [map_map] at hshift
  · obtain ⟨e, he, hline⟩ := mem_filterMap.1 hline
    rw [hslot e he line hline]
    unfold loopOf
    rw [getElem?_eq_none (Nat.le_add_right _ _)]

theorem slots_listLine (h : lv.loot.Registered) (hm : Loot.Names p lv.loot.items m) :
    (((lv.list m).filterMap (lv.listLine displayInfoID)).map (·.slot)).Nodup ∧
      ∀ line ∈ (lv.list m).filterMap (lv.listLine displayInfoID),
        ∃ item, lv.loot.items[line.slot]? = some item ∧ p item := by
  have hslot : ∀ q ∈ lv.list m, ∀ line, lv.listLine displayInfoID q = some line → line.slot = q.index := by
    intro q hq line hline
    obtain ⟨item, hitem, -, -, rfl⟩ := listLine_eq_some.1 hline
    exact slot_of_items h hitem
  refine ⟨nodup_slots QuestItem.index hslot (names_list hm).1, fun line hline => ?_⟩
  obtain ⟨q, hq, hline⟩ := mem_filterMap.1 hline
  rw [hslot q hq line hline]
  exact (names_list hm).2 q hq

theorem nodup_lines (h : lv.loot.Registered) : ((lv.lines env displayInfoID).map (·.slot)).Nodup := by
  obtain ⟨hquest, hquest'⟩ := slots_questLine h
  obtain ⟨hffa, hffa'⟩ := slots_listLine h h.ffa
  obtain ⟨hcond, hcond'⟩ := slots_listLine h h.cond
  refine ((((slots_plainLine h).append hquest hquest').append hffa fun line hline => ?_).append hcond
    fun line hline => ?_).1
  · obtain ⟨item, hitem, hf⟩ := hffa' line hline
    unfold loopOf
    rw [hitem]
    exact if_pos hf
  · obtain ⟨item, hitem, hf, hc⟩ := hcond' line hline
    unfold loopOf
    rw [hitem]
    dsimp only
    rw [hf, if_neg Bool.false_ne_true, if_neg hc]

theorem length_lines (h : lv.loot.Registered) : (lv.lines env displayInfoID).length ≤ 16 := by
  have hsub : (lv.lines env displayInfoID).map (·.slot) ⊆ range 16 := by
    intro slot hslot
    obtain ⟨line, hline, rfl⟩ := mem_map.1 hslot
    exact List.mem_range.2 ((mem_lines.1 hline).slot_eq h).1
  have hle := ((nodup_lines h).subperm hsub).length_le
  rwa [length_map, length_range] at hle

/-! ## What can be taken -/

theorem handOut_ne_none {item : LootItem} {e : Entry} {p : Guid} :
    handOut item e p ≠ none ↔ item.count ≠ 0 := by
  unfold handOut
  by_cases h : item.count = 0
  · simp [h]
  · simp [h]

theorem takes_iff {lootSlot : Nat} : lv.Takes lootSlot ↔ ∃ slot item,
    lv.loot.lootItemInSlot lootSlot lv.viewer = some slot ∧ lv.loot.itemOf? slot.entry = some item ∧
      (slot.qitem = none → item.isBlocked = false) ∧ item.count ≠ 0 := by
  unfold Takes storeLootItem
  constructor
  · rintro ⟨canStore, h⟩
    cases hslot : lv.loot.lootItemInSlot lootSlot lv.viewer with
    | none => simp only [hslot, ne_eq, not_true_eq_false] at h
    | some slot =>
      cases hitem : lv.loot.itemOf? slot.entry with
      | none => simp only [hslot, hitem, ne_eq, not_true_eq_false] at h
      | some item =>
        simp only [hslot, hitem] at h
        split at h
        · exact absurd rfl h
        · next hopen =>
          split at h
          · refine ⟨slot, item, rfl, hitem, fun hq => ?_, handOut_ne_none.1 h⟩
            exact Bool.eq_false_iff.2 fun hb => hopen ⟨hq, hb⟩
          · exact absurd rfl h
  · rintro ⟨slot, item, hslot, hitem, hopen, hcount⟩
    refine ⟨true, ?_⟩
    simp only [hslot, hitem, if_true]
    rw [if_neg]
    · exact handOut_ne_none.2 hcount
    · rintro ⟨hq, hb⟩
      rw [hopen hq] at hb
      cases hb

theorem takes_item {item : LootItem} (hitem : lv.loot.items[i]? = some item) :
    lv.Takes i ↔ lv.loot.lootItemInSlot i lv.viewer ≠ none ∧ item.isBlocked = false ∧ item.count ≠ 0 := by
  have hentry : ∀ slot, lv.loot.lootItemInSlot i lv.viewer = some slot →
      slot.entry = .item i ∧ slot.qitem = none := by
    intro slot hslot
    cases found_of_lootItemInSlot hslot with
    | quest hlength => exact absurd (List.getElem?_eq_some_iff.1 hitem).1 (not_lt.2 hlength)
    | ffa => exact ⟨rfl, rfl⟩
    | unregistered => exact ⟨rfl, rfl⟩
    | cond => exact ⟨rfl, rfl⟩
    | plain => exact ⟨rfl, rfl⟩
  rw [takes_iff]
  constructor
  · rintro ⟨slot, item', hslot, hitem', hopen, hcount⟩
    obtain ⟨he, hq⟩ := hentry slot hslot
    rw [he] at hitem'
    obtain rfl : item = item' := Option.some.inj (hitem.symm.trans hitem')
    exact ⟨hslot ▸ Option.some_ne_none slot, hopen hq, hcount⟩
  · rintro ⟨hslot, hopen, hcount⟩
    obtain ⟨slot, hslot⟩ := Option.ne_none_iff_exists'.1 hslot
    refine ⟨slot, item, hslot, ?_, fun _ => hopen, hcount⟩
    rw [(hentry slot hslot).1]
    exact hitem

def Open (lv : LootView) (m : OrdMap Guid (List QuestItem)) (i : Nat) (item : LootItem) : Prop :=
  match registered m lv.viewer i with
  | some q => q.isLooted = false
  | none => item.isLooted = false

theorem takes_plain {item : LootItem} (hitem : lv.loot.items[i]? = some item)
    (hffa : item.freeforall = false) (hcond : item.conditions = []) :
    lv.Takes i ↔ item.isLooted = false ∧ item.isBlocked = false ∧ item.count ≠ 0 := by
  rw [takes_item hitem]
  unfold lootItemInSlot
  simp only [hitem, hffa, hcond, Bool.false_eq_true, if_false, ne_eq, not_true_eq_false]
  cases item.isLooted <;> simp

theorem takes_cond {item : LootItem} (hitem : lv.loot.items[i]? = some item)
    (hc : Loot.Conditional item) : lv.Takes i ↔
      lv.Open lv.loot.playerNonQuestNonFFAConditionalItems i item ∧ item.isBlocked = false ∧
        item.count ≠ 0 := by
  rw [takes_item hitem]
  unfold lootItemInSlot Open
  simp only [hitem, hc.1, hc.2, Bool.false_eq_true, if_false, ne_eq, not_false_eq_true, if_true]
  cases registered lv.loot.playerNonQuestNonFFAConditionalItems lv.viewer i with
  | none => cases item.isLooted <;> simp
  | some q =>
    dsimp only
    cases q.isLooted <;> simp

theorem takes_ffa {item : LootItem} (hitem : lv.loot.items[i]? = some item)
    (hf : Loot.FreeForAll item) : lv.Takes i ↔
      (lv.loot.playerFFAItems.contains lv.viewer = true ∧ lv.Open lv.loot.playerFFAItems i item) ∧
        item.isBlocked = false ∧ item.count ≠ 0 := by
  have hffa : item.freeforall = true := hf
  rw [takes_item hitem]
  unfold lootItemInSlot Open
  simp only [hitem, hffa, if_true]
  cases lv.loot.playerFFAItems.contains lv.viewer with
  | false => simp
  | true =>
    cases registered lv.loot.playerFFAItems lv.viewer i with
    | none => cases item.isLooted <;> simp
    | some q =>
      dsimp only
      cases q.isLooted <;> simp

theorem takes_quest : lv.Takes (lv.loot.items.length + j) ↔
    ∃ q item, (lv.list lv.loot.playerQuestItems)[j]? = some q ∧ q.isLooted = false ∧
      lv.loot.questItems[q.index]? = some item ∧ item.count ≠ 0 := by
  have hitems : lv.loot.items[lv.loot.items.length + j]? = none := getElem?_eq_none (Nat.le_add_right _ _)
  have hlist : (lv.loot.playerQuestItems.find? lv.viewer).bind (·[j]?) =
      (lv.list lv.loot.playerQuestItems)[j]? := by
    unfold list
    cases lv.loot.playerQuestItems.find? lv.viewer <;> rfl
  rw [takes_iff]
  unfold lootItemInSlot
  simp only [hitems, Nat.add_sub_cancel_left, hlist]
  cases (lv.list lv.loot.playerQuestItems)[j]? with
  | none => simp
  | some q =>
    cases hfree : q.isLooted with
    | true => simp [hfree]
    | false => simp [hfree, itemOf?]

/-! ## What is offered -/

theorem offers_iff (hp : lv.permission ≠ .none) {lootSlot : Nat} : lv.Offers env displayInfoID lootSlot ↔
    ∃ line, lv.Shows env displayInfoID line ∧ line.slot = lootSlot ∧
      (line.slotType = .allowLoot ∨ line.slotType = .owner ∨ line.slotType = .master) := by
  unfold Offers
  rw [lines_write hp]
  simp only [mem_lines]

theorem Offers.permission {lootSlot : Nat} (h : lv.Offers env displayInfoID lootSlot) :
    lv.permission ≠ .none := by
  rintro hp
  obtain ⟨line, hline, -⟩ := h
  rw [write_none hp] at hline
  cases hline

theorem slotType_offered (lv : LootView) :
    lv.slotType = .allowLoot ∨ lv.slotType = .owner ∨ lv.slotType = .master := by
  unfold slotType
  split
  · exact .inr (.inl rfl)
  · exact .inl rfl

theorem Shows.item (h : lv.loot.Registered) (hline : lv.Shows env displayInfoID line)
    {item : LootItem} (hitem : lv.loot.items[line.slot]? = some item) : item.isLooted = false ∧
      ((item.freeforall = false ∧ item.conditions = [] ∧ item.allowedForPlayer env lv.viewer = true ∧
          lv.plainSlotType item = some line.slotType) ∨
        (Loot.FreeForAll item ∧
          ∃ q, registered lv.loot.playerFFAItems lv.viewer line.slot = some q ∧ q.isLooted = false) ∨
        Loot.Conditional item ∧ ∃ q,
          registered lv.loot.playerNonQuestNonFFAConditionalItems lv.viewer line.slot = some q ∧
            q.isLooted = false) := by
  cases hline with
  | @plain i item' t hitem' hfree hffa hcond hallowed ht =>
    have hslot := slot_of_items h hitem'
    obtain rfl : item' = item := by
      have hread : lv.loot.items[i % 256]? = some item := hitem
      rw [hslot, hitem'] at hread
      exact Option.some.inj hread
    exact ⟨hfree, .inl ⟨hffa, hcond, hallowed, ht⟩⟩
  | @quest q j item' hq hitem' hfree hthere =>
    have hslot := slot_of_quest h hq
    have hread : lv.loot.items[(lv.loot.items.length + j) % 256]? = some item := hitem
    rw [hslot, getElem?_eq_none (Nat.le_add_right _ _)] at hread
    cases hread
  | @ffa q item' hq hitem' hfree hthere =>
    have hslot := slot_of_items h hitem'
    have hread : lv.loot.items[q.index % 256]? = some item := hitem
    rw [hslot, hitem'] at hread
    obtain rfl := Option.some.inj hread
    refine ⟨hthere, .inr (.inl ⟨names_of_mem h.ffa hq hitem', q, ?_, hfree⟩)⟩
    change registered _ _ (q.index % 256) = _
    rw [hslot]
    exact registered_of_mem h.ffa hq
  | @cond q item' hq hitem' hfree hthere =>
    have hslot := slot_of_items h hitem'
    have hread : lv.loot.items[q.index % 256]? = some item := hitem
    rw [hslot, hitem'] at hread
    obtain rfl := Option.some.inj hread
    refine ⟨hthere, .inr (.inr ⟨names_of_mem h.cond hq hitem', q, ?_, hfree⟩)⟩
    change registered _ _ (q.index % 256) = _
    rw [hslot]
    exact registered_of_mem h.cond hq

theorem Shows.questItem (h : lv.loot.Registered) (hline : lv.Shows env displayInfoID line)
    (hat : line.slot = lv.loot.items.length + j) : ∃ q item,
      (lv.list lv.loot.playerQuestItems)[j]? = some q ∧ lv.loot.questItems[q.index]? = some item ∧
        item.isLooted = false := by
  have hitems : ∀ i item, lv.loot.items[i]? = some item → i % 256 = lv.loot.items.length + j → False := by
    intro i item hitem hslot
    have hlt := (List.getElem?_eq_some_iff.1 hitem).1
    omega
  cases hline with
  | plain hitem => exact (hitems _ _ hitem hat).elim
  | ffa _ hitem => exact (hitems _ _ hitem hat).elim
  | cond _ hitem => exact (hitems _ _ hitem hat).elim
  | @quest q j' item hq hitem _ hthere =>
    have hslot : (lv.loot.items.length + j') % 256 = lv.loot.items.length + j := hat
    rw [slot_of_quest h hq] at hslot
    obtain rfl : j' = j := add_left_cancel hslot
    exact ⟨q, item, hq, hitem, hthere⟩

theorem plainSlotType_offered (hp : lv.permission ≠ .none) {item : LootItem} (hopen : item.isBlocked = false) :
    (∃ t, lv.plainSlotType item = some t ∧ (t = .allowLoot ∨ t = .owner ∨ t = .master)) ↔
      (lv.permission = .group → lv.loot.roundRobinPlayer = 0 ∨ item.isUnderthreshold = false ∨
        lv.viewer = lv.loot.roundRobinPlayer) ∧
      (lv.permission = .roundRobin → lv.loot.roundRobinPlayer = 0 ∨
        lv.viewer = lv.loot.roundRobinPlayer) := by
  unfold plainSlotType
  cases hperm : lv.permission with
  | all => simp
  | master => simp
  | owner => simp
  | none => exact absurd hperm hp
  | group =>
    dsimp only
    rw [hopen, if_neg Bool.false_ne_true]
    split
    · next hshown => exact ⟨fun _ => ⟨fun _ => hshown, nofun⟩, fun _ => ⟨_, rfl, .inl rfl⟩⟩
    · next hhidden =>
      refine ⟨?_, fun h => absurd (h.1 rfl) hhidden⟩
      rintro ⟨t, ht, -⟩
      cases ht
  | roundRobin =>
    dsimp only
    split
    · next hhidden =>
      refine ⟨?_, fun h => ?_⟩
      · rintro ⟨t, ht, -⟩
        cases ht
      · rcases h.2 rfl with hzero | hviewer
        · exact absurd hzero hhidden.1
        · exact absurd hviewer hhidden.2
    · next hshown =>
      refine ⟨fun _ => ⟨nofun, fun _ => ?_⟩, fun _ => ⟨_, rfl, .inl rfl⟩⟩
      exact or_iff_not_imp_left.2 fun hzero => not_not.1 fun hviewer => hshown ⟨hzero, hviewer⟩

section

variable (h : lv.loot.Registered)
include h

variable {item : LootItem}

theorem offers_plain {i : Nat} (hitem : lv.loot.items[i]? = some item) (hopen : item.isBlocked = false)
    (hffa : item.freeforall = false) (hcond : item.conditions = []) (hfree : item.isLooted = false) :
    lv.Offers env displayInfoID i ↔ lv.Entitled env item := by
  constructor
  · intro hoffer
    have hp := hoffer.permission
    obtain ⟨line, hline, rfl, htype⟩ := (offers_iff hp).1 hoffer
    obtain ⟨-, ⟨-, -, hallowed, ht⟩ | ⟨hf, -⟩ | ⟨hc, -⟩⟩ := hline.item h hitem
    · obtain ⟨hgroup, hround⟩ := (plainSlotType_offered hp hopen).1 ⟨_, ht, htype⟩
      exact ⟨hp, hallowed, hgroup, hround⟩
    · rw [show item.freeforall = true from hf] at hffa
      cases hffa
    · exact absurd hcond hc.2
  · rintro ⟨hp, hallowed, hgroup, hround⟩
    obtain ⟨t, ht, htype⟩ := (plainSlotType_offered hp hopen).2 ⟨hgroup, hround⟩
    refine (offers_iff hp).2 ⟨_, .plain hitem hfree hffa hcond hallowed ht, ?_, htype⟩
    exact slot_of_items h hitem

theorem offers_cond {i : Nat} (hitem : lv.loot.items[i]? = some item) (hc : Loot.Conditional item) :
    lv.Offers env displayInfoID i ↔ lv.permission ≠ .none ∧ item.isLooted = false ∧ ∃ q,
      registered lv.loot.playerNonQuestNonFFAConditionalItems lv.viewer i = some q ∧
        q.isLooted = false := by
  constructor
  · intro hoffer
    have hp := hoffer.permission
    obtain ⟨line, hline, rfl, -⟩ := (offers_iff hp).1 hoffer
    obtain ⟨hthere, ⟨-, hcond, -⟩ | ⟨hf, -⟩ | ⟨-, hq⟩⟩ := hline.item h hitem
    · exact absurd hcond hc.2
    · exact absurd (hf.symm.trans hc.1) nofun
    · exact ⟨hp, hthere, hq⟩
  · rintro ⟨hp, hthere, q, hq, hfree⟩
    obtain ⟨hmem, rfl⟩ := mem_of_registered hq
    refine (offers_iff hp).2 ⟨_, .cond hmem hitem hfree hthere, ?_, slotType_offered lv⟩
    exact slot_of_items h hitem

theorem offers_ffa {i : Nat} (hitem : lv.loot.items[i]? = some item) (hf : Loot.FreeForAll item) :
    lv.Offers env displayInfoID i ↔ lv.permission ≠ .none ∧ item.isLooted = false ∧ ∃ q,
      registered lv.loot.playerFFAItems lv.viewer i = some q ∧ q.isLooted = false := by
  constructor
  · intro hoffer
    have hp := hoffer.permission
    obtain ⟨line, hline, rfl, -⟩ := (offers_iff hp).1 hoffer
    obtain ⟨hthere, ⟨hffa, -⟩ | ⟨-, hq⟩ | ⟨hc, -⟩⟩ := hline.item h hitem
    · exact absurd (hf.symm.trans hffa) nofun
    · exact ⟨hp, hthere, hq⟩
    · exact absurd (hf.symm.trans hc.1) nofun
  · rintro ⟨hp, hthere, q, hq, hfree⟩
    obtain ⟨hmem, rfl⟩ := mem_of_registered hq
    refine (offers_iff hp).2 ⟨_, .ffa hmem hitem hfree hthere, ?_, slotType_offered lv⟩
    exact slot_of_items h hitem

theorem offers_quest {j : Nat} {q : QuestItem}
    (hq : (lv.list lv.loot.playerQuestItems)[j]? = some q) (hfree : q.isLooted = false)
    (hitem : lv.loot.questItems[q.index]? = some item) :
    lv.Offers env displayInfoID (lv.loot.items.length + j) ↔ lv.permission ≠ .none ∧ item.isLooted = false := by
  have hslot : (lv.loot.items.length + j) % 256 = lv.loot.items.length + j := slot_of_quest h hq
  constructor
  · intro hoffer
    have hp := hoffer.permission
    obtain ⟨line, hline, hat, -⟩ := (offers_iff hp).1 hoffer
    obtain ⟨q', item', hq', hitem', hthere⟩ := hline.questItem h hat
    obtain rfl := Option.some.inj (hq.symm.trans hq')
    obtain rfl := Option.some.inj (hitem.symm.trans hitem')
    exact ⟨hp, hthere⟩
  · rintro ⟨hp, hthere⟩
    exact (offers_iff hp).2 ⟨_, .quest hq hitem hfree hthere, hslot, slotType_offered lv⟩

end

/-! ## The window and the request -/

theorem listed_iff {item : LootItem} : lv.Listed m i item ↔
    (lv.Open m i item → lv.permission ≠ .none ∧ item.isLooted = false ∧ ∃ q,
      registered m lv.viewer i = some q ∧ q.isLooted = false) := by
  unfold Listed Open
  cases registered m lv.viewer i with
  | some q =>
    exact ⟨fun h hfree => ⟨(h hfree).1, (h hfree).2, q, rfl, hfree⟩,
      fun h hfree => ⟨(h hfree).1, (h hfree).2.1⟩⟩
  | none =>
    dsimp only
    refine ⟨fun h hfree => ?_, fun h => ?_⟩
    · rw [h] at hfree
      cases hfree
    · by_contra hfree
      obtain ⟨-, -, q, hq, -⟩ := h (Bool.eq_false_iff.2 hfree)
      cases hq

theorem take_iff (h : lv.loot.Registered) :
    (∀ lootSlot, lv.Takes lootSlot → lv.Offers env displayInfoID lootSlot) ↔ lv.Guarded env := by
  constructor
  · intro htake
    refine ⟨fun i item hitem hopen hcount hffa hcond hfree => ?_, fun i item hitem hopen hcount hc => ?_,
      fun i item hitem hopen hcount hf hlist => ?_, fun q hq hfree item hitem hcount => ?_⟩
    · have hoffer := htake i ((takes_plain hitem hffa hcond).2 ⟨hfree, hopen, hcount⟩)
      exact (offers_plain h hitem hopen hffa hcond hfree).1 hoffer
    · refine listed_iff.2 fun hown => ?_
      exact (offers_cond h hitem hc).1 (htake i ((takes_cond hitem hc).2 ⟨hown, hopen, hcount⟩))
    · refine listed_iff.2 fun hown => ?_
      exact (offers_ffa h hitem hf).1 (htake i ((takes_ffa hitem hf).2 ⟨⟨hlist, hown⟩, hopen, hcount⟩))
    · obtain ⟨j, hj⟩ := mem_iff_getElem?.1 hq
      have hoffer := htake _ (takes_quest.2 ⟨q, item, hj, hfree, hitem, hcount⟩)
      exact (offers_quest h hj hfree hitem).1 hoffer
  · intro hg lootSlot htakes
    cases hitem : lv.loot.items[lootSlot]? with
    | none =>
      obtain ⟨j, rfl⟩ := Nat.exists_eq_add_of_le (getElem?_eq_none_iff.1 hitem)
      obtain ⟨q, item, hj, hfree, hitem, hcount⟩ := takes_quest.1 htakes
      exact (offers_quest h hj hfree hitem).2 (hg.quest q (List.mem_of_getElem? hj) hfree item hitem hcount)
    | some item =>
      cases hffa : item.freeforall with
      | true =>
        obtain ⟨⟨hlist, hown⟩, hopen, hcount⟩ := (takes_ffa hitem hffa).1 htakes
        exact (offers_ffa h hitem hffa).2 (listed_iff.1 (hg.ffa lootSlot item hitem hopen hcount hffa hlist) hown)
      | false =>
        by_cases hcond : item.conditions = []
        · obtain ⟨hfree, hopen, hcount⟩ := (takes_plain hitem hffa hcond).1 htakes
          exact (offers_plain h hitem hopen hffa hcond hfree).2
            (hg.plain lootSlot item hitem hopen hcount hffa hcond hfree)
        · obtain ⟨hown, hopen, hcount⟩ := (takes_cond hitem ⟨hffa, hcond⟩).1 htakes
          exact (offers_cond h hitem ⟨hffa, hcond⟩).2
            (listed_iff.1 (hg.cond lootSlot item hitem hopen hcount ⟨hffa, hcond⟩) hown)

theorem Shows.of_mem (hline : line ∈ (lv.write env displayInfoID).lines) : lv.Shows env displayInfoID line := by
  by_cases hp : lv.permission = .none
  · rw [write_none hp] at hline
    cases hline
  · rw [lines_write hp] at hline
    exact mem_lines.1 hline

/-- **The window and the request.** For every loot that comes about, every viewer and every permission, the
count, the slots and the items of the packet are right; a request takes what the view does not offer unless all
that is open is for the viewer. -/
theorem faithful_iff (env : Env) (displayInfoID : Nat → Nat) (lv : LootView) (h : lv.loot.Reachable env) :
    lv.Faithful env displayInfoID ↔ lv.Guarded env := by
  have hr := h.registered
  refine ⟨fun hf => (take_iff hr).1 hf.take, fun hg => ⟨?_, ?_, fun line hline => ?_, (take_iff hr).2 hg⟩⟩
  · have hlength : (lv.write env displayInfoID).lines.length ≤ 16 := by
      by_cases hp : lv.permission = .none
      · rw [write_none hp]
        exact Nat.zero_le 16
      · rw [lines_write hp]
        exact length_lines hr
    exact counted_write.trans (Nat.mod_eq_of_lt (hlength.trans_lt (by decide)))
  · by_cases hp : lv.permission = .none
    · rw [write_none hp]
      exact .nil
    · rw [lines_write hp]
      exact nodup_lines hr
  · obtain ⟨-, item, slot, hitem, hline, hentry, hslot⟩ := (Shows.of_mem hline).slot_eq hr
    exact ⟨slot, item, hslot, hentry, hitem, hline⟩

/-! ## A loot under group loot -/

def corpseEnv : Env where
  partyLoot _ := false
  currencyToken _ := false
  allowedForPlayer _ _ _ _ := true

def corpse : Loot where
  items := [{ itemid := 10, allowedGUIDs := [2, 1], isUnderthreshold := true },
    { itemid := 20, allowedGUIDs := [2, 1], isBlocked := true }]
  unlootedCount := 2
  roundRobinPlayer := 1

theorem reachable_corpse : corpse.Reachable corpseEnv := by
  have hfill := reachable_fillLoot corpseEnv 0 [{ itemid := 10 }, { itemid := 20 }]
    [{ player := 1 }, { player := 2 }]
  obtain ⟨gold, drops, hrun⟩ := hfill
  exact ⟨gold, drops, ((hrun.tail (.roundRobin 1)).tail (.underthreshold 0)).tail (.block 1)⟩

/-- Player 2 is shown the roll only, and takes the item of player 1. -/
theorem not_faithful_corpse : corpse.Reachable corpseEnv ∧
    ¬ Faithful corpseEnv id { loot := corpse, viewer := 2, permission := .group } := by
  refine ⟨reachable_corpse, fun hf => ?_⟩
  have htakes : Takes { loot := corpse, viewer := 2, permission := .group } 0 := ⟨true, by decide⟩
  have hoffer : ¬ Offers corpseEnv id { loot := corpse, viewer := 2, permission := .group } 0 := by
    unfold Offers
    decide
  exact hoffer (hf.take 0 htakes)

theorem faithful_corpse : Faithful corpseEnv id { loot := corpse, viewer := 1, permission := .group } := by
  refine (faithful_iff corpseEnv id { loot := corpse, viewer := 1, permission := .group } reachable_corpse).2
    ⟨fun i item hitem hopen _ _ _ _ => ?_, fun i item hitem _ _ hc => ?_, fun _ _ _ _ _ _ hlist => ?_,
      nofun⟩
  · match i, hitem with
    | 0, hitem =>
      cases hitem
      exact ⟨nofun, rfl, fun _ => .inr (.inr rfl), nofun⟩
    | 1, hitem =>
      cases hitem
      cases hopen
  · match i, hitem with
    | 0, hitem =>
      cases hitem
      exact absurd rfl hc.2
    | 1, hitem =>
      cases hitem
      exact absurd rfl hc.2
  · cases hlist

end LootView

end Axium.Looting
