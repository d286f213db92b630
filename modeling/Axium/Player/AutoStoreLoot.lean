import Axium.Looting.DropLimits
import Axium.Looting.LootShape
import Axium.Player.DestroyCount
import Axium.Player.Retries

/-!
# Loot that is stored at once

`Player::AutoStoreLoot` fills a loot that nobody sees and stores what is in it. Filling it stores the currency
tokens that are free for all already, and their slots are empty then. The loop over the slots dereferences what
`LootItemInSlot` returns without a look at it, so it needs every slot to hold an item: `handled_iff` has the
exact condition.
-/

namespace Axium.Player

open Guilds Stacks Vault Run List Option
open Looting.Loot (SameShape getElem?_of_kinds)
open Looting (Loot LootItem LootStoreItem Entry Env QuestItem)

variable {i : Nat} {q : QuestItem} {item : LootItem} (l : List Nat)

/-- An item that was stored: its count in the loot, and the units that `StoreNewItem` made of it. -/
structure Stored where
  entry : Entry
  count : Nat
  amount : Nat

structure Storing where
  inv : Inventory
  stored : List Stored := []
  null : Bool := false

/-- `StoreNewItem` for an item of a loot. -/
def Storing.store (W : Rules) (st : Storing) (entry : Entry) (item : LootItem) (dest : List (Place × Nat)) :
    Storing :=
  { st with
    inv := Inventory.storeNewItem W dest item.itemid st.inv
    stored := st.stored ++ [⟨entry, item.count, uint32 ((dest.map Prod.snd).sum : Nat)⟩] }

/-- The item to which `LootItemInSlot` returns a pointer. -/
def itemInSlot (loot : Loot) (player : Guid) (lootSlot : Nat) : Option (Entry × LootItem) :=
  (loot.lootItemInSlot lootSlot player).bind fun slot => (loot.itemOf? slot.entry).map fun item => (slot.entry, item)

section Definitions

variable (W : Rules) (L : Limits) (env : Env) (player : Guid)

def storeLootItem (lootSlot : Nat) (s : Loot × Storing) : Loot × Storing :=
  match itemInSlot s.1 player lootSlot with
  | none => s
  | some (_, item) =>
    let r := L.canStoreNewItem (W.realm s.2.inv.toVault) s.2.inv.toVault nullBag nullSlot [] item.itemid item.count
    match s.1.storeLootItem lootSlot player (decide (r.result = .ok)) with
    | (loot, some d) => (loot, s.2.store W d.entry item r.dest)
    | (loot, none) => (loot, s.2)

/-- The test of the loop of `FillNotNormalLootFor`. -/
def isCurrency (loot : Loot) (i : Nat) : Bool :=
  let item := if i < loot.items.length then loot.items[i]? else loot.questItems[i - loot.items.length]?
  item.any fun item => !item.isLooted && item.freeforall && item.allowedForPlayer env player &&
    env.currencyToken item.itemid

def storeCurrency (s : Loot × Storing) (i : Nat) : Loot × Storing :=
  if isCurrency env player s.1 i then storeLootItem W L player i s else s

/-- `FillLoot` for one player, with the items that `Process` adds. -/
def fillLoot (drops : List LootStoreItem) (inv : Inventory) : Loot × Storing :=
  let loot := (drops.foldl (Loot.addItem env) {}).fillLists env player true
  (range (loot.getMaxSlotInLootFor player)).foldl (storeCurrency W L env player) (loot, { inv })

/-- One turn of the loop of `AutoStoreLoot`. There is none after a null pointer. -/
def storeSlot (bag slot : Byte) (loot : Loot) (st : Storing) (i : Nat) : Storing :=
  if st.null then st
  else
    match itemInSlot loot player i with
    | none => { st with null := true }
    | some (entry, item) =>
      let r := L.placeNewItem (W.realm st.inv.toVault) st.inv.toVault bag slot item.itemid item.count
      if r.result = .ok then st.store W entry item r.dest else st

def autoStoreLoot (bag slot : Byte) (drops : List LootStoreItem) (inv : Inventory) : Storing :=
  let s := fillLoot W L env player drops inv
  (range (s.1.getMaxSlotInLootFor player)).foldl (storeSlot W L player bag slot s.1) s.2

structure Handled (bag slot : Byte) (drops : List LootStoreItem) (inv : Inventory) : Prop where
  dereferences : (autoStoreLoot W L env player bag slot drops inv).null = false
  once : ∀ entry, (autoStoreLoot W L env player bag slot drops inv).stored.countP (·.entry = entry) ≤ 1
  whole : ∀ s ∈ (autoStoreLoot W L env player bag slot drops inv).stored, s.amount = s.count

def filled (drops : List LootStoreItem) : Loot := (drops.foldl (Loot.addItem env) {}).fillLists env player true

def Storable (loot : Loot) (inv : Inventory) (i : Nat) : Prop :=
  isCurrency env player loot i = true ∧ ∃ entry item, itemInSlot loot player i = some (entry, item) ∧
    (L.canStoreNewItem (W.realm inv.toVault) inv.toVault nullBag nullSlot [] item.itemid item.count).result = .ok

structure Smooth (bag slot : Byte) (drops : List LootStoreItem) (inv : Inventory) : Prop where
  ffa : ∀ item ∈ (filled env player drops).items, item.freeforall = true →
    ∃ item ∈ (filled env player drops).items, item.freeforall = true ∧ item.allowedForPlayer env player = true
  /-- There is no room for any currency token. -/
  full : ∀ i < (filled env player drops).getMaxSlotInLootFor player,
    ¬ Storable W L env player (filled env player drops) inv i
  planned : AllSteps (storeSlot W L player bag slot (filled env player drops))
    (fun st i => ∀ entry item, itemInSlot (filled env player drops) player i = some (entry, item) →
      L.PlannedOnce (W.realm st.inv.toVault) st.inv.toVault bag slot item.itemid item.count)
    { inv } (range ((filled env player drops).getMaxSlotInLootFor player))

end Definitions

/-! ## The filled loot -/

section Filled

open Looting.Loot

variable {env : Env} {player : Guid}

structure Untouched (env : Env) (player : Guid) (loot : Loot) : Prop where
  items : ∀ item ∈ loot.items, item.isLooted = false ∧ item.isBlocked = false ∧ item.count < 2 ^ 8
  questItems : ∀ item ∈ loot.questItems, item.count < 2 ^ 8
  ffa : ∀ i q, registered loot.playerFFAItems player i = some q → q.isLooted = false
  cond : ∀ i q, registered loot.playerNonQuestNonFFAConditionalItems player i = some q → q.isLooted = false
  quest : ∀ ql, loot.playerQuestItems.find? player = some ql → (indices ql).Nodup ∧
    ∀ q ∈ ql, q.isLooted = false ∧ q.index < loot.questItems.length
  allowed : ∀ (i : Nat) item, loot.items[i]? = some item → item.freeforall = true →
    item.allowedForPlayer env player = true → ∃ q, registered loot.playerFFAItems player i = some q
  contains : loot.playerFFAItems.contains player = true ↔
    ∃ item ∈ loot.items, item.freeforall = true ∧ item.allowedForPlayer env player = true

theorem foldl_addItem_all (env : Env) {P : LootItem → Prop} {drops : List LootStoreItem}
    (hP : ∀ drop ∈ drops, P (drop.lootItem env)) (loot : Loot) (hitems : ∀ item ∈ loot.items, P item)
    (hquest : ∀ item ∈ loot.questItems, P item) :
    (∀ item ∈ (drops.foldl (Loot.addItem env) loot).items, P item) ∧
      ∀ item ∈ (drops.foldl (Loot.addItem env) loot).questItems, P item := by
  have happend : ∀ {items : List LootItem} {drop : LootStoreItem}, (∀ item ∈ items, P item) →
      P (drop.lootItem env) → ∀ item ∈ items ++ [drop.lootItem env], P item := by
    intro items drop h hdrop item hitem
    rcases mem_append.1 hitem with hold | hnew
    · exact h item hold
    · exact mem_singleton.1 hnew ▸ hdrop
  induction drops generalizing loot with
  | nil => exact ⟨hitems, hquest⟩
  | cons drop drops ih =>
    have hdrop := hP drop mem_cons_self
    have hstep : (∀ item ∈ (loot.addItem env drop).items, P item) ∧
        ∀ item ∈ (loot.addItem env drop).questItems, P item := by
      unfold Loot.addItem
      split
      · split
        · exact ⟨hitems, happend hquest hdrop⟩
        · exact ⟨hitems, hquest⟩
      · split
        · exact ⟨happend hitems hdrop, hquest⟩
        · exact ⟨hitems, hquest⟩
    exact ih (fun d hd => hP d (mem_cons_of_mem drop hd)) _ hstep.1 hstep.2

theorem registered_new (player : Guid) (ql : List Nat) (i : Nat) :
    registered (register .empty player ql) player i = if i ∈ ql then some { index := i } else none := by
  rw [registered_register]
  by_cases hql : ql = []
  · rw [hql]
    rfl
  · rw [if_pos ⟨hql, rfl⟩]

/-- What `Process` makes of a template is a loot to which items were added, with counts of eight bits. -/
theorem exists_drops_of_process {C : LootStore.Config} {dice : LootStore.Dice} {refs : LootStore.LootTemplateMap}
    {rate : Bool} {lootMode : BitVec 16} {fuel groupId : Nat} {t : LootStore.LootTemplate} {st : LootStore.Rolling}
    (h : LootStore.LootTemplate.process C dice refs rate lootMode fuel t groupId {} = some st) :
    ∃ drops : List LootStoreItem, (∀ drop ∈ drops, drop.count < 2 ^ 8) ∧
      st.loot = drops.foldl (Loot.addItem C.toEnv) {} := by
  have hadded : ∀ {drops : List LootStoreItem} {st' : LootStore.Rolling} {plain : Bool} {i : LootStore.LootStoreItem},
      (∀ drop ∈ drops, drop.count < 2 ^ 8) → st'.loot = drops.foldl (Loot.addItem C.toEnv) {} →
        ∃ drops' : List LootStoreItem, (∀ drop ∈ drops', drop.count < 2 ^ 8) ∧
          (st'.addItem C dice plain i).loot = drops'.foldl (Loot.addItem C.toEnv) {} := by
    intro drops st' plain i hdrops hloot
    obtain ⟨drop, heq, hlt⟩ : ∃ drop : LootStoreItem, (st'.addItem C dice plain i).loot =
        st'.loot.addItem C.toEnv drop ∧ drop.count < 2 ^ 8 := ⟨_, rfl, Nat.mod_lt _ (by decide)⟩
    refine ⟨drops ++ [drop], forall_mem_append.2 ⟨hdrops, forall_mem_singleton.2 hlt⟩, ?_⟩
    rw [heq, hloot, foldl_append]
    rfl
  have hsteps := LootStore.process_steps h
  clear h
  induction hsteps with
  | refl => exact ⟨[], nofun, rfl⟩
  | tail _ hstep ih =>
    obtain ⟨drops, hdrops, hloot⟩ := ih
    cases hstep with
    | draw => exact ⟨drops, hdrops, hloot⟩
    | plain i => exact hadded hdrops hloot
    | grouped i => exact hadded hdrops hloot

theorem filled_eq (env : Env) (player : Guid) (drops : List LootStoreItem) : filled env player drops =
    (((drops.foldl (Loot.addItem env) {}).fillQuestLoot env player).fillFFALoot env
      player).fillNonQuestNonFFAConditionalLoot env player true := by
  have hadded := added_foldl env 0 drops
  have hnone : ∀ m : OrdMap Guid (List QuestItem), m = .empty → ¬ m.contains player = true := by
    rintro m rfl
    exact Bool.false_ne_true
  unfold filled fillLists
  extract_lets loot₁ loot₂
  have hquest : loot₁ = (drops.foldl (Loot.addItem env) {}).fillQuestLoot env player :=
    if_neg (hnone _ hadded.quest)
  have hffa : loot₂ = loot₁.fillFFALoot env player := by
    refine if_neg (hnone _ ?_)
    rw [hquest]
    exact hadded.ffa
  rw [if_neg, hffa, hquest]
  refine hnone _ ?_
  rw [hffa, hquest]
  exact hadded.cond

section Fields

variable (env : Env) (player : Guid) (drops : List LootStoreItem)

theorem items_filled : (filled env player drops).items =
    (drops.foldl (Loot.addItem env) {}).items.map (seen env player true) := by
  rw [filled_eq]
  rfl

theorem questItems_filled : (filled env player drops).questItems =
    (drops.foldl (Loot.addItem env) {}).questItems.mapIdx fun i item =>
      if i ∈ (drops.foldl (Loot.addItem env) {}).questWindow env player then { item with isBlocked := true }
      else item := by
  rw [filled_eq]
  rfl

theorem playerFFAItems_filled : (filled env player drops).playerFFAItems =
    register .empty player ((drops.foldl (Loot.addItem env) {}).ffaWindow env player) := by
  rw [filled_eq]
  exact congrArg (register · player ((drops.foldl (Loot.addItem env) {}).ffaWindow env player))
    (added_foldl env 0 drops).ffa

theorem playerQuestItems_filled : (filled env player drops).playerQuestItems =
    register .empty player ((drops.foldl (Loot.addItem env) {}).questWindow env player) := by
  rw [filled_eq]
  exact congrArg (register · player ((drops.foldl (Loot.addItem env) {}).questWindow env player))
    (added_foldl env 0 drops).quest

theorem conditionalItems_filled : (filled env player drops).playerNonQuestNonFFAConditionalItems =
    register .empty player ((drops.foldl (Loot.addItem env) {}).condWindow env player) := by
  rw [filled_eq]
  exact congrArg (register · player ((drops.foldl (Loot.addItem env) {}).condWindow env player))
    (added_foldl env 0 drops).cond

end Fields

theorem seen_marks (env : Env) (player : Guid) (present : Bool) (item : LootItem) :
    (seen env player present item).isBlocked = item.isBlocked ∧ (seen env player present item).count = item.count := by
  unfold seen
  split
  · exact ⟨rfl, rfl⟩
  · exact ⟨rfl, rfl⟩

theorem registered_new_free {ql : List Nat}
    (hq : registered (register .empty player ql) player i = some q) : q.isLooted = false := by
  rw [registered_new] at hq
  split at hq
  · cases hq
    rfl
  · cases hq

theorem untouched_filled {drops : List LootStoreItem} (hcount : ∀ drop ∈ drops, drop.count < 2 ^ 8) :
    Untouched env player (filled env player drops) := by
  obtain ⟨hitems, hquest⟩ := foldl_addItem_all env
    (P := fun item => item.isLooted = false ∧ item.isBlocked = false ∧ item.count < 2 ^ 8)
    (fun drop hdrop => ⟨rfl, rfl, hcount drop hdrop⟩) {} nofun nofun
  have hwindow : ∀ (i : Nat) item, (drops.foldl (Loot.addItem env) {}).items[i]? = some item →
      item.freeforall = true → item.allowedForPlayer env player = true →
        i ∈ (drops.foldl (Loot.addItem env) {}).ffaWindow env player := by
    intro i item hitem hf ha
    refine mem_positions.2 ⟨item, hitem, ?_⟩
    rw [(hitems item (mem_of_getElem? hitem)).1, hf, ha]
    rfl
  refine ⟨fun item hitem => ?_, fun item hitem => ?_, fun i q hq => ?_, fun i q hq => ?_, fun ql hql => ?_,
    fun i item hitem hf ha => ?_, ?_⟩
  · rw [items_filled] at hitem
    obtain ⟨item₀, hitem₀, rfl⟩ := mem_map.1 hitem
    obtain ⟨hfree, hopen, hlt⟩ := hitems item₀ hitem₀
    obtain ⟨hb, hc⟩ := seen_marks env player true item₀
    exact ⟨(seen_kind env player true item₀).2.2.1.trans hfree, hb.trans hopen, hc.trans_lt hlt⟩
  · rw [questItems_filled] at hitem
    obtain ⟨i, hi, rfl⟩ := mem_mapIdx.1 hitem
    have hlt := (hquest _ (getElem_mem hi)).2.2
    split
    · exact hlt
    · exact hlt
  · rw [playerFFAItems_filled] at hq
    exact registered_new_free hq
  · rw [conditionalItems_filled] at hq
    exact registered_new_free hq
  · rw [playerQuestItems_filled, find?_register] at hql
    split at hql
    · cases hql
      unfold indices
      rw [map_index_mk, questItems_filled, length_mapIdx]
      refine ⟨nodup_questWindow _ _ _, fun q hq => ?_⟩
      obtain ⟨k, hk, rfl⟩ := mem_map.1 hq
      obtain ⟨item, hitem, -⟩ := mem_questWindow hk
      exact ⟨rfl, (List.getElem?_eq_some_iff.1 hitem).1⟩
    · cases hql
  · rw [items_filled, getElem?_map] at hitem
    obtain ⟨item₀, hitem₀, rfl⟩ := map_eq_some_iff.1 hitem
    obtain ⟨hf₀, -, -, ha₀⟩ := seen_kind env player true item₀
    rw [playerFFAItems_filled, registered_new, if_pos (hwindow i item₀ hitem₀ (hf₀ ▸ hf) (ha₀ player ▸ ha))]
    exact ⟨_, rfl⟩
  · have hcontains : (register .empty player
        ((drops.foldl (Loot.addItem env) {}).ffaWindow env player)).contains player = true ↔
          (drops.foldl (Loot.addItem env) {}).ffaWindow env player ≠ [] := by
      unfold OrdMap.contains
      rw [find?_register]
      by_cases hnil : (drops.foldl (Loot.addItem env) {}).ffaWindow env player = []
      · simp [hnil]
      · simp [hnil]
    rw [playerFFAItems_filled, items_filled, hcontains]
    constructor
    · intro hne
      obtain ⟨i, hi⟩ := exists_mem_of_ne_nil _ hne
      obtain ⟨item, hitem, hseen⟩ := mem_positions.1 hi
      rw [Bool.and_eq_true, Bool.and_eq_true] at hseen
      obtain ⟨hf, -, -, ha⟩ := seen_kind env player true item
      exact ⟨_, mem_map_of_mem (mem_of_getElem? hitem), hf.trans hseen.1.2, (ha player).trans hseen.2⟩
    · rintro ⟨item, hmem, hf, ha⟩
      obtain ⟨item₀, hmem₀, rfl⟩ := mem_map.1 hmem
      obtain ⟨i, hi⟩ := mem_iff_getElem?.1 hmem₀
      obtain ⟨hf₀, -, -, ha₀⟩ := seen_kind env player true item₀
      exact ne_nil_of_mem (hwindow i item₀ hi (hf₀ ▸ hf) (ha₀ player ▸ ha))

/-! ## The slots -/

variable {loot : Loot} {i : Nat}

theorem itemInSlot_item (h : Untouched env player loot) (hitem : loot.items[i]? = some item) :
    itemInSlot loot player i =
      if item.freeforall = true ∧ loot.playerFFAItems.contains player = false then none
      else some (.item i, item) := by
  have hfree := (h.items item (mem_of_getElem? hitem)).1
  unfold itemInSlot lootItemInSlot
  rw [hitem]
  dsimp only
  cases hf : item.freeforall with
  | true =>
    cases hlist : loot.playerFFAItems.contains player with
    | false => rfl
    | true =>
      cases hq : registered loot.playerFFAItems player i with
      | none =>
        rw [hfree]
        simp [itemOf?, hitem]
      | some q =>
        dsimp only
        rw [h.ffa i q hq]
        simp [itemOf?, hitem]
  | false =>
    by_cases hcond : item.conditions = []
    · rw [if_neg (not_not.2 hcond), hfree]
      simp [itemOf?, hitem]
    · rw [if_pos hcond]
      cases hq : registered loot.playerNonQuestNonFFAConditionalItems player i with
      | none =>
        rw [hfree]
        simp [itemOf?, hitem]
      | some q =>
        dsimp only
        rw [h.cond i q hq]
        simp [itemOf?, hitem]

theorem itemInSlot_quest (h : Untouched env player loot) {ql : List QuestItem} {j : Nat}
    (hql : loot.playerQuestItems.find? player = some ql) (hq : ql[j]? = some q) :
    ∃ item, loot.questItems[q.index]? = some item ∧
      itemInSlot loot player (loot.items.length + j) = some (.quest q.index, item) := by
  obtain ⟨hfree, hlt⟩ := (h.quest ql hql).2 q (mem_of_getElem? hq)
  have hitems : loot.items[loot.items.length + j]? = none := getElem?_eq_none (Nat.le_add_right _ _)
  refine ⟨_, getElem?_eq_getElem hlt, ?_⟩
  unfold itemInSlot lootItemInSlot
  simp only [hitems, Nat.add_sub_cancel_left, hql, bind_some, hq, hfree, Bool.false_eq_true, if_false]
  simp only [itemOf?, getElem?_eq_getElem hlt, map_some]

theorem slot_cases (hi : i < loot.getMaxSlotInLootFor player) : (∃ item, loot.items[i]? = some item) ∨
    ∃ ql j q, loot.playerQuestItems.find? player = some ql ∧ ql[j]? = some q ∧ i = loot.items.length + j := by
  unfold getMaxSlotInLootFor at hi
  by_cases hlt : i < loot.items.length
  · exact .inl ⟨_, getElem?_eq_getElem hlt⟩
  · cases hql : loot.playerQuestItems.find? player with
    | none =>
      rw [hql, getD_none, length_nil] at hi
      omega
    | some ql =>
      rw [hql, getD_some] at hi
      obtain ⟨j, rfl⟩ := Nat.exists_eq_add_of_le (Nat.le_of_not_lt hlt)
      have hj : j < ql.length := by omega
      exact .inr ⟨ql, j, _, rfl, getElem?_eq_getElem hj, rfl⟩

theorem itemInSlot_unlisted (hitem : loot.items[i]? = some item) (hf : item.freeforall = true)
    (hlist : loot.playerFFAItems.contains player = false) : itemInSlot loot player i = none := by
  unfold itemInSlot lootItemInSlot
  simp only [hitem, hf, if_true, hlist, Bool.false_eq_true, if_false, bind_none]

theorem item_of_slot (h : Untouched env player loot)
    (hlist : ∀ item ∈ loot.items, item.freeforall = true → loot.playerFFAItems.contains player = true)
    (hi : i < loot.getMaxSlotInLootFor player) :
    ∃ entry item, itemInSlot loot player i = some (entry, item) ∧ item.count < 2 ^ 8 := by
  rcases slot_cases hi with ⟨item, hitem⟩ | ⟨ql, j, q, hql, hq, rfl⟩
  · have hmem := mem_of_getElem? hitem
    refine ⟨.item i, item, ?_, (h.items item hmem).2.2⟩
    rw [itemInSlot_item h hitem]
    refine if_neg fun hnot => ?_
    rw [hlist item hmem hnot.1] at hnot
    exact Bool.noConfusion hnot.2
  · obtain ⟨item, hitem, hat⟩ := itemInSlot_quest h hql hq
    exact ⟨_, item, hat, h.questItems item (mem_of_getElem? hitem)⟩

/-- **Whatever the dice show, what `Process` generates is a fresh loot once it is filled for a player.** A slot is
empty only where there are free-for-all items and he may have none of them. -/
theorem process_fresh {C : LootStore.Config} {dice : LootStore.Dice} {refs : LootStore.LootTemplateMap}
    {rate : Bool} {lootMode : BitVec 16} {fuel groupId : Nat} {t : LootStore.LootTemplate} {st : LootStore.Rolling}
    (h : LootStore.LootTemplate.process C dice refs rate lootMode fuel t groupId {} = some st)
    (hloot : loot = st.loot.fillLists C.toEnv player true) :
    Untouched C.toEnv player loot ∧
    ((∀ i < loot.getMaxSlotInLootFor player, (itemInSlot loot player i).isSome = true) ↔
      ∀ item ∈ loot.items, item.freeforall = true →
        ∃ item ∈ loot.items, item.freeforall = true ∧ item.allowedForPlayer C.toEnv player = true) := by
  obtain ⟨drops, hcount, hdrops⟩ := exists_drops_of_process h
  have hu : Untouched C.toEnv player loot := by
    rw [hloot, hdrops]
    exact untouched_filled hcount
  refine ⟨hu, fun hslots item hitem hf => hu.contains.1 ?_, fun hffa i hi => ?_⟩
  · by_contra hlist
    obtain ⟨i, hi⟩ := mem_iff_getElem?.1 hitem
    have hlt : i < loot.items.length := (List.getElem?_eq_some_iff.1 hi).1
    have hsome := hslots i (Nat.lt_of_lt_of_le hlt (Nat.le_add_right ..))
    rw [itemInSlot_item hu hi, if_pos ⟨hf, Bool.eq_false_iff.2 hlist⟩] at hsome
    cases hsome
  · obtain ⟨entry, item, hat, -⟩ := item_of_slot hu (fun item hitem hf => hu.contains.2 (hffa item hitem hf)) hi
    rw [hat]
    rfl

/-- A trinket of a reference, an item that is free for all, and a quest item. -/
def mixedLoot : Option LootStore.Rolling :=
  LootStore.LootTemplate.process { LootStore.trinketConfig with partyLoot := fun item => item = 20 } LootStore.zeroDice
    (LootStore.loadReferences LootStore.trinketConfig LootStore.trinketRows).1 false 1 2
    { entries := (LootStore.trinketTemplate 1).entries ++
        [{ itemid := 20, chance := 100, mincountOrRef := 1, lootmode := 1 },
          { itemid := 30, chance := 100, mincountOrRef := 1, lootmode := 1, needsQuest := true }] } 0 {}

theorem process_fresh_mixed : ∃ st, mixedLoot = some st ∧ (st.loot.items.length, st.loot.questItems.length) = (2, 1) ∧
    Untouched { LootStore.trinketConfig.toEnv with partyLoot := fun item => item = 20 } 7
      (st.loot.fillLists { LootStore.trinketConfig.toEnv with partyLoot := fun item => item = 20 } 7 true) := by
  obtain ⟨st, hst⟩ := isSome_iff_exists.1 (show mixedLoot.isSome = true by decide +kernel)
  have hlengths : mixedLoot.map (fun st => (st.loot.items.length, st.loot.questItems.length)) = some (2, 1) := by
    decide +kernel
  rw [hst] at hlengths
  exact ⟨st, hst, some.inj hlengths, (process_fresh hst rfl).1⟩

def entryInSlot (loot : Loot) (player : Guid) (i : Nat) : Option Entry := (itemInSlot loot player i).map Prod.fst

theorem entryInSlot_cases {e : Entry} (h : entryInSlot loot player i = some e) : e = .item i ∨
    ∃ ql q, loot.items.length ≤ i ∧ loot.playerQuestItems.find? player = some ql ∧
      ql[i - loot.items.length]? = some q ∧ e = .quest q.index := by
  obtain ⟨⟨entry, item⟩, hat, rfl⟩ := map_eq_some_iff.1 h
  obtain ⟨slot, hslot, hread⟩ := bind_eq_some_iff.1 hat
  obtain ⟨item', -, heq⟩ := map_eq_some_iff.1 hread
  obtain ⟨rfl, -⟩ := Prod.mk.inj heq
  cases found_of_lootItemInSlot hslot with
  | quest hle hql hq => exact .inr ⟨_, _, hle, hql, hq, rfl⟩
  | ffa => exact .inl rfl
  | unregistered => exact .inl rfl
  | cond => exact .inl rfl
  | plain => exact .inl rfl

theorem nodup_entries (h : Untouched env player loot) (n : Nat) :
    ((range n).filterMap (entryInSlot loot player)).Nodup := by
  refine List.Nodup.filterMap (fun i j e hi hj => ?_) nodup_range
  rcases entryInSlot_cases hi with rfl | ⟨ql, q, hlei, hql, hq, rfl⟩
  · rcases entryInSlot_cases hj with heq | ⟨_, _, -, -, -, heq⟩
    · exact Entry.item.inj heq
    · cases heq
  · rcases entryInSlot_cases hj with heq | ⟨ql', q', hlej, hql', hq', heq⟩
    · cases heq
    · obtain rfl := some.inj (hql.symm.trans hql')
      have hsame : (indices ql)[i - loot.items.length]? = (indices ql)[j - loot.items.length]? := by
        unfold indices
        rw [getElem?_map, getElem?_map, hq, hq']
        exact congrArg some (Entry.quest.inj heq)
      have hlt : i - loot.items.length < (indices ql).length := by
        unfold indices
        rw [length_map]
        exact (List.getElem?_eq_some_iff.1 hq).1
      have hpos := (List.getElem?_inj hlt (h.quest ql hql).1).1 hsame
      omega

inductive Gone (loot : Loot) (player : Guid) (i : Nat) : Prop
  | ffa {item : LootItem} {q : QuestItem} (hitem : loot.items[i]? = some item) (hf : item.freeforall = true)
      (hq : registered loot.playerFFAItems player i = some q) (hlooted : q.isLooted = true)
  | quest {ql : List QuestItem} {q : QuestItem} (hi : loot.items.length ≤ i)
      (hql : loot.playerQuestItems.find? player = some ql) (hq : ql[i - loot.items.length]? = some q)
      (hlooted : q.isLooted = true)

theorem Gone.itemInSlot (h : Gone loot player i) : itemInSlot loot player i = none := by
  unfold Player.itemInSlot lootItemInSlot
  cases h with
  | ffa hitem hf hq hlooted =>
    have hlist : loot.playerFFAItems.contains player = true := by
      obtain ⟨ql, hql, -⟩ := bind_eq_some_iff.1 hq
      unfold OrdMap.contains
      rw [hql]
      rfl
    simp only [hitem, hf, if_true, hlist, hq, hlooted, bind_none]
  | quest hi hql hq hlooted =>
    have hitems : loot.items[i]? = none := getElem?_eq_none hi
    simp only [hitems, hql, bind_some, hq, hlooted, if_true, bind_none]

theorem quest_markOwn {ql : List QuestItem} (hql : loot.playerQuestItems.find? player = some ql) {k : Nat} (hq : ql[k]? = some q) (hlooted : q.isLooted = true) (slot : Slot) :
    ∃ ql' q', (loot.markOwn player slot).playerQuestItems.find? player = some ql' ∧ ql'[k]? = some q' ∧
      q'.isLooted = true := by
  unfold markOwn
  cases slot.qitem with
  | none =>
    refine ⟨ql, q, ?_, hq, hlooted⟩
    cases slot.entry with
    | quest => exact hql
    | item =>
      split_ifs
      · exact hql
      · exact hql
      · exact hql
  | some j =>
    rw [OrdMap.find?_modify, if_pos rfl, hql]
    refine ⟨_, if j = k then { q with isLooted := true } else q, rfl, ?_, ?_⟩
    · rw [getElem?_modify, hq]
      split <;> rfl
    · split
      · rfl
      · exact hlooted

theorem Gone.markStored (h : Gone loot player i) (slot : Slot) (ffa : Bool) :
    Gone (loot.markStored player slot ffa) player i := by
  have hkeeps := Looting.Keeps.markStored loot player slot ffa
  have hlength := (SameShape.markStored loot player slot ffa).length_items
  cases h with
  | @ffa item q hitem hf hq hlooted =>
    obtain ⟨item', hitem'⟩ := isSome_iff_exists.1 (hkeeps.entry_some (.item i) item hitem)
    obtain ⟨item₀, hitem₀, hf', -, -⟩ := hkeeps.entry (.item i) item' hitem'
    obtain rfl : item = item₀ := some.inj (hitem.symm.trans hitem₀)
    obtain ⟨q', hq', hlooted'⟩ := hkeeps.ffa player i q hq hlooted
    exact .ffa hitem' (hf'.trans hf) hq' hlooted'
  | @quest ql q hi hql hq hlooted =>
    obtain ⟨ql', q', hql', hq', hlooted'⟩ := quest_markOwn hql hq hlooted slot
    rw [← playerQuestItems_markStored loot player slot ffa] at hql'
    exact .quest (hlength.trans_le hi) hql' (by rwa [hlength]) hlooted'

theorem Gone.storeLootItem (h : Gone loot player i) (j : Nat) (canStore : Bool) :
    Gone (loot.storeLootItem j player canStore).1 player i := by
  rcases storeLootItem_cases loot j player canStore with heq | ⟨slot, item, -, -, -, heq⟩
  · rw [heq]
    exact h
  · rw [heq]
    exact h.markStored slot item.freeforall

/-! ## The currency tokens -/

variable {W : Rules} {L : Limits} {s : Loot × Storing}

theorem storeCurrency_of_not (h : ¬ Storable W L env player s.1 s.2.inv i) :
    storeCurrency W L env player s i = s := by
  unfold storeCurrency
  split
  · next hcurrency =>
    unfold Player.storeLootItem
    cases hslot : Player.itemInSlot s.1 player i with
    | none => rfl
    | some e =>
      obtain ⟨entry, item⟩ := e
      have hfull : (L.canStoreNewItem (W.realm s.2.inv.toVault) s.2.inv.toVault nullBag nullSlot [] item.itemid
          item.count).result ≠ .ok := fun hok => h ⟨hcurrency, entry, item, hslot, hok⟩
      dsimp only
      rw [decide_eq_false hfull, storeLootItem_noRoom]
  · rfl

theorem gone_of_found (hu : Untouched env player loot) {slot : Slot} (hfound : loot.Found player i slot)
    (htoken : ∀ item, loot.items[i]? = some item →
      item.freeforall = true ∧ item.allowedForPlayer env player = true) (ffa : Bool) :
    Gone (loot.markStored player slot ffa) player i := by
  have hkeeps := Looting.Keeps.markStored loot player slot ffa
  have hlength := (SameShape.markStored loot player slot ffa).length_items
  cases hfound with
  | @quest ql q hle hql hq hfree =>
    have hql' : (loot.markStored player
        { entry := .quest q.index, qitem := some (i - loot.items.length) } ffa).playerQuestItems.find? player =
          some (ql.modify (i - loot.items.length) fun q => { q with isLooted := true }) := by
      rw [playerQuestItems_markStored]
      unfold markOwn
      rw [OrdMap.find?_modify, if_pos rfl, hql, map_some]
    refine .quest (hlength.trans_le hle) hql' (q := { q with isLooted := true }) ?_ rfl
    rw [hlength, getElem?_modify_eq, hq]
    rfl
  | @ffa item q hitem hf hq hfree =>
    obtain ⟨item', hitem'⟩ := isSome_iff_exists.1 (hkeeps.entry_some (.item i) item hitem)
    obtain ⟨item₀, hitem₀, hf', -, -⟩ := hkeeps.entry (.item i) item' hitem'
    obtain rfl : item = item₀ := some.inj (hitem.symm.trans hitem₀)
    refine .ffa hitem' (hf'.trans hf) (q := { q with isLooted := true }) ?_ rfl
    rw [playerFFAItems_markStored]
    unfold markOwn
    dsimp only
    rw [if_pos rfl, Looting.registered_modify_markLooted, if_pos ⟨rfl, rfl⟩, hq, map_some]
  | @unregistered item hitem hf hlist hq hfree =>
    obtain ⟨q, hq'⟩ := hu.allowed i item hitem hf (htoken item hitem).2
    rw [hq'] at hq
    cases hq
  | @cond item q hitem hf =>
    rw [(htoken item hitem).1] at hf
    cases hf
  | @plain item hitem hf =>
    rw [(htoken item hitem).1] at hf
    cases hf

theorem gone_of_storable (hu : Untouched env player s.1) (h : Storable W L env player s.1 s.2.inv i) :
    Gone (storeCurrency W L env player s i).1 player i := by
  obtain ⟨hcurrency, entry, item, hat, hok⟩ := h
  obtain ⟨slot, hslot, hread⟩ := bind_eq_some_iff.1 hat
  obtain ⟨item', hitem, heq⟩ := map_eq_some_iff.1 hread
  have hfound := found_of_lootItemInSlot hslot
  have hopen : ¬ (slot.qitem = none ∧ item'.isBlocked = true) := by
    have hplain : ∀ {k}, s.1.items[k]? = some item' → item'.isBlocked ≠ true := fun hk hb => by
      rw [(hu.items item' (mem_of_getElem? hk)).2.1] at hb
      cases hb
    rintro ⟨hq, hb⟩
    cases hfound with
    | quest => cases hq
    | ffa => exact hplain hitem hb
    | unregistered => exact hplain hitem hb
    | cond => exact hplain hitem hb
    | plain => exact hplain hitem hb
  have hstored : s.1.storeLootItem i player true =
      (s.1.markStored player slot item'.freeforall, handOut item' slot.entry player) := by
    unfold Loot.storeLootItem
    simp only [hslot, hitem, if_true]
    exact if_neg hopen
  have hturn : (storeCurrency W L env player s i).1 = s.1.markStored player slot item'.freeforall := by
    unfold storeCurrency Player.storeLootItem
    rw [if_pos hcurrency, hat]
    dsimp only
    rw [decide_eq_true hok, hstored]
    cases handOut item' slot.entry player <;> rfl
  rw [hturn]
  refine gone_of_found hu hfound (fun item hitem => ?_) _
  unfold isCurrency at hcurrency
  rw [if_pos (List.getElem?_eq_some_iff.1 hitem).1, hitem] at hcurrency
  simp only [any_some, Bool.and_eq_true] at hcurrency
  exact ⟨hcurrency.1.1.2, hcurrency.1.2⟩

theorem storeCurrency_fst (W : Rules) (L : Limits) (env : Env) (player : Guid) (s : Loot × Storing) (i : Nat) :
    (storeCurrency W L env player s i).1 = s.1 ∨
      ∃ canStore, (storeCurrency W L env player s i).1 = (s.1.storeLootItem i player canStore).1 := by
  unfold storeCurrency Player.storeLootItem
  split
  · cases Player.itemInSlot s.1 player i with
    | none => exact .inl rfl
    | some e =>
      obtain ⟨entry, item⟩ := e
      dsimp only
      refine .inr ⟨decide ((L.canStoreNewItem (W.realm s.2.inv.toVault) s.2.inv.toVault nullBag nullSlot []
        item.itemid item.count).result = .ok), ?_⟩
      split
      · next heq => exact (congrArg Prod.fst heq).symm
      · next heq => exact (congrArg Prod.fst heq).symm
  · exact .inl rfl

theorem Gone.foldl_storeCurrency {l : List Nat} (h : Gone s.1 player i) :
    Gone (l.foldl (storeCurrency W L env player) s).1 player i := by
  induction l generalizing s with
  | nil => exact h
  | cons j l ih =>
    refine ih ?_
    rcases storeCurrency_fst W L env player s j with heq | ⟨canStore, heq⟩
    · rw [heq]
      exact h
    · rw [heq]
      exact h.storeLootItem j canStore

theorem shape_foldl_storeCurrency (s : Loot × Storing) :
    SameShape s.1 (l.foldl (storeCurrency W L env player) s).1 := by
  induction l generalizing s with
  | nil => exact .refl s.1
  | cons j l ih =>
    refine SameShape.trans ?_ (ih _)
    rcases storeCurrency_fst W L env player s j with heq | ⟨canStore, heq⟩
    · rw [heq]
      exact .refl s.1
    · rw [heq]
      exact .storeLootItem s.1 j player canStore

theorem foldl_storeCurrency_cases (hu : Untouched env player s.1) (l : List Nat) :
    ((∀ i ∈ l, ¬ Storable W L env player s.1 s.2.inv i) ∧ l.foldl (storeCurrency W L env player) s = s) ∨
      ∃ i ∈ l, Storable W L env player s.1 s.2.inv i ∧ Gone (l.foldl (storeCurrency W L env player) s).1 player i := by
  induction l with
  | nil => exact .inl ⟨nofun, rfl⟩
  | cons j l ih =>
    rw [foldl_cons]
    by_cases hj : Storable W L env player s.1 s.2.inv j
    · exact .inr ⟨j, mem_cons_self, hj, (gone_of_storable hu hj).foldl_storeCurrency⟩
    · rw [storeCurrency_of_not hj]
      rcases ih with ⟨hfull, heq⟩ | ⟨i, hi, hgone⟩
      · exact .inl ⟨forall_mem_cons.2 ⟨hj, hfull⟩, heq⟩
      · exact .inr ⟨i, mem_cons_of_mem j hi, hgone⟩

end Filled

/-! ## The loop over the slots -/

section Slots

variable {W : Rules} {L : Limits} {player : Guid} {bag slot : Byte} {loot : Loot} {st : Storing}

theorem null_foldl_of_null (h : st.null = true) (l : List Nat) :
    (l.foldl (storeSlot W L player bag slot loot) st).null = true := by
  induction l with
  | nil => exact h
  | cons i l ih =>
    rw [foldl_cons, show storeSlot W L player bag slot loot st i = st from if_pos h]
    exact ih

theorem null_foldl_of_empty (hempty : itemInSlot loot player i = none) {l : List Nat} (hi : i ∈ l) :
    (l.foldl (storeSlot W L player bag slot loot) st).null = true := by
  induction l generalizing st with
  | nil => cases hi
  | cons j l ih =>
    rcases mem_cons.1 hi with rfl | hi
    · refine null_foldl_of_null ?_ l
      unfold storeSlot
      split
      · assumption
      · rw [hempty]
    · exact ih hi

theorem storeSlot_of_item {entry : Entry} (hnull : st.null = false)
    (hat : itemInSlot loot player i = some (entry, item)) :
    storeSlot W L player bag slot loot st i =
      if (L.placeNewItem (W.realm st.inv.toVault) st.inv.toVault bag slot item.itemid item.count).result = .ok then
        st.store W entry item
          (L.placeNewItem (W.realm st.inv.toVault) st.inv.toVault bag slot item.itemid item.count).dest
      else st := by
  unfold storeSlot
  rw [hnull, if_neg Bool.false_ne_true, hat]

/-- **The loop.** Where every slot holds an item, no null pointer is dereferenced, each item is stored once at
most, and all of it where no search plans units before it succeeds. -/
theorem foldl_storeSlot (bag slot : Byte) {st : Storing} {l : List Nat} (hnull : st.null = false)
    (hat : ∀ i ∈ l, ∃ entry item, itemInSlot loot player i = some (entry, item) ∧ item.count < 2 ^ 8) :
    (l.foldl (storeSlot W L player bag slot loot) st).null = false ∧ ∃ new,
      (l.foldl (storeSlot W L player bag slot loot) st).stored = st.stored ++ new ∧
      (new.map (·.entry)).Sublist (l.filterMap (entryInSlot loot player)) ∧
      ((∀ s ∈ new, s.amount = s.count) ↔ AllSteps (storeSlot W L player bag slot loot)
        (fun st i => ∀ entry item, itemInSlot loot player i = some (entry, item) →
          L.PlannedOnce (W.realm st.inv.toVault) st.inv.toVault bag slot item.itemid item.count) st l) := by
  induction l generalizing st with
  | nil => exact ⟨hnull, [], (append_nil _).symm, .slnil, iff_of_true nofun trivial⟩
  | cons i l ih =>
    obtain ⟨entry, item, hi, hcount⟩ := hat i mem_cons_self
    have hrest := fun j hj => hat j (mem_cons_of_mem i hj)
    have hentry : entryInSlot loot player i = some entry := by
      unfold entryInSlot
      rw [hi]
      rfl
    have hown : (∀ entry item, itemInSlot loot player i = some (entry, item) →
        L.PlannedOnce (W.realm st.inv.toVault) st.inv.toVault bag slot item.itemid item.count) ↔
          ((L.placeNewItem (W.realm st.inv.toVault) st.inv.toVault bag slot item.itemid item.count).result = .ok →
            uint32 (((L.placeNewItem (W.realm st.inv.toVault) st.inv.toVault bag slot item.itemid
              item.count).dest.map Prod.snd).sum : Nat) = item.count) := by
      rw [Limits.delivers_iff hcount]
      refine ⟨fun h => h entry item hi, fun h entry' item' hi' => ?_⟩
      obtain ⟨rfl, rfl⟩ := Prod.mk.inj (some.inj (hi.symm.trans hi'))
      exact h
    have hturn : storeSlot W L player bag slot loot st i = _ := storeSlot_of_item hnull hi
    unfold AllSteps
    rw [foldl_cons, filterMap_cons_some hentry, hown]
    by_cases hres : (L.placeNewItem (W.realm st.inv.toVault) st.inv.toVault bag slot item.itemid
        item.count).result = .ok
    · rw [if_pos hres] at hturn
      rw [hturn]
      obtain ⟨hnull', new, hstored, hentries, hwhole⟩ := @ih (st.store W entry item _) hnull hrest
      refine ⟨hnull', _ :: new, hstored.trans (append_assoc _ _ _), .cons_cons _ hentries, ?_⟩
      rw [forall_mem_cons, hwhole, forall_prop_of_true hres]
    · rw [if_neg hres] at hturn
      rw [hturn]
      obtain ⟨hnull', new, hstored, hentries, hwhole⟩ := ih hnull hrest
      refine ⟨hnull', new, hstored, hentries.cons _, ?_⟩
      rw [hwhole]
      exact (and_iff_right fun h => absurd h hres).symm

theorem planned_anywhere (st : Storing) : AllSteps (storeSlot W L player nullBag nullSlot loot)
    (fun st i => ∀ entry item, itemInSlot loot player i = some (entry, item) →
      L.PlannedOnce (W.realm st.inv.toVault) st.inv.toVault nullBag nullSlot item.itemid item.count) st l := by
  induction l generalizing st with
  | nil => trivial
  | cons i l ih => exact ⟨fun _ _ _ => Limits.plannedOnce_anywhere, ih _⟩

end Slots

/-! ## The whole function -/

variable {W : Rules} {L : Limits} {env : Env} {player : Guid} {bag slot : Byte} {drops : List LootStoreItem}
  {inv : Inventory}

theorem shape_fillLoot (W : Rules) (L : Limits) (inv : Inventory) :
    SameShape (filled env player drops) (fillLoot W L env player drops inv).1 := by
  exact shape_foldl_storeCurrency _ (filled env player drops, { inv })

theorem null_of_empty (bag slot : Byte) (hi : i < (filled env player drops).getMaxSlotInLootFor player)
    (hempty : itemInSlot (fillLoot W L env player drops inv).1 player i = none) :
    (autoStoreLoot W L env player bag slot drops inv).null = true := by
  refine null_foldl_of_empty hempty (mem_range.2 ?_)
  rw [(shape_fillLoot W L inv).getMaxSlotInLootFor]
  exact hi

theorem autoStoreLoot_of_full (bag slot : Byte) (hcount : ∀ drop ∈ drops, drop.count < 2 ^ 8)
    (hffa : ∀ item ∈ (filled env player drops).items, item.freeforall = true →
      ∃ item ∈ (filled env player drops).items, item.freeforall = true ∧ item.allowedForPlayer env player = true)
    (hfull : ∀ i < (filled env player drops).getMaxSlotInLootFor player,
      ¬ Storable W L env player (filled env player drops) inv i) :
    (autoStoreLoot W L env player bag slot drops inv).null = false ∧
    (∀ entry, (autoStoreLoot W L env player bag slot drops inv).stored.countP (·.entry = entry) ≤ 1) ∧
    ((∀ s ∈ (autoStoreLoot W L env player bag slot drops inv).stored, s.amount = s.count) ↔
      AllSteps (storeSlot W L player bag slot (filled env player drops))
        (fun st i => ∀ entry item, itemInSlot (filled env player drops) player i = some (entry, item) →
          L.PlannedOnce (W.realm st.inv.toVault) st.inv.toVault bag slot item.itemid item.count)
        { inv } (range ((filled env player drops).getMaxSlotInLootFor player))) := by
  have hu : Untouched env player (filled env player drops) := untouched_filled hcount
  have hsame : fillLoot W L env player drops inv = (filled env player drops, { inv }) := by
    rcases foldl_storeCurrency_cases (W := W) (L := L) (s := (filled env player drops, { inv })) hu
      (range ((filled env player drops).getMaxSlotInLootFor player)) with ⟨-, heq⟩ | ⟨i, hi, hstorable, -⟩
    · exact heq
    · exact absurd hstorable (hfull i (mem_range.1 hi))
  have hrun : autoStoreLoot W L env player bag slot drops inv =
      (range ((filled env player drops).getMaxSlotInLootFor player)).foldl
        (storeSlot W L player bag slot (filled env player drops)) { inv } := by
    unfold autoStoreLoot
    rw [hsame]
  obtain ⟨hnull, new, hstored, hentries, hwhole⟩ := @foldl_storeSlot W L player _ bag slot { inv } _ rfl fun i hi => item_of_slot hu (fun item hitem hf => hu.contains.2 (hffa item hitem hf))
      (mem_range.1 hi)
  rw [hrun, hstored]
  refine ⟨hnull, fun entry => ?_, hwhole⟩
  have hnodup := nodup_iff_count_le_one.1 (hentries.nodup (nodup_entries hu _)) entry
  unfold count at hnodup
  rw [countP_map] at hnodup
  exact hnodup

/-- **Where everything is handled.** `AutoStoreLoot` stores a loot without a null pointer, each item once and
all of it, if and only if every slot of the filled loot holds an item for the player, no currency token of it is
stored before the loop, and no search plans units before a later one succeeds. -/
theorem handled_iff (hcount : ∀ drop ∈ drops, drop.count < 2 ^ 8) :
    Handled W L env player bag slot drops inv ↔ Smooth W L env player bag slot drops inv := by
  have hu : Untouched env player (filled env player drops) := untouched_filled hcount
  constructor
  · intro h
    have hslots : ∀ i < (filled env player drops).getMaxSlotInLootFor player,
        itemInSlot (fillLoot W L env player drops inv).1 player i ≠ none := by
      intro i hi hempty
      have hnull := null_of_empty bag slot hi hempty
      rw [h.dereferences] at hnull
      cases hnull
    have hffa : ∀ item ∈ (filled env player drops).items, item.freeforall = true →
        ∃ item ∈ (filled env player drops).items, item.freeforall = true ∧
          item.allowedForPlayer env player = true := by
      intro item hitem hf
      rw [← hu.contains]
      by_contra hlist
      obtain ⟨i, hi⟩ := mem_iff_getElem?.1 hitem
      obtain ⟨item', hitem', hkind⟩ := getElem?_of_kinds (shape_fillLoot W L inv).items hi
      refine hslots i ?_ (itemInSlot_unlisted hitem' ((congrArg Prod.fst hkind).trans hf) ?_)
      · exact Nat.lt_add_right _ (List.getElem?_eq_some_iff.1 hi).1
      · rw [(shape_fillLoot W L inv).ffa.contains]
        exact Bool.eq_false_iff.2 hlist
    have hfull : ∀ i < (filled env player drops).getMaxSlotInLootFor player,
        ¬ Storable W L env player (filled env player drops) inv i := by
      rcases foldl_storeCurrency_cases (W := W) (L := L) (s := (filled env player drops, { inv })) hu
        (range ((filled env player drops).getMaxSlotInLootFor player)) with ⟨hfull, -⟩ | ⟨i, hi, -, hgone⟩
      · exact fun i hi => hfull i (mem_range.2 hi)
      · exact absurd hgone.itemInSlot (hslots i (mem_range.1 hi))
    exact ⟨hffa, hfull, (autoStoreLoot_of_full bag slot hcount hffa hfull).2.2.1 h.whole⟩
  · intro h
    obtain ⟨hnull, honce, hwhole⟩ := autoStoreLoot_of_full bag slot hcount h.ffa h.full
    exact ⟨hnull, honce, hwhole.2 h.planned⟩

/-! ## Tokens for one player -/

def tokenEnv : Env where
  partyLoot item := item = 20
  currencyToken item := item = 20
  allowedForPlayer _ _ conditions _ := conditions = []

def bagRules : Rules :=
  { coinRules with
    template := fun item =>
      if item = 2 then { itemClass := 1, isBag := true, containerSlots := 1 } else { stackable := 20 } }

def nearlyFull : Inventory :=
  { Inventory.empty 100 with
    slots := fun q =>
      if q.isBank = true then none
      else if q.container = bag0 then
        if q.slot.val = 19 ∨ q.slot.val = 20 then some ⟨q.slot.val, 2, 1⟩
        else if 23 ≤ q.slot.val ∧ q.slot.val < 39 then some ⟨q.slot.val, 1, 20⟩
        else none
      else if q.container = 19 ∧ q.slot = 0 then some ⟨0, 3, 15⟩
      else none }

/-- The filling stores a token before the loop; the player may not take a token; of ten units, five are planned
for the slot that is asked for, and ten for the other bag. -/
theorem not_handled :
    ¬ Handled bagRules {} tokenEnv 1 nullBag nullSlot [{ itemid := 20 }] (.empty 4) ∧
    ¬ Handled bagRules {} tokenEnv 1 nullBag nullSlot [{ itemid := 20, conditions := [7] }] (.empty 4) ∧
    ¬ Handled bagRules {} tokenEnv 1 19 0 [{ itemid := 3, count := 10 }] nearlyFull :=
  ⟨fun h => absurd h.dereferences (by decide +kernel), fun h => absurd h.dereferences (by decide +kernel),
    fun h => absurd h.whole (by decide +kernel)⟩

/-- A plain item, one that is free for all and no token, and one with a condition. -/
def mixedDrops : List LootStoreItem :=
  [{ itemid := 3, count := 10 }, { itemid := 20 }, { itemid := 5, count := 2, conditions := [7] }]

theorem handled_mixed :
    Handled bagRules {} { tokenEnv with currencyToken := fun _ => false } 1 nullBag nullSlot mixedDrops (.empty 4) := by
  refine (handled_iff (by decide)).2 ⟨by decide +kernel, fun i hi h => ?_, planned_anywhere _ _⟩
  have hnone : ∀ i < (filled { tokenEnv with currencyToken := fun _ => false } 1 mixedDrops).getMaxSlotInLootFor 1,
      isCurrency { tokenEnv with currencyToken := fun _ => false } 1
        (filled { tokenEnv with currencyToken := fun _ => false } 1 mixedDrops) i = false := by decide +kernel
  exact Bool.false_ne_true ((hnone i hi).symm.trans h.1)

end Axium.Player
