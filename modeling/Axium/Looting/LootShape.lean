import Axium.Looting.Filling

/-!
# The shape of a loot

After `FillLoot` a loot changes in many places: players take items, rolls block and unblock them, the master
looter gives them, the owner in round robin releases the rest. None of this changes which items there are, of
which kind they are, and what the lists of the players register (`SameShape`); only `FillNotNormalLootFor` adds
lists, for a player who has none.

So the lists of every loot name items of their kind, each once, and the items of a player have room in the
sixteen slots of his window (`Registered`).
-/

namespace Axium.Looting

open Run List Option

namespace Loot

def indices (ql : List QuestItem) : List Nat := ql.map (·.index)

def kind (item : LootItem) : Bool × List Nat := (item.freeforall, item.conditions)

/-! ## Changes that keep the shape -/

def SameLists (m m' : OrdMap Guid (List QuestItem)) : Prop :=
  ∀ p, (m'.find? p).map indices = (m.find? p).map indices

/-- The loot has the same items and lists, up to what is marked. -/
structure SameShape (loot loot' : Loot) : Prop where
  items : loot'.items.map kind = loot.items.map kind
  questItems : loot'.questItems.length = loot.questItems.length
  ffa : SameLists loot.playerFFAItems loot'.playerFFAItems
  cond : SameLists loot.playerNonQuestNonFFAConditionalItems loot'.playerNonQuestNonFFAConditionalItems
  quest : SameLists loot.playerQuestItems loot'.playerQuestItems

variable {env : Env} {loot loot' loot'' : Loot} {m : OrdMap Guid (List QuestItem)} {player : Guid}

theorem SameLists.refl (m : OrdMap Guid (List QuestItem)) : SameLists m m := fun _ => rfl

theorem SameLists.modify {f : List QuestItem → List QuestItem} (h : ∀ ql, indices (f ql) = indices ql)
    (m : OrdMap Guid (List QuestItem)) (player : Guid) : SameLists m (m.modify player f) := by
  intro p
  rw [OrdMap.find?_modify]
  by_cases hp : player = p
  · rw [if_pos hp, Option.map_map]
    exact congrArg ((m.find? p).map ·) (funext h)
  · rw [if_neg hp]

theorem SameShape.refl (loot : Loot) : SameShape loot loot where
  items := rfl
  questItems := rfl
  ffa := .refl _
  cond := .refl _
  quest := .refl _

theorem SameShape.trans (h : SameShape loot loot') (h' : SameShape loot' loot'') : SameShape loot loot'' where
  items := h'.items.trans h.items
  questItems := h'.questItems.trans h.questItems
  ffa p := (h'.ffa p).trans (h.ffa p)
  cond p := (h'.cond p).trans (h.cond p)
  quest p := (h'.quest p).trans (h.quest p)

theorem SameShape.length_items (h : SameShape loot loot') : loot'.items.length = loot.items.length := by
  rw [← length_map kind, h.items, length_map]

theorem map_kind_modify {f : LootItem → LootItem} (hf : ∀ item, kind (f item) = kind item)
    (items : List LootItem) (i : Nat) : (items.modify i f).map kind = items.map kind := by
  refine ext_getElem? fun j => ?_
  rw [getElem?_map, getElem?_map, getElem?_modify]
  by_cases hj : i = j
  · cases items[j]? with
    | none => rfl
    | some item => simp [hj, hf]
  · simp [hj]

theorem SameShape.modifyEntry {f : LootItem → LootItem} (hf : ∀ item, kind (f item) = kind item)
    (loot : Loot) (e : Entry) : SameShape loot (loot.modifyEntry f e) := by
  cases e with
  | item i => exact { SameShape.refl loot with items := map_kind_modify hf loot.items i }
  | quest i => exact { SameShape.refl loot with questItems := length_modify f loot.questItems i }

theorem SameShape.setItem (f : LootItem → LootItem) (hf : ∀ item, kind (f item) = kind item)
    (loot : Loot) (i count : Nat) :
    SameShape loot { loot with items := loot.items.modify i f, unlootedCount := count } :=
  { SameShape.refl loot with items := map_kind_modify hf loot.items i }

theorem SameShape.markOwn (loot : Loot) (player : Guid) (slot : Slot) :
    SameShape loot (loot.markOwn player slot) := by
  have hmark : ∀ i ql, indices (markLooted i ql) = indices ql := map_index_markLooted
  unfold Loot.markOwn
  cases slot.qitem with
  | some j =>
    exact { SameShape.refl loot with
      quest := .modify (f := markAt j) (map_index_markAt j) loot.playerQuestItems player }
  | none =>
    cases slot.entry with
    | quest k => exact .refl loot
    | item i =>
      dsimp only
      cases slot.ffaitem with
      | true => exact { SameShape.refl loot with ffa := .modify (hmark i) loot.playerFFAItems player }
      | false =>
        cases slot.conditem with
        | true =>
          exact { SameShape.refl loot with
            cond := .modify (hmark i) loot.playerNonQuestNonFFAConditionalItems player }
        | false => exact .refl loot

theorem SameShape.markStored (loot : Loot) (player : Guid) (slot : Slot) (ffa : Bool) :
    SameShape loot (loot.markStored player slot ffa) := by
  have hown := SameShape.markOwn loot player slot
  cases ffa with
  | true => exact { hown with }
  | false =>
    have hitem := SameShape.modifyEntry (f := fun item => { item with isLooted := true }) (fun _ => rfl)
      (loot.markOwn player slot) slot.entry
    exact { hown.trans hitem with }

theorem SameShape.storeLootItem (loot : Loot) (lootSlot : Nat) (player : Guid) (canStore : Bool) :
    SameShape loot (loot.storeLootItem lootSlot player canStore).1 := by
  rcases storeLootItem_cases loot lootSlot player canStore with heq | ⟨slot, item, -, -, -, heq⟩
  · rw [heq]
    exact .refl loot
  · rw [heq]
    exact .markStored loot player slot item.freeforall

theorem SameShape.countTheRoll (loot : Loot) (roll : Roll) (draw : Draw) :
    SameShape loot (loot.countTheRoll roll draw).1 := by
  rcases countTheRoll_cases loot roll draw with heq | heq | ⟨item, winner, -, -, heq | heq⟩
  · rw [heq]
    exact .refl loot
  · rw [heq]
    exact .setItem (fun item => { item with isBlocked := false }) (fun _ => rfl) loot roll.itemSlot _
  · rw [heq]
    exact .setItem (fun item => { item with isLooted := true }) (fun _ => rfl) loot roll.itemSlot _
  · rw [heq]
    exact .setItem (fun item => { item with isLooted := true }) (fun _ => rfl) loot roll.itemSlot _

theorem SameShape.masterGive {slotid : Nat} {target : Guid} {canStore : Bool} {r : Loot × Option Delivery}
    (h : loot.masterGive slotid target canStore = some r) : SameShape loot r.1 := by
  unfold Loot.masterGive at h
  split at h
  · cases h
    exact .refl loot
  · cases hitem : loot.items[slotid]? with
    | none =>
      rw [hitem] at h
      cases h
    | some item =>
      rw [hitem] at h
      dsimp only at h
      split at h
      · cases h
        exact .setItem (fun item => { item with count := 0, isLooted := true }) (fun _ => rfl) loot slotid _
      · cases h
        exact .refl loot

theorem SameShape.storeCurrency (player : Guid) (canStore : Nat → Bool) (is : List Nat) (loot : Loot)
    (out : List Delivery) : SameShape loot (storeCurrency env player canStore is loot out).1 := by
  induction is generalizing loot out with
  | nil => exact .refl loot
  | cons i is ih =>
    unfold Loot.storeCurrency
    extract_lets item
    split
    · exact (SameShape.storeLootItem loot i player (canStore i)).trans (ih _ _)
    · exact ih loot out

/-! ## The lists and the window -/

def Names (p : LootItem → Prop) (items : List LootItem) (m : OrdMap Guid (List QuestItem)) : Prop :=
  ∀ player ql, m.find? player = some ql →
    (indices ql).Nodup ∧ ∀ i ∈ indices ql, ∃ item, items[i]? = some item ∧ p item

def FreeForAll (item : LootItem) : Prop := item.freeforall = true

def Conditional (item : LootItem) : Prop := item.freeforall = false ∧ item.conditions ≠ []

/-- The lists name items of their kind, each once, and the window of a player has room for his items. -/
structure Registered (loot : Loot) : Prop where
  items : loot.items.length ≤ maxNrLootItems
  ffa : Names FreeForAll loot.items loot.playerFFAItems
  cond : Names Conditional loot.items loot.playerNonQuestNonFFAConditionalItems
  quest : ∀ player ql, loot.playerQuestItems.find? player = some ql →
    loot.items.length + ql.length ≤ maxNrLootItems ∧ ∀ i ∈ indices ql, i < loot.questItems.length

variable {m' : OrdMap Guid (List QuestItem)}

theorem SameLists.find? (h : SameLists m m') {ql' : List QuestItem}
    (hql : m'.find? player = some ql') : ∃ ql, m.find? player = some ql ∧ indices ql' = indices ql := by
  have hsame := h player
  rw [hql] at hsame
  obtain ⟨ql, hfind, heq⟩ := map_eq_some_iff.1 hsame.symm
  exact ⟨ql, hfind, heq.symm⟩

theorem SameLists.contains (h : SameLists m m') (player : Guid) : m'.contains player = m.contains player := by
  unfold OrdMap.contains
  rw [← isSome_map (f := indices), h player, isSome_map]

theorem SameShape.getMaxSlotInLootFor (h : SameShape loot loot') (player : Guid) :
    loot'.getMaxSlotInLootFor player = loot.getMaxSlotInLootFor player := by
  have hlength : ∀ m : OrdMap Guid (List QuestItem),
      ((m.find? player).getD []).length = (((m.find? player).map indices).getD []).length := by
    intro m
    cases m.find? player with
    | none => rfl
    | some ql => exact length_map QuestItem.index |>.symm
  unfold Loot.getMaxSlotInLootFor
  rw [h.length_items, hlength, hlength, h.quest player]

theorem getElem?_of_kinds {items items' : List LootItem} (h : items'.map kind = items.map kind) {i : Nat}
    {item : LootItem} (hitem : items[i]? = some item) :
    ∃ item', items'[i]? = some item' ∧ kind item' = kind item := by
  have hread : items'[i]?.map kind = some (kind item) := by
    rw [← getElem?_map, h, getElem?_map, hitem, map_some]
  exact map_eq_some_iff.1 hread

theorem Names.of_same {p : LootItem → Prop} (hp : ∀ item item', kind item = kind item' → p item → p item')
    {items items' : List LootItem} (hitems : items'.map kind = items.map kind)
    (hlists : SameLists m m') (h : Names p items m) : Names p items' m' := by
  intro player ql' hql'
  obtain ⟨ql, hql, hsame⟩ := hlists.find? hql'
  obtain ⟨hnodup, hnames⟩ := h player ql hql
  rw [hsame]
  refine ⟨hnodup, fun i hi => ?_⟩
  obtain ⟨item, hitem, hkind⟩ := hnames i hi
  obtain ⟨item', hitem', heq⟩ := getElem?_of_kinds hitems hitem
  exact ⟨item', hitem', hp item item' heq.symm hkind⟩

theorem freeForAll_of_kind {item item' : LootItem} (h : kind item = kind item') (hf : FreeForAll item) :
    FreeForAll item' :=
  (congrArg Prod.fst h).symm.trans hf

theorem conditional_of_kind {item item' : LootItem} (h : kind item = kind item') (hc : Conditional item) :
    Conditional item' :=
  ⟨(congrArg Prod.fst h).symm.trans hc.1, fun hnone => hc.2 ((congrArg Prod.snd h).trans hnone)⟩

theorem Registered.of_sameShape (hr : loot.Registered) (h : SameShape loot loot') : loot'.Registered := by
  have hlength := h.length_items
  refine ⟨hlength ▸ hr.items, hr.ffa.of_same (fun _ _ => freeForAll_of_kind) h.items h.ffa,
    hr.cond.of_same (fun _ _ => conditional_of_kind) h.items h.cond, fun player ql' hql' => ?_⟩
  obtain ⟨ql, hql, hsame⟩ := h.quest.find? hql'
  obtain ⟨hroom, hvalid⟩ := hr.quest player ql hql
  have hcount : ql'.length = ql.length := by
    have hmap := congrArg List.length hsame
    unfold indices at hmap
    rwa [length_map, length_map] at hmap
  rw [hlength, hcount, hsame, h.questItems]
  exact ⟨hroom, hvalid⟩

/-! ## Filling -/

theorem Names.register {p : LootItem → Prop} {items : List LootItem} (h : Names p items m) {ql : List Nat}
    (hnodup : ql.Nodup) (hnames : ∀ i ∈ ql, ∃ item, items[i]? = some item ∧ p item) (player : Guid) :
    Names p items (register m player ql) := by
  intro player' ql' hql'
  rw [find?_register] at hql'
  split at hql'
  · cases hql'
    unfold indices
    rw [map_index_mk]
    exact ⟨hnodup, hnames⟩
  · exact h player' ql' hql'

theorem Registered.fillFFALoot (h : loot.Registered) (player : Guid) :
    (loot.fillFFALoot env player).Registered := by
  refine { h with ffa := h.ffa.register (nodup_positions _ _) (fun i hi => ?_) player }
  obtain ⟨item, hitem, hseen⟩ := mem_positions.1 hi
  rw [Bool.and_eq_true, Bool.and_eq_true] at hseen
  exact ⟨item, hitem, hseen.1.2⟩

theorem Registered.fillQuestLoot (h : loot.Registered) (player : Guid) :
    (loot.fillQuestLoot env player).Registered := by
  have hlength : (loot.fillQuestLoot env player).questItems.length = loot.questItems.length := length_mapIdx
  refine ⟨h.items, h.ffa, h.cond, fun player' ql hql => ?_⟩
  rw [hlength]
  rw [find?_fillQuestLoot] at hql
  split at hql
  · cases hql
    unfold indices
    rw [map_index_mk, length_map]
    refine ⟨?_, fun i hi => ?_⟩
    · have htake : (loot.questWindow env player).length ≤ maxNrLootItems - loot.items.length :=
        length_take_le _ _
      have hroom := h.items
      change loot.items.length + _ ≤ _
      omega
    · obtain ⟨item, hitem, -⟩ := mem_questWindow hi
      exact (List.getElem?_eq_some_iff.1 hitem).1
  · exact h.quest player' ql hql

theorem Registered.fillConditional (h : loot.Registered) (player : Guid) (present : Bool) :
    (loot.fillNonQuestNonFFAConditionalLoot env player present).Registered := by
  -- the lists are registered for the items as they were, then the items are marked
  have hlists : Registered { loot with
      playerNonQuestNonFFAConditionalItems :=
        register loot.playerNonQuestNonFFAConditionalItems player (loot.condWindow env player) } := by
    refine { h with cond := h.cond.register (nodup_positions _ _) (fun i hi => ?_) player }
    obtain ⟨item, hitem, -⟩ := mem_positions.1 hi
    have hseen := (mem_condWindow hitem).1 hi
    exact ⟨item, hitem, hseen.2.1, hseen.2.2.2⟩
  refine hlists.of_sameShape { SameShape.refl _ with items := ?_ }
  refine ext_getElem? fun i => ?_
  rw [getElem?_map, getElem?_fillConditional, getElem?_map, Option.map_map]
  exact congrArg (loot.items[i]?.map ·) (funext fun item =>
    Prod.ext (seen_kind env player present item).1 (seen_kind env player present item).2.1)

theorem Registered.fillFor (h : loot.Registered) (r : Recipient) : (fillFor env loot r).Registered := by
  have hlists : (loot.fillLists env r.player r.presentAtLooting).Registered := by
    unfold fillLists
    have hquest : Registered (if loot.playerQuestItems.contains r.player then loot
        else loot.fillQuestLoot env r.player) := by
      split
      · exact h
      · exact h.fillQuestLoot r.player
    extract_lets loot₁ loot₂
    have hffa : loot₂.Registered := by
      dsimp only [loot₂]
      split
      · exact hquest
      · exact hquest.fillFFALoot r.player
    split
    · exact hffa
    · exact hffa.fillConditional r.player r.presentAtLooting
  unfold Loot.fillFor fillNotNormalLootFor
  split
  · exact hlists.of_sameShape (.storeCurrency r.player r.canStore _ _ [])
  · exact hlists

/-! ## The life of a loot -/

inductive Change (env : Env) (loot : Loot) : Loot → Prop where
  | fillNotNormalLootFor (r : Recipient) : Change env loot (fillFor env loot r)
  | storeLootItem (lootSlot : Nat) (player : Guid) (canStore : Bool) :
      Change env loot (loot.storeLootItem lootSlot player canStore).1
  | countTheRoll (roll : Roll) (draw : Draw) : Change env loot (loot.countTheRoll roll draw).1
  | masterGive {slotid : Nat} {target : Guid} {canStore : Bool} {r : Loot × Option Delivery}
      (h : loot.masterGive slotid target canStore = some r) : Change env loot r.1
  /-- A roll begins, or the master looter has the item. -/
  | block (i : Nat) :
      Change env loot { loot with items := loot.items.modify i fun item => { item with isBlocked := true } }
  | underthreshold (i : Nat) :
      Change env loot
        { loot with items := loot.items.modify i fun item => { item with isUnderthreshold := true } }
  | roundRobin (player : Guid) : Change env loot { loot with roundRobinPlayer := player }
  | gold (gold : Nat) : Change env loot { loot with gold }

/-- The loots that come about: `Process` adds items, and then everything may happen. -/
def Reachable (env : Env) (loot : Loot) : Prop :=
  ∃ (gold : Nat) (drops : List LootStoreItem),
    Relation.ReflTransGen (Change env) (drops.foldl (addItem env) { gold }) loot

theorem Registered.change (h : loot.Registered) (hc : Change env loot loot') : loot'.Registered := by
  cases hc with
  | fillNotNormalLootFor r => exact h.fillFor r
  | storeLootItem lootSlot player canStore =>
    exact h.of_sameShape (.storeLootItem loot lootSlot player canStore)
  | countTheRoll roll draw => exact h.of_sameShape (.countTheRoll loot roll draw)
  | masterGive hgive => exact h.of_sameShape (.masterGive hgive)
  | block i =>
    exact h.of_sameShape
      (.setItem (fun item => { item with isBlocked := true }) (fun _ => rfl) loot i loot.unlootedCount)
  | underthreshold i =>
    exact h.of_sameShape
      (.setItem (fun item => { item with isUnderthreshold := true }) (fun _ => rfl) loot i loot.unlootedCount)
  | roundRobin player => exact { h with }
  | gold gold => exact { h with }

theorem Reachable.registered (h : Reachable env loot) : loot.Registered := by
  obtain ⟨gold, drops, hrun⟩ := h
  induction hrun with
  | refl =>
    have hadded := added_foldl env gold drops
    refine ⟨hadded.length, fun player ql hql => ?_, fun player ql hql => ?_, fun player ql hql => ?_⟩
    · rw [hadded.ffa] at hql
      cases hql
    · rw [hadded.cond] at hql
      cases hql
    · rw [hadded.quest] at hql
      cases hql
  | tail _ hc ih => exact ih.change hc

theorem reachable_fillLoot (env : Env) (gold : Nat) (drops : List LootStoreItem)
    (recipients : List Recipient) : Reachable env (fillLoot env gold drops recipients) := by
  refine ⟨gold, drops, ?_⟩
  unfold fillLoot
  generalize drops.foldl (addItem env) { gold } = loot
  induction recipients generalizing loot with
  | nil => exact .refl
  | cons r recipients ih => exact .head (.fillNotNormalLootFor r) (ih _)

end Loot

end Axium.Looting
