import Axium.Looting.Loot

/-!
# One item, one receiver

A loot with the three ways out of it, in any order. What was handed out is recorded beside the loot.

An item for one player is marked by `is_looted`, but only the item without conditions is also refused by
that mark: an item registered for several players is looked up by the mark of the player, a roll and the
master looter look at no mark at all, and the master looter may name the slot behind the last one.
-/

namespace Axium.Looting

open Run List Option Loot

/-- A loot, who may give from it, and what was handed out so far. -/
structure World where
  loot : Loot
  /-- `m_looterGuid` of the group. -/
  looterGuid : Guid := 0
  deliveries : List Delivery := []
  /-- An item behind the end of `items` was accessed. -/
  outOfBounds : Bool := false

inductive Event where
  | storeLootItem (player : Guid) (lootSlot : Nat) (canStore : Bool)
  | countTheRoll (roll : Roll) (draw : Draw)
  | lootMasterGive (giver : Guid) (slotid : Nat) (target : Guid) (canStore : Bool)
  | lootMethod (looter : Guid)

namespace World

def record (w : World) (r : Loot × Option Delivery) : World :=
  { w with loot := r.1, deliveries := w.deliveries ++ r.2.toList }

def step (w : World) : Event → World
  | .storeLootItem player lootSlot canStore => w.record (w.loot.storeLootItem lootSlot player canStore)
  | .countTheRoll roll draw => w.record (w.loot.countTheRoll roll draw)
  | .lootMasterGive giver slotid target canStore =>
    if w.looterGuid = giver then
      match w.loot.masterGive slotid target canStore with
      | some r => w.record r
      | none => { w with outOfBounds := true }
    else w
  | .lootMethod looter => { w with looterGuid := looter }

/-- An entry for one player was handed out once at most, a free-for-all entry once to each player. -/
def OneReceiver (w : World) : Prop :=
  ∀ entry item, w.loot.itemOf? entry = some item →
    (item.freeforall = false → w.deliveries.countP (·.entry = entry) ≤ 1) ∧
    (item.freeforall = true → ∀ player,
      w.deliveries.countP (fun d => d.entry = entry ∧ d.receiver = player) ≤ 1)

def OutOfRange (w : World) : Event → Prop
  | .storeLootItem player lootSlot _ => w.loot.getMaxSlotInLootFor player ≤ lootSlot
  | .lootMasterGive _ slotid _ _ => w.loot.items.length ≤ slotid
  | _ => False

def Rejects (w : World) (e : Event) : Prop := w.OutOfRange e → w.step e = w

/-! ## The condition -/

structure StoresUnclaimed (loot : Loot) (player : Guid) (lootSlot : Nat) : Prop where
  ffa : ∀ item, loot.items[lootSlot]? = some item → item.freeforall = true → item.count ≠ 0 →
    item.isLooted = false → loot.playerFFAItems.contains player = true →
      registered loot.playerFFAItems player lootSlot ≠ none
  cond : ∀ item q, loot.items[lootSlot]? = some item → item.freeforall = false → item.count ≠ 0 →
    registered loot.playerNonQuestNonFFAConditionalItems player lootSlot = some q →
      q.isLooted = false → item.isLooted = false
  quest : ∀ ql q item, loot.playerQuestItems.find? player = some ql →
    ql[lootSlot - loot.items.length]? = some q → loot.items.length ≤ lootSlot →
      loot.questItems[q.index]? = some item → item.freeforall = false → q.isLooted = false →
        item.isLooted = false

/-- The item of a slot is not looted yet or is used up, and a free-for-all item was not taken by the target
himself. -/
def GivesUnclaimed (loot : Loot) (slotid : Nat) (target : Guid) : Prop :=
  ∀ item, loot.items[slotid]? = some item → item.count = 0 ∨
    if item.freeforall then ∀ q, registered loot.playerFFAItems target slotid = some q → q.isLooted = false
    else item.isLooted = false

/-- No step hands out what is marked as looted, and the master looter does not name the slot behind the
last one. -/
def Unclaimed (w : World) : Event → Prop
  | .storeLootItem player lootSlot _ => StoresUnclaimed w.loot player lootSlot
  | .countTheRoll roll _ => ∀ item, w.loot.items[roll.itemSlot]? = some item →
    item.freeforall = false ∧ (item.isLooted = false ∨ roll.totalNeed = 0 ∧ roll.totalGreed = 0)
  | .lootMasterGive giver slotid target _ => w.looterGuid = giver →
    slotid ≠ w.loot.items.length ∧ GivesUnclaimed w.loot slotid target
  | .lootMethod _ => True

end World

/-! ## Marks are kept -/

/-- What a free-for-all entry handed to a player leaves behind: his mark, or an item that is used up. -/
def FFAMarked (loot : Loot) (d : Delivery) : Prop :=
  match d.entry with
  | .item i => (∃ q, registered loot.playerFFAItems d.receiver i = some q ∧ q.isLooted = true) ∨
    ∃ item, loot.items[i]? = some item ∧ item.count = 0
  | .quest k => ∃ ql q, loot.playerQuestItems.find? d.receiver = some ql ∧ q ∈ ql ∧ q.index = k ∧
    q.isLooted = true

/-- From `loot` to `loot'` marks are only added. -/
structure Keeps (loot loot' : Loot) : Prop where
  entry : ∀ e item', loot'.itemOf? e = some item' → ∃ item, loot.itemOf? e = some item ∧
    item'.freeforall = item.freeforall ∧ (item.isLooted = true → item'.isLooted = true) ∧
    (item.count = 0 → item'.count = 0)
  entry_some : ∀ e item, loot.itemOf? e = some item → (loot'.itemOf? e).isSome
  ffa : ∀ p i q, registered loot.playerFFAItems p i = some q → q.isLooted = true →
    ∃ q', registered loot'.playerFFAItems p i = some q' ∧ q'.isLooted = true
  quest : ∀ p ql, loot.playerQuestItems.find? p = some ql →
    ∃ ql', loot'.playerQuestItems.find? p = some ql' ∧ ql'.map (·.index) = ql.map (·.index) ∧
      ∀ q ∈ ql, q.isLooted = true → q ∈ ql'
  quest_back : ∀ p ql', loot'.playerQuestItems.find? p = some ql' →
    ∃ ql, loot.playerQuestItems.find? p = some ql

namespace Keeps

variable {loot loot' loot'' : Loot}

theorem refl (loot : Loot) : Keeps loot loot where
  entry _ item' h := ⟨item', h, rfl, id, id⟩
  entry_some _ _ h := by rw [h]; rfl
  ffa _ _ q h hq := ⟨q, h, hq⟩
  quest _ ql h := ⟨ql, h, rfl, fun _ hq _ => hq⟩
  quest_back _ ql' h := ⟨ql', h⟩

theorem trans (h : Keeps loot loot') (h' : Keeps loot' loot'') : Keeps loot loot'' where
  entry e item'' he := by
    obtain ⟨item', he', hffa', hl', hc'⟩ := h'.entry e item'' he
    obtain ⟨item, he₀, hffa, hl, hc⟩ := h.entry e item' he'
    exact ⟨item, he₀, hffa'.trans hffa, fun hi => hl' (hl hi), fun hi => hc' (hc hi)⟩
  entry_some e item he := by
    obtain ⟨item', he'⟩ := isSome_iff_exists.1 (h.entry_some e item he)
    exact h'.entry_some e item' he'
  ffa p i q hq hl := by
    obtain ⟨q', hq', hl'⟩ := h.ffa p i q hq hl
    exact h'.ffa p i q' hq' hl'
  quest p ql hp := by
    obtain ⟨ql', hp', hidx, hmem⟩ := h.quest p ql hp
    obtain ⟨ql'', hp'', hidx', hmem'⟩ := h'.quest p ql' hp'
    exact ⟨ql'', hp'', hidx'.trans hidx, fun q hq hl => hmem' q (hmem q hq hl) hl⟩
  quest_back p ql'' hp := by
    obtain ⟨ql', hp'⟩ := h'.quest_back p ql'' hp
    exact h.quest_back p ql' hp'

theorem ffaMarked (h : Keeps loot loot') {d : Delivery} (hd : FFAMarked loot d) : FFAMarked loot' d := by
  unfold FFAMarked at hd ⊢
  cases he : d.entry with
  | item i =>
    rw [he] at hd
    rcases hd with ⟨q, hq, hl⟩ | ⟨item, hi, hc⟩
    · exact .inl (h.ffa _ _ q hq hl)
    · obtain ⟨item', hi'⟩ := isSome_iff_exists.1 (h.entry_some (.item i) item hi)
      obtain ⟨item₀, hi₀, -, -, hc'⟩ := h.entry (.item i) item' hi'
      have heq : item₀ = item := some.inj (hi₀.symm.trans hi)
      exact .inr ⟨item', hi', hc' (heq ▸ hc)⟩
  | quest k =>
    rw [he] at hd
    dsimp only at hd ⊢
    obtain ⟨ql, q, hp, hq, hk, hl⟩ := hd
    obtain ⟨ql', hp', -, hmem⟩ := h.quest _ ql hp
    exact ⟨ql', q, hp', hmem q hq hl, hk, hl⟩

theorem of_eq (hi : loot'.items = loot.items) (hq : loot'.questItems = loot.questItems)
    (hffa : loot'.playerFFAItems = loot.playerFFAItems)
    (hpq : loot'.playerQuestItems = loot.playerQuestItems) : Keeps loot loot' := by
  have hentry : ∀ e, loot'.itemOf? e = loot.itemOf? e := by
    intro e
    cases e with
    | item i => exact congrArg (·[i]?) hi
    | quest k => exact congrArg (·[k]?) hq
  refine ⟨fun e item' h => ⟨item', hentry e ▸ h, rfl, id, id⟩, fun e item h => ?_,
    fun p i q h hl => ⟨q, hffa ▸ h, hl⟩, fun p ql h => ⟨ql, hpq ▸ h, rfl, fun _ hq _ => hq⟩,
    fun p ql' h => ⟨ql', hpq ▸ h⟩⟩
  rw [hentry, h]
  rfl

theorem modifyEntry (loot : Loot) (e : Entry) {f : LootItem → LootItem}
    (hf : ∀ item, (f item).freeforall = item.freeforall ∧
      (item.isLooted = true → (f item).isLooted = true) ∧ (item.count = 0 → (f item).count = 0)) :
    Keeps loot (loot.modifyEntry f e) := by
  have hffa := loot.playerFFAItems_modifyEntry f e
  have hpq := loot.playerQuestItems_modifyEntry f e
  refine ⟨fun e' item' h => ?_, fun e' item h => ?_, fun p i q h hl => ⟨q, hffa ▸ h, hl⟩,
    fun p ql h => ⟨ql, hpq ▸ h, rfl, fun _ hq _ => hq⟩, fun p ql' h => ⟨ql', hpq ▸ h⟩⟩
  · rw [itemOf?_modifyEntry] at h
    by_cases he : e = e'
    · rw [if_pos he, map_eq_some_iff] at h
      obtain ⟨item, hi, rfl⟩ := h
      exact ⟨item, hi, hf item⟩
    · rw [if_neg he] at h
      exact ⟨item', h, rfl, id, id⟩
  · rw [itemOf?_modifyEntry, h]
    by_cases he : e = e'
    · rw [if_pos he]
      rfl
    · rw [if_neg he]
      rfl

end Keeps

theorem find?_markLooted (i j : Nat) (ql : List QuestItem) :
    (markLooted i ql).find? (·.index = j) =
      if i = j then (ql.find? (·.index = j)).map fun q => { q with isLooted := true }
      else ql.find? (·.index = j) := by
  induction ql with
  | nil => simp [markLooted]
  | cons q ql ih =>
    unfold markLooted
    by_cases hq : q.index = i
    · rw [if_pos hq]
      by_cases hij : i = j
      · simp [hq, hij]
      · simp [hq, hij]
    · rw [if_neg hq, find?_cons, ih]
      by_cases hj : q.index = j
      · have hij : i ≠ j := fun h => hq (hj.trans h.symm)
        simp [hj, hij]
      · simp [hj]

theorem registered_modify_markLooted (m : OrdMap Guid (List QuestItem)) (p p' : Guid) (i j : Nat) :
    registered (m.modify p (markLooted i)) p' j =
      if p = p' ∧ i = j then (registered m p' j).map fun q => { q with isLooted := true }
      else registered m p' j := by
  unfold registered
  rw [OrdMap.find?_modify]
  by_cases hp : p = p'
  · rw [if_pos hp]
    cases hm : m.find? p' with
    | none => simp
    | some ql =>
      simp only [map_some, bind_some, find?_markLooted]
      by_cases hij : i = j
      · rw [if_pos hij, if_pos ⟨hp, hij⟩]
      · rw [if_neg hij, if_neg fun h => hij h.2]
  · rw [if_neg hp, if_neg fun h => hp h.1]

namespace Keeps

variable (loot : Loot) (player : Guid)

theorem markFFA (i : Nat) : Keeps loot
    { loot with playerFFAItems := loot.playerFFAItems.modify player (markLooted i) } := by
  refine ⟨fun e item' h => ⟨item', ?_, rfl, id, id⟩, fun e item h => ?_, fun p j q h hl => ?_,
    fun p ql h => ⟨ql, h, rfl, fun _ hq _ => hq⟩, fun p ql' h => ⟨ql', h⟩⟩
  · cases e <;> exact h
  · rw [show itemOf? _ e = some item by cases e <;> exact h]
    rfl
  · dsimp only
    rw [registered_modify_markLooted, h]
    by_cases hpi : player = p ∧ i = j
    · rw [if_pos hpi]
      exact ⟨_, rfl, rfl⟩
    · rw [if_neg hpi]
      exact ⟨q, rfl, hl⟩

theorem markQuest (j : Nat) : Keeps loot
    { loot with
      playerQuestItems := loot.playerQuestItems.modify player
        (·.modify j fun q => { q with isLooted := true }) } := by
  refine ⟨fun e item' h => ⟨item', ?_, rfl, id, id⟩, fun e item h => ?_, fun p j q h hl => ⟨q, h, hl⟩,
    fun p ql h => ?_, fun p ql' h => ?_⟩
  · cases e <;> exact h
  · rw [show itemOf? _ e = some item by cases e <;> exact h]
    rfl
  · dsimp only
    rw [OrdMap.find?_modify, h]
    by_cases hp : player = p
    · rw [if_pos hp]
      refine ⟨_, rfl, ?_, fun q hq hl => ?_⟩
      · refine ext_getElem? fun n => ?_
        rw [getElem?_map, getElem?_map, getElem?_modify]
        cases ql[n]? with
        | none => rfl
        | some q => by_cases hn : j = n <;> simp [hn]
      · obtain ⟨n, hn⟩ := mem_iff_getElem?.1 hq
        refine mem_iff_getElem?.2 ⟨n, ?_⟩
        rw [getElem?_modify, hn]
        by_cases hjn : j = n
        · simp [hjn, ← hl]
        · simp [hjn]
    · rw [if_neg hp]
      exact ⟨ql, rfl, rfl, fun _ hq _ => hq⟩
  · dsimp only at h
    rw [OrdMap.find?_modify] at h
    by_cases hp : player = p
    · rw [if_pos hp, map_eq_some_iff] at h
      obtain ⟨ql, hql, -⟩ := h
      exact ⟨ql, hql⟩
    · rw [if_neg hp] at h
      exact ⟨ql', h⟩

theorem markOwn (slot : Loot.Slot) : Keeps loot (loot.markOwn player slot) := by
  unfold Loot.markOwn
  cases hq : slot.qitem with
  | some j => exact markQuest loot player j
  | none =>
    cases he : slot.entry with
    | quest k => exact .refl loot
    | item i =>
      dsimp only
      by_cases hffa : slot.ffaitem = true
      · rw [if_pos hffa]
        exact markFFA loot player i
      · rw [if_neg hffa]
        by_cases hcond : slot.conditem = true
        · rw [if_pos hcond]
          exact .of_eq rfl rfl rfl rfl
        · rw [if_neg hcond]
          exact .refl loot

theorem markStored (slot : Loot.Slot) (ffa : Bool) : Keeps loot (loot.markStored player slot ffa) := by
  refine (markOwn loot player slot).trans ?_
  cases ffa with
  | true => exact .of_eq rfl rfl rfl rfl
  | false =>
    exact (Keeps.modifyEntry _ slot.entry (f := fun item => { item with isLooted := true })
      fun item => ⟨rfl, fun _ => rfl, id⟩).trans (.of_eq rfl rfl rfl rfl)

end Keeps

/-! ## One step -/

namespace World

/-- What was delivered is marked, for all or for the one who got it. -/
structure Tracked (w : World) : Prop where
  single : w.OneReceiver
  marked : ∀ d ∈ w.deliveries, ∀ item, w.loot.itemOf? d.entry = some item →
    (item.freeforall = false → item.isLooted = true) ∧ (item.freeforall = true → FFAMarked w.loot d)
  nodup : ∀ p ql, w.loot.playerQuestItems.find? p = some ql → (ql.map (·.index)).Nodup

variable {w : World} {loot' : Loot}

theorem OneReceiver.of_keeps (h : w.OneReceiver) (hk : Keeps w.loot loot') :
    OneReceiver { w with loot := loot' } := by
  intro e item' he
  obtain ⟨item, hi, hffa, -, -⟩ := hk.entry e item' he
  rw [hffa]
  exact h e item hi

theorem Tracked.of_keeps (hw : w.Tracked) (hk : Keeps w.loot loot') :
    Tracked { w with loot := loot' } where
  single := hw.single.of_keeps hk
  marked d hd item' he := by
    obtain ⟨item, hi, hffa, hl, -⟩ := hk.entry d.entry item' he
    obtain ⟨h₁, h₂⟩ := hw.marked d hd item hi
    exact ⟨fun h => hl (h₁ (hffa ▸ h)), fun h => hk.ffaMarked (h₂ (hffa ▸ h))⟩
  nodup p ql' hp := by
    obtain ⟨ql, hql⟩ := hk.quest_back p ql' hp
    obtain ⟨ql'', hql'', hidx, -⟩ := hk.quest p ql hql
    have heq : ql'' = ql' := some.inj (hql''.symm.trans hp)
    rw [← heq, hidx]
    exact hw.nodup p ql hql

theorem Tracked.hand (hw : w.Tracked) (hk : Keeps w.loot loot') {d : Delivery}
    (hfresh : ∀ item, w.loot.itemOf? d.entry = some item →
      (item.freeforall = false → item.isLooted = false) ∧
      (item.freeforall = true → ¬ FFAMarked w.loot d))
    (hmark : ∀ item, loot'.itemOf? d.entry = some item →
      (item.freeforall = false → item.isLooted = true) ∧
      (item.freeforall = true → FFAMarked loot' d)) :
    Tracked { w with loot := loot', deliveries := w.deliveries ++ [d] } where
  single := by
    intro e item' he
    obtain ⟨item, hi, hffa, -, -⟩ := hk.entry e item' he
    obtain ⟨h₁, h₂⟩ := hw.single e item hi
    rw [hffa]
    constructor
    · intro hf
      rw [countP_append, countP_singleton]
      by_cases hd : d.entry = e
      · -- the entry is not looted, so it was not handed out before
        have hnone : w.deliveries.countP (·.entry = e) = 0 := by
          rw [countP_eq_zero]
          intro d' hd' hde
          have hde : d'.entry = e := of_decide_eq_true hde
          have hlooted := (hw.marked d' hd' item (hde ▸ hi)).1 hf
          rw [(hfresh item (hd ▸ hi)).1 hf] at hlooted
          cases hlooted
        split <;> omega
      · rw [if_neg (by simpa using hd)]
        exact h₁ hf
    · intro hf p
      rw [countP_append, countP_singleton]
      by_cases hd : d.entry = e ∧ d.receiver = p
      · have hnone : w.deliveries.countP (fun d => d.entry = e ∧ d.receiver = p) = 0 := by
          rw [countP_eq_zero]
          intro d' hd' hde
          obtain ⟨hde, hdp⟩ := of_decide_eq_true hde
          have hmarked := (hw.marked d' hd' item (hde ▸ hi)).2 hf
          have heq : d' = d := by
            cases d'
            cases d
            simp_all
          exact (hfresh item (hd.1 ▸ hi)).2 hf (heq ▸ hmarked)
        split <;> omega
      · rw [if_neg (by simpa using hd)]
        exact h₂ hf p
  marked d' hd' item' he := by
    rcases mem_append.1 hd' with hold | hnew
    · exact (hw.of_keeps hk).marked d' hold item' he
    · rw [mem_singleton.1 hnew] at he ⊢
      exact hmark item' he
  nodup := (hw.of_keeps hk).nodup

variable {item : LootItem}

theorem Tracked.handOut (hw : w.Tracked) (hk : Keeps w.loot loot') {e : Entry}
    {p : Guid} (hitem : w.loot.itemOf? e = some item)
    (hfresh : item.count ≠ 0 → (item.freeforall = false → item.isLooted = false) ∧
      (item.freeforall = true → ¬ FFAMarked w.loot ⟨e, p⟩))
    (hmark : ∀ item', loot'.itemOf? e = some item' → (item'.freeforall = false → item'.isLooted = true) ∧
      (item'.freeforall = true → FFAMarked loot' ⟨e, p⟩)) :
    (w.record (loot', Loot.handOut item e p)).Tracked := by
  unfold record Loot.handOut
  by_cases hc : item.count = 0
  · rw [if_pos hc]
    dsimp only [toList_none]
    rw [append_nil]
    exact hw.of_keeps hk
  · rw [if_neg hc]
    refine hw.hand hk (fun item' he => ?_) hmark
    have heq : item' = item := some.inj (he.symm.trans hitem)
    rw [heq]
    exact hfresh hc

theorem StoresUnclaimed.fresh {loot : Loot} {player : Guid} {lootSlot : Nat} {slot : Loot.Slot}
    (hclaim : StoresUnclaimed loot player lootSlot)
    (hnodup : ∀ p ql, loot.playerQuestItems.find? p = some ql → (ql.map (·.index)).Nodup)
    (hfound : loot.Found player lootSlot slot) (hitem : loot.itemOf? slot.entry = some item)
    (hcount : item.count ≠ 0) :
    (item.freeforall = false → item.isLooted = false) ∧
      (item.freeforall = true → ¬ FFAMarked loot ⟨slot.entry, player⟩) := by
  cases hfound with
  | @quest ql q hslot hql hq hfree =>
    refine ⟨fun hf => hclaim.quest ql q item hql hq hslot hitem hf hfree, ?_⟩
    rintro - ⟨ql', q', hql', hq', hidx, hl⟩
    have heq : ql' = ql := some.inj (hql'.symm.trans hql)
    subst heq
    have hqq : q' = q := inj_on_of_nodup_map (hnodup player ql' hql') hq' (mem_of_getElem? hq) hidx
    rw [hqq, hfree] at hl
    cases hl
  | @ffa item₀ q hitem₀ hffa hq hfree =>
    have heq : item₀ = item := some.inj (hitem₀.symm.trans hitem)
    subst heq
    refine ⟨fun hf => absurd (hf.symm.trans hffa) (by decide), ?_⟩
    rintro - (⟨q', hq', hl⟩ | ⟨item', hi', hc⟩)
    · have hqq : q' = q := some.inj (hq'.symm.trans hq)
      rw [hqq, hfree] at hl
      cases hl
    · have hii : item' = item₀ := some.inj (hi'.symm.trans hitem₀)
      exact hcount (hii ▸ hc)
  | @unregistered item₀ hitem₀ hffa hlist hq hfree =>
    have heq : item₀ = item := some.inj (hitem₀.symm.trans hitem)
    subst heq
    exact absurd hq (hclaim.ffa item₀ hitem₀ hffa hcount hfree hlist)
  | @cond item₀ q hitem₀ hffa hcond hq hfree =>
    have heq : item₀ = item := some.inj (hitem₀.symm.trans hitem)
    subst heq
    exact ⟨fun _ => hclaim.cond item₀ q hitem₀ hffa hcount hq hfree,
      fun hf => absurd (hf.symm.trans hffa) (by decide)⟩
  | @plain item₀ hitem₀ hffa hcond hfree =>
    have heq : item₀ = item := some.inj (hitem₀.symm.trans hitem)
    subst heq
    exact ⟨fun _ => hfree, fun hf => absurd (hf.symm.trans hffa) (by decide)⟩

theorem StoresUnclaimed.ffaMarked {loot : Loot} {player : Guid} {lootSlot : Nat} {slot : Loot.Slot}
    (hclaim : StoresUnclaimed loot player lootSlot)
    (hfound : loot.Found player lootSlot slot) (hitem : loot.itemOf? slot.entry = some item)
    (hf : item.freeforall = true) : FFAMarked (loot.markStored player slot true) ⟨slot.entry, player⟩ := by
  cases hfound with
  | @quest ql q hslot hql hq hfree =>
    refine ⟨ql.modify (lootSlot - loot.items.length) (fun q => { q with isLooted := true }),
      { q with isLooted := true }, ?_, ?_, rfl, rfl⟩
    · rw [playerQuestItems_markStored]
      change (loot.playerQuestItems.modify player _).find? player = _
      rw [OrdMap.find?_modify, if_pos rfl, hql]
      rfl
    · refine mem_iff_getElem?.2 ⟨lootSlot - loot.items.length, ?_⟩
      rw [getElem?_modify_eq, hq]
      rfl
  | @ffa item₀ q hitem₀ hffa hq hfree =>
    refine .inl ⟨{ q with isLooted := true }, ?_, rfl⟩
    change registered (loot.playerFFAItems.modify player (markLooted lootSlot)) player lootSlot = _
    rw [registered_modify_markLooted, if_pos ⟨rfl, rfl⟩, hq]
    rfl
  | @unregistered item₀ hitem₀ hffa hlist hq hfree =>
    refine .inr ⟨item₀, hitem₀, ?_⟩
    by_contra hcount
    exact hclaim.ffa item₀ hitem₀ hffa hcount hfree hlist hq
  | @cond item₀ q hitem₀ hffa hcond hq hfree =>
    have heq : item₀ = item := some.inj (hitem₀.symm.trans hitem)
    rw [← heq, hffa] at hf
    cases hf
  | @plain item₀ hitem₀ hffa hcond hfree =>
    have heq : item₀ = item := some.inj (hitem₀.symm.trans hitem)
    rw [← heq, hffa] at hf
    cases hf

theorem record_none (w : World) : w.record (w.loot, none) = w := by
  simp [record]

theorem Tracked.storeLootItem (hw : w.Tracked) {player : Guid} {lootSlot : Nat}
    (hclaim : StoresUnclaimed w.loot player lootSlot) (canStore : Bool) :
    (w.record (w.loot.storeLootItem lootSlot player canStore)).Tracked := by
  rcases storeLootItem_cases w.loot lootSlot player canStore with
    heq | ⟨slot, item, hfound, hitem, -, heq⟩
  · rw [heq, record_none]
    exact hw
  · rw [heq]
    refine hw.handOut (Keeps.markStored w.loot player slot item.freeforall) hitem
      (hclaim.fresh hw.nodup hfound hitem) fun item' he => ?_
    rw [itemOf?_markStored, hitem] at he
    cases hf : item.freeforall with
    | true =>
      rw [hf] at he
      cases he
      exact ⟨fun h => absurd (h.symm.trans hf) (by decide), fun _ => hclaim.ffaMarked hfound hitem hf⟩
    | false =>
      rw [hf, if_pos ⟨rfl, rfl⟩] at he
      cases he
      exact ⟨fun _ => rfl, fun h => absurd (h.symm.trans hf) (by decide)⟩

theorem Tracked.countTheRoll (hw : w.Tracked) {roll : Roll} {draw : Draw}
    (hclaim : w.Unclaimed (.countTheRoll roll draw)) : (w.record (w.loot.countTheRoll roll draw)).Tracked := by
  have hwon : Keeps w.loot (w.loot.markWon roll.itemSlot) :=
    (Keeps.modifyEntry w.loot (.item roll.itemSlot) (f := fun item => { item with isLooted := true })
      fun item => ⟨rfl, fun _ => rfl, id⟩).trans (.of_eq rfl rfl rfl rfl)
  rcases countTheRoll_cases w.loot roll draw with
    heq | heq | ⟨item, winner, hitem, htotal, heq⟩
  · rw [heq, record_none]
    exact hw
  · rw [heq]
    have h := hw.of_keeps (Keeps.modifyEntry w.loot (.item roll.itemSlot)
      (f := fun item => { item with isBlocked := false }) fun item => ⟨rfl, id, id⟩)
    dsimp only [record, toList_none]
    rw [append_nil]
    exact h
  · obtain ⟨hffa, hfree⟩ := hclaim item hitem
    have hfree : item.isLooted = false := by
      rcases hfree with h | ⟨h₁, h₂⟩
      · exact h
      · rcases htotal with h | h
        · exact absurd h₁ h
        · exact absurd h₂ h
    have hmark : ∀ item', (w.loot.markWon roll.itemSlot).itemOf? (.item roll.itemSlot) = some item' →
        (item'.freeforall = false → item'.isLooted = true) ∧
          (item'.freeforall = true → FFAMarked (w.loot.markWon roll.itemSlot)
            ⟨.item roll.itemSlot, winner⟩) := by
      intro item' he
      have hread := w.loot.itemOf?_modifyEntry (fun item => { item with isLooted := true })
        (.item roll.itemSlot) (.item roll.itemSlot)
      rw [if_pos rfl, show w.loot.itemOf? (.item roll.itemSlot) = some item from hitem] at hread
      have heq : item' = { item with isLooted := true } := some.inj (he.symm.trans hread)
      rw [heq]
      exact ⟨fun _ => rfl, fun h => absurd (h.symm.trans hffa) (by decide)⟩
    rcases heq with heq | heq
    · rw [heq]
      exact hw.handOut hwon hitem
        (fun _ => ⟨fun _ => hfree, fun h => absurd (h.symm.trans hffa) (by decide)⟩) hmark
    · rw [heq]
      refine hw.hand hwon (fun item' he => ?_) hmark
      have heq : item' = item := some.inj (he.symm.trans hitem)
      rw [heq]
      exact ⟨fun _ => hfree, fun h => absurd (h.symm.trans hffa) (by decide)⟩

theorem Tracked.lootMasterGive (hw : w.Tracked) {giver target : Guid} {slotid : Nat} {canStore : Bool}
    (hclaim : w.Unclaimed (.lootMasterGive giver slotid target canStore)) :
    (w.step (.lootMasterGive giver slotid target canStore)).Tracked := by
  dsimp only [step]
  by_cases hgiver : w.looterGuid = giver
  · rw [if_pos hgiver]
    obtain ⟨hslot, hgive⟩ := hclaim hgiver
    unfold masterGive
    by_cases hlt : w.loot.items.length < slotid
    · rw [if_pos hlt]
      change (w.record (w.loot, none)).Tracked
      rw [record_none]
      exact hw
    · rw [if_neg hlt]
      cases hitem : w.loot.items[slotid]? with
      | none => exact absurd (getElem?_eq_none_iff.1 hitem) (by omega)
      | some item =>
        cases canStore with
        | false =>
          simp only [Bool.false_eq_true, if_false, record_none]
          exact hw
        | true =>
          have hread := w.loot.itemOf?_modifyEntry
            (fun item => { item with count := 0, isLooted := true }) (.item slotid) (.item slotid)
          have hentry : w.loot.itemOf? (.item slotid) = some item := hitem
          rw [if_pos rfl, hentry] at hread
          have hgiven : Keeps w.loot (w.loot.markGiven slotid) :=
            (Keeps.modifyEntry w.loot (.item slotid)
              (f := fun item => { item with count := 0, isLooted := true })
              fun item => ⟨rfl, fun _ => rfl, fun _ => rfl⟩).trans (.of_eq rfl rfl rfl rfl)
          refine hw.handOut hgiven hentry (fun hcount => ?_) fun item' he => ?_
          · have hfresh := (hgive item hitem).resolve_left hcount
            refine ⟨fun hf => by simpa [hf] using hfresh, fun hf => ?_⟩
            rw [if_pos hf] at hfresh
            rintro (⟨q, hq, hl⟩ | ⟨item', hi', hc⟩)
            · rw [hfresh q hq] at hl
              cases hl
            · exact hcount (some.inj (hi'.symm.trans hitem) ▸ hc)
          · have heq : item' = { item with count := 0, isLooted := true } :=
              some.inj (he.symm.trans hread)
            exact ⟨fun _ => by rw [heq], fun _ => .inr ⟨_, hread, rfl⟩⟩
  · rw [if_neg hgiver]
    exact hw

/-- A take that claims nothing twice keeps every delivery marked. -/
theorem Tracked.step (hw : w.Tracked) {e : Event} (hclaim : w.Unclaimed e) : (w.step e).Tracked := by
  cases e with
  | storeLootItem player lootSlot canStore => exact hw.storeLootItem hclaim canStore
  | countTheRoll roll draw => exact hw.countTheRoll hclaim
  | lootMasterGive giver slotid target canStore => exact hw.lootMasterGive hclaim
  | lootMethod looter => exact ⟨hw.single, hw.marked, hw.nodup⟩

theorem rejects_of_unclaimed {e : Event} (hclaim : w.Unclaimed e) : w.Rejects e := by
  intro hout
  cases e with
  | storeLootItem player lootSlot canStore =>
    have hnone := lootItemInSlot_outOfRange hout
    dsimp only [World.step, storeLootItem]
    rw [hnone]
    exact record_none w
  | countTheRoll roll draw => exact hout.elim
  | lootMasterGive giver slotid target canStore =>
    have hle : w.loot.items.length ≤ slotid := hout
    dsimp only [World.step]
    by_cases hgiver : w.looterGuid = giver
    · have hslot := (hclaim hgiver).1
      unfold masterGive
      rw [if_pos hgiver, if_pos (by omega)]
      exact record_none w
    · rw [if_neg hgiver]
  | lootMethod looter => exact hout.elim

/-- **One item, one receiver.** In a run over any loot from which nothing was handed out yet, whose steps
hand out nothing that is marked as looted and do not name the slot behind the last one: every entry for one
player is handed out once at most, a free-for-all entry once to each player, and a slot that is not in the
loot is rejected. -/
theorem oneReceiver_of_unclaimed {loot : Loot} {looter : Guid} {es : List Event}
    (hloot : ∀ p ql, loot.playerQuestItems.find? p = some ql → (ql.map (·.index)).Nodup)
    (hes : AllSteps World.step Unclaimed { loot, looterGuid := looter } es) :
    AllSteps World.step Rejects { loot, looterGuid := looter } es ∧
      ∀ pre, pre <+: es → OneReceiver (run World.step { loot, looterGuid := looter } pre) := by
  refine ⟨hes.mono fun w e => rejects_of_unclaimed, fun pre hpre => ?_⟩
  obtain ⟨post, rfl⟩ := hpre
  have hstart : Tracked { loot, looterGuid := looter } :=
    ⟨fun e item he => ⟨fun _ => Nat.zero_le _, fun _ _ => Nat.zero_le _⟩, nofun, hloot⟩
  exact (hes.reaches (I := Tracked) (fun w e hw he => hw.step he) hstart).single

def chest : Loot where
  items := [{ itemid := 10 }, { itemid := 20, freeforall := true }, { itemid := 30, conditions := [7] }]
  questItems := [{ itemid := 40, needsQuest := true, isBlocked := true }]
  unlootedCount := 5
  playerQuestItems := (OrdMap.empty.insert 1 [{ index := 0 }]).insert 2 [{ index := 0 }]
  playerFFAItems := (OrdMap.empty.insert 1 [{ index := 1 }]).insert 2 [{ index := 1 }]
  playerNonQuestNonFFAConditionalItems := (OrdMap.empty.insert 1 [{ index := 2 }]).insert 2 [{ index := 2 }]

/-- The plain item is taken and then given by the master looter; the item with a condition and the quest
item are taken by both players; the slot behind the last item is not rejected. -/
theorem handed_out_twice :
    ¬ OneReceiver (run World.step { loot := chest, looterGuid := 1 }
        [.storeLootItem 2 0 true, .lootMasterGive 1 0 3 true]) ∧
    ¬ OneReceiver (run World.step { loot := chest } [.storeLootItem 1 2 true, .storeLootItem 2 2 true]) ∧
    ¬ OneReceiver (run World.step { loot := chest } [.storeLootItem 1 3 true, .storeLootItem 2 3 true]) ∧
    ¬ Rejects { loot := chest, looterGuid := 1 } (.lootMasterGive 1 3 2 true) := by
  refine ⟨fun h => ?_, fun h => ?_, fun h => ?_, fun h => ?_⟩
  · exact absurd ((h (.item 0) _ rfl).1 rfl) (by decide)
  · exact absurd ((h (.item 2) _ rfl).1 rfl) (by decide)
  · exact absurd ((h (.quest 0) _ rfl).1 rfl) (by decide)
  · have houtOfBounds := congrArg World.outOfBounds (h (le_refl 3))
    cases houtOfBounds

def sharedChest : List Event :=
  [.storeLootItem 1 0 true, .storeLootItem 1 1 true, .storeLootItem 2 1 true, .storeLootItem 2 3 true]

theorem sharedChest_oneReceiver :
    AllSteps World.step Rejects { loot := chest } sharedChest ∧
      ∀ pre, pre <+: sharedChest → OneReceiver (run World.step { loot := chest } pre) := by
  have hnodup : OrdMap.All (fun _ ql => (ql.map (·.index)).Nodup) chest.playerQuestItems := by decide
  refine oneReceiver_of_unclaimed hnodup ⟨⟨?_, ?_, ?_⟩, ⟨?_, ?_, ?_⟩, ⟨?_, ?_, ?_⟩, ⟨?_, ?_, ?_⟩, trivial⟩
  · intro item hi hf
    cases hi
    cases hf
  · intro item q hi hf hc hq
    cases hq
  · intro ql q item hql hq hle
    exact absurd hle (by decide)
  · intro item hi hf hc hl hlist hq
    exact absurd hq (by decide)
  · intro item q hi hf
    cases hi
    cases hf
  · intro ql q item hql hq hle
    exact absurd hle (by decide)
  · intro item hi hf hc hl hlist hq
    exact absurd hq (by decide)
  · intro item q hi hf
    cases hi
    cases hf
  · intro ql q item hql hq hle
    exact absurd hle (by decide)
  · intro item hi
    cases hi
  · intro item q hi
    cases hi
  · intro ql q item hql hq hle hitem hf hfree
    cases hql
    cases hq
    cases hitem
    rfl

end World

end Axium.Looting
