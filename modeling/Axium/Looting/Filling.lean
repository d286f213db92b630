import Axium.Looting.Unlooted

/-!
# Filling the loot of a group

`FillLoot` adds what the template dropped and then registers every member of the group. Each of the three
functions that register a player counts what it adds: once for an item that is for one player, every time
for a free-for-all item.

The count has eight bits, and a raid of forty fills them with seven free-for-all items. Where the bits are
enough, and everybody who may take something is registered for it, the filled loot is counted right; it stays
so in every run of `Sole` steps.
-/

namespace Axium.Looting

open Run List

variable (ql : List Nat) {recipients : List Recipient}

namespace Loot

/-! ## What a player adds -/

section Windows

variable (env : Env) (loot : Loot) (player : Guid)

/-- The positions that `FillQuestLoot` registers. -/
def questWindow : List Nat :=
  (positions (fun item => !item.isLooted && item.allowedForPlayer env player) loot.questItems).take
    (maxNrLootItems - loot.items.length)

def questCounted : List Nat :=
  (loot.questWindow env player).filter fun i => loot.questItems[i]?.any fun item =>
    item.freeforall || !item.isBlocked

/-- The positions that `FillFFALoot` registers and counts. -/
def ffaWindow : List Nat :=
  positions (fun item => !item.isLooted && item.freeforall && item.allowedForPlayer env player) loot.items

/-- The positions that `FillNonQuestNonFFAConditionalLoot` registers. -/
def condWindow : List Nat :=
  positions (fun item => !item.isLooted && !item.freeforall && item.allowedForPlayer env player &&
    decide (item.conditions ≠ [])) loot.items

def condCounted : List Nat :=
  (loot.condWindow env player).filter fun i => loot.items[i]?.any fun item => !item.isCounted

/-- The deliveries that `FillNotNormalLootFor` adds for a player. -/
def newDeliveries : Nat :=
  (if loot.playerQuestItems.contains player then 0 else (loot.questCounted env player).length) +
  (if loot.playerFFAItems.contains player then 0 else (loot.ffaWindow env player).length) +
  if loot.playerNonQuestNonFFAConditionalItems.contains player then 0
  else (loot.condCounted env player).length

end Windows

/-! ## Registering a list -/

theorem find?_register (m : OrdMap Guid (List QuestItem)) (player p : Guid) (ql : List Nat) :
    (register m player ql).find? p =
      if ql ≠ [] ∧ player = p then some (ql.map fun i => { index := i }) else m.find? p := by
  unfold register
  by_cases hql : ql = []
  · rw [if_pos hql, if_neg fun h => h.1 hql]
  · rw [if_neg hql, OrdMap.find?_insert]
    by_cases hp : player = p
    · rw [if_pos hp, if_pos ⟨hql, hp⟩]
    · rw [if_neg hp, if_neg fun h => hp h.2]

theorem registered_register (m : OrdMap Guid (List QuestItem)) (player p : Guid) (ql : List Nat) (i : Nat) :
    registered (register m player ql) p i =
      if ql ≠ [] ∧ player = p then if i ∈ ql then some { index := i } else none else registered m p i := by
  unfold registered
  rw [find?_register]
  by_cases hown : ql ≠ [] ∧ player = p
  · rw [if_pos hown, if_pos hown, Option.bind_some, find?_map]
    by_cases hi : i ∈ ql
    · rw [if_pos hi]
      cases hfind : ql.find? ((fun q : QuestItem => decide (q.index = i)) ∘ fun i => { index := i }) with
      | none => exact absurd (find?_eq_none.1 hfind i hi) (by simp)
      | some j =>
        have hj : j = i := by simpa using find?_some hfind
        rw [Option.map_some, hj]
    · rw [if_neg hi, Option.map_eq_none_iff, find?_eq_none]
      intro j hj
      have hne : j ≠ i := fun h => hi (h ▸ hj)
      simpa using hne
  · rw [if_neg hown, if_neg hown]

theorem sum_register {m : OrdMap Guid (List QuestItem)} {player : Guid} (c : QuestItem → Bool)
    (h : m.find? player = none) (ql : List Nat) :
    (register m player ql).sum (fun _ l => l.countP c) =
      m.sum (fun _ l => l.countP c) + ql.countP fun i => c { index := i } := by
  unfold register
  by_cases hql : ql = []
  · rw [hql]
    rfl
  · rw [if_neg hql, OrdMap.sum_insert_new _ h, countP_map]
    rfl

theorem find?_none_of_contains {m : OrdMap Guid (List QuestItem)} {player : Guid}
    (h : m.contains player = false) : m.find? player = none := by
  unfold OrdMap.contains at h
  exact Option.isNone_iff_eq_none.1 (by simpa using h)

theorem map_index_mk :
    (ql.map fun i => ({ index := i } : QuestItem)).map (·.index) = ql := by
  rw [map_map]
  exact map_id ql

theorem countP_split {α : Type} {p p₁ p₂ : α → Bool} (h : ∀ a, p a = (p₁ a || p₂ a))
    (hdisjoint : ∀ a, p₁ a = true → p₂ a = false) (l : List α) : l.countP p = l.countP p₁ + l.countP p₂ := by
  induction l with
  | nil => rfl
  | cons a l ih =>
    rw [countP_cons, countP_cons, countP_cons, h a]
    cases h₁ : p₁ a with
    | true =>
      rw [hdisjoint a h₁]
      simp
      omega
    | false =>
      simp
      omega

variable {env : Env} {loot : Loot} {player : Guid} {players : List Guid}

/-! ## `FillQuestLoot` -/

theorem mem_questWindow {i : Nat} (h : i ∈ loot.questWindow env player) :
    ∃ item, loot.questItems[i]? = some item ∧ item.isLooted = false := by
  obtain ⟨item, hitem, hp⟩ := mem_positions.1 (mem_of_mem_take h)
  rw [Bool.and_eq_true, Bool.not_eq_true'] at hp
  exact ⟨item, hitem, hp.1⟩

theorem nodup_questWindow (env : Env) (loot : Loot) (player : Guid) : (loot.questWindow env player).Nodup :=
  (nodup_positions _ _).sublist (take_sublist _ _)

theorem getElem?_fillQuestLoot (k : Nat) :
    (loot.fillQuestLoot env player).questItems[k]? = loot.questItems[k]?.map fun item =>
      if k ∈ loot.questWindow env player then { item with isBlocked := true } else item :=
  getElem?_mapIdx

theorem find?_fillQuestLoot (p : Guid) :
    (loot.fillQuestLoot env player).playerQuestItems.find? p =
      if loot.questWindow env player ≠ [] ∧ player = p then
        some ((loot.questWindow env player).map fun i => { index := i })
      else loot.playerQuestItems.find? p :=
  find?_register _ _ _ _

theorem Linked.fillQuestLoot (h : loot.Linked players) (hp : player ∈ players)
    (hnew : loot.playerQuestItems.find? player = none) : (loot.fillQuestLoot env player).Linked players := by
  refine ⟨h.cond, h.condBack, h.ffa, fun p ql hql => ?_, fun k item' hk hb => ?_⟩
  · rw [find?_fillQuestLoot] at hql
    by_cases hown : loot.questWindow env player ≠ [] ∧ player = p
    · rw [if_pos hown, Option.some.injEq] at hql
      subst hql
      refine ⟨hown.2 ▸ hp, by rw [map_index_mk]; exact nodup_questWindow env loot player, fun q hq => ?_⟩
      obtain ⟨i, hi, rfl⟩ := mem_map.1 hq
      obtain ⟨item, hitem, hfree⟩ := mem_questWindow hi
      refine ⟨{ item with isBlocked := true }, ?_, rfl, fun _ => hfree.symm⟩
      rw [getElem?_fillQuestLoot, hitem]
      simp only [if_pos hi, Option.map_some]
    · rw [if_neg hown] at hql
      obtain ⟨hmem, hnodup, hentries⟩ := h.quest p ql hql
      refine ⟨hmem, hnodup, fun q hq => ?_⟩
      obtain ⟨item, hitem, hb, hsame⟩ := hentries q hq
      refine ⟨_, by rw [getElem?_fillQuestLoot, hitem]; rfl, ?_⟩
      dsimp only
      by_cases hw : q.index ∈ loot.questWindow env player
      · rw [if_pos hw]
        exact ⟨rfl, hsame⟩
      · rw [if_neg hw]
        exact ⟨hb, hsame⟩
  · rw [getElem?_fillQuestLoot, Option.map_eq_some_iff] at hk
    obtain ⟨item, hitem, rfl⟩ := hk
    by_cases hw : k ∈ loot.questWindow env player
    · have hlist := @find?_fillQuestLoot env loot player player
      rw [if_pos ⟨ne_nil_of_mem hw, rfl⟩] at hlist
      exact ⟨player, _, { index := k }, hlist, mem_map_of_mem hw, rfl⟩
    · rw [if_neg hw] at hb
      obtain ⟨p, ql, q, hql, hq, hidx⟩ := h.questBack k item hitem hb
      refine ⟨p, ql, q, ?_, hq, hidx⟩
      rw [find?_fillQuestLoot, if_neg]
      · exact hql
      · rintro ⟨-, rfl⟩
        rw [hnew] at hql
        cases hql

theorem possible_fillQuestLoot (hnew : loot.playerQuestItems.find? player = none) :
    (loot.fillQuestLoot env player).possible = loot.possible + (loot.questCounted env player).length := by
  set first : Nat → Bool := fun i => loot.questItems[i]?.any fun item =>
    !item.freeforall && !item.isBlocked with hfirst
  set shared : Nat → Bool := fun i => loot.questItems[i]?.any fun item => item.freeforall with hshared
  have hpositions : (positions openQuest (loot.fillQuestLoot env player).questItems).length =
      (positions openQuest loot.questItems).length + ((loot.questWindow env player).filter first).length := by
    refine length_positions_add ((nodup_questWindow env loot player).filter _) (fun i hi hold => ?_) fun i => ?_
    · obtain ⟨item, hitem, hopen⟩ := mem_positions.1 hold
      have h := (mem_filter.1 hi).2
      rw [hfirst] at h
      simp only [hitem, Option.any_some, openQuest] at h hopen
      revert h hopen
      cases item.isBlocked <;> simp
    · rw [mem_positions, mem_positions, mem_filter, getElem?_fillQuestLoot]
      cases hitem : loot.questItems[i]? with
      | none => simp [hfirst, hitem]
      | some item =>
        by_cases hw : i ∈ loot.questWindow env player
        · obtain ⟨item₀, hitem₀, hfree⟩ := mem_questWindow hw
          rw [hitem, Option.some.injEq] at hitem₀
          subst hitem₀
          simp only [hfirst, hitem, hw, if_true, Option.map_some, Option.some.injEq, exists_eq_left',
            Option.any_some, openQuest, hfree, true_and]
          cases item.freeforall <;> cases item.isBlocked <;> simp
        · simp [hw]
  have hopen : (loot.fillQuestLoot env player).openQuestFFA = loot.openQuestFFA := by
    funext q
    unfold openQuestFFA
    rw [getElem?_fillQuestLoot]
    cases loot.questItems[q.index]? with
    | none => rfl
    | some item =>
      by_cases hw : q.index ∈ loot.questWindow env player
      · simp [hw]
      · simp [hw]
  have hsum : (loot.fillQuestLoot env player).playerQuestItems.sum
      (fun _ ql => ql.countP (loot.fillQuestLoot env player).openQuestFFA) =
        loot.playerQuestItems.sum (fun _ ql => ql.countP loot.openQuestFFA) +
          (loot.questWindow env player).countP shared := by
    rw [hopen]
    have h := sum_register loot.openQuestFFA hnew (loot.questWindow env player)
    have hnewEntries : (fun i => loot.openQuestFFA { index := i }) = shared := by
      funext i
      simp [openQuestFFA, hshared]
    exact h
  have hcounted : (loot.questCounted env player).length = ((loot.questWindow env player).filter first).length +
        (loot.questWindow env player).countP shared := by
    unfold questCounted
    rw [← countP_eq_length_filter, ← countP_eq_length_filter]
    refine countP_split (fun i => ?_) (fun i hi => ?_) _
    · rw [hfirst, hshared]
      dsimp only
      cases loot.questItems[i]? with
      | none => rfl
      | some item =>
        simp only [Option.any_some]
        cases item.freeforall <;> simp
    · rw [hfirst] at hi
      rw [hshared]
      dsimp only at hi ⊢
      cases hitem : loot.questItems[i]? with
      | none => rfl
      | some item =>
        rw [hitem, Option.any_some, Bool.and_eq_true, Bool.not_eq_true'] at hi
        rw [Option.any_some, hi.1]
  unfold possible
  change (positions openItem loot.items).length + _ + loot.playerFFAItems.sum _ + _ = _
  omega

/-! ## `FillFFALoot` -/

theorem find?_fillFFALoot (p : Guid) :
    (loot.fillFFALoot env player).playerFFAItems.find? p =
      if loot.ffaWindow env player ≠ [] ∧ player = p then
        some ((loot.ffaWindow env player).map fun i => { index := i })
      else loot.playerFFAItems.find? p :=
  find?_register _ _ _ _

theorem Linked.fillFFALoot (h : loot.Linked players) (hp : player ∈ players) :
    (loot.fillFFALoot env player).Linked players := by
  refine ⟨h.cond, h.condBack, fun p ql hql => ?_, h.quest, h.questBack⟩
  rw [find?_fillFFALoot] at hql
  by_cases hown : loot.ffaWindow env player ≠ [] ∧ player = p
  · rw [if_pos hown, Option.some.injEq] at hql
    subst hql
    refine ⟨hown.2 ▸ hp, by rw [map_index_mk]; exact nodup_positions _ _, fun q hq => ?_⟩
    obtain ⟨i, hi, rfl⟩ := mem_map.1 hq
    obtain ⟨item, hitem, hseen⟩ := mem_positions.1 hi
    rw [Bool.and_eq_true, Bool.and_eq_true] at hseen
    exact ⟨item, hitem, hseen.1.2⟩
  · rw [if_neg hown] at hql
    exact h.ffa p ql hql

theorem possible_fillFFALoot (hnew : loot.playerFFAItems.find? player = none) :
    (loot.fillFFALoot env player).possible = loot.possible + (loot.ffaWindow env player).length := by
  have hsum := sum_register (fun q => !q.isLooted) hnew (loot.ffaWindow env player)
  have hall : (loot.ffaWindow env player).countP (fun _ => !false) =
      (loot.ffaWindow env player).length := congrFun countP_true _
  rw [hall] at hsum
  unfold possible
  change (positions openItem loot.items).length + (positions openQuest loot.questItems).length +
    (register loot.playerFFAItems player (loot.ffaWindow env player)).sum _ +
    loot.playerQuestItems.sum (fun _ ql => ql.countP loot.openQuestFFA) = _
  omega

/-! ## `FillNonQuestNonFFAConditionalLoot` -/

section Conditional

variable {present : Bool}

def seen (env : Env) (player : Guid) (present : Bool) (item : LootItem) : LootItem :=
  if !item.isLooted && !item.freeforall && item.allowedForPlayer env player then
    { item with
      allowedGUIDs := if present then item.allowedGUIDs.insert player else item.allowedGUIDs
      isCounted := item.isCounted || decide (item.conditions ≠ []) }
  else item

theorem getElem?_fillConditional (k : Nat) :
    (loot.fillNonQuestNonFFAConditionalLoot env player present).items[k]? =
      loot.items[k]?.map (seen env player present) :=
  getElem?_map

theorem seen_kind (env : Env) (player : Guid) (present : Bool) (item : LootItem) :
    (seen env player present item).freeforall = item.freeforall ∧
      (seen env player present item).conditions = item.conditions ∧
      (seen env player present item).isLooted = item.isLooted ∧
      ∀ p, (seen env player present item).allowedForPlayer env p = item.allowedForPlayer env p := by
  unfold seen
  split
  · exact ⟨rfl, rfl, rfl, fun _ => rfl⟩
  · exact ⟨rfl, rfl, rfl, fun _ => rfl⟩

theorem mem_condWindow {i : Nat} {item : LootItem} (hitem : loot.items[i]? = some item) :
    i ∈ loot.condWindow env player ↔ item.isLooted = false ∧ item.freeforall = false ∧
      item.allowedForPlayer env player = true ∧ item.conditions ≠ [] := by
  unfold condWindow
  rw [mem_positions, hitem]
  simp [and_assoc]

theorem isCounted_seen {i : Nat} {item : LootItem} (hitem : loot.items[i]? = some item) :
    (seen env player present item).isCounted = true ↔
      item.isCounted = true ∨ i ∈ loot.condWindow env player := by
  rw [mem_condWindow hitem]
  unfold seen
  by_cases h : (!item.isLooted && !item.freeforall && item.allowedForPlayer env player) = true
  · rw [if_pos h]
    rw [Bool.and_eq_true, Bool.and_eq_true, Bool.not_eq_true', Bool.not_eq_true'] at h
    simp [h.1.1, h.1.2, h.2]
  · rw [if_neg h]
    rw [Bool.and_eq_true, Bool.and_eq_true, Bool.not_eq_true', Bool.not_eq_true'] at h
    exact ⟨Or.inl, fun hor => hor.elim id fun hw => absurd ⟨⟨hw.1, hw.2.1⟩, hw.2.2.1⟩ h⟩

theorem registered_fillConditional (p : Guid) (i : Nat) :
    registered (loot.fillNonQuestNonFFAConditionalLoot env player
        present).playerNonQuestNonFFAConditionalItems p i =
      if loot.condWindow env player ≠ [] ∧ player = p then
        if i ∈ loot.condWindow env player then some { index := i } else none
      else registered loot.playerNonQuestNonFFAConditionalItems p i :=
  registered_register loot.playerNonQuestNonFFAConditionalItems player p (loot.condWindow env player) i

theorem Linked.fillConditional (h : loot.Linked players) (hp : player ∈ players)
    (hnew : loot.playerNonQuestNonFFAConditionalItems.find? player = none) :
    (loot.fillNonQuestNonFFAConditionalLoot env player present).Linked players := by
  refine ⟨fun p i q hq => ?_, fun i item' hi hffa hne hcounted => ?_, fun p ql hql => ?_, h.quest, h.questBack⟩
  · rw [registered_fillConditional] at hq
    rw [getElem?_fillConditional]
    by_cases hown : loot.condWindow env player ≠ [] ∧ player = p
    · rw [if_pos hown] at hq
      by_cases hi : i ∈ loot.condWindow env player
      · rw [if_pos hi, Option.some.injEq] at hq
        obtain ⟨item, hitem, -⟩ := mem_positions.1 hi
        obtain ⟨hfree, -, -, hcond⟩ := (mem_condWindow hitem).1 hi
        obtain ⟨-, hconds, hlooted, -⟩ := seen_kind env player present item
        refine ⟨hown.2 ▸ hp, seen env player present item, by rw [hitem]; rfl, by rwa [hconds], ?_⟩
        rw [hlooted, hfree, ← hq]
      · rw [if_neg hi] at hq
        cases hq
    · rw [if_neg hown] at hq
      obtain ⟨hmem, item, hitem, hcond, hsame⟩ := h.cond p i q hq
      obtain ⟨-, hconds, hlooted, -⟩ := seen_kind env player present item
      exact ⟨hmem, seen env player present item, by rw [hitem]; rfl, by rwa [hconds], hlooted ▸ hsame⟩
  · rw [getElem?_fillConditional, Option.map_eq_some_iff] at hi
    obtain ⟨item, hitem, rfl⟩ := hi
    obtain ⟨hffa', hconds, -, -⟩ := seen_kind env player present item
    by_cases hw : i ∈ loot.condWindow env player
    · refine ⟨player, { index := i }, ?_⟩
      rw [registered_fillConditional, if_pos ⟨ne_nil_of_mem hw, rfl⟩, if_pos hw]
    · have hold := ((isCounted_seen hitem).1 hcounted).resolve_right hw
      obtain ⟨p, q, hq⟩ := h.condBack i item hitem (hffa' ▸ hffa) (hconds ▸ hne) hold
      refine ⟨p, q, ?_⟩
      rw [registered_fillConditional, if_neg]
      · exact hq
      · rintro ⟨-, rfl⟩
        unfold registered at hq
        rw [hnew] at hq
        cases hq
  · obtain ⟨hmem, hnodup, hentries⟩ := h.ffa p ql hql
    refine ⟨hmem, hnodup, fun q hq => ?_⟩
    obtain ⟨item, hitem, hf⟩ := hentries q hq
    refine ⟨seen env player present item, by rw [getElem?_fillConditional, hitem]; rfl, ?_⟩
    rw [(seen_kind env player present item).1, hf]

theorem possible_fillConditional :
    (loot.fillNonQuestNonFFAConditionalLoot env player present).possible =
      loot.possible + (loot.condCounted env player).length := by
  have hpositions : (positions openItem
      (loot.fillNonQuestNonFFAConditionalLoot env player present).items).length =
        (positions openItem loot.items).length + (loot.condCounted env player).length := by
    have hcounted : ∀ {i : Nat} {item : LootItem}, loot.items[i]? = some item →
        (i ∈ loot.condCounted env player ↔ i ∈ loot.condWindow env player ∧ item.isCounted = false) := by
      intro i item hitem
      unfold condCounted
      rw [mem_filter, hitem]
      simp
    refine length_positions_add ((nodup_positions _ _).filter _) (fun i hi hold => ?_) fun i => ?_
    · obtain ⟨item, hitem, hopen⟩ := mem_positions.1 hold
      obtain ⟨hw, hc⟩ := (hcounted hitem).1 hi
      obtain ⟨-, -, -, hcond⟩ := (mem_condWindow hitem).1 hw
      simp [openItem, hc, hcond] at hopen
    · rw [mem_positions, mem_positions, getElem?_fillConditional]
      cases hitem : loot.items[i]? with
      | none =>
        have hno : i ∉ loot.condCounted env player := by
          intro hi
          obtain ⟨item, hitem', -⟩ := mem_positions.1 (mem_of_mem_filter hi)
          rw [hitem] at hitem'
          cases hitem'
        simp [hno]
      | some item =>
        obtain ⟨hffa, hconds, hlooted, -⟩ := seen_kind env player present item
        have hseen := @isCounted_seen env loot player present i item hitem
        rw [mem_condWindow hitem] at hseen
        rw [hcounted hitem, mem_condWindow hitem]
        simp only [Option.map_some, Option.some.injEq, exists_eq_left', openItem, hffa, hconds, hlooted,
          Bool.and_eq_true, Bool.not_eq_true', Bool.or_eq_true, decide_eq_true_eq, hseen]
        by_cases hcond : item.conditions = []
        · simp [hcond]
        · cases item.isCounted <;> simp [hcond]
          tauto
  unfold possible
  change _ + (positions openQuest loot.questItems).length + loot.playerFFAItems.sum _ +
    loot.playerQuestItems.sum (fun _ ql => ql.countP loot.openQuestFFA) = _
  omega

end Conditional

/-! ## `FillNotNormalLootFor` -/

/-- A member of the group, and what there is room for in his bags. -/
structure Recipient where
  player : Guid
  presentAtLooting : Bool := true
  canStore : Nat → Bool := fun _ => true

/-- One turn of the loop of `FillLoot`. -/
def fillFor (env : Env) (loot : Loot) (r : Recipient) : Loot :=
  (loot.fillNotNormalLootFor env r.player r.presentAtLooting r.canStore).1

/-- `FillLoot` with the items that `Process` adds, for the members of a group or the owner alone. -/
def fillLoot (env : Env) (gold : Nat) (drops : List LootStoreItem) (recipients : List Recipient) : Loot :=
  run (fillFor env) (drops.foldl (addItem env) { gold }) recipients

/-- Each recipient may take all free-for-all items or none, and some recipient any item with conditions. -/
structure Shared (env : Env) (recipients : List Recipient) (loot : Loot) : Prop where
  ffa : ∀ r ∈ recipients,
    (∀ item ∈ loot.items, item.freeforall = true → item.allowedForPlayer env r.player = true) ∨
      ∀ item ∈ loot.items, item.freeforall = true → item.allowedForPlayer env r.player = false
  cond : ∀ item ∈ loot.items, item.freeforall = false → item.conditions ≠ [] →
    ∃ r ∈ recipients, item.allowedForPlayer env r.player = true

def CurrencySole (env : Env) (player : Guid) (canStore : Nat → Bool) : List Nat → Loot → Prop
  | [], _ => True
  | i :: is, loot =>
    let item := if i < loot.items.length then loot.items[i]?
      else loot.questItems[i - loot.items.length]?
    if item.any fun item => !item.isLooted && item.freeforall && item.allowedForPlayer env player &&
        env.currencyToken item.itemid then
      loot.StoresSole player i ∧
        CurrencySole env player canStore is (loot.storeLootItem i player (canStore i)).1
    else CurrencySole env player canStore is loot

structure Roomy (env : Env) (loot : Loot) (r : Recipient) : Prop where
  room : loot.unlootedCount + loot.newDeliveries env r.player < 256
  currency : r.presentAtLooting = true →
    let filled := loot.fillLists env r.player r.presentAtLooting
    CurrencySole env r.player r.canStore (range (filled.getMaxSlotInLootFor r.player)) filled

/-- The invariant of the loop over the group. -/
structure Filling (env : Env) (recipients : List Recipient) (filled : List Guid) (loot : Loot) : Prop where
  tallied : loot.Tallied (recipients.map (·.player))
  shared : Shared env recipients loot
  fresh : ∀ item ∈ loot.items, item.isLooted = false
  ffa : ∀ p ql, loot.playerFFAItems.find? p = some ql → ∀ (i : Nat) item, loot.items[i]? = some item →
    item.freeforall = true → item.allowedForPlayer env p = true → ∃ q ∈ ql, q.index = i
  owner : ∀ p ql, loot.playerFFAItems.find? p = some ql →
    ∃ item ∈ loot.items, item.freeforall = true ∧ item.allowedForPlayer env p = true
  cond : ∀ p, loot.playerNonQuestNonFFAConditionalItems.contains p = true ∨ p ∈ filled →
    ∀ item ∈ loot.items, item.freeforall = false → item.conditions ≠ [] →
      item.allowedForPlayer env p = true → item.isCounted = true

section Fill

variable {recipients : List Recipient} {filled : List Guid}

theorem Tallied.add {loot' : Loot} (h : loot.Tallied players) (hlinked : loot'.Linked players) {n : Nat}
    (hcount : loot'.unlootedCount = add8 loot.unlootedCount n)
    (hpossible : loot'.possible = loot.possible + n) (hroom : loot.unlootedCount + n < 256) :
    loot'.Tallied players := by
  have heq := h.count
  refine ⟨hlinked, ?_, by omega⟩
  rw [hcount]
  unfold add8
  omega

theorem Filling.fillQuestLoot (h : Filling env recipients filled loot)
    (hp : player ∈ recipients.map (·.player)) (hnew : loot.playerQuestItems.contains player = false)
    (hroom : loot.unlootedCount + (loot.questCounted env player).length < 256) :
    Filling env recipients filled (loot.fillQuestLoot env player) := by
  have hnone := find?_none_of_contains hnew
  exact ⟨h.tallied.add (h.tallied.linked.fillQuestLoot hp hnone) rfl (possible_fillQuestLoot hnone) hroom,
    ⟨h.shared.ffa, h.shared.cond⟩, h.fresh, h.ffa, h.owner, h.cond⟩

theorem Filling.fillFFALoot (h : Filling env recipients filled loot)
    (hp : player ∈ recipients.map (·.player)) (hnew : loot.playerFFAItems.contains player = false)
    (hroom : loot.unlootedCount + (loot.ffaWindow env player).length < 256) :
    Filling env recipients filled (loot.fillFFALoot env player) := by
  have hnone := find?_none_of_contains hnew
  refine ⟨h.tallied.add (h.tallied.linked.fillFFALoot hp) rfl (possible_fillFFALoot hnone) hroom,
    ⟨h.shared.ffa, h.shared.cond⟩, h.fresh, fun p ql hql i item hitem hf hallowed => ?_,
    fun p ql hql => ?_, h.cond⟩
  · rw [find?_fillFFALoot] at hql
    by_cases hown : loot.ffaWindow env player ≠ [] ∧ player = p
    · rw [if_pos hown, Option.some.injEq] at hql
      subst hql
      have hmem : i ∈ loot.ffaWindow env player := by
        refine mem_positions.2 ⟨item, hitem, ?_⟩
        rw [hown.2]
        simp [h.fresh item (mem_of_getElem? hitem), hf, hallowed]
      exact ⟨{ index := i }, mem_map_of_mem hmem, rfl⟩
    · rw [if_neg hown] at hql
      exact h.ffa p ql hql i item hitem hf hallowed
  · rw [find?_fillFFALoot] at hql
    by_cases hown : loot.ffaWindow env player ≠ [] ∧ player = p
    · obtain ⟨i, hi⟩ := exists_mem_of_ne_nil _ hown.1
      obtain ⟨item, hitem, hseen⟩ := mem_positions.1 hi
      rw [Bool.and_eq_true, Bool.and_eq_true, hown.2] at hseen
      exact ⟨item, mem_of_getElem? hitem, hseen.1.2, hseen.2⟩
    · rw [if_neg hown] at hql
      exact h.owner p ql hql

theorem Filling.fillConditional {present : Bool} (h : Filling env recipients filled loot)
    (hp : player ∈ recipients.map (·.player))
    (hnew : loot.playerNonQuestNonFFAConditionalItems.contains player = false)
    (hroom : loot.unlootedCount + (loot.condCounted env player).length < 256) :
    Filling env recipients (player :: filled) (loot.fillNonQuestNonFFAConditionalLoot env player present) := by
  have hnone := find?_none_of_contains hnew
  -- an item of the new loot is an old one as the player sees it
  have hold : ∀ item' ∈ (loot.fillNonQuestNonFFAConditionalLoot env player present).items,
      ∃ (i : Nat) (item : LootItem), loot.items[i]? = some item ∧ item ∈ loot.items ∧
        item' = seen env player present item := by
    intro item' hmem
    obtain ⟨i, hi⟩ := mem_iff_getElem?.1 hmem
    rw [getElem?_fillConditional, Option.map_eq_some_iff] at hi
    obtain ⟨item, hitem, rfl⟩ := hi
    exact ⟨i, item, hitem, mem_of_getElem? hitem, rfl⟩
  refine ⟨h.tallied.add (h.tallied.linked.fillConditional hp hnone) rfl possible_fillConditional hroom,
    ⟨fun r hr => ?_, fun item' hmem hf hne => ?_⟩, fun item' hmem => ?_,
    fun p ql hql i item' hi hf hallowed => ?_, fun p ql hql => ?_,
    fun p hdone item' hmem hf hne hallowed => ?_⟩
  · refine (h.shared.ffa r hr).imp (fun hall item' hmem hf => ?_) fun hall item' hmem hf => ?_
    · obtain ⟨i, item, -, hitem, rfl⟩ := hold item' hmem
      obtain ⟨hffa, -, -, hsame⟩ := seen_kind env player present item
      rw [hsame]
      exact hall item hitem (hffa ▸ hf)
    · obtain ⟨i, item, -, hitem, rfl⟩ := hold item' hmem
      obtain ⟨hffa, -, -, hsame⟩ := seen_kind env player present item
      rw [hsame]
      exact hall item hitem (hffa ▸ hf)
  · obtain ⟨i, item, -, hitem, rfl⟩ := hold item' hmem
    obtain ⟨hffa, hconds, -, hsame⟩ := seen_kind env player present item
    obtain ⟨r, hr, hallowed⟩ := h.shared.cond item hitem (hffa ▸ hf) (hconds ▸ hne)
    exact ⟨r, hr, by rw [hsame, hallowed]⟩
  · obtain ⟨i, item, -, hitem, rfl⟩ := hold item' hmem
    rw [(seen_kind env player present item).2.2.1]
    exact h.fresh item hitem
  · rw [getElem?_fillConditional, Option.map_eq_some_iff] at hi
    obtain ⟨item, hitem, rfl⟩ := hi
    obtain ⟨hffa, -, -, hsame⟩ := seen_kind env player present item
    exact h.ffa p ql hql i item hitem (hffa ▸ hf) (hsame p ▸ hallowed)
  · obtain ⟨item, hitem, hf, hallowed⟩ := h.owner p ql hql
    obtain ⟨hffa, -, -, hsame⟩ := seen_kind env player present item
    exact ⟨_, mem_map_of_mem hitem, hffa.trans hf, (hsame p).trans hallowed⟩
  · obtain ⟨i, item, hitem, hin, rfl⟩ := hold item' hmem
    obtain ⟨hffa, hconds, -, hsame⟩ := seen_kind env player present item
    rw [hffa] at hf
    rw [hconds] at hne
    rw [hsame] at hallowed
    rw [isCounted_seen hitem]
    by_cases hpp : p = player
    · subst hpp
      exact .inr ((mem_condWindow hitem).2 ⟨h.fresh item hin, hf, hallowed, hne⟩)
    · refine .inl (h.cond p ?_ item hin hf hne hallowed)
      refine hdone.imp (fun hlist => ?_) fun hmem => (mem_cons.1 hmem).resolve_left hpp
      have hfind := find?_register loot.playerNonQuestNonFFAConditionalItems player p
        (loot.condWindow env player)
      rw [if_neg fun h => hpp h.2.symm] at hfind
      unfold OrdMap.contains at hlist ⊢
      exact hfind ▸ hlist

theorem add8_of_lt {a n : Nat} (h : a + n < 256) : add8 a n = a + n := Nat.mod_eq_of_lt h

theorem Filling.questOnce (h : Filling env recipients filled loot)
    (hp : player ∈ recipients.map (·.player)) {n : Nat}
    (hn : n = if loot.playerQuestItems.contains player then 0 else (loot.questCounted env player).length)
    (hroom : loot.unlootedCount + n < 256) :
    ∃ loot', (if loot.playerQuestItems.contains player then loot else loot.fillQuestLoot env player) =
      loot' ∧ Filling env recipients filled loot' ∧ loot'.unlootedCount = loot.unlootedCount + n ∧
      loot'.items = loot.items ∧ loot'.playerFFAItems = loot.playerFFAItems ∧
      loot'.playerNonQuestNonFFAConditionalItems = loot.playerNonQuestNonFFAConditionalItems := by
  refine ⟨_, rfl, ?_⟩
  cases hlist : loot.playerQuestItems.contains player with
  | true =>
    rw [hlist] at hn
    subst hn
    exact ⟨h, rfl, rfl, rfl, rfl⟩
  | false =>
    rw [hlist] at hn
    subst hn
    exact ⟨h.fillQuestLoot hp hlist hroom, add8_of_lt hroom, rfl, rfl, rfl⟩

theorem Filling.ffaOnce (h : Filling env recipients filled loot)
    (hp : player ∈ recipients.map (·.player)) {n : Nat}
    (hn : n = if loot.playerFFAItems.contains player then 0 else (loot.ffaWindow env player).length)
    (hroom : loot.unlootedCount + n < 256) :
    ∃ loot', (if loot.playerFFAItems.contains player then loot else loot.fillFFALoot env player) =
      loot' ∧ Filling env recipients filled loot' ∧ loot'.unlootedCount = loot.unlootedCount + n ∧
      loot'.items = loot.items ∧
      loot'.playerNonQuestNonFFAConditionalItems = loot.playerNonQuestNonFFAConditionalItems := by
  refine ⟨_, rfl, ?_⟩
  cases hlist : loot.playerFFAItems.contains player with
  | true =>
    rw [hlist] at hn
    subst hn
    exact ⟨h, rfl, rfl, rfl⟩
  | false =>
    rw [hlist] at hn
    subst hn
    exact ⟨h.fillFFALoot hp hlist hroom, add8_of_lt hroom, rfl, rfl⟩

theorem Filling.fillLists (present : Bool) (h : Filling env recipients filled loot)
    (hp : player ∈ recipients.map (·.player))
    (hroom : loot.unlootedCount + loot.newDeliveries env player < 256) :
    Filling env recipients (player :: filled) (loot.fillLists env player present) := by
  -- the three functions read different parts of the loot
  unfold newDeliveries at hroom
  obtain ⟨loot₁, heq₁, h₁, hcount₁, hitems₁, hffa₁, hcond₁⟩ := h.questOnce hp rfl (by omega)
  have hffa : (if loot.playerFFAItems.contains player then 0 else (loot.ffaWindow env player).length) =
      if loot₁.playerFFAItems.contains player then 0 else (loot₁.ffaWindow env player).length := by
    unfold ffaWindow
    rw [hffa₁, hitems₁]
  obtain ⟨loot₂, heq₂, h₂, hcount₂, hitems₂, hcond₂⟩ := h₁.ffaOnce hp hffa (by omega)
  unfold Loot.fillLists
  dsimp only
  rw [heq₁, heq₂, hcond₂, hcond₁]
  have hcounted : loot₂.condCounted env player = loot.condCounted env player := by
    unfold condCounted condWindow
    rw [hitems₂, hitems₁]
  cases hlist : loot.playerNonQuestNonFFAConditionalItems.contains player with
  | true =>
    refine ⟨h₂.tallied, h₂.shared, h₂.fresh, h₂.ffa, h₂.owner, fun p hdone => h₂.cond p ?_⟩
    rcases hdone with hdone | hdone
    · exact .inl hdone
    · rcases mem_cons.1 hdone with rfl | hmem
      · exact .inl (by rw [hcond₂, hcond₁, hlist])
      · exact .inr hmem
  | false =>
    rw [hlist, if_neg Bool.false_ne_true] at hroom
    exact h₂.fillConditional hp (by rw [hcond₂, hcond₁, hlist]) (by rw [hcounted]; omega)

theorem storeLootItem_ffa {lootSlot : Nat}
    (h : ∀ item, loot.items[lootSlot]? = some item → item.freeforall = true) (canStore : Bool) :
    (loot.storeLootItem lootSlot player canStore).1.items = loot.items ∧
      (loot.storeLootItem lootSlot player canStore).1.playerNonQuestNonFFAConditionalItems =
        loot.playerNonQuestNonFFAConditionalItems := by
  rcases storeLootItem_cases loot lootSlot player canStore with heq | ⟨slot, item, hfound, hitem, -, heq⟩
  · rw [heq]
    exact ⟨rfl, rfl⟩
  rw [heq]
  cases hfound with
  | quest hslot hql hq hfree => cases item.freeforall <;> exact ⟨rfl, rfl⟩
  | ffa hitem₀ hffa hq hfree =>
    rw [h item hitem]
    exact ⟨rfl, rfl⟩
  | unregistered hitem₀ hffa hlist hq hfree =>
    rw [h item hitem]
    exact ⟨rfl, rfl⟩
  | cond hitem₀ hffa hne hq hfree => exact absurd ((h _ hitem₀).symm.trans hffa) (by decide)
  | plain hitem₀ hffa hcond hfree => exact absurd ((h _ hitem₀).symm.trans hffa) (by decide)

theorem Filling.storeCurrency {canStore : Nat → Bool} {is : List Nat} :
    ∀ {loot : Loot} {out : List Delivery}, Filling env recipients filled loot →
      CurrencySole env player canStore is loot →
        Filling env recipients filled (Loot.storeCurrency env player canStore is loot out).1 := by
  induction is with
  | nil => exact fun h _ => h
  | cons i is ih =>
    intro loot out h hsole
    unfold CurrencySole at hsole
    unfold Loot.storeCurrency
    dsimp only at hsole ⊢
    set item? := if i < loot.items.length then loot.items[i]?
      else loot.questItems[i - loot.items.length]? with hitem?
    by_cases htest : (item?.any fun item => !item.isLooted && item.freeforall &&
        item.allowedForPlayer env player && env.currencyToken item.itemid) = true
    · rw [if_pos htest] at hsole
      rw [if_pos htest]
      -- the item of the slot, if there is one, is free for all and allowed
      have hslot : ∀ item, loot.items[i]? = some item →
          item.freeforall = true ∧ item.allowedForPlayer env player = true := by
        intro item hitem
        rw [if_pos (List.getElem?_eq_some_iff.1 hitem).1, hitem] at hitem?
        rw [hitem?, Option.any_some, Bool.and_eq_true, Bool.and_eq_true, Bool.and_eq_true] at htest
        exact ⟨htest.1.1.2, htest.1.2⟩
      have htallied := h.tallied.storeLootItem hsole.1 (fun item hitem hf hlist => ?_)
        (fun item hitem hf => absurd ((hslot item hitem).1.symm.trans hf) (by decide)) (canStore i)
      · obtain ⟨hitems, hcond⟩ := @storeLootItem_ffa loot player i (fun item hitem => (hslot item hitem).1)
          (canStore i)
        have hkinds := SameKinds.storeLootItem loot i player (canStore i)
        refine ih ⟨htallied, ⟨?_, ?_⟩, ?_, fun p ql' hql' j item hitem hf hallowed => ?_,
          fun p ql' hql' => ?_, ?_⟩ hsole.2
        · rw [hitems]
          exact h.shared.ffa
        · rw [hitems]
          exact h.shared.cond
        · rw [hitems]
          exact h.fresh
        · rw [hitems] at hitem
          obtain ⟨ql, hql, hidx⟩ := hkinds.ffa p ql' hql'
          obtain ⟨q, hq, hqj⟩ := h.ffa p ql hql j item hitem hf hallowed
          have hmem : j ∈ ql'.map (·.index) := hidx ▸ hqj ▸ mem_map_of_mem hq
          exact mem_map.1 hmem
        · obtain ⟨ql, hql, -⟩ := hkinds.ffa p ql' hql'
          rw [hitems]
          exact h.owner p ql hql
        · rw [hitems, hcond]
          exact h.cond
      · obtain ⟨ql, hql⟩ := Option.isSome_iff_exists.1 hlist
        obtain ⟨q, hq, hidx⟩ := h.ffa player ql hql i item hitem hf (hslot item hitem).2
        unfold registered
        rw [hql]
        intro hnone
        exact find?_eq_none.1 hnone q hq (by simpa using hidx)
    · rw [if_neg htest] at hsole
      rw [if_neg htest]
      exact ih h hsole

theorem Filling.fillFor {r : Recipient} (h : Filling env recipients filled loot) (hr : r ∈ recipients)
    (hroomy : Roomy env loot r) : Filling env recipients (r.player :: filled) (fillFor env loot r) := by
  have hlists := h.fillLists r.presentAtLooting (mem_map_of_mem hr) hroomy.room
  unfold Loot.fillFor fillNotNormalLootFor
  cases hpresent : r.presentAtLooting with
  | false =>
    rw [if_neg Bool.false_ne_true, ← hpresent]
    exact hlists
  | true =>
    have hsole := hroomy.currency hpresent
    rw [hpresent] at hlists hsole
    exact hlists.storeCurrency hsole

end Fill

/-! ## `FillLoot` -/

structure Added (loot : Loot) : Prop where
  quest : loot.playerQuestItems = .empty
  ffa : loot.playerFFAItems = .empty
  cond : loot.playerNonQuestNonFFAConditionalItems = .empty
  items : ∀ item ∈ loot.items, item.isLooted = false ∧ item.isCounted = false
  blocked : ∀ item ∈ loot.questItems, item.isBlocked = false
  length : loot.items.length ≤ maxNrLootItems
  count : loot.unlootedCount = (positions openItem loot.items).length

theorem length_positions_le (p : LootItem → Bool) (items : List LootItem) :
    (positions p items).length ≤ items.length := by
  exact (length_filter_le _ _).trans_eq length_range

theorem length_positions_append (p : LootItem → Bool) (items : List LootItem) (item : LootItem) :
    (positions p (items ++ [item])).length = (positions p items).length + if p item then 1 else 0 := by
  unfold positions
  rw [length_append, length_singleton, range_succ, filter_append, length_append]
  congr 1
  · congr 1
    refine filter_congr fun i hi => ?_
    rw [getElem?_append_left (mem_range.1 hi)]
  · rw [filter_cons, getElem?_append_right (Nat.le_refl _)]
    cases h : p item with
    | true => simp [h]
    | false => simp [h]

theorem Added.addItem (h : loot.Added) (drop : LootStoreItem) : (loot.addItem env drop).Added := by
  unfold Loot.addItem
  cases hq : drop.needsQuest with
  | true =>
    rw [if_pos rfl]
    by_cases hlt : loot.questItems.length < maxNrQuestItems
    · rw [if_pos hlt]
      refine ⟨h.quest, h.ffa, h.cond, h.items, fun item hitem => ?_, h.length, h.count⟩
      rcases mem_append.1 hitem with hold | hnew
      · exact h.blocked item hold
      · rw [mem_singleton.1 hnew]
        rfl
    · rw [if_neg hlt]
      exact h
  | false =>
    rw [if_neg Bool.false_ne_true]
    by_cases hlt : loot.items.length < maxNrLootItems
    · rw [if_pos hlt]
      refine ⟨h.quest, h.ffa, h.cond, fun item hitem => ?_, h.blocked, ?_, ?_⟩
      · rcases mem_append.1 hitem with hold | hnew
        · exact h.items item hold
        · rw [mem_singleton.1 hnew]
          exact ⟨rfl, rfl⟩
      · rw [length_append]
        exact hlt
      · have hle := length_positions_le openItem loot.items
        have hcount := h.count
        have hopen : openItem (drop.lootItem env) = true ↔
            drop.conditions = [] ∧ (drop.lootItem env).freeforall = false := by
          simp only [openItem, LootStoreItem.lootItem, Bool.not_false, Bool.true_and, Bool.or_false,
            Bool.and_eq_true, Bool.not_eq_true']
          exact ⟨fun h => ⟨of_decide_eq_true h.2, h.1⟩, fun h => ⟨h.2, decide_eq_true h.1⟩⟩
        unfold maxNrLootItems at hlt
        rw [length_positions_append, hcount]
        by_cases hcond : drop.conditions = [] ∧ (drop.lootItem env).freeforall = false
        · rw [if_pos hcond, if_pos (hopen.2 hcond)]
          exact add8_of_lt (by omega)
        · rw [if_neg hcond, if_neg fun hp => hcond (hopen.1 hp), add_zero]
    · rw [if_neg hlt]
      exact h

theorem added_foldl (env : Env) (gold : Nat) (drops : List LootStoreItem) :
    (drops.foldl (addItem env) { gold }).Added := by
  have hfold : ∀ loot : Loot, loot.Added → (drops.foldl (addItem env) loot).Added := by
    induction drops with
    | nil => exact fun _ h => h
    | cons drop drops ih => exact fun loot h => ih _ (h.addItem drop)
  exact hfold { gold } ⟨rfl, rfl, rfl, nofun, nofun, Nat.zero_le _, rfl⟩

theorem Added.filling (h : loot.Added) (hshared : Shared env recipients loot) :
    Filling env recipients [] loot := by
  have hregistered : ∀ (p : Guid) (i : Nat) (q : QuestItem),
      registered loot.playerNonQuestNonFFAConditionalItems p i ≠ some q := by
    intro p i q hq
    rw [h.cond] at hq
    cases hq
  have hquest : ∀ p ql, loot.playerQuestItems.find? p ≠ some ql := by
    intro p ql hql
    rw [h.quest] at hql
    cases hql
  have hffa : ∀ p ql, loot.playerFFAItems.find? p ≠ some ql := by
    intro p ql hql
    rw [h.ffa] at hql
    cases hql
  have hpossible : loot.possible = (positions openItem loot.items).length := by
    have hnone : positions openQuest loot.questItems = [] := by
      rw [eq_nil_iff_forall_not_mem]
      intro i hi
      obtain ⟨item, hitem, hopen⟩ := mem_positions.1 hi
      simp [openQuest, h.blocked item (mem_of_getElem? hitem)] at hopen
    unfold possible
    rw [hnone, h.quest, h.ffa]
    rfl
  refine ⟨⟨⟨fun p i q hq => absurd hq (hregistered p i q), fun i item hitem _ _ hcounted => ?_,
    fun p ql hql => absurd hql (hffa p ql), fun p ql hql => absurd hql (hquest p ql),
    fun k item hitem hb => ?_⟩, h.count.trans hpossible.symm, ?_⟩, hshared,
    fun item hitem => (h.items item hitem).1, fun p ql hql => absurd hql (hffa p ql),
    fun p ql hql => absurd hql (hffa p ql), fun p hdone => ?_⟩
  · rw [(h.items item (mem_of_getElem? hitem)).2] at hcounted
    cases hcounted
  · rw [h.blocked item (mem_of_getElem? hitem)] at hb
    cases hb
  · have hle := length_positions_le openItem loot.items
    have hlength := h.length
    unfold maxNrLootItems at hlength
    omega
  · rw [h.cond] at hdone
    rcases hdone with hdone | hdone
    · cases hdone
    · cases hdone

/-- The loop keeps the loot filled for every looter it has come to. -/
theorem Filling.run :
    ∀ {rs : List Recipient} {filled : List Guid} {loot : Loot}, (∀ r ∈ rs, r ∈ recipients) →
      Filling env recipients filled loot → AllSteps (Loot.fillFor env) (Roomy env) loot rs →
        ∃ filled', (∀ r ∈ rs, r.player ∈ filled') ∧ (∀ p ∈ filled, p ∈ filled') ∧
          Filling env recipients filled' (Run.run (Loot.fillFor env) loot rs) := by
  intro rs
  induction rs with
  | nil => exact fun _ h _ => ⟨_, nofun, fun _ hp => hp, h⟩
  | cons r rs ih =>
    intro filled loot hrs h hroomy
    obtain ⟨filled', hmem, hold, hrest⟩ := ih (fun r' hr' => hrs r' (mem_cons_of_mem r hr'))
      (h.fillFor (hrs r mem_cons_self) hroomy.1) hroomy.2
    refine ⟨filled', fun r' hr' => ?_, fun p hp => hold p (mem_cons_of_mem _ hp), hrest⟩
    rcases mem_cons.1 hr' with rfl | hr'
    · exact hold r'.player mem_cons_self
    · exact hmem r' hr'

theorem tallied_fillLoot {gold : Nat} {drops : List LootStoreItem}
    (hshared : Shared env recipients (drops.foldl (addItem env) { gold }))
    (hroomy : AllSteps (fillFor env) (Roomy env) (drops.foldl (addItem env) { gold }) recipients) :
    (fillLoot env gold drops recipients).Tallied (recipients.map (·.player)) ∧
      (fillLoot env gold drops recipients).Covered := by
  obtain ⟨filled, hmem, -, h⟩ := ((added_foldl env gold drops).filling hshared).run (fun r hr => hr) hroomy
  refine ⟨h.tallied, ⟨fun item hitem hf hne => ?_, fun p ql hql i item hitem hf => ?_⟩⟩
  · obtain ⟨r, hr, hallowed⟩ := h.shared.cond item hitem hf hne
    exact h.cond r.player (.inr (hmem r hr)) item hitem hf hne hallowed
  · refine h.ffa p ql hql i item hitem hf ?_
    obtain ⟨r, hr, hrp⟩ := mem_map.1 (h.tallied.linked.ffa p ql hql).1
    obtain ⟨item', hitem', hf', hallowed⟩ := h.owner p ql hql
    rw [← hrp] at hallowed ⊢
    rcases h.shared.ffa r hr with hall | hnone
    · exact hall item (mem_of_getElem? hitem) hf
    · rw [hnone item' hitem' hf'] at hallowed
      cases hallowed

end Loot

namespace World

/-- **The count is exact.** The loot is filled for any group such that eight bits hold the deliveries, each
recipient may take all free-for-all items or none, and some recipient may take any item with conditions. In
every run whose steps hand out what is registered for the receiver alone, or plain items: the count is the
number of deliveries still possible, and the loot is looted if and only if the gold is gone and no recipient
finds anything. -/
theorem exactCount_of_sole {env : Env} {gold : Nat} {drops : List LootStoreItem}
    {recipients : List Loot.Recipient} (hne : recipients ≠ [])
    (hshared : Loot.Shared env recipients (drops.foldl (Loot.addItem env) { gold }))
    (hroomy : AllSteps (Loot.fillFor env) (Loot.Roomy env) (drops.foldl (Loot.addItem env) { gold })
      recipients) {looter : Guid} {es : List Event}
    (hes : AllSteps World.step Sole
      { loot := Loot.fillLoot env gold drops recipients, looterGuid := looter } es) :
    ∀ pre, pre <+: es →
      (run World.step { loot := Loot.fillLoot env gold drops recipients, looterGuid := looter }
        pre).loot.Exact (recipients.map (·.player)) := by
  rintro pre ⟨post, rfl⟩
  obtain ⟨htallied, hcovered⟩ := hes.reaches
    (I := fun w => w.loot.Tallied (recipients.map (·.player)) ∧ w.loot.Covered)
    (fun w e hw he => tallied_step hw.1 hw.2 he) (Loot.tallied_fillLoot hshared hroomy)
  exact htallied.linked.exact hcovered (by simpa using hne) htallied.count

def tableEnv : Env where
  partyLoot item := item = 20
  currencyToken _ := false
  allowedForPlayer player item _ _ := item ≠ 30 || player = 1

def tableDrops : List LootStoreItem := [{ itemid := 10 }, { itemid := 20 }, { itemid := 30, conditions := [7] }]

/-- Seven free-for-all items for a raid of forty do not fit into eight bits; the master looter gives a plain
item twice; an item with a condition is taken by two players who meet it. -/
theorem count_goes_wrong :
    (¬ (Loot.fillLoot tableEnv 0 (replicate 7 { itemid := 20 })
        ((range 40).map fun p => { player := p + 1 })).Exact ((range 40).map (· + 1))) ∧
    (¬ (run World.step
        { loot := (Loot.fillLoot tableEnv 0 [{ itemid := 10 }] [{ player := 1 }]), looterGuid := 1 }
        [.lootMasterGive 1 0 1 true, .lootMasterGive 1 0 1 true]).loot.Exact [1]) ∧
    ¬ (run World.step
        { loot := (Loot.fillLoot tableEnv 0 [{ itemid := 10, conditions := [7] }]
            [{ player := 1 }, { player := 2 }]) }
        [.storeLootItem 1 0 true, .storeLootItem 2 0 true]).loot.Exact [1, 2] := by
  refine ⟨fun h => ?_, fun h => ?_, fun h => ?_⟩
  · exact absurd h.count (by decide +kernel)
  · exact absurd h.count (by decide +kernel)
  · exact absurd h.count (by decide +kernel)

def tableRun : List Event := [.storeLootItem 1 0 true, .storeLootItem 2 1 true, .storeLootItem 1 2 true]

theorem tableRun_exact :
    (Loot.fillLoot tableEnv 0 tableDrops [{ player := 1 }, { player := 2 }]).unlootedCount = 4 ∧
    ∀ pre, pre <+: tableRun →
      (run World.step
        { loot := (Loot.fillLoot tableEnv 0 tableDrops [{ player := 1 }, { player := 2 }]), looterGuid := 0 }
        pre).loot.Exact [1, 2] := by
  have hno : ∀ {p : Guid} {canStore : Nat → Bool} (is : List Nat) (loot : Loot),
      Loot.CurrencySole tableEnv p canStore is loot := by
    intro p canStore is
    induction is with
    | nil => exact fun _ => trivial
    | cons i is ih =>
      intro loot
      unfold Loot.CurrencySole
      simp only [tableEnv, Bool.and_false, Option.any_false, Bool.false_eq_true, if_false]
      exact ih loot
  refine ⟨by decide +kernel, @exactCount_of_sole tableEnv 0 tableDrops [{ player := 1 }, { player := 2 }] (by simp)
    ⟨by decide, by decide⟩ ⟨⟨by decide, fun _ => hno _ _⟩, ⟨by decide +kernel, fun _ => hno _ _⟩, trivial⟩
    0 tableRun ⟨fun _ => ⟨?_, ?_⟩, fun _ => ⟨?_, ?_⟩, fun _ => ⟨?_, ?_⟩, trivial⟩⟩
  · intro item hitem _ hne
    cases hitem
    exact absurd rfl hne
  · intro ql q item hle
    exact absurd hle (by decide)
  · intro item hitem hf
    cases hitem
    cases hf
  · intro ql q item hle
    exact absurd hle (by decide)
  · intro item hitem hf hne hfree p q hq
    obtain ⟨ql, hql, -⟩ := Option.bind_eq_some_iff.1 hq
    have hkey := OrdMap.mem_keys.2 ⟨ql, hql⟩
    exact mem_singleton.1 hkey
  · intro ql q item hle
    exact absurd hle (by decide)

end World

end Axium.Looting
