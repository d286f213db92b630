import Axium.Looting.OneReceiver
import Axium.Looting.Rolls

/-!
# The count of what is left

`unlootedCount` decides when a corpse is empty. It is counted up by four functions while the loot is filled
and down by three when something is taken. Here the count is compared with what is really left: items for one
player, entries in the lists of free-for-all items, and quest items.

Where an item is handed out that several players are registered for, or one that is looted already, the two
part. A step that hands out something else takes one from both: **`tallied_step`**.
-/

namespace Axium.Looting

open Run List OrdMap Option

variable {ql : List QuestItem} {q : QuestItem} {loot' : Loot}

namespace Loot

variable (loot : Loot)

def openItem (item : LootItem) : Bool :=
  !item.isLooted && !item.freeforall && (decide (item.conditions = []) || item.isCounted)

def openQuest (item : LootItem) : Bool := !item.isLooted && !item.freeforall && item.isBlocked

def openQuestFFA (q : QuestItem) : Bool := !q.isLooted && loot.questItems[q.index]?.any (·.freeforall)

def possible : Nat :=
  (positions openItem loot.items).length + (positions openQuest loot.questItems).length +
    loot.playerFFAItems.sum (fun _ ql => ql.countP fun q => !q.isLooted) +
    loot.playerQuestItems.sum fun _ ql => ql.countP loot.openQuestFFA

/-- The count is what is left, and the loot is looted if and only if none of the players finds anything in a
slot. -/
structure Exact (players : List Guid) : Prop where
  count : loot.unlootedCount = loot.possible
  looted : loot.isLooted ↔ loot.gold = 0 ∧ ∀ p ∈ players, ∀ lootSlot, loot.lootItemInSlot lootSlot p = none

/-! ## Positions -/

variable {p : LootItem → Bool}

theorem mem_positions {items : List LootItem} {i : Nat} :
    i ∈ positions p items ↔ ∃ item, items[i]? = some item ∧ p item = true := by
  unfold positions
  rw [mem_filter, mem_range]
  constructor
  · rintro ⟨hi, hp⟩
    rw [getElem?_eq_getElem hi] at hp
    exact ⟨_, getElem?_eq_getElem hi, hp⟩
  · rintro ⟨item, hitem, hp⟩
    exact ⟨(List.getElem?_eq_some_iff.1 hitem).1, by rw [hitem]; exact hp⟩

theorem nodup_positions (p : LootItem → Bool) (items : List LootItem) : (positions p items).Nodup :=
  nodup_range.filter _

theorem length_positions_add {p p' : LootItem → Bool} {items items' : List LootItem} {new : List Nat}
    (hnodup : new.Nodup) (hdisjoint : ∀ i ∈ new, i ∉ positions p items)
    (h : ∀ i, i ∈ positions p' items' ↔ i ∈ positions p items ∨ i ∈ new) :
    (positions p' items').length = (positions p items).length + new.length := by
  have hboth : (positions p items ++ new).Nodup := nodup_append.2
    ⟨nodup_positions p items, hnodup, fun a ha b hb hab => hdisjoint b hb (hab ▸ ha)⟩
  rw [← length_append]
  refine ((perm_ext_iff_of_nodup (nodup_positions _ _) hboth).2 fun i => ?_).length_eq
  rw [h, mem_append]

theorem length_positions_congr {p p' : LootItem → Bool} {items items' : List LootItem}
    (h : ∀ i, i ∈ positions p' items' ↔ i ∈ positions p items) :
    (positions p' items').length = (positions p items).length :=
  length_positions_add nodup_nil nofun fun i => by simp [h i]

theorem getElem?_modify_iff (items : List LootItem) (i j : Nat) (f : LootItem → LootItem) :
    (items.modify i f)[j]? = if i = j then items[j]?.map f else items[j]? := by
  by_cases h : i = j
  · subst h
    rw [if_pos rfl, getElem?_modify_eq]
    rfl
  · rw [if_neg h, getElem?_modify_ne _ _ h]

theorem length_positions_modify {items : List LootItem} {i : Nat} {item : LootItem}
    {f : LootItem → LootItem} (hitem : items[i]? = some item) (hp : p item = true) (hf : p (f item) = false) :
    (positions p (items.modify i f)).length + 1 = (positions p items).length := by
  have h := @length_positions_add p p (items.modify i f) items [i] (nodup_singleton i) ?_ ?_
  · rw [h, length_singleton]
  · intro j hj hmem
    rw [mem_singleton.1 hj] at hmem
    obtain ⟨item', hi', hp'⟩ := mem_positions.1 hmem
    rw [getElem?_modify_iff, if_pos rfl, hitem] at hi'
    rw [← some.inj hi', hf] at hp'
    cases hp'
  · intro j
    rw [mem_positions, mem_positions, getElem?_modify_iff]
    by_cases hij : i = j
    · subst hij
      simp [hitem, hp]
    · rw [if_neg hij]
      simp [Ne.symm hij]

theorem length_positions_modify_same (items : List LootItem) (i : Nat)
    {f : LootItem → LootItem} (hf : ∀ item, items[i]? = some item → p (f item) = p item) :
    (positions p (items.modify i f)).length = (positions p items).length := by
  refine length_positions_congr fun j => ?_
  rw [mem_positions, mem_positions, getElem?_modify_iff]
  by_cases hij : i = j
  · subst hij
    cases hitem : items[i]? with
    | none => simp
    | some item => simp [hf item hitem]
  · rw [if_neg hij]

end Loot

/-! ## Entries -/

theorem countP_modify {α : Type} {p : α → Bool} {l : List α} {j : Nat} {a : α} {f : α → α}
    (h : l[j]? = some a) :
    (l.modify j f).countP p + (if p a then 1 else 0) = l.countP p + if p (f a) then 1 else 0 := by
  induction l generalizing j with
  | nil => cases h
  | cons b l ih =>
    cases j with
    | zero =>
      rw [getElem?_cons_zero, some.injEq] at h
      subst h
      rw [modify_zero_cons, countP_cons, countP_cons]
      omega
    | succ j =>
      rw [modify_succ_cons, countP_cons, countP_cons]
      have hrest := ih h
      omega

theorem countP_markLooted {i : Nat}
    (hq : ql.find? (·.index = i) = some q) (hfree : q.isLooted = false) :
    (Loot.markLooted i ql).countP (fun q => !q.isLooted) + 1 = ql.countP fun q => !q.isLooted := by
  induction ql with
  | nil => cases hq
  | cons r ql ih =>
    unfold Loot.markLooted
    by_cases hr : r.index = i
    · rw [find?_cons_of_pos (by simpa using hr), some.injEq] at hq
      subst hq
      rw [if_pos hr]
      simp [hfree]
    · rw [find?_cons_of_neg (by simpa using hr)] at hq
      rw [if_neg hr, countP_cons, countP_cons, ← ih hq]
      omega

namespace Loot

/-! ## The lists and the items -/

/-- The lists of the players and the flags of the items agree. -/
structure Linked (players : List Guid) (loot : Loot) : Prop where
  cond : ∀ p i q, registered loot.playerNonQuestNonFFAConditionalItems p i = some q →
    p ∈ players ∧ ∃ item, loot.items[i]? = some item ∧ item.conditions ≠ [] ∧ q.isLooted = item.isLooted
  condBack : ∀ i item, loot.items[i]? = some item → item.freeforall = false → item.conditions ≠ [] →
    item.isCounted = true → ∃ p q, registered loot.playerNonQuestNonFFAConditionalItems p i = some q
  ffa : ∀ p ql, loot.playerFFAItems.find? p = some ql →
    p ∈ players ∧ (ql.map (·.index)).Nodup ∧
      ∀ q ∈ ql, ∃ item, loot.items[q.index]? = some item ∧ item.freeforall = true
  quest : ∀ p ql, loot.playerQuestItems.find? p = some ql →
    p ∈ players ∧ (ql.map (·.index)).Nodup ∧
      ∀ q ∈ ql, ∃ item, loot.questItems[q.index]? = some item ∧ item.isBlocked = true ∧
        (item.freeforall = false → q.isLooted = item.isLooted)
  questBack : ∀ k item, loot.questItems[k]? = some item → item.isBlocked = true →
    ∃ p ql q, loot.playerQuestItems.find? p = some ql ∧ q ∈ ql ∧ q.index = k

/-- Somebody meets the conditions of every item, and who has a list of free-for-all items has all of them. -/
structure Covered (loot : Loot) : Prop where
  cond : ∀ item ∈ loot.items, item.freeforall = false → item.conditions ≠ [] → item.isCounted = true
  ffa : ∀ p ql, loot.playerFFAItems.find? p = some ql → ∀ i item, loot.items[i]? = some item →
    item.freeforall = true → ∃ q ∈ ql, q.index = i

variable {loot : Loot} {players : List Guid}

theorem possible_eq_zero : loot.possible = 0 ↔
    (∀ (i : Nat) item, loot.items[i]? = some item → openItem item = false) ∧
    (∀ (i : Nat) item, loot.questItems[i]? = some item → openQuest item = false) ∧
    (∀ p ql, loot.playerFFAItems.find? p = some ql → ∀ q ∈ ql, q.isLooted = true) ∧
    ∀ p ql, loot.playerQuestItems.find? p = some ql → ∀ q ∈ ql, loot.openQuestFFA q = false := by
  have hpos : ∀ (p : LootItem → Bool) (items : List LootItem), (positions p items).length = 0 ↔
        ∀ (i : Nat) item, items[i]? = some item → p item = false := by
    intro p items
    rw [length_eq_zero_iff, eq_nil_iff_forall_not_mem]
    refine forall_congr' fun i => ?_
    rw [mem_positions]
    simp
  have hsum : ∀ (m : OrdMap Guid (List QuestItem)) (c : QuestItem → Bool), m.sum (fun _ ql => ql.countP c) = 0 ↔
        ∀ p ql, m.find? p = some ql → ∀ q ∈ ql, c q = false := by
    intro m c
    constructor
    · intro hzero p ql hp q hq
      have hle := le_sum (fun _ ql => ql.countP c) hp
      have hnone : ql.countP c = 0 := Nat.le_zero.1 (hzero ▸ hle)
      exact Bool.eq_false_iff.2 (countP_eq_zero.1 hnone q hq)
    · intro h
      by_contra hne
      obtain ⟨p, ql, hp, hcount⟩ := exists_of_sum_ne_zero hne
      refine hcount (countP_eq_zero.2 fun q hq => ?_)
      rw [h p ql hp q hq]
      exact Bool.false_ne_true
  unfold possible
  rw [Nat.add_eq_zero_iff, Nat.add_eq_zero_iff, Nat.add_eq_zero_iff, hpos, hpos, hsum, hsum]
  simp only [Bool.not_eq_false']
  tauto

theorem Linked.possible_ne_zero (hl : loot.Linked players) (hc : loot.Covered) {p : Guid} {lootSlot : Nat}
    {slot : Slot} (h : loot.Found p lootSlot slot) : loot.possible ≠ 0 := by
  intro hzero
  obtain ⟨hitems, hquest, hffa, hquestFFA⟩ := possible_eq_zero.1 hzero
  cases h with
  | @quest ql q hslot hql hq hfree =>
    have hmem : q ∈ ql := mem_of_getElem? hq
    obtain ⟨item, hitem, hblocked, hsame⟩ := (hl.quest p ql hql).2.2 q hmem
    have hopen := hquest q.index item hitem
    have hopenFFA := hquestFFA p ql hql q hmem
    unfold openQuest at hopen
    unfold openQuestFFA at hopenFFA
    rw [hitem] at hopenFFA
    cases hf : item.freeforall with
    | true => simp [hf, hfree] at hopenFFA
    | false => simp [hf, hblocked, ← hsame hf, hfree] at hopen
  | @ffa item q hitem hf hq hfree =>
    obtain ⟨ql, hql, hq⟩ := bind_eq_some_iff.1 hq
    rw [hffa p ql hql q (mem_of_find?_eq_some hq)] at hfree
    cases hfree
  | @unregistered item hitem hf hlist hq hfree =>
    obtain ⟨ql, hql⟩ := isSome_iff_exists.1 hlist
    obtain ⟨q, hqm, hidx⟩ := hc.ffa p ql hql lootSlot item hitem hf
    unfold registered at hq
    rw [hql, bind_some, find?_eq_none] at hq
    exact hq q hqm (by simpa using hidx)
  | @cond item q hitem hf hcond hq hfree =>
    obtain ⟨-, item', hitem', -, hsame⟩ := hl.cond p lootSlot q hq
    have heq : item' = item := some.inj (hitem'.symm.trans hitem)
    subst heq
    have hopen := hitems lootSlot item' hitem
    have hcounted := hc.cond item' (mem_of_getElem? hitem) hf hcond
    unfold openItem at hopen
    simp [hf, hcounted, ← hsame, hfree] at hopen
  | @plain item hitem hf hcond hfree =>
    have hopen := hitems lootSlot item hitem
    unfold openItem at hopen
    by_cases hnone : item.conditions = []
    · simp [hf, hfree, hnone] at hopen
    · have hcounted := hc.cond item (mem_of_getElem? hitem) hf hnone
      simp [hf, hfree, hcounted] at hopen

theorem find?_of_nodup (hnodup : (ql.map (·.index)).Nodup)
    (hq : q ∈ ql) : ql.find? (·.index = q.index) = some q := by
  cases hfind : ql.find? (·.index = q.index) with
  | none => exact absurd (find?_eq_none.1 hfind q hq) (by simp)
  | some r =>
    have hidx : r.index = q.index := by simpa using find?_some hfind
    rw [inj_on_of_nodup_map hnodup (mem_of_find?_eq_some hfind) hq hidx]

theorem lootItemInSlot_quest {p : Guid}
    (hql : loot.playerQuestItems.find? p = some ql) (hq : q ∈ ql) (hfree : q.isLooted = false) :
    ∃ lootSlot, loot.lootItemInSlot lootSlot p ≠ none := by
  obtain ⟨j, hj⟩ := mem_iff_getElem?.1 hq
  refine ⟨loot.items.length + j, ?_⟩
  unfold lootItemInSlot
  simp [hql, hj, hfree]

theorem Linked.found_of_possible (hl : loot.Linked players) (hplayers : players ≠ [])
    (h : loot.possible ≠ 0) : ∃ p ∈ players, ∃ lootSlot, loot.lootItemInSlot lootSlot p ≠ none := by
  by_contra hnone
  push Not at hnone
  refine h (possible_eq_zero.2 ⟨fun i item hitem => ?_, fun k item hitem => ?_, fun p ql hql q hq => ?_,
    fun p ql hql q hq => ?_⟩)
  · by_contra hopen
    rw [Bool.not_eq_false, openItem, Bool.and_eq_true, Bool.and_eq_true, Bool.not_eq_true',
      Bool.not_eq_true'] at hopen
    obtain ⟨⟨hfree, hf⟩, hcounted⟩ := hopen
    by_cases hcond : item.conditions = []
    · obtain ⟨p, hp⟩ := exists_mem_of_ne_nil players hplayers
      have hslot := hnone p hp i
      unfold lootItemInSlot at hslot
      simp [hitem, hf, hcond, hfree] at hslot
    · obtain ⟨p, q, hq⟩ := hl.condBack i item hitem hf hcond (by simpa [hcond] using hcounted)
      obtain ⟨hp, item', hitem', -, hsame⟩ := hl.cond p i q hq
      have heq : item' = item := some.inj (hitem'.symm.trans hitem)
      have hqfree : q.isLooted = false := by rw [hsame, heq, hfree]
      have hslot := hnone p hp i
      unfold lootItemInSlot at hslot
      simp [hitem, hf, hcond, hq, hqfree] at hslot
  · by_contra hopen
    rw [Bool.not_eq_false, openQuest, Bool.and_eq_true, Bool.and_eq_true, Bool.not_eq_true',
      Bool.not_eq_true'] at hopen
    obtain ⟨⟨hfree, hf⟩, hblocked⟩ := hopen
    obtain ⟨p, ql, q, hql, hq, hidx⟩ := hl.questBack k item hitem hblocked
    obtain ⟨hp, -, hentries⟩ := hl.quest p ql hql
    obtain ⟨item', hitem', -, hsame⟩ := hentries q hq
    rw [hidx] at hitem'
    have heq : item' = item := some.inj (hitem'.symm.trans hitem)
    subst heq
    obtain ⟨lootSlot, hslot⟩ := lootItemInSlot_quest hql hq ((hsame hf).trans hfree)
    exact hslot (hnone p hp lootSlot)
  · by_contra hfree
    obtain ⟨hp, hnodup, hentries⟩ := hl.ffa p ql hql
    obtain ⟨item, hitem, hf⟩ := hentries q hq
    have hslot := hnone p hp q.index
    have hreg : registered loot.playerFFAItems p q.index = some q := by
      unfold registered
      rw [hql, bind_some, find?_of_nodup hnodup hq]
    have hlist : loot.playerFFAItems.contains p = true := by
      unfold OrdMap.contains
      rw [hql]
      rfl
    unfold lootItemInSlot at hslot
    simp [hitem, hf, hlist, hreg, hfree] at hslot
  · by_contra hopen
    rw [Bool.not_eq_false, openQuestFFA, Bool.and_eq_true, Bool.not_eq_true'] at hopen
    obtain ⟨hp, -, -⟩ := hl.quest p ql hql
    obtain ⟨lootSlot, hslot⟩ := lootItemInSlot_quest hql hq hopen.1
    exact hslot (hnone p hp lootSlot)

theorem found_of_ne_none {p : Guid} {lootSlot : Nat} (h : loot.lootItemInSlot lootSlot p ≠ none) :
    ∃ slot, loot.Found p lootSlot slot := by
  obtain ⟨slot, hslot⟩ := ne_none_iff_exists'.1 h
  exact ⟨slot, found_of_lootItemInSlot hslot⟩

theorem Linked.exact (hl : loot.Linked players) (hc : loot.Covered) (hplayers : players ≠ [])
    (hcount : loot.unlootedCount = loot.possible) : loot.Exact players := by
  refine ⟨hcount, ?_⟩
  unfold isLooted
  rw [hcount]
  refine and_congr_right fun _ => ?_
  constructor
  · intro hzero p hp lootSlot
    by_contra hne
    obtain ⟨slot, hslot⟩ := found_of_ne_none hne
    exact hl.possible_ne_zero hc hslot hzero
  · intro hnone
    by_contra hne
    obtain ⟨p, hp, lootSlot, hslot⟩ := hl.found_of_possible hplayers hne
    exact hslot (hnone p hp lootSlot)

/-! ## Taking an item -/

/-- `unlootedCount` is what can still be taken. -/
structure Tallied (players : List Guid) (loot : Loot) : Prop where
  linked : loot.Linked players
  count : loot.unlootedCount = loot.possible
  small : loot.possible < 256

theorem dec8_eq {a b : Nat} (h : b + 1 = a) (ha : a < 256) : dec8 a = b := by
  unfold dec8
  omega

theorem Tallied.take (h : loot.Tallied players) (hlinked : loot'.Linked players)
    (hcount : loot'.unlootedCount = dec8 loot.unlootedCount)
    (hpossible : loot'.possible + 1 = loot.possible) : loot'.Tallied players := by
  have hsmall := h.small
  refine ⟨hlinked, ?_, by omega⟩
  rw [hcount, h.count]
  exact dec8_eq hpossible hsmall

def setItem (loot : Loot) (i : Nat) (f : LootItem → LootItem) : Loot :=
  { loot with items := loot.items.modify i f }

section SetItem

variable {i : Nat} {f : LootItem → LootItem}

variable {item : LootItem}

theorem getElem?_setItem_of {j : Nat} (h : loot.items[j]? = some item) :
    (loot.setItem i f).items[j]? = some (if i = j then f item else item) := by
  change (loot.items.modify i f)[j]? = _
  rw [getElem?_modify_iff, h]
  by_cases hij : i = j
  · rw [if_pos hij, if_pos hij]
    rfl
  · rw [if_neg hij, if_neg hij]

theorem getElem?_setItem {j : Nat} {item' : LootItem} (h : (loot.setItem i f).items[j]? = some item') :
    ∃ item, loot.items[j]? = some item ∧ item' = if i = j then f item else item := by
  cases hitem : loot.items[j]? with
  | none =>
    change (loot.items.modify i f)[j]? = _ at h
    rw [getElem?_modify_iff, hitem] at h
    simp at h
  | some item => exact ⟨item, rfl, some.inj (h.symm.trans (getElem?_setItem_of hitem))⟩

def KeepsKind (f : LootItem → LootItem) : Prop :=
  ∀ item, (f item).freeforall = item.freeforall ∧ (f item).conditions = item.conditions ∧
    (f item).isCounted = item.isCounted

theorem KeepsKind.ite (hf : KeepsKind f) (c : Prop) [Decidable c] :
    KeepsKind fun item => if c then f item else item := by
  intro item
  by_cases h : c
  · simp only [if_pos h]
    exact hf item
  · simp only [if_neg h, and_self]

theorem Linked.setItem (hl : loot.Linked players) (hf : KeepsKind f)
    {m : OrdMap Guid (List QuestItem)}
    (hcond : ∀ p j q, registered m p j = some q →
      p ∈ players ∧ ∃ item, loot.items[j]? = some item ∧ item.conditions ≠ [] ∧
        q.isLooted = (if i = j then f item else item).isLooted)
    (hback : ∀ p j q, registered loot.playerNonQuestNonFFAConditionalItems p j = some q →
      ∃ q', registered m p j = some q') :
    Linked players
      { loot.setItem i f with playerNonQuestNonFFAConditionalItems := m } where
  cond p j q hq := by
    obtain ⟨hp, item, hitem, hne, hsame⟩ := hcond p j q hq
    exact ⟨hp, _, getElem?_setItem_of hitem, by rwa [(hf.ite (i = j) item).2.1], hsame⟩
  condBack j item' hitem' hffa hne hcounted := by
    obtain ⟨item, hitem, rfl⟩ := getElem?_setItem hitem'
    rw [(hf.ite (i = j) item).1] at hffa
    rw [(hf.ite (i = j) item).2.1] at hne
    rw [(hf.ite (i = j) item).2.2] at hcounted
    obtain ⟨p, q, hq⟩ := hl.condBack j item hitem hffa hne hcounted
    exact ⟨p, hback p j q hq⟩
  ffa p ql hql := by
    obtain ⟨hp, hnodup, hentries⟩ := hl.ffa p ql hql
    refine ⟨hp, hnodup, fun q hq => ?_⟩
    obtain ⟨item, hitem, hffa⟩ := hentries q hq
    exact ⟨_, getElem?_setItem_of hitem, by rwa [(hf.ite (i = q.index) item).1]⟩
  quest := hl.quest
  questBack := hl.questBack

theorem possible_setItem (hitem : loot.items[i]? = some item)
    (hopen : openItem item = true) (hclosed : openItem (f item) = false) :
    (loot.setItem i f).possible + 1 = loot.possible := by
  have h := @length_positions_modify openItem loot.items i item f hitem hopen hclosed
  unfold possible
  change (positions openItem (loot.items.modify i f)).length + _ + _ + _ + 1 = _
  change _ + (positions openQuest loot.questItems).length + loot.playerFFAItems.sum _ +
    loot.playerQuestItems.sum (fun _ ql => ql.countP loot.openQuestFFA) + 1 = _
  omega

theorem Tallied.takePlain (h : loot.Tallied players)
    (hitem : loot.items[i]? = some item) (hffa : item.freeforall = false)
    (hcond : item.conditions = []) (hfree : item.isLooted = false) (hf : KeepsKind f)
    (hlooted : (f item).isLooted = true) :
    Tallied players { loot.setItem i f with unlootedCount := dec8 loot.unlootedCount } := by
  have hlinked := h.linked.setItem (m := loot.playerNonQuestNonFFAConditionalItems) (i := i) hf
    (fun p j q hq => by
      obtain ⟨hp, item', hitem', hne, hsame⟩ := h.linked.cond p j q hq
      have hij : i ≠ j := by
        rintro rfl
        exact hne (some.inj (hitem'.symm.trans hitem) ▸ hcond)
      exact ⟨hp, item', hitem', hne, by rwa [if_neg hij]⟩)
    fun p j q hq => ⟨q, hq⟩
  have hpossible : (loot.setItem i f).possible + 1 = loot.possible :=
    possible_setItem hitem (by simp [openItem, hffa, hcond, hfree]) (by simp [openItem, hlooted])
  exact h.take ⟨hlinked.cond, hlinked.condBack, hlinked.ffa, hlinked.quest, hlinked.questBack⟩ rfl hpossible

end SetItem

structure StoresSole (loot : Loot) (player : Guid) (lootSlot : Nat) : Prop where
  cond : ∀ item, loot.items[lootSlot]? = some item → item.freeforall = false → item.conditions ≠ [] →
    item.isLooted = false → ∀ p q,
      registered loot.playerNonQuestNonFFAConditionalItems p lootSlot = some q → p = player
  quest : ∀ ql q item, loot.items.length ≤ lootSlot → loot.playerQuestItems.find? player = some ql →
    ql[lootSlot - loot.items.length]? = some q → loot.questItems[q.index]? = some item →
      item.freeforall = false → q.isLooted = false → ∀ p ql' q',
        loot.playerQuestItems.find? p = some ql' → q' ∈ ql' → q'.index = q.index → p = player

section Store

variable {player : Guid} {lootSlot : Nat}

theorem map_index_markLooted (i : Nat) (ql : List QuestItem) :
    (markLooted i ql).map (·.index) = ql.map (·.index) := by
  induction ql with
  | nil => rfl
  | cons r ql ih =>
    unfold markLooted
    by_cases hr : r.index = i
    · rw [if_pos hr]
      rfl
    · rw [if_neg hr, map_cons, map_cons, ih]

theorem Tallied.takeFFA (h : loot.Tallied players)
    (hq : registered loot.playerFFAItems player lootSlot = some q) (hfree : q.isLooted = false) :
    Tallied players
      { loot with
        playerFFAItems := loot.playerFFAItems.modify player (markLooted lootSlot)
        unlootedCount := dec8 loot.unlootedCount } := by
  obtain ⟨ql, hql, hfind⟩ := bind_eq_some_iff.1 hq
  have hindex := map_index_markLooted lootSlot
  refine h.take ⟨h.linked.cond, h.linked.condBack, fun p ql' hp => ?_, h.linked.quest,
    h.linked.questBack⟩ rfl ?_
  · dsimp only at hp
    rw [find?_modify] at hp
    by_cases hpp : player = p
    · subst hpp
      rw [if_pos rfl, hql, map_some, some.injEq] at hp
      subst hp
      obtain ⟨hmem, hnodup, hentries⟩ := h.linked.ffa player ql hql
      refine ⟨hmem, by rwa [hindex], fun q' hq' => ?_⟩
      have hidx : q'.index ∈ ql.map (·.index) := hindex ql ▸ mem_map_of_mem hq'
      obtain ⟨q₀, hq₀, hsame⟩ := mem_map.1 hidx
      rw [← hsame]
      exact hentries q₀ hq₀
    · rw [if_neg hpp] at hp
      exact h.linked.ffa p ql' hp
  · have hcount := countP_markLooted hfind hfree
    have hsum := sum_modify (fun _ ql => ql.countP fun q => !q.isLooted) (markLooted lootSlot) hql
    unfold possible
    dsimp only
    change _ + _ + (loot.playerFFAItems.modify player (markLooted lootSlot)).sum _ +
      loot.playerQuestItems.sum (fun _ ql => ql.countP loot.openQuestFFA) + 1 = _
    omega

theorem Tallied.takeCond (h : loot.Tallied players) (hsole : loot.StoresSole player lootSlot)
    {item : LootItem} (hitem : loot.items[lootSlot]? = some item)
    (hffa : item.freeforall = false) (hcond : item.conditions ≠ []) (hcounted : item.isCounted = true)
    (hq : registered loot.playerNonQuestNonFFAConditionalItems player lootSlot = some q)
    (hfree : q.isLooted = false) :
    Tallied players
      { loot.setItem lootSlot (fun item => { item with isLooted := true }) with
        playerNonQuestNonFFAConditionalItems :=
          loot.playerNonQuestNonFFAConditionalItems.modify player (markLooted lootSlot)
        unlootedCount := dec8 loot.unlootedCount } := by
  have hitemFree : item.isLooted = false := by
    obtain ⟨-, item', hitem', -, hsame⟩ := h.linked.cond player lootSlot q hq
    rw [← some.inj (hitem'.symm.trans hitem), ← hsame, hfree]
  have hlinked := h.linked.setItem (i := lootSlot) (f := fun item => { item with isLooted := true })
    (m := loot.playerNonQuestNonFFAConditionalItems.modify player (markLooted lootSlot))
    (fun item => ⟨rfl, rfl, rfl⟩) (fun p j r hr => ?_) fun p j r hr => ?_
  · have hpossible := @possible_setItem loot lootSlot (fun item => { item with isLooted := true }) item
      hitem (by simp [openItem, hffa, hcounted, hitemFree]) (by simp [openItem])
    exact h.take ⟨hlinked.cond, hlinked.condBack, hlinked.ffa, hlinked.quest, hlinked.questBack⟩ rfl hpossible
  · rw [registered_modify_markLooted] at hr
    by_cases hown : player = p ∧ lootSlot = j
    · rw [if_pos hown, map_eq_some_iff] at hr
      obtain ⟨r₀, hr₀, rfl⟩ := hr
      obtain ⟨hp, item', hitem', hne, -⟩ := h.linked.cond p j r₀ hr₀
      exact ⟨hp, item', hitem', hne, by rw [if_pos hown.2]⟩
    · rw [if_neg hown] at hr
      obtain ⟨hp, item', hitem', hne, hsame⟩ := h.linked.cond p j r hr
      refine ⟨hp, item', hitem', hne, ?_⟩
      by_cases hj : lootSlot = j
      · subst hj
        exact absurd ⟨(hsole.cond item hitem hffa hcond hitemFree p r hr).symm, rfl⟩ hown
      · rwa [if_neg hj]
  · rw [registered_modify_markLooted, hr]
    by_cases hown : player = p ∧ lootSlot = j
    · rw [if_pos hown]
      exact ⟨_, rfl⟩
    · rw [if_neg hown]
      exact ⟨r, rfl⟩

section Quest

variable {ql : List QuestItem} {j : Nat} {q : QuestItem}

def markAt (j : Nat) (ql : List QuestItem) : List QuestItem :=
  ql.modify j fun q => { q with isLooted := true }

theorem map_index_markAt (j : Nat) (ql : List QuestItem) : (markAt j ql).map (·.index) = ql.map (·.index) := by
  refine ext_getElem? fun n => ?_
  unfold markAt
  rw [getElem?_map, getElem?_map, getElem?_modify]
  cases ql[n]? with
  | none => rfl
  | some q => by_cases hn : j = n <;> simp [hn]

theorem mem_markAt (hnodup : (ql.map (·.index)).Nodup) (hq : ql[j]? = some q) {q' : QuestItem}
    (h : q' ∈ markAt j ql) : q' = { q with isLooted := true } ∨ q' ∈ ql ∧ q'.index ≠ q.index := by
  obtain ⟨n, hn⟩ := mem_iff_getElem?.1 h
  unfold markAt at hn
  rw [getElem?_modify] at hn
  by_cases hjn : j = n
  · subst hjn
    rw [hq] at hn
    left
    simpa using hn.symm
  · right
    have hold : ql[n]? = some q' := by simpa [hjn] using hn
    refine ⟨mem_of_getElem? hold, fun hidx => hjn ?_⟩
    have hjlt := (List.getElem?_eq_some_iff.1 hq).1
    refine (List.getElem?_inj (by simpa using hjlt) hnodup).1 ?_
    rw [getElem?_map, getElem?_map, hq, hold, map_some, map_some, hidx]

theorem Tallied.linked_markQuest (h : loot.Tallied players) {questItems' : List LootItem}
    (hql : loot.playerQuestItems.find? player = some ql) (hq : ql[j]? = some q)
    (hitems : ∀ (k : Nat) item, loot.questItems[k]? = some item → ∃ item', questItems'[k]? = some item' ∧
      item'.isBlocked = item.isBlocked ∧ item'.freeforall = item.freeforall ∧
      (k ≠ q.index → item'.isLooted = item.isLooted) ∧
      (k = q.index → item.freeforall = false → item'.isLooted = true))
    (hback : ∀ (k : Nat) item', questItems'[k]? = some item' → ∃ item, loot.questItems[k]? = some item ∧
      item'.isBlocked = item.isBlocked)
    (hsole : ∀ item, loot.questItems[q.index]? = some item → item.freeforall = false → ∀ p ql' q',
      loot.playerQuestItems.find? p = some ql' → q' ∈ ql' → q'.index = q.index → p = player) :
    Linked players
      { loot with
        playerQuestItems := loot.playerQuestItems.modify player (markAt j)
        questItems := questItems'
        unlootedCount := dec8 loot.unlootedCount } := by
  refine ⟨h.linked.cond, h.linked.condBack, h.linked.ffa, fun p ql' hp => ?_, fun k item' hk hb => ?_⟩
  · dsimp only at hp ⊢
    rw [find?_modify] at hp
    by_cases hpp : player = p
    · subst hpp
      rw [if_pos rfl, hql, map_some, some.injEq] at hp
      subst hp
      obtain ⟨hmem, hnodup, hentries⟩ := h.linked.quest player ql hql
      refine ⟨hmem, by rwa [map_index_markAt], fun q' hq' => ?_⟩
      rcases mem_markAt hnodup hq hq' with rfl | ⟨hold, hne⟩
      · obtain ⟨item, hitem, hb, -⟩ := hentries q (mem_of_getElem? hq)
        obtain ⟨item', hitem', hb', hf', -, hlooted⟩ := hitems q.index item hitem
        exact ⟨item', hitem', hb'.trans hb, fun hf => (hlooted rfl (hf' ▸ hf)).symm⟩
      · obtain ⟨item, hitem, hb, hsame⟩ := hentries q' hold
        obtain ⟨item', hitem', hb', hf', hlooted, -⟩ := hitems q'.index item hitem
        exact ⟨item', hitem', hb'.trans hb, fun hf => (hsame (hf' ▸ hf)).trans (hlooted hne).symm⟩
    · rw [if_neg hpp] at hp
      obtain ⟨hmem, hnodup, hentries⟩ := h.linked.quest p ql' hp
      refine ⟨hmem, hnodup, fun q' hq' => ?_⟩
      obtain ⟨item, hitem, hb, hsame⟩ := hentries q' hq'
      obtain ⟨item', hitem', hb', hf', hlooted, -⟩ := hitems q'.index item hitem
      refine ⟨item', hitem', hb'.trans hb, fun hf => (hsame (hf' ▸ hf)).trans (hlooted ?_).symm⟩
      intro hidx
      exact hpp (hsole item (hidx ▸ hitem) (hf' ▸ hf) p ql' q' hp hq' hidx).symm
  · dsimp only at hk ⊢
    obtain ⟨item, hitem, hb'⟩ := hback k item' hk
    obtain ⟨p, ql', q', hp, hq', hidx⟩ := h.linked.questBack k item hitem (hb' ▸ hb)
    rw [← hidx]
    by_cases hpp : player = p
    · subst hpp
      have hmem : q'.index ∈ (markAt j ql').map (·.index) := by
        rw [map_index_markAt]
        exact mem_map_of_mem hq'
      obtain ⟨r, hr, hrk⟩ := mem_map.1 hmem
      exact ⟨player, markAt j ql', r, by rw [find?_modify, if_pos rfl, hp]; rfl, hr, hrk⟩
    · exact ⟨p, ql', q', by rw [find?_modify, if_neg hpp]; exact hp, hq', rfl⟩

theorem Tallied.takeQuest (h : loot.Tallied players) (hql : loot.playerQuestItems.find? player = some ql)
    (hq : ql[j]? = some q) (hfree : q.isLooted = false) {item : LootItem}
    (hitem : loot.questItems[q.index]? = some item) (hffa : item.freeforall = false)
    (hsole : ∀ p ql' q', loot.playerQuestItems.find? p = some ql' → q' ∈ ql' → q'.index = q.index →
      p = player) :
    Tallied players
      { loot with
        playerQuestItems := loot.playerQuestItems.modify player (markAt j)
        questItems := loot.questItems.modify q.index fun item => { item with isLooted := true }
        unlootedCount := dec8 loot.unlootedCount } := by
  set mark : LootItem → LootItem := fun item => { item with isLooted := true } with hmark
  obtain ⟨item₀, hitem₀, hblocked, hsame⟩ := (h.linked.quest player ql hql).2.2 q (mem_of_getElem? hq)
  have heq : item₀ = item := some.inj (hitem₀.symm.trans hitem)
  subst heq
  refine h.take (h.linked_markQuest hql hq (fun k item' hk => ?_) (fun k item' hk => ?_)
    fun _ _ _ => hsole) rfl ?_
  · refine ⟨if q.index = k then mark item' else item', ?_, ?_⟩
    · rw [getElem?_modify_iff, hk]
      by_cases hk' : q.index = k
      · rw [if_pos hk', if_pos hk']
        rfl
      · rw [if_neg hk', if_neg hk']
    · by_cases hk' : q.index = k
      · rw [if_pos hk']
        exact ⟨rfl, rfl, fun hne => absurd hk'.symm hne, fun _ _ => rfl⟩
      · rw [if_neg hk']
        exact ⟨rfl, rfl, fun _ => rfl, fun heq => absurd heq.symm hk'⟩
  · rw [getElem?_modify_iff] at hk
    by_cases hk' : q.index = k
    · rw [if_pos hk', map_eq_some_iff] at hk
      obtain ⟨item, hitem, rfl⟩ := hk
      exact ⟨item, hitem, rfl⟩
    · rw [if_neg hk'] at hk
      exact ⟨item', hk, rfl⟩
  · have hpos := @length_positions_modify openQuest loot.questItems q.index item₀ mark hitem
      (by simp [openQuest, hffa, hblocked, ← hsame hffa, hfree]) (by simp [openQuest, hmark])
    -- the lists do not change what they say of free-for-all items
    have hopen : ∀ r, openQuestFFA { loot with questItems := loot.questItems.modify q.index mark } r =
        loot.openQuestFFA r := by
      intro r
      unfold openQuestFFA
      rw [getElem?_modify_iff]
      by_cases hr : q.index = r.index
      · rw [if_pos hr]
        cases loot.questItems[r.index]? with
        | none => rfl
        | some item => rfl
      · rw [if_neg hr]
    have hcount := @countP_modify _ loot.openQuestFFA ql j q (fun q => { q with isLooted := true }) hq
    have hclosed : loot.openQuestFFA q = false := by simp [openQuestFFA, hitem, hffa]
    have hclosed' : loot.openQuestFFA { q with isLooted := true } = false := by simp [openQuestFFA]
    rw [hclosed, hclosed'] at hcount
    have hsum := sum_modify (fun _ ql => ql.countP loot.openQuestFFA) (markAt j) hql
    unfold markAt at hsum
    unfold possible
    change (positions openItem loot.items).length +
      (positions openQuest (loot.questItems.modify q.index mark)).length + loot.playerFFAItems.sum _ +
      (loot.playerQuestItems.modify player (markAt j)).sum (fun _ ql => ql.countP
        (openQuestFFA { loot with questItems := loot.questItems.modify q.index mark })) + 1 = _
    rw [funext hopen]
    unfold markAt
    omega

theorem Tallied.takeQuestFFA (h : loot.Tallied players)
    (hql : loot.playerQuestItems.find? player = some ql) (hq : ql[j]? = some q)
    (hfree : q.isLooted = false) {item : LootItem} (hitem : loot.questItems[q.index]? = some item)
    (hffa : item.freeforall = true) :
    Tallied players
      { loot with
        playerQuestItems := loot.playerQuestItems.modify player (markAt j)
        unlootedCount := dec8 loot.unlootedCount } := by
  have hno : ∀ item', loot.questItems[q.index]? = some item' → item'.freeforall = false → False := by
    intro item' hitem' hf
    rw [some.inj (hitem'.symm.trans hitem), hffa] at hf
    cases hf
  refine h.take (h.linked_markQuest hql hq (fun k item' hk => ⟨item', hk, rfl, rfl, fun _ => rfl, ?_⟩)
    (fun k item' hk => ⟨item', hk, rfl⟩) fun item' hitem' hf => (hno item' hitem' hf).elim) rfl ?_
  · intro hk' hf
    exact (hno item' (hk' ▸ hk) hf).elim
  · have hcount := @countP_modify _ loot.openQuestFFA ql j q (fun q => { q with isLooted := true }) hq
    have hopen : loot.openQuestFFA q = true := by simp [openQuestFFA, hitem, hffa, hfree]
    have hclosed : loot.openQuestFFA { q with isLooted := true } = false := by simp [openQuestFFA]
    rw [hopen, hclosed] at hcount
    have hsum := sum_modify (fun _ ql => ql.countP loot.openQuestFFA) (markAt j) hql
    unfold markAt at hsum
    unfold possible
    change _ + _ + _ + (loot.playerQuestItems.modify player (markAt j)).sum (fun _ ql => ql.countP
      loot.openQuestFFA) + 1 = _
    unfold markAt
    simp only [if_true, Bool.false_eq_true, if_false] at hcount hsum ⊢
    omega

end Quest

theorem Tallied.storeLootItem (h : loot.Tallied players) (hsole : loot.StoresSole player lootSlot)
    (hffa : ∀ item, loot.items[lootSlot]? = some item → item.freeforall = true →
      loot.playerFFAItems.contains player = true → registered loot.playerFFAItems player lootSlot ≠ none)
    (hcond : ∀ item, loot.items[lootSlot]? = some item → item.freeforall = false →
      item.conditions ≠ [] → item.isCounted = true) (canStore : Bool) :
    Tallied players (loot.storeLootItem lootSlot player canStore).1 := by
  rcases storeLootItem_cases loot lootSlot player canStore with heq | ⟨slot, item, hfound, hitem, -, heq⟩
  · rw [heq]
    exact h
  rw [heq]
  cases hfound with
  | @quest ql q hslot hql hq hfree =>
    cases hf : item.freeforall with
    | true => exact h.takeQuestFFA hql hq hfree hitem hf
    | false => exact h.takeQuest hql hq hfree hitem hf (hsole.quest ql q item hslot hql hq hitem hf hfree)
  | @ffa item₀ q hitem₀ hf hq hfree =>
    rw [← some.inj (hitem₀.symm.trans hitem), hf]
    exact h.takeFFA hq hfree
  | @unregistered item₀ hitem₀ hf hlist hq hfree => exact absurd hq (hffa item₀ hitem₀ hf hlist)
  | @cond item₀ q hitem₀ hf hne hq hfree =>
    rw [← some.inj (hitem₀.symm.trans hitem), hf]
    exact h.takeCond hsole hitem₀ hf hne (hcond item₀ hitem₀ hf hne) hq hfree
  | @plain item₀ hitem₀ hf hplain hfree =>
    rw [← some.inj (hitem₀.symm.trans hitem), hf]
    rcases hplain with hnone | hunregistered
    · exact h.takePlain hitem₀ hf hnone hfree (fun _ => ⟨rfl, rfl, rfl⟩) rfl
    · -- somebody is registered for an item with conditions, and it is the player
      by_cases hnone : item₀.conditions = []
      · exact h.takePlain hitem₀ hf hnone hfree (fun _ => ⟨rfl, rfl, rfl⟩) rfl
      · obtain ⟨p, q, hq⟩ := h.linked.condBack lootSlot item₀ hitem₀ hf hnone (hcond item₀ hitem₀ hf hnone)
        rw [hsole.cond item₀ hitem₀ hf hnone hfree p q hq, hunregistered] at hq
        cases hq

end Store

/-! ## Every way out -/

structure SameKinds (loot loot' : Loot) : Prop where
  items : ∀ (i : Nat) item', loot'.items[i]? = some item' → ∃ item, loot.items[i]? = some item ∧
    item'.freeforall = item.freeforall ∧ item'.conditions = item.conditions ∧
    item'.isCounted = item.isCounted
  ffa : ∀ p ql', loot'.playerFFAItems.find? p = some ql' → ∃ ql, loot.playerFFAItems.find? p = some ql ∧
    ql.map (·.index) = ql'.map (·.index)

theorem Covered.of_sameKinds (h : loot.Covered) (hk : SameKinds loot loot') : loot'.Covered where
  cond item' hmem hffa hne := by
    obtain ⟨i, hi⟩ := mem_iff_getElem?.1 hmem
    obtain ⟨item, hitem, hf, hc, hcounted⟩ := hk.items i item' hi
    rw [hcounted]
    exact h.cond item (mem_of_getElem? hitem) (hf ▸ hffa) (hc ▸ hne)
  ffa p ql' hp i item' hi hffa := by
    obtain ⟨item, hitem, hf, -, -⟩ := hk.items i item' hi
    obtain ⟨ql, hql, hidx⟩ := hk.ffa p ql' hp
    obtain ⟨q, hq, hqi⟩ := h.ffa p ql hql i item hitem (hf ▸ hffa)
    have hmem : i ∈ ql'.map (·.index) := hidx ▸ hqi ▸ mem_map_of_mem hq
    exact mem_map.1 hmem

theorem SameKinds.refl (loot : Loot) : SameKinds loot loot :=
  ⟨fun _ item' h => ⟨item', h, rfl, rfl, rfl⟩, fun _ ql' h => ⟨ql', h, rfl⟩⟩

theorem SameKinds.setItem {i : Nat} {f : LootItem → LootItem}
    (hitems : loot'.items = loot.items.modify i f) (hffa : loot'.playerFFAItems = loot.playerFFAItems)
    (hf : KeepsKind f) : SameKinds loot loot' := by
  refine ⟨fun j item' h => ?_, fun p ql' h => ⟨ql', hffa ▸ h, rfl⟩⟩
  obtain ⟨item, hitem, rfl⟩ := @getElem?_setItem loot i f j item' (by rwa [hitems] at h)
  exact ⟨item, hitem, hf.ite (i = j) item⟩

theorem SameKinds.markStored (loot : Loot) (player : Guid) (slot : Slot) (ffa : Bool) :
    SameKinds loot (loot.markStored player slot ffa) := by
  refine ⟨fun i item' h => ?_, fun p ql' h => ?_⟩
  · have hread := loot.itemOf?_markStored player slot ffa (.item i)
    rw [show (loot.markStored player slot ffa).itemOf? (.item i) = some item' from h] at hread
    by_cases hown : ffa = false ∧ slot.entry = .item i
    · rw [if_pos hown] at hread
      obtain ⟨item, hitem, rfl⟩ := map_eq_some_iff.1 hread.symm
      exact ⟨item, hitem, rfl, rfl, rfl⟩
    · rw [if_neg hown] at hread
      exact ⟨item', hread.symm, rfl, rfl, rfl⟩
  · rw [playerFFAItems_markStored] at h
    have hlists : (loot.markOwn player slot).playerFFAItems = loot.playerFFAItems ∨
        ∃ i, (loot.markOwn player slot).playerFFAItems =
          loot.playerFFAItems.modify player (markLooted i) := by
      unfold markOwn
      cases slot.qitem with
      | some j => exact .inl rfl
      | none =>
        cases slot.entry with
        | quest k => exact .inl rfl
        | item i =>
          cases slot.ffaitem with
          | true => exact .inr ⟨i, rfl⟩
          | false => cases slot.conditem <;> exact .inl rfl
    rcases hlists with heq | ⟨i, heq⟩
    · exact ⟨ql', heq ▸ h, rfl⟩
    · rw [heq, find?_modify] at h
      by_cases hp : player = p
      · rw [if_pos hp, map_eq_some_iff] at h
        obtain ⟨ql, hql, rfl⟩ := h
        exact ⟨ql, hql, (map_index_markLooted i ql).symm⟩
      · rw [if_neg hp] at h
        exact ⟨ql', h, rfl⟩

theorem SameKinds.storeLootItem (loot : Loot) (lootSlot : Nat) (player : Guid) (canStore : Bool) :
    SameKinds loot (loot.storeLootItem lootSlot player canStore).1 := by
  rcases storeLootItem_cases loot lootSlot player canStore with heq | ⟨slot, item, -, -, -, heq⟩
  · rw [heq]
    exact .refl loot
  · rw [heq]
    exact .markStored loot player slot item.freeforall

theorem storeLootItem_noRoom (loot : Loot) (lootSlot : Nat) (player : Guid) :
    loot.storeLootItem lootSlot player false = (loot, none) := by
  unfold Loot.storeLootItem
  cases loot.lootItemInSlot lootSlot player with
  | none => rfl
  | some slot =>
    dsimp only
    cases loot.itemOf? slot.entry with
    | none => rfl
    | some item =>
      dsimp only
      rw [if_neg Bool.false_ne_true, ite_self]

theorem Tallied.unblock (h : loot.Tallied players) (slot : Nat) : (loot.unblock slot).Tallied players := by
  have hlinked := h.linked.setItem (m := loot.playerNonQuestNonFFAConditionalItems) (i := slot)
    (f := fun item => { item with isBlocked := false }) (fun _ => ⟨rfl, rfl, rfl⟩)
    (fun p j q hq => by
      obtain ⟨hp, item, hitem, hne, hsame⟩ := h.linked.cond p j q hq
      refine ⟨hp, item, hitem, hne, ?_⟩
      by_cases hj : slot = j
      · rwa [if_pos hj]
      · rwa [if_neg hj])
    fun p j q hq => ⟨q, hq⟩
  have hpossible : (loot.unblock slot).possible = loot.possible := by
    have hpos := @length_positions_modify_same openItem loot.items slot
      (fun item => { item with isBlocked := false }) fun _ _ => rfl
    change (positions openItem (loot.items.modify slot _)).length + _ + _ + _ = _
    rw [hpos]
    rfl
  refine ⟨hlinked, ?_, ?_⟩
  · rw [hpossible]
    exact h.count
  · rw [hpossible]
    exact h.small

end Loot

namespace World

def PlainAt (loot : Loot) (slot : Nat) : Prop :=
  ∀ item, loot.items[slot]? = some item →
    item.freeforall = false ∧ item.conditions = [] ∧ item.isLooted = false

/-- A player takes what is registered for him alone; a roll or the master looter hands out a plain item
that is not looted, and the master looter does not name the slot behind the last one. -/
def Sole (w : World) : Event → Prop
  | .storeLootItem player lootSlot canStore => canStore = true → w.loot.StoresSole player lootSlot
  | .countTheRoll roll _ => roll.totalNeed = 0 ∧ roll.totalGreed = 0 ∨ PlainAt w.loot roll.itemSlot
  | .lootMasterGive giver slotid _ canStore => w.looterGuid = giver → canStore = true →
    slotid ≠ w.loot.items.length ∧ PlainAt w.loot slotid
  | .lootMethod _ => True

variable {players : List Guid} {w : World}

/-- Each take and each look keeps the count exact, where the item is the taker's alone. -/
theorem tallied_step {e : Event} (h : w.loot.Tallied players) (hc : w.loot.Covered) (hsole : w.Sole e) :
    (w.step e).loot.Tallied players ∧ (w.step e).loot.Covered := by
  cases e with
  | storeLootItem player lootSlot canStore =>
    refine ⟨?_, hc.of_sameKinds (.storeLootItem w.loot lootSlot player canStore)⟩
    change Loot.Tallied players (w.loot.storeLootItem lootSlot player canStore).1
    cases canStore with
    | true =>
      refine h.storeLootItem (hsole rfl) (fun item hitem hf hlist => ?_)
        (fun item hitem => hc.cond item (mem_of_getElem? hitem)) true
      obtain ⟨ql, hql⟩ := isSome_iff_exists.1 hlist
      obtain ⟨q, hq, hidx⟩ := hc.ffa player ql hql lootSlot item hitem hf
      unfold Loot.registered
      rw [hql]
      intro hnone
      exact find?_eq_none.1 hnone q hq (by simpa using hidx)
    | false =>
      rw [Loot.storeLootItem_noRoom]
      exact h
  | countTheRoll roll draw =>
    change Loot.Tallied players (w.loot.countTheRoll roll draw).1 ∧ (w.loot.countTheRoll roll draw).1.Covered
    have hunblock : (w.loot.unblock roll.itemSlot).Tallied players ∧ (w.loot.unblock roll.itemSlot).Covered :=
      ⟨h.unblock roll.itemSlot,
        hc.of_sameKinds (.setItem rfl rfl fun _ => ⟨rfl, rfl, rfl⟩)⟩
    rcases Loot.countTheRoll_cases w.loot roll draw with
      heq | heq | ⟨item, winner, hitem, htotal, heq⟩
    · rw [heq]
      exact ⟨h, hc⟩
    · rw [heq]
      exact hunblock
    · have hplain : PlainAt w.loot roll.itemSlot := by
        rcases hsole with ⟨hneed, hgreed⟩ | hplain
        · rcases htotal with hne | hne
          · exact absurd hneed hne
          · exact absurd hgreed hne
        · exact hplain
      obtain ⟨hf, hnone, hfree⟩ := hplain item hitem
      have hwon : (w.loot.markWon roll.itemSlot).Tallied players ∧ (w.loot.markWon roll.itemSlot).Covered :=
        ⟨h.takePlain hitem hf hnone hfree (fun _ => ⟨rfl, rfl, rfl⟩) rfl,
          hc.of_sameKinds (.setItem rfl rfl fun _ => ⟨rfl, rfl, rfl⟩)⟩
      rcases heq with heq | heq
      · rw [heq]
        exact hwon
      · rw [heq]
        exact hwon
  | lootMasterGive giver slotid target canStore =>
    dsimp only [step]
    by_cases hgiver : w.looterGuid = giver
    · rw [if_pos hgiver]
      unfold Loot.masterGive
      by_cases hlt : w.loot.items.length < slotid
      · rw [if_pos hlt]
        exact ⟨h, hc⟩
      · rw [if_neg hlt]
        cases hitem : w.loot.items[slotid]? with
        | none => exact ⟨h, hc⟩
        | some item =>
          cases canStore with
          | false => exact ⟨h, hc⟩
          | true =>
            obtain ⟨hf, hnone, hfree⟩ := (hsole hgiver rfl).2 item hitem
            exact ⟨h.takePlain hitem hf hnone hfree (fun _ => ⟨rfl, rfl, rfl⟩) rfl,
              hc.of_sameKinds (.setItem rfl rfl fun _ => ⟨rfl, rfl, rfl⟩)⟩
    · rw [if_neg hgiver]
      exact ⟨h, hc⟩
  | lootMethod looter => exact ⟨h, hc⟩

end World

end Axium.Looting
