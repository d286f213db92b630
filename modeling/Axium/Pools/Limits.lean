import Axium.Pools.Counting
import Axium.Lib.Run

/-!
# Spawning creatures, gameobjects and sub-pools

`SpawnObject` keeps the counters and fills a pool up to its limit; an active trigger makes room for one more
object, which replaces it (`spawnLoop_spec`, `spawnGroup_spec`). The active object that triggers is still
counted while its successor is spawned.
-/

namespace Axium.Pools

open PoolMgr Run

variable {R : Type*} {m : PoolMgr R} {s s' : State} {k : Kind} {p q : Nat} {o : Object}

/-! ## The invariant -/

def PoolMgr.quests (m : PoolMgr R) (p : Nat) : Finset Object := (m.objects p).filter (·.1 = .quest)

def PoolMgr.activeQuests (m : PoolMgr R) (s : State) (p : Nat) : Finset Object :=
  (m.quests p).filter (s.isActive · = true)

structure RowsFit (m : PoolMgr R) (p : Nat) (rows : List Nat) : Prop where
  nodup : rows.Nodup
  owned : ∀ quest ∈ rows, (.quest, quest) ∈ m.objects p
  limited : rows.length ≤ m.maxLimit p

/-- Counters count what is active, and no pool has more quests than its limit. -/
structure Kept (m : PoolMgr R) (s : State) : Prop where
  counted : Counted m s
  owned : ∀ quest, s.isActive (.quest, quest) = true → ∃ p, (.quest, quest) ∈ m.objects p
  limited : ∀ p, (m.quests p).Nonempty → (m.activeQuests s p).card ≤ m.maxLimit p
  saved : ∀ p, (m.quests p).Nonempty → RowsFit m p (s.questSave p)

def Bounded (m : PoolMgr R) (s : State) (p : Nat) : Prop := m.number s p ≤ m.maxLimit p

theorem mem_quests : o ∈ m.quests p ↔ o ∈ m.objects p ∧ o.1 = .quest := Finset.mem_filter

theorem mem_activeQuests : o ∈ m.activeQuests s p ↔ o ∈ m.quests p ∧ s.isActive o = true :=
  Finset.mem_filter

theorem activeQuests_mono (h : ∀ quest, s'.isActive (.quest, quest) = true → s.isActive (.quest, quest) = true)
    (p : Nat) : (m.activeQuests s' p).card ≤ (m.activeQuests s p).card := by
  refine Finset.card_le_card fun o ho => ?_
  obtain ⟨hmem, hon⟩ := mem_activeQuests.1 ho
  obtain ⟨k, g⟩ := o
  obtain rfl : k = .quest := (mem_quests.1 hmem).2
  exact mem_activeQuests.2 ⟨hmem, h g hon⟩

theorem Kept.of_fewer (h : Kept m s) (hc : Counted m s')
    (hfewer : ∀ quest, s'.isActive (.quest, quest) = true → s.isActive (.quest, quest) = true)
    (hsave : s'.questSave = s.questSave) : Kept m s' where
  counted := hc
  owned quest hon := h.owned quest (hfewer quest hon)
  limited p hp := (activeQuests_mono hfewer p).trans (h.limited p hp)
  saved p hp := hsave ▸ h.saved p hp

theorem Kept.despawns (h : Kept m s) (hc : Counted m s') {only : Object → Prop} (hd : Despawns only s s') :
    Kept m s' :=
  h.of_fewer hc (fun _ => hd.fewer _) hd.questSave

theorem Kept.activateObject (h : Kept m s) (hl : m.Loaded) (ho : o ∈ m.objects p)
    (hoff : s.isActive o = false) (hroot : Rooted m s p) (hk : o.1 ≠ .quest) :
    Kept m (s.activateObject o p) := by
  refine h.of_fewer (h.counted.activateObject hl ho hoff hroot) (fun quest hon => ?_) ?_
  · rw [isActive_activateObject, decide_eq_false (by simp), decide_eq_false] at hon
    · exact hon
    · rintro rfl
      exact hk rfl
  · obtain ⟨k, g⟩ := o
    cases k <;> rfl

structure SameSpawns (s s' : State) : Prop where
  isActive : ∀ x, s'.isActive x = s.isActive x
  count : ∀ p, s'.count p = s.count p
  questSave : s'.questSave = s.questSave

theorem SameSpawns.refl (s : State) : SameSpawns s s := ⟨fun _ => rfl, fun _ => rfl, rfl⟩

theorem SameSpawns.trans {s₁ s₂ s₃ : State} (h : SameSpawns s₁ s₂) (h' : SameSpawns s₂ s₃) : SameSpawns s₁ s₃ :=
  ⟨fun x => (h'.isActive x).trans (h.isActive x), fun p => (h'.count p).trans (h.count p),
    h'.questSave.trans h.questSave⟩

theorem sameSpawns_rolled (s : State) : SameSpawns s s.rolled := by
  refine ⟨fun x => ?_, fun _ => rfl, rfl⟩
  obtain ⟨k, g⟩ := x
  cases k <;> rfl

theorem SameSpawns.number (h : SameSpawns s s') (p : Nat) : m.number s' p = m.number s p :=
  number_congr fun x _ => h.isActive x

theorem SameSpawns.kept (h : SameSpawns s s') (hk : Kept m s) : Kept m s' :=
  hk.of_fewer (fun p => by rw [h.count, h.number, hk.counted p]) (fun quest hon => h.isActive _ ▸ hon) h.questSave

/-! ## What a spawn changes -/

/-- A spawn in a pool that changes only objects in `only`, and the mark of the pool itself. -/
structure Filled (m : PoolMgr R) (only : Object → Prop) (p : Nat) (s s' : State) : Prop where
  kept : Kept m s'
  others : ∀ x, ¬ only x → x ≠ (.pool, p) → s'.isActive x = s.isActive x
  self : s.isActive (.pool, p) = true → s'.isActive (.pool, p) = true
  nested : ∀ q, m.Nested p (.pool, q) → Bounded m s q → Bounded m s' q

namespace Filled

variable {only only' : Object → Prop}

theorem trans {s₁ s₂ s₃ : State} (h : Filled m only p s₁ s₂) (h' : Filled m only p s₂ s₃) :
    Filled m only p s₁ s₃ where
  kept := h'.kept
  others x hx hself := (h'.others x hx hself).trans (h.others x hx hself)
  self hon := h'.self (h.self hon)
  nested q hq hb := h'.nested q hq (h.nested q hq hb)

theorem mono (h : Filled m only p s s') (hsub : ∀ x, only x → only' x) : Filled m only' p s s' :=
  ⟨h.kept, fun x hx => h.others x fun hin => hx (hsub x hin), h.self, h.nested⟩

theorem of_same (hk : Kept m s) (h : SameSpawns s s') : Filled m only p s s' where
  kept := h.kept hk
  others x _ _ := h.isActive x
  self hon := (h.isActive _).trans hon
  nested q _ hb := (h.number q).trans_le hb

theorem rooted (h : Filled m only p s s') (hroot : Rooted m s p) : Rooted m s' p := hroot.imp_left h.self

theorem object (h : Filled m only p s s') (hl : m.Loaded) {x : Object} (hx : x ∈ m.objects p)
    (honly : ¬ only x) : s'.isActive x = s.isActive x := by
  refine h.others x honly ?_
  rintro rfl
  exact hl.not_self p hx

end Filled

def Of (m : PoolMgr R) (k : Kind) (p : Nat) (x : Object) : Prop :=
  ∃ g, (k, g) ∈ m.objects p ∧ Within m (k, g) x

theorem Of.nested {x : Object} (h : Of m k p x) : m.Nested p x := by
  obtain ⟨g, hg, hx⟩ := h
  exact nested_of_within hg hx

theorem PoolMgr.Loaded.not_below (h : m.Loaded) {x : Object} (ho : o ∈ m.objects p) (hx : x ∈ m.objects p) :
    ¬ Below m o x := by
  rintro ⟨c, rfl, hnested⟩
  obtain rfl | hp := h.owner_of_nested hnested hx
  · exact h.not_self p ho
  · exact h.not_nested_self c (hp.trans_direct ho)

/-! ## `RollOne` -/

theorem rollEqual_spec {dice : Dice R} {trigger g : Nat} {l : List (PoolObject R)} (h : rollEqual dice s k trigger l = some g) :
    g ∈ l.map (·.guid) ∧ (g = trigger ∨ s.isActive (k, g) = false) := by
  unfold rollEqual at h
  cases hget : l[dice.index s.rolls % l.length]? with
  | none =>
    rw [hget] at h
    cases h
  | some o =>
    rw [hget] at h
    dsimp only at h
    split at h
    · rename_i hcond
      obtain rfl := Option.some.inj h
      exact ⟨List.mem_map.2 ⟨o, List.mem_of_getElem? hget, rfl⟩, hcond⟩
    · cases h

section Rolls
variable [Zero R] [Sub R] [LT R] [DecidableLT R]

theorem rollExplicit_spec {trigger g : Nat} {roll : R} {l : List (PoolObject R)}
    (h : rollExplicit s k trigger roll l = some g) :
    g ∈ l.map (·.guid) ∧ (g = trigger ∨ s.isActive (k, g) = false) := by
  induction l generalizing roll with
  | nil => cases h
  | cons o l ih =>
    unfold rollExplicit at h
    dsimp only at h
    split at h
    · rename_i hcond
      obtain rfl := Option.some.inj h
      exact ⟨List.mem_cons_self, hcond.2⟩
    · exact ⟨List.mem_cons_of_mem _ (ih h).1, (ih h).2⟩

theorem rollOne_spec (m : PoolMgr R) (dice : Dice R) (k : Kind) (p trigger : Nat) (s : State) :
    SameSpawns s (rollOne m dice k p trigger s).2 ∧
      ∀ g, (rollOne m dice k p trigger s).1 = some g →
        (k, g) ∈ m.objects p ∧ (g = trigger ∨ s.isActive (k, g) = false) := by
  have hguids : ∀ {g}, g ∈ (m.group k p).explicitlyChanced.map (·.guid) ∨
      g ∈ (m.group k p).equalChanced.map (·.guid) → (k, g) ∈ m.objects p := by
    intro g hg
    rw [mem_objects, guids, List.map_append, List.mem_append]
    exact hg.symm
  -- the roll among the equal ones, in a state in which the same is active
  have hequal : ∀ {s₁}, SameSpawns s s₁ → let r :=
      if (m.group k p).equalChanced.isEmpty then (none, s₁)
      else (rollEqual dice s₁ k trigger (m.group k p).equalChanced, s₁.rolled)
      SameSpawns s r.2 ∧ ∀ g, r.1 = some g →
        (k, g) ∈ m.objects p ∧ (g = trigger ∨ s.isActive (k, g) = false) := by
    intro s₁ hsame
    split
    · exact ⟨hsame, fun _ h => (Option.some_ne_none _ h.symm).elim⟩
    · refine ⟨hsame.trans (sameSpawns_rolled _), fun g hg => ?_⟩
      obtain ⟨hmem, hoff⟩ := rollEqual_spec hg
      exact ⟨hguids (.inr hmem), hoff.imp_right fun h => hsame.isActive _ ▸ h⟩
  unfold rollOne
  dsimp only
  by_cases hexplicit : (m.group k p).explicitlyChanced.isEmpty = true
  · rw [if_pos hexplicit]
    exact hequal (.refl s)
  · rw [if_neg hexplicit]
    dsimp only
    cases hroll : rollExplicit s k trigger (dice.chance s.rolls) (m.group k p).explicitlyChanced with
    | none => exact hequal (sameSpawns_rolled s)
    | some g =>
      refine ⟨sameSpawns_rolled s, fun g' hg' => ?_⟩
      obtain rfl := Option.some.inj hg'
      obtain ⟨hmem, hoff⟩ := rollExplicit_spec hroll
      exact ⟨hguids (.inl hmem), hoff⟩

end Rolls

/-! ## `SpawnObject` -/

/-- What `Spawn1Object` does to an object that was just activated. -/
structure Fills (m : PoolMgr R) (spawn1 : Object → State → State) (o : Object) : Prop where
  kept : ∀ s, Kept m s → s.isActive o = true → (∀ x, Below m o x → s.isActive x = false) →
    Kept m (spawn1 o s)
  others : ∀ s, Kept m s → s.isActive o = true → (∀ x, Below m o x → s.isActive x = false) →
    ∀ x, ¬ Below m o x → (spawn1 o s).isActive x = s.isActive x
  bounded : ∀ s, Kept m s → s.isActive o = true → (∀ x, Below m o x → s.isActive x = false) →
    ∀ q, Within m o (.pool, q) → Bounded m (spawn1 o s) q

theorem filled_spawn1 (hl : m.Loaded) (h : Kept m s) (hroot : Rooted m s p) (ho : o ∈ m.objects p)
    (hoff : s.isActive o = false) (hk : o.1 ≠ .quest) {spawn1 : Object → State → State}
    (hfills : Fills m spawn1 o) :
    let s' := spawn1 o (s.activateObject o p)
    Filled m (Within m o) p s s' ∧ ∀ x ∈ m.objects p, s'.isActive x = (decide (o = x) || s.isActive x) := by
  have hkept := h.activateObject hl ho hoff hroot hk
  have hon : (s.activateObject o p).isActive o = true := by
    rw [isActive_activateObject, decide_eq_true rfl, Bool.true_or, Bool.or_true]
  have hsame : ∀ x, x ≠ (.pool, p) → o ≠ x → (s.activateObject o p).isActive x = s.isActive x := by
    intro x hx hox
    rw [isActive_activateObject, decide_eq_false hx.symm, decide_eq_false hox, Bool.false_or, Bool.false_or]
  -- nothing below an object that is not active is active
  have hbelow : ∀ x, Below m o x → (s.activateObject o p).isActive x = false := by
    rintro x ⟨c, rfl, hnested⟩
    have hx : s.isActive x = false := by
      refine not_isActive_of_nested h.counted (number_eq_zero.1 ?_) hnested
      rw [← h.counted, count_eq_zero_of_not_isActive hoff]
    refine (hsame x ?_ ?_).trans hx
    · rintro rfl
      exact hl.not_nested_self c (hnested.trans_direct ho)
    · rintro rfl
      exact hl.not_nested_self c hnested
  have hothers := hfills.others _ hkept hon hbelow
  refine ⟨⟨hfills.kept _ hkept hon hbelow, fun x hx hself => ?_, fun hself => ?_, fun q hq hb => ?_⟩,
    fun x hx => ?_⟩
  · rw [hothers x fun hin => hx (.inr hin)]
    exact hsame x hself fun heq => hx (.inl heq)
  · rw [hothers]
    · rw [isActive_activateObject, decide_eq_true rfl, Bool.true_or]
    · rintro ⟨c, rfl, hnested⟩
      exact hl.not_nested_self c (hnested.trans_direct ho)
  · by_cases hin : Within m o (.pool, q)
    · exact hfills.bounded _ hkept hon hbelow q hin
    · -- the objects of the pool are not touched
      have hpq : q ≠ p := by
        rintro rfl
        exact hl.not_nested_self q hq
      refine (number_congr fun x hx => ?_).trans_le hb
      rw [hothers]
      · have hox : o ≠ x := by
          rintro rfl
          exact hpq (hl.one_pool o q p hx ho)
        rw [isActive_activateObject_of_rooted hroot hx, decide_eq_false hox, Bool.false_or]
      · rintro ⟨c, rfl, hnested⟩
        obtain rfl | hq' := hl.owner_of_nested hnested hx
        · exact hin (.inl rfl)
        · exact hin (.inr ⟨c, rfl, hq'⟩)
  · rw [hothers x (hl.not_below ho hx)]
    exact isActive_activateObject_of_rooted hroot hx

theorem filled_despawnObject (hl : m.Loaded) (h : Kept m s) {despawn1 : Object → State → State} (guid : Nat)
    (hclears : ∀ g, (k, g) ∈ m.objects p → Clears m despawn1 (k, g)) :
    Filled m (Of m k p) p s (despawnObject m despawn1 k p guid s) := by
  obtain ⟨hc, hd, -⟩ := despawnObject_spec hl h.counted guid hclears
  refine ⟨h.despawns hc hd, fun x hx _ => hd.others x ?_, fun hself => ?_, fun q _ hb => ?_⟩
  · rintro ⟨g, hg, -, hin⟩
    exact hx ⟨g, hg, hin⟩
  · refine (hd.others _ ?_).trans hself
    rintro ⟨g, hg, -, hin⟩
    exact hl.not_nested_self p (nested_of_within hg hin)
  · exact (number_mono fun x _ => hd.fewer x).trans hb

theorem number_despawnObject (hl : m.Loaded) (h : Kept m s) {despawn1 : Object → State → State}
    {trigger : Nat} (ht : trigger ≠ 0) (hclears : ∀ g, (k, g) ∈ m.objects p → Clears m despawn1 (k, g))
    (hmem : (k, trigger) ∈ m.objects p) (hon : s.isActive (k, trigger) = true) :
    m.number s p = m.number (despawnObject m despawn1 k p trigger s) p + 1 := by
  obtain ⟨-, hd, hoff⟩ := despawnObject_spec hl h.counted trigger hclears
  refine number_erase hmem hon fun x hx => ?_
  by_cases heq : (k, trigger) = x
  · rw [← heq, hoff trigger hmem (.inr rfl), decide_eq_true rfl]
    rfl
  · rw [decide_eq_false heq]
    refine hd.others x ?_
    rintro ⟨g, hg, hg', hin⟩
    obtain rfl : g = trigger := hg'.resolve_left ht
    exact hin.elim heq (hl.not_below hg hx)

/-- The objects that are added by `i` iterations, of which one only replaces the trigger if there is one. -/
def added (i triggerFrom : Nat) : Nat := if triggerFrom = 0 then i else i - 1

theorem added_le (i trigger trigger' : Nat) : added i trigger' ≤ added (i + 1) trigger := by
  unfold added
  split <;> split <;> omega

theorem number_le_objects (s : State) (p : Nat) : m.number s p ≤ (m.objects p).card := Finset.card_filter_le ..

theorem added_spawnCount (hc : Counted m s) (hb : Bounded m s p) (trigger : Nat) :
    m.number s p + added (spawnCount m s p trigger) trigger ≤ m.maxLimit p := by
  unfold Bounded at hb
  unfold spawnCount added
  dsimp only
  rw [hc p]
  have hmod : Int.bmod ((m.maxLimit p : Int) - m.number s p) (2 ^ 32) ≤
      (m.maxLimit p : Int) - m.number s p := by
    rw [Int.bmod_def]
    split <;> omega
  by_cases ht : trigger = 0
  · rw [if_pos ht, if_neg (not_not.2 ht)]
    omega
  · rw [if_neg ht, if_pos ht]
    omega

def TriggerFits (m : PoolMgr R) (s : State) (k : Kind) (p trigger : Nat) : Prop :=
  trigger = 0 ∨ ((k, trigger) ∈ m.objects p ∧ s.isActive (k, trigger) = true) ∨
    (m.objects p).card ≤ m.maxLimit p

section Loop
variable [Zero R] [Sub R] [LT R] [DecidableLT R] {dice : Dice R}

theorem spawnLoop_spec (hl : m.Loaded) {spawn1 despawn1 : Object → State → State} (hk : k ≠ .quest)
    (hclears : ∀ g, (k, g) ∈ m.objects p → Clears m despawn1 (k, g))
    (hfills : ∀ g, (k, g) ∈ m.objects p → Fills m spawn1 (k, g)) :
    ∀ (i trigger last : Nat) {s : State}, Kept m s → Rooted m s p →
      let s' := spawnLoop m dice spawn1 despawn1 k p i trigger last s
      Filled m (Of m k p) p s s' ∧
        ((trigger = 0 ∨ ((k, trigger) ∈ m.objects p ∧ s.isActive (k, trigger) = true)) →
          m.number s' p ≤ m.number s p + added i trigger)
  | 0, _, _, s, h, _ => ⟨.of_same h (.refl s), fun _ => Nat.le_add_right ..⟩
  | i + 1, trigger, last, s, h, hroot => by
    obtain ⟨hsame, hobj⟩ := rollOne_spec m dice k p trigger s
    unfold spawnLoop
    obtain ⟨r, hr⟩ : ∃ r, rollOne m dice k p trigger s = r := ⟨_, rfl⟩
    rw [hr] at hsame hobj ⊢
    obtain ⟨obj, s₁⟩ := r
    have h₁ : Kept m s₁ := hsame.kept h
    have hfill₁ : Filled m (Of m k p) p s s₁ := .of_same h hsame
    have hroot₁ := hfill₁.rooted hroot
    have hnumber₁ : m.number s₁ p = m.number s p := hsame.number p
    -- an iteration that activates nothing
    have hskip : ∀ trigger', (trigger' = trigger ∨ trigger' = 0) →
        let s' := spawnLoop m dice spawn1 despawn1 k p i trigger' last s₁
        Filled m (Of m k p) p s s' ∧
          ((trigger = 0 ∨ ((k, trigger) ∈ m.objects p ∧ s.isActive (k, trigger) = true)) →
            m.number s' p ≤ m.number s p + added (i + 1) trigger) := by
      intro trigger' htrigger
      obtain ⟨hfill, hnumber⟩ := spawnLoop_spec hl hk hclears hfills i trigger' last h₁ hroot₁
      refine ⟨hfill₁.trans hfill, fun hactive => ?_⟩
      refine (hnumber ?_).trans ?_
      · rcases htrigger with rfl | rfl
        · exact hactive.imp_right fun ha => ⟨ha.1, hsame.isActive _ ▸ ha.2⟩
        · exact .inl rfl
      · rw [hnumber₁]
        exact Nat.add_le_add_left (added_le ..) _
    cases obj with
    | none => exact hskip trigger (.inl rfl)
    | some g =>
      dsimp only
      obtain ⟨hmem, hchosen⟩ := hobj g rfl
      by_cases hlast : g = last
      · rw [if_pos hlast]
        exact hskip trigger (.inl rfl)
      rw [if_neg hlast]
      by_cases hself : g = trigger
      · rw [if_pos hself]
        exact hskip 0 (.inr rfl)
      rw [if_neg hself]
      have hoff : s₁.isActive (k, g) = false := (hsame.isActive _).trans (hchosen.resolve_left hself)
      obtain ⟨hfill₂, hactive₂⟩ := filled_spawn1 hl h₁ hroot₁ hmem hoff hk (hfills g hmem)
      obtain ⟨s₂, hs₂⟩ : ∃ s₂, spawn1 (k, g) (s₁.activateObject (k, g) p) = s₂ := ⟨_, rfl⟩
      rw [hs₂] at hfill₂ hactive₂ ⊢
      have hfill₂ : Filled m (Of m k p) p s s₂ := hfill₁.trans (hfill₂.mono fun x hx => ⟨g, hmem, hx⟩)
      have hnumber₂ : m.number s₂ p = m.number s p + 1 := by
        rw [number_insert hmem hoff hactive₂, hnumber₁]
      by_cases ht : trigger = 0
      · rw [if_neg (not_not.2 ht)]
        obtain ⟨hfill, hnumber⟩ := spawnLoop_spec hl hk hclears hfills i trigger last hfill₂.kept
          (hfill₂.rooted hroot)
        refine ⟨hfill₂.trans hfill, fun _ => (hnumber (.inl ht)).trans ?_⟩
        rw [hnumber₂, added, added, if_pos ht, if_pos ht, add_assoc, add_comm 1 i]
      · rw [if_pos ht]
        have hfill₃ := filled_despawnObject hl hfill₂.kept trigger hclears
        obtain ⟨hfill, hnumber⟩ := spawnLoop_spec hl hk hclears hfills i 0 trigger hfill₃.kept
          ((hfill₂.trans hfill₃).rooted hroot)
        refine ⟨(hfill₂.trans hfill₃).trans hfill, fun hactive => (hnumber (.inl rfl)).trans ?_⟩
        obtain ⟨htmem, hton⟩ := hactive.resolve_left ht
        have hton₂ : s₂.isActive (k, trigger) = true := by
          rw [hactive₂ _ htmem, hsame.isActive, hton, Bool.or_true]
        have hback := number_despawnObject hl hfill₂.kept ht hclears htmem hton₂
        rw [added, added, if_pos rfl, if_neg ht]
        omega

theorem spawnGroup_spec (hl : m.Loaded) (hk : k ≠ .quest) {spawn despawn : Nat → State → State} {guid : Nat}
    (hclears : ∀ g, (k, g) ∈ m.objects p → Clears m (onPool despawn) (k, g))
    (hfills : ∀ g, (k, g) ∈ m.objects p → Fills m (onPool spawn) (k, g))
    (h : Kept m s) (hroot : Rooted m s p) (htrigger : TriggerFits m s k p guid) :
    let s' := spawnGroup m dice spawn despawn k p guid s
    Filled m (Of m k p) p s s' ∧ (Bounded m s p → Bounded m s' p) := by
  unfold spawnGroup
  by_cases hempty : (m.group k p).isEmpty = true
  · rw [if_pos hempty]
    exact ⟨.of_same h (.refl s), id⟩
  rw [if_neg hempty, if_neg hk]
  obtain ⟨hfill, hnumber⟩ := spawnLoop_spec hl hk hclears hfills (spawnCount m s p guid) guid 0 h hroot
  refine ⟨hfill, fun hb => ?_⟩
  rcases htrigger with hzero | hactive | hfew
  · exact (hnumber (.inl hzero)).trans (added_spawnCount h.counted hb guid)
  · exact (hnumber (.inr hactive)).trans (added_spawnCount h.counted hb guid)
  · exact (number_le_objects _ p).trans hfew

end Loop

end Axium.Pools
