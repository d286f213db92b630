import Axium.Pools.Limits

/-!
# Spawning quests, and runs of `PoolMgr`

`PoolGroup<Quest>::SpawnObject` does not look at the counter of the pool, activates saved quests whether they
are active or not, and may recycle quests of other pools. Where this does no harm (`Suited`, `Orderly`), every
counter is the number of active objects, no pool exceeds its limit, and nothing in a despawned pool is active
(**`pools_within_limits`**).
-/

namespace Axium.Pools

open PoolMgr Run List OrdMap

variable {R : Type*} {m : PoolMgr R} {s s' : State} {p q quest : Nat}

/-! ## Quests that are activated -/

theorem mem_quests_pair : (.quest, quest) ∈ m.quests p ↔ (.quest, quest) ∈ m.objects p :=
  mem_quests.trans (and_iff_left rfl)

theorem filled_activateQuest (hl : m.Loaded) (h : Kept m s) (hroot : Rooted m s p)
    (ho : (.quest, quest) ∈ m.objects p) (hoff : s.isActive (.quest, quest) = false)
    (hroom : (m.activeQuests s p).card < m.maxLimit p) :
    let s' := s.activateObject (.quest, quest) p
    Filled m (Of m .quest p) p s s' ∧ (m.activeQuests s' p).card = (m.activeQuests s p).card + 1 ∧
      ∀ quest', s'.isActive (.quest, quest') = (decide (quest = quest') || s.isActive (.quest, quest')) := by
  have hactive : ∀ quest', (s.activateObject (.quest, quest) p).isActive (.quest, quest') =
      (decide (quest = quest') || s.isActive (.quest, quest')) := by
    intro quest'
    rw [isActive_activateObject, decide_eq_false (by simp), Bool.false_or,
      decide_eq_decide.2 State.object_eq_iff]
  have hcard : ∀ q, (m.activeQuests (s.activateObject (.quest, quest) p) q).card =
      (m.activeQuests s q).card + if p = q then 1 else 0 := by
    intro q
    by_cases heq : p = q
    · subst heq
      rw [if_pos rfl, ← Finset.card_insert_of_notMem (a := ((.quest, quest) : Object))]
      · congr 1
        ext ⟨k, g⟩
        rw [Finset.mem_insert, mem_activeQuests, mem_activeQuests]
        by_cases hk : k = .quest
        · subst hk
          rw [hactive, Bool.or_eq_true, decide_eq_true_iff, State.object_eq_iff]
          constructor
          · rintro ⟨hmem, rfl | hon⟩
            · exact .inl rfl
            · exact .inr ⟨hmem, hon⟩
          · rintro (rfl | ⟨hmem, hon⟩)
            · exact ⟨mem_quests_pair.2 ho, .inl rfl⟩
            · exact ⟨hmem, .inr hon⟩
        · refine iff_of_false (fun hin => hk (mem_quests.1 hin.1).2) ?_
          rintro (heq | hin)
          · exact hk (Prod.mk.inj heq).1
          · exact hk (mem_quests.1 hin.1).2
      · intro hin
        rw [(mem_activeQuests.1 hin).2] at hoff
        cases hoff
    · rw [if_neg heq, add_zero]
      refine congrArg Finset.card (Finset.filter_congr fun x hx => ?_)
      obtain ⟨k, g⟩ := x
      obtain rfl : k = .quest := (mem_quests.1 hx).2
      rw [hactive, decide_eq_false, Bool.false_or]
      rintro rfl
      exact heq (hl.one_pool _ p q ho (mem_quests.1 hx).1)
  refine ⟨⟨⟨h.counted.activateObject hl ho hoff hroot, fun quest' hon => ?_, fun q hq => ?_, h.saved⟩,
    fun x hx hself => ?_, fun _ => ?_, fun q hq hb => ?_⟩, (hcard p).trans (by rw [if_pos rfl]), hactive⟩
  · rw [hactive, Bool.or_eq_true, decide_eq_true_iff] at hon
    rcases hon with rfl | hon
    · exact ⟨p, ho⟩
    · exact h.owned quest' hon
  · rw [hcard]
    split
    · rename_i heq
      exact heq ▸ hroom
    · exact h.limited q hq
  · rw [isActive_activateObject, decide_eq_false hself.symm, decide_eq_false, Bool.false_or, Bool.false_or]
    exact fun heq => hx ⟨quest, ho, .inl heq⟩
  · rw [isActive_activateObject, decide_eq_true rfl, Bool.true_or]
  · refine (number_congr fun x hx => ?_).trans_le hb
    rw [isActive_activateObject_of_rooted hroot hx, decide_eq_false, Bool.false_or]
    rintro rfl
    obtain rfl := hl.one_pool _ p q ho hx
    exact hl.not_nested_self p hq

theorem activateSaved_spec (hl : m.Loaded) : ∀ {rows : List Nat} {limit : Nat} {s : State}, Kept m s →
    Rooted m s p → rows.Nodup →
    (∀ quest ∈ rows, (.quest, quest) ∈ m.objects p ∧ s.isActive (.quest, quest) = false) →
    (m.activeQuests s p).card + rows.length ≤ m.maxLimit p →
    Filled m (Of m .quest p) p s (activateSaved p limit rows s)
  | [], _, s, h, _, _, _, _ => .of_same h (.refl s)
  | quest :: rows, limit, s, h, hroot, hnodup, hrows, hroom => by
    rw [length_cons] at hroom
    obtain ⟨hmem, hoff⟩ := hrows quest mem_cons_self
    obtain ⟨hfill, hcard, hactive⟩ := filled_activateQuest hl h hroot hmem hoff (by omega)
    unfold activateSaved
    dsimp only
    split
    · exact hfill
    · refine hfill.trans (activateSaved_spec hl hfill.kept (hfill.rooted hroot) (nodup_cons.1 hnodup).2
        (fun quest' hquest' => ⟨(hrows quest' (mem_cons_of_mem _ hquest')).1, ?_⟩) (by omega))
      rw [hactive, (hrows quest' (mem_cons_of_mem _ hquest')).2, decide_eq_false]
      · rfl
      · rintro rfl
        exact (nodup_cons.1 hnodup).1 hquest'

variable {set : OrdMap Nat Unit}

theorem select_mem (dice : Dice R) (s : State) (h : set.isEmpty = false) : select dice s set ∈ set.keys := by
  have hpos : 0 < set.keys.length := by
    obtain ⟨g, hg⟩ := first?_of_not_isEmpty h
    exact length_pos_of_mem (first?_mem hg)
  have hlt : dice.index s.rolls % set.size < set.keys.length := by
    rw [OrdMap.keys, length_map] at hpos ⊢
    exact Nat.mod_lt _ hpos
  rw [select, getElem?_eq_getElem hlt]
  exact getElem_mem hlt

theorem size_eq_zero : set.size = 0 ↔ set.isEmpty = true := length_eq_zero_iff.trans isEmpty_iff.symm

theorem size_erase_of_mem {g : Nat} (h : g ∈ set.keys) : set.size = (set.erase g).size + 1 := by
  obtain ⟨u, hu⟩ := mem_keys.1 h
  exact size_erase hu

theorem recycle_spec (dice : Dice R) {limit : Nat} : ∀ (i : Nat) {current new : OrdMap Nat Unit} (s : State),
    current.size ≤ i → current.isEmpty = false → (∀ quest ∈ current.keys, quest ∉ new.keys) → new.size < limit →
    let r := recycle dice limit i current new s
    SameSpawns s r.2 ∧ (∀ quest ∈ r.1.keys, quest ∈ new.keys ∨ quest ∈ current.keys) ∧
      (∀ quest ∈ new.keys, quest ∈ r.1.keys) ∧ select dice s current ∈ r.1.keys ∧
      r.1.size = min limit (new.size + current.size)
  | 0, _, _, _, hi, hsome, _, _ => by
    rw [size_eq_zero.1 (Nat.le_zero.1 hi)] at hsome
    cases hsome
  | i + 1, current, new, s, hi, hsome, hnew, hlt => by
    have hselect : select dice s current ∈ current.keys := select_mem dice s hsome
    have hsize := size_erase_of_mem hselect
    have hinsert : (new.insert (select dice s current) ()).size = new.size + 1 := by
      rw [OrdMap.size, (insert_perm (find?_eq_none.2 (hnew _ hselect))).length_eq]
      rfl
    unfold recycle
    dsimp only
    split
    · rename_i hcond
      rw [Bool.and_eq_true, decide_eq_true_eq, Bool.not_eq_true'] at hcond
      have hnew' : ∀ quest ∈ (current.erase (select dice s current)).keys,
          quest ∉ (new.insert (select dice s current) ()).keys := by
        intro quest hquest hin
        obtain ⟨hne, hquest⟩ := mem_keys_erase.1 hquest
        exact (mem_keys_insert.1 hin).elim hne (hnew quest hquest)
      obtain ⟨hsame, hmem, hkeeps, -, hrsize⟩ :=
        recycle_spec dice i s.rolled (by omega) hcond.2 hnew' hcond.1
      refine ⟨(sameSpawns_rolled s).trans hsame, fun quest hquest => ?_,
        fun quest hquest => hkeeps quest (mem_keys_insert.2 (.inr hquest)), hkeeps _ (mem_keys_insert.2 (.inl rfl)),
        hrsize.trans (by omega)⟩
      rcases hmem quest hquest with hnew | hcurrent
      · rcases mem_keys_insert.1 hnew with rfl | hnew
        · exact .inr hselect
        · exact .inl hnew
      · exact .inr (mem_keys_erase.1 hcurrent).2
    · rename_i hcond
      refine ⟨sameSpawns_rolled s, fun quest hquest => ?_, fun quest hquest => mem_keys_insert.2 (.inr hquest),
        mem_keys_insert.2 (.inl rfl), ?_⟩
      · rcases mem_keys_insert.1 hquest with rfl | hnew
        · exact .inr hselect
        · exact .inl hnew
      · rw [hinsert]
        by_cases hlimit : new.size + 1 < limit
        · have hempty : (current.erase (select dice s current)).isEmpty = true := by
            by_contra hne
            exact hcond (by simp [hne]; omega)
          have := size_eq_zero.2 hempty
          omega
        · omega

theorem activateNew_spec (hl : m.Loaded) (dice : Dice R) : ∀ (i : Nat) {limit : Nat} {new : OrdMap Nat Unit}
    {s : State}, Kept m s → Rooted m s p → new.isEmpty = false → limit ≠ 0 → limit < 2 ^ 32 →
    (∀ quest ∈ new.keys, (.quest, quest) ∈ m.objects p ∧ s.isActive (.quest, quest) = false) →
    (m.activeQuests s p).card + limit ≤ m.maxLimit p →
    Filled m (Of m .quest p) p s (activateNew dice p i limit new s)
  | 0, _, _, s, h, _, _, _, _, _, _ => .of_same h (.refl s)
  | i + 1, limit, new, s, h, hroot, hsome, hpos, hlt, hnew, hroom => by
    have hsame := sameSpawns_rolled s
    have h₁ : Filled m (Of m .quest p) p s s.rolled := .of_same h hsame
    have hcard₁ : (m.activeQuests s.rolled p).card = (m.activeQuests s p).card :=
      congrArg Finset.card (Finset.filter_congr fun x _ => by rw [hsame.isActive])
    obtain ⟨hmem, hoff⟩ := hnew _ (select_mem dice s hsome)
    obtain ⟨hfill, hcard, hactive⟩ := filled_activateQuest hl h₁.kept (h₁.rooted hroot) hmem
      ((hsame.isActive _).trans hoff) (by omega)
    have hdecr : decr32 limit = limit - 1 := by
      unfold decr32
      omega
    unfold activateNew
    dsimp only
    rw [hdecr]
    split
    · rename_i hcond
      rw [Bool.and_eq_true, Bool.not_eq_true', decide_eq_true_iff] at hcond
      refine (h₁.trans hfill).trans (activateNew_spec hl dice i hfill.kept ((h₁.trans hfill).rooted hroot) hcond.2
        hcond.1 (by omega) (fun quest hquest => ?_) (by omega))
      obtain ⟨hne, hquest⟩ := mem_keys_erase.1 hquest
      refine ⟨(hnew quest hquest).1, ?_⟩
      rw [hactive, hsame.isActive, (hnew quest hquest).2, decide_eq_false hne]
      rfl
    · exact h₁.trans hfill

/-! ## The quests of a pool -/

def Idle (m : PoolMgr R) (s : State) (p : Nat) : Prop := ∀ o ∈ m.quests p, s.isActive o = false

def PoolMgr.idleQuests (m : PoolMgr R) (s : State) (p : Nat) : Finset Object :=
  (m.quests p).filter (s.isActive · = false)

/-- No quest of another pool is recycled: there are new quests enough, or no others are active. -/
def NoStrangers (m : PoolMgr R) (s : State) (p : Nat) : Prop :=
  m.maxLimit p ≤ (m.idleQuests s p).card ∨
    ∀ quest, s.isActive (.quest, quest) = true → (.quest, quest) ∈ m.objects p

theorem mem_newQuests (hl : m.Loaded) :
    quest ∈ (newQuests m p s).keys ↔ (.quest, quest) ∈ m.idleQuests s p := by
  have hfold : ∀ (l : List (PoolObject R)) (set : OrdMap Nat Unit),
      quest ∈ (l.foldl (fun set o => if s.isActive (.quest, o.guid) then set else set.insert o.guid ())
        set).keys ↔ quest ∈ set.keys ∨ (quest ∈ l.map (·.guid) ∧ s.isActive (.quest, quest) = false) := by
    intro l
    induction l with
    | nil =>
      intro set
      rw [foldl_nil]
      simp
    | cons o l ih =>
      intro set
      rw [foldl_cons, ih, map_cons, mem_cons]
      split
      · rename_i hon
        constructor
        · exact Or.imp_right fun h => ⟨.inr h.1, h.2⟩
        · rintro (h | ⟨rfl | h, hoff⟩)
          · exact .inl h
          · rw [hon] at hoff
            cases hoff
          · exact .inr ⟨h, hoff⟩
      · rename_i hoff
        rw [mem_keys_insert]
        constructor
        · rintro ((rfl | h) | h)
          · exact .inr ⟨.inl rfl, Bool.eq_false_iff.2 hoff⟩
          · exact .inl h
          · exact .inr ⟨.inr h.1, h.2⟩
        · rintro (h | ⟨rfl | h, hoff⟩)
          · exact .inl (.inr h)
          · exact .inl (.inl rfl)
          · exact .inr ⟨h, hoff⟩
  rw [idleQuests, Finset.mem_filter, mem_quests_pair, mem_objects, guids, hl.quest_chance, append_nil,
    newQuests, hfold]
  exact or_iff_right (by simp [OrdMap.mem_keys])

theorem not_mem_newQuests (hl : m.Loaded) (quest : Nat) (hquest : quest ∈ s.activeQuests.keys) :
    quest ∉ (newQuests m p s).keys := by
  intro hin
  have hoff := (Finset.mem_filter.1 ((mem_newQuests hl).1 hin)).2
  rw [State.isActive, OrdMap.contains_iff.2 hquest] at hoff
  cases hoff

theorem size_newQuests (hl : m.Loaded) : (newQuests m p s).size = (m.idleQuests s p).card := by
  have himage : m.idleQuests s p = (newQuests m p s).keys.toFinset.image (Kind.quest, ·) := by
    ext ⟨k, g⟩
    rw [Finset.mem_image]
    constructor
    · intro hin
      obtain rfl : k = .quest := (mem_quests.1 (Finset.mem_filter.1 hin).1).2
      exact ⟨g, mem_toFinset.2 ((mem_newQuests hl).2 hin), rfl⟩
    · rintro ⟨quest, hin, heq⟩
      rw [← heq]
      exact (mem_newQuests hl).1 (mem_toFinset.1 hin)
  rw [himage, Finset.card_image_of_injective _ (Prod.mk_right_injective _),
    toFinset_card_of_nodup (keys_nodup _), OrdMap.keys, length_map, OrdMap.size]

theorem kept_saveQuestsToDB (hl : m.Loaded) (h : Kept m s) : Kept m (saveQuestsToDB m s) := by
  have hactive : ∀ x, (saveQuestsToDB m s).isActive x = s.isActive x := by
    rintro ⟨k, g⟩
    cases k <;> rfl
  have hsame : ∀ p, m.activeQuests (saveQuestsToDB m s) p = m.activeQuests s p := fun p =>
    Finset.filter_congr fun x _ => by rw [hactive]
  refine ⟨fun p => ?_, fun quest hon => h.owned quest (hactive _ ▸ hon), fun p hp => ?_, fun p hp => ?_⟩
  · rw [number_congr fun x _ => hactive x, ← h.counted p]
    rfl
  · rw [hsame]
    exact h.limited p hp
  · obtain ⟨rows, hrows⟩ : ∃ rows, rows = m.questSearchMap.keys.filter fun quest =>
        m.questSearchMap.find? quest = some p && s.isActive (.quest, quest) := ⟨_, rfl⟩
    have hgroup : (m.group .quest p).isEmpty = false := by
      by_contra hempty
      obtain ⟨⟨k, g⟩, hg⟩ := hp
      obtain ⟨hg, rfl⟩ := mem_quests.1 hg
      exact objects_of_isEmpty (Bool.not_eq_false _ ▸ hempty) g hg
    have hsave : (saveQuestsToDB m s).questSave p = rows := by
      rw [hrows]
      change (if (m.group .quest p).isEmpty = true then _ else _) ++ _ = _
      rw [hgroup]
      rfl
    have hmem : ∀ quest ∈ rows, (.quest, quest) ∈ m.activeQuests s p := by
      intro quest hquest
      rw [hrows, mem_filter, Bool.and_eq_true, decide_eq_true_iff] at hquest
      exact mem_activeQuests.2 ⟨mem_quests_pair.2 (hl.questSearch quest p hquest.2.1), hquest.2.2⟩
    have hnodup : rows.Nodup := hrows ▸ (keys_nodup _).filter _
    rw [hsave]
    refine ⟨hnodup, fun quest hquest => (mem_quests.1 (mem_activeQuests.1 (hmem quest hquest)).1).1, ?_⟩
    refine le_trans ?_ (h.limited p hp)
    rw [← toFinset_card_of_nodup hnodup,
      ← Finset.card_image_of_injective _ (Prod.mk_right_injective Kind.quest)]
    refine Finset.card_le_card fun x hx => ?_
    obtain ⟨quest, hquest, rfl⟩ := Finset.mem_image.1 hx
    exact hmem quest (mem_toFinset.1 hquest)

/-- What `SpawnObject` of quests needs: saved quests are spawned where none is active, and no quests of other
pools are recycled. -/
def QuestsReady (m : PoolMgr R) (s : State) (p trigger : Nat) : Prop :=
  if trigger = 0 ∧ s.questSave p ≠ [] then Idle m s p else NoStrangers m s p

theorem card_activeQuests_of_idle (h : Idle m s p) : (m.activeQuests s p).card = 0 := by
  rw [Finset.card_eq_zero, PoolMgr.activeQuests, Finset.filter_eq_empty_iff]
  exact fun x hx => by simp [h x hx]

theorem clears_quest (quest : Nat) : Clears m (fun _ s => s) (.quest, quest) where
  counted _ h := h
  despawns _ _ := .refl ..
  empty _ _ _ heq := nomatch (Prod.mk.inj heq).1

theorem spawnQuests_spec (hl : m.Loaded) (dice : Dice R) {trigger : Nat} (h : Kept m s) (hroot : Rooted m s p)
    (hquests : (m.quests p).Nonempty) (hpos : m.maxLimit p ≠ 0) (hready : QuestsReady m s p trigger) :
    Filled m (Of m .quest p) p s (spawnQuests m dice p trigger s) := by
  unfold spawnQuests
  dsimp only
  unfold QuestsReady at hready
  by_cases hsaved : trigger = 0 ∧ s.questSave p ≠ []
  · rw [if_pos hsaved] at hready
    rw [if_pos (by simpa using hsaved)]
    have hrows := h.saved p hquests
    refine activateSaved_spec hl h hroot hrows.nodup (fun quest hquest => ⟨hrows.owned quest hquest, ?_⟩) ?_
    · exact hready _ (mem_quests_pair.2 (hrows.owned quest hquest))
    · rw [card_activeQuests_of_idle hready, zero_add]
      exact hrows.limited
  rw [if_neg hsaved] at hready
  rw [if_neg (by simpa using hsaved)]
  have hfill₁ : Filled m (Of m .quest p) p s (despawnObject m (fun _ s => s) .quest p 0 s) :=
    filled_despawnObject hl h 0 fun g _ => clears_quest g
  have hidle₁ : Idle m (despawnObject m (fun _ s => s) .quest p 0 s) p := by
    rintro ⟨k, g⟩ hg
    obtain ⟨hg, rfl⟩ := mem_quests.1 hg
    exact (despawnObject_spec hl h.counted 0 fun g _ => clears_quest g).2.2 g hg (.inl rfl)
  obtain ⟨s₁, hs₁⟩ : ∃ s₁, despawnObject m (fun _ s => s) .quest p 0 s = s₁ := ⟨_, rfl⟩
  rw [hs₁] at hfill₁ hidle₁ ⊢
  -- the new quests are quests of the pool
  have hnew : ∀ quest ∈ (newQuests m p s).keys, (.quest, quest) ∈ m.objects p := fun quest hquest =>
    (mem_quests.1 (Finset.mem_filter.1 ((mem_newQuests hl).1 hquest)).1).1
  obtain ⟨r, hr⟩ : ∃ r, (if (newQuests m p s).size < m.maxLimit p && !s.activeQuests.isEmpty then
      recycle dice (m.maxLimit p) s.activeQuests.size s.activeQuests (newQuests m p s) s₁
      else (newQuests m p s, s₁)) = r := ⟨_, rfl⟩
  rw [hr]
  have hrecycled : SameSpawns s₁ r.2 ∧ ∀ quest ∈ r.1.keys, (.quest, quest) ∈ m.objects p := by
    rw [← hr]
    split
    · rename_i hcond
      rw [Bool.and_eq_true, decide_eq_true_iff, Bool.not_eq_true', size_newQuests hl] at hcond
      obtain ⟨hsame, hmem, -⟩ := recycle_spec dice s.activeQuests.size s₁ le_rfl hcond.2 (not_mem_newQuests hl)
        ((size_newQuests hl).trans_lt hcond.1)
      refine ⟨hsame, fun quest hquest => ?_⟩
      rcases hmem quest hquest with hquest | hquest
      · exact hnew quest hquest
      · exact hready.resolve_left (not_le.2 hcond.1) quest (contains_iff.2 hquest)
    · exact ⟨.refl s₁, hnew⟩
  obtain ⟨hsame, hmem⟩ := hrecycled
  have hfill₂ : Filled m (Of m .quest p) p s r.2 := hfill₁.trans (.of_same hfill₁.kept hsame)
  by_cases hempty : r.1.isEmpty = true
  · rw [if_pos hempty]
    exact hfill₂
  rw [if_neg hempty]
  have hidle₂ : Idle m r.2 p := fun x hx => (hsame.isActive x).trans (hidle₁ x hx)
  have hfill₃ := hfill₂.trans (activateNew_spec hl dice r.1.size hfill₂.kept
    (hfill₂.rooted hroot) (Bool.eq_false_iff.2 hempty) hpos (hl.limit_lt p)
    (fun quest hquest => ⟨hmem quest hquest, hidle₂ _ (mem_quests_pair.2 (hmem quest hquest))⟩)
    (by rw [card_activeQuests_of_idle hidle₂, zero_add]))
  split
  · refine ⟨kept_saveQuestsToDB hl hfill₃.kept, fun x hx hself => ?_, hfill₃.self, hfill₃.nested⟩
    refine Eq.trans ?_ (hfill₃.others x hx hself)
    obtain ⟨k, g⟩ := x
    cases k <;> rfl
  · exact hfill₃

/-! ## Pools of quests -/

/-- A pool with quests: it may hold some, it holds nothing else unless all of it fits, and it needs no quests
of other pools. -/
structure QuestsFit (m : PoolMgr R) (p : Nat) : Prop where
  limit_pos : m.maxLimit p ≠ 0
  room : m.quests p = m.objects p ∨ (m.objects p).card ≤ m.maxLimit p
  enough : m.maxLimit p ≤ (m.quests p).card ∨ ∀ q, (m.quests q).Nonempty → q = p

def Suited (m : PoolMgr R) : Prop := ∀ p, (m.quests p).Nonempty → QuestsFit m p

theorem QuestsFit.bounded (hfit : QuestsFit m p) (hquests : (m.quests p).Nonempty) (h : Kept m s) :
    Bounded m s p := by
  rcases hfit.room with hsame | hfew
  · refine le_trans (le_of_eq ?_) (h.limited p hquests)
    rw [PoolMgr.activeQuests, hsame]
    rfl
  · exact (number_le_objects s p).trans hfew

theorem QuestsFit.ready (hfit : QuestsFit m p) (h : Kept m s) (hidle : Idle m s p) (trigger : Nat) :
    QuestsReady m s p trigger := by
  unfold QuestsReady
  split
  · exact hidle
  rcases hfit.enough with hmany | honly
  · refine .inl (hmany.trans (le_of_eq ?_))
    rw [idleQuests, Finset.filter_true_of_mem hidle]
  · refine .inr fun quest hon => ?_
    obtain ⟨q, hq⟩ := h.owned quest hon
    obtain rfl := honly q ⟨_, mem_quests_pair.2 hq⟩
    exact hq

theorem fills_of_not_pool {f : Nat → State → State} {o : Object} (hk : o.1 ≠ .pool) : Fills m (onPool f) o := by
  obtain ⟨k, g⟩ := o
  have hid : ∀ s, onPool f (k, g) s = s := by
    intro s
    cases k with
    | pool => exact absurd rfl hk
    | creature => rfl
    | gameobject => rfl
    | quest => rfl
  refine ⟨fun s h _ _ => by rwa [hid], fun s _ _ _ x _ => by rw [hid], fun s _ _ _ q hq => ?_⟩
  rcases hq with heq | ⟨c, heq, -⟩
  · exact absurd (Prod.mk.inj heq).1 hk
  · exact absurd (Prod.mk.inj heq).1 hk

def SpawnReady (m : PoolMgr R) (s : State) (p : Nat) : Prop :=
  Idle m s p ∨ (m.quests p = m.objects p ∧ QuestsReady m s p 0)

theorem fills_onPool {spawn : Nat → State → State} {c : Nat}
    (hspawn : ∀ s, Kept m s → Rooted m s c → SpawnReady m s c →
      Filled m (m.Nested c) c s (spawn c s) ∧ (Bounded m s c → Bounded m (spawn c s) c)) :
    Fills m (onPool spawn) (.pool, c) := by
  have hbelow : ∀ {x : Object}, m.Nested c x → Below m (.pool, c) x := fun hx => ⟨c, rfl, hx⟩
  have hfilled : ∀ s, Kept m s → s.isActive (.pool, c) = true →
      (∀ x, Below m (.pool, c) x → s.isActive x = false) →
      Filled m (m.Nested c) c s (spawn c s) ∧ (Bounded m s c → Bounded m (spawn c s) c) := fun s h hon hoff =>
    hspawn s h (.inl hon) (.inl fun x hx => hoff x (hbelow (.direct (mem_quests.1 hx).1)))
  refine ⟨fun s h hon hoff => (hfilled s h hon hoff).1.kept, fun s h hon hoff x hx => ?_,
    fun s h hon hoff q hq => ?_⟩
  · obtain ⟨hfill, -⟩ := hfilled s h hon hoff
    by_cases hself : x = (.pool, c)
    · rw [hself]
      exact (hfill.self hon).trans hon.symm
    · exact hfill.others x (fun hin => hx (hbelow hin)) hself
  · obtain ⟨hfill, hbounded⟩ := hfilled s h hon hoff
    have hzero : ∀ q, (∀ x ∈ m.objects q, m.Nested c x) → Bounded m s q := by
      intro q hq
      refine (number_eq_zero.2 fun x hx => hoff x (hbelow (hq x hx))).trans_le (Nat.zero_le _)
    rcases hq with heq | ⟨c', heq, hnested⟩
    · obtain ⟨-, rfl⟩ := Prod.mk.inj heq
      exact hbounded (hzero c fun x hx => .direct hx)
    · obtain ⟨-, rfl⟩ := Prod.mk.inj heq
      exact hfill.nested q hnested (hzero q fun x hx => hnested.trans_direct hx)

section Calls
variable [Zero R] [Sub R] [LT R] [DecidableLT R] {dice : Dice R} {k : Kind}

/-- What `SpawnPool<T>` needs. -/
def GroupReady (m : PoolMgr R) (s : State) (k : Kind) (p guid : Nat) : Prop :=
  if k = .quest then (m.quests p).Nonempty → QuestsReady m s p guid else TriggerFits m s k p guid

theorem spawnGroup_ready (hl : m.Loaded) (hsuited : Suited m) {spawn despawn : Nat → State → State}
    {guid : Nat} (hclears : ∀ g, (k, g) ∈ m.objects p → Clears m (onPool despawn) (k, g))
    (hfills : ∀ g, (k, g) ∈ m.objects p → Fills m (onPool spawn) (k, g))
    (h : Kept m s) (hroot : Rooted m s p) (hready : GroupReady m s k p guid) :
    let s' := spawnGroup m dice spawn despawn k p guid s
    Filled m (Of m k p) p s s' ∧ (Bounded m s p → Bounded m s' p) := by
  by_cases hk : k = .quest
  swap
  · unfold GroupReady at hready
    rw [if_neg hk] at hready
    exact spawnGroup_spec hl hk hclears hfills h hroot hready
  subst hk
  unfold spawnGroup
  by_cases hempty : (m.group .quest p).isEmpty = true
  · rw [if_pos hempty]
    exact ⟨.of_same h (.refl s), id⟩
  rw [if_neg hempty, if_pos rfl]
  have hquests : (m.quests p).Nonempty := by
    by_contra hnone
    refine hempty (isEmpty_of_objects fun g hg => hnone ⟨_, mem_quests_pair.2 hg⟩)
  have hfill := spawnQuests_spec hl dice h hroot hquests (hsuited p hquests).limit_pos (hready hquests)
  exact ⟨hfill, fun _ => (hsuited p hquests).bounded hquests hfill.kept⟩

theorem spawnPool_spec (hl : m.Loaded) (hsuited : Suited m) {rank : Nat → Nat}
    (hrank : ∀ p c, (.pool, c) ∈ m.objects p → rank c < rank p) :
    ∀ {n p : Nat} {s : State}, rank p < n → Kept m s → Rooted m s p → SpawnReady m s p →
      Filled m (m.Nested p) p s (spawnPool m dice n p s) ∧
        (Bounded m s p → Bounded m (spawnPool m dice n p s) p)
  | 0, _, _, hn, _, _, _ => absurd hn (Nat.not_lt_zero _)
  | n + 1, p, s, hn, h, hroot, hready => by
    have hbelow : ∀ {c}, (.pool, c) ∈ m.objects p → rank c < n := fun hc =>
      (hrank p _ hc).trans_le (Nat.lt_succ_iff.1 hn)
    have hclears : ∀ k g, (k, g) ∈ m.objects p → Clears m (onPool (despawnPool m n)) (k, g) := by
      intro k g hg
      by_cases hk : k = .pool
      · subst hk
        exact clears_onPool fun s hc => despawnPool_spec hl hrank (hbelow hg) hc
      · exact clears_of_not_pool hk
    have hfills : ∀ k g, (k, g) ∈ m.objects p → Fills m (onPool (spawnPool m dice n)) (k, g) := by
      intro k g hg
      by_cases hk : k = .pool
      · subst hk
        exact fills_onPool fun s h hroot hready => spawnPool_spec hl hsuited hrank (hbelow hg) h hroot hready
      · exact fills_of_not_pool hk
    have hgroup : ∀ k s, Kept m s → Rooted m s p → GroupReady m s k p 0 →
        let s' := spawnGroup m dice (spawnPool m dice n) (despawnPool m n) k p 0 s
        Filled m (Of m k p) p s s' ∧ (Bounded m s p → Bounded m s' p) := fun k s h hroot hready =>
      spawnGroup_ready hl hsuited (hclears k) (hfills k) h hroot hready
    have hplain : ∀ k s, k ≠ .quest → GroupReady m s k p 0 := by
      intro k s hk
      unfold GroupReady
      rw [if_neg hk]
      exact .inl rfl
    obtain ⟨hfill₁, hbound₁⟩ := hgroup .pool s h hroot (hplain _ _ (by decide))
    obtain ⟨hfill₂, hbound₂⟩ := hgroup .gameobject _ hfill₁.kept (hfill₁.rooted hroot) (hplain _ _ (by decide))
    have hroot₂ := hfill₂.rooted (hfill₁.rooted hroot)
    obtain ⟨hfill₃, hbound₃⟩ := hgroup .creature _ hfill₂.kept hroot₂ (hplain _ _ (by decide))
    -- the quests are as ready as before
    have hquests := hgroup .quest _ hfill₃.kept (hfill₃.rooted hroot₂) ?_
    · obtain ⟨hfill₄, hbound₄⟩ := hquests
      have hnested : ∀ {k s s'}, Filled m (Of m k p) p s s' → Filled m (m.Nested p) p s s' := fun hfill =>
        hfill.mono fun x hx => hx.nested
      exact ⟨(((hnested hfill₁).trans (hnested hfill₂)).trans (hnested hfill₃)).trans (hnested hfill₄),
        fun hb => hbound₄ (hbound₃ (hbound₂ (hbound₁ hb)))⟩
    · unfold GroupReady
      rw [if_pos rfl]
      intro hsome
      rcases hready with hidle | ⟨honly, hready⟩
      · refine (hsuited p hsome).ready hfill₃.kept (fun x hx => ?_) 0
        obtain ⟨hmem, hquest⟩ := mem_quests.1 hx
        have hother : ∀ {k}, k ≠ .quest → ¬ Of m k p x := by
          rintro k hk ⟨g, hg, rfl | hin⟩
          · exact hk hquest
          · exact hl.not_below hg hmem hin
        rw [hfill₃.object hl hmem (hother (by decide)), hfill₂.object hl hmem (hother (by decide)),
          hfill₁.object hl hmem (hother (by decide))]
        exact hidle x hx
      · have hskip : ∀ k s, k ≠ .quest →
            spawnGroup m dice (spawnPool m dice n) (despawnPool m n) k p 0 s = s := by
          intro k s hk
          refine if_pos (isEmpty_of_objects fun g hg => hk ?_)
          rw [← honly] at hg
          exact (mem_quests.1 hg).2
        rw [hskip .pool s (by decide), hskip .gameobject s (by decide), hskip .creature s (by decide)]
        exact hready

/-! ## Runs -/

def Orderly (m : PoolMgr R) (s : State) : Call → Prop
  | .spawnPool p => Rooted m s p ∧ SpawnReady m s p
  | .despawnPool _ => True
  | .updatePool k p guid =>
    if m.isPartOfAPool p ≠ 0 then
      Rooted m s (m.isPartOfAPool p) ∧ TriggerFits m s .pool (m.isPartOfAPool p) p
    else Rooted m s p ∧ GroupReady m s k p guid

/-- Every pool is counted, and within its limit. -/
structure Steady (m : PoolMgr R) (s : State) : Prop where
  kept : Kept m s
  bounded : ∀ p, Bounded m s p

omit [Zero R] [Sub R] [LT R] [DecidableLT R] in
theorem Steady.of_filled (hl : m.Loaded) (h : Steady m s) (hroot : Rooted m s p)
    (hfill : Filled m (m.Nested p) p s s') (hb : Bounded m s p → Bounded m s' p) : Steady m s' := by
  refine ⟨hfill.kept, fun q => ?_⟩
  by_cases hself : q = p
  · exact hself ▸ hb (h.bounded p)
  by_cases hnested : m.Nested p (.pool, q)
  · exact hfill.nested q hnested (h.bounded q)
  refine (number_congr fun x hx => ?_).trans_le (h.bounded q)
  by_cases hx' : x = (.pool, p)
  · subst hx'
    have hon := hroot.resolve_right fun hnone => hnone q hx
    exact (hfill.self hon).trans hon.symm
  · exact hfill.others x (fun hin => (hl.owner_of_nested hin hx).elim hself hnested) hx'

omit [Zero R] [Sub R] [LT R] [DecidableLT R] in
theorem Steady.despawn (hl : m.Loaded) (h : Steady m s) :
    Steady m (despawnPool m m.nesting p s) ∧
      ∀ o, m.Nested p o → (despawnPool m m.nesting p s).isActive o = false := by
  obtain ⟨rank, hrank, hnesting⟩ := hl.nested
  have hemptied := despawnPool_spec hl hrank (hnesting p) h.kept.counted
  refine ⟨⟨h.kept.despawns hemptied.counted hemptied.despawns, fun q => ?_⟩, fun o ho => ?_⟩
  · exact (number_mono fun x _ => hemptied.despawns.fewer x).trans (h.bounded q)
  · exact not_isActive_of_nested hemptied.counted hemptied.off ho

/-- An orderly call keeps every pool counted and within its limit. -/
theorem Steady.step (hl : m.Loaded) (hsuited : Suited m) (h : Steady m s) {c : Call} (hc : Orderly m s c) :
    Steady m (step m dice s c) := by
  obtain ⟨rank, hrank, hnesting⟩ := hl.nested
  have hspawn : ∀ c s, Kept m s → Rooted m s c → SpawnReady m s c →
      Filled m (m.Nested c) c s (spawnPool m dice m.nesting c s) ∧
        (Bounded m s c → Bounded m (spawnPool m dice m.nesting c s) c) := fun c _ =>
    spawnPool_spec hl hsuited hrank (hnesting c)
  -- a call of `SpawnPool<T>` by itself
  have hgroup : ∀ k p guid, Rooted m s p → GroupReady m s k p guid → Steady m
      (spawnGroup m dice (spawnPool m dice m.nesting) (despawnPool m m.nesting) k p guid s) := by
    intro k p guid hroot hready
    have hclears : ∀ g, (k, g) ∈ m.objects p → Clears m (onPool (despawnPool m m.nesting)) (k, g) := by
      intro g hg
      by_cases hk : k = .pool
      · subst hk
        exact clears_onPool fun s hc => despawnPool_spec hl hrank (hnesting g) hc
      · exact clears_of_not_pool hk
    have hfills : ∀ g, (k, g) ∈ m.objects p → Fills m (onPool (spawnPool m dice m.nesting)) (k, g) := by
      intro g hg
      by_cases hk : k = .pool
      · subst hk
        exact fills_onPool (hspawn g)
      · exact fills_of_not_pool hk
    obtain ⟨hfill, hb⟩ := spawnGroup_ready hl hsuited hclears hfills h.kept hroot hready
    exact h.of_filled hl hroot (hfill.mono fun x hx => hx.nested) hb
  cases c with
  | spawnPool p =>
    obtain ⟨hfill, hb⟩ := hspawn p s h.kept hc.1 hc.2
    exact h.of_filled hl hc.1 hfill hb
  | despawnPool p => exact (h.despawn hl).1
  | updatePool k p guid =>
    have hc : if m.isPartOfAPool p ≠ 0 then
        Rooted m s (m.isPartOfAPool p) ∧ TriggerFits m s .pool (m.isPartOfAPool p) p
        else Rooted m s p ∧ GroupReady m s k p guid := hc
    unfold Pools.step
    dsimp only
    by_cases hmother : m.isPartOfAPool p ≠ 0
    · rw [if_pos hmother] at hc ⊢
      refine hgroup .pool _ p hc.1 ?_
      unfold GroupReady
      rw [if_neg (by decide)]
      exact hc.2
    · rw [if_neg hmother] at hc ⊢
      exact hgroup k p guid hc.1 hc.2

omit [Zero R] [Sub R] [LT R] [DecidableLT R] in
theorem steady_start {rows : Nat → List Nat} (hrows : ∀ p, (m.quests p).Nonempty → RowsFit m p (rows p)) :
    Steady m { questSave := rows } := by
  have hoff : ∀ x, ({ questSave := rows } : State).isActive x = false := by
    rintro ⟨k, g⟩
    cases k <;> rfl
  have hnumber : ∀ p, m.number { questSave := rows } p = 0 := fun p => number_eq_zero.2 fun x _ => hoff x
  refine ⟨⟨fun p => (hnumber p).symm, fun quest hon => ?_, fun p _ => ?_, hrows⟩, fun p => ?_⟩
  · rw [hoff] at hon
    cases hon
  · rw [card_activeQuests_of_idle fun x _ => hoff x]
    exact Nat.zero_le _
  · exact (hnumber p).trans_le (Nat.zero_le _)

/-- **Pools within their limits.** Where each object belongs to one pool and the pools with quests are suited,
in every state of a run of orderly calls, whatever is rolled, the counter of a pool is the number of its
active objects, which does not exceed its limit; after `DespawnPool` nothing in the pool or nested in it is
active. -/
theorem pools_within_limits (hl : m.Loaded) (hsuited : Suited m) {rows : Nat → List Nat}
    (hrows : ∀ p, (m.quests p).Nonempty → RowsFit m p (rows p)) {calls : List Call}
    (hrun : AllSteps (step m dice) (Orderly m) { questSave := rows } calls) :
    (∀ pre, pre <+: calls → ∀ p, let s := run (step m dice) { questSave := rows } pre
      s.count p = m.number s p ∧ m.number s p ≤ m.maxLimit p) ∧
    ∀ pre p, pre ++ [.despawnPool p] <+: calls → ∀ o, m.Nested p o →
      (run (step m dice) { questSave := rows } (pre ++ [.despawnPool p])).isActive o = false := by
  have hsteady : ∀ pre, pre <+: calls → Steady m (run (step m dice) { questSave := rows } pre) := by
    rintro pre ⟨post, rfl⟩
    exact hrun.reaches (fun s c h hc => h.step hl hsuited hc) (steady_start hrows)
  refine ⟨fun pre hpre p => ⟨(hsteady pre hpre).kept.counted p, (hsteady pre hpre).bounded p⟩,
    fun pre p hpre o ho => ?_⟩
  rw [run_append, run_cons, run_nil]
  exact ((hsteady pre ((prefix_append _ _).trans hpre)).despawn hl).2 o ho

end Calls

/-! ## A pool of pools -/

def twoPools : PoolMgr Int where
  maxLimit _ := 1
  group
    | .pool, 1 => { equalChanced := [⟨2, 0⟩, ⟨3, 0⟩] }
    | .creature, 2 => { equalChanced := [⟨20, 0⟩, ⟨21, 0⟩] }
    | .creature, 3 => { equalChanced := [⟨30, 0⟩] }
    | _, _ => {}
  poolSearchMap p := if p = 2 ∨ p = 3 then some 1 else none
  questSearchMap := .empty
  nesting := 2

/-- The objects in the pools. -/
def placed : List (Nat × Object) :=
  [(1, .pool, 2), (1, .pool, 3), (2, .creature, 20), (2, .creature, 21), (3, .creature, 30)]

theorem mem_placed {o : Object} (h : o ∈ twoPools.objects p) : (p, o) ∈ placed := by
  obtain ⟨k, g⟩ := o
  obtain ⟨o, ho, rfl⟩ := mem_map.1 (mem_objects.1 h)
  rw [twoPools] at ho
  dsimp only at ho
  split at ho <;> simp at ho <;> rcases ho with rfl | rfl <;> decide

theorem loaded_twoPools : twoPools.Loaded where
  one_pool o p q hp hq := by
    have h : ∀ x ∈ placed, ∀ y ∈ placed, x.2 = y.2 → x.1 = y.1 := by decide
    exact h _ (mem_placed hp) _ (mem_placed hq) rfl
  questSearch q p hq := absurd hq nofun
  quest_chance p := rfl
  nested := by
    have h : ∀ x ∈ placed, x.2.1 = .pool → (if x.2.2 = 1 then 1 else 0) < if x.1 = 1 then 1 else 0 := by decide
    refine ⟨fun p => if p = 1 then 1 else 0, fun p c hc => h _ (mem_placed hc) rfl, fun p => ?_⟩
    change (if p = 1 then 1 else 0) < 2
    split <;> decide
  limit_lt _ := Nat.one_lt_two_pow (by decide)

theorem not_mem_quests_twoPools {o : Object} : o ∉ twoPools.quests p := fun ho => by
  have h : ∀ x ∈ placed, x.2.1 ≠ .quest := by decide
  exact h _ (mem_placed (mem_quests.1 ho).1) (mem_quests.1 ho).2

theorem pools_within_limits_twoPools :
    let dice : Dice Int := { chance := fun _ => 0, index := fun n => if n = 2 then 1 else 0 }
    let calls : List Call := [.spawnPool 1, .updatePool .creature 2 20]
    let s := run (step twoPools dice) {} calls
    (s.count 1 = twoPools.number s 1 ∧ twoPools.number s 1 ≤ 1) ∧ s.isActive (.creature, 30) = true ∧
      (run (step twoPools dice) {} (calls ++ [.despawnPool 1])).isActive (.creature, 30) = false := by
  intro dice calls s
  have hroot (s : State) : Rooted twoPools s 1 := .inr fun q hq => by
    have h : ∀ x ∈ placed, x.2 ≠ (.pool, 1) := by decide
    exact h _ (mem_placed hq) rfl
  have hrun : AllSteps (step twoPools dice) (Orderly twoPools) {} (calls ++ [.despawnPool 1]) :=
    ⟨⟨hroot _, .inl fun o ho => absurd ho not_mem_quests_twoPools⟩,
      ⟨hroot _, .inr (.inl ⟨mem_objects.2 (by decide), by decide +kernel⟩)⟩, trivial, trivial⟩
  have hnone (p : Nat) : ¬ (twoPools.quests p).Nonempty := fun ⟨_, ho⟩ => not_mem_quests_twoPools ho
  have hlimits := pools_within_limits loaded_twoPools (fun p hp => absurd hp (hnone p))
    (fun p hp => absurd hp (hnone p)) hrun
  have hthree : twoPools.Nested 3 (.creature, 30) := .direct (mem_objects.2 (by decide))
  exact ⟨hlimits.1 calls (prefix_append ..) 1, by decide +kernel,
    hlimits.2 calls 1 prefix_rfl _ (.inner (mem_objects.2 (by decide)) hthree)⟩

/-! ## Two pools of one quest each -/

def twoQuests : PoolMgr Int where
  maxLimit _ := 1
  group k p := if k = .quest ∧ (p = 1 ∨ p = 2) then { equalChanced := [⟨p * 10, 0⟩] } else {}
  poolSearchMap _ := none
  questSearchMap := (OrdMap.empty.insert 10 1).insert 20 2
  nesting := 1

theorem mem_twoQuests {o : Object} : o ∈ twoQuests.objects p ↔ o = (.quest, p * 10) ∧ (p = 1 ∨ p = 2) := by
  obtain ⟨k, g⟩ := o
  rw [mem_objects, guids]
  by_cases h : k = .quest ∧ (p = 1 ∨ p = 2)
  · have hgroup : twoQuests.group k p = { equalChanced := [⟨p * 10, 0⟩] } := if_pos h
    rw [hgroup]
    simp [h]
  · have hgroup : twoQuests.group k p = {} := if_neg h
    rw [hgroup]
    simp only [append_nil, map_nil, not_mem_nil, false_iff, Prod.mk.injEq]
    exact fun hin => h ⟨hin.1.1, hin.2⟩

theorem loaded_twoQuests : twoQuests.Loaded where
  one_pool o p q hp hq := by
    obtain ⟨rfl, hp⟩ := mem_twoQuests.1 hp
    obtain ⟨heq, hq⟩ := mem_twoQuests.1 hq
    have hsame := (Prod.mk.inj heq).2
    omega
  questSearch q p hq := by
    refine mem_twoQuests.2 ?_
    have hmem := find?_eq_some.1 hq
    change (q, p) ∈ [(10, 1), (20, 2)] at hmem
    simp only [mem_cons, Prod.mk.injEq, not_mem_nil, or_false] at hmem
    rcases hmem with ⟨rfl, rfl⟩ | ⟨rfl, rfl⟩ <;> simp
  quest_chance p := by
    unfold twoQuests
    dsimp only
    split <;> rfl
  nested := ⟨fun _ => 0, fun p c hc => absurd (mem_twoQuests.1 hc).1 (by simp), fun _ => one_pos⟩
  limit_lt _ := Nat.one_lt_two_pow (by decide)

/-- Pool 1 takes the quest of pool 2 for one of its own. -/
theorem updatePool_recycles_stranger :
    let dice : Dice Int := { chance := fun _ => 0, index := fun n => if n = 2 then 1 else 0 }
    let s := run (step twoQuests dice) {} [.spawnPool 1, .spawnPool 2, .updatePool .quest 1 1]
    twoQuests.Loaded ∧ s.isActive (.pool, 1) = true ∧ s.count 1 = 1 ∧ twoQuests.number s 1 = 0 ∧
      s.isActive (.quest, 20) = true :=
  ⟨loaded_twoQuests, by decide +kernel, by decide +kernel, by decide +kernel, by decide +kernel⟩

end Axium.Pools
