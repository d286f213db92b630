import Axium.Pools.QuestPools

/-!
# The rotation of quests

With a trigger, as for daily and weekly quests, `SpawnObject` takes new quests of the pool and recycles active
ones where these are too few. What it recycles comes from all active quests, so that a pool may take the quests
of others: **`rotates_iff`**.
-/

namespace Axium.Pools

open PoolMgr OrdMap

variable {R : Type*} {m : PoolMgr R} {s s' s'' : State} {p quest : Nat}

/-- As many quests of the pool are active as can be, and no others are counted for it; new ones are preferred, and
other pools stay as they are. -/
structure Rotates (m : PoolMgr R) (s s' : State) (p : Nat) : Prop where
  exactly : (m.activeQuests s' p).card = min (m.maxLimit p) (m.quests p).card
  members : s'.count p = s.count p - (m.activeQuests s p).card + (m.activeQuests s' p).card
  reused : ∀ o ∈ m.quests p, s.isActive o = true → s'.isActive o = true → (m.idleQuests s p).card < m.maxLimit p
  others : ∀ q, q ≠ p → s'.count q = s.count q ∧ ∀ o ∈ m.quests q, s'.isActive o = s.isActive o

/-! ## The pool is cleared -/

structure Drops (p : Nat) (dropped : Finset Nat) (s s' : State) : Prop where
  isActive : ∀ g, s'.isActive (.quest, g) = true ↔ s.isActive (.quest, g) = true ∧ g ∉ dropped
  count : ∀ q, s'.count q = s.count q - if p = q then dropped.card else 0

theorem drops_removeObject (s : State) (p g : Nat) : Drops p {g} s (s.removeObject (.quest, g) p) where
  isActive g' := by
    unfold State.removeObject
    rw [State.isActive_setCount, State.isActive_unmark]
    simp [and_comm, @eq_comm Nat g]
  count q := by
    unfold State.removeObject
    rw [State.count_setCount, Finset.card_singleton]
    split
    · next heq => rw [← heq]; rfl
    · rfl

theorem Drops.trans {dropped : Finset Nat} {g : Nat} (h : Drops p {g} s s') (h' : Drops p dropped s' s'')
    (hg : g ∉ dropped) : Drops p (Insert.insert g dropped) s s'' where
  isActive g' := by
    rw [h'.isActive, h.isActive, Finset.mem_insert, Finset.mem_singleton, not_or, and_assoc]
  count q := by
    rw [h'.count, h.count, Finset.card_insert_of_notMem hg, Finset.card_singleton]
    split <;> omega

theorem despawnQuests (p : Nat) (l : List (PoolObject R)) (s : State) :
    ∃ dropped : Finset Nat, (∀ g, g ∈ dropped ↔ g ∈ l.map (·.guid) ∧ s.isActive (.quest, g) = true) ∧
      Drops p dropped s (l.foldl (despawnOne (fun _ s => s) .quest p 0) s) := by
  induction l generalizing s with
  | nil => exact ⟨∅, by simp, fun g => by simp, fun q => by simp⟩
  | cons o l ih =>
    rw [List.foldl_cons]
    by_cases hon : s.isActive (.quest, o.guid) = true
    · have hone : despawnOne (fun _ s => s) .quest p 0 s o = s.removeObject (.quest, o.guid) p := by
        unfold despawnOne
        rw [hon]
        rfl
      rw [hone]
      obtain ⟨dropped, hmem, hdrops⟩ := ih (s.removeObject (.quest, o.guid) p)
      have hdrop := drops_removeObject s p o.guid
      simp only [hdrop.isActive, Finset.mem_singleton] at hmem
      refine ⟨_, fun g => ?_, hdrop.trans hdrops fun hin => ((hmem _).1 hin).2.2 rfl⟩
      rw [Finset.mem_insert, hmem, List.map_cons, List.mem_cons]
      by_cases heq : g = o.guid
      · simp [heq, hon]
      · simp [heq]
    · have hone : despawnOne (fun _ s => s) .quest p 0 s o = s := by
        unfold despawnOne
        rw [Bool.not_eq_true _ |>.mp hon]
        rfl
      rw [hone]
      obtain ⟨dropped, hmem, hdrops⟩ := ih s
      refine ⟨dropped, fun g => (hmem g).trans (and_congr_left fun hg => ?_), hdrops⟩
      rw [List.map_cons, List.mem_cons, or_iff_right]
      rintro rfl
      exact hon hg

/-! ## Quests are taken -/

structure Takes (p : Nat) (taken : Finset Nat) (s s' : State) : Prop where
  isActive : ∀ g, s'.isActive (.quest, g) = true ↔ g ∈ taken ∨ s.isActive (.quest, g) = true
  count : ∀ q, s'.count q = s.count q + if p = q then taken.card else 0

theorem takes_activateObject (s : State) (p g : Nat) : Takes p {g} s (s.rolled.activateObject (.quest, g) p) where
  isActive g' := by
    rw [isActive_activateObject]
    simp [@eq_comm Nat g, (sameSpawns_rolled s).isActive]
  count q := by
    rw [count_activateObject, if_neg (by simp), (sameSpawns_rolled s).count, Finset.card_singleton]

theorem Takes.trans {taken : Finset Nat} {g : Nat} (h : Takes p {g} s s') (h' : Takes p taken s' s'')
    (hg : g ∉ taken) : Takes p (Insert.insert g taken) s s'' where
  isActive g' := by
    rw [h'.isActive, h.isActive, Finset.mem_insert, Finset.mem_singleton, or_left_comm, or_assoc]
  count q := by
    rw [h'.count, h.count, Finset.card_insert_of_notMem hg, Finset.card_singleton]
    split <;> omega

theorem size_eq (set : OrdMap Nat Unit) : set.size = set.keys.toFinset.card := by
  rw [List.toFinset_card_of_nodup (keys_nodup set), OrdMap.keys, List.length_map, OrdMap.size]

theorem activateNew_takes (dice : Dice R) (p i : Nat) {limit : Nat} {new : OrdMap Nat Unit} (s : State)
    (hi : new.size ≤ i) (hsome : new.isEmpty = false) (hpos : limit ≠ 0) (hlt : limit < 2 ^ 32) :
    ∃ taken ⊆ new.keys.toFinset, taken.card = min limit new.size ∧
      Takes p taken s (activateNew dice p i limit new s) := by
  induction i generalizing limit new s with
  | zero => rw [size_eq_zero.1 (Nat.le_zero.1 hi)] at hsome; cases hsome
  | succ i ih =>
    have hmem := select_mem dice s hsome
    have hsize := size_erase_of_mem hmem
    have hdecr : decr32 limit = limit - 1 := by
      unfold decr32
      omega
    unfold activateNew
    dsimp only
    rw [hdecr]
    generalize select dice s new = g at hmem hsize ⊢
    have hone := takes_activateObject s p g
    split
    · next hcond =>
      rw [Bool.and_eq_true, decide_eq_true_eq, Bool.not_eq_true'] at hcond
      obtain ⟨taken, hsub, hcard, htakes⟩ :=
        ih (s.rolled.activateObject (.quest, g) p) (by omega) hcond.2 hcond.1 (by omega)
      have hg : g ∉ taken := fun hin => by simpa [mem_keys_erase] using hsub hin
      refine ⟨_, fun g' hg' => ?_, ?_, hone.trans htakes hg⟩
      · rcases Finset.mem_insert.1 hg' with rfl | hg'
        · exact List.mem_toFinset.2 hmem
        · exact List.mem_toFinset.2 (mem_keys_erase.1 (List.mem_toFinset.1 (hsub hg'))).2
      · rw [Finset.card_insert_of_notMem hg]
        omega
    · next hcond =>
      refine ⟨{g}, by simpa using hmem, ?_, hone⟩
      rw [Finset.card_singleton]
      by_cases hlimit : limit = 1
      · omega
      · have hempty : (new.erase g).isEmpty = true := by
          by_contra hne
          exact hcond (by simp [hne]; omega)
        have := size_eq_zero.2 hempty
        omega

/-! ## The rotation -/

/-- The quests that were active are dropped. If there are enough new ones, they are taken, else some of all active
quests as well, the first of which is selected first. -/
structure Rotation (m : PoolMgr R) (dice : Dice R) (p : Nat) (dropped taken : Finset Nat) (s s₁ s' : State) :
    Prop where
  mem_dropped : ∀ g, g ∈ dropped ↔ (.quest, g) ∈ m.objects p ∧ s.isActive (.quest, g) = true
  drops : Drops p dropped s s₁
  takes : Takes p taken s₁ s'
  enough : m.maxLimit p ≤ (m.idleQuests s p).card →
    taken.card = m.maxLimit p ∧ ∀ g ∈ taken, (.quest, g) ∈ m.idleQuests s p
  few : (m.idleQuests s p).card < m.maxLimit p →
    taken.card = min (m.maxLimit p) ((m.idleQuests s p).card + s.activeQuests.size) ∧
      (∀ g ∈ taken, (.quest, g) ∈ m.idleQuests s p ∨ s.isActive (.quest, g) = true) ∧
      (s.activeQuests.isEmpty = false → select dice s₁ s.activeQuests ∈ taken)

theorem exists_rotation (hl : m.Loaded) (dice : Dice R) (hpos : m.maxLimit p ≠ 0) {trigger : Nat} (ht : trigger ≠ 0)
    (s : State) : ∃ dropped taken s₁, Rotation m dice p dropped taken s s₁ (spawnQuests m dice p trigger s) := by
  obtain ⟨dropped, hmem, hdrops⟩ := despawnQuests p (m.group .quest p).equalChanced s
  have hdropped (g : Nat) : g ∈ dropped ↔ (.quest, g) ∈ m.objects p ∧ s.isActive (.quest, g) = true := by
    rw [hmem, mem_objects, guids, hl.quest_chance, List.append_nil]
  unfold spawnQuests despawnObject
  dsimp only
  rw [hl.quest_chance, List.foldl_nil, if_neg (by simp [ht])]
  generalize (m.group .quest p).equalChanced.foldl _ s = s₁ at hdrops ⊢
  have hsize := size_newQuests (s := s) (p := p) hl
  have hlt := hl.limit_lt p
  refine ⟨dropped, ?_⟩
  by_cases hcond : (newQuests m p s).size < m.maxLimit p ∧ s.activeQuests.isEmpty = false
  · obtain ⟨hsame, hsub, -, hselect, hrsize⟩ :=
      recycle_spec dice _ s₁ le_rfl hcond.2 (not_mem_newQuests hl) hcond.1
    have hif : (if (newQuests m p s).size < m.maxLimit p && !s.activeQuests.isEmpty then
        recycle dice (m.maxLimit p) s.activeQuests.size s.activeQuests (newQuests m p s) s₁
        else (newQuests m p s, s₁)) =
        recycle dice (m.maxLimit p) s.activeQuests.size s.activeQuests (newQuests m p s) s₁ :=
      if_pos (by simpa using hcond)
    rw [hif]
    clear hif
    have hactive : s.activeQuests.size ≠ 0 := fun h => by
      rw [size_eq_zero.1 h] at hcond
      cases hcond.2
    generalize recycle dice (m.maxLimit p) s.activeQuests.size s.activeQuests (newQuests m p s) s₁ = r at *
    have hsome : r.1.isEmpty = false := by
      refine Bool.eq_false_iff.2 fun hempty => ?_
      have := size_eq_zero.2 hempty
      omega
    obtain ⟨taken, htaken, hcard, htakes⟩ := activateNew_takes dice p _ r.2 le_rfl hsome hpos hlt
    have hall : taken = r.1.keys.toFinset := by
      refine Finset.eq_of_subset_of_card_le htaken ?_
      rw [← size_eq]
      omega
    rw [if_neg (by simp [hsome]), if_neg ht]
    refine ⟨taken, s₁, hdropped, hdrops, ⟨fun g => ?_, fun q => ?_⟩, fun hle => by omega, fun _ => ⟨by omega,
      fun g hg => ?_, fun _ => ?_⟩⟩
    · rw [htakes.isActive, hsame.isActive]
    · rw [htakes.count, hsame.count]
    · rcases hsub g (List.mem_toFinset.1 (htaken hg)) with hin | hin
      · exact .inl ((mem_newQuests hl).1 hin)
      · exact .inr (contains_iff.2 hin)
    · rw [hall]
      exact List.mem_toFinset.2 hselect
  · have hif : (if (newQuests m p s).size < m.maxLimit p && !s.activeQuests.isEmpty then
        recycle dice (m.maxLimit p) s.activeQuests.size s.activeQuests (newQuests m p s) s₁
        else (newQuests m p s, s₁)) = (newQuests m p s, s₁) := if_neg (by simpa using hcond)
    rw [hif]
    dsimp only
    obtain ⟨taken, htaken, hcard, htakes⟩ : ∃ taken ⊆ (newQuests m p s).keys.toFinset,
        taken.card = min (m.maxLimit p) (newQuests m p s).size ∧ Takes p taken s₁
          (if (newQuests m p s).isEmpty = true then s₁ else activateNew dice p (newQuests m p s).size (m.maxLimit p)
            (newQuests m p s) s₁) := by
      split
      · next hempty =>
        refine ⟨∅, Finset.empty_subset _, ?_, fun g => by simp, fun q => by simp⟩
        rw [size_eq_zero.2 hempty, Nat.min_zero, Finset.card_empty]
      · next hsome => exact activateNew_takes dice p _ s₁ le_rfl (by simpa using hsome) hpos hlt
    rw [if_neg ht]
    have hidle (g : Nat) (hg : g ∈ taken) : (.quest, g) ∈ m.idleQuests s p :=
      (mem_newQuests hl).1 (List.mem_toFinset.1 (htaken hg))
    refine ⟨taken, s₁, hdropped, hdrops, htakes, fun hle => ⟨by omega, hidle⟩, fun hfew => ?_⟩
    have hempty : s.activeQuests.isEmpty = true := by
      by_contra hsome
      exact hcond ⟨by omega, by simpa using hsome⟩
    have := size_eq_zero.2 hempty
    exact ⟨by omega, fun g hg => .inl (hidle g hg), fun hsome => by rw [hempty] at hsome; cases hsome⟩

theorem card_eq_of_quests {quests : Finset Object} {guids : Finset Nat} (hquest : ∀ x ∈ quests, x.1 = .quest)
    (h : ∀ g, (.quest, g) ∈ quests ↔ g ∈ guids) : quests.card = guids.card := by
  rw [← Finset.card_image_of_injective guids (Prod.mk_right_injective Kind.quest)]
  congr 1
  ext ⟨k, g⟩
  rw [Finset.mem_image]
  constructor
  · intro hin
    obtain rfl : k = .quest := hquest _ hin
    exact ⟨g, (h g).1 hin, rfl⟩
  · rintro ⟨g', hin, heq⟩
    rw [← heq]
    exact (h g').2 hin

theorem card_idleQuests_add (m : PoolMgr R) (s : State) (p : Nat) :
    (m.idleQuests s p).card + (m.activeQuests s p).card = (m.quests p).card := by
  rw [← Finset.card_filter_add_card_filter_not (s := m.quests p) (s.isActive · = true), add_comm]
  simp only [Bool.not_eq_true]
  rfl

section

variable {dice : Dice R} {dropped taken : Finset Nat} (h : Rotation m dice p dropped taken s s'' s')
include h

namespace Rotation

theorem isActive (g : Nat) : s'.isActive (.quest, g) = true ↔
    g ∈ taken ∨ s.isActive (.quest, g) = true ∧ (.quest, g) ∉ m.objects p := by
  rw [h.takes.isActive, h.drops.isActive, h.mem_dropped]
  tauto

theorem card_activeQuests :
    (m.activeQuests s' p).card = (taken.filter fun g => (Kind.quest, g) ∈ m.objects p).card := by
  refine card_eq_of_quests (fun x hx => (mem_quests.1 (mem_activeQuests.1 hx).1).2) fun g => ?_
  rw [mem_activeQuests, mem_quests_pair, h.isActive, Finset.mem_filter]
  tauto

theorem count_eq : s'.count p = s.count p - (m.activeQuests s p).card + taken.card := by
  rw [h.takes.count, h.drops.count, if_pos rfl, if_pos rfl,
    card_eq_of_quests (fun x hx => (mem_quests.1 (mem_activeQuests.1 hx).1).2) fun g => ?_]
  rw [mem_activeQuests, mem_quests_pair, h.mem_dropped]

theorem rotates (hl : m.Loaded) (hno : NoStrangers m s p) : Rotates m s s' p := by
  have hadd := card_idleQuests_add m s p
  obtain ⟨hcard, hmem⟩ : taken.card = min (m.maxLimit p) (m.quests p).card ∧
      ∀ g ∈ taken, (.quest, g) ∈ m.objects p := by
    rcases le_or_gt (m.maxLimit p) (m.idleQuests s p).card with hle | hfew
    · obtain ⟨hcard, hidle⟩ := h.enough hle
      exact ⟨by omega, fun g hg => mem_quests_pair.1 (Finset.mem_filter.1 (hidle g hg)).1⟩
    · obtain ⟨hcard, hsub, -⟩ := h.few hfew
      have hown := hno.resolve_left (not_le.2 hfew)
      have hsize : (m.activeQuests s p).card = s.activeQuests.size := by
        rw [size_eq]
        refine card_eq_of_quests (fun x hx => (mem_quests.1 (mem_activeQuests.1 hx).1).2) fun g => ?_
        rw [mem_activeQuests, mem_quests_pair, List.mem_toFinset, ← contains_iff]
        exact and_iff_right_of_imp (hown g)
      refine ⟨by omega, fun g hg => (hsub g hg).elim (fun hidle => ?_) (hown g)⟩
      exact mem_quests_pair.1 (Finset.mem_filter.1 hidle).1
  have hactive : (m.activeQuests s' p).card = taken.card := by
    rw [h.card_activeQuests, Finset.filter_true_of_mem hmem]
  refine ⟨hactive.trans hcard, hactive ▸ h.count_eq, ?_, fun q hq => ⟨?_, ?_⟩⟩
  · rintro ⟨k, g⟩ ho hon hon'
    obtain ⟨ho, rfl⟩ := mem_quests.1 ho
    by_contra hle
    rcases (h.isActive g).1 hon' with hg | ⟨-, hother⟩
    · have hoff := (Finset.mem_filter.1 ((h.enough (not_lt.1 hle)).2 g hg)).2
      rw [hon] at hoff
      cases hoff
    · exact hother ho
  · rw [h.takes.count, h.drops.count, if_neg hq.symm, if_neg hq.symm]
    rfl
  · rintro ⟨k, g⟩ ho
    obtain ⟨ho, rfl⟩ := mem_quests.1 ho
    have hother : (.quest, g) ∉ m.objects p := fun hin => hq (hl.one_pool _ q p ho hin)
    rw [Bool.eq_iff_iff, h.isActive]
    exact ⟨fun hon => (hon.resolve_left fun hg => hother (hmem g hg)).1, fun hon => .inr ⟨hon, hother⟩⟩

end Rotation

end

/-- **Quests rotate within their pool**, whatever is rolled, if and only if no quest of another pool is recycled. -/
theorem rotates_iff [Zero R] (hl : m.Loaded) (hpos : m.maxLimit p ≠ 0) {trigger : Nat} (ht : trigger ≠ 0) (s : State) :
    (∀ dice, Rotates m s (spawnQuests m dice p trigger s) p) ↔ NoStrangers m s p := by
  constructor
  · intro hrotates
    by_contra hno
    rw [NoStrangers, not_or, not_le, not_forall] at hno
    obtain ⟨hfew, quest, hquest⟩ := hno
    rw [Classical.not_imp] at hquest
    obtain ⟨hon, hother⟩ := hquest
    -- the stranger is what is selected first
    obtain ⟨i, hi, hget⟩ := List.mem_iff_getElem.1 (contains_iff.1 hon)
    obtain ⟨dropped, taken, s₁, h⟩ := exists_rotation hl ⟨fun _ => 0, fun _ => i⟩ hpos ht s
    have hrot := hrotates ⟨fun _ => 0, fun _ => i⟩
    have hselect : select ⟨fun _ => (0 : R), fun _ => i⟩ s₁ s.activeQuests = quest := by
      have hsize : s.activeQuests.keys.length = s.activeQuests.size := List.length_map _
      rw [select, Nat.mod_eq_of_lt (hsize ▸ hi), List.getElem?_eq_getElem hi, hget]
      rfl
    have hsome : s.activeQuests.isEmpty = false := by
      refine Bool.eq_false_iff.2 fun hempty => ?_
      have := size_eq_zero.2 hempty
      rw [OrdMap.size, ← List.length_map (f := Prod.fst)] at this
      exact absurd (Nat.zero_le i) (not_le.2 (this ▸ hi))
    have htaken := (h.few hfew).2.2 hsome
    rw [hselect] at htaken
    have hcount := hrot.members.symm.trans h.count_eq
    rw [h.card_activeQuests] at hcount
    have hlt := Finset.card_lt_card (Finset.filter_ssubset (p := fun g => (.quest, g) ∈ m.objects p) |>.2
      ⟨quest, htaken, hother⟩)
    omega
  · intro hno dice
    obtain ⟨dropped, taken, s₁, h⟩ := exists_rotation hl dice hpos ht s
    exact h.rotates hl hno

theorem rotates_iff_own_quest :
    let dice : Dice Int := ⟨fun _ => 0, fun _ => 1⟩
    let s := State.activateObject {} (.quest, 10) 1
    Rotates twoQuests s (spawnQuests twoQuests dice 1 1 s) 1 := by
  refine (rotates_iff loaded_twoQuests one_ne_zero one_ne_zero _).2 (.inr fun quest hquest => ?_)
    ⟨fun _ => 0, fun _ => 1⟩
  rw [isActive_activateObject] at hquest
  obtain rfl : 10 = quest := by simpa [State.isActive, OrdMap.contains] using hquest
  exact mem_twoQuests.2 ⟨rfl, .inl rfl⟩

/-- Pool 1 spawns the quest of pool 2. -/
theorem stranger_rotated :
    let dice : Dice Int := ⟨fun _ => 0, fun _ => 1⟩
    let s := (State.activateObject {} (.quest, 10) 1).activateObject (.quest, 20) 2
    twoQuests.Loaded ∧ ¬ Rotates twoQuests s (spawnQuests twoQuests dice 1 1 s) 1 :=
  ⟨loaded_twoQuests, fun h => absurd h.exactly (by decide +kernel)⟩

end Axium.Pools
