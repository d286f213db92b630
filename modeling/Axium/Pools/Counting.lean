import Axium.Pools.PoolMgr

/-!
# The counters of the pools

The counter of every pool is the number of its active objects (`Counted`). Despawning keeps it so, changes
only what is in the pool or nested in it, and leaves none of that active (`despawnPool_spec`,
`not_isActive_of_nested`).
-/

namespace Axium.Pools

open List Finset State

variable {R : Type*} {m : PoolMgr R} {s s' : State} {k : Kind} {p q : Nat} {o : Object}

namespace State

/-! ## Marks and counters -/

theorem object_eq_iff {g g' : Nat} : ((k, g) : Object) = (k, g') ↔ g = g' := by
  rw [Prod.mk.injEq, eq_self, true_and]

theorem isActive_setCount (s : State) (p n : Nat) (x : Object) :
    (s.setCount p n).isActive x = (decide ((.pool, p) = x) || s.isActive x) := by
  obtain ⟨k, g⟩ := x
  cases k with
  | pool =>
    rw [decide_eq_decide.2 object_eq_iff]
    exact OrdMap.contains_insert ..
  | creature => rfl
  | gameobject => rfl
  | quest => rfl

theorem isActive_mark (s : State) (o x : Object) :
    (s.mark o).isActive x = (decide (o = x) || s.isActive x) := by
  obtain ⟨k, g⟩ := o
  obtain ⟨k', g'⟩ := x
  have hsame : ∀ {ν : Type} (set : OrdMap Nat ν) (v : ν), (set.insert g v).contains g' =
      (decide ((k, g) = (k, g')) || set.contains g') := by
    intro ν set v
    rw [OrdMap.contains_insert, decide_eq_decide.2 object_eq_iff]
  cases k <;> cases k' <;> first | exact hsame _ _ | rfl

theorem isActive_unmark (s : State) (o x : Object) :
    (s.unmark o).isActive x = (!decide (o = x) && s.isActive x) := by
  obtain ⟨k, g⟩ := o
  obtain ⟨k', g'⟩ := x
  have hsame : ∀ {ν : Type} (set : OrdMap Nat ν), (set.erase g).contains g' =
      (!decide ((k, g) = (k, g')) && set.contains g') := by
    intro ν set
    rw [OrdMap.contains_erase, decide_eq_decide.2 object_eq_iff]
  cases k <;> cases k' <;> first | exact hsame _ | rfl

theorem count_setCount (s : State) (p n q : Nat) :
    (s.setCount p n).count q = if p = q then n else s.count q := by
  unfold count setCount
  rw [OrdMap.find?_insert]
  split <;> rfl

theorem count_mark (s : State) (o : Object) (q : Nat) :
    (s.mark o).count q = if o = (.pool, q) then 0 else s.count q := by
  obtain ⟨k, g⟩ := o
  cases k with
  | pool => refine (count_setCount s g 0 q).trans (if_congr object_eq_iff.symm rfl rfl)
  | creature => rfl
  | gameobject => rfl
  | quest => rfl

theorem count_unmark (s : State) (o : Object) (q : Nat) :
    (s.unmark o).count q = if o = (.pool, q) then 0 else s.count q := by
  obtain ⟨k, g⟩ := o
  cases k with
  | pool =>
    change ((s.spawnedPools.erase g).find? q).getD 0 = _
    rw [OrdMap.find?_erase, if_congr object_eq_iff rfl rfl]
    split <;> rfl
  | creature => rfl
  | gameobject => rfl
  | quest => rfl

theorem isActive_of_count (h : s.count p ≠ 0) : s.isActive (.pool, p) = true := by
  change (s.spawnedPools.find? p).isSome = true
  cases hp : s.spawnedPools.find? p with
  | some n => rfl
  | none =>
    rw [count, hp] at h
    exact absurd rfl h

end State

/-! ## The objects of a pool -/

namespace PoolMgr

variable (m)

/-- The guids in a group, in the order in which `DespawnObject` looks at them. -/
def guids (k : Kind) (p : Nat) : List Nat :=
  ((m.group k p).equalChanced ++ (m.group k p).explicitlyChanced).map (·.guid)

def objects (p : Nat) : Finset Object :=
  ([.creature, .gameobject, .pool, .quest].flatMap fun k => (m.guids k p).map (k, ·)).toFinset

def active (s : State) (p : Nat) : Finset Object := (m.objects p).filter (s.isActive · = true)

def number (s : State) (p : Nat) : Nat := (m.active s p).card

inductive Nested : Nat → Object → Prop where
  | direct {p : Nat} {o : Object} : o ∈ m.objects p → Nested p o
  | inner {p c : Nat} {o : Object} : (.pool, c) ∈ m.objects p → Nested c o → Nested p o

/-- What the loading of the pools guarantees where each object belongs to one pool: the search map of the
quests agrees with the groups, quests have no chances of their own, and the pools are nested no deeper than
`nesting`. -/
structure Loaded : Prop where
  one_pool : ∀ o p q, o ∈ m.objects p → o ∈ m.objects q → p = q
  questSearch : ∀ q p, m.questSearchMap.find? q = some p → (.quest, q) ∈ m.objects p
  quest_chance : ∀ p, (m.group .quest p).explicitlyChanced = []
  nested : ∃ rank : Nat → Nat, (∀ p c, (.pool, c) ∈ m.objects p → rank c < rank p) ∧ ∀ p, rank p < m.nesting
  limit_lt : ∀ p, m.maxLimit p < 2 ^ 32

variable {m}

theorem Nested.trans_direct (h : m.Nested p (.pool, q)) (ho : o ∈ m.objects q) : m.Nested p o := by
  obtain ⟨x, hx⟩ : ∃ x : Object, x = (.pool, q) := ⟨_, rfl⟩
  rw [← hx] at h
  induction h with
  | direct hmem => exact .inner (hx ▸ hmem) (.direct ho)
  | inner hmem _ ih => exact .inner hmem (ih hx)

theorem mem_objects {k : Kind} {g : Nat} : (k, g) ∈ m.objects p ↔ g ∈ m.guids k p := by
  unfold objects
  rw [mem_toFinset, mem_flatMap]
  constructor
  · rintro ⟨k', -, hmem⟩
    obtain ⟨g', hg', heq⟩ := mem_map.1 hmem
    obtain ⟨rfl, rfl⟩ := Prod.mk.inj heq
    exact hg'
  · intro hg
    exact ⟨k, by cases k <;> decide, mem_map.2 ⟨g, hg, rfl⟩⟩

theorem mem_active : o ∈ m.active s p ↔ o ∈ m.objects p ∧ s.isActive o = true := mem_filter

theorem number_congr (h : ∀ o ∈ m.objects p, s'.isActive o = s.isActive o) : m.number s' p = m.number s p :=
  congrArg Finset.card (filter_congr fun o ho => by rw [h o ho])

theorem number_mono (h : ∀ o ∈ m.objects p, s'.isActive o = true → s.isActive o = true) :
    m.number s' p ≤ m.number s p :=
  card_le_card fun o ho => mem_active.2 ⟨(mem_active.1 ho).1, h o (mem_active.1 ho).1 (mem_active.1 ho).2⟩

theorem number_eq_zero : m.number s p = 0 ↔ ∀ o ∈ m.objects p, s.isActive o = false := by
  rw [number, card_eq_zero, active, filter_eq_empty_iff]
  exact forall₂_congr fun o _ => Bool.not_eq_true _ |>.to_iff

theorem number_insert (ho : o ∈ m.objects p) (hoff : s.isActive o = false)
    (h : ∀ x ∈ m.objects p, s'.isActive x = (decide (o = x) || s.isActive x)) :
    m.number s' p = m.number s p + 1 := by
  have hactive : m.active s' p = insert o (m.active s p) := by
    ext x
    rw [mem_active, mem_insert, mem_active]
    constructor
    · rintro ⟨hx, hon⟩
      rw [h x hx, Bool.or_eq_true, decide_eq_true_iff] at hon
      exact hon.imp Eq.symm fun hon => ⟨hx, hon⟩
    · rintro (rfl | ⟨hx, hon⟩)
      · exact ⟨ho, by rw [h x ho, decide_eq_true rfl, Bool.true_or]⟩
      · exact ⟨hx, by rw [h x hx, hon, Bool.or_true]⟩
  rw [number, hactive, card_insert_of_notMem fun hmem => ?_]
  · rfl
  · rw [(mem_active.1 hmem).2] at hoff
    cases hoff

theorem number_erase (ho : o ∈ m.objects p) (hon : s.isActive o = true)
    (h : ∀ x ∈ m.objects p, s'.isActive x = (!decide (o = x) && s.isActive x)) :
    m.number s p = m.number s' p + 1 := by
  refine number_insert ho ?_ fun x hx => ?_
  · rw [h o ho, decide_eq_true rfl]
    rfl
  · rw [h x hx]
    by_cases heq : o = x
    · rw [← heq, hon, decide_eq_true rfl]
      rfl
    · rw [decide_eq_false heq]
      rfl

end PoolMgr

open PoolMgr

def Counted (m : PoolMgr R) (s : State) : Prop := ∀ p, s.count p = m.number s p

namespace PoolMgr.Loaded

variable (h : m.Loaded)
include h

theorem not_self (p : Nat) : (.pool, p) ∉ m.objects p := by
  obtain ⟨rank, hrank, -⟩ := h.nested
  exact fun hmem => absurd (hrank p p hmem) (lt_irrefl _)

theorem not_nested_self (p : Nat) : ¬ m.Nested p (.pool, p) := by
  obtain ⟨rank, hrank, -⟩ := h.nested
  have hlt : ∀ {q o}, m.Nested q o → ∀ c, o = (.pool, c) → rank c < rank q := by
    intro q o hnested
    induction hnested with
    | direct hmem =>
      rintro c rfl
      exact hrank _ _ hmem
    | inner hmem _ ih =>
      intro c ho
      exact (ih c ho).trans (hrank _ _ hmem)
  exact fun hnested => absurd (hlt hnested p rfl) (lt_irrefl _)

theorem owner_of_nested (hnested : m.Nested p o) (ho : o ∈ m.objects q) : q = p ∨ m.Nested p (.pool, q) := by
  induction hnested with
  | direct hmem => exact .inl (h.one_pool _ _ _ ho hmem)
  | inner hmem _ ih =>
    obtain rfl | hbelow := ih ho
    · exact .inr (.direct hmem)
    · exact .inr (.inner hmem hbelow)

end PoolMgr.Loaded

/-! ## `ActivateObject` and `RemoveObject` -/

def Rooted (m : PoolMgr R) (s : State) (p : Nat) : Prop :=
  s.isActive (.pool, p) = true ∨ ∀ q, (.pool, p) ∉ m.objects q

theorem isActive_activateObject (s : State) (o : Object) (p : Nat) (x : Object) :
    (s.activateObject o p).isActive x = (decide ((.pool, p) = x) || (decide (o = x) || s.isActive x)) :=
  (isActive_setCount ..).trans (congrArg _ (isActive_mark ..))

theorem isActive_activateObject_of_rooted (hroot : Rooted m s p) {x : Object} (hx : x ∈ m.objects q) :
    (s.activateObject o p).isActive x = (decide (o = x) || s.isActive x) := by
  rw [isActive_activateObject]
  by_cases heq : (.pool, p) = x
  · subst heq
    rw [hroot.resolve_right fun hnone => hnone q hx, decide_eq_true rfl, Bool.or_true, Bool.or_true]
  · rw [decide_eq_false heq, Bool.false_or]

theorem count_activateObject (s : State) (o : Object) (p q : Nat) : (s.activateObject o p).count q =
    (if o = (.pool, q) then 0 else s.count q) + if p = q then 1 else 0 := by
  unfold activateObject
  rw [count_setCount]
  split
  · rename_i heq
    rw [← heq, count_mark]
  · rw [count_mark, add_zero]

theorem count_eq_zero_of_not_isActive (h : s.isActive (.pool, p) = false) : s.count p = 0 := by
  by_contra hne
  rw [isActive_of_count hne] at h
  cases h

theorem Counted.activateObject (hc : Counted m s) (h : m.Loaded) (ho : o ∈ m.objects p)
    (hoff : s.isActive o = false) (hroot : Rooted m s p) : Counted m (s.activateObject o p) := by
  intro q
  have hsame : (if o = (.pool, q) then 0 else s.count q) = s.count q := by
    split
    · rename_i heq
      exact (count_eq_zero_of_not_isActive (heq ▸ hoff)).symm
    · rfl
  rw [count_activateObject, hsame, hc q]
  by_cases heq : p = q
  · subst heq
    rw [if_pos rfl]
    exact (number_insert ho hoff fun x hx => isActive_activateObject_of_rooted hroot hx).symm
  · rw [if_neg heq, add_zero]
    refine (number_congr fun x hx => ?_).symm
    rw [isActive_activateObject_of_rooted hroot hx, decide_eq_false, Bool.false_or]
    rintro rfl
    exact heq (h.one_pool o p q ho hx)

/-- Only objects in `only` are despawned. -/
structure Despawns (only : Object → Prop) (s s' : State) : Prop where
  others : ∀ x, ¬ only x → s'.isActive x = s.isActive x
  fewer : ∀ x, s'.isActive x = true → s.isActive x = true
  questSave : s'.questSave = s.questSave

theorem Despawns.refl (only : Object → Prop) (s : State) : Despawns only s s :=
  ⟨fun _ _ => rfl, fun _ h => h, rfl⟩

theorem Despawns.trans {only : Object → Prop} {s₁ s₂ s₃ : State} (h : Despawns only s₁ s₂)
    (h' : Despawns only s₂ s₃) : Despawns only s₁ s₃ :=
  ⟨fun x hx => (h'.others x hx).trans (h.others x hx), fun x hx => h.fewer x (h'.fewer x hx),
    h'.questSave.trans h.questSave⟩

theorem Despawns.mono {only only' : Object → Prop} (h : Despawns only s s') (hsub : ∀ x, only x → only' x) :
    Despawns only' s s' :=
  ⟨fun x hx => h.others x fun hin => hx (hsub x hin), h.fewer, h.questSave⟩

theorem Despawns.off {only : Object → Prop} (h : Despawns only s s') (hoff : s.isActive o = false) :
    s'.isActive o = false :=
  Bool.eq_false_iff.2 fun hon => absurd (h.fewer o hon) (by simp [hoff])

theorem isActive_removeObject (hp : s.isActive (.pool, p) = true) (ho : o ≠ (.pool, p)) (x : Object) :
    (s.removeObject o p).isActive x = (!decide (o = x) && s.isActive x) := by
  refine (isActive_setCount ..).trans ?_
  rw [isActive_unmark]
  by_cases heq : (.pool, p) = x
  · subst heq
    rw [hp, decide_eq_false ho, decide_eq_true rfl]
    rfl
  · rw [decide_eq_false heq, Bool.false_or]

theorem Counted.removeObject (hc : Counted m s) (h : m.Loaded) (ho : o ∈ m.objects p)
    (hon : s.isActive o = true) (hempty : ∀ g, o = (.pool, g) → s.count g = 0) :
    Counted m (s.removeObject o p) ∧ Despawns (o = ·) s (s.removeObject o p) ∧
      (s.removeObject o p).isActive o = false := by
  have hself : o ≠ (.pool, p) := by
    rintro rfl
    exact h.not_self p ho
  have hcount : s.count p ≠ 0 := by
    rw [hc p, Ne, number_eq_zero]
    exact fun hall => absurd (hall o ho) (by simp [hon])
  have hactive := isActive_removeObject (o := o) (isActive_of_count hcount) hself
  refine ⟨fun q => ?_, ⟨fun x hx => ?_, fun x hx => ?_, ?_⟩, ?_⟩
  · have hsame : (s.unmark o).count q = s.count q := by
      rw [count_unmark]
      split
      · rename_i heq
        exact (hempty q heq).symm
      · rfl
    unfold State.removeObject
    rw [count_setCount, hsame]
    by_cases heq : p = q
    · subst heq
      rw [if_pos rfl, hsame, hc p, number_erase ho hon fun x _ => hactive x]
      rfl
    · rw [if_neg heq, hc q]
      refine (number_congr fun x hx => ?_).symm
      rw [show (s.unmark o).setCount p ((s.unmark o).count p - 1) = s.removeObject o p from rfl, hactive,
        decide_eq_false]
      · rfl
      · rintro rfl
        exact heq (h.one_pool o p q ho hx)
  · rw [hactive, decide_eq_false hx]
    rfl
  · rw [hactive, Bool.and_eq_true] at hx
    exact hx.2
  · obtain ⟨k, g⟩ := o
    cases k <;> rfl
  · rw [hactive, decide_eq_true rfl]
    rfl

/-! ## `DespawnObject` and `DespawnPool` -/

def Below (m : PoolMgr R) (o x : Object) : Prop := ∃ g, o = (.pool, g) ∧ m.Nested g x

/-- What `Despawn1Object` does to an active object: what is nested in it is despawned. -/
structure Clears (m : PoolMgr R) (despawn1 : Object → State → State) (o : Object) : Prop where
  counted : ∀ s, Counted m s → Counted m (despawn1 o s)
  despawns : ∀ s, Counted m s → Despawns (Below m o) s (despawn1 o s)
  empty : ∀ s, Counted m s → ∀ g, o = (.pool, g) → (despawn1 o s).count g = 0

def Within (m : PoolMgr R) (o x : Object) : Prop := o = x ∨ Below m o x

theorem PoolMgr.Loaded.not_below_self (h : m.Loaded) (o : Object) : ¬ Below m o o := by
  rintro ⟨g, rfl, hnested⟩
  exact h.not_nested_self g hnested

def Asked (guid : Nat) (o : Object) : Prop := guid = 0 ∨ o.2 = guid

variable {despawn1 : Object → State → State}

theorem despawnOne_spec (h : m.Loaded) (hc : Counted m s) (guid : Nat)
    {e : PoolObject R} (he : (k, e.guid) ∈ m.objects p) (hclears : Clears m despawn1 (k, e.guid)) :
    Counted m (despawnOne despawn1 k p guid s e) ∧
      Despawns (fun x => Asked guid (k, e.guid) ∧ Within m (k, e.guid) x) s (despawnOne despawn1 k p guid s e) ∧
      (Asked guid (k, e.guid) → (despawnOne despawn1 k p guid s e).isActive (k, e.guid) = false) := by
  unfold despawnOne
  by_cases hon : s.isActive (k, e.guid) = true
  swap
  · rw [if_neg (by simp [hon])]
    exact ⟨hc, .refl .., fun _ => Bool.eq_false_iff.2 hon⟩
  by_cases hasked : Asked guid (k, e.guid)
  swap
  · rw [if_neg (by simp only [hon, Bool.true_and]; simpa [Asked] using hasked)]
    exact ⟨hc, .refl .., fun ha => absurd ha hasked⟩
  rw [if_pos (by simp only [hon, Bool.true_and]; simpa [Asked] using hasked)]
  have hdesp := hclears.despawns s hc
  have hon' : (despawn1 (k, e.guid) s).isActive (k, e.guid) = true :=
    (hdesp.others _ (h.not_below_self _)).trans hon
  obtain ⟨hc', hrem, hoff⟩ := (hclears.counted s hc).removeObject h he hon' (hclears.empty s hc)
  refine ⟨hc', (hdesp.mono ?_).trans (hrem.mono ?_), fun _ => hoff⟩
  · exact fun x hx => ⟨hasked, .inr hx⟩
  · exact fun x hx => ⟨hasked, .inl hx⟩

theorem foldl_despawnOne (h : m.Loaded) (guid : Nat) :
    ∀ {l : List (PoolObject R)} {s : State}, Counted m s →
      (∀ e ∈ l, (k, e.guid) ∈ m.objects p ∧ Clears m despawn1 (k, e.guid)) →
      let s' := l.foldl (despawnOne despawn1 k p guid) s
      Counted m s' ∧
        Despawns (fun x => ∃ e ∈ l, Asked guid (k, e.guid) ∧ Within m (k, e.guid) x) s s' ∧
        ∀ e ∈ l, Asked guid (k, e.guid) → s'.isActive (k, e.guid) = false
  | [], s, hc, _ => ⟨hc, .refl .., fun _ he => nomatch he⟩
  | e :: l, s, hc, hl => by
    obtain ⟨hmem, hclears⟩ := hl e mem_cons_self
    obtain ⟨hc₁, hd₁, hoff₁⟩ := despawnOne_spec h hc guid hmem hclears
    obtain ⟨hc₂, hd₂, hoff₂⟩ := foldl_despawnOne h guid hc₁ fun e' he' => hl e' (mem_cons_of_mem e he')
    rw [foldl_cons]
    refine ⟨hc₂, (hd₁.mono fun x hx => ⟨e, mem_cons_self, hx⟩).trans (hd₂.mono ?_), ?_⟩
    · rintro x ⟨e', he', hx⟩
      exact ⟨e', mem_cons_of_mem e he', hx⟩
    · intro e' he' hasked
      rcases mem_cons.1 he' with rfl | he'
      · exact hd₂.off (hoff₁ hasked)
      · exact hoff₂ e' he' hasked

theorem despawnObject_spec (h : m.Loaded) (hc : Counted m s) (guid : Nat)
    (hclears : ∀ g, (k, g) ∈ m.objects p → Clears m despawn1 (k, g)) :
    let s' := despawnObject m despawn1 k p guid s
    Counted m s' ∧
      Despawns (fun x => ∃ g, (k, g) ∈ m.objects p ∧ Asked guid (k, g) ∧ Within m (k, g) x) s s' ∧
      ∀ g, (k, g) ∈ m.objects p → Asked guid (k, g) → s'.isActive (k, g) = false := by
  have hmem : ∀ e ∈ (m.group k p).equalChanced ++ (m.group k p).explicitlyChanced,
      (k, e.guid) ∈ m.objects p := fun e he => mem_objects.2 (mem_map.2 ⟨e, he, rfl⟩)
  obtain ⟨hc', hd, hoff⟩ := foldl_despawnOne h guid hc fun e he => ⟨hmem e he, hclears _ (hmem e he)⟩
  rw [foldl_append] at hc' hd hoff
  refine ⟨hc', hd.mono ?_, fun g hg hasked => ?_⟩
  · rintro x ⟨e, he, hx⟩
    exact ⟨e.guid, hmem e he, hx⟩
  · obtain ⟨e, he, rfl⟩ := mem_map.1 (mem_objects.1 hg)
    exact hoff e he hasked

theorem clears_of_not_pool {f : Nat → State → State} (hk : o.1 ≠ .pool) : Clears m (onPool f) o := by
  obtain ⟨k, g⟩ := o
  have hid : ∀ s, onPool f (k, g) s = s := by
    intro s
    cases k with
    | pool => exact absurd rfl hk
    | creature => rfl
    | gameobject => rfl
    | quest => rfl
  refine ⟨fun s hc => by rwa [hid], fun s _ => by rw [hid]; exact .refl .., fun s _ g' heq => ?_⟩
  exact absurd (Prod.mk.inj heq).1 hk

/-- What `DespawnPool` does. -/
structure Emptied (m : PoolMgr R) (p : Nat) (s s' : State) : Prop where
  counted : Counted m s'
  despawns : Despawns (m.Nested p) s s'
  off : ∀ o ∈ m.objects p, s'.isActive o = false

theorem clears_onPool {despawn : Nat → State → State} {g : Nat}
    (hdespawn : ∀ s, Counted m s → Emptied m g s (despawn g s)) : Clears m (onPool despawn) (.pool, g) where
  counted s hc := (hdespawn s hc).counted
  despawns s hc := (hdespawn s hc).despawns.mono fun x hx => ⟨g, rfl, hx⟩
  empty s hc g' heq := by
    obtain ⟨-, rfl⟩ := Prod.mk.inj heq
    rw [show onPool despawn (.pool, g) s = despawn g s from rfl, (hdespawn s hc).counted g, number_eq_zero]
    exact (hdespawn s hc).off

theorem nested_of_within {g : Nat} {x : Object} (hg : (k, g) ∈ m.objects p) (hx : Within m (k, g) x) :
    m.Nested p x := by
  rcases hx with rfl | ⟨c, heq, hnested⟩
  · exact .direct hg
  · obtain ⟨rfl, rfl⟩ := Prod.mk.inj heq
    exact .inner hg hnested

theorem objects_of_isEmpty (hempty : (m.group k p).isEmpty = true) (g : Nat) : (k, g) ∉ m.objects p := by
  unfold PoolGroup.isEmpty at hempty
  rw [Bool.and_eq_true, List.isEmpty_iff, List.isEmpty_iff] at hempty
  rw [mem_objects, guids, hempty.1, hempty.2]
  exact not_mem_nil

theorem isEmpty_of_objects (hnone : ∀ g, (k, g) ∉ m.objects p) : (m.group k p).isEmpty = true := by
  have hguids : m.guids k p = [] := eq_nil_iff_forall_not_mem.2 fun g hg => hnone g (mem_objects.2 hg)
  rw [guids, map_eq_nil_iff, append_eq_nil_iff] at hguids
  rw [PoolGroup.isEmpty, hguids.1, hguids.2]
  rfl

theorem despawnPool_spec (h : m.Loaded) {rank : Nat → Nat}
    (hrank : ∀ p c, (.pool, c) ∈ m.objects p → rank c < rank p) :
    ∀ {n p : Nat} {s : State}, rank p < n → Counted m s → Emptied m p s (despawnPool m n p s)
  | 0, _, _, hn, _ => absurd hn (Nat.not_lt_zero _)
  | n + 1, p, s, hn, hc => by
    let despawn (k : Kind) (s : State) : State :=
      if (m.group k p).isEmpty then s else despawnObject m (onPool (despawnPool m n)) k p 0 s
    have hkind : ∀ k s, Counted m s → Counted m (despawn k s) ∧ Despawns (m.Nested p) s (despawn k s) ∧
        ∀ g, (k, g) ∈ m.objects p → (despawn k s).isActive (k, g) = false := by
      intro k s hc
      unfold despawn
      split
      · rename_i hempty
        exact ⟨hc, .refl .., fun g hg => absurd hg (objects_of_isEmpty hempty g)⟩
      · have hclears : ∀ g, (k, g) ∈ m.objects p → Clears m (onPool (despawnPool m n)) (k, g) := by
          intro g hg
          by_cases hk : k = .pool
          · subst hk
            exact clears_onPool fun s hc =>
              despawnPool_spec h hrank ((hrank p g hg).trans_le (Nat.lt_succ_iff.1 hn)) hc
          · exact clears_of_not_pool hk
        obtain ⟨hc', hd, hoff⟩ := despawnObject_spec h hc 0 hclears
        refine ⟨hc', hd.mono ?_, fun g hg => hoff g hg (.inl rfl)⟩
        rintro x ⟨g, hg, -, hx⟩
        exact nested_of_within hg hx
    obtain ⟨hc₁, hd₁, hoff₁⟩ := hkind .creature s hc
    obtain ⟨hc₂, hd₂, hoff₂⟩ := hkind .gameobject _ hc₁
    obtain ⟨hc₃, hd₃, hoff₃⟩ := hkind .pool _ hc₂
    obtain ⟨hc₄, hd₄, hoff₄⟩ := hkind .quest _ hc₃
    refine ⟨hc₄, ((hd₁.trans hd₂).trans hd₃).trans hd₄, ?_⟩
    rintro ⟨k, g⟩ hg
    cases k with
    | creature => exact ((hd₂.trans hd₃).trans hd₄).off (hoff₁ g hg)
    | gameobject => exact (hd₃.trans hd₄).off (hoff₂ g hg)
    | pool => exact hd₄.off (hoff₃ g hg)
    | quest => exact hoff₄ g hg

theorem not_isActive_of_nested (hc : Counted m s) (hoff : ∀ o ∈ m.objects p, s.isActive o = false)
    (ho : m.Nested p o) : s.isActive o = false := by
  induction ho with
  | direct hmem => exact hoff _ hmem
  | inner hmem _ ih =>
    refine ih (number_eq_zero.1 ?_)
    rw [← hc, count_eq_zero_of_not_isActive (hoff _ hmem)]

end Axium.Pools
