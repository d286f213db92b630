import Axium.Lib.Literals
import Mathlib.Data.Finset.Card
import Mathlib.Data.List.Nodup
import Mathlib.Data.List.Perm.Subperm

/-!
# Ordered finite maps

`OrdMap κ ν` is a finite map iterated in the order of its keys: a strictly key-sorted list of
entries, the sortedness a field. A map is read with `find?` and written with `insert` (which
overwrites) and `erase`; the rest of the interface is stated through these three.
-/

namespace Axium

open List

structure OrdMap (κ : Type) (ν : Type) [LinearOrder κ] where
  entries : List (κ × ν)
  sorted : entries.Pairwise (fun a b => a.1 < b.1)

namespace OrdMap

variable {κ ν : Type} [LinearOrder κ]

variable {m m' : OrdMap κ ν}

@[ext] theorem ext (h : m.entries = m'.entries) : m = m' := by
  cases m; cases m'; cases h; rfl

instance [DecidableEq ν] : DecidableEq (OrdMap κ ν) := fun m m' =>
  decidable_of_iff (m.entries = m'.entries) ⟨ext, fun h => h ▸ rfl⟩

/-! ## Entries -/

/-- The value of the first entry with key `k`. -/
def findL (k : κ) : List (κ × ν) → Option ν
  | [] => none
  | e :: l => if e.1 = k then some e.2 else findL k l

/-- The entries with `k ↦ v` written in its place. -/
def insertL (k : κ) (v : ν) : List (κ × ν) → List (κ × ν)
  | [] => [(k, v)]
  | e :: l => if k < e.1 then (k, v) :: e :: l else if e.1 = k then (k, v) :: l
      else e :: insertL k v l

variable {k : κ} {v : ν}

theorem mem_insertL {e : κ × ν} :
    ∀ {l : List (κ × ν)}, e ∈ insertL k v l → e = (k, v) ∨ e ∈ l
  | [], h => by simpa [insertL] using h
  | e' :: l, h => by
    unfold insertL at h
    split at h
    · rcases mem_cons.1 h with h | h
      · exact Or.inl h
      · exact Or.inr h
    · split at h
      · rcases mem_cons.1 h with h | h
        · exact Or.inl h
        · exact Or.inr (mem_cons_of_mem _ h)
      · rcases mem_cons.1 h with h | h
        · exact Or.inr (h ▸ mem_cons_self)
        · rcases mem_insertL h with h | h
          · exact Or.inl h
          · exact Or.inr (mem_cons_of_mem _ h)

theorem insertL_sorted (k : κ) (v : ν) : ∀ {l : List (κ × ν)},
    l.Pairwise (fun a b => a.1 < b.1) → (insertL k v l).Pairwise (fun a b => a.1 < b.1)
  | [], _ => pairwise_singleton _ _
  | e :: l, h => by
    rw [pairwise_cons] at h
    unfold insertL
    split
    · rename_i hk
      refine pairwise_cons.2 ⟨fun b hb => ?_, pairwise_cons.2 h⟩
      rcases mem_cons.1 hb with rfl | hb
      · exact hk
      · exact hk.trans (h.1 b hb)
    · rename_i hk
      split
      · rename_i he
        exact pairwise_cons.2 ⟨fun b hb => he ▸ h.1 b hb, h.2⟩
      · rename_i he
        refine pairwise_cons.2 ⟨fun b hb => ?_, insertL_sorted k v h.2⟩
        rcases mem_insertL hb with rfl | hb
        · exact lt_of_le_of_ne (not_lt.1 hk) he
        · exact h.1 b hb

theorem findL_eq_some : ∀ {l : List (κ × ν)},
    l.Pairwise (fun a b => a.1 < b.1) → (findL k l = some v ↔ (k, v) ∈ l)
  | [], _ => by simp [findL]
  | e :: l, h => by
    rw [pairwise_cons] at h
    unfold findL
    split
    · rename_i he
      constructor
      · intro hv
        rw [← he, ← Option.some.inj hv]
        exact mem_cons_self
      · intro hm
        rcases mem_cons.1 hm with rfl | hm
        · rfl
        · exact absurd (h.1 _ hm) (by simp [he])
    · rename_i he
      rw [findL_eq_some h.2, mem_cons]
      constructor
      · exact Or.inr
      · rintro (rfl | hm)
        · exact absurd rfl he
        · exact hm

theorem findL_insertL_self (k : κ) (v : ν) : ∀ l : List (κ × ν), findL k (insertL k v l) = some v
  | [] => by simp [insertL, findL]
  | e :: l => by
    unfold insertL
    split
    · simp [findL]
    · split
      · simp [findL]
      · rename_i he
        simpa only [findL, if_neg he] using findL_insertL_self k v l

variable {k' : κ}

theorem findL_insertL_ne (v : ν) (h : k ≠ k') :
    ∀ l : List (κ × ν), findL k' (insertL k v l) = findL k' l
  | [] => by simp [insertL, findL, h]
  | e :: l => by
    unfold insertL
    split
    · simp [findL, h]
    · split
      · rename_i he
        simp only [findL, if_neg h, if_neg (he ▸ h : ¬ e.1 = k')]
      · simp only [findL]
        split
        · rfl
        · exact findL_insertL_ne v h l

/-! ## The interface -/

def empty : OrdMap κ ν := ⟨[], List.Pairwise.nil⟩

instance : Inhabited (OrdMap κ ν) := ⟨empty⟩

def find? (m : OrdMap κ ν) (k : κ) : Option ν := findL k m.entries

def insert (m : OrdMap κ ν) (k : κ) (v : ν) : OrdMap κ ν :=
  ⟨insertL k v m.entries, insertL_sorted k v m.sorted⟩

def erase (m : OrdMap κ ν) (k : κ) : OrdMap κ ν := ⟨m.entries.filter (fun e => e.1 ≠ k), m.sorted.filter _⟩

def contains (m : OrdMap κ ν) (k : κ) : Bool := (m.find? k).isSome

/-- Rewrite the value at `k`, if there is one. -/
def modify (m : OrdMap κ ν) (k : κ) (f : ν → ν) : OrdMap κ ν :=
  match m.find? k with
  | some v => m.insert k (f v)
  | none => m

def mapVal (m : OrdMap κ ν) (f : κ → ν → ν) : OrdMap κ ν where
  entries := m.entries.map (fun e => (e.1, f e.1 e.2))
  sorted := pairwise_map.2 m.sorted

def keys (m : OrdMap κ ν) : List κ := m.entries.map Prod.fst

def size (m : OrdMap κ ν) : Nat := m.entries.length

def isEmpty (m : OrdMap κ ν) : Bool := m.entries.isEmpty

def first? (m : OrdMap κ ν) : Option κ := m.keys.head?

/-- The number of entries that satisfy `p`. -/
def count (p : κ → ν → Bool) (m : OrdMap κ ν) : Nat := m.entries.countP fun e => p e.1 e.2

/-! ## Reading -/

theorem find?_eq_some : m.find? k = some v ↔ (k, v) ∈ m.entries :=
  findL_eq_some m.sorted

@[simp] theorem find?_empty (k : κ) : (empty : OrdMap κ ν).find? k = none := rfl

theorem ext_find? (h : ∀ k, m.find? k = m'.find? k) : m = m' := by
  have hanti : ∀ a b : κ × ν, a ∈ m.entries → b ∈ m'.entries → a.1 < b.1 → b.1 < a.1 → a = b :=
    fun a b _ _ hab hba => absurd (hab.trans hba) (lt_irrefl _)
  refine ext (List.Perm.eq_of_pairwise hanti m.sorted m'.sorted ?_)
  have hnd : ∀ m : OrdMap κ ν, m.entries.Nodup := fun m =>
    m.sorted.imp fun hab he => absurd (he ▸ hab) (lt_irrefl _)
  refine (perm_ext_iff_of_nodup (hnd m) (hnd m')).2 fun ⟨k, v⟩ => ?_
  rw [← find?_eq_some, ← find?_eq_some, h]

theorem keys_sorted (m : OrdMap κ ν) : m.keys.Pairwise (· < ·) := by
  unfold keys
  rw [pairwise_map]
  exact m.sorted

theorem keys_nodup (m : OrdMap κ ν) : m.keys.Nodup := m.keys_sorted.imp fun h => ne_of_lt h

theorem mem_keys : k ∈ m.keys ↔ ∃ v, m.find? k = some v := by
  unfold keys
  rw [mem_map]
  constructor
  · rintro ⟨⟨k', v⟩, hm, rfl⟩
    exact ⟨v, find?_eq_some.2 hm⟩
  · rintro ⟨v, hv⟩
    exact ⟨(k, v), find?_eq_some.1 hv, rfl⟩

theorem contains_iff : m.contains k = true ↔ k ∈ m.keys := by
  rw [mem_keys, contains, Option.isSome_iff_exists]

theorem find?_eq_none : m.find? k = none ↔ k ∉ m.keys := by
  rw [mem_keys]
  cases m.find? k <;> simp

theorem first?_mem (h : m.first? = some k) : k ∈ m.keys := mem_of_mem_head? h

theorem isEmpty_iff : m.isEmpty = true ↔ ∀ k, m.find? k = none := by
  unfold isEmpty
  rw [List.isEmpty_iff]
  constructor
  · intro h k
    unfold find?
    rw [h]
    rfl
  · intro h
    cases he : m.entries with
    | nil => rfl
    | cons e l =>
      have := h e.1
      rw [find?_eq_none, mem_keys] at this
      exact absurd ⟨e.2, find?_eq_some.2 (he ▸ mem_cons_self)⟩ this

theorem isEmpty_iff_keys : m.isEmpty = true ↔ ∀ k, k ∉ m.keys := by
  rw [isEmpty_iff]
  exact forall_congr' fun k => find?_eq_none

theorem isEmpty_congr (h : ∀ k, k ∈ m.keys ↔ k ∈ m'.keys) : m.isEmpty = m'.isEmpty := by
  rw [Bool.eq_iff_iff, isEmpty_iff_keys, isEmpty_iff_keys]
  exact forall_congr' fun k => not_congr (h k)

theorem isEmpty_of_find? (h : m.find? k = some v) : m.isEmpty = false := by
  cases hm : m.isEmpty with
  | false => rfl
  | true =>
    rw [isEmpty_iff.1 hm k] at h
    cases h

theorem first?_of_not_isEmpty (h : m.isEmpty = false) : ∃ k, m.first? = some k := by
  unfold first? keys
  unfold isEmpty at h
  cases he : m.entries with
  | nil => rw [he] at h; cases h
  | cons e l => exact ⟨e.1, rfl⟩

/-! ## Writing -/

@[simp] theorem find?_insert_self (m : OrdMap κ ν) (k : κ) (v : ν) : (m.insert k v).find? k = some v :=
  findL_insertL_self k v m.entries

theorem find?_insert_ne (m : OrdMap κ ν) (v : ν) (h : k ≠ k') : (m.insert k v).find? k' = m.find? k' :=
  findL_insertL_ne v h m.entries

theorem find?_insert (m : OrdMap κ ν) (k k' : κ) (v : ν) :
    (m.insert k v).find? k' = if k = k' then some v else m.find? k' := by
  split
  · rename_i h; subst h; exact find?_insert_self m k v
  · rename_i h; exact find?_insert_ne m v h

theorem find?_erase (m : OrdMap κ ν) (k k' : κ) :
    (m.erase k).find? k' = if k = k' then none else m.find? k' := by
  have hiff : ∀ v, (m.erase k).find? k' = some v ↔ k ≠ k' ∧ m.find? k' = some v := by
    intro v
    rw [find?_eq_some, find?_eq_some]
    unfold erase
    simp only [mem_filter, decide_eq_true_eq, ne_eq, eq_comm (a := k'), and_comm]
  split
  · rename_i h
    cases he : (m.erase k).find? k' with
    | none => rfl
    | some v => exact absurd h ((hiff v).1 he).1
  · rename_i h
    refine Option.ext fun v => ?_
    rw [hiff v]
    simp [h]

@[simp] theorem find?_erase_self (m : OrdMap κ ν) (k : κ) : (m.erase k).find? k = none := by
  simp [find?_erase]

theorem find?_erase_ne (m : OrdMap κ ν) (h : k ≠ k') : (m.erase k).find? k' = m.find? k' := by
  simp [find?_erase, h]

theorem contains_insert (m : OrdMap κ ν) (k k' : κ) (v : ν) :
    (m.insert k v).contains k' = (decide (k = k') || m.contains k') := by
  unfold contains
  rw [find?_insert]
  by_cases h : k = k'
  · rw [if_pos h, decide_eq_true h]
    rfl
  · rw [if_neg h, decide_eq_false h, Bool.false_or]

theorem contains_erase (m : OrdMap κ ν) (k k' : κ) :
    (m.erase k).contains k' = (!decide (k = k') && m.contains k') := by
  unfold contains
  rw [find?_erase]
  by_cases h : k = k'
  · rw [if_pos h, decide_eq_true h]
    rfl
  · rw [if_neg h, decide_eq_false h]
    rfl

theorem find?_modify (m : OrdMap κ ν) (k k' : κ) (f : ν → ν) :
    (m.modify k f).find? k' = if k = k' then (m.find? k').map f else m.find? k' := by
  unfold modify
  cases hk : m.find? k with
  | none =>
    by_cases h : k = k'
    · subst h; simp [hk]
    · simp [h]
  | some v =>
    simp only [find?_insert]
    split
    · rename_i h; subst h; simp [hk]
    · rfl

theorem find?_mapVal (m : OrdMap κ ν) (f : κ → ν → ν) (k : κ) :
    (m.mapVal f).find? k = (m.find? k).map (f k) := by
  change findL k (m.entries.map fun e => (e.1, f e.1 e.2)) = (findL k m.entries).map (f k)
  induction m.entries with
  | nil => rfl
  | cons e l ih =>
    simp only [map_cons, findL]
    split
    · rename_i h
      rw [h, Option.map_some]
    · exact ih

theorem keys_mapVal (m : OrdMap κ ν) (f : κ → ν → ν) : (m.mapVal f).keys = m.keys := by
  unfold keys mapVal
  rw [map_map]
  rfl

theorem mem_keys_insert : k' ∈ (m.insert k v).keys ↔ k = k' ∨ k' ∈ m.keys := by
  rw [mem_keys, mem_keys]
  simp only [find?_insert]
  split
  · rename_i h; simp [h]
  · rename_i h; simp [h]

theorem mem_keys_erase : k' ∈ (m.erase k).keys ↔ k ≠ k' ∧ k' ∈ m.keys := by
  rw [mem_keys, mem_keys]
  simp only [find?_erase]
  split
  · rename_i h; simp [h]
  · rename_i h; simp [h]

theorem mem_keys_modify {f : ν → ν} : k' ∈ (m.modify k f).keys ↔ k' ∈ m.keys := by
  rw [mem_keys, mem_keys]
  simp only [find?_modify]
  split
  · rename_i h; subst h; cases m.find? k <;> simp
  · rfl

theorem find?_foldl_erase (l : List κ) (m : OrdMap κ ν) (k : κ) :
    (l.foldl erase m).find? k = if k ∈ l then none else m.find? k := by
  induction l generalizing m with
  | nil => simp
  | cons k' l ih =>
    rw [foldl_cons, ih, find?_erase]
    by_cases hk : k' = k
    · simp [hk]
    · simp [hk, Ne.symm hk]

/-! ## What holds of every entry -/

def All (p : κ → ν → Prop) (m : OrdMap κ ν) : Prop := ∀ k v, m.find? k = some v → p k v

instance All.decidable {p : κ → ν → Prop} [∀ k v, Decidable (p k v)] (m : OrdMap κ ν) : Decidable (All p m) :=
  decidable_of_iff (∀ e ∈ m.entries, p e.1 e.2)
    ⟨fun h k v hk => h (k, v) (find?_eq_some.1 hk), fun h e he => h e.1 e.2 (find?_eq_some.2 he)⟩

variable {p : κ → ν → Prop}

theorem all_congr {q : κ → ν → Prop} (h : ∀ k v, m.find? k = some v → (p k v ↔ q k v)) : All p m ↔ All q m :=
  forall_congr' fun k => forall_congr' fun v => forall_congr' (h k v)

theorem All.empty : All p (empty : OrdMap κ ν) := by
  intro k v h
  cases h

theorem All.insert (h : All p m) (hv : p k v) : All p (m.insert k v) := by
  intro k' v' hk'
  rw [find?_insert] at hk'
  by_cases hk : k = k'
  · subst hk
    rw [if_pos rfl, Option.some.injEq] at hk'
    exact hk' ▸ hv
  · rw [if_neg hk] at hk'
    exact h k' v' hk'

theorem All.erase (h : All p m) (k : κ) : All p (m.erase k) := by
  intro k' v' hk'
  rw [find?_erase] at hk'
  by_cases hk : k = k'
  · rw [if_pos hk] at hk'
    cases hk'
  · rw [if_neg hk] at hk'
    exact h k' v' hk'

theorem all_modify {f : ν → ν} :
    All p (m.modify k f) ↔ All (fun k' v => if k = k' then p k' (f v) else p k' v) m := by
  simp only [All, find?_modify]
  refine forall_congr' fun k' => ?_
  by_cases hk : k = k'
  · simp [hk]
  · simp [hk]

theorem all_mapVal {f : κ → ν → ν} : All p (m.mapVal f) ↔ All (fun k v => p k (f k v)) m := by
  simp [All, find?_mapVal]

/-! ## Counting -/

theorem insertL_perm : ∀ {l : List (κ × ν)}, (∀ e ∈ l, e.1 ≠ k) →
    (insertL k v l).Perm ((k, v) :: l)
  | [], _ => List.Perm.refl _
  | e :: l, h => by
    unfold insertL
    split
    · exact List.Perm.refl _
    · rw [if_neg (h e mem_cons_self)]
      have ih := insertL_perm fun e' he' => h e' (mem_cons_of_mem _ he')
      exact (ih.cons e).trans (List.Perm.swap ..)

theorem insert_perm (h : m.find? k = none) : (m.insert k v).entries.Perm ((k, v) :: m.entries) := by
  refine insertL_perm fun e he hk => ?_
  rw [find?_eq_none, mem_keys] at h
  exact h ⟨e.2, find?_eq_some.2 (hk ▸ he)⟩

theorem erase_perm (h : m.find? k = some v) : m.entries.Perm ((k, v) :: (m.erase k).entries) := by
  have hm : (m.erase k).insert k v = m := by
    refine ext_find? fun k' => ?_
    rw [find?_insert]
    split
    · rename_i hk; subst hk; exact h.symm
    · rename_i hk; exact find?_erase_ne m hk
  have := insert_perm (m := m.erase k) (v := v) (find?_erase_self m k)
  rwa [hm] at this

theorem count_insert_new (p : κ → ν → Bool)
    (h : m.find? k = none) : (m.insert k v).count p = m.count p + if p k v then 1 else 0 := by
  unfold count
  rw [(insert_perm h).countP_eq, countP_cons]

theorem count_erase (p : κ → ν → Bool)
    (h : m.find? k = some v) : m.count p = (m.erase k).count p + if p k v then 1 else 0 := by
  unfold count
  rw [(erase_perm h).countP_eq, countP_cons]

theorem erase_insert : (m.insert k v).erase k = m.erase k := by
  refine ext_find? fun k' => ?_
  simp only [find?_erase, find?_insert]
  split <;> rfl

theorem erase_of_find?_none (h : m.find? k = none) : m.erase k = m := by
  refine ext_find? fun k' => ?_
  rw [find?_erase]
  split
  · rename_i hk; rw [← hk, h]
  · rfl

theorem count_insert_old (v' : ν) (p : κ → ν → Bool) (h : m.find? k = some v) :
    (m.insert k v').count p + (if p k v then 1 else 0) = m.count p + if p k v' then 1 else 0 := by
  have h₁ := count_erase p h
  have h₂ := count_erase p (find?_insert_self m k v')
  rw [erase_insert] at h₂
  omega

theorem count_le_size (p : κ → ν → Bool) (m : OrdMap κ ν) : m.count p ≤ m.size := countP_le_length

theorem count_congr {p q : κ → ν → Bool}
    (h : ∀ k v, m.find? k = some v → p k v = q k v) : m.count p = m.count q := by
  refine countP_congr fun e he => ?_
  rw [h e.1 e.2 (find?_eq_some.2 he)]

/-- The keys whose entries are counted. -/
def matching (p : κ → ν → Bool) (m : OrdMap κ ν) : List κ :=
  (m.entries.filter fun e => p e.1 e.2).map Prod.fst

theorem length_matching (p : κ → ν → Bool) (m : OrdMap κ ν) : (m.matching p).length = m.count p := by
  rw [matching, length_map, count, countP_eq_length_filter]

theorem nodup_matching (p : κ → ν → Bool) (m : OrdMap κ ν) : (m.matching p).Nodup :=
  (filter_sublist.map Prod.fst).nodup m.keys_nodup

theorem mem_matching {p : κ → ν → Bool} : k ∈ m.matching p ↔ ∃ v, m.find? k = some v ∧ p k v = true := by
  simp only [matching, mem_map, mem_filter, find?_eq_some]
  constructor
  · rintro ⟨⟨k, v⟩, hmem, rfl⟩
    exact ⟨v, hmem⟩
  · rintro ⟨v, hmem⟩
    exact ⟨(k, v), hmem, rfl⟩

theorem mem_keys_of_matching {p : κ → ν → Bool} (h : k ∈ m.matching p) : k ∈ m.keys := by
  obtain ⟨v, hv, -⟩ := mem_matching.1 h
  exact mem_keys.2 ⟨v, hv⟩

theorem count_eq_length {p : κ → ν → Bool} {l : List κ} (hl : l.Nodup)
    (h : ∀ k, k ∈ l ↔ ∃ v, m.find? k = some v ∧ p k v = true) : m.count p = l.length := by
  rw [← length_matching]
  refine ((perm_ext_iff_of_nodup (nodup_matching p m) hl).2 fun k => ?_).length_eq
  rw [mem_matching, h]

theorem size_erase (h : m.find? k = some v) : m.size = (m.erase k).size + 1 := by
  unfold size
  rw [(erase_perm h).length_eq, length_cons]

/-! ## Adding up -/

def sum (f : κ → ν → Nat) (m : OrdMap κ ν) : Nat := (m.entries.map fun e => f e.1 e.2).sum

theorem sum_insert_new (f : κ → ν → Nat) (h : m.find? k = none) : (m.insert k v).sum f = m.sum f + f k v := by
  unfold sum
  rw [((insert_perm h).map _).sum_nat, map_cons, sum_cons, add_comm]

theorem sum_erase (f : κ → ν → Nat) (h : m.find? k = some v) : m.sum f = (m.erase k).sum f + f k v := by
  unfold sum
  rw [((erase_perm h).map _).sum_nat, map_cons, sum_cons, add_comm]

theorem sum_modify (f : κ → ν → Nat) (g : ν → ν)
    (h : m.find? k = some v) : (m.modify k g).sum f + f k v = m.sum f + f k (g v) := by
  have hmodify : m.modify k g = m.insert k (g v) := by
    unfold modify
    rw [h]
  have h₁ := sum_erase f h
  have h₂ := sum_erase f (find?_insert_self m k (g v))
  rw [erase_insert, ← hmodify] at h₂
  omega

variable {f : κ → ν → Nat}

theorem sum_congr {g : κ → ν → Nat} (h : ∀ k v, m.find? k = some v → f k v = g k v) : m.sum f = m.sum g := by
  unfold sum
  congr 1
  refine map_congr_left fun e he => ?_
  exact h e.1 e.2 (find?_eq_some.2 he)

theorem sum_exchange {g : κ → ν → Nat} (h : m.find? k = some v)
    (hsame : ∀ k' v', k' ≠ k → m.find? k' = some v' → f k' v' = g k' v') :
    m.sum f + g k v = m.sum g + f k v := by
  have hrest : (m.erase k).sum f = (m.erase k).sum g := by
    refine sum_congr fun k' v' hk' => ?_
    by_cases hk : k' = k
    · rw [hk, find?_erase_self] at hk'
      cases hk'
    · rw [find?_erase_ne m (Ne.symm hk)] at hk'
      exact hsame k' v' hk hk'
  rw [sum_erase f h, sum_erase g h]
  omega

theorem le_sum (f : κ → ν → Nat) (h : m.find? k = some v) : f k v ≤ m.sum f := by
  rw [sum_erase f h]
  omega

theorem exists_of_sum_ne_zero (h : m.sum f ≠ 0) : ∃ k v, m.find? k = some v ∧ f k v ≠ 0 := by
  have hlist : ∀ l : List (κ × ν), (l.map fun e => f e.1 e.2).sum ≠ 0 → ∃ e ∈ l, f e.1 e.2 ≠ 0 := by
    intro l hl
    induction l with
    | nil => exact absurd rfl hl
    | cons e l ih =>
      rw [map_cons, sum_cons] at hl
      by_cases he : f e.1 e.2 = 0
      · obtain ⟨e', he', hne⟩ := ih (by omega)
        exact ⟨e', mem_cons_of_mem e he', hne⟩
      · exact ⟨e, mem_cons_self, he⟩
  obtain ⟨e, he, hne⟩ := hlist m.entries h
  exact ⟨e.1, e.2, find?_eq_some.2 he, hne⟩

end OrdMap

end Axium
