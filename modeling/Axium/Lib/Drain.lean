import Axium.Lib.Stacks

/-!
# Taking pieces from stack after stack

`drain` takes pieces of the stacks that `pick` chooses, slot after slot along a list: whole stacks, as long
as they are needed, and of the last one a part. It takes as many pieces as it shall, or all that are there
(**`along_drain`**), touches nothing but chosen stacks in the slots of the list (`drain_of_notMem`,
`drain_of_not_pick`) and leaves no empty stack behind (`drain_count_ne_zero`).
-/

namespace Axium.Stacks

open Function

variable {ι κ : Type*} (pick : ℕ → κ → Bool)

def picked : Option (Stack κ) → ℕ
  | some s => if pick s.guid s.entry then s.count else 0
  | none => 0

def along (is : List ι) (σ : Store ι κ) : ℕ := (is.map fun i => picked pick (σ i)).sum

/-- The slot keeps its chosen pieces but `n` of them, and no empty stack. -/
def lower (n : ℕ) : Option (Stack κ) → Option (Stack κ)
  | some s =>
    if pick s.guid s.entry then if s.count ≤ n then none else some { s with count := s.count - n }
    else some s
  | none => none

variable {pick}

theorem picked_lower (n : ℕ) (o : Option (Stack κ)) : picked pick (lower pick n o) = picked pick o - n := by
  cases o with
  | none => exact (Nat.zero_sub n).symm
  | some s =>
    unfold lower
    simp only
    by_cases hpick : pick s.guid s.entry = true
    · rw [if_pos hpick]
      split
      · rename_i hle
        simp only [picked, if_pos hpick]
        omega
      · simp only [picked, if_pos hpick]
    · rw [if_neg hpick]
      simp [picked, hpick]

variable {s : Stack κ}

theorem lower_of_not_pick {n : ℕ} (h : pick s.guid s.entry = false) : lower pick n (some s) = some s := by
  simp [lower, h]

theorem lower_eq_some {n : ℕ} {o : Option (Stack κ)} (h : lower pick n o = some s)
    (ho : ∀ t, o = some t → t.count ≠ 0) : s.count ≠ 0 := by
  cases o with
  | none => cases h
  | some t =>
    unfold lower at h
    simp only at h
    split at h
    · split at h
      · cases h
      · rename_i hlt
        rw [← Option.some.inj h]
        dsimp only
        omega
    · rw [← Option.some.inj h]
      exact ho t rfl

theorem lower_of_lt {n : ℕ} (h : pick s.guid s.entry = true) (hlt : n < s.count) :
    lower pick n (some s) = some { s with count := s.count - n } := by
  simp only [lower, if_pos h]
  rw [if_neg (not_le.2 hlt)]

theorem lower_of_le {n : ℕ} (h : pick s.guid s.entry = true) (hle : s.count ≤ n) :
    lower pick n (some s) = none := by
  simp only [lower, if_pos h]
  rw [if_pos hle]

theorem along_cons (i : ι) (is : List ι) (σ : Store ι κ) :
    along pick (i :: is) σ = picked pick (σ i) + along pick is σ := by
  simp [along]

variable [DecidableEq ι]

variable (pick) in
/-- `n` pieces are taken along the slots. -/
def drain : ℕ → List ι → Store ι κ → Store ι κ
  | _, [], σ => σ
  | n, i :: is, σ =>
    if n = 0 then σ
    else drain (n - picked pick (σ i)) is (update σ i (lower pick n (σ i)))

variable {σ : Store ι κ} {n : ℕ} {is : List ι}

theorem along_update {i : ι} (hi : i ∉ is) (o : Option (Stack κ)) :
    along pick is (update σ i o) = along pick is σ := by
  unfold along
  congr 1
  apply List.map_congr_left
  intro j hj
  rw [update_of_ne (ne_of_mem_of_not_mem hj hi)]

theorem drain_zero (is : List ι) (σ : Store ι κ) : drain pick 0 is σ = σ := by
  cases is with
  | nil => rfl
  | cons i is => exact if_pos rfl

theorem drain_of_notMem {j : ι} (hj : j ∉ is) : drain pick n is σ j = σ j := by
  induction is generalizing n σ with
  | nil => rfl
  | cons i is ih =>
    rw [List.mem_cons, not_or] at hj
    unfold drain
    split
    · rfl
    · rw [ih hj.2, update_of_ne hj.1]

theorem drain_cons {i : ι} (hn : n ≠ 0) :
    drain pick n (i :: is) σ = drain pick (n - picked pick (σ i)) is (update σ i (lower pick n (σ i))) :=
  if_neg hn

theorem along_drain (his : is.Nodup) :
    along pick is (drain pick n is σ) + min n (along pick is σ) = along pick is σ := by
  induction is generalizing n σ with
  | nil => simp [along]
  | cons i is ih =>
    by_cases hn : n = 0
    · rw [hn, drain_zero, zero_min, add_zero]
    · obtain ⟨hi, his⟩ := List.nodup_cons.1 his
      have hrest := @ih (update σ i (lower pick n (σ i))) (n - picked pick (σ i)) his
      rw [along_update hi] at hrest
      rw [drain_cons hn, along_cons, along_cons, drain_of_notMem hi, update_self, picked_lower]
      omega

theorem drain_cases (n : ℕ) (is : List ι) (his : is.Nodup) (σ : Store ι κ) (j : ι) :
    drain pick n is σ j = σ j ∨ ∃ m, drain pick n is σ j = lower pick m (σ j) := by
  induction is generalizing n σ with
  | nil => exact .inl rfl
  | cons i is ih =>
    obtain ⟨hi, his⟩ := List.nodup_cons.1 his
    by_cases hn : n = 0
    · exact .inl (by rw [hn, drain_zero])
    · rw [drain_cons hn]
      by_cases hj : j = i
      · subst hj
        rw [drain_of_notMem hi, update_self]
        exact .inr ⟨n, rfl⟩
      · have hsame : update σ i (lower pick n (σ i)) j = σ j := update_of_ne hj ..
        have := ih (n - picked pick (σ i)) his (update σ i (lower pick n (σ i)))
        rwa [hsame] at this

theorem drain_of_not_pick (his : is.Nodup) {j : ι} (hj : ∀ s, σ j = some s → pick s.guid s.entry = false) :
    drain pick n is σ j = σ j := by
  rcases drain_cases n is his σ j with h | ⟨m, h⟩
  · exact h
  · rw [h]
    cases hs : σ j with
    | none => rfl
    | some s => exact lower_of_not_pick (hj s hs)

theorem drain_count_ne_zero (his : is.Nodup) (hσ : ∀ j s, σ j = some s → s.count ≠ 0) {j : ι}
    (hs : drain pick n is σ j = some s) : s.count ≠ 0 := by
  rcases drain_cases n is his σ j with h | ⟨m, h⟩
  · exact hσ j s (h ▸ hs)
  · exact lower_eq_some (h ▸ hs) (hσ j)

theorem along_drain_other {pick' : ℕ → κ → Bool} (hother : ∀ g e, pick g e = true → pick' g e = false)
    (his : is.Nodup) (js : List ι) : along pick' js (drain pick n is σ) = along pick' js σ := by
  have hslot : ∀ m (o : Option (Stack κ)), picked pick' (lower pick m o) = picked pick' o := by
    intro m o
    cases o with
    | none => rfl
    | some s =>
      cases hs : pick s.guid s.entry with
      | false => rw [lower_of_not_pick hs]
      | true =>
        have hnot := hother _ _ hs
        by_cases hle : s.count ≤ m
        · rw [lower_of_le hs hle]
          simp [picked, hnot]
        · rw [lower_of_lt hs (Nat.lt_of_not_le hle)]
          simp [picked, hnot]
  unfold along
  congr 1
  apply List.map_congr_left
  intro j _
  rcases drain_cases n is his σ j with h | ⟨m, h⟩
  · rw [h]
  · rw [h, hslot]

section total

variable [DecidableEq κ] {e : κ}

theorem amount_lower (hpick : ∀ g e', pick g e' = true → e' = e) (e' : κ) (o : Option (Stack κ)) :
    amount e' (lower pick n o) + (if e = e' then min n (picked pick o) else 0) = amount e' o := by
  cases o with
  | none => simp [lower, picked]
  | some s =>
    cases hs : pick s.guid s.entry with
    | false => simp [lower, picked, hs]
    | true =>
      have hentry := hpick _ _ hs
      have hcount : picked pick (some s) = s.count := if_pos hs
      rw [hcount, amount_some, hentry]
      by_cases hle : s.count ≤ n
      · rw [lower_of_le hs hle, amount_none, min_eq_right hle, zero_add]
      · rw [lower_of_lt hs (Nat.lt_of_not_le hle), amount_some, hentry]
        split_ifs
        · dsimp only
          omega
        · rfl

theorem total_drain [Fintype ι] (hpick : ∀ g e', pick g e' = true → e' = e) (his : is.Nodup) (e' : κ) :
    total e' (drain pick n is σ) + (if e = e' then min n (along pick is σ) else 0) = total e' σ := by
  induction is generalizing n σ with
  | nil => simp [drain, along]
  | cons i is ih =>
    by_cases hn : n = 0
    · rw [hn, drain_zero, zero_min, ite_self, add_zero]
    · obtain ⟨hi, his⟩ := List.nodup_cons.1 his
      have hrest := @ih (update σ i (lower pick n (σ i))) (n - picked pick (σ i)) his
      have hslot := amount_lower (n := n) hpick e' (σ i)
      have hupdate := total_update e' σ i (lower pick n (σ i))
      rw [along_update hi] at hrest
      rw [drain_cons hn, along_cons]
      split_ifs at hrest hslot ⊢
      · omega
      · omega

/-- When slots are emptied, what is missing along the list is missing in the whole. -/
theorem total_emptied [Fintype ι] (hpick : ∀ g e', pick g e' = true → e' = e) {σ' : Store ι κ}
    (h : ∀ j, σ' j = σ j ∨ σ' j = none) {i : ι} (hi : i ∉ is) (hnone : σ' i = none) (his : is.Nodup) :
    total e σ' + along pick (i :: is) σ ≤ total e σ + along pick is σ' := by
  have hsum : ∀ τ : Store ι κ, along pick is τ = ∑ j, if j ∈ is then picked pick (τ j) else 0 := by
    intro τ
    simp only [← List.mem_toFinset]
    rw [Finset.sum_ite_mem, Finset.univ_inter, List.sum_toFinset _ his]
    rfl
  have hle : ∀ o : Option (Stack κ), picked pick o ≤ amount e o := by
    intro o
    cases o with
    | none => exact le_rfl
    | some s =>
      unfold picked
      simp only
      split
      · rename_i hs
        rw [amount_some, if_pos (hpick _ _ hs)]
      · exact Nat.zero_le _
  have hrest : ∑ j, (amount e (σ' j) + (if j = i then picked pick (σ j) else 0) +
      if j ∈ is then picked pick (σ j) else 0) ≤
        ∑ j, (amount e (σ j) + if j ∈ is then picked pick (σ' j) else 0) := by
    refine Finset.sum_le_sum fun j _ => ?_
    by_cases hj : j = i
    · subst hj
      rw [hnone, if_pos rfl, if_neg hi, if_neg hi, amount_none, zero_add]
      exact Nat.add_le_add_right (hle _) 0
    · have hslot := hle (σ j)
      rw [if_neg hj, add_zero]
      rcases h j with heq | hgone
      · rw [heq]
      · rw [hgone, amount_none, zero_add]
        split_ifs
        · exact hslot.trans (Nat.le_add_right _ _)
        · exact Nat.zero_le _
  rw [along_cons, hsum, hsum]
  simp only [Finset.sum_add_distrib, Finset.sum_ite_eq', Finset.mem_univ, if_true] at hrest
  unfold total
  omega

end total

end Axium.Stacks
