import Axium.Lib.Literals
import Mathlib.Algebra.BigOperators.Group.Finset.Basic
import Mathlib.Algebra.Order.BigOperators.Group.Finset
import Mathlib.Data.Fintype.BigOperators

/-!
# Sums and counts that change in one place

A quantity kept as a sum over the cells of an array. One cell changes at a time, so what is needed is how
the sum changes with it (`sum_change`), and what a sum of one says about the cells
(`existsUnique_of_sum_eq_one`). The same for the number of elements of a list with distinct keys that satisfy
a predicate (`countP_change`).
-/

namespace Axium.Tally

open Finset List

variable {ι : Type*} [Fintype ι] [DecidableEq ι] {f f' : ι → ℕ}

omit [Fintype ι] in
theorem sum_change_mem {s : Finset ι} {i : ι} (hi : i ∈ s) (h : ∀ j, j ≠ i → f' j = f j) :
    ∑ j ∈ s, f' j + f i = ∑ j ∈ s, f j + f' i := by
  have hrest : ∑ j ∈ s.erase i, f' j = ∑ j ∈ s.erase i, f j := by
    apply sum_congr rfl
    intro j hj
    exact h j (ne_of_mem_erase hj)
  rw [← add_sum_erase s f' hi, ← add_sum_erase s f hi]
  omega

theorem sum_change (i : ι) (h : ∀ j, j ≠ i → f' j = f j) : ∑ j, f' j + f i = ∑ j, f j + f' i :=
  sum_change_mem (mem_univ i) h

omit [Fintype ι] in
theorem add_le_sum_mem {s : Finset ι} {i j : ι} (hi : i ∈ s) (hj : j ∈ s) (hne : j ≠ i) :
    f i + f j ≤ ∑ k ∈ s, f k := by
  have hle : f j ≤ ∑ k ∈ s.erase i, f k := single_le_sum (fun _ _ => Nat.zero_le _) (mem_erase.2 ⟨hne, hj⟩)
  rw [← add_sum_erase s f hi]
  omega

theorem existsUnique_of_sum_eq_one (h : ∑ j, f j = 1) : ∃! j, 0 < f j := by
  obtain ⟨i, hi⟩ : ∃ i, 0 < f i := by
    by_contra hnone
    push Not at hnone
    rw [sum_eq_zero (fun j _ => Nat.le_zero.1 (hnone j))] at h
    exact absurd h (by decide)
  refine ⟨i, hi, fun j hj => ?_⟩
  by_contra hne
  have hle := add_le_sum_mem (f := f) (mem_univ i) (mem_univ j) hne
  omega

theorem countP_change {α β : Type*} {key : α → β} {l : List α} (hnodup : (l.map key).Nodup) {a : α}
    (ha : a ∈ l) {p q : α → Bool} (h : ∀ b ∈ l, key b ≠ key a → q b = p b) :
    l.countP q + (if p a then 1 else 0) = l.countP p + if q a then 1 else 0 := by
  induction l with
  | nil => exact absurd ha not_mem_nil
  | cons b l ih =>
    obtain ⟨hb, hl⟩ := nodup_cons.1 hnodup
    rw [countP_cons, countP_cons]
    rcases mem_cons.1 ha with rfl | ha
    · have hrest : l.countP q = l.countP p := by
        apply countP_congr
        intro c hc
        have hne : key c ≠ key a := fun heq => hb (heq ▸ mem_map_of_mem hc)
        rw [h c (mem_cons_of_mem a hc) hne]
      omega
    · have hne : key b ≠ key a := fun heq => hb (heq ▸ mem_map_of_mem ha)
      have := ih hl ha fun c hc => h c (mem_cons_of_mem b hc)
      rw [h b mem_cons_self hne]
      omega

end Axium.Tally
