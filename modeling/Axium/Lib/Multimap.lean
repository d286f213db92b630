import Axium.Lib.Literals
import Mathlib.Data.List.Sort

/-!
# Multimaps as sorted lists

A multimap is the list of its entries in the order of the keys; entries with one key stand in the order
in which they were inserted.
-/

namespace Axium.Multimap

open List

variable {κ α : Type*} [LinearOrder κ]

def insert (k : κ) (a : α) (l : List (κ × α)) : List (κ × α) :=
  l.orderedInsert (fun x y => x.1 < y.1) (k, a)

def Sorted (l : List (κ × α)) : Prop := l.Pairwise fun x y => x.1 ≤ y.1

variable {k : κ} {a : α} {l : List (κ × α)}

theorem insert_perm (k : κ) (a : α) (l : List (κ × α)) : (insert k a l).Perm ((k, a) :: l) :=
  perm_orderedInsert ..

@[simp] theorem mem_insert {x : κ × α} : x ∈ insert k a l ↔ x = (k, a) ∨ x ∈ l :=
  (insert_perm k a l).mem_iff.trans mem_cons

theorem insert_cons_of_lt {x : κ × α} (h : k < x.1) : insert k a (x :: l) = (k, a) :: x :: l := if_pos h

theorem insert_cons_of_le {x : κ × α} (h : x.1 ≤ k) : insert k a (x :: l) = x :: insert k a l :=
  if_neg (not_lt.2 h)

/-- A relation along the list: what has a key up to `k` comes before the new entry, the rest after it. -/
theorem pairwise_insert {R : κ × α → κ × α → Prop} (hsorted : Sorted l) (hl : l.Pairwise R)
    (hbefore : ∀ x ∈ l, x.1 ≤ k → R x (k, a)) (hafter : ∀ x ∈ l, k < x.1 → R (k, a) x) :
    (insert k a l).Pairwise R := by
  induction l with
  | nil => exact pairwise_singleton ..
  | cons x l ih =>
    obtain ⟨hx, htail⟩ := pairwise_cons.1 hl
    obtain ⟨hle, hsorted⟩ := pairwise_cons.1 hsorted
    rcases lt_or_ge k x.1 with hlt | hge
    · rw [insert_cons_of_lt hlt]
      refine pairwise_cons.2 ⟨fun y hy => ?_, hl⟩
      rcases mem_cons.1 hy with rfl | hmem
      · exact hafter y mem_cons_self hlt
      · exact hafter y hy (hlt.trans_le (hle y hmem))
    · rw [insert_cons_of_le hge]
      refine pairwise_cons.2 ⟨fun y hy => ?_, ih hsorted htail (fun y hy => hbefore y (mem_cons_of_mem x hy))
        (fun y hy => hafter y (mem_cons_of_mem x hy))⟩
      rcases mem_insert.1 hy with rfl | hmem
      · exact hbefore x mem_cons_self hge
      · exact hx y hmem

theorem Sorted.insert (h : Sorted l) (k : κ) (a : α) : Sorted (insert k a l) :=
  pairwise_insert h h (fun _ _ hle => hle) fun _ _ hlt => hlt.le

theorem Sorted.filter (h : Sorted l) (p : κ × α → Bool) : Sorted (l.filter p) := List.Pairwise.filter p h

theorem filter_insert_of_pos (hsorted : Sorted l) {p : κ × α → Bool} (hp : p (k, a) = true) :
    (insert k a l).filter p = insert k a (l.filter p) := by
  induction l with
  | nil => exact filter_cons_of_pos hp
  | cons x l ih =>
    obtain ⟨hle, hsorted⟩ := pairwise_cons.1 hsorted
    rcases lt_or_ge k x.1 with hlt | hge
    · rw [insert_cons_of_lt hlt, filter_cons_of_pos hp]
      cases hfilter : (x :: l).filter p with
      | nil => rfl
      | cons y ys =>
        have hy : y ∈ x :: l := mem_of_mem_filter (hfilter ▸ mem_cons_self)
        have hlater : k < y.1 := by
          rcases mem_cons.1 hy with rfl | hmem
          · exact hlt
          · exact hlt.trans_le (hle y hmem)
        rw [insert_cons_of_lt hlater]
    · rw [insert_cons_of_le hge]
      cases hx : p x with
      | true => rw [filter_cons_of_pos hx, filter_cons_of_pos hx, ih hsorted, insert_cons_of_le hge]
      | false => rw [filter_cons_of_neg (by simp [hx]), filter_cons_of_neg (by simp [hx]), ih hsorted]

theorem filter_insert_of_neg {p : κ × α → Bool} (hp : p (k, a) = false) :
    (insert k a l).filter p = l.filter p := by
  induction l with
  | nil => exact filter_cons_of_neg (by simp [hp])
  | cons x l ih =>
    rcases lt_or_ge k x.1 with hlt | hge
    · rw [insert_cons_of_lt hlt, filter_cons_of_neg (by simp [hp])]
    · rw [insert_cons_of_le hge, filter_cons, ih, filter_cons]

end Axium.Multimap
