import Axium.Lib.Literals
import Mathlib.Data.List.Basic

/-!
# A merge join on one cursor

Rows sorted by a key are read from one cursor that only moves forward. A reader for the key `k` takes
rows while their key is at most `k` (`taken`) and leaves the others to the next reader (`left`). When
the readers come in the order of their keys and every row has a reader, each takes exactly the rows
with its own key (`join_eq`).
-/

namespace Axium.MergeJoin

open List

variable {ρ κ : Type*} [LinearOrder κ] (key : ρ → κ)

/-- What the reader for `k` takes. -/
def taken (k : κ) (rows : List ρ) : List ρ := rows.takeWhile (key · ≤ k)

/-- What the reader for `k` leaves. -/
def left (k : κ) (rows : List ρ) : List ρ := rows.dropWhile (key · ≤ k)

/-- The rows with the key `k`. -/
def own (k : κ) (rows : List ρ) : List ρ := rows.filter (key · = k)

def join : List κ → List ρ → List (List ρ)
  | [], _ => []
  | k :: ks, rows => taken key k rows :: join ks (left key k rows)

variable {key} {k : κ} {ks : List κ} {rows : List ρ}

abbrev Sorted (key : ρ → κ) (rows : List ρ) : Prop := rows.Pairwise fun r r' => key r ≤ key r'

@[simp] theorem taken_append_left (k : κ) (rows : List ρ) :
    taken key k rows ++ left key k rows = rows := takeWhile_append_dropWhile

section

variable (h : Sorted key rows)
include h

theorem taken_eq_filter : taken key k rows = rows.filter (key · ≤ k) := by
  induction rows with
  | nil => rfl
  | cons r rows ih =>
    obtain ⟨hr, hrows⟩ := pairwise_cons.1 h
    have ih := ih hrows
    unfold taken at ih ⊢
    by_cases hle : key r ≤ k
    · simp [hle, ih]
    · have hnone : ∀ r' ∈ rows, ¬ key r' ≤ k := fun r' hr' hle' => hle ((hr r' hr').trans hle')
      simp only [takeWhile_cons, filter_cons, hle, decide_false, Bool.false_eq_true, if_false]
      exact (filter_eq_nil_iff.2 fun r' hr' => by simpa using hnone r' hr').symm

theorem left_eq_filter : left key k rows = rows.filter (k < key ·) := by
  induction rows with
  | nil => rfl
  | cons r rows ih =>
    obtain ⟨hr, hrows⟩ := pairwise_cons.1 h
    have ih := ih hrows
    unfold left at ih ⊢
    by_cases hle : key r ≤ k
    · simp [hle, not_lt.2 hle, ih]
    · have hall : ∀ r' ∈ rows, k < key r' := fun r' hr' => (not_le.1 hle).trans_le (hr r' hr')
      simp only [dropWhile_cons, filter_cons, hle, not_le.1 hle, decide_false,
        decide_true, Bool.false_eq_true, if_false, if_true]
      rw [filter_eq_self.2 fun r' hr' => by simpa using hall r' hr']

theorem Sorted.left (k : κ) : Sorted key (left key k rows) := by
  rw [left_eq_filter h]
  exact h.filter _

theorem taken_eq_own (hge : ∀ r ∈ rows, k ≤ key r) : taken key k rows = own key k rows := by
  rw [taken_eq_filter h]
  refine filter_congr fun r hr => ?_
  have := hge r hr
  simp [le_antisymm_iff, this]

theorem own_left {k' : κ} (hlt : k < k') : own key k' (left key k rows) = own key k' rows := by
  rw [left_eq_filter h, own, filter_filter]
  refine filter_congr fun r _ => ?_
  by_cases hk : key r = k'
  · simp [hk, hlt]
  · simp [hk]

theorem mem_of_left (hmem : ∀ r ∈ rows, key r ∈ k :: ks) : ∀ r ∈ left key k rows, key r ∈ ks := by
  intro r hr
  rw [left_eq_filter h, mem_filter] at hr
  rcases mem_cons.1 (hmem r hr.1) with heq | htail
  · simp [heq] at hr
  · exact htail

end

/-- **Each reader takes exactly the rows with its own key.** -/
theorem join_eq (hks : ks.Pairwise (· < ·)) (h : Sorted key rows)
    (hmem : ∀ r ∈ rows, key r ∈ ks) : join key ks rows = ks.map fun k => own key k rows := by
  induction ks generalizing rows with
  | nil => rfl
  | cons k ks ih =>
    obtain ⟨hk, hks⟩ := pairwise_cons.1 hks
    have hge : ∀ r ∈ rows, k ≤ key r := by
      intro r hr
      rcases mem_cons.1 (hmem r hr) with heq | htail
      · exact heq.ge
      · exact (hk _ htail).le
    rw [join, taken_eq_own h hge, ih hks (h.left k) (mem_of_left h hmem)]
    refine congrArg _ (map_congr_left fun k' hk' => ?_)
    exact own_left h (hk k' hk')

theorem flatten_join (h : Sorted key rows) (hmem : ∀ r ∈ rows, key r ∈ ks) :
    (join key ks rows).flatten = rows := by
  induction ks generalizing rows with
  | nil =>
    refine (eq_nil_iff_forall_not_mem.2 fun r hr => ?_).symm
    exact not_mem_nil (hmem r hr)
  | cons k ks ih => rw [join, flatten_cons, ih (h.left k) (mem_of_left h hmem), taken_append_left]

end Axium.MergeJoin
