import Axium.Lib.Literals
import Mathlib.Algebra.BigOperators.Group.List.Basic
import Mathlib.Data.List.DropRight
import Mathlib.Data.List.Rotate

/-!
# A window over the last values of a history

A row of cells is written round and round: the value that comes in goes to the cell whose turn it is,
and the turn goes to the next cell. From that cell on the row shows the last values of the history, the
oldest first (`Shows`). A write keeps this (**`Shows.write`**), the sum over the cells is the sum of the
last values (`Shows.sum_eq`), and the last cell holds the last value of the last full round
(`Shows.getLast?_eq`).
-/

namespace Axium.Window

open List

variable {α : Type*}

/-- From the cell `next` on, the cells show the last values of the history. -/
structure Shows (cells : List α) (next : ℕ) (history : List α) : Prop where
  next_lt : next < cells.length
  next_eq : next = history.length % cells.length
  le_length : cells.length ≤ history.length
  rotate_eq : cells.rotate next = history.rtake cells.length

theorem rotate_set {cells : List α} {i : ℕ} (hi : i < cells.length) (x : α) :
    (cells.set i x).rotate (i + 1) = (cells.rotate i).tail ++ [x] := by
  have hlength : i + 1 ≤ (cells.set i x).length := by rwa [length_set]
  rw [rotate_eq_drop_append_take hlength, rotate_eq_drop_append_take (le_of_lt hi),
    drop_set_of_lt (Nat.lt_succ_self i), drop_eq_getElem_cons hi,
    take_succ_eq_append_getElem hlength, take_set_of_le (le_refl i),
    getElem_set_self, cons_append, tail_cons, append_assoc]

theorem rtake_concat_tail {history : List α} {n : ℕ} (hn : 0 < n) (hle : n ≤ history.length) (x : α) :
    (history ++ [x]).rtake n = (history.rtake n).tail ++ [x] := by
  obtain ⟨m, rfl⟩ := Nat.exists_eq_succ_of_ne_zero hn.ne'
  rw [rtake_concat_succ, List.rtake, List.rtake, tail_drop]
  congr 2
  omega

theorem sum_set [AddCommMonoid α] {cells : List α} {i : ℕ} (hi : i < cells.length) (x : α) :
    (cells.set i x).sum + cells[i] = cells.sum + x := by
  have hrotate : cells.rotate i = cells[i] :: (cells.drop (i + 1) ++ cells.take i) := by
    rw [rotate_eq_drop_append_take (le_of_lt hi), drop_eq_getElem_cons hi, cons_append]
  have hset := (rotate_perm (cells.set i x) (i + 1)).sum_eq
  have hcells := (rotate_perm cells i).sum_eq
  rw [rotate_set hi, hrotate, tail_cons, sum_append, sum_singleton] at hset
  rw [hrotate, sum_cons] at hcells
  rw [← hset, ← hcells, add_right_comm, add_comm (cells[i])]

theorem Shows.init {cells : List α} (hne : cells ≠ []) : Shows cells 0 cells where
  next_lt := length_pos_iff.2 hne
  next_eq := (Nat.mod_self _).symm
  le_length := le_refl _
  rotate_eq := by simp [List.rtake]

namespace Shows

variable {cells history : List α} {next : ℕ}

theorem write (h : Shows cells next history) (x : α) :
    Shows (cells.set next x) ((next + 1) % cells.length) (history ++ [x]) where
  next_lt := by
    rw [length_set]
    exact Nat.mod_lt _ (Nat.zero_lt_of_lt h.next_lt)
  next_eq := by
    rw [length_set, length_append, length_singleton, h.next_eq, Nat.mod_add_mod]
  le_length := by
    have := h.le_length
    rw [length_set, length_append]
    omega
  rotate_eq := by
    have hmod : (cells.set next x).rotate ((next + 1) % cells.length) =
        (cells.set next x).rotate (next + 1) := by
      have hlength : (cells.set next x).length = cells.length := length_set
      rw [← hlength, rotate_mod]
    rw [hmod, rotate_set h.next_lt, h.rotate_eq, length_set,
      rtake_concat_tail (Nat.zero_lt_of_lt h.next_lt) h.le_length]

theorem sum_eq [AddCommMonoid α] (h : Shows cells next history) :
    cells.sum = (history.rtake cells.length).sum := by
  rw [← h.rotate_eq]
  exact ((cells.rotate_perm next).sum_eq).symm

theorem getLast?_eq (h : Shows cells next history) :
    cells.getLast? = history[history.length / cells.length * cells.length - 1]? := by
  have hlt := h.next_lt
  have hle := h.le_length
  have hround : history.length / cells.length * cells.length - 1 = history.length - 1 - next := by
    have := Nat.div_add_mod' history.length cells.length
    have := h.next_eq
    omega
  have hcell : (cells.rotate next)[cells.length - 1 - next]? = cells.getLast? := by
    rw [getElem?_rotate (by omega), getLast?_eq_getElem?]
    congr 1
    rw [Nat.sub_add_cancel (by omega)]
    exact Nat.mod_eq_of_lt (by omega)
  rw [← hcell, h.rotate_eq, List.rtake, getElem?_drop]
  congr 1
  omega

end Shows

end Axium.Window
