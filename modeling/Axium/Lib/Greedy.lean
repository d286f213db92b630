import Axium.Lib.Literals
import Mathlib.Data.List.Sort

/-!
# Filling a bounded room, the largest first

`largestFirst` orders a list by size, and among equals puts what came last first. `fits` takes from a
list whatever still fits.
-/

namespace Axium.Greedy

variable {α : Type} (size : α → Nat)

def fits : Int → List α → List α
  | _, [] => []
  | room, a :: as => if (size a : Int) ≤ room then a :: fits (room - size a) as else fits room as

/-- By size, descending; the latest of equals is the first. -/
def largestFirst (as : List α) : List α := as.reverse.insertionSort fun a a' => size a' ≤ size a

def total (as : List α) : Nat := (as.map size).sum

variable {size}

@[simp] theorem total_nil : total size [] = 0 := rfl

@[simp] theorem total_cons (a : α) (as : List α) : total size (a :: as) = size a + total size as :=
  List.sum_cons

@[simp] theorem total_append (as as' : List α) : total size (as ++ as') = total size as + total size as' := by
  simp [total]

theorem sum_map_cast (as : List α) : (as.map fun a => (size a : Int)).sum = (total size as : Int) := by
  induction as with
  | nil => rfl
  | cons a as ih => rw [List.map_cons, List.sum_cons, ih, total_cons, Int.natCast_add]

theorem fits_sublist (room : Int) (as : List α) : (fits size room as).Sublist as := by
  induction as generalizing room with
  | nil => exact .slnil
  | cons a as ih =>
    unfold fits
    split
    · exact (ih _).cons_cons a
    · exact (ih _).cons a

theorem total_fits_le {room : Int} {bound : Nat} (hroom : room ≤ bound) (as : List α) :
    total size (fits size room as) ≤ bound := by
  induction as generalizing room bound with
  | nil => exact Nat.zero_le _
  | cons a as ih =>
    unfold fits
    split
    · rename_i hfit
      have := ih (show room - size a ≤ (bound - size a : Nat) by omega)
      rw [total_cons]
      omega
    · exact ih hroom

theorem largestFirst_perm (as : List α) : (largestFirst size as).Perm as :=
  (List.perm_insertionSort _ _).trans as.reverse_perm

theorem largestFirst_concat (as : List α) (a : α) : largestFirst size (as ++ [a]) =
    (largestFirst size as).orderedInsert (fun a a' => size a' ≤ size a) a := by
  simp [largestFirst]

theorem orderedInsert_append {a : α} {larger rest : List α} (hl : ∀ x ∈ larger, size a < size x)
    (hr : ∀ x ∈ rest, size x ≤ size a) :
    (larger ++ rest).orderedInsert (fun a a' => size a' ≤ size a) a = larger ++ a :: rest := by
  induction larger with
  | nil =>
    cases rest with
    | nil => rfl
    | cons x rest => exact if_pos (hr x List.mem_cons_self)
  | cons x larger ih =>
    have hx := hl x List.mem_cons_self
    have hrest := ih fun y hy => hl y (List.mem_cons_of_mem x hy)
    exact (if_neg (by omega)).trans (congrArg (x :: ·) hrest)

end Axium.Greedy
