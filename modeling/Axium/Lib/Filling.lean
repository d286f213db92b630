import Axium.Lib.Stacks

/-!
# Filling offers

A plan is made by going through a list of offers, each a slot with the space it has, until nothing is left
to place. A slot that was set aside before is passed over, so a slot counts with the first offer of it
(`room`), and what is placed is what was asked for or all the room, whichever is less (`fill_left`).
-/

namespace Axium.Stacks

open List Plan

variable {ι : Type*} [DecidableEq ι]

def Plan.fill : List (ι × ℕ) → Plan ι → Plan ι
  | [], P => P
  | (i, space) :: rest, P =>
    if i ∈ P.dest.map Prod.fst then fill rest P
    else if (P.reserve i space).left = 0 then P.reserve i space
    else fill rest (P.reserve i space)

/-- The space of the offers, of each slot that is not among `seen` the first one. -/
def room : List ι → List (ι × ℕ) → ℕ
  | _, [] => 0
  | seen, (i, space) :: rest => if i ∈ seen then room seen rest else space + room (seen ++ [i]) rest

variable {P : Plan ι} {l l' : List (ι × ℕ)} {i : ι} {space : ℕ}

theorem room_congr {seen seen' : List ι} (h : ∀ i, i ∈ seen ↔ i ∈ seen') : room seen l = room seen' l := by
  induction l generalizing seen seen' with
  | nil => rfl
  | cons o rest ih =>
    obtain ⟨i, space⟩ := o
    unfold room
    have hnext : ∀ j, j ∈ seen ++ [i] ↔ j ∈ seen' ++ [i] := fun j => by
      rw [mem_append, mem_append, h j]
    rw [ih h, ih hnext]
    exact if_congr (h i) rfl rfl

theorem reserve_of_not_mem (hi : i ∉ P.dest.map Prod.fst) :
    P.reserve i space = ⟨P.dest ++ [(i, min space P.left)], P.left - min space P.left⟩ := if_neg hi

theorem reserve_of_mem (hi : i ∈ P.dest.map Prod.fst) : P.reserve i space = P := if_pos hi

theorem reserve_left (hi : i ∉ P.dest.map Prod.fst) : (P.reserve i space).left = P.left - space := by
  rw [reserve_of_not_mem hi]
  dsimp only
  omega

theorem reserve_slots (hi : i ∉ P.dest.map Prod.fst) :
    (P.reserve i space).dest.map Prod.fst = P.dest.map Prod.fst ++ [i] := by
  rw [reserve_of_not_mem hi, map_append]
  rfl

theorem fill_cons : fill ((i, space) :: l) P =
    if i ∈ P.dest.map Prod.fst then fill l P
    else if (P.reserve i space).left = 0 then P.reserve i space
    else fill l (P.reserve i space) := rfl

theorem fill_single : fill [(i, space)] P = P.reserve i space := by
  rw [fill_cons]
  by_cases hi : i ∈ P.dest.map Prod.fst
  · rw [if_pos hi, reserve_of_mem hi]
    rfl
  · rw [if_neg hi]
    split
    · rfl
    · rfl

theorem fill_left (hP : 0 < P.left) : (fill l P).left = P.left - room (P.dest.map Prod.fst) l := by
  induction l generalizing P with
  | nil => rfl
  | cons o rest ih =>
    obtain ⟨i, space⟩ := o
    rw [fill_cons]
    unfold room
    by_cases hi : i ∈ P.dest.map Prod.fst
    · rw [if_pos hi, if_pos hi]
      exact ih hP
    · rw [if_neg hi, if_neg hi]
      have hleft : (P.reserve i space).left = P.left - space := reserve_left hi
      by_cases hdone : (P.reserve i space).left = 0
      · rw [if_pos hdone]
        omega
      · rw [if_neg hdone, ih (pos_of_ne_zero hdone), reserve_slots hi]
        omega

/-- What holds of a plan and is kept while a slot is set aside holds when the offers were gone through. Where
the condition `c` holds, pieces are left to place all along. -/
theorem fill_keeps {F : Plan ι → Prop} {c : Prop} (hP : c → 0 < P.left) (h : F P)
    (hstep : ∀ P, (c → 0 < P.left) → F P → ∀ o ∈ l, o.1 ∉ P.dest.map Prod.fst → F (P.reserve o.1 o.2)) :
    F (fill l P) := by
  induction l generalizing P with
  | nil => exact h
  | cons o rest ih =>
    obtain ⟨i, space⟩ := o
    have hrest : ∀ P, (c → 0 < P.left) → F P → ∀ o ∈ rest, o.1 ∉ P.dest.map Prod.fst → F (P.reserve o.1 o.2) :=
      fun P hP h o ho => hstep P hP h o (mem_cons_of_mem _ ho)
    rw [fill_cons]
    by_cases hi : i ∈ P.dest.map Prod.fst
    · rw [if_pos hi]
      exact ih hP h hrest
    · rw [if_neg hi]
      have hres := hstep P hP h (i, space) (mem_cons_self ..) hi
      by_cases hdone : (P.reserve i space).left = 0
      · rw [if_pos hdone]
        exact hres
      · rw [if_neg hdone]
        exact ih (fun _ => pos_of_ne_zero hdone) hres hrest

theorem reserve_total :
    ((P.reserve i space).dest.map Prod.snd).sum + (P.reserve i space).left = (P.dest.map Prod.snd).sum + P.left := by
  by_cases hi : i ∈ P.dest.map Prod.fst
  · rw [reserve_of_mem hi]
  · rw [reserve_of_not_mem hi, map_append, sum_append]
    simp only [map_cons, map_nil, sum_singleton]
    omega

theorem fill_total : ((fill l P).dest.map Prod.snd).sum + (fill l P).left =
    (P.dest.map Prod.snd).sum + P.left :=
  fill_keeps (F := fun Q => (Q.dest.map Prod.snd).sum + Q.left = (P.dest.map Prod.snd).sum + P.left) (c := False)
    False.elim rfl fun _ _ h _ _ _ => reserve_total.trans h

theorem mem_fill (hleft : (fill l P).left ≠ 0) :
    i ∈ (fill l P).dest.map Prod.fst ↔ i ∈ P.dest.map Prod.fst ∨ i ∈ l.map Prod.fst := by
  induction l generalizing P with
  | nil => exact (or_iff_left not_mem_nil).symm
  | cons o rest ih =>
    rw [fill_cons] at hleft ⊢
    rw [map_cons, mem_cons]
    split_ifs at hleft ⊢ with hj hdone
    · rw [ih hleft]
      constructor
      · exact Or.imp_right .inr
      · rintro (hold | rfl | hnew)
        · exact .inl hold
        · exact .inl hj
        · exact .inr hnew
    · exact absurd hdone hleft
    · rw [ih hleft, reserve_slots hj, mem_append, mem_singleton, or_assoc]

theorem fill_append (hP : 0 < P.left) :
    fill (l ++ l') P = if (fill l P).left = 0 then fill l P else fill l' (fill l P) := by
  induction l generalizing P with
  | nil => exact (if_neg hP.ne').symm
  | cons o rest ih =>
    obtain ⟨i, space⟩ := o
    rw [cons_append, fill_cons, fill_cons]
    by_cases hi : i ∈ P.dest.map Prod.fst
    · rw [if_pos hi, if_pos hi]
      exact ih hP
    · rw [if_neg hi, if_neg hi]
      by_cases hdone : (P.reserve i space).left = 0
      · rw [if_pos hdone, if_pos hdone, if_pos hdone]
      · rw [if_neg hdone, if_neg hdone]
        exact ih (pos_of_ne_zero hdone)

/-- A plan for `n` pieces whose slots are offered: each once, with at least one piece and no more than it has
space for. -/
structure Plan.Of (l : List (ι × ℕ)) (n : ℕ) (P : Plan ι) : Prop where
  nodup : (P.dest.map Prod.fst).Nodup
  offered : ∀ q ∈ P.dest, 0 < q.2 ∧ ∃ o ∈ l, o.1 = q.1 ∧ q.2 ≤ o.2
  sum : (P.dest.map Prod.snd).sum + P.left = n

theorem fill_of {n : ℕ} (hn : 0 < n) (hpos : ∀ o ∈ l, 0 < o.2) : (fill l ⟨[], n⟩).Of l n := by
  apply fill_keeps (P := ⟨[], n⟩) (c := True) fun _ => hn
  · exact ⟨nodup_nil, fun _ hq => absurd hq not_mem_nil, by simp⟩
  · intro P hP h o ho hnew
    rw [reserve_of_not_mem hnew]
    refine ⟨?_, ?_, ?_⟩
    · rw [map_append]
      exact List.Nodup.append h.nodup (nodup_singleton _) (by simpa using hnew)
    · intro q hq
      rcases mem_append.1 hq with hq | hq
      · exact h.offered q hq
      · rw [mem_singleton.1 hq]
        exact ⟨Nat.lt_min.2 ⟨hpos o ho, hP trivial⟩, o, ho, rfl, min_le_left ..⟩
    · have hsum := h.sum
      simp only [map_append, sum_append, map_cons, map_nil, sum_singleton]
      omega

end Axium.Stacks
