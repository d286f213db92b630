import Axium.Lib.Literals
import Mathlib.Data.List.Basic

/-!
# Loops with a byte index

`for (uint8 i = 0; i < n; i++)` over a container whose size `n` is not bounded by a byte: the index
wraps from 255 to 0. `byteFor` runs such a loop with fuel and answers `none` when the fuel runs
out. Up to 255 elements the loop visits every index once, in order (`byteFor_eq`); from 256
elements on the index never reaches `n`, and the loop ends only through its body
(`byteFor_eq_none`).
-/

namespace Axium.ByteLoop

variable {σ : Type*}

/-- What one pass through a loop body does: go on to the next index, or `break`. -/
inductive Ctl (σ : Type*) where
  | next (s : σ)
  | brk (s : σ)

/-- The loop from index `i`, with the `uint8` increment. -/
def byteFor (n : Nat) (body : Nat → σ → Ctl σ) : Nat → Nat → σ → Option σ
  | 0, _, _ => none
  | fuel + 1, i, s =>
    if i < n then
      match body i s with
      | .next s' => byteFor n body fuel ((i + 1) % 256) s'
      | .brk s' => some s'
    else some s

def forOver (body : Nat → σ → Ctl σ) : List Nat → σ → σ
  | [], s => s
  | i :: is, s =>
    match body i s with
    | .next s' => forOver body is s'
    | .brk s' => s'

variable {n : Nat} {body : Nat → σ → Ctl σ}

theorem byteFor_from {fuel i : Nat} (hn : n ≤ 255) (hi : i ≤ n) (hf : n - i < fuel) (s : σ) :
    byteFor n body fuel i s = some (forOver body (List.range' i (n - i)) s) := by
  induction fuel generalizing i s with
  | zero => omega
  | succ fuel ih =>
    rw [byteFor]
    split
    · rename_i hlt
      have hstep : List.range' i (n - i) = i :: List.range' (i + 1) (n - (i + 1)) := by
        rw [show n - i = (n - (i + 1)) + 1 by omega, List.range'_succ]
      rw [hstep, forOver]
      cases body i s with
      | next s' =>
        -- below 255 the increment does not wrap
        rw [Nat.mod_eq_of_lt (by omega)]
        exact ih (by omega) (by omega) s'
      | brk s' => rfl
    · rename_i hge
      rw [show n - i = 0 by omega]
      rfl

theorem byteFor_eq {fuel : Nat} (hn : n ≤ 255) (hf : n < fuel) (s : σ) :
    byteFor n body fuel 0 s = some (forOver body (List.range n) s) := by
  rw [byteFor_from hn (Nat.zero_le n) hf, List.range_eq_range', Nat.sub_zero]

theorem byteFor_eq_none {P : σ → Prop} (hn : 256 ≤ n)
    (hbody : ∀ i < 256, ∀ s, P s → ∃ s', body i s = .next s' ∧ P s') (fuel : Nat) {i : Nat}
    (hi : i < 256) {s : σ} (hs : P s) : byteFor n body fuel i s = none := by
  induction fuel generalizing i s with
  | zero => rfl
  | succ fuel ih =>
    obtain ⟨s', hb, hs'⟩ := hbody i hi s hs
    rw [byteFor, if_pos (by omega), hb]
    exact ih (Nat.mod_lt _ (by decide)) hs'

theorem forOver_search (p : Nat → Bool) (is : List Nat) :
    forOver (fun i b => if p i then .brk true else .next b) is false = is.any p := by
  induction is with
  | nil => rfl
  | cons i is ih =>
    rw [forOver, List.any_cons]
    cases p i with
    | true => rfl
    | false => simpa using ih

theorem forOver_append {α : Type*} (f : Nat → α) (is : List Nat) (acc : List α) :
    forOver (fun i acc => .next (acc ++ [f i])) is acc = acc ++ is.map f := by
  induction is generalizing acc with
  | nil => simp [forOver]
  | cons i is ih => simp [forOver, ih]

end Axium.ByteLoop
