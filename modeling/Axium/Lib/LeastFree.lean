import Axium.Lib.Literals

/-!
# The least free number

An allocator of positive numbers that hands out the least one not in use. What is in use is a predicate, so
that the table which stores it does not matter.
-/

namespace Axium

/-- `next` is the least positive number that is not in use; 0 never is. -/
structure LeastFree (inUse : Nat → Prop) (next : Nat) : Prop where
  pos : 0 < next
  zero : ¬ inUse 0
  free : ¬ inUse next
  used : ∀ id, 0 < id → id < next → inUse id

namespace LeastFree

variable {inUse inUse' : Nat → Prop} {next id j : Nat}

section

variable (h : LeastFree inUse next)
include h

theorem le (hid : 0 < id) (hfree : ¬ inUse id) : next ≤ id := not_lt.1 fun hlt => hfree (h.used id hid hlt)

theorem take (hlt : next < j) (hfree : ¬ inUse j)
    (hused : ∀ k, next < k → k < j → inUse k) (heq : ∀ k, inUse' k ↔ k = next ∨ inUse k) :
    LeastFree inUse' j := by
  have hpos := h.pos
  refine ⟨by omega, fun hzero => ?_, fun hj => ?_, fun k hk hlow => (heq k).2 ?_⟩
  · exact ((heq 0).1 hzero).elim (fun hnext => by omega) h.zero
  · exact ((heq j).1 hj).elim (fun hnext => by omega) hfree
  · rcases lt_trichotomy k next with hbelow | heq | habove
    · exact .inr (h.used k hk hbelow)
    · exact .inl heq
    · exact .inr (hused k habove hlow)

theorem release (hid : inUse id) (heq : ∀ k, inUse' k ↔ k ≠ id ∧ inUse k) :
    LeastFree inUse' (if id < next then id else next) := by
  have hpos : id ≠ 0 := fun hzero => h.zero (hzero ▸ hid)
  have hzero : ¬ inUse' 0 := fun hzero => h.zero ((heq 0).1 hzero).2
  split
  · next hlow =>
    exact ⟨by omega, hzero, fun hfree => ((heq id).1 hfree).1 rfl,
      fun k hk hkid => (heq k).2 ⟨by omega, h.used k hk (by omega)⟩⟩
  · next hlow =>
    exact ⟨h.pos, hzero, fun hfree => h.free ((heq next).1 hfree).2,
      fun k hk hknext => (heq k).2 ⟨by omega, h.used k hk hknext⟩⟩

theorem load (hid : 0 < id) (habove : ∀ k, inUse k → k < id)
    (heq : ∀ k, inUse' k ↔ k = id ∨ inUse k) : LeastFree inUse' (if next = id then next + 1 else next) := by
  have hzero : ¬ inUse' 0 := fun hzero => ((heq 0).1 hzero).elim (fun h => by omega) h.zero
  split
  · next hnext =>
    refine h.take (Nat.lt_succ_self _) (fun hused => ?_) (fun k hlow hhigh => by omega) fun k => hnext ▸ heq k
    have := habove _ hused
    omega
  · next hnext =>
    exact ⟨h.pos, hzero, fun hfree => ((heq next).1 hfree).elim hnext h.free,
      fun k hk hlow => (heq k).2 (.inr (h.used k hk hlow))⟩

end

end LeastFree

end Axium
