import Axium.Battleground.Queue

/-!
# Differences of the clock

The clock of milliseconds runs modulo 2^32, and `getMSTimeDiff` is one short when it has overflowed. An
`IntervalTimer` that is updated with the differences loses these milliseconds and no others.
-/

namespace Axium.Timer

open Queue (getMSTimeDiff)

/-- The differences of the readings at `clock` and after each of the elapsed times. -/
def diffs (clock : Nat) : List Nat → List Nat
  | [] => []
  | d :: ds => getMSTimeDiff (clock % 2 ^ 32) ((clock + d) % 2 ^ 32) :: diffs (clock + d) ds

structure IntervalTimer where
  interval : Int
  current : Int := 0

namespace IntervalTimer

variable (t : IntervalTimer)

def update (diff : Int) : IntervalTimer :=
  if t.current + diff < 0 then { t with current := 0 } else { t with current := t.current + diff }

def passed : Bool := t.interval ≤ t.current

def reset : IntervalTimer :=
  if t.interval ≤ t.current then { t with current := t.current.tmod t.interval } else t

/-- How often the timer passes, and is reset. -/
def fired : IntervalTimer → List Nat → Nat
  | _, [] => 0
  | t, diff :: ds =>
    let t := t.update diff
    if t.passed then t.reset.fired ds + 1 else t.fired ds

theorem fired_eq {ds : List Nat} (hlow : 0 ≤ t.current) (hhigh : t.current < t.interval)
    (hle : ∀ d ∈ ds, (d : Int) ≤ t.interval) : (t.fired ds : Int) = (t.current + ds.sum) / t.interval := by
  induction ds generalizing t with
  | nil =>
    rw [List.sum_nil, Int.natCast_zero, add_zero]
    exact (Int.ediv_eq_zero_of_lt hlow hhigh).symm
  | cons d ds ih =>
    obtain ⟨hd, hle⟩ := List.forall_mem_cons.1 hle
    have hupdate : t.update d = { t with current := t.current + d } := if_neg (by omega)
    have hsum : t.current + ((d :: ds).sum : Nat) = t.current + d + ds.sum := by
      rw [List.sum_cons]
      omega
    rw [fired, hupdate, hsum]
    by_cases hpassed : t.interval ≤ t.current + d
    · have hmod : (t.current + d).tmod t.interval = t.current + d - t.interval := by
        rw [Int.tmod_eq_emod_of_nonneg (by omega), ← Int.sub_emod_right]
        exact Int.emod_eq_of_lt (by omega) (by omega)
      have hreset : reset { t with current := t.current + d } = { t with current := t.current + d - t.interval } := by
        rw [reset, if_pos hpassed, hmod]
      have hwhole : t.current + d + ds.sum = t.current + d - t.interval + ds.sum + 1 * t.interval := by omega
      have hpass : passed { t with current := t.current + d } = true := decide_eq_true hpassed
      rw [if_pos hpass, hreset, hwhole, Int.add_mul_ediv_right _ _ (by omega), Int.natCast_succ]
      exact congrArg (· + 1) (ih _ (sub_nonneg.2 hpassed) (by dsimp only; omega) hle)
    · have hwait : ¬ passed { t with current := t.current + d } = true := fun h => hpassed (of_decide_eq_true h)
      rw [if_neg hwait]
      exact ih _ (by dsimp only; omega) (not_le.1 hpassed) hle

end IntervalTimer

theorem sum_diffs (clock : Nat) {ds : List Nat} (h : ∀ d ∈ ds, d < 2 ^ 32) :
    (diffs clock ds).sum + (clock % 2 ^ 32 + ds.sum) / 2 ^ 32 = ds.sum := by
  induction ds generalizing clock with
  | nil =>
    change 0 + (clock % 2 ^ 32 + 0) / 2 ^ 32 = 0
    omega
  | cons d ds ih =>
    obtain ⟨hd, h⟩ := List.forall_mem_cons.1 h
    have hrest := ih (clock + d) h
    rw [diffs, List.sum_cons, List.sum_cons]
    unfold getMSTimeDiff Queue.u32Sub
    split <;> omega

/-- **Differences add up**, and an interval timer that gets them fires once in every interval, as long as the clock
does not overflow. -/
theorem differences_add_up_iff (clock : Nat) (ds : List Nat) (h : ∀ d ∈ ds, d < 2 ^ 32) :
    ((diffs clock ds).sum = ds.sum ∧ ∀ interval : Nat, 0 < interval → (∀ d ∈ diffs clock ds, d ≤ interval) →
      IntervalTimer.fired { interval } (diffs clock ds) = ds.sum / interval) ↔
    clock % 2 ^ 32 + ds.sum < 2 ^ 32 := by
  have hsum := sum_diffs clock h
  constructor
  · rintro ⟨heq, -⟩
    omega
  · intro hlt
    have heq : (diffs clock ds).sum = ds.sum := by omega
    refine ⟨heq, fun interval hpos hle => Int.natCast_inj.1 ?_⟩
    rw [IntervalTimer.fired_eq _ (Int.le_refl 0) (Int.natCast_pos.2 hpos) fun d hd => Int.ofNat_le.2 (hle d hd), heq]
    rw [zero_add, Int.natCast_ediv]

theorem differences_add_up_iff_seconds : (diffs 5 [1000, 2500]).sum = 3500 :=
  ((differences_add_up_iff 5 [1000, 2500] (by decide)).2 (by decide)).1

/-- One millisecond is lost at the overflow, and a timer with this interval does not fire. -/
theorem differences_lost : (diffs (2 ^ 32 - 1) [1]).sum = 0 ∧
    IntervalTimer.fired { interval := 1 } (diffs (2 ^ 32 - 1) [1]) = 0 := by
  decide

end Axium.Timer
