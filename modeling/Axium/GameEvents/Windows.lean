import Axium.GameEvents.WorldEvents
import Mathlib.Data.Nat.Find

/-!
# The windows of periodic events

When `CheckOneGameEvent` holds of an event in the normal phase, how long `NextCheck` lets it be, and what a
command that starts or stops the event makes of its windows. The windows are open at the start of the event and
its end, where `NextCheck` takes the start for a part of the first window.
-/

namespace Axium.GameEvents

def maxGeCheckDelay : Nat := 86400

def toUInt32 (x : Int) : Nat := (x % 2 ^ 32).toNat

variable {R : Type}

def nextCheck (d : GameEventData R) (now : Int) : Nat :=
  if (d.state = .worldNextphase ∨ d.state = .worldFinished) ∧ now ≤ d.nextstart then toUInt32 (d.nextstart - now)
  else if d.state = .worldConditions then
    if d.length ≠ 0 then toUInt32 (seconds d.length) else maxGeCheckDelay
  else if d.endTime < now then maxGeCheckDelay
  else if now < d.start then toUInt32 (d.start - now)
  else
    let passed := Int.tmod (now - d.start) (seconds d.occurence)
    let delay := toUInt32
      (if passed < seconds d.length then seconds d.length - passed else seconds d.occurence - passed)
    if d.endTime < now + delay then toUInt32 (d.endTime - now) else delay

/-- `CheckOneGameEvent` of a normal event. -/
def GameEventData.activeAt (d : GameEventData R) (now : Int) : Prop :=
  d.start < now ∧ now < d.endTime ∧ (now - d.start) % seconds d.occurence < seconds d.length

theorem emod_add_of_lt {x k p : Int} (hk : 0 ≤ k) (hx : 0 ≤ x % p) (h : x % p + k < p) :
    (x + k) % p = x % p + k :=
  calc (x + k) % p = (x % p + k) % p := (Int.emod_add_emod ..).symm
    _ = x % p + k := Int.emod_eq_of_lt (by omega) h

theorem toUInt32_of_lt {x : Int} (h₀ : 0 ≤ x) (h : x < 2 ^ 32) : (toUInt32 x : Int) = x := by
  rw [toUInt32, Int.emod_eq_of_lt h₀ h]
  exact Int.toNat_of_nonneg h₀

theorem clip {delay now endTime : Int} (h₀ : 0 ≤ delay) (h : delay < 2 ^ 32) (hend : now ≤ endTime) :
    ((if endTime < now + toUInt32 delay then toUInt32 (endTime - now) else toUInt32 delay : Nat) : Int) =
      min (endTime - now) delay := by
  have hdelay := toUInt32_of_lt h₀ h
  split
  · rw [toUInt32_of_lt (by omega) (by omega)]
    omega
  · omega

theorem checkOneGameEvent_iff {w : World R} {e : Nat} {now : Int} (h : (w.event e).state = .normal) :
    checkOneGameEvent w now e = true ↔ (w.event e).activeAt now := by
  unfold checkOneGameEvent GameEventData.activeAt
  dsimp only
  rw [h]
  simp only [Bool.and_eq_true, decide_eq_true_eq, and_assoc]
  refine and_congr_right fun hstart => and_congr_right fun _ => ?_
  rw [Int.tmod_eq_emod_of_nonneg (by omega)]

/-! ## Updates -/

/-- The times at which `Update` runs: one second after the next check at the latest. -/
def Timetable (d : GameEventData R) (update : Nat → Int) : Prop :=
  ∀ n, update n < update (n + 1) ∧ update (n + 1) ≤ update n + nextCheck d (update n) + 1

/-- The first second of an occurrence; the first one starts behind the start of the event. -/
def opens (d : GameEventData R) (m : Nat) : Int :=
  d.start + m * seconds d.occurence + if m = 0 then 1 else 0

def Regular (d : GameEventData R) (update : Nat → Int) : Prop :=
  (∀ n, update n = d.start → d.endTime = d.start + 1) ∧ ∀ m : Nat, m ≠ 0 → d.endTime ≠ opens d m + 1

theorem exists_last {update : Nat → Int} (hup : ∀ n, update n < update (n + 1)) {x : Int} (h₀ : update 0 ≤ x) :
    ∃ n, update n ≤ x ∧ x < update (n + 1) := by
  have hge (n : Nat) : update 0 + n ≤ update n := by
    induction n with
    | zero => omega
    | succ n ih =>
      have := hup n
      omega
  have hex : ∃ n, x < update n := ⟨(x - update 0 + 1).toNat, by
    have := hge (x - update 0 + 1).toNat
    omega⟩
  obtain ⟨n, hn⟩ : ∃ n, Nat.find hex = n + 1 := by
    refine Nat.exists_eq_succ_of_ne_zero fun hzero => ?_
    have := Nat.find_spec hex
    rw [hzero] at this
    omega
  have hspec := Nat.find_spec hex
  rw [hn] at hspec
  exact ⟨n, not_lt.1 (Nat.find_min hex (hn ▸ Nat.lt_succ_self n)), hspec⟩

structure Periodic (d : GameEventData R) : Prop where
  normal : d.state = .normal
  starts : d.start < d.endTime
  pos : 0 < d.length
  le : d.length ≤ d.occurence
  fits : d.occurence * 60 < 2 ^ 32

namespace Periodic

variable {d : GameEventData R} {t u : Int}

section

variable (h : Periodic d)
include h

theorem seconds_eq : seconds d.length = d.length * 60 ∧ seconds d.occurence = d.occurence * 60 := by
  have := h.fits
  have := h.le
  unfold seconds
  omega

theorem emod_range (x : Int) : 0 ≤ x % seconds d.occurence ∧ x % seconds d.occurence < seconds d.occurence := by
  have := h.seconds_eq
  have := h.pos
  have := h.le
  exact ⟨Int.emod_nonneg _ (by omega), Int.emod_lt_of_pos _ (by omega)⟩

theorem nextCheck_within (hstart : d.start ≤ t) (hend : t ≤ d.endTime) :
    (nextCheck d t : Int) = min (d.endTime - t)
      ((if (t - d.start) % seconds d.occurence < seconds d.length then seconds d.length else seconds d.occurence) -
        (t - d.start) % seconds d.occurence) := by
  obtain ⟨hlength, hoccurence⟩ := h.seconds_eq
  have hfits := h.fits
  have hle := h.le
  obtain ⟨hlow, hhigh⟩ := h.emod_range (t - d.start)
  unfold nextCheck
  simp only [h.normal, reduceCtorEq, false_or, false_and, if_false]
  rw [if_neg (by omega), if_neg (by omega), Int.tmod_eq_emod_of_nonneg (by omega)]
  rw [clip _ _ hend]
  all_goals split <;> omega

theorem nextCheck_before (hstart : t < d.start) : (nextCheck d t : Int) ≤ d.start - t := by
  have hlt := h.starts
  unfold nextCheck
  simp only [h.normal, reduceCtorEq, false_or, false_and, if_false]
  rw [if_neg (by omega), if_pos hstart, toUInt32]
  omega

theorem steady (ht : t ≠ d.start) (hu : t ≤ u) (hnext : u < t + nextCheck d t) :
    d.activeAt u ↔ d.activeAt t := by
  unfold GameEventData.activeAt
  rcases Int.lt_or_lt_of_ne ht with hbefore | hafter
  · have := h.nextCheck_before hbefore
    exact ⟨fun h => by omega, fun h => by omega⟩
  · by_cases hend : d.endTime < t
    · exact ⟨fun h => by omega, fun h => by omega⟩
    · have hcheck := h.nextCheck_within (le_of_lt hafter) (not_lt.1 hend)
      obtain ⟨hlow, hhigh⟩ := h.emod_range (t - d.start)
      have hsame : (u - d.start) % seconds d.occurence = (t - d.start) % seconds d.occurence + (u - t) := by
        have hle := h.le
        have hseconds := h.seconds_eq
        rw [← emod_add_of_lt (by omega) hlow]
        · congr 1
          omega
        · split at hcheck <;> omega
      split at hcheck <;> constructor <;> rintro ⟨h₁, h₂, h₃⟩ <;> refine ⟨?_, ?_, ?_⟩ <;> omega

theorem not_steady (hend : d.endTime ≠ d.start + 1) :
    d.start + 1 < d.start + nextCheck d d.start ∧ d.activeAt (d.start + 1) ∧ ¬ d.activeAt d.start := by
  obtain ⟨hlength, hoccurence⟩ := h.seconds_eq
  have hpos := h.pos
  have hle := h.le
  have hstarts := h.starts
  have hcheck := h.nextCheck_within (le_refl _) (le_of_lt hstarts)
  rw [sub_self, Int.zero_emod] at hcheck
  refine ⟨by omega, ⟨by omega, by omega, ?_⟩, fun hactive => lt_irrefl _ hactive.1⟩
  rw [Int.emod_eq_of_lt (by omega) (by omega)]
  omega

theorem start_le_opens (m : Nat) : d.start + m * seconds d.occurence ≤ opens d m ∧
    d.start < opens d m ∧ 60 ≤ seconds d.length ∧ seconds d.length ≤ seconds d.occurence := by
  have hseconds := h.seconds_eq
  have hpos := h.pos
  have hle := h.le
  unfold opens
  split
  · next hm =>
    have : (m : Int) * seconds d.occurence = 0 := by rw [hm, Int.natCast_zero, zero_mul]
    omega
  · next hm =>
    have : (1 : Int) * seconds d.occurence ≤ m * seconds d.occurence :=
      mul_le_mul_of_nonneg_right (by omega) (by omega)
    omega

theorem nextCheck_le_opens (ht : t ≠ d.start) {m : Nat} (hlt : t < opens d m)
    (hend : opens d m < d.endTime) : t + nextCheck d t + (if m = 0 then 1 else 0) ≤ opens d m := by
  obtain ⟨hopen, hstart, hlength, hle⟩ := h.start_le_opens m
  rcases Int.lt_or_lt_of_ne ht with hbefore | hafter
  · have := h.nextCheck_before hbefore
    split <;> omega
  · have hm : m ≠ 0 := fun hzero => by
      unfold opens at hlt
      rw [hzero] at hlt
      omega
    have hcheck := h.nextCheck_within (le_of_lt hafter) (by omega)
    -- a whole number of periods is left from the start of this period to the occurrence
    have hperiods := Int.mul_ediv_add_emod (t - d.start) (seconds d.occurence)
    have hopens : opens d m = d.start + seconds d.occurence * m := by
      rw [opens, if_neg hm, add_zero, mul_comm]
    have hquot : (t - d.start) / seconds d.occurence < m :=
      Int.ediv_lt_of_lt_mul (by omega) (by rw [mul_comm]; omega)
    have hmul : seconds d.occurence * ((t - d.start) / seconds d.occurence + 1) ≤ seconds d.occurence * m :=
      mul_le_mul_of_nonneg_left hquot (by omega)
    rw [mul_add] at hmul
    split at hcheck <;> omega

theorem activeAt_opens_succ (m : Nat) (hend : opens d m + 1 < d.endTime) : d.activeAt (opens d m + 1) := by
  obtain ⟨-, hstart, hlength, hle⟩ := h.start_le_opens m
  refine ⟨by omega, hend, ?_⟩
  have hsplit : opens d m + 1 - d.start = (1 + if m = 0 then 1 else 0) + seconds d.occurence * m := by
    rw [opens, mul_comm]
    omega
  rw [hsplit, Int.add_mul_emod_self_left, Int.emod_eq_of_lt] <;> split <;> omega

theorem seen {update : Nat → Int} (hup : Timetable d update) (hregular : Regular d update)
    {m : Nat} (h₀ : update 0 ≤ opens d m) (hopen : d.activeAt (opens d m)) :
    ∃ n, opens d m ≤ update n ∧ update n ≤ opens d m + 1 ∧ d.activeAt (update n) := by
  obtain ⟨n, hle, hlt⟩ := exists_last (fun n => (hup n).1) h₀
  obtain ⟨hstart, hend, -⟩ := id hopen
  by_cases heq : update n = opens d m
  · exact ⟨n, by omega, by omega, heq ▸ hopen⟩
  · have hne : update n ≠ d.start := fun hat => by
      have := hregular.1 n hat
      omega
    have hnext := h.nextCheck_le_opens hne (by omega) hend
    have hlast := (hup n).2
    have hm : m ≠ 0 := fun hzero => by
      omega
    have hafter : update (n + 1) = opens d m + 1 := by omega
    have := hregular.2 m hm
    exact ⟨n + 1, by omega, by omega, hafter ▸ h.activeAt_opens_succ m (by omega)⟩

theorem stops {update : Nat → Int} (hup : Timetable d update) {n : Nat} {x : Int}
    (hactive : d.activeAt (update n)) (hle : update n ≤ x) (hlt : x < update (n + 1)) :
    d.activeAt x ∨ d.activeAt (x - 1) := by
  have hne : update n ≠ d.start := fun hstart => by
    have := hactive.1
    omega
  have hnext := (hup n).2
  by_cases hx : x < update n + nextCheck d (update n)
  · exact .inl ((h.steady hne hle hx).2 hactive)
  · by_cases heq : x = update n
    · exact .inl (heq ▸ hactive)
    · exact .inr ((h.steady hne (by omega) (by omega)).2 hactive)

end

end Periodic

/-- What the scheduler promises of an event: up to the next check nothing changes, every occurrence is seen by an
update, and none is active more than two seconds behind its window. -/
structure Scheduled (w : World R) (e : Nat) (update : Nat → Int) : Prop where
  steady : ∀ n u, update n ≤ u → u < update n + nextCheck (w.event e) (update n) →
    checkOneGameEvent w u e = checkOneGameEvent w (update n) e
  seen : ∀ m, update 0 ≤ opens (w.event e) m → checkOneGameEvent w (opens (w.event e) m) e = true →
    ∃ n, opens (w.event e) m ≤ update n ∧ update n ≤ opens (w.event e) m + 1 ∧
      checkOneGameEvent w (update n) e = true
  stops : ∀ n x, checkOneGameEvent w (update n) e = true → update n ≤ x → x < update (n + 1) →
    checkOneGameEvent w x e = true ∨ checkOneGameEvent w (x - 1) e = true

/-- **The scheduler sleeps through no change**, unless an update is at the start of the event itself: at such a
time, and at no other, `CheckOneGameEvent` changes before the next check. The updates of a run keep what they
promise if none of them is there and the event does not end with the first second of a later occurrence. -/
theorem scheduled_iff (w : World R) (e : Nat) (h : Periodic (w.event e)) :
    (∀ t, (∀ u, t ≤ u → u < t + nextCheck (w.event e) t → checkOneGameEvent w u e = checkOneGameEvent w t e) ↔
      (t = (w.event e).start → (w.event e).endTime = (w.event e).start + 1)) ∧
    ∀ update, Timetable (w.event e) update → Regular (w.event e) update → Scheduled w e update := by
  have hactive (t : Int) : checkOneGameEvent w t e = true ↔ (w.event e).activeAt t :=
    checkOneGameEvent_iff h.normal
  have hsteady : ∀ t, (∀ u, t ≤ u → u < t + nextCheck (w.event e) t →
      checkOneGameEvent w u e = checkOneGameEvent w t e) ↔
      (t = (w.event e).start → (w.event e).endTime = (w.event e).start + 1) := by
    intro t
    constructor
    · intro hsame hstart
      subst hstart
      by_contra hend
      obtain ⟨hlt, hthen, hnow⟩ := h.not_steady hend
      rw [← hactive, hsame _ (by omega) hlt, hactive] at hthen
      exact hnow hthen
    · intro hstart u hle hlt
      rw [Bool.eq_iff_iff, hactive, hactive]
      by_cases heq : t = (w.event e).start
      · -- the event is over after its first second
        have hcheck := h.nextCheck_within (t := t) (by omega) (by omega)
        obtain rfl : u = t := by omega
        exact Iff.rfl
      · exact h.steady heq hle hlt
  refine ⟨hsteady, fun update hup hregular => ⟨fun n => (hsteady (update n)).2 (hregular.1 n), ?_, ?_⟩⟩
  · intro m h₀ hopen
    simp only [hactive] at hopen ⊢
    exact h.seen hup hregular h₀ hopen
  · intro n x hn hle hlt
    rw [hactive] at hn
    rw [hactive, hactive]
    exact h.stops hup hn hle hlt

def everyTwoMinutes : World Nat where
  event := fun _ => { start := 0, endTime := 10000, length := 1, occurence := 2 }

theorem everyTwoMinutes_periodic : Periodic (everyTwoMinutes.event 1) :=
  ⟨rfl, by decide, by decide, by decide, by decide⟩

/-- Updates one second behind the next check, as late as the world lets them be. -/
def lateUpdates (d : GameEventData R) : Nat → Int
  | 0 => d.start + 1
  | n + 1 => lateUpdates d n + nextCheck d (lateUpdates d n) + 1

theorem lateUpdates_timetable (d : GameEventData R) : Timetable d (lateUpdates d) := fun n => by
  rw [lateUpdates]
  omega

theorem start_lt_lateUpdates (d : GameEventData R) (n : Nat) : d.start < lateUpdates d n := by
  induction n with
  | zero => exact lt_add_one d.start
  | succ n ih => exact lt_trans ih (lateUpdates_timetable d n).1

theorem scheduled_iff_late : Scheduled everyTwoMinutes 1 (lateUpdates (everyTwoMinutes.event 1)) := by
  refine (scheduled_iff everyTwoMinutes 1 everyTwoMinutes_periodic).2 _ (lateUpdates_timetable _)
    ⟨fun n hn => absurd hn (start_lt_lateUpdates _ n).ne', fun m hm h => ?_⟩
  rw [opens, if_neg hm] at h
  change (10000 : Int) = 0 + m * 120 + 0 + 1 at h
  omega

/-- At its start the event is inactive, for one second, and the next check is a minute away. -/
theorem not_steady_at_start : nextCheck (everyTwoMinutes.event 1) 0 = 60 ∧
    checkOneGameEvent everyTwoMinutes 0 1 = false ∧ checkOneGameEvent everyTwoMinutes 1 1 = true ∧
    checkOneGameEvent everyTwoMinutes 59 1 = true ∧ checkOneGameEvent everyTwoMinutes 61 1 = false := by
  decide

/-! ## Overrides -/

/-- What a command to start and a command to stop the event at `now` promise: it is active for its length, up to
its end if that is still to come, and inactive up to the next occurrence. -/
structure TakesEffect [Zero R] [Add R] [LT R] [DecidableLT R] (w : World R) (now : Int) (e : Nat) : Prop where
  -- the check does not divide by zero
  divides : seconds (w.event e).occurence ≠ 0
  starts : ∀ t, now < t → t < now + (w.event e).length * 60 →
    (now < (w.event e).endTime → t < (w.event e).endTime) →
    checkOneGameEvent (startEvent now true e w).1 t e = true
  stops : ∀ t, now ≤ t → t < now + ((w.event e).occurence - (w.event e).length) * 60 →
    checkOneGameEvent (stopEvent now true e w) t e = false

/-- The end has not come, and the products that fit into 32 bits are not less than the windows in question. -/
def Effective (d : GameEventData R) (now : Int) : Prop :=
  seconds d.occurence ≠ 0 ∧
  (now < d.endTime ∧ (seconds d.occurence ≤ seconds d.length ∨
    min (d.length * 60 : Int) (d.endTime - now) ≤ max (seconds d.length) 1)) ∧
  let span := min ((d.occurence - d.length : Int) * 60) ((d.setStart (now - seconds d.length)).endTime - now)
  span ≤ 0 ∨ seconds d.length = 0 ∨ seconds d.length < seconds d.occurence ∧
    span ≤ seconds d.occurence - seconds d.length

instance (d : GameEventData R) (now : Int) : Decidable (Effective d now) := inferInstanceAs (Decidable (_ ∧ _ ∧ _))

theorem forall_in_window {l p m : Int} (hl : 0 ≤ l) (hp : 0 < p) :
    (∀ x, 0 < x → x < m → x % p < l) ↔ p ≤ l ∨ m ≤ max l 1 := by
  constructor
  · intro h
    by_contra hnot
    have hin := h (max l 1) (by omega) (by omega)
    by_cases hzero : l = 0
    · have := Int.emod_nonneg (max l 1) (ne_of_gt hp)
      omega
    · rw [max_eq_left (by omega), Int.emod_eq_of_lt hl (by omega)] at hin
      omega
  · rintro (hle | hle) x hx hlt
    · have := Int.emod_lt_of_pos x hp
      omega
    · by_cases hlp : p ≤ x
      · have := Int.emod_lt_of_pos x hp
        omega
      · rw [Int.emod_eq_of_lt (by omega) (by omega)]
        omega

theorem forall_not_in_window {l p m : Int} (hl : 0 ≤ l) (hp : 0 < p) :
    (∀ x, 0 ≤ x → x < m → ¬ (0 < x + l ∧ (x + l) % p < l)) ↔ m ≤ 0 ∨ l = 0 ∨ (l < p ∧ m ≤ p - l) := by
  constructor
  · intro h
    by_contra hnot
    by_cases hlp : l < p
    · refine h (p - l) (by omega) (by omega) ⟨by omega, ?_⟩
      rw [sub_add_cancel, Int.emod_self]
      omega
    · have := Int.emod_lt_of_pos (0 + l) hp
      exact h 0 (by omega) (by omega) ⟨by omega, by omega⟩
  · rintro (hm | hzero | ⟨hlp, hm⟩) x hx hlt ⟨hpos, hin⟩
    · omega
    · have := Int.emod_nonneg (x + l) (ne_of_gt hp)
      omega
    · rw [Int.emod_eq_of_lt (by omega) (by omega)] at hin
      omega

theorem seconds_nonneg (minutes : Nat) : 0 ≤ seconds minutes := Int.natCast_nonneg _

theorem starts_iff (d : GameEventData R) (now : Int) (hpos : 0 < d.length) (hp : 0 < seconds d.occurence) :
    (∀ t, now < t → t < now + d.length * 60 → (now < d.endTime → t < d.endTime) →
      (d.setStart now).activeAt t) ↔
    now < d.endTime ∧ (seconds d.occurence ≤ seconds d.length ∨
      min (d.length * 60 : Int) (d.endTime - now) ≤ max (seconds d.length) 1) := by
  have hend : (d.setStart now).endTime = if d.endTime ≤ now then now + d.length else d.endTime := rfl
  rw [← forall_in_window (seconds_nonneg _) hp]
  constructor
  · intro h
    have hcome : now < d.endTime := by
      by_contra hover
      -- the length in minutes is added to the seconds
      have hactive := h (now + d.length) (by omega) (by omega) (by omega)
      have := hactive.2.1
      omega
    refine ⟨hcome, fun x hx hm => ?_⟩
    have hin := (h (now + x) (by omega) (by omega) (by omega)).2.2
    change (now + x - now) % seconds d.occurence < _ at hin
    rwa [add_sub_cancel_left] at hin
  · rintro ⟨hcome, h⟩ t ht hlt hbefore
    exact ⟨ht, by omega, h (t - now) (by omega) (by omega)⟩

theorem stops_iff (d : GameEventData R) (now : Int) (hp : 0 < seconds d.occurence) :
    (∀ t, now ≤ t → t < now + (d.occurence - d.length) * 60 →
      ¬ (d.setStart (now - seconds d.length)).activeAt t) ↔
    let span := min ((d.occurence - d.length : Int) * 60) ((d.setStart (now - seconds d.length)).endTime - now)
    span ≤ 0 ∨ seconds d.length = 0 ∨ seconds d.length < seconds d.occurence ∧
      span ≤ seconds d.occurence - seconds d.length := by
  rw [← forall_not_in_window (seconds_nonneg _) hp]
  have hactive (x : Int) : (d.setStart (now - seconds d.length)).activeAt (now + x) ↔
      0 < x + seconds d.length ∧ now + x < (d.setStart (now - seconds d.length)).endTime ∧
        (x + seconds d.length) % seconds d.occurence < seconds d.length := by
    have hpassed : now + x - (now - seconds d.length) = x + seconds d.length := by omega
    change now - seconds d.length < now + x ∧ _ ∧ (now + x - (now - seconds d.length)) % _ < _ ↔ _
    rw [hpassed]
    exact and_congr_left fun _ => by omega
  constructor
  · rintro h x hx hm ⟨hpos, hin⟩
    exact h (now + x) (by omega) (by omega) ((hactive x).2 ⟨hpos, by omega, hin⟩)
  · intro h t ht hlt hat
    have heq : t = now + (t - now) := by omega
    rw [heq, hactive] at hat
    exact h (t - now) (by omega) (by omega) ⟨hat.1, hat.2.2⟩

section
variable [Zero R] [Add R] [LT R] [DecidableLT R]

/-- **Commands take effect** if and only if the end of the event is still to come, as far as the length and the
period in seconds fit into 32 bits. -/
theorem takesEffect_iff (w : World R) (now : Int) (e : Nat) (h : (w.event e).state = .normal)
    (hpos : 0 < (w.event e).length) : TakesEffect w now e ↔ Effective (w.event e) now := by
  have hstart : (startEvent now true e w).1.event e = (w.event e).setStart now := by
    unfold startEvent
    simp [h, GameEventState.serverwide, World.setEvent, World.setActive]
  have hstop : (stopEvent now true e w).event e = (w.event e).setStart (now - seconds (w.event e).length) := by
    unfold stopEvent
    simp [h, GameEventState.serverwide, World.setEvent, World.setActive]
  have hstarts (t : Int) : checkOneGameEvent (startEvent now true e w).1 t e = true ↔
      ((w.event e).setStart now).activeAt t := by rw [checkOneGameEvent_iff (hstart ▸ h), hstart]
  have hstops (t : Int) : checkOneGameEvent (stopEvent now true e w) t e = false ↔
      ¬ ((w.event e).setStart (now - seconds (w.event e).length)).activeAt t := by
    rw [← Bool.not_eq_true, checkOneGameEvent_iff (hstop ▸ h), hstop]
  have hp : seconds (w.event e).occurence ≠ 0 → 0 < seconds (w.event e).occurence := fun hne =>
    lt_of_le_of_ne (seconds_nonneg _) (Ne.symm hne)
  constructor
  · rintro ⟨hne, hon, hoff⟩
    simp only [hstarts, hstops] at hon hoff
    exact ⟨hne, (starts_iff _ now hpos (hp hne)).1 hon, (stops_iff _ now (hp hne)).1 hoff⟩
  · rintro ⟨hne, hon, hoff⟩
    refine ⟨hne, ?_, ?_⟩
    · simp only [hstarts]
      exact (starts_iff _ now hpos (hp hne)).2 hon
    · simp only [hstops]
      exact (stops_iff _ now (hp hne)).2 hoff

end

theorem takesEffect_iff_middle : TakesEffect everyTwoMinutes 5000 1 :=
  (takesEffect_iff everyTwoMinutes 5000 1 rfl (by decide)).2 (by decide)

/-- An event that is over is started, and no update finds it active. -/
theorem not_started_when_over : (everyTwoMinutes.event 1).endTime < 20000 ∧
    checkOneGameEvent (startEvent 20000 true 1 everyTwoMinutes).1 20001 1 = false := by
  decide

end Axium.GameEvents
