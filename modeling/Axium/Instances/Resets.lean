import Axium.Instances.InstanceSaveMgr
import Mathlib.Tactic.IntervalCases

/-!
# Turns of `Update`

What one turn of the loop can do (`Turn`), and what it keeps: the queue holds for each map and difficulty what it
should (`Good`), and a map and difficulty goes through its schedule place by place (`OnTrack`).

The time that a warning tells is `now - resetTime` instead of `resetTime - now` (`timeLeft_eq_iff`).
-/

namespace Axium.Instances

open List Function InstanceSaveManager Multimap

structure Tables.WellFormed (t : Tables) : Prop where
  hour : t.resetTimeHour < 24
  whole : ∀ x ∈ t.difficulties, x.2.resetTime ≠ 0 → DAY ∣ x.2.period

variable {t : Tables} {s s' : InstanceSaveManager} {A : MapDiff} {d : MapDifficulty} {c : Int × Moment}
  {time now : Int} {event : InstResetEvent} {rest : List (Int × InstResetEvent)}

/-! ## Times -/

theorem MapDifficulty.day_le_period (d : MapDifficulty) : DAY ≤ d.period := by
  unfold period
  split
  · exact le_rfl
  · omega

theorem Tables.WellFormed.diff_eq (ht : t.WellFormed) : t.diff = t.resetTimeHour * HOUR := by
  have := ht.hour
  unfold diff HOUR
  omega

theorem Tables.WellFormed.diff_range (ht : t.WellFormed) : 0 ≤ t.diff ∧ t.diff + MINUTE < DAY := by
  have := ht.hour
  rw [ht.diff_eq]
  unfold HOUR MINUTE DAY
  omega

def OnHour (t : Tables) (time : Int) : Prop := 0 ≤ time ∧ time % DAY = t.diff

theorem mapDifficulty_of_mem (hmem : (A, d) ∈ t.difficulties) : t.mapDifficulty A = some d := by
  have hfind : ∀ l : List (MapDiff × MapDifficulty), (l.map Prod.fst).Nodup → (A, d) ∈ l →
      (l.find? (·.1 = A)).map Prod.snd = some d := by
    intro l hnodup hmem
    induction l with
    | nil => exact absurd hmem not_mem_nil
    | cons x l ih =>
      obtain ⟨hx, hnodup⟩ := nodup_cons.1 hnodup
      rcases mem_cons.1 hmem with rfl | hmem
      · rw [find?_cons_of_pos (by simp)]
        rfl
      · have hne : x.1 ≠ A := fun heq => hx (heq ▸ mem_map_of_mem hmem)
        rw [find?_cons_of_neg (by simpa using hne)]
        exact ih hnodup hmem
  exact hfind t.difficulties t.nodup hmem

theorem mem_of_mapDifficulty (h : t.mapDifficulty A = some d) : (A, d) ∈ t.difficulties := by
  obtain ⟨⟨B, d'⟩, hfind, rfl⟩ := Option.map_eq_some_iff.1 h
  have hB : B = A := by simpa using find?_some hfind
  exact hB ▸ mem_of_find?_eq_some hfind

theorem nextReset_eq (ht : t.WellFormed) (htime : OnHour t time) (hfits : time + d.period < 2 ^ 32) :
    nextReset t d time = time + d.period := by
  obtain ⟨hnonneg, hhour⟩ := htime
  have hrange := ht.diff_range
  have hperiod := d.day_le_period
  have hfloor : (time + MINUTE) / DAY * DAY = time - t.diff := by
    unfold MINUTE DAY at *
    omega
  unfold nextReset
  unfold DAY at hperiod
  omega

theorem OnHour.add_period (ht : t.WellFormed) (hmem : (A, d) ∈ t.difficulties) (hd : d.resetTime ≠ 0)
    (htime : OnHour t time) : OnHour t (time + d.period) := by
  have hperiod := d.day_le_period
  obtain ⟨k, hk⟩ := ht.whole _ hmem hd
  refine ⟨?_, ?_⟩
  · have hnonneg := htime.1
    unfold DAY at hperiod
    omega
  · rw [hk, Int.add_mul_emod_self_left]
    exact htime.2

/-! ## A turn -/

/-- What is in the queue for a map and difficulty: a warning or a reset, not later than it should be. -/
structure Global (t : Tables) (s : InstanceSaveManager) (x : Int × InstResetEvent) : Prop where
  type : 1 ≤ x.2.type ∧ x.2.type ≤ 4
  inTime : x.1 ≤ s.resetTime x.2.mapDiff - resetTimeDelay x.2.type
  onHour : OnHour t (s.resetTime x.2.mapDiff)
  period : ∃ d, t.mapDifficulty x.2.mapDiff = some d ∧ d.resetTime ≠ 0

/-- The queue is sorted, and holds events of single instances and of maps with a period. -/
structure Good (t : Tables) (s : InstanceSaveManager) : Prop where
  sorted : Multimap.Sorted s.queue
  events : ∀ x ∈ s.queue, x.2.type = 0 ∨ Global t s x

def NoWrap (t : Tables) (s : InstanceSaveManager) (c : Int × Moment) : Prop :=
  ∀ x ∈ s.queue.head?, x.1 < c.1 → x.2.type = 4 → ∀ d ∈ t.mapDifficulty x.2.mapDiff,
    s.resetTime x.2.mapDiff + d.period < 2 ^ 32

instance : Decidable (NoWrap t s c) := inferInstanceAs (Decidable (∀ _ ∈ _, _))

def sent (m : Moment) (resetTime : Int) : List Nat := (m.instMaps.filter id).map fun _ => timeLeft m.clock resetTime

def InstResetEvent.later (event : InstResetEvent) : InstResetEvent := { event with type := event.type + 1 }

inductive Turn (t : Tables) (s : InstanceSaveManager) (c : Int × Moment) : InstanceSaveManager → Prop where
  | idle (h : ∀ x ∈ s.queue, c.1 ≤ x.1) : Turn t s c s
  | instance {time : Int} {event : InstResetEvent} {rest : List (Int × InstResetEvent)}
      (h : s.queue = (time, event) :: rest) (hdue : time < c.1) (htype : event.type = 0) :
      Turn t s c ((s.produce (.resetInstance event.mapDiff.mapid event.instanceId)).setQueue rest)
  | warning {time : Int} {event : InstResetEvent} {rest : List (Int × InstResetEvent)}
      (h : s.queue = (time, event) :: rest) (hdue : time < c.1) (htype : 1 ≤ event.type ∧ event.type ≤ 3)
      (hlater : time < s.resetTime event.mapDiff - resetTimeDelay event.later.type) :
      Turn t s c ((if t.instanceable event.mapDiff.mapid then
          s.produce (.warned event.mapDiff (resetTimeDelay event.type) (s.resetTime event.mapDiff) c.2.clock
            (sent c.2 (s.resetTime event.mapDiff)))
        else s).setQueue (insert (s.resetTime event.mapDiff - resetTimeDelay event.later.type)
          event.later rest))
  | reset {time : Int} {event : InstResetEvent} {rest : List (Int × InstResetEvent)} {d : MapDifficulty}
      (h : s.queue = (time, event) :: rest) (hdue : time < c.1) (htype : event.type = 4)
      (hin : t.instanceable event.mapDiff.mapid = true) (hd : t.mapDifficulty event.mapDiff = some d)
      (hreset : d.resetTime ≠ 0) (hlater : time < s.resetTime event.mapDiff + d.period - 3600) :
      Turn t s c (((s.setResetTimeFor event.mapDiff (s.resetTime event.mapDiff + d.period)).produce
        (.reset event.mapDiff (s.resetTime event.mapDiff) (s.resetTime event.mapDiff + d.period))).setQueue
          (insert (s.resetTime event.mapDiff + d.period - 3600) ⟨1, event.mapDiff, 0⟩ rest))
  | dropped {time : Int} {event : InstResetEvent} {rest : List (Int × InstResetEvent)}
      (h : s.queue = (time, event) :: rest) (hdue : time < c.1) (htype : event.type = 4)
      (hin : t.instanceable event.mapDiff.mapid = false) : Turn t s c (s.setQueue rest)

theorem resetTimeDelay_lt {k : Nat} (h : 1 ≤ k ∧ k ≤ 3) : resetTimeDelay (k + 1) < resetTimeDelay k := by
  obtain ⟨h₁, h₃⟩ := h
  interval_cases k <;> decide

section Reset
variable (m : Moment) (lead : Int)

theorem resetOrWarnAll_warn : s.resetOrWarnAll t m A lead true time =
    if t.instanceable A.mapid then s.produce (.warned A lead time m.clock (sent m time)) else s := by
  unfold resetOrWarnAll sent
  cases t.instanceable A.mapid <;> rfl

theorem resetOrWarnAll_reset (hin : t.instanceable A.mapid = true) (hd : t.mapDifficulty A = some d)
    (hreset : d.resetTime ≠ 0) : s.resetOrWarnAll t m A lead false time =
    ((s.setResetTimeFor A (nextReset t d time)).scheduleReset true ((nextReset t d time - 3600) % 2 ^ 32)
      ⟨1, A, 0⟩).produce (.reset A time (nextReset t d time)) := by
  unfold resetOrWarnAll
  rw [hin, hd]
  exact if_neg hreset

theorem resetOrWarnAll_dropped {warn : Bool} (hin : t.instanceable A.mapid = false) :
    s.resetOrWarnAll t m A lead warn time = s := by
  unfold resetOrWarnAll
  rw [hin]
  rfl

end Reset

theorem tail_insert (hqueue : s.queue = (time, event) :: rest) {time' : Int} (hle : time ≤ time')
    (event' : InstResetEvent) : (insert time' event' s.queue).tail = insert time' event' rest := by
  rw [hqueue, insert_cons_of_le hle, tail_cons]

theorem putOff (hqueue : s.queue = (time, event) :: rest) {time' : Int} (hle : time ≤ time')
    (event' : InstResetEvent) : ((s.setFront event').scheduleReset true time' event').eraseFront =
      s.setQueue (insert time' event' rest) := by
  have hfront : (s.setFront event').queue = (time, event') :: rest := congrArg (List.modifyHead _) hqueue
  exact congrArg s.setQueue (tail_insert hfront hle event')

theorem turn_spec (ht : t.WellFormed) (h : Good t s) (hfits : NoWrap t s c) : Turn t s c (s.turn t c) := by
  unfold turn
  cases hqueue : s.queue with
  | nil => exact .idle (by rw [hqueue]; nofun)
  | cons x rest =>
    obtain ⟨time, event⟩ := x
    dsimp only
    by_cases hdue : c.1 ≤ time
    · rw [if_pos hdue]
      refine .idle fun y hy => hdue.trans ?_
      have hsorted := h.sorted
      rw [hqueue] at hy hsorted
      rcases mem_cons.1 hy with rfl | hy
      · exact le_rfl
      · exact (pairwise_cons.1 hsorted).1 y hy
    rw [if_neg hdue]
    have hdue := not_le.1 hdue
    by_cases hzero : event.type = 0
    · rw [if_pos hzero]
      have heq : (s.produce (.resetInstance event.mapDiff.mapid event.instanceId)).eraseFront =
          (s.produce (.resetInstance event.mapDiff.mapid event.instanceId)).setQueue rest :=
        congrArg _ (congrArg List.tail hqueue)
      rw [heq]
      exact .instance hqueue hdue hzero
    rw [if_neg hzero]
    have hglobal := (h.events _ (hqueue ▸ mem_cons_self)).resolve_left hzero
    obtain ⟨⟨hpos, hle⟩, hintime, honhour, d, hd, hreset⟩ := hglobal
    dsimp only at hpos hle hintime honhour hd
    by_cases hfour : event.type = 4
    · rw [if_neg (not_not.2 hfour), decide_eq_false (not_not.2 hfour)]
      cases hin : t.instanceable event.mapDiff.mapid with
      | false =>
        have heq : s.eraseFront = s.setQueue rest := congrArg s.setQueue (congrArg List.tail hqueue)
        rw [resetOrWarnAll_dropped _ _ hin, heq]
        exact .dropped hqueue hdue hfour hin
      | true =>
        have hwrap : s.resetTime event.mapDiff + d.period < 2 ^ 32 :=
          hfits (time, event) (by rw [hqueue]; rfl) hdue hfour d hd
        have hnext := nextReset_eq ht honhour hwrap
        have hday := d.day_le_period
        have hnonneg := honhour.1
        have hintime : time ≤ s.resetTime event.mapDiff - 60 := by
          rw [hfour] at hintime
          exact hintime
        have hlater : time < s.resetTime event.mapDiff + d.period - 3600 := by
          unfold DAY at hday
          omega
        have hmod : (s.resetTime event.mapDiff + d.period - 3600) % 2 ^ 32 =
            s.resetTime event.mapDiff + d.period - 3600 := by
          unfold DAY at hday
          omega
        rw [resetOrWarnAll_reset _ _ hin hd hreset, hnext, hmod]
        have heq := tail_insert hqueue hlater.le ⟨1, event.mapDiff, 0⟩
        have hturn := Turn.reset hqueue hdue hfour hin hd hreset hlater
        rw [← heq] at hturn
        exact hturn
    · have htype : 1 ≤ event.type ∧ event.type ≤ 3 := by omega
      have hdelay := resetTimeDelay_lt htype
      have hlater : time < s.resetTime event.mapDiff - resetTimeDelay event.later.type := by
        unfold InstResetEvent.later
        dsimp only
        omega
      have hmod : (event.type + 1) % 2 ^ 8 = event.type + 1 := Nat.mod_eq_of_lt (by omega)
      rw [if_pos hfour, decide_eq_true hfour, resetOrWarnAll_warn, hmod]
      obtain ⟨s₁, hs₁⟩ : ∃ s₁, (if t.instanceable event.mapDiff.mapid = true then
          s.produce (.warned event.mapDiff (resetTimeDelay event.type) (s.resetTime event.mapDiff) c.2.clock
            (sent c.2 (s.resetTime event.mapDiff))) else s) = s₁ := ⟨_, rfl⟩
      have hqueue₁ : s₁.queue = (time, event) :: rest := by
        rw [← hs₁]
        split
        · exact hqueue
        · exact hqueue
      have hturn := Turn.warning (t := t) hqueue hdue htype hlater
      rw [hs₁, ← putOff hqueue₁ hlater.le] at hturn
      rw [hs₁]
      exact hturn

theorem Good.behind (h : Good t s) (hqueue : s.queue = (time, event) :: rest)
    (htimes : ∀ B, s.resetTime B ≤ s'.resetTime B ∧ (OnHour t (s.resetTime B) → OnHour t (s'.resetTime B)))
    {q : List (Int × InstResetEvent)} (hq : s'.queue = q) (hsorted : Multimap.Sorted q)
    (hmem : ∀ x ∈ q, x ∈ rest ∨ x.2.type = 0 ∨ Global t s' x) : Good t s' := by
  refine ⟨hq ▸ hsorted, fun x hx => ?_⟩
  rcases hmem x (hq ▸ hx) with hin | hnew
  · refine (h.events x (hqueue ▸ mem_cons_of_mem _ hin)).imp_right fun hx => ?_
    obtain ⟨hle, honhour⟩ := htimes x.2.mapDiff
    exact ⟨hx.type, hx.inTime.trans (sub_le_sub_right hle _), honhour hx.onHour, hx.period⟩
  · exact hnew

theorem Good.turn (ht : t.WellFormed) (h : Good t s) (hturn : Turn t s c s') : Good t s' := by
  have hrest : ∀ {time event rest}, s.queue = (time, event) :: rest → Multimap.Sorted rest := fun hqueue =>
    (pairwise_cons.1 (hqueue ▸ h.sorted)).2
  have hfront : ∀ {time event rest}, s.queue = (time, event) :: rest → event.type ≠ 0 →
      Global t s (time, event) := fun hqueue hne => (h.events _ (hqueue ▸ mem_cons_self)).resolve_left hne
  cases hturn with
  | idle => exact h
  | «instance» hqueue => exact h.behind hqueue (fun _ => ⟨le_rfl, id⟩) rfl (hrest hqueue) fun x hx => .inl hx
  | dropped hqueue => exact h.behind hqueue (fun _ => ⟨le_rfl, id⟩) rfl (hrest hqueue) fun x hx => .inl hx
  | @warning time event rest hqueue hdue htype hlater =>
    have hglobal := hfront hqueue (by omega)
    have htimes : ∀ (s₁ : InstanceSaveManager), s₁.resetTime = s.resetTime → Good t (s₁.setQueue
        (insert (s.resetTime event.mapDiff - resetTimeDelay event.later.type) event.later rest)) := by
      intro s₁ hs₁
      refine h.behind hqueue (fun B => ?_) rfl ((hrest hqueue).insert ..) fun x hx => ?_
      · have hB : (s₁.setQueue (insert (s.resetTime event.mapDiff - resetTimeDelay event.later.type)
            event.later rest)).resetTime B = s.resetTime B := congrFun hs₁ B
        rw [hB]
        exact ⟨le_rfl, id⟩
      · rcases mem_insert.1 hx with rfl | hx
        · refine .inr (.inr ⟨⟨Nat.le_add_left .., Nat.succ_le_succ htype.2⟩, ?_, ?_, hglobal.period⟩)
          · exact le_of_eq (congrArg (· - _) (congrFun hs₁ _).symm)
          · exact (congrFun hs₁ _).symm ▸ hglobal.onHour
        · exact .inl hx
    split
    · exact htimes _ rfl
    · exact htimes _ rfl
  | @reset time event rest d hqueue hdue htype hin hd hreset hlater =>
    have honhour := (hfront hqueue (by omega)).onHour.add_period ht (mem_of_mapDifficulty hd) hreset
    have hperiod := d.day_le_period
    have hself : update s.resetTime event.mapDiff (s.resetTime event.mapDiff + d.period) event.mapDiff =
        s.resetTime event.mapDiff + d.period := update_self ..
    refine h.behind hqueue (fun B => ?_) rfl ((hrest hqueue).insert ..) fun x hx => ?_
    · change s.resetTime B ≤ update s.resetTime event.mapDiff _ B ∧
        (_ → OnHour t (update s.resetTime event.mapDiff _ B))
      by_cases hB : B = event.mapDiff
      · subst hB
        rw [hself]
        unfold DAY at hperiod
        exact ⟨by omega, fun _ => honhour⟩
      · rw [update_of_ne hB]
        exact ⟨le_rfl, id⟩
    · rcases mem_insert.1 hx with rfl | hx
      · refine .inr (.inr ⟨⟨le_rfl, Nat.le_of_ble_eq_true rfl⟩, ?_, ?_, d, hd, hreset⟩)
        · exact le_of_eq (congrArg (· - 3600) hself.symm)
        · change OnHour t (update s.resetTime event.mapDiff _ event.mapDiff)
          rw [hself]
          exact honhour
      · exact .inl hx

/-! ## The schedule of one map and difficulty -/

/-- What `Update` does about a map and difficulty. -/
inductive Planned where
  | warning (lead resetTime : Int)
  | reset (resetTime next : Int)
  deriving DecidableEq

def Happening.planned (A : MapDiff) : Happening → Option Planned
  | .warned B lead resetTime _ _ => if B = A then some (.warning lead resetTime) else none
  | .reset B resetTime next => if B = A then some (.reset resetTime next) else none
  | .resetInstance _ _ => none

def InstanceSaveManager.planned (s : InstanceSaveManager) (A : MapDiff) : List Planned :=
  s.log.filterMap (Happening.planned A)

def isGlobal (A : MapDiff) (x : Int × InstResetEvent) : Bool := x.2.type ≠ 0 && x.2.mapDiff = A

def InstanceSaveManager.pending (s : InstanceSaveManager) (A : MapDiff) : List (Int × InstResetEvent) :=
  s.queue.filter (isGlobal A)

/-- A place in the schedule: the next event, and the reset time. -/
structure Place where
  stage : Nat
  time : Int

namespace Place
variable (period : Int)

def plan (p : Place) : Planned :=
  if p.stage = 4 then .reset p.time (p.time + period) else .warning (resetTimeDelay p.stage) p.time

def next (p : Place) : Place := if p.stage = 4 then ⟨1, p.time + period⟩ else ⟨p.stage + 1, p.time⟩

def plans : Nat → Place → List Planned
  | 0, _ => []
  | n + 1, p => p.plan period :: plans n (p.next period)

def after : Nat → Place → Place
  | 0, p => p
  | n + 1, p => after n (p.next period)

def entry (A : MapDiff) (p : Place) : Int × InstResetEvent := (p.time - resetTimeDelay p.stage, ⟨p.stage, A, 0⟩)

variable {p : Place}

theorem next_warning (h : p.stage ≠ 4) : p.next period = ⟨p.stage + 1, p.time⟩ := if_neg h

theorem next_reset (h : p.stage = 4) : p.next period = ⟨1, p.time + period⟩ := if_pos h

theorem plan_warning (h : p.stage ≠ 4) : p.plan period = .warning (resetTimeDelay p.stage) p.time := if_neg h

theorem plan_reset (h : p.stage = 4) : p.plan period = .reset p.time (p.time + period) := if_pos h

theorem plans_add : ∀ (m n : Nat) (p : Place),
    plans period (m + n) p = plans period m p ++ plans period n (after period m p)
  | 0, n, p => by rw [zero_add, plans, after, nil_append]
  | m + 1, n, p => by
    rw [add_right_comm, plans, plans, after, cons_append, plans_add m]

theorem after_add : ∀ (m n : Nat) (p : Place), after period (m + n) p = after period n (after period m p)
  | 0, n, p => by rw [zero_add, after]
  | m + 1, n, p => by rw [add_right_comm, after, after, after_add m]

theorem after_succ (n : Nat) (p : Place) : after period (n + 1) p = (after period n p).next period :=
  after_add period n 1 p

theorem plans_succ (n : Nat) (p : Place) :
    plans period (n + 1) p = plans period n p ++ [(after period n p).plan period] := plans_add period n 1 p

end Place

def OnTrack (A : MapDiff) (period : Int) (start : Place) (s : InstanceSaveManager) : Prop :=
  ∃ n, s.planned A = start.plans period n ∧ s.pending A = [(start.after period n).entry A] ∧
    s.resetTime A = (start.after period n).time ∧ 1 ≤ (start.after period n).stage ∧
    (start.after period n).stage ≤ 4

section Track
variable {period : Int} {start : Place}

theorem isGlobal_iff {x : Int × InstResetEvent} : isGlobal A x = true ↔ x.2.type ≠ 0 ∧ x.2.mapDiff = A := by
  simp [isGlobal]

theorem pending_of_other (hqueue : s.queue = (time, event) :: rest) (hother : isGlobal A (time, event) = false) :
    s.pending A = rest.filter (isGlobal A) := by
  unfold pending
  rw [hqueue, filter_cons_of_neg (by simp [hother])]

theorem OnTrack.front (h : OnTrack A period start s) (hqueue : s.queue = (time, event) :: rest)
    (hglobal : isGlobal A (time, event) = true) :
    ∃ n p, start.after period n = p ∧ s.planned A = start.plans period n ∧ event = ⟨p.stage, A, 0⟩ ∧
      rest.filter (isGlobal A) = [] ∧ s.resetTime A = p.time := by
  obtain ⟨n, hplanned, hpending, htime, -⟩ := h
  unfold pending at hpending
  rw [hqueue, filter_cons_of_pos hglobal] at hpending
  obtain ⟨hentry, hrest⟩ := List.cons.inj hpending
  exact ⟨n, _, rfl, hplanned, (Prod.mk.inj hentry).2, hrest, htime⟩

theorem OnTrack.congr (h : OnTrack A period start s) (hplanned : s'.planned A = s.planned A)
    (hpending : s'.pending A = s.pending A) (htime : s'.resetTime A = s.resetTime A) :
    OnTrack A period start s' := by
  unfold OnTrack
  rw [hplanned, hpending, htime]
  exact h

theorem OnTrack.advance {n : Nat} {p : Place} (hp : start.after period n = p)
    (hbefore : s.planned A = start.plans period n) (hplanned : s'.planned A = s.planned A ++ [p.plan period])
    (hpending : s'.pending A = [(p.next period).entry A]) (htime : s'.resetTime A = (p.next period).time)
    (hstage : 1 ≤ (p.next period).stage ∧ (p.next period).stage ≤ 4) : OnTrack A period start s' := by
  subst hp
  refine ⟨n + 1, ?_, ?_⟩
  · rw [hplanned, hbefore, Place.plans_succ]
  · rw [Place.after_succ]
    exact ⟨hpending, htime, hstage⟩

theorem planned_produce (happening : Happening) :
    (s.produce happening).planned A = s.planned A ++ (happening.planned A).toList := by
  unfold planned produce
  cases h : happening.planned A <;> simp [h]

theorem OnTrack.turn (hin : t.instanceable A.mapid = true) (hd : t.mapDifficulty A = some d)
    (h : OnTrack A d.period start s) (hgood : Good t s) (hturn : Turn t s c s') : OnTrack A d.period start s' := by
  have hsorted : ∀ {time event rest}, s.queue = (time, event) :: rest → Multimap.Sorted rest := fun hqueue =>
    (pairwise_cons.1 (hqueue ▸ hgood.sorted)).2
  cases hturn with
  | idle => exact h
  | @«instance» time event rest hqueue hdue htype =>
    have hother : isGlobal A (time, event) = false := by simp [isGlobal, htype]
    refine h.congr ?_ (pending_of_other hqueue hother).symm rfl
    exact (planned_produce ..).trans (append_nil _)
  | @dropped time event rest hqueue hdue htype hout =>
    have hother : isGlobal A (time, event) = false := by
      rw [Bool.eq_false_iff, ne_eq, isGlobal_iff]
      rintro ⟨-, rfl⟩
      exact absurd hout (by simp [hin])
    exact h.congr rfl (pending_of_other hqueue hother).symm rfl
  | @warning time event rest hqueue hdue htype hlater =>
    by_cases hglobal : isGlobal A (time, event) = true
    · obtain ⟨n, p, hp, hplanned, rfl, hrest, htime⟩ := h.front hqueue hglobal
      have hthree : p.stage ≤ 3 := htype.2
      have hfour : p.stage ≠ 4 := by omega
      have hnext := Place.next_warning d.period hfour
      have hplan := Place.plan_warning d.period hfour
      rw [if_pos hin]
      refine .advance hp hplanned ?_ ?_ ?_ ?_
      · rw [hplan, ← htime]
        exact (planned_produce ..).trans (congrArg (s.planned A ++ ·) (congrArg Option.toList (if_pos rfl)))
      · rw [hnext]
        have hlaterGlobal : isGlobal A (s.resetTime A - resetTimeDelay (p.stage + 1), ⟨p.stage + 1, A, 0⟩) = true := by
          simp [isGlobal]
        refine (filter_insert_of_pos (hsorted hqueue) hlaterGlobal).trans ?_
        rw [hrest, htime]
        rfl
      · rw [hnext]
        exact htime
      · rw [hnext]
        exact ⟨Nat.le_add_left .., Nat.succ_le_succ hthree⟩
    · have hpos : event.type ≠ 0 := by omega
      have hne : event.mapDiff ≠ A := fun heq => hglobal (isGlobal_iff.2 ⟨hpos, heq⟩)
      have hother : isGlobal A (time, event) = false := Bool.eq_false_iff.2 hglobal
      have hlaterOther : isGlobal A (s.resetTime event.mapDiff - resetTimeDelay event.later.type, event.later) =
          false := by
        rw [Bool.eq_false_iff, ne_eq, isGlobal_iff]
        exact fun hin => hne hin.2
      refine h.congr ?_ ?_ ?_
      · split
        · exact (planned_produce ..).trans
            ((congrArg (s.planned A ++ ·) (congrArg Option.toList (if_neg hne))).trans (append_nil _))
        · rfl
      · exact (filter_insert_of_neg hlaterOther).trans (pending_of_other hqueue hother).symm
      · split <;> rfl
  | @reset time event rest d' hqueue hdue htype hin' hd' hreset hlater =>
    by_cases hglobal : isGlobal A (time, event) = true
    · obtain ⟨n, p, hp, hplanned, rfl, hrest, htime⟩ := h.front hqueue hglobal
      obtain rfl : d = d' := Option.some.inj (hd.symm.trans hd')
      have hfour : p.stage = 4 := htype
      have hnext := Place.next_reset d.period hfour
      have hplan := Place.plan_reset d.period hfour
      refine .advance hp hplanned ?_ ?_ ?_ ?_
      · rw [hplan, ← htime]
        exact (planned_produce ..).trans (congrArg (s.planned A ++ ·) (congrArg Option.toList (if_pos rfl)))
      · rw [hnext]
        have hnewGlobal : isGlobal A (s.resetTime A + d.period - 3600, ⟨1, A, 0⟩) = true := by simp [isGlobal]
        refine (filter_insert_of_pos (hsorted hqueue) hnewGlobal).trans ?_
        rw [hrest, htime]
        rfl
      · rw [hnext, ← htime]
        exact update_self ..
      · rw [hnext]
        exact ⟨le_rfl, Nat.le_of_ble_eq_true rfl⟩
    · have hpos : event.type ≠ 0 := by omega
      have hne : event.mapDiff ≠ A := fun heq => hglobal (isGlobal_iff.2 ⟨hpos, heq⟩)
      have hother : isGlobal A (time, event) = false := Bool.eq_false_iff.2 hglobal
      have hnewOther : isGlobal A (s.resetTime event.mapDiff + d'.period - 3600, ⟨1, event.mapDiff, 0⟩) =
          false := by
        rw [Bool.eq_false_iff, ne_eq, isGlobal_iff]
        exact fun hin => hne hin.2
      refine h.congr ?_ ?_ ?_
      · exact (planned_produce ..).trans
          ((congrArg (s.planned A ++ ·) (congrArg Option.toList (if_neg hne))).trans (append_nil _))
      · exact (filter_insert_of_neg hnewOther).trans (pending_of_other hqueue hother).symm
      · exact update_of_ne (Ne.symm hne) ..

end Track

/-! ## The log -/

theorem Turn.log {P : Happening → Prop} (hturn : Turn t s c s') (h : ∀ x ∈ s.log, P x)
    (hinstance : ∀ mapid id, P (.resetInstance mapid id))
    (hwarning : ∀ time event, (time, event) ∈ s.queue.head? → time < c.1 → 1 ≤ event.type ∧ event.type ≤ 3 →
      P (.warned event.mapDiff (resetTimeDelay event.type) (s.resetTime event.mapDiff) c.2.clock
        (sent c.2 (s.resetTime event.mapDiff))))
    (hreset : ∀ time event d, (time, event) ∈ s.queue.head? → event.type = 4 →
      t.mapDifficulty event.mapDiff = some d → d.resetTime ≠ 0 →
      P (.reset event.mapDiff (s.resetTime event.mapDiff) (s.resetTime event.mapDiff + d.period))) :
    ∀ x ∈ s'.log, P x := by
  have hhead : ∀ {time event rest}, s.queue = (time, event) :: rest → (time, event) ∈ s.queue.head? := by
    intro time event rest hqueue
    rw [hqueue]
    rfl
  have hproduce : ∀ happening, P happening → ∀ x ∈ (s.produce happening).log, P x := by
    intro happening hnew x hx
    rcases mem_append.1 hx with hx | hx
    · exact h x hx
    · exact mem_singleton.1 hx ▸ hnew
  cases hturn with
  | idle => exact h
  | «instance» hqueue => exact hproduce _ (hinstance ..)
  | dropped hqueue => exact h
  | warning hqueue hdue htype hlater =>
    split
    · exact hproduce _ (hwarning _ _ (hhead hqueue) hdue htype)
    · exact h
  | reset hqueue hdue htype hin hd hreset' hlater =>
    exact hproduce _ (hreset _ _ _ (hhead hqueue) htype hd hreset')

def Renewed (t : Tables) : Happening → Prop
  | .reset _ resetTime next => resetTime < next ∧ next % DAY = t.resetTimeHour * HOUR
  | _ => True

theorem renewed_turn (ht : t.WellFormed) (hgood : Good t s) (hturn : Turn t s c s')
    (h : ∀ x ∈ s.log, Renewed t x) : ∀ x ∈ s'.log, Renewed t x := by
  refine hturn.log h (fun _ _ => trivial) (fun _ _ _ _ _ => trivial) fun time event d hhead htype hd hreset => ?_
  have hglobal := (hgood.events _ (mem_of_mem_head? hhead)).resolve_left (by rw [htype]; decide)
  have honhour := hglobal.onHour.add_period ht (mem_of_mapDifficulty hd) hreset
  have hperiod := d.day_le_period
  unfold DAY at hperiod
  exact ⟨by omega, honhour.2.trans ht.diff_eq⟩

def Told (A : MapDiff) : Happening → Prop
  | .warned B _ resetTime clock sent => B = A → ∀ left ∈ sent, (left : Int) = max (resetTime - clock) 0
  | _ => True

/-- A warning that is sent is processed exactly at the reset time, or a multiple of 2^32 seconds later. -/
def Punctual (A : MapDiff) (s : InstanceSaveManager) (c : Int × Moment) : Prop :=
  ∀ x ∈ s.queue.head?, x.1 < c.1 → 1 ≤ x.2.type ∧ x.2.type ≤ 3 → x.2.mapDiff = A → true ∈ c.2.instMaps →
    s.resetTime A ≤ c.2.clock ∧ 2 ^ 32 ∣ c.2.clock - s.resetTime A

instance : Decidable (Punctual A s c) := inferInstanceAs (Decidable (∀ _ ∈ _, _))

theorem timeLeft_eq_iff {clock : Int} :
    (timeLeft clock time : Int) = max (time - clock) 0 ↔ time ≤ clock ∧ 2 ^ 32 ∣ clock - time := by
  unfold timeLeft
  rw [Int.dvd_iff_emod_eq_zero]
  split
  · constructor
    · intro h
      have heq : clock = time := by omega
      rw [heq, sub_self]
      exact ⟨le_rfl, rfl⟩
    · intro h
      omega
  · omega

theorem told_turn (hpunctual : Punctual A s c) (hturn : Turn t s c s') (h : ∀ x ∈ s.log, Told A x) :
    ∀ x ∈ s'.log, Told A x := by
  refine hturn.log h (fun _ _ => trivial) (fun time event hhead hdue htype => ?_) fun _ _ _ _ _ _ _ => trivial
  rintro rfl left hleft
  obtain ⟨dungeon, hdungeon, rfl⟩ := mem_map.1 hleft
  obtain ⟨hin, htrue⟩ := mem_filter.1 hdungeon
  obtain rfl : dungeon = true := htrue
  exact timeLeft_eq_iff.2 (hpunctual _ hhead hdue htype rfl hin)

end Axium.Instances
