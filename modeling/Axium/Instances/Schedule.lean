import Axium.Instances.Resets
import Axium.Lib.Run
import Mathlib.Algebra.BigOperators.Group.List.Basic
import Mathlib.Data.List.Induction

/-!
# The schedule of resets

For a map and difficulty with a reset period there is always one warning or reset pending, and what `Update`
does about it are the warnings that remain and the reset of the first cycle, then all three warnings and the
reset of each later one, a period later (**`resets_follow_schedule`**).
-/

namespace Axium.Instances

open Run List Function InstanceSaveManager

variable {t : Tables} {s s' : InstanceSaveManager} {A : MapDiff} {d : MapDifficulty} {c : Int × Moment}
  {now : Int}

/-! ## Cycles -/

section Cycles
variable (period time : Int)

def cycle (types : List Nat) : List Planned :=
  types.map (fun type => .warning (resetTimeDelay type) time) ++ [.reset time (time + period)]

def cycles (n : Nat) : List Planned := (range n).flatMap fun k : Nat => cycle period (time + k * period) [1, 2, 3]

theorem plans_cycle : Place.plans period 4 ⟨1, time⟩ = cycle period time [1, 2, 3] ∧
    Place.after period 4 ⟨1, time⟩ = ⟨1, time + period⟩ := ⟨rfl, rfl⟩

theorem plans_cycles (n : Nat) : Place.plans period (4 * n) ⟨1, time⟩ = cycles period time n ∧
    Place.after period (4 * n) ⟨1, time⟩ = ⟨1, time + n * period⟩ := by
  induction n with
  | zero =>
    refine ⟨rfl, ?_⟩
    rw [Nat.cast_zero, zero_mul, add_zero]
    rfl
  | succ n ih =>
    obtain ⟨hplans, hafter⟩ := ih
    obtain ⟨hcycle, hlast⟩ := plans_cycle period (time + n * period)
    have hnext : time + n * period + period = time + ((n + 1 : Nat) : Int) * period := by
      rw [Nat.cast_add, Nat.cast_one, add_mul, one_mul, add_assoc]
    constructor
    · rw [Nat.mul_succ, Place.plans_add, hplans, hafter, hcycle, cycles, cycles, range_succ,
        flatMap_append, flatMap_singleton]
    · rw [Nat.mul_succ, Place.after_add, hafter, hlast, hnext]

theorem plans_first (now : Int) : ∃ m, Place.plans period m ⟨firstType time now, time⟩ =
      cycle period time ([1, 2, 3].filter fun type => now < time - resetTimeDelay type) ∧
    Place.after period m ⟨firstType time now, time⟩ = ⟨1, time + period⟩ := by
  have h₁₂ : resetTimeDelay 2 < resetTimeDelay 1 := by decide
  have h₂₃ : resetTimeDelay 3 < resetTimeDelay 2 := by decide
  unfold firstType
  by_cases h₁ : now < time - resetTimeDelay 1
  · have h₂ : now < time - resetTimeDelay 2 := by omega
    have h₃ : now < time - resetTimeDelay 3 := by omega
    rw [if_pos h₁]
    refine ⟨4, ?_, rfl⟩
    simp only [filter_cons, h₁, h₂, h₃, decide_true, if_true, filter_nil]
    rfl
  by_cases h₂ : now < time - resetTimeDelay 2
  · have h₃ : now < time - resetTimeDelay 3 := by omega
    rw [if_neg h₁, if_pos h₂]
    refine ⟨3, ?_, rfl⟩
    simp only [filter_cons, h₁, h₂, h₃, decide_true, decide_false, if_true, Bool.false_eq_true, if_false,
      filter_nil]
    rfl
  by_cases h₃ : now < time - resetTimeDelay 3
  · rw [if_neg h₁, if_neg h₂, if_pos h₃]
    refine ⟨2, ?_, rfl⟩
    simp only [filter_cons, h₁, h₂, h₃, decide_true, decide_false, if_true, Bool.false_eq_true, if_false,
      filter_nil]
    rfl
  · rw [if_neg h₁, if_neg h₂, if_neg h₃]
    refine ⟨1, ?_, rfl⟩
    simp only [filter_cons, h₁, h₂, h₃, decide_false, Bool.false_eq_true, if_false, filter_nil]
    rfl

end Cycles

/-! ## `Update` ends -/

/-- What is due, weighted with how long it has been so. -/
def work (now : Int) (s : InstanceSaveManager) : Nat := (s.queue.map fun x => (now - x.1).toNat).sum

theorem work_insert {q : List (Int × InstResetEvent)} {time : Int} {event : InstResetEvent} :
    ((Multimap.insert time event q).map fun x => (now - x.1).toNat).sum =
      (now - time).toNat + (q.map fun x => (now - x.1).toNat).sum := by
  rw [((Multimap.insert_perm time event q).map _).sum_eq, map_cons, sum_cons]

theorem work_turn (hturn : Turn t s c s') : (∀ x ∈ s.queue, c.1 ≤ x.1) ∧ s' = s ∨ work c.1 s' < work c.1 s := by
  have hfront : ∀ {time : Int} {event rest}, s.queue = (time, event) :: rest →
      work c.1 s = (c.1 - time).toNat + (rest.map fun x => (c.1 - x.1).toNat).sum := by
    intro time event rest hqueue
    unfold work
    rw [hqueue, map_cons, sum_cons]
  cases hturn with
  | idle h => exact .inl ⟨h, rfl⟩
  | «instance» hqueue hdue htype =>
    refine .inr ?_
    rw [hfront hqueue]
    unfold work setQueue
    dsimp only
    omega
  | dropped hqueue hdue =>
    refine .inr ?_
    rw [hfront hqueue]
    unfold work setQueue
    dsimp only
    omega
  | warning hqueue hdue htype hlater =>
    refine .inr ?_
    rw [hfront hqueue]
    unfold work setQueue
    rw [work_insert]
    omega
  | reset hqueue hdue htype hin hd hreset hlater =>
    refine .inr ?_
    rw [hfront hqueue]
    unfold work setQueue
    dsimp only
    rw [work_insert]
    omega

theorem work_eq_zero_iff : work now s = 0 ↔ ∀ x ∈ s.queue, now ≤ x.1 := by
  unfold work
  rw [List.sum_eq_zero_iff_forall_eq_nat, forall_mem_map]
  exact forall₂_congr fun x _ => by omega

theorem Good.update (ht : t.WellFormed) {ms : List Moment} (h : Good t s)
    (hfits : AllSteps (InstanceSaveManager.turn t) (NoWrap t) s (ms.map fun m => (now, m)))
    (hwork : work now s ≤ ms.length) : ∀ x ∈ (s.update t now ms).queue, now ≤ x.1 := by
  induction ms generalizing s with
  | nil => exact work_eq_zero_iff.1 (Nat.le_zero.1 hwork)
  | cons m ms ih =>
    have hturn := turn_spec ht h hfits.1
    refine ih (h.turn ht hturn) hfits.2 ?_
    rcases work_turn hturn with ⟨hidle, heq⟩ | hless
    · rw [heq, work_eq_zero_iff.2 hidle]
      exact Nat.zero_le _
    · exact Nat.le_of_lt_succ (hless.trans_le hwork)

/-! ## What `LoadResetTimes` leaves -/

section Load
variable {rows : Rows} {time : Int}

theorem today_range (now : Int) : today now ≤ now ∧ now < today now + DAY := by
  unfold today DAY
  omega

theorem onHour_of_dvd (ht : t.WellFormed) (hnonneg : 0 ≤ time) (hdvd : DAY ∣ time - t.diff) : OnHour t time := by
  obtain ⟨hzero, hlt⟩ := ht.diff_range
  unfold MINUTE DAY at *
  exact ⟨hnonneg, by unfold DAY; omega⟩

theorem loadedTime_spec (ht : t.WellFormed) (hmem : (A, d) ∈ t.difficulties) (hd : d.resetTime ≠ 0)
    (hnow : 0 ≤ now) (hloaded : time = 0 ∨ OnHour t time) :
    OnHour t (loadedTime t now d time) ∧ now ≤ loadedTime t now d time := by
  obtain ⟨hdiff, -⟩ := ht.diff_range
  obtain ⟨htoday, hlt⟩ := today_range now
  have hperiod := d.day_le_period
  have hwhole := ht.whole _ hmem hd
  have hdvdToday : DAY ∣ today now := Dvd.intro_left _ rfl
  unfold loadedTime
  dsimp only
  by_cases hzero : time = 0
  · have hnew : now < today now + d.period + t.diff := by omega
    rw [if_pos hzero, if_neg (not_lt.2 hnew.le)]
    refine ⟨onHour_of_dvd ht (hnow.trans hnew.le) ?_, hnew.le⟩
    rw [Int.add_sub_cancel]
    exact Int.dvd_add hdvdToday hwhole
  have hloaded := hloaded.resolve_left hzero
  rw [if_neg hzero]
  by_cases hpassed : time < now
  swap
  · rw [if_neg hpassed]
    exact ⟨hloaded, not_lt.1 hpassed⟩
  rw [if_pos hpassed]
  -- whole periods from the day of the old reset time to a day after today
  have hday : (0 : Int) < DAY := by decide
  have hstep := Int.lt_ediv_add_one_mul_self (today now - time / DAY * DAY) (hday.trans_le hperiod)
  obtain ⟨q, hq⟩ : ∃ q, (today now - time / DAY * DAY) / d.period + 1 = q := ⟨_, rfl⟩
  rw [hq] at hstep ⊢
  have hdvd : DAY ∣ time / DAY * DAY + (q * d.period + t.diff) - t.diff := by
    rw [← add_assoc, Int.add_sub_cancel]
    exact Int.dvd_add (Dvd.intro_left _ rfl) (hwhole.mul_left q)
  have hlater : now ≤ time / DAY * DAY + (q * d.period + t.diff) := by
    unfold DAY at *
    omega
  exact ⟨onHour_of_dvd ht (hnow.trans hlater) hdvd, hlater⟩

theorem firstType_range : 1 ≤ firstType time now ∧ firstType time now ≤ 4 := by
  unfold firstType
  split
  · decide
  · split
    · decide
    · split <;> decide

structure Loading (t : Tables) (l : List (MapDiff × MapDifficulty)) (s : InstanceSaveManager) : Prop where
  good : Good t s
  times : ∀ B, s.resetTime B = 0 ∨ OnHour t (s.resetTime B)
  log : s.log = []
  fresh : ∀ x ∈ s.queue, x.2.type ≠ 0 → x.2.mapDiff ∉ l.map Prod.fst

theorem loading_loadInstances (t : Tables) (rows : Rows) (now : Int) :
    let s := InstanceSaveManager.loadInstances rows now {}
    Loading t t.difficulties s ∧ ∀ x ∈ s.queue, x.2.type = 0 := by
  obtain ⟨s, hs⟩ : ∃ s, InstanceSaveManager.loadInstances rows now {} = s := ⟨_, rfl⟩
  have hsingle : Multimap.Sorted s.queue ∧ (∀ x ∈ s.queue, x.2.type = 0) ∧ s.resetTime = (fun _ => 0) ∧
      s.log = [] := by
    rw [← hs]
    unfold InstanceSaveManager.loadInstances
    induction rows.instResetTime using List.reverseRecOn with
    | nil => exact ⟨List.Pairwise.nil, fun _ => nofun, rfl, rfl⟩
    | append_singleton l r ih =>
      obtain ⟨hsorted, htype, htimes, hlog⟩ := ih
      rw [foldl_append, foldl_cons]
      split
      · refine ⟨hsorted.insert .., fun x hx => ?_, htimes, hlog⟩
        rcases Multimap.mem_insert.1 hx with rfl | hx
        · rfl
        · exact htype x hx
      · exact ⟨hsorted, htype, htimes, hlog⟩
  obtain ⟨hsorted, htype, htimes, hlog⟩ := hsingle
  rw [hs]
  exact ⟨⟨⟨hsorted, fun x hx => .inl (htype x hx)⟩, fun B => .inl (congrFun htimes B), hlog,
    fun x hx hne => absurd (htype x hx) hne⟩, htype⟩

variable {l : List (MapDiff × MapDifficulty)}

theorem loading_loadReset (ht : t.WellFormed) (row : MapDiff × Nat)
    (hsingle : ∀ x ∈ s.queue, x.2.type = 0) (h : Loading t l s) :
    Loading t l (s.loadReset t row) ∧ (s.loadReset t row).queue = s.queue := by
  unfold InstanceSaveManager.loadReset
  split
  · exact ⟨h, rfl⟩
  · refine ⟨⟨⟨h.good.sorted, fun x hx => .inl (hsingle x hx)⟩, fun B => ?_, h.log, h.fresh⟩, rfl⟩
    by_cases hB : B = row.1
    · subst hB
      have hrow : (s.setResetTimeFor row.1 (row.2 / DAY * DAY + t.diff)).resetTime row.1 =
          row.2 / DAY * DAY + t.diff := update_self ..
      rw [hrow]
      refine .inr (onHour_of_dvd ht ?_ ?_)
      · have := ht.diff_range.1
        unfold DAY
        omega
      · rw [Int.add_sub_cancel]
        exact Dvd.intro_left _ rfl
    · have hrow : (s.setResetTimeFor row.1 (row.2 / DAY * DAY + t.diff)).resetTime B = s.resetTime B :=
        update_of_ne hB ..
      rw [hrow]
      exact h.times B

variable {x : MapDiff × MapDifficulty}

theorem loadGlobal_spec (t : Tables) (rows : Rows) (now : Int) (s : InstanceSaveManager)
    (hreset : x.2.resetTime ≠ 0) :
    let time := loadedTime t now x.2 (s.resetTime x.1)
    let s' := s.loadGlobal t rows now x
    s'.resetTime = update s.resetTime x.1 time ∧ s'.log = s.log ∧
      (Multimap.Sorted s.queue → Multimap.Sorted s'.queue) ∧
      (∀ y ∈ s'.queue, y ∈ s.queue ∨
        ∃ id, y = (time - resetTimeDelay (firstType time now), ⟨firstType time now, x.1, id⟩)) ∧
      ∀ B ≠ x.1, s'.pending B = s.pending B := by
  intro time s'
  have hschedule : ∀ (s₁ : InstanceSaveManager) (id : Nat) B, B ≠ x.1 →
      (s₁.scheduleReset true (time - resetTimeDelay (firstType time now)) ⟨firstType time now, x.1, id⟩).pending B =
        s₁.pending B := by
    intro s₁ id B hB
    refine Multimap.filter_insert_of_neg ?_
    rw [Bool.eq_false_iff, ne_eq, isGlobal_iff]
    exact fun hin => hB hin.2.symm
  have heq : s' = (rows.timed.filter (·.mapDiff = x.1)).foldl (fun s r =>
      s.scheduleReset true (time - resetTimeDelay (firstType time now)) ⟨firstType time now, x.1, r.id % 2 ^ 16⟩)
      ((s.setResetTimeFor x.1 time).scheduleReset true (time - resetTimeDelay (firstType time now))
        ⟨firstType time now, x.1, 0⟩) := if_neg hreset
  rw [heq]
  induction rows.timed.filter (·.mapDiff = x.1) using List.reverseRecOn with
  | nil =>
    refine ⟨rfl, rfl, fun hsorted => hsorted.insert .., fun y hy => ?_, fun B hB => hschedule _ 0 B hB⟩
    rcases Multimap.mem_insert.1 hy with rfl | hy
    · exact .inr ⟨0, rfl⟩
    · exact .inl hy
  | append_singleton l r ih =>
    obtain ⟨htimes, hlog, hsorted, hmem, hpending⟩ := ih
    rw [foldl_append, foldl_cons]
    refine ⟨htimes, hlog, fun h => (hsorted h).insert .., fun y hy => ?_, fun B hB => ?_⟩
    · rcases Multimap.mem_insert.1 hy with rfl | hy
      · exact .inr ⟨_, rfl⟩
      · exact hmem y hy
    · exact (hschedule _ _ B hB).trans (hpending B hB)

theorem Loading.loadGlobal (ht : t.WellFormed) (rows : Rows) (hnow : 0 ≤ now)
    (hx : x ∈ t.difficulties) (hnew : x.1 ∉ l.map Prod.fst)
    (h : Loading t (x :: l) s) : Loading t l (s.loadGlobal t rows now x) := by
  by_cases hreset : x.2.resetTime = 0
  · have hskip : s.loadGlobal t rows now x = s := if_pos hreset
    rw [hskip]
    exact ⟨h.good, h.times, h.log, fun y hy hne hin => h.fresh y hy hne (mem_cons_of_mem _ hin)⟩
  obtain ⟨htimes, hlog, hsorted, hmem, -⟩ := loadGlobal_spec t rows now s hreset
  obtain ⟨s', hs'⟩ : ∃ s', s.loadGlobal t rows now x = s' := ⟨_, rfl⟩
  obtain ⟨time, htime⟩ : ∃ time, loadedTime t now x.2 (s.resetTime x.1) = time := ⟨_, rfl⟩
  rw [hs', htime] at htimes
  rw [hs'] at hlog hsorted ⊢
  rw [hs', htime] at hmem
  obtain ⟨honhour, -⟩ : OnHour t time ∧ now ≤ time := htime ▸ loadedTime_spec ht hx hreset hnow (h.times x.1)
  have hself : s'.resetTime x.1 = time := htimes ▸ update_self ..
  have hother : ∀ B, B ≠ x.1 → s'.resetTime B = s.resetTime B := fun B hB => by
    rw [htimes, update_of_ne hB]
  refine ⟨⟨hsorted h.good.sorted, fun y hy => ?_⟩, fun B => ?_, hlog.trans h.log, fun y hy hne => ?_⟩
  · rcases hmem y hy with hy | ⟨id, rfl⟩
    · refine or_iff_not_imp_left.2 fun hne => ?_
      have hglobal := (h.good.events y hy).resolve_left hne
      have hB : y.2.mapDiff ≠ x.1 := fun heq => h.fresh y hy hne (heq ▸ mem_cons_self)
      exact ⟨hglobal.type, (hother _ hB).symm ▸ hglobal.inTime, (hother _ hB).symm ▸ hglobal.onHour, hglobal.period⟩
    · exact .inr ⟨firstType_range, le_of_eq (congrArg (· - _) hself.symm), hself.symm ▸ honhour, x.2,
        mapDifficulty_of_mem hx, hreset⟩
  · by_cases hB : B = x.1
    · exact .inr (hB ▸ hself.symm ▸ honhour)
    · rw [hother B hB]
      exact h.times B
  · rcases hmem y hy with hy | ⟨id, rfl⟩
    · exact fun hin => h.fresh y hy hne (mem_cons_of_mem _ hin)
    · exact hnew

def startPlace (now time : Int) : Place := ⟨firstType time now, time⟩

theorem loadGlobal_other (t : Tables) (rows : Rows) (now : Int) (s : InstanceSaveManager) (hne : A ≠ x.1) :
    (s.loadGlobal t rows now x).pending A = s.pending A ∧ (s.loadGlobal t rows now x).resetTime A = s.resetTime A := by
  by_cases hreset : x.2.resetTime = 0
  · have hskip : s.loadGlobal t rows now x = s := if_pos hreset
    rw [hskip]
    exact ⟨rfl, rfl⟩
  · obtain ⟨htimes, -, -, -, hpending⟩ := loadGlobal_spec t rows now s hreset
    rw [htimes]
    exact ⟨hpending A hne, update_of_ne hne ..⟩

theorem Loading.self (now : Int) (hd : d.resetTime ≠ 0) (hrows : ∀ r ∈ rows.timed, r.mapDiff ≠ A)
    (h : Loading t ((A, d) :: l) s) :
    let time := loadedTime t now d (s.resetTime A)
    (s.loadGlobal t rows now (A, d)).resetTime A = time ∧
      (s.loadGlobal t rows now (A, d)).pending A = [(startPlace now time).entry A] := by
  intro time
  have hnone : rows.timed.filter (·.mapDiff = A) = [] :=
    filter_eq_nil_iff.2 fun r hr => by simpa using hrows r hr
  have hload : s.loadGlobal t rows now (A, d) = (s.setResetTimeFor A time).scheduleReset true
      (time - resetTimeDelay (firstType time now)) ⟨firstType time now, A, 0⟩ := by
    unfold InstanceSaveManager.loadGlobal
    rw [if_neg hd, hnone]
    rfl
  have hempty : s.queue.filter (isGlobal A) = [] := by
    refine filter_eq_nil_iff.2 fun y hy hglobal => ?_
    obtain ⟨hne, hA⟩ := isGlobal_iff.1 hglobal
    exact h.fresh y hy hne (hA ▸ mem_cons_self)
  have hglobal : isGlobal A (time - resetTimeDelay (firstType time now), ⟨firstType time now, A, 0⟩) = true :=
    isGlobal_iff.2 ⟨Nat.one_le_iff_ne_zero.1 firstType_range.1, rfl⟩
  rw [hload]
  refine ⟨update_self .., (Multimap.filter_insert_of_pos h.good.sorted hglobal).trans ?_⟩
  rw [hempty]
  rfl

theorem Loading.foldl (ht : t.WellFormed) (hnow : 0 ≤ now) (hd : d.resetTime ≠ 0)
    (hrows : ∀ r ∈ rows.timed, r.mapDiff ≠ A) (hl : ∀ x ∈ l, x ∈ t.difficulties)
    (hnodup : (l.map Prod.fst).Nodup) (h : Loading t l s) :
    let s' := l.foldl (InstanceSaveManager.loadGlobal t rows now) s
    Loading t [] s' ∧ (A ∉ l.map Prod.fst → s'.pending A = s.pending A ∧ s'.resetTime A = s.resetTime A) ∧
      ((A, d) ∈ l → OnHour t (s'.resetTime A) ∧ now ≤ s'.resetTime A ∧
        s'.pending A = [(startPlace now (s'.resetTime A)).entry A]) := by
  induction l generalizing s with
  | nil => exact ⟨h, fun _ => ⟨rfl, rfl⟩, fun hin => absurd hin not_mem_nil⟩
  | cons x l ih =>
    obtain ⟨hnew, hnodup⟩ := nodup_cons.1 hnodup
    have hx := hl x mem_cons_self
    have hnext := h.loadGlobal ht rows hnow hx hnew
    obtain ⟨hloading, hkept, hset⟩ := ih (fun y hy => hl y (mem_cons_of_mem _ hy)) hnodup hnext
    refine ⟨hloading, fun hnot => ?_, fun hin => ?_⟩
    · obtain ⟨hne, hnot⟩ : A ≠ x.1 ∧ A ∉ l.map Prod.fst := not_or.1 fun hor => hnot (mem_cons.2 hor)
      obtain ⟨hpending, htime⟩ := hkept hnot
      obtain ⟨hpending₁, htime₁⟩ := loadGlobal_other t rows now s hne
      exact ⟨hpending.trans hpending₁, htime.trans htime₁⟩
    · rcases mem_cons.1 hin with rfl | hin
      · obtain ⟨hpending, htime⟩ := hkept hnew
        obtain ⟨htime₁, hpending₁⟩ := Loading.self now hd hrows h
        rw [foldl_cons, htime, hpending, hpending₁, htime₁]
        obtain ⟨honhour, hnotPassed⟩ := loadedTime_spec ht hx hd hnow (h.times A)
        exact ⟨honhour, hnotPassed, rfl⟩
      · exact hset hin

theorem loading_loadResets (ht : t.WellFormed) (l : List (MapDiff × Nat)) (hsingle : ∀ x ∈ s.queue, x.2.type = 0)
    (h : Loading t t.difficulties s) : Loading t t.difficulties (l.foldl (InstanceSaveManager.loadReset t) s) := by
  induction l generalizing s with
  | nil => exact h
  | cons row l ih =>
    obtain ⟨hnext, hqueue⟩ := loading_loadReset ht row hsingle h
    exact ih (hqueue ▸ hsingle) hnext

theorem loadResetTimes_spec (ht : t.WellFormed) (hA : (A, d) ∈ t.difficulties) (hd : d.resetTime ≠ 0)
    (hnow : 0 ≤ now) (hrows : ∀ r ∈ rows.timed, r.mapDiff ≠ A) :
    let s := loadResetTimes t rows now
    Good t s ∧ s.log = [] ∧ OnHour t (s.resetTime A) ∧ now ≤ s.resetTime A ∧
      OnTrack A d.period (startPlace now (s.resetTime A)) s := by
  obtain ⟨hinstances, hsingle⟩ := loading_loadInstances t rows now
  have hload := loading_loadResets ht rows.resets hsingle hinstances
  obtain ⟨hloading, -, hset⟩ := hload.foldl ht hnow hd hrows (fun _ hx => hx) t.nodup
  obtain ⟨honhour, hnotPassed, hpending⟩ := hset hA
  refine ⟨hloading.good, hloading.log, honhour, hnotPassed, 0, ?_, hpending, rfl, firstType_range⟩
  exact congrArg (List.filterMap (Happening.planned A)) hloading.log

end Load

/-! ## The schedule -/

theorem OnTrack.begins {period time : Int} (h : OnTrack A period (startPlace now time) s) :
    ∃ n, s.planned A <+: cycle period time ([1, 2, 3].filter fun type => now < time - resetTimeDelay type) ++
      cycles period (time + period) n := by
  obtain ⟨n, hplanned, -⟩ := h
  obtain ⟨m, hfirst, hafter⟩ := plans_first period time now
  have hcycles : Place.plans period (m + 4 * n) (startPlace now time) =
      cycle period time ([1, 2, 3].filter fun type => now < time - resetTimeDelay type) ++
        cycles period (time + period) n := by
    rw [Place.plans_add, startPlace, hfirst, hafter, (plans_cycles period (time + period) n).1]
  have hmore : m + 4 * n = n + (m + 3 * n) := by omega
  refine ⟨n, hplanned ▸ hcycles ▸ ?_⟩
  rw [hmore, Place.plans_add]
  exact prefix_append ..

/-- **Resets follow the schedule.** From what `LoadResetTimes` leaves, over all turns of `Update`: the warnings that
remain and the reset of the first cycle, then cycles with all warnings; one pending event; next reset times that are
later, at the hour of resets; the time left in warnings; and `Update` ends when nothing is due. -/
theorem resets_follow_schedule {rows : Rows} {cs : List (Int × Moment)} (ht : t.WellFormed)
    (hA : (A, d) ∈ t.difficulties) (hd : d.resetTime ≠ 0) (hin : t.instanceable A.mapid = true) (hnow : 0 ≤ now)
    (hrows : ∀ r ∈ rows.timed, r.mapDiff ≠ A)
    (h : AllSteps (InstanceSaveManager.turn t) (fun s c => NoWrap t s c ∧ Punctual A s c)
      (loadResetTimes t rows now) cs) :
    let time := (loadResetTimes t rows now).resetTime A
    let s := run (InstanceSaveManager.turn t) (loadResetTimes t rows now) cs
    (now ≤ time ∧ time % DAY = t.resetTimeHour * HOUR) ∧
      (∃ n, s.planned A <+: cycle d.period time ([1, 2, 3].filter fun type => now < time - resetTimeDelay type) ++
        cycles d.period (time + d.period) n) ∧
      (∃ type, s.pending A = [(s.resetTime A - resetTimeDelay type, ⟨type, A, 0⟩)]) ∧
      (∀ x ∈ s.log, Renewed t x ∧ Told A x) ∧
      ∀ now' ms, AllSteps (InstanceSaveManager.turn t) (NoWrap t) s (ms.map fun m => (now', m)) →
        work now' s ≤ ms.length → ∀ x ∈ (s.update t now' ms).queue, now' ≤ x.1 := by
  intro time s
  obtain ⟨hgood, hlog, honhour, hnotPassed, htrack⟩ := loadResetTimes_spec ht hA hd hnow hrows
  have hA' := mapDifficulty_of_mem hA
  obtain ⟨hgood', htrack', hrenewed, htold⟩ : Good t s ∧ OnTrack A d.period (startPlace now time) s ∧
      (∀ x ∈ s.log, Renewed t x) ∧ ∀ x ∈ s.log, Told A x := by
    refine AllSteps.invariant (I := fun s => Good t s ∧ OnTrack A d.period (startPlace now time) s ∧
      (∀ x ∈ s.log, Renewed t x) ∧ ∀ x ∈ s.log, Told A x) (fun s c hs hc => ?_) ⟨hgood, htrack, ?_, ?_⟩ h
    · obtain ⟨hgood, htrack, hrenewed, htold⟩ := hs
      have hturn := turn_spec ht hgood hc.1
      exact ⟨hgood.turn ht hturn, htrack.turn hin hA' hgood hturn, renewed_turn ht hgood hturn hrenewed,
        told_turn hc.2 hturn htold⟩
    · rw [hlog]
      nofun
    · rw [hlog]
      nofun
  have hpending : ∃ type, s.pending A = [(s.resetTime A - resetTimeDelay type, ⟨type, A, 0⟩)] := by
    obtain ⟨n, -, hpending, htime, -⟩ := htrack'
    rw [htime]
    exact ⟨_, hpending⟩
  exact ⟨⟨hnotPassed, honhour.2.trans ht.diff_eq⟩, htrack'.begins, hpending,
    fun x hx => ⟨hrenewed x hx, htold x hx⟩, fun now' ms hfits hwork => hgood'.update ht hfits hwork⟩

def weekly : Tables where
  difficulties := [(⟨631, 0⟩, ⟨604800, 604800⟩)]
  nodup := List.nodup_singleton _
  instanceable _ := true
  resetTimeHour := 4

theorem weekly_wellFormed : weekly.WellFormed where
  hour := by decide
  whole x hx _ := by
    obtain rfl := mem_singleton.1 hx
    decide

/-- Two warnings with nobody in the raid, one at the time of the reset with a raid that is told so, and the reset. -/
def weeklyTurns : List (Int × Moment) :=
  [(618400, ⟨618400, []⟩), (618400, ⟨618400, []⟩), (619200, ⟨619200, [true]⟩), (619201, ⟨619202, []⟩)]

theorem resets_follow_schedule_weekly :
    let s := run (InstanceSaveManager.turn weekly) (loadResetTimes weekly {} 0) weeklyTurns
    .warned ⟨631, 0⟩ 300 619200 619200 [0] ∈ s.log ∧
      (∃ type, s.pending ⟨631, 0⟩ = [(1224000 - resetTimeDelay type, ⟨type, ⟨631, 0⟩, 0⟩)]) ∧
      ∀ x ∈ s.log, Renewed weekly x ∧ Told ⟨631, 0⟩ x := by
  have hturns : AllSteps (InstanceSaveManager.turn weekly) (fun s c => NoWrap weekly s c ∧ Punctual ⟨631, 0⟩ s c)
      (loadResetTimes weekly {} 0) weeklyTurns := by decide +kernel
  obtain ⟨-, -, hpending, hlog, -⟩ := resets_follow_schedule weekly_wellFormed (mem_singleton_self _) (by decide) rfl
    le_rfl (fun _ hr => absurd hr not_mem_nil) hturns
  exact ⟨by decide +kernel, hpending, hlog⟩

/-- An hour before the reset a warning tells that no time is left. -/
theorem warning_tells_nothing :
    let s := run (InstanceSaveManager.turn weekly) (loadResetTimes weekly {} 0) [(615601, ⟨615601, [true]⟩)]
    s.log = [.warned ⟨631, 0⟩ 3600 619200 615601 [0]] ∧ ¬ ∀ x ∈ s.log, Told ⟨631, 0⟩ x := by
  intro s
  have hlog : s.log = [.warned ⟨631, 0⟩ 3600 619200 615601 [0]] := by decide +kernel
  refine ⟨hlog, fun h => ?_⟩
  have htold := h (.warned ⟨631, 0⟩ 3600 619200 615601 [0]) (hlog ▸ mem_singleton_self _) rfl 0
    (mem_singleton_self _)
  exact absurd htold (by decide)

end Axium.Instances
