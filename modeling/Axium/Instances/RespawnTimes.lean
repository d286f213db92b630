import Axium.Instances.InstanceSaveMgr

/-!
# Reset times after respawns

`LoadResetTimes` puts the reset times of instances off to two hours after the latest respawn, in a loop that ends
after the first row. What should become of the reset times is `Rows.refreshed`.
-/

namespace Axium.Instances

open List

variable {t : Tables} {rows : Rows} {now : Int} {s : InstanceSaveManager} {r : InstanceRow}

def Rows.refreshed (rows : Rows) (r : InstanceRow) : Nat :=
  match rows.respawns.find? (·.1 = r.id) with
  | some respawn => respawn.2 + 2 * 3600
  | none => r.resettime

/-- The row that `LoadResetTimes` makes of a row with a reset time. -/
def Rows.updated (rows : Rows) (r : InstanceRow) : InstanceRow :=
  match rows.respawns.head? with
  | some respawn => if r.id = respawn.1 then { r with resettime := (respawn.2 + 2 * 3600) % 2 ^ 32 } else r
  | none => r

theorem instResetTime_eq (rows : Rows) : rows.instResetTime = rows.timed.map rows.updated := by
  unfold Rows.instResetTime Rows.updated
  cases rows.respawns with
  | nil => exact (map_id' _).symm
  | cons x l => rfl

theorem updated_fields (rows : Rows) (r : InstanceRow) :
    (rows.updated r).id = r.id ∧ (rows.updated r).mapDiff = r.mapDiff := by
  unfold Rows.updated
  split
  · split <;> exact ⟨rfl, rfl⟩
  · exact ⟨rfl, rfl⟩

/-- The rows of the database: an instance has one row, with a reset time of 32 bits, and one latest respawn. -/
structure Rows.WellFormed (rows : Rows) : Prop where
  ids : (rows.instances.map (·.id)).Nodup
  fits : ∀ r ∈ rows.instances, r.resettime < 2 ^ 32
  respawns : (rows.respawns.map Prod.fst).Nodup

def Rows.UpToDate (rows : Rows) (r : InstanceRow) : Prop :=
  ∀ respawn ∈ rows.respawns, respawn.1 = r.id →
    r.resettime = respawn.2 + 2 * 3600 ∨ rows.respawns.head? = some respawn ∧ respawn.2 + 2 * 3600 < 2 ^ 32

theorem updated_eq_iff (h : rows.WellFormed) (hr : r ∈ rows.instances) :
    (rows.updated r).resettime = rows.refreshed r ↔ rows.UpToDate r := by
  have hfits := h.fits r hr
  have hnodup := h.respawns
  unfold Rows.updated Rows.refreshed Rows.UpToDate
  generalize rows.respawns = respawns at hnodup ⊢
  cases respawns with
  | nil => exact iff_of_true rfl fun _ => nofun
  | cons x l =>
    obtain ⟨hx, -⟩ := nodup_cons.1 hnodup
    rw [find?_cons, forall_mem_cons]
    dsimp only [head?_cons]
    by_cases hid : x.1 = r.id
    · have hrest : ∀ y ∈ l, y.1 ≠ r.id := fun y hy heq => hx (mem_map.2 ⟨y, hy, heq.trans hid.symm⟩)
      rw [if_pos hid.symm, decide_eq_true hid]
      dsimp only
      constructor
      · exact fun heq => ⟨fun _ => .inr ⟨rfl, by omega⟩, fun y hy heq => absurd heq (hrest y hy)⟩
      · rintro ⟨hfirst, -⟩
        rcases hfirst hid with heq | ⟨-, hlt⟩ <;> omega
    · rw [if_neg (Ne.symm hid), decide_eq_false hid]
      dsimp only
      cases hf : l.find? (·.1 = r.id) with
      | none =>
        have hnone (y) (hy : y ∈ l) : y.1 ≠ r.id := by simpa using find?_eq_none.1 hf y hy
        exact iff_of_true rfl ⟨fun heq => absurd heq hid, fun y hy heq => absurd heq (hnone y hy)⟩
      | some y =>
        have hy := mem_of_find?_eq_some hf
        have hyid : y.1 = r.id := by simpa using find?_some hf
        constructor
        · refine fun heq => ⟨fun heq => absurd heq hid, fun z hz hzid => .inl ?_⟩
          rwa [inj_on_of_nodup_map (nodup_cons.1 hnodup).2 hz hy (hzid.trans hyid.symm)]
        · rintro ⟨-, hall⟩
          refine (hall y hy hyid).resolve_right fun ⟨hxy, _⟩ => hid ?_
          rw [Option.some.inj hxy, hyid]

/-! ## The queue -/

def InstanceRow.event (r : InstanceRow) (instanceId : Nat) : Int × InstResetEvent :=
  (r.resettime, ⟨0, r.mapDiff, instanceId⟩)

def InstanceSaveManager.single (s : InstanceSaveManager) : List (Int × InstResetEvent) :=
  s.queue.filter (·.2.type = 0)

theorem single_scheduleReset (time : Int) (event : InstResetEvent) (s : InstanceSaveManager) :
    (s.scheduleReset true time event).single.Perm ((if event.type = 0 then [(time, event)] else []) ++ s.single) := by
  refine ((Multimap.insert_perm time event s.queue).filter _).trans (List.Perm.of_eq ?_)
  rw [filter_cons]
  simp only [decide_eq_true_eq]
  split <;> rfl

theorem firstType_ne (time now : Int) : firstType time now ≠ 0 := by
  unfold firstType
  split_ifs <;> decide

theorem single_foldl {α : Type} {f : InstanceSaveManager → α → InstanceSaveManager}
    (hf : ∀ s a, (f s a).single.Perm s.single) (l : List α) (s : InstanceSaveManager) :
    (l.foldl f s).single.Perm s.single := by
  induction l generalizing s with
  | nil => exact .refl _
  | cons a l ih => exact (ih (f s a)).trans (hf s a)

theorem single_loadGlobal (x : MapDiff × MapDifficulty) (s : InstanceSaveManager) :
    (s.loadGlobal t rows now x).single.Perm s.single := by
  have hother (s : InstanceSaveManager) (time time' : Int) (k : Nat) :
      (s.scheduleReset true time ⟨firstType time' now, x.1, k⟩).single.Perm s.single := by
    simpa [firstType_ne] using single_scheduleReset time ⟨firstType time' now, x.1, k⟩ s
  unfold InstanceSaveManager.loadGlobal
  split
  · exact .refl _
  · exact (single_foldl (fun s (r : InstanceRow) => hother s _ _ (r.id % 2 ^ 16)) _ _).trans (hother (s.setResetTimeFor ..) ..)

variable (now) in
theorem single_loadInstances (l : List InstanceRow) (s : InstanceSaveManager) :
    (l.foldl (fun s r => if now < r.resettime then
      s.scheduleReset true r.resettime ⟨0, r.mapDiff, r.id % 2 ^ 16⟩ else s) s).single.Perm
    ((l.filter (now < ·.resettime)).map (fun r => r.event (r.id % 2 ^ 16)) ++ s.single) := by
  induction l generalizing s with
  | nil => exact .refl _
  | cons r l ih =>
    rw [foldl_cons, filter_cons]
    refine (ih _).trans ?_
    by_cases hlt : now < r.resettime
    · rw [if_pos hlt, if_pos (decide_eq_true hlt)]
      exact ((single_scheduleReset _ _ s).append_left _).trans perm_middle
    · rw [if_neg hlt, if_neg (by simpa using hlt)]

theorem single_loadResetTimes (t : Tables) (rows : Rows) (now : Int) : (loadResetTimes t rows now).single.Perm
    ((rows.instResetTime.filter (now < ·.resettime)).map fun r => r.event (r.id % 2 ^ 16)) := by
  have hresets (s : InstanceSaveManager) (row : MapDiff × Nat) : (s.loadReset t row).single.Perm s.single := by
    unfold InstanceSaveManager.loadReset
    split <;> exact .refl _
  have hinstances := single_loadInstances now rows.instResetTime {}
  have hempty : ({} : InstanceSaveManager).single = [] := rfl
  rw [hempty, append_nil] at hinstances
  exact (single_foldl (fun s x => single_loadGlobal x s) _ _).trans ((single_foldl hresets _ _).trans hinstances)

/-- What `LoadResetTimes` is to do for instances: all reset times are refreshed, and those that are still to come
are scheduled. -/
structure Refreshes (t : Tables) (rows : Rows) (now : Int) : Prop where
  times : rows.instResetTime.map (fun r => (r.id, r.resettime)) = rows.timed.map fun r => (r.id, rows.refreshed r)
  scheduled : (loadResetTimes t rows now).single.Perm
    ((rows.timed.filter (now < rows.refreshed ·)).map fun r => (rows.refreshed r, ⟨0, r.mapDiff, r.id⟩))

/-- **Reset times are refreshed** if and only if all rows of the respawns but the first have nothing to change, and
the instances to be scheduled have ids of 16 bits. -/
theorem refreshes_iff (t : Tables) (rows : Rows) (now : Int) (h : rows.WellFormed) : Refreshes t rows now ↔
    (∀ r ∈ rows.timed, rows.UpToDate r) ∧ ∀ r ∈ rows.timed, now < rows.refreshed r → r.id < 2 ^ 16 := by
  have hiff (r) (hr : r ∈ rows.timed) := updated_eq_iff h (mem_of_mem_filter hr)
  have htimes : rows.instResetTime.map (fun r => (r.id, r.resettime)) = rows.timed.map (fun r => (r.id, rows.refreshed r)) ↔
      ∀ r ∈ rows.timed, rows.UpToDate r := by
    rw [instResetTime_eq, map_map, map_inj_left]
    refine forall₂_congr fun r hr => ?_
    rw [← hiff r hr, Function.comp_apply, Prod.mk.injEq, (updated_fields rows r).1, eq_self, true_and]
  -- the queue, if all reset times are refreshed
  have hqueue (hup : ∀ r ∈ rows.timed, rows.UpToDate r) :
      (rows.instResetTime.filter (now < ·.resettime)).map (fun r => r.event (r.id % 2 ^ 16)) =
        (rows.timed.filter (now < rows.refreshed ·)).map fun r =>
          ((rows.refreshed r : Int), (⟨0, r.mapDiff, r.id % 2 ^ 16⟩ : InstResetEvent)) := by
    have heq (r) (hr : r ∈ rows.timed) : ((rows.updated r).resettime : Int) = rows.refreshed r :=
      congrArg Nat.cast ((hiff r hr).2 (hup r hr))
    rw [instResetTime_eq, filter_map, map_map]
    refine (map_congr_left fun r hr => ?_).trans (congrArg _ (filter_congr fun r hr => ?_))
    · obtain ⟨hid, hmapDiff⟩ := updated_fields rows r
      rw [Function.comp_apply, InstanceRow.event, heq r (mem_of_mem_filter hr), hid, hmapDiff]
    · rw [Function.comp_apply, heq r hr]
  constructor
  · rintro ⟨hupdates, hscheduled⟩
    have hup := htimes.1 hupdates
    refine ⟨hup, fun r hr hlt => ?_⟩
    have hperm := ((single_loadResetTimes t rows now).trans (.of_eq (hqueue hup))).symm.trans hscheduled
    have hmem := hperm.mem_iff.2 (mem_map_of_mem (mem_filter.2 ⟨hr, decide_eq_true hlt⟩))
    obtain ⟨r', -, heq⟩ := mem_map.1 hmem
    simp only [Prod.mk.injEq, InstResetEvent.mk.injEq] at heq
    omega
  · rintro ⟨hup, hids⟩
    refine ⟨htimes.2 hup, ((single_loadResetTimes t rows now).trans (.of_eq (hqueue hup))).trans (.of_eq ?_)⟩
    refine map_congr_left fun r hr => ?_
    obtain ⟨hr, hlt⟩ := mem_filter.1 hr
    rw [Nat.mod_eq_of_lt (hids r hr (of_decide_eq_true hlt))]

def deadmines : MapDiff := ⟨⟨36, by decide⟩, ⟨0, by decide⟩⟩

def noResets : Tables := ⟨[], .nil, fun _ => true, 4⟩

def twoRespawns : Rows where
  instances := [⟨1, deadmines, 1000⟩, ⟨2, deadmines, 1000⟩]
  respawns := [(1, 5000), (2, 6000)]

theorem twoRespawns_wellFormed : twoRespawns.WellFormed := ⟨by decide, by decide, by decide⟩

/-- The second instance has its reset time already. -/
def oneStale : Rows := { twoRespawns with instances := [⟨1, deadmines, 1000⟩, ⟨2, deadmines, 13200⟩] }

theorem refreshes_iff_one_stale : Refreshes noResets oneStale 2000 :=
  (refreshes_iff noResets oneStale 2000 ⟨by decide, by decide, by decide⟩).2 ⟨by
    simp only [Rows.UpToDate]
    decide, by decide⟩

/-- The second of two instances keeps its reset time, and is not scheduled. -/
theorem two_respawns_not_refreshed : twoRespawns.WellFormed ∧
    ¬ Refreshes noResets twoRespawns 2000 ∧ twoRespawns.timed.map twoRespawns.refreshed = [12200, 13200] ∧
    (loadResetTimes noResets twoRespawns 2000).single = [(12200, ⟨0, deadmines, 1⟩)] :=
  ⟨twoRespawns_wellFormed, fun h => absurd h.times (by decide), by decide, by decide⟩

end Axium.Instances
