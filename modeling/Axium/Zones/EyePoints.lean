import Axium.Lib.Tally
import Axium.Zones.EyeOfTheStorm

/-!
# The points of Eye of the Storm

What `BattlegroundEY` keeps about its points: the number of points of a team beside the owners, the bars,
and in which list a player is. The counts and the bars are right in every state. The lists hold every
participant who is online in exactly one place as long as nobody logs in who has lost his place:
`EventPlayerLoggedOut` takes a player out of the lists while the match is on, and
`EventPlayerLoggedIn` does not put him back (`bookkeeping_iff_nobody_returns`).
-/

namespace Axium.Zones.EY

open Bg Run Tally List Function OrdMap EyeOfTheStorm

/-! ## Owners and bars -/

def EyeOfTheStorm.controls (z : EyeOfTheStorm) (t : Team) (i : Point) : Nat :=
  if z.pointState i = .underControl ∧ z.pointOwnedByTeam i = some t then 1 else 0

def EyeOfTheStorm.controlled (z : EyeOfTheStorm) (t : Team) : Nat := ∑ i, z.controls t i

/-- The count of each team is the points it controls, and the bars stay in range. -/
structure PointsWF (z : EyeOfTheStorm) : Prop where
  count_eq : ∀ t, z.teamPointsCount.get t = z.controlled t
  bar : ∀ i, 0 ≤ z.pointBarStatus i ∧ z.pointBarStatus i ≤ 100

theorem controlled_le (z : EyeOfTheStorm) (t : Team) : z.controlled t ≤ 4 := by
  have hle : z.controlled t ≤ ∑ _i : Point, 1 := by
    apply Finset.sum_le_sum
    intro i _
    unfold controls
    split
    · exact le_refl _
    · exact Nat.zero_le _
  rw [Finset.sum_const, Finset.card_univ] at hle
  exact hle

namespace PointsWF

variable {z z' : EyeOfTheStorm}

theorem of_frame (h : PointsWF z) (hcount : z'.teamPointsCount = z.teamPointsCount)
    (howner : z'.pointOwnedByTeam = z.pointOwnedByTeam) (hstate : z'.pointState = z.pointState)
    (hbar : z'.pointBarStatus = z.pointBarStatus) : PointsWF z' where
  count_eq t := by
    have hsame : z'.controlled t = z.controlled t := by
      simp only [controlled, controls, howner, hstate]
    rw [hcount, h.count_eq, hsame]
  bar := by
    rw [hbar]
    exact h.bar

theorem controlled_change (z z' : EyeOfTheStorm) (i : Point)
    (hstate : ∀ j, j ≠ i → z'.pointState j = z.pointState j)
    (howner : ∀ j, j ≠ i → z'.pointOwnedByTeam j = z.pointOwnedByTeam j) (t : Team) :
    z'.controlled t + z.controls t i = z.controlled t + z'.controls t i := by
  apply sum_change
  intro j hj
  rw [controls, controls, hstate j hj, howner j hj]

variable {i : Point}

theorem controls_uncontrolled (hi : z.pointState i = .uncontrolled) (t : Team) : z.controls t i = 0 := by
  rw [controls, hi, if_neg]
  exact fun h => PointState.noConfusion h.1

theorem controls_owned {u : Team} (hi : z.pointState i = .underControl)
    (hu : z.pointOwnedByTeam i = some u) (t : Team) : z.controls t i = if u = t then 1 else 0 := by
  simp only [controls, hi, hu, true_and, Option.some.injEq]

theorem eventTeamCapturedPoint (h : PointsWF z) (hi : z.pointState i = .uncontrolled)
    (status : Status) (t : Team) : PointsWF (eventTeamCapturedPoint status i t z) := by
  unfold EY.eventTeamCapturedPoint
  split
  · refine ⟨fun t' => ?_, h.bar⟩
    have hchange := controlled_change z { z with
        teamPointsCount := z.teamPointsCount.set t (incr32 (z.teamPointsCount.get t))
        pointOwnedByTeam := update z.pointOwnedByTeam i (some t)
        pointState := update z.pointState i .underControl } i
      (fun j hj => update_of_ne hj ..) (fun j hj => update_of_ne hj ..) t'
    rw [controls_uncontrolled hi, controls_owned (update_self ..) (update_self ..)] at hchange
    have hle := controlled_le z t
    have hcount' := h.count_eq t'
    rw [PerTeam.get_set]
    split
    · rename_i htt
      subst htt
      have hincr : incr32 (z.teamPointsCount.get t) = z.teamPointsCount.get t + 1 := incr32_of_lt (by omega)
      rw [if_pos rfl] at hchange
      omega
    · rename_i htt
      rw [if_neg htt] at hchange
      omega
  · exact h

theorem eventTeamLostPoint (h : PointsWF z) (hi : z.pointState i = .underControl)
    (status : Status) : PointsWF (eventTeamLostPoint status i z) := by
  unfold EY.eventTeamLostPoint
  split
  · rename_i t ht
    split
    · refine ⟨fun t' => ?_, h.bar⟩
      have hchange := controlled_change z { z with
          teamPointsCount := z.teamPointsCount.set t (decr32 (z.teamPointsCount.get t))
          pointOwnedByTeam := update z.pointOwnedByTeam i none
          pointState := update z.pointState i .uncontrolled } i
        (fun j hj => update_of_ne hj ..) (fun j hj => update_of_ne hj ..) t'
      rw [controls_owned hi ht, controls_uncontrolled (update_self ..)] at hchange
      have hle := controlled_le z t
      have hcount' := h.count_eq t'
      rw [PerTeam.get_set]
      split
      · rename_i htt
        subst htt
        rw [if_pos rfl] at hchange
        have hdecr : decr32 (z.teamPointsCount.get t) = z.teamPointsCount.get t - 1 :=
          decr32_of_pos (by omega) (by omega)
        omega
      · rename_i htt
        rw [if_neg htt] at hchange
        omega
    · exact h
  · exact h

theorem changeOwner (h : PointsWF z) (status : Status) (i : Point) (owner : Option Team) (t : Team) :
    PointsWF (changeOwner status i owner t z) := by
  unfold EY.changeOwner
  split
  · simp only
    have hfirst : PointsWF (if z.pointState i = .uncontrolled ∧ some t = owner then
        EY.eventTeamCapturedPoint status i t z else z) := by
      split
      · rename_i hcond
        exact h.eventTeamCapturedPoint hcond.1 status t
      · exact h
    generalize (if z.pointState i = .uncontrolled ∧ some t = owner then
      EY.eventTeamCapturedPoint status i t z else z) = z' at hfirst ⊢
    split
    · rename_i hcond
      exact hfirst.eventTeamLostPoint hcond.1 status
    · exact hfirst
  · exact h

theorem barStatus_bounds (bar : Int) (count : PerTeam Nat) :
    0 ≤ barStatus bar count ∧ barStatus bar count ≤ 100 := by
  unfold barStatus
  simp only
  split
  · omega
  · split
    · split
      · omega
      · omega
    · split
      · omega
      · omega

theorem setBar (h : PointsWF z) (i : Point) (count : PerTeam Nat) :
    PointsWF { z with
      pointBarStatus :=
        update z.pointBarStatus i (barStatus (z.pointBarStatus i) count) } where
  count_eq := h.count_eq
  bar j := by
    change 0 ≤ update z.pointBarStatus i _ j ∧ update z.pointBarStatus i _ j ≤ 100
    by_cases hj : j = i
    · subst hj
      rw [update_self]
      exact barStatus_bounds _ _
    · rw [update_of_ne hj]
      exact h.bar j

end PointsWF

structure KeepsPoints (z z' : EyeOfTheStorm) : Prop where
  wf : PointsWF z → PointsWF z'
  near : z'.playersNearPoint = z.playersNearPoint

namespace KeepsPoints

variable {z z' z'' : EyeOfTheStorm}

theorem of_frame (hcount : z'.teamPointsCount = z.teamPointsCount)
    (howner : z'.pointOwnedByTeam = z.pointOwnedByTeam) (hstate : z'.pointState = z.pointState)
    (hbar : z'.pointBarStatus = z.pointBarStatus)
    (hnear : z'.playersNearPoint = z.playersNearPoint) : KeepsPoints z z' :=
  ⟨fun h => h.of_frame hcount howner hstate hbar, hnear⟩

theorem refl (z : EyeOfTheStorm) : KeepsPoints z z := of_frame rfl rfl rfl rfl rfl

theorem trans (h : KeepsPoints z z') (h' : KeepsPoints z' z'') : KeepsPoints z z'' :=
  ⟨fun hz => h'.wf (h.wf hz), h'.near.trans h.near⟩

theorem foldl {β : Type} {f : Zone EyeOfTheStorm → β → Zone EyeOfTheStorm}
    (h : ∀ s b, KeepsPoints s.own (f s b).own) (bs : List β) (s : Zone EyeOfTheStorm) :
    KeepsPoints s.own (bs.foldl f s).own := by
  induction bs generalizing s with
  | nil => exact refl _
  | cons b bs ih => exact (h s b).trans (ih _)

theorem tickFlag (diff : Nat) (z : EyeOfTheStorm) : KeepsPoints z (tickFlag diff z) := by
  unfold EY.tickFlag
  simp only
  split
  · split
    · exact of_frame rfl rfl rfl rfl rfl
    · exact of_frame rfl rfl rfl rfl rfl
  · exact refl z

theorem eventPlayerDroppedFlag (status : Status) (guid : Guid) (z : EyeOfTheStorm) :
    KeepsPoints z (eventPlayerDroppedFlag status guid z) := by
  unfold EY.eventPlayerDroppedFlag
  split
  · split
    · exact of_frame rfl rfl rfl rfl rfl
    · exact of_frame rfl rfl rfl rfl rfl
  · exact refl z

theorem addPointsFor (table : List Nat) (t : Team) (s : Zone EyeOfTheStorm) :
    KeepsPoints s.own (addPointsFor table t s).own := by
  unfold EY.addPointsFor addPoints updateTeamScore
  split
  · split
    · exact of_frame rfl rfl rfl rfl rfl
    · exact of_frame rfl rfl rfl rfl rfl
  · exact refl _

theorem eventPlayerCapturedFlag (guid : Guid) (t : Team) (s : Zone EyeOfTheStorm) :
    KeepsPoints s.own (eventPlayerCapturedFlag guid t s).own := by
  unfold EY.eventPlayerCapturedFlag
  split
  · let z := { s.own with
      flagKeeper := 0, flagState := .waitRespawn, flagsTimer := flagRespawnTime }
    have htake : KeepsPoints s.own z := of_frame rfl rfl rfl rfl rfl
    exact htake.trans (addPointsFor flagPoints t { s with own := z })
  · exact refl _

theorem tickScores (diff : Nat) (s : Zone EyeOfTheStorm) : KeepsPoints s.own (tickScores diff s).own := by
  unfold EY.tickScores
  simp only
  split
  · let z := { s.own with pointAddingTimer := fpointsTickTime }
    have htimer : KeepsPoints s.own z := of_frame rfl rfl rfl rfl rfl
    exact htimer.trans ((addPointsFor tickPoints .alliance { s with own := z }).trans
      (addPointsFor tickPoints .horde _))
  · exact of_frame rfl rfl rfl rfl rfl

theorem changeOwner (status : Status) (i : Point) (owner : Option Team) (t : Team)
    (z : EyeOfTheStorm) : KeepsPoints z (changeOwner status i owner t z) := by
  have hcaptured (z : EyeOfTheStorm) : (EY.eventTeamCapturedPoint status i t z).playersNearPoint
      = z.playersNearPoint := by
    unfold EY.eventTeamCapturedPoint
    split
    · rfl
    · rfl
  have hlost (z : EyeOfTheStorm) : (EY.eventTeamLostPoint status i z).playersNearPoint
      = z.playersNearPoint := by
    unfold EY.eventTeamLostPoint
    split
    · split
      · rfl
      · rfl
    · rfl
  refine ⟨fun h => h.changeOwner status i owner t, ?_⟩
  unfold EY.changeOwner
  split
  · simp only
    have hfirst : (if z.pointState i = .uncontrolled ∧ some t = owner then
        EY.eventTeamCapturedPoint status i t z else z).playersNearPoint = z.playersNearPoint := by
      split
      · exact hcaptured z
      · rfl
    generalize (if z.pointState i = .uncontrolled ∧ some t = owner then
      EY.eventTeamCapturedPoint status i t z else z) = z' at hfirst ⊢
    split
    · rw [hlost, hfirst]
    · exact hfirst
  · rfl

theorem visitPlayer (scene : Scene) (i : Point) (owner : Option Team) (s : Zone EyeOfTheStorm)
    (guid : Guid) : KeepsPoints s.own (visitPlayer scene i owner s guid).own := by
  unfold EY.visitPlayer
  split
  · rename_i t _
    have howner := changeOwner s.bg.status i owner t s.own
    simp only
    split
    · exact howner.trans (eventPlayerCapturedFlag guid t
        { s with own := EY.changeOwner s.bg.status i owner t s.own })
    · exact howner
  · exact refl _

theorem updatePointStatus (scene : Scene) (s : Zone EyeOfTheStorm) (i : Point) :
    KeepsPoints s.own (updatePointStatus scene s i).own := by
  unfold EY.updatePointStatus
  split
  · exact refl _
  · let bar := barStatus (s.own.pointBarStatus i) (s.own.currentPointPlayersCount i)
    let z := { s.own with pointBarStatus := update s.own.pointBarStatus i bar }
    have hbar : KeepsPoints s.own z := ⟨fun h => h.setBar i _, rfl⟩
    exact hbar.trans (foldl (visitPlayer scene i (pointOwner bar)) _ { s with own := z })

theorem updatePointStatuses (scene : Scene) (s : Zone EyeOfTheStorm) :
    KeepsPoints s.own (updatePointStatuses scene s).own :=
  foldl (updatePointStatus scene) _ s

end KeepsPoints

/-! ## The lists -/

def listed (near : Fin 5 → List Guid) (guid : Guid) : Nat := ∑ j, (near j).count guid

theorem listed_update (near : Fin 5 → List Guid) (j : Fin 5) (l : List Guid) (guid : Guid) :
    listed (update near j l) guid + (near j).count guid = listed near guid + l.count guid := by
  have hrest (k : Fin 5) (hk : k ≠ j) : (update near j l k).count guid = (near k).count guid := by
    rw [update_of_ne hk]
  have hchange := sum_change j hrest
  rw [update_self] at hchange
  exact hchange

theorem moveOut_count (moves : Guid → Bool) (src dst : List Guid) (guid : Guid) :
    (moveOut moves src dst).1.count guid + (moveOut moves src dst).2.count guid
      = src.count guid + dst.count guid := by
  induction src generalizing dst with
  | nil => rw [moveOut]
  | cons g src ih =>
    rw [moveOut]
    split
    · rw [ih, count_append, count_singleton, count_cons]
      omega
    · have hrest := ih dst
      simp only [count_cons]
      omega

theorem movePlayers_listed (moves : Guid → Bool) {src dst : Fin 5} (hne : src ≠ dst)
    (near : Fin 5 → List Guid) (guid : Guid) :
    listed (movePlayers moves src dst near) guid = listed near guid := by
  have hcount := moveOut_count moves (near src) (near dst) guid
  have hsrc := listed_update near src (moveOut moves (near src) (near dst)).1 guid
  have hdst := listed_update (update near src (moveOut moves (near src) (near dst)).1) dst
    (moveOut moves (near src) (near dst)).2 guid
  rw [update_of_ne hne.symm] at hdst
  change listed (update (update near src _) dst _) guid = _
  omega

theorem eraseScan_of_not_mem {guid : Guid} {l : List Guid} (h : guid ∉ l) : eraseScan guid l = l := by
  fun_induction eraseScan guid l with
  | case1 => rfl
  | case2 => exact absurd (mem_singleton.2 rfl) h
  | case3 => rfl
  | case4 rest => exact absurd mem_cons_self h
  | case5 g g' rest hne ih => rw [ih (fun hmem => h (mem_cons_of_mem g hmem))]

theorem eraseScan_eq_erase {guid : Guid} {l : List Guid} (h : l.count guid ≤ 1) :
    eraseScan guid l = l.erase guid := by
  fun_induction eraseScan guid l with
  | case1 => rfl
  | case2 => rw [erase_cons_head]
  | case3 g hne => rw [erase_cons_tail (by simpa using hne), erase_nil]
  | case4 g' rest ih =>
    rw [count_cons_self] at h
    have hzero : (g' :: rest).count guid = 0 := by omega
    rw [count_eq_zero, mem_cons, not_or] at hzero
    rw [erase_cons_head, eraseScan_of_not_mem hzero.2]
  | case5 g g' rest hne ih =>
    rw [count_cons_of_ne hne] at h
    rw [erase_cons_tail (by simpa using hne), ih h]

theorem count_le_listed (near : Fin 5 → List Guid) (j : Fin 5) (guid : Guid) :
    (near j).count guid ≤ listed near guid :=
  Finset.single_le_sum (f := fun j => (near j).count guid) (fun _ _ => Nat.zero_le _)
    (Finset.mem_univ j)

theorem listed_eraseScan {near : Fin 5 → List Guid} {guid : Guid} (h : listed near guid ≤ 1) (guid' : Guid) :
    listed (fun j => eraseScan guid (near j)) guid' = if guid' = guid then 0 else listed near guid' := by
  have herase (j : Fin 5) : eraseScan guid (near j) = (near j).erase guid :=
    eraseScan_eq_erase ((count_le_listed near j guid).trans h)
  split
  · rename_i heq
    apply Finset.sum_eq_zero
    intro j _
    have hle := (count_le_listed near j guid).trans h
    change (eraseScan guid (near j)).count guid' = 0
    rw [herase, heq, count_erase_self]
    omega
  · rename_i hne
    apply Finset.sum_congr rfl
    intro j _
    change (eraseScan guid (near j)).count guid' = _
    rw [herase, count_erase_of_ne hne]

structure KeepsListed (z z' : EyeOfTheStorm) : Prop where
  wf : PointsWF z → PointsWF z'
  listed_eq : ∀ guid, listed z'.playersNearPoint guid = listed z.playersNearPoint guid

namespace KeepsListed

variable {z z' z'' : EyeOfTheStorm}

theorem of_keepsPoints (h : KeepsPoints z z') : KeepsListed z z' where
  wf := h.wf
  listed_eq guid := by rw [h.near]

theorem refl (z : EyeOfTheStorm) : KeepsListed z z := of_keepsPoints (.refl z)

theorem trans (h : KeepsListed z z') (h' : KeepsListed z' z'') : KeepsListed z z'' :=
  ⟨fun hz => h'.wf (h.wf hz), fun guid => (h'.listed_eq guid).trans (h.listed_eq guid)⟩

theorem foldl {β : Type} {f : EyeOfTheStorm → β → EyeOfTheStorm}
    (h : ∀ z b, KeepsListed z (f z b)) (bs : List β) (z : EyeOfTheStorm) : KeepsListed z (bs.foldl f z) := by
  induction bs generalizing z with
  | nil => exact refl z
  | cons b bs ih => exact (h z b).trans (ih _)

variable (scene : Scene)

theorem someoneJoined (bg : Battleground) (z : EyeOfTheStorm) (i : Point) :
    KeepsListed z (someoneJoined scene bg z i) := by
  unfold EY.someoneJoined
  split
  · exact ⟨fun h => h.of_frame rfl rfl rfl rfl,
      fun guid => movePlayers_listed _ (Fin.castSucc_lt_last i).ne' _ guid⟩
  · exact refl z

theorem someoneLeft (bg : Battleground) (z : EyeOfTheStorm) (i : Point) :
    KeepsListed z (someoneLeft scene bg z i) := by
  unfold EY.someoneLeft
  split
  · exact ⟨fun h => h.of_frame rfl rfl rfl rfl,
      fun guid => movePlayers_listed _ (Fin.castSucc_lt_last i).ne _ guid⟩
  · exact refl z

theorem checkSomeoneJoinedPoint (s : Zone EyeOfTheStorm) :
    KeepsListed s.own (checkSomeoneJoinedPoint scene s).own :=
  foldl (someoneJoined scene s.bg) _ s.own

theorem checkSomeoneLeftPoint (s : Zone EyeOfTheStorm) :
    KeepsListed s.own (checkSomeoneLeftPoint scene s).own := by
  have hreset : KeepsListed s.own { s.own with currentPointPlayersCount := fun _ => ⟨0, 0⟩ } :=
    of_keepsPoints (.of_frame rfl rfl rfl rfl rfl)
  exact hreset.trans (foldl (someoneLeft scene s.bg) _ _)

theorem tickPointsCheck (diff : Nat) (s : Zone EyeOfTheStorm) :
    KeepsListed s.own (tickPointsCheck scene diff s).own := by
  unfold EY.tickPointsCheck
  simp only
  split
  · have hjoined := checkSomeoneJoinedPoint scene s
    have hleft := checkSomeoneLeftPoint scene (EY.checkSomeoneJoinedPoint scene s)
    have hstatus := of_keepsPoints (KeepsPoints.updatePointStatuses scene
      (EY.checkSomeoneLeftPoint scene (EY.checkSomeoneJoinedPoint scene s)))
    exact ((hjoined.trans hleft).trans hstatus).trans (of_keepsPoints (.of_frame rfl rfl rfl rfl rfl))
  · exact of_keepsPoints (.of_frame rfl rfl rfl rfl rfl)

theorem postUpdateImpl (diff : Nat) (s : Zone EyeOfTheStorm) :
    KeepsListed s.own (postUpdateImpl scene diff s).own := by
  unfold EY.postUpdateImpl
  split
  · have hscores := of_keepsPoints (KeepsPoints.tickScores diff s)
    have hflag := of_keepsPoints (KeepsPoints.tickFlag diff (tickScores diff s).own)
    exact (hscores.trans hflag).trans (tickPointsCheck scene diff
      { tickScores diff s with own := tickFlag diff (tickScores diff s).own })
  · exact refl _

theorem handle (s : Zone EyeOfTheStorm) (e : Handler) : KeepsListed s.own (handle s e).own := by
  cases e with
  | eventPlayerClickedOnFlag guid within =>
    change KeepsListed s.own (eventPlayerClickedOnFlag s.bg.status guid within s.own)
    unfold eventPlayerClickedOnFlag
    split
    · exact of_keepsPoints (.of_frame rfl rfl rfl rfl rfl)
    · exact refl _
  | eventPlayerDroppedFlag guid => exact of_keepsPoints (.eventPlayerDroppedFlag ..)
  | handleKillPlayer guid =>
    change KeepsListed s.own (if s.bg.status = .inProgress then _ else s).own
    split
    · exact of_keepsPoints (.eventPlayerDroppedFlag ..)
    · exact refl _
  | handleAreaTrigger guid i =>
    change KeepsListed s.own (handleAreaTrigger guid i s).own
    unfold handleAreaTrigger
    simp only
    split
    · exact of_keepsPoints (.eventPlayerCapturedFlag ..)
    · exact refl _

end KeepsListed

theorem removePlayer_keeps (status : Status) (player : Option Team) (guid : Guid) (z : EyeOfTheStorm) :
    (PointsWF z → PointsWF (removePlayer status player guid z)) ∧
      (removePlayer status player guid z).playersNearPoint
        = fun j => eraseScan guid (z.playersNearPoint j) := by
  let z' := { z with playersNearPoint := fun j => eraseScan guid (z.playersNearPoint j) }
  have hrest : KeepsPoints z' (removePlayer status player guid z) := by
    change KeepsPoints z' (if z'.flagKeeper ≠ 0 ∧ z'.flagKeeper = guid then
      (if player.isSome = true then eventPlayerDroppedFlag status guid z' else _) else z')
    split
    · split
      · exact .eventPlayerDroppedFlag status guid z'
      · exact .of_frame rfl rfl rfl rfl rfl
    · exact .refl z'
  exact ⟨fun h => hrest.wf (h.of_frame rfl rfl rfl rfl), hrest.near⟩

theorem foldl_removePlayer_keeps (status : Status) (player : Guid → Option Team) (guids : List Guid)
    {z : EyeOfTheStorm} (hwf : PointsWF z) (hle : ∀ guid, listed z.playersNearPoint guid ≤ 1) :
    let z' := guids.foldl (fun z guid => removePlayer status (player guid) guid z) z
    PointsWF z' ∧ ∀ guid, listed z'.playersNearPoint guid =
      if guid ∈ guids then 0 else listed z.playersNearPoint guid := by
  induction guids generalizing z with
  | nil => exact ⟨hwf, fun guid => (if_neg not_mem_nil).symm⟩
  | cons g guids ih =>
    obtain ⟨hwf', hnear⟩ := removePlayer_keeps status (player g) g z
    have hstep (guid : Guid) := listed_eraseScan (hle g) guid
    rw [← hnear] at hstep
    have hle' (guid : Guid) : listed (removePlayer status (player g) g z).playersNearPoint guid ≤ 1 := by
      rw [hstep]
      split
      · exact Nat.zero_le _
      · exact hle guid
    obtain ⟨hwfend, hrest⟩ := ih (hwf' hwf) hle'
    refine ⟨hwfend, fun guid => ?_⟩
    rw [foldl_cons, hrest, hstep]
    by_cases hg : guid = g
    · rw [if_pos hg, ite_self, if_pos (hg ▸ mem_cons_self)]
    · rw [if_neg hg]
      by_cases hmem : guid ∈ guids
      · rw [if_pos hmem, if_pos (mem_cons_of_mem g hmem)]
      · rw [if_neg hmem, if_neg]
        exact fun hin => (mem_cons.1 hin).elim hg hmem

theorem pointsWF_create (config : Config) (world : World) (isBGWeekend : Bool) :
    PointsWF (create config world isBGWeekend).own := by
  refine ⟨fun t => ?_, fun _ => ?_⟩
  · cases t with
    | alliance => rfl
    | horde => rfl
  · change (0 : Int) ≤ 50 ∧ (50 : Int) ≤ 100
    decide

/-! ## The base object -/

section Base

variable {s : Zone EyeOfTheStorm} {bg : Battleground}

theorem addPointsFor_onlyEnds (table : List Nat) (t : Team) (hs : s.bg = bg) :
    OnlyEnds bg (addPointsFor table t s).bg := by
  subst hs
  unfold addPointsFor addPoints updateTeamScore
  split
  · split
    · exact .endBattleground s.bg t.id
    · exact .refl _
  · exact .refl _

theorem eventPlayerCapturedFlag_onlyEnds (guid : Guid) (t : Team) (hs : s.bg = bg) :
    OnlyEnds bg (eventPlayerCapturedFlag guid t s).bg := by
  subst hs
  unfold eventPlayerCapturedFlag
  split
  · exact addPointsFor_onlyEnds flagPoints t rfl
  · exact .refl _

theorem tickScores_onlyEnds (diff : Nat) (s : Zone EyeOfTheStorm) : OnlyEnds s.bg (tickScores diff s).bg := by
  unfold tickScores
  simp only
  split
  · have halliance : OnlyEnds s.bg (addPointsFor tickPoints .alliance
        { s with own := { s.own with pointAddingTimer := fpointsTickTime } }).bg :=
      addPointsFor_onlyEnds tickPoints .alliance rfl
    exact halliance.trans (addPointsFor_onlyEnds tickPoints .horde rfl)
  · exact .refl _

theorem postUpdateImpl_onlyEnds (scene : Scene) (diff : Nat) (s : Zone EyeOfTheStorm) :
    OnlyEnds s.bg (postUpdateImpl scene diff s).bg := by
  unfold postUpdateImpl
  split
  · exact (tickScores_onlyEnds diff s).trans
      (tickPointsCheck_bg OnlyEnds.refl eventPlayerCapturedFlag_onlyEnds .trans scene diff
        { tickScores diff s with own := tickFlag diff (tickScores diff s).own })
  · exact .refl _

theorem handle_onlyEnds (e : Handler) (s : Zone EyeOfTheStorm) : OnlyEnds s.bg (handle s e).bg :=
  handle_bg OnlyEnds.refl eventPlayerCapturedFlag_onlyEnds s e

end Base

/-! ## Everybody in his place -/

/-- The players who have logged out while the match was on and have not entered again, after an event. -/
def lostAfter (s : Zone EyeOfTheStorm) (lost : List Guid) : Event Scene Handler → List Guid
  | .eventPlayerLoggedOut guid => if s.bg.status = .inProgress then guid :: lost else lost
  | .addPlayer guid => lost.filter (· ≠ guid)
  | _ => lost

def stepLost (sl : Zone EyeOfTheStorm × List Guid) (we : World × Event Scene Handler) :
    Zone EyeOfTheStorm × List Guid :=
  (step sl.1 we, lostAfter sl.1 sl.2 we.2)

def Returns (lost : List Guid) : Event Scene Handler → Prop
  | .eventPlayerLoggedIn guid => guid ∈ lost
  | _ => False

instance (lost : List Guid) : ∀ e : Event Scene Handler, Decidable (Returns lost e)
  | .eventPlayerLoggedIn _ => inferInstanceAs (Decidable (_ ∈ _))
  | .addPlayer _ | .increaseInvitedCount _ | .decreaseInvitedCount _ | .removePlayerAtLeave _
  | .eventPlayerLoggedOut _ | .update _ _ | .handle _ => isFalse id

/-- The invariant: nobody is in the lists twice or without being inside, and a participant is in them
unless he has logged out while the match was on. -/
structure Placed (s : Zone EyeOfTheStorm) (lost : List Guid) : Prop where
  isBattleground : s.bg.config.isArena = false
  points : PointsWF s.own
  began : lost ≠ [] → Began s.bg
  once : ∀ guid, listed s.own.playersNearPoint guid ≤ 1
  inside : ∀ guid, s.bg.roster.players.find? guid = none → listed s.own.playersNearPoint guid = 0
  away : ∀ guid p, s.bg.roster.players.find? guid = some p → guid ∈ lost →
    p.offlineRemoveTime ≠ 0 ∧ listed s.own.playersNearPoint guid = 0
  placed : ∀ guid p, s.bg.roster.players.find? guid = some p → guid ∉ lost →
    listed s.own.playersNearPoint guid = 1

namespace Placed

variable {s : Zone EyeOfTheStorm} {lost : List Guid}

theorem of_keeps (h : Placed s lost) (s' : Zone EyeOfTheStorm) (hown : KeepsListed s.own s'.own)
    (hadv : Advances s.bg s'.bg) (hplayers : s'.bg.roster.players = s.bg.roster.players) : Placed s' lost where
  isBattleground := by
    rw [hadv.config]
    exact h.isBattleground
  points := hown.wf h.points
  began hne := hadv.began (h.began hne)
  once guid := by
    rw [hown.listed_eq]
    exact h.once guid
  inside guid hnone := by
    rw [hplayers] at hnone
    rw [hown.listed_eq]
    exact h.inside guid hnone
  away guid p hp hlost := by
    rw [hplayers] at hp
    rw [hown.listed_eq]
    exact h.away guid p hp hlost
  placed guid p hp hlost := by
    rw [hplayers] at hp
    rw [hown.listed_eq]
    exact h.placed guid p hp hlost

theorem remove (h : Placed s lost) (s' : Zone EyeOfTheStorm) (guids : List Guid) (status : Status)
    (player : Guid → Option Team)
    (hown : s'.own = guids.foldl (fun z guid => removePlayer status (player guid) guid z) s.own)
    (hadv : Advances s.bg s'.bg) (hremoves : Removes guids s.bg.roster s'.bg.roster) : Placed s' lost := by
  obtain ⟨hwf, hlisted⟩ := foldl_removePlayer_keeps status player guids h.points h.once
  rw [← hown] at hwf hlisted
  have hstays {guid : Guid} {p : BattlegroundPlayer} (hp : s'.bg.roster.players.find? guid = some p) :
      guid ∉ guids ∧ s.bg.roster.players.find? guid = some p := by
    by_cases hmem : guid ∈ guids
    · rw [(hremoves guid).1 hmem] at hp
      cases hp
    · rw [(hremoves guid).2 hmem] at hp
      exact ⟨hmem, hp⟩
  refine ⟨by rw [hadv.config]; exact h.isBattleground, hwf, fun hne => hadv.began (h.began hne),
    fun guid => ?_, fun guid hnone => ?_, fun guid p hp hlost => ?_, fun guid p hp hlost => ?_⟩
  · rw [hlisted]
    split
    · exact Nat.zero_le _
    · exact h.once guid
  · rw [hlisted]
    split
    · rfl
    · rename_i hmem
      rw [(hremoves guid).2 hmem] at hnone
      exact h.inside guid hnone
  · obtain ⟨hmem, hold⟩ := hstays hp
    rw [hlisted, if_neg hmem]
    exact h.away guid p hold hlost
  · obtain ⟨hmem, hold⟩ := hstays hp
    rw [hlisted, if_neg hmem]
    exact h.placed guid p hold hlost

theorem addPlayer (h : Placed s lost) {guid : Guid} (hnot : guid ∉ s.bg.roster.players.keys) :
    Placed (s.addPlayer overrides guid) (lost.filter (· ≠ guid)) := by
  have hlisted (guid' : Guid) : listed (s.addPlayer overrides guid).own.playersNearPoint guid' =
        listed s.own.playersNearPoint guid' + if guid = guid' then 1 else 0 := by
    have hchange := listed_update s.own.playersNearPoint outOfPoints
      (s.own.playersNearPoint outOfPoints ++ [guid]) guid'
    rw [count_append, count_singleton] at hchange
    simp only [beq_iff_eq] at hchange
    change listed (update s.own.playersNearPoint outOfPoints _) guid' = _
    omega
  have hplayers (guid' : Guid) : (s.addPlayer overrides guid).bg.roster.players.find? guid' =
      if guid = guid' then some { offlineRemoveTime := 0, team := (s.bg.world.player guid).team.id }
      else s.bg.roster.players.find? guid' :=
    find?_insert ..
  have hlost (guid' : Guid) : guid' ∈ lost.filter (· ≠ guid) ↔ guid' ∈ lost ∧ guid ≠ guid' := by
    rw [mem_filter, decide_eq_true_iff]
    exact and_congr_right (fun _ => ne_comm)
  have hout := h.inside guid (find?_eq_none.2 hnot)
  refine ⟨h.isBattleground, h.points.of_frame rfl rfl rfl rfl, fun hne => ?_, fun guid' => ?_,
    fun guid' hnone => ?_, fun guid' p hp hmem => ?_, fun guid' p hp hmem => ?_⟩
  · apply h.began
    rintro rfl
    exact hne rfl
  · rw [hlisted]
    split
    · rename_i heq
      rw [← heq, hout]
    · exact h.once guid'
  · rw [hplayers] at hnone
    split at hnone
    · cases hnone
    · rename_i hne
      rw [hlisted, if_neg hne]
      exact h.inside guid' hnone
  · obtain ⟨hmem', hne⟩ := (hlost guid').1 hmem
    rw [hplayers, if_neg hne] at hp
    rw [hlisted, if_neg hne]
    exact h.away guid' p hp hmem'
  · rw [hlisted]
    rw [hplayers] at hp
    split at hp
    · rename_i heq
      rw [if_pos heq, ← heq, hout]
    · rename_i hne
      rw [if_neg hne]
      exact h.placed guid' p hp (fun hmem' => hmem ((hlost guid').2 ⟨hmem', hne⟩))

theorem entry_of_loggedOut {guid guid' : Guid} {p' : BattlegroundPlayer}
    (hp : (s.bg.eventPlayerLoggedOut guid).roster.players.find? guid' = some p') :
    ∃ p, s.bg.roster.players.find? guid' = some p ∧
      (if guid = guid' then p'.offlineRemoveTime ≠ 0 else p' = p) := by
  rw [find?_loggedOut] at hp
  obtain ⟨p, hold, hnew⟩ := Option.map_eq_some_iff.1 hp
  refine ⟨p, hold, ?_⟩
  rw [← hnew]
  split
  · exact Nat.succ_ne_zero _
  · rfl

theorem none_of_loggedOut {guid guid' : Guid}
    (hnone : (s.bg.eventPlayerLoggedOut guid).roster.players.find? guid' = none) :
    s.bg.roster.players.find? guid' = none := by
  rw [find?_loggedOut] at hnone
  exact Option.map_eq_none_iff.1 hnone

section

variable (h : Placed s lost)
include h

theorem loggedOut_inProgress (guid : Guid) (hst : s.bg.status = .inProgress) :
    Placed (s.eventPlayerLoggedOut overrides guid) (guid :: lost) := by
  have hsame := SameResult.eventPlayerLoggedOut h.isBattleground guid
  have hown : PointsWF (s.eventPlayerLoggedOut overrides guid).own ∧ ∀ guid',
      listed (s.eventPlayerLoggedOut overrides guid).own.playersNearPoint guid' =
        if guid' = guid then 0 else listed s.own.playersNearPoint guid' := by
    by_cases hmem : s.bg.roster.players.contains guid = true
    · obtain ⟨hwf, hnear⟩ := removePlayer_keeps s.bg.status (some (s.bg.world.player guid).team) guid s.own
      have heq : (s.eventPlayerLoggedOut overrides guid).own
        = removePlayer s.bg.status (some (s.bg.world.player guid).team) guid s.own :=
        if_pos ⟨hmem, hst⟩
      rw [heq, hnear]
      exact ⟨hwf h.points, listed_eraseScan (h.once guid)⟩
    · have heq : (s.eventPlayerLoggedOut overrides guid).own = s.own :=
        if_neg (fun hand => hmem hand.1)
      rw [heq]
      refine ⟨h.points, fun guid' => ?_⟩
      split
      · rename_i hg
        rw [hg]
        exact h.inside guid (find?_eq_none.2 (fun hin => hmem (contains_iff.2 hin)))
      · rfl
  obtain ⟨hwf, hlisted⟩ := hown
  refine ⟨hsame.config ▸ h.isBattleground, hwf, fun _ => .inl (hsame.status.trans hst),
    fun guid' => ?_, fun guid' hnone => ?_, fun guid' p' hp' hmem => ?_, fun guid' p' hp' hmem => ?_⟩
  · rw [hlisted]
    split
    · exact Nat.zero_le _
    · exact h.once guid'
  · rw [hlisted, h.inside guid' (none_of_loggedOut hnone), ite_self]
  · obtain ⟨p, hp, hentry⟩ := entry_of_loggedOut hp'
    rw [hlisted]
    split at hentry
    · rename_i hg
      exact ⟨hentry, if_pos hg.symm⟩
    · rename_i hg
      have hg' : guid' ≠ guid := fun heq => hg heq.symm
      rw [hentry, if_neg hg']
      exact h.away guid' p hp ((mem_cons.1 hmem).resolve_left hg')
  · rw [mem_cons, not_or] at hmem
    obtain ⟨p, hp, -⟩ := entry_of_loggedOut hp'
    rw [hlisted, if_neg hmem.1]
    exact h.placed guid' p hp hmem.2

theorem loggedOut_not_inProgress (guid : Guid) (hst : s.bg.status ≠ .inProgress) :
    Placed (s.eventPlayerLoggedOut overrides guid) lost := by
  have hadv := (SameResult.eventPlayerLoggedOut h.isBattleground guid).advances
  have hown : (s.eventPlayerLoggedOut overrides guid).own = s.own := if_neg (fun hand => hst hand.2)
  refine ⟨hadv.config ▸ h.isBattleground, hown ▸ h.points, fun hne => hadv.began (h.began hne),
    hown ▸ h.once, fun guid' hnone => ?_, fun guid' p' hp' hmem => ?_, fun guid' p' hp' hmem => ?_⟩
  · rw [hown]
    exact h.inside guid' (none_of_loggedOut hnone)
  · obtain ⟨p, hp, hentry⟩ := entry_of_loggedOut hp'
    obtain ⟨haway, hzero⟩ := h.away guid' p hp hmem
    rw [hown]
    refine ⟨?_, hzero⟩
    split at hentry
    · exact hentry
    · rw [hentry]
      exact haway
  · obtain ⟨p, hp, -⟩ := entry_of_loggedOut hp'
    rw [hown]
    exact h.placed guid' p hp hmem

theorem eventPlayerLoggedIn {guid : Guid}
    (hin : guid ∈ s.bg.roster.players.keys) (hmem : guid ∉ lost) :
    Placed { s with bg := s.bg.eventPlayerLoggedIn guid } lost := by
  have hplayers := find?_loggedIn s.bg guid
  refine ⟨h.isBattleground, h.points, h.began, h.once, fun guid' hnone => ?_,
    fun guid' p hp hlost => ?_, fun guid' p hp hlost => ?_⟩
  · rw [hplayers] at hnone
    split at hnone
    · cases hnone
    · exact h.inside guid' hnone
  · rw [hplayers, if_neg (fun heq : guid = guid' => hmem (heq ▸ hlost))] at hp
    exact h.away guid' p hp hlost
  · rw [hplayers] at hp
    split at hp
    · rename_i heq
      obtain ⟨p', hp'⟩ := mem_keys.1 hin
      rw [← heq]
      exact h.placed guid p' hp' hmem
    · exact h.placed guid' p hp hlost

theorem update (scene : Scene) (diff : Nat) : Placed (s.update overrides scene diff) lost := by
  have hadv := advances_update h.isBattleground diff
  cases hempty : s.bg.roster.players.isEmpty with
  | true =>
    rw [Zone.update, if_pos hempty]
    exact h.of_keeps { s with bg := s.bg.update diff } (.refl _) hadv
      (congrArg Roster.players (update_roster_of_isEmpty hempty diff))
  | false =>
    have hbase : Placed (s.updateBase overrides diff) lost :=
      h.remove _ (removedBy s.bg diff) s.bg.status (findPlayer s.bg) rfl hadv
        (removes_update s.bg diff)
    have hends := postUpdateImpl_onlyEnds scene diff (s.updateBase overrides diff)
    rw [update_of_nonempty hempty]
    exact hbase.of_keeps _ (.postUpdateImpl scene diff _) hends.advances (congrArg Roster.players hends.roster)

theorem event {e : Event Scene Handler} (hadm : Admissible s e)
    (hreturns : ¬ Returns lost e) : Placed (s.event overrides e) (lostAfter s lost e) := by
  cases e with
  | addPlayer guid => exact h.addPlayer hadm
  | increaseInvitedCount t => exact h.of_keeps _ (.refl _) ⟨rfl, id, id⟩ rfl
  | decreaseInvitedCount t =>
    have hsame := SameResult.decreaseInvitedCount h.isBattleground t.id
    refine h.of_keeps { s with bg := s.bg.decreaseInvitedCount t.id } (.refl _) hsame.advances ?_
    rw [Battleground.decreaseInvitedCount_roster]
  | removePlayerAtLeave guid =>
    have hsame := SameResult.removePlayerAtLeave h.isBattleground guid
    exact h.remove (s.removePlayerAtLeave overrides guid) [guid] s.bg.status (findPlayer s.bg) rfl
      hsame.advances (removes_foldl [guid] s.bg)
  | eventPlayerLoggedOut guid =>
    change Placed (s.eventPlayerLoggedOut overrides guid)
      (if s.bg.status = .inProgress then guid :: lost else lost)
    split
    · rename_i hst
      exact h.loggedOut_inProgress guid hst
    · rename_i hst
      exact h.loggedOut_not_inProgress guid hst
  | eventPlayerLoggedIn guid => exact h.eventPlayerLoggedIn hadm.1 hreturns
  | update scene diff => exact h.update scene diff
  | handle e =>
    have hends := handle_onlyEnds e s
    exact h.of_keeps (handle s e) (.handle s e) hends.advances (congrArg Roster.players hends.roster)

end

end Placed

structure Bookkeeping (s : Zone EyeOfTheStorm) : Prop where
  count_eq : ∀ t, s.own.teamPointsCount.get t = (Finset.univ.filter fun i =>
    s.own.pointState i = .underControl ∧ s.own.pointOwnedByTeam i = some t).card
  index_lt : ∀ t, 0 < s.own.teamPointsCount.get t →
    s.own.teamPointsCount.get t - 1 < tickPoints.length ∧
      s.own.teamPointsCount.get t - 1 < flagPoints.length
  bar : ∀ i, 0 ≤ s.own.pointBarStatus i ∧ s.own.pointBarStatus i ≤ 100
  placed : ∀ guid p, s.bg.roster.players.find? guid = some p → p.offlineRemoveTime = 0 →
    ∃! j, guid ∈ s.own.playersNearPoint j

theorem Placed.bookkeeping {s : Zone EyeOfTheStorm} {lost : List Guid} (h : Placed s lost) : Bookkeeping s where
  count_eq t := by
    rw [h.points.count_eq, Finset.card_filter]
    rfl
  index_lt t hpos := by
    have hle := controlled_le s.own t
    rw [← h.points.count_eq] at hle
    change _ < 4 ∧ _ < 4
    omega
  bar := h.points.bar
  placed guid p hp hon := by
    have hmem : guid ∉ lost := fun hlost => (h.away guid p hp hlost).1 hon
    have hone := h.placed guid p hp hmem
    simp only [← count_pos_iff]
    exact existsUnique_of_sum_eq_one hone

theorem placed_create {config : Config} (hconfig : config.isArena = false) (world : World)
    (isBGWeekend : Bool) : Placed (create config world isBGWeekend) [] where
  isBattleground := hconfig
  points := pointsWF_create config world isBGWeekend
  began hne := absurd rfl hne
  once guid := Nat.zero_le 1
  inside guid _ := rfl
  away guid p hp _ := by cases hp
  placed guid p hp _ := by cases hp

theorem not_bookkeeping_of_returns {s : Zone EyeOfTheStorm} {lost : List Guid} (h : Placed s lost)
    {e : Event Scene Handler} (hadm : Admissible s e) (hreturns : Returns lost e) :
    (s.event overrides e).bg.status = .inProgress ∧ ¬ Bookkeeping (s.event overrides e) := by
  cases e with
  | eventPlayerLoggedIn guid =>
    obtain ⟨hin, hover⟩ := hadm
    obtain ⟨p, hp⟩ := mem_keys.1 hin
    refine ⟨(h.began (ne_nil_of_mem hreturns)).resolve_right hover, fun hbook => ?_⟩
    have hp' : (s.bg.eventPlayerLoggedIn guid).roster.players.find? guid
        = some { (s.bg.roster.players.find? guid).getD {} with offlineRemoveTime := 0 } :=
      find?_insert_self ..
    obtain ⟨j, hj, -⟩ := hbook.placed guid _ hp' rfl
    have hpos := (count_pos_iff.2 hj).trans_le (count_le_listed s.own.playersNearPoint j guid)
    rw [(h.away guid p hp hreturns).2] at hpos
    exact absurd hpos (lt_irrefl 0)
  | _ => exact hreturns.elim

/-- Every player is near one point, as long as nobody returns whom a log-out has lost. -/
theorem Placed.step {s : Zone EyeOfTheStorm} {lost : List Guid} (h : Placed s lost)
    {we : World × Event Scene Handler} (hadm : Admissible s we.2) (hreturns : ¬ Returns lost we.2) :
    Placed (EY.step s we) (lostAfter s lost we.2) :=
  (h.of_keeps (s.inWorld we.1) (.refl _) ⟨rfl, id, id⟩ rfl).event hadm hreturns

/-- The bookkeeping of Eye of the Storm is right in every state of a run in which the match is on if and
only if nobody logs in again after he has logged out while the match was on. -/
theorem bookkeeping_iff_nobody_returns {config : Config} (hconfig : config.isArena = false)
    (world : World) (isBGWeekend : Bool) (es : List (World × Event Scene Handler))
    (hadm : AllSteps step (fun s we => Admissible s we.2) (create config world isBGWeekend) es) :
    (∀ before after, es = before ++ after →
      (run step (create config world isBGWeekend) before).bg.status = .inProgress →
      Bookkeeping (run step (create config world isBGWeekend) before)) ↔
    AllSteps stepLost (fun sl we => ¬ Returns sl.2 we.2) (create config world isBGWeekend, []) es := by
  have hs := placed_create hconfig world isBGWeekend
  generalize create config world isBGWeekend = s, ([] : List Guid) = lost at hs hadm ⊢
  constructor
  · intro h
    induction es generalizing s lost with
    | nil => trivial
    | cons we es ih =>
      have hreturns : ¬ Returns lost we.2 := by
        intro hreturns
        obtain ⟨hst, hnot⟩ := not_bookkeeping_of_returns
          (hs.of_keeps (s.inWorld we.1) (.refl _) ⟨rfl, id, id⟩ rfl) hadm.1 hreturns
        exact hnot (h [we] es rfl hst)
      refine ⟨hreturns, ih (step s we) _ (hs.step hadm.1 hreturns) hadm.2 ?_⟩
      intro before after heq
      exact h (we :: before) after (by rw [heq]; rfl)
  · rintro h before after rfl -
    induction before generalizing s lost with
    | nil => exact hs.bookkeeping
    | cons we before ih => exact ih (step s we) (lostAfter s lost we.2) (hs.step hadm.1 h.1) hadm.2 h.2

/-! ## A match of two -/

def duelWorld : World where
  player guid := { team := if guid = 1 then .alliance else .horde }

def duelConfig : Config := { isArena := false, isRated := false }

def duelScene : Scene where
  nearPoint i guid := i = 0 && guid = 1

def duelStart : List (Event Scene Handler) :=
  [.update duelScene 0, .update duelScene 60000, .update duelScene 0, .update duelScene 0,
    .update duelScene 2000]

def earlyReturn : List (Event Scene Handler) :=
  [.addPlayer 1, .addPlayer 2, .eventPlayerLoggedOut 1, .eventPlayerLoggedIn 1] ++ duelStart

def lateReturn : List (Event Scene Handler) :=
  [.addPlayer 1, .addPlayer 2] ++ duelStart ++ [.eventPlayerLoggedOut 1, .eventPlayerLoggedIn 1]

def duelAfter (es : List (Event Scene Handler)) : Zone EyeOfTheStorm :=
  run step (create duelConfig duelWorld false) (es.map (duelWorld, ·))

theorem earlyReturn_bookkeeping :
    (duelAfter earlyReturn).bg.status = .inProgress ∧ Bookkeeping (duelAfter earlyReturn) := by
  have hst : (duelAfter earlyReturn).bg.status = .inProgress := by decide
  refine ⟨hst, (bookkeeping_iff_nobody_returns rfl duelWorld false _ ?_).2 ?_ _ [] (append_nil _).symm hst⟩
  · decide
  · decide

/-- Who logs out and in again while the match is on is in no list of players. -/
theorem lateReturn_in_no_list :
    AllSteps step (fun s we => Admissible s we.2) (create duelConfig duelWorld false)
        (lateReturn.map (duelWorld, ·)) ∧
      (duelAfter lateReturn).bg.status = .inProgress ∧ ¬ Bookkeeping (duelAfter lateReturn) := by
  refine ⟨by decide, by decide, fun h => ?_⟩
  obtain ⟨p, hp, hon⟩ : ∃ p, (duelAfter lateReturn).bg.roster.players.find? 1 = some p ∧
      p.offlineRemoveTime = 0 := ⟨{ team := Team.alliance.id }, by decide, rfl⟩
  obtain ⟨j, hj, -⟩ := h.placed 1 p hp hon
  revert j
  decide

end Axium.Zones.EY
