import Axium.Zones.ArathiBasin
import Axium.Zones.EyeOfTheStorm

/-!
# The end of Arathi Basin and Eye of the Storm

Both classes test the score of one team after that of the other, and end the match for each team that
has reached the maximum. When both reach it in one update the match ends twice: both teams receive the
reward of the winner, and the winner that stays is the horde. This is the only way in which it ends
twice (**`endedAtMostOnce_iff_oneWinner`**).
-/

namespace Axium.Zones

open Bg Run

variable {s : Zone ArathiBasin} {diff : Nat}

namespace AB

/-- The team reaches the maximum in the tick: it has the points, or earns them with the nodes that it
occupies after the timers of the nodes have run. -/
def ArathiBasin.ReachesMax (z : ArathiBasin) (diff : Nat) (t : Team) : Prop :=
  maxTeamScore ≤ z.teamScores.get t +
    if (z.tickNodes diff).TickDue diff t then tickPoints ((z.tickNodes diff).teamPoints t) else 0

instance (z : ArathiBasin) (diff : Nat) (t : Team) : Decidable (z.ReachesMax diff t) :=
  inferInstanceAs (Decidable (_ ≤ _))

def OneWinner (s : Zone ArathiBasin) (we : World × Event Unit Click) : Prop :=
  match we.2 with
  | .update _ diff =>
    (s.inWorld we.1).Ticks diff → ¬ (s.own.ReachesMax diff .alliance ∧ s.own.ReachesMax diff .horde)
  | _ => True

theorem reachesMax_iff (z : ArathiBasin) (diff : Nat) (t : Team) :
    maxTeamScore ≤ (z.tick diff).teamScores.get t ↔ z.ReachesMax diff t := by
  rw [ArathiBasin.tick_teamScores, ArathiBasin.ReachesMax]
  split
  · omega
  · rw [add_zero]

theorem testWin_endsOnce (hst : s.bg.status ≠ .waitLeave)
    (h : ¬ (maxTeamScore ≤ s.own.teamScores.get .alliance ∧ maxTeamScore ≤ s.own.teamScores.get .horde)) :
    EndsOnce s.bg (testWin s).bg := by
  unfold testWin
  simp only
  by_cases halliance : maxTeamScore ≤ s.own.teamScores.alliance
  · have hhorde : ¬ maxTeamScore ≤ (s.endBattleground Team.alliance.id).own.teamScores.horde :=
      fun hhorde => h ⟨halliance, hhorde⟩
    rw [if_pos halliance, if_neg hhorde]
    exact .endBattleground hst _
  · rw [if_neg halliance]
    split
    · exact .endBattleground hst _
    · exact .refl _

theorem testWin_both (halliance : maxTeamScore ≤ s.own.teamScores.get .alliance)
    (hhorde : maxTeamScore ≤ s.own.teamScores.get .horde) :
    (testWin s).bg = (s.bg.endBattleground Team.alliance.id).endBattleground Team.horde.id := by
  have hsecond : maxTeamScore ≤ (s.endBattleground Team.alliance.id).own.teamScores.horde := hhorde
  unfold testWin
  simp only
  rw [if_pos (show maxTeamScore ≤ s.own.teamScores.alliance from halliance), if_pos hsecond]
  rfl

theorem handle_bg (e : Click) (s : Zone ArathiBasin) : (overrides.handle e s).bg = s.bg := by
  change (eventPlayerClickedOnFlag e.guid e.near s).bg = s.bg
  unfold eventPlayerClickedOnFlag
  split
  · split
    · simp only
      split
      · rfl
      · rfl
    · rfl
  · rfl

theorem postUpdateImpl_endsOnce
    (h : s.bg.status = .inProgress → ¬ (s.own.ReachesMax diff .alliance ∧ s.own.ReachesMax diff .horde)) :
    EndsOnce s.bg (postUpdateImpl diff s).bg := by
  unfold postUpdateImpl
  split
  · rename_i hst
    have hne : s.bg.status ≠ .waitLeave := by
      rw [hst]
      decide
    refine testWin_endsOnce (s := { s with own := s.own.tick diff }) hne ?_
    rintro ⟨halliance, hhorde⟩
    exact h hst ⟨(reachesMax_iff ..).1 halliance, (reachesMax_iff ..).1 hhorde⟩
  · exact .refl _

/-- A step with one winner ends the match once at most. -/
theorem step_endsOnce {we : World × Event Unit Click}
    (ha : s.bg.config.isArena = false) (h : OneWinner s we) : EndsOnce s.bg (step s we).bg := by
  obtain ⟨world, e⟩ := we
  have ha' : (s.inWorld world).bg.config.isArena = false := ha
  have hworld : EndsOnce s.bg (s.inWorld world).bg := .of_frame rfl rfl rfl rfl
  have hevent : EndsOnce (s.inWorld world).bg ((s.inWorld world).event overrides e).bg := by
    apply event_endsOnce ha'
    · intro click
      rw [handle_bg]
      exact .refl _
    · rintro input diff rfl hempty
      apply postUpdateImpl_endsOnce
      intro hst
      rw [updateBase_own]
      exact h ⟨hempty, hst⟩
  exact hworld.trans hevent

/-- A step with two winners ends it twice. -/
theorem step_endsTwice {we : World × Event Unit Click}
    (ha : s.bg.config.isArena = false) (h : ¬ OneWinner s we) :
    (step s we).bg.config = s.bg.config ∧
      s.bg.endings.length + 2 ≤ (step s we).bg.endings.length := by
  obtain ⟨world, e⟩ := we
  cases e with
  | update input diff =>
    obtain ⟨hticks, hboth⟩ := Classical.not_imp.1 h
    obtain ⟨halliance, hhorde⟩ := not_not.1 hboth
    have ha' : (s.inWorld world).bg.config.isArena = false := ha
    have hbase := EndsOnce.update ha' diff
    have hst : ((s.inWorld world).updateBase overrides diff).bg.status = .inProgress := hticks.2
    have hstep : (step s (world, .update input diff)).bg =
        (((s.inWorld world).bg.update diff).endBattleground Team.alliance.id).endBattleground
          Team.horde.id := by
      change ((s.inWorld world).update overrides () diff).bg = _
      rw [update_of_nonempty hticks.1]
      change (postUpdateImpl diff ((s.inWorld world).updateBase overrides diff)).bg = _
      rw [postUpdateImpl, if_pos hst, updateBase_own]
      exact testWin_both ((reachesMax_iff ..).2 halliance) ((reachesMax_iff ..).2 hhorde)
    rw [hstep]
    exact hbase.twice ..
  | _ => exact absurd trivial h

end AB

/-! ## Eye of the Storm -/

namespace EY

def EyeOfTheStorm.ReachesMax (z : EyeOfTheStorm) (t : Team) : Prop :=
  0 < z.teamPointsCount.get t ∧
    maxTeamScore ≤ z.teamScores.get t + tickPoints.getD (z.teamPointsCount.get t - 1) 0

instance (z : EyeOfTheStorm) (t : Team) : Decidable (z.ReachesMax t) := inferInstanceAs (Decidable (_ ∧ _))

def OneWinner (s : Zone EyeOfTheStorm) (we : World × Event Scene Handler) : Prop :=
  match we.2 with
  | .update _ diff =>
    (s.inWorld we.1).Ticks diff → sub32 s.own.pointAddingTimer diff ≤ 0 →
      ¬ (s.own.ReachesMax .alliance ∧ s.own.ReachesMax .horde)
  | _ => True

section

variable {s : Zone EyeOfTheStorm}

theorem addPoints_endsOnce (hst : s.bg.status ≠ .waitLeave) (t : Team) (points : Nat) :
    EndsOnce s.bg (addPoints t points s).bg := by
  unfold addPoints updateTeamScore
  split
  · exact EndsOnce.endBattleground (s := s.bg) hst t.id
  · exact .refl _

theorem addPointsFor_endsOnce (hst : s.bg.status ≠ .waitLeave) (table : List Nat) (t : Team) :
    EndsOnce s.bg (addPointsFor table t s).bg := by
  unfold addPointsFor
  split
  · exact addPoints_endsOnce hst t _
  · exact .refl _

theorem addPointsFor_of_reachesMax {t : Team} (h : s.own.ReachesMax t) :
    (addPointsFor tickPoints t s).bg = s.bg.endBattleground t.id := by
  have hscore : maxTeamScore ≤ (addScore t (tickPoints.getD (s.own.teamPointsCount.get t - 1) 0)
      s.own).teamScores.get t := by
    change maxTeamScore ≤ (s.own.teamScores.set t _).get t
    rw [PerTeam.get_set_self]
    exact h.2
  rw [addPointsFor, if_pos h.1, addPoints, updateTeamScore, if_pos hscore]
  rfl

theorem addPointsFor_of_not_reachesMax {t : Team} (h : ¬ s.own.ReachesMax t) :
    (addPointsFor tickPoints t s).bg = s.bg := by
  unfold addPointsFor
  split
  · rename_i hpos
    have hscore : ¬ maxTeamScore ≤ (addScore t
        (tickPoints.getD (s.own.teamPointsCount.get t - 1) 0) s.own).teamScores.get t := by
      change ¬ maxTeamScore ≤ (s.own.teamScores.set t _).get t
      rw [PerTeam.get_set_self]
      exact fun hle => h ⟨hpos, hle⟩
    rw [addPoints, updateTeamScore, if_neg hscore]
  · rfl

theorem reachesMax_addPointsFor (table : List Nat) {t t' : Team} (hne : t ≠ t') :
    (addPointsFor table t s).own.ReachesMax t' ↔ s.own.ReachesMax t' := by
  have hown : (addPointsFor table t s).own.teamPointsCount = s.own.teamPointsCount ∧
      (addPointsFor table t s).own.teamScores.get t' = s.own.teamScores.get t' := by
    unfold addPointsFor addPoints updateTeamScore
    split
    · split
      · exact ⟨rfl, PerTeam.get_set_ne _ _ hne⟩
      · exact ⟨rfl, PerTeam.get_set_ne _ _ hne⟩
    · exact ⟨rfl, rfl⟩
  unfold EyeOfTheStorm.ReachesMax
  rw [hown.1, hown.2]

theorem tickScores_endsOnce (hst : s.bg.status ≠ .waitLeave)
    (h : sub32 s.own.pointAddingTimer diff ≤ 0 → ¬ (s.own.ReachesMax .alliance ∧ s.own.ReachesMax .horde)) :
    EndsOnce s.bg (tickScores diff s).bg := by
  unfold tickScores
  simp only
  split
  · rename_i hdue
    have hdue := h hdue
    generalize hs' : ({ s with own := { s.own with pointAddingTimer := fpointsTickTime } } :
      Zone EyeOfTheStorm) = s'
    have hbg : s'.bg = s.bg := by rw [← hs']
    have halliance' : s'.own.ReachesMax .alliance ↔ s.own.ReachesMax .alliance := by
      rw [← hs']
      rfl
    have hhorde' : s'.own.ReachesMax .horde ↔ s.own.ReachesMax .horde := by
      rw [← hs']
      rfl
    rw [← hbg] at hst ⊢
    by_cases halliance : s.own.ReachesMax .alliance
    · -- the alliance ends the match, the horde does not reach the maximum
      have hhorde : ¬ (addPointsFor tickPoints .alliance s').own.ReachesMax .horde := by
        rw [reachesMax_addPointsFor tickPoints (by decide), hhorde']
        exact fun hhorde => hdue ⟨halliance, hhorde⟩
      rw [addPointsFor_of_not_reachesMax hhorde]
      exact addPointsFor_endsOnce hst _ _
    · have hfirst : (addPointsFor tickPoints .alliance s').bg = s'.bg :=
        addPointsFor_of_not_reachesMax (fun h => halliance (halliance'.1 h))
      have hsecond := addPointsFor_endsOnce (s := addPointsFor tickPoints .alliance s')
        (by rw [hfirst]; exact hst) tickPoints .horde
      rw [hfirst] at hsecond
      exact hsecond
  · exact .refl _

theorem eventPlayerCapturedFlag_endsOnce {bg : Battleground} (guid : Guid) (t : Team)
    (hs : s.bg = bg) : EndsOnce bg (eventPlayerCapturedFlag guid t s).bg := by
  subst hs
  unfold eventPlayerCapturedFlag
  split
  · rename_i h
    have hst : s.bg.status ≠ .waitLeave := by
      rw [h.1]
      decide
    let z := { s.own with
      flagKeeper := 0, flagState := .waitRespawn, flagsTimer := flagRespawnTime }
    exact addPointsFor_endsOnce (s := { s with own := z }) hst flagPoints t
  · exact .refl _

theorem postUpdateImpl_endsOnce {scene : Scene}
    (h : s.bg.status = .inProgress → sub32 s.own.pointAddingTimer diff ≤ 0 →
      ¬ (s.own.ReachesMax .alliance ∧ s.own.ReachesMax .horde)) :
    EndsOnce s.bg (postUpdateImpl scene diff s).bg := by
  unfold postUpdateImpl
  split
  · rename_i hst
    have hne : s.bg.status ≠ .waitLeave := by
      rw [hst]
      decide
    exact (tickScores_endsOnce hne (h hst)).trans
      (tickPointsCheck_bg EndsOnce.refl eventPlayerCapturedFlag_endsOnce .trans scene diff
        { tickScores diff s with own := tickFlag diff (tickScores diff s).own })
  · exact .refl _

/-- What `OneWinner` reads of the data of the class. -/
def SameScores (z z' : EyeOfTheStorm) : Prop :=
  z'.teamPointsCount = z.teamPointsCount ∧ z'.teamScores = z.teamScores ∧
    z'.pointAddingTimer = z.pointAddingTimer

theorem SameScores.trans {z z' z'' : EyeOfTheStorm} (h : SameScores z z') (h' : SameScores z' z'') :
    SameScores z z'' :=
  ⟨h'.1.trans h.1, h'.2.1.trans h.2.1, h'.2.2.trans h.2.2⟩

theorem eventPlayerDroppedFlag_sameScores (status : Status) (guid : Guid) (z : EyeOfTheStorm) :
    SameScores z (eventPlayerDroppedFlag status guid z) := by
  unfold eventPlayerDroppedFlag
  split
  · split
    · exact ⟨rfl, rfl, rfl⟩
    · exact ⟨rfl, rfl, rfl⟩
  · exact ⟨rfl, rfl, rfl⟩

theorem removePlayer_sameScores (status : Status) (player : Option Team) (guid : Guid)
    (z : EyeOfTheStorm) : SameScores z (removePlayer status player guid z) := by
  let z' := { z with playersNearPoint := fun j => eraseScan guid (z.playersNearPoint j) }
  have herase : SameScores z z' := ⟨rfl, rfl, rfl⟩
  apply herase.trans
  change SameScores z' (if z'.flagKeeper ≠ 0 ∧ z'.flagKeeper = guid then
    (if player.isSome = true then eventPlayerDroppedFlag status guid z' else _) else z')
  split
  · split
    · exact eventPlayerDroppedFlag_sameScores status guid z'
    · exact ⟨rfl, rfl, rfl⟩
  · exact ⟨rfl, rfl, rfl⟩

theorem updateBase_sameScores (s : Zone EyeOfTheStorm) (diff : Nat) :
    SameScores s.own (s.updateBase overrides diff).own := by
  unfold Zone.updateBase
  simp only
  induction removedBy s.bg diff using List.reverseRecOn with
  | nil => exact ⟨rfl, rfl, rfl⟩
  | append_singleton guids guid ih =>
    rw [List.foldl_append]
    exact ih.trans (removePlayer_sameScores s.bg.status (findPlayer s.bg guid) guid _)

theorem SameScores.reachesMax_iff {z z' : EyeOfTheStorm} (h : SameScores z z') (t : Team) :
    z'.ReachesMax t ↔ z.ReachesMax t := by
  unfold EyeOfTheStorm.ReachesMax
  rw [h.1, h.2.1]

/-- A step with one winner ends the match once at most. -/
theorem step_endsOnce {we : World × Event Scene Handler} (ha : s.bg.config.isArena = false)
    (h : OneWinner s we) : EndsOnce s.bg (step s we).bg := by
  obtain ⟨world, e⟩ := we
  have ha' : (s.inWorld world).bg.config.isArena = false := ha
  have hworld : EndsOnce s.bg (s.inWorld world).bg := .of_frame rfl rfl rfl rfl
  have hevent : EndsOnce (s.inWorld world).bg ((s.inWorld world).event overrides e).bg := by
    apply event_endsOnce ha'
    · exact handle_bg EndsOnce.refl eventPlayerCapturedFlag_endsOnce (s.inWorld world)
    · rintro scene diff rfl hempty
      have hsame := updateBase_sameScores (s.inWorld world) diff
      apply postUpdateImpl_endsOnce
      intro hst hdue
      rw [hsame.2.2] at hdue
      rw [hsame.reachesMax_iff, hsame.reachesMax_iff]
      exact h ⟨hempty, hst⟩ hdue
  exact hworld.trans hevent

theorem tickScores_both (hdue : sub32 s.own.pointAddingTimer diff ≤ 0)
    (halliance : s.own.ReachesMax .alliance) (hhorde : s.own.ReachesMax .horde) :
    (tickScores diff s).bg = (s.bg.endBattleground Team.alliance.id).endBattleground Team.horde.id := by
  let s' : Zone EyeOfTheStorm := { s with own := { s.own with pointAddingTimer := fpointsTickTime } }
  have halliance' : s'.own.ReachesMax .alliance := halliance
  have hhorde' : (addPointsFor tickPoints .alliance s').own.ReachesMax .horde :=
    (reachesMax_addPointsFor tickPoints (by decide)).2 hhorde
  unfold tickScores
  simp only
  rw [if_pos hdue]
  rw [addPointsFor_of_reachesMax hhorde', addPointsFor_of_reachesMax halliance']

/-- A step with two winners ends it twice. -/
theorem step_endsTwice {we : World × Event Scene Handler} (ha : s.bg.config.isArena = false)
    (h : ¬ OneWinner s we) :
    (step s we).bg.config = s.bg.config ∧
      s.bg.endings.length + 2 ≤ (step s we).bg.endings.length := by
  obtain ⟨world, e⟩ := we
  cases e with
  | update scene diff =>
    obtain ⟨hticks, hrest⟩ := Classical.not_imp.1 h
    obtain ⟨hdue, hboth⟩ := Classical.not_imp.1 hrest
    obtain ⟨halliance, hhorde⟩ := not_not.1 hboth
    have ha' : (s.inWorld world).bg.config.isArena = false := ha
    have hbase := EndsOnce.update ha' diff
    let base := (s.inWorld world).updateBase overrides diff
    have hst : base.bg.status = .inProgress := hticks.2
    have hsame : SameScores s.own base.own := updateBase_sameScores (s.inWorld world) diff
    have hscores : (tickScores diff base).bg
        = (base.bg.endBattleground Team.alliance.id).endBattleground Team.horde.id := by
      apply tickScores_both
      · rw [hsame.2.2]
        exact hdue
      · exact (hsame.reachesMax_iff _).2 halliance
      · exact (hsame.reachesMax_iff _).2 hhorde
    have hcheck := tickPointsCheck_bg EndsOnce.refl eventPlayerCapturedFlag_endsOnce .trans scene diff
      { tickScores diff base with own := tickFlag diff (tickScores diff base).own }
    have hstep : (step s (world, .update scene diff)).bg = (tickPointsCheck scene diff
        { tickScores diff base with own := tickFlag diff (tickScores diff base).own }).bg := by
      change ((s.inWorld world).update overrides scene diff).bg = _
      rw [update_of_nonempty hticks.1]
      change (postUpdateImpl scene diff base).bg = _
      rw [postUpdateImpl, if_pos hst]
    have htwice : (tickScores diff base).bg.config = s.bg.config ∧
        s.bg.endings.length + 2 ≤ (tickScores diff base).bg.endings.length := by
      rw [hscores]
      exact hbase.twice ..
    rw [hstep]
    exact ⟨hcheck.config.trans htwice.1, htwice.2.trans hcheck.length_le⟩
  | _ => exact absurd trivial h

end

end EY

/-! ## Runs -/

/-- Arathi Basin and Eye of the Storm end at most once, with one winner, exactly in the runs in which no
update finds both teams reaching the maximum. -/
theorem endedAtMostOnce_iff_oneWinner (config : Config) (ha : config.isArena = false) (world : World)
    (isBGWeekend : Bool) :
    (∀ es, EndedAtMostOnce AB.step (AB.create config world isBGWeekend) es ↔
      AllSteps AB.step AB.OneWinner (AB.create config world isBGWeekend) es) ∧
    ∀ es, EndedAtMostOnce EY.step (EY.create config world isBGWeekend) es ↔
      AllSteps EY.step EY.OneWinner (EY.create config world isBGWeekend) es := by
  constructor
  · intro es
    exact endedAtMostOnce_iff (fun _ _ => AB.step_endsOnce) (fun _ _ => AB.step_endsTwice) ha rfl es
  · intro es
    exact endedAtMostOnce_iff (fun _ _ => EY.step_endsOnce) (fun _ _ => EY.step_endsTwice) ha rfl es

/-! ## A tie -/

namespace AB

instance (s : Zone ArathiBasin) (we : World × Event Unit Click) : Decidable (OneWinner s we) :=
  match we with
  | (_, .update _ _) => inferInstanceAs (Decidable (_ → ¬ (_ ∧ _)))
  | (_, .addPlayer _) | (_, .increaseInvitedCount _) | (_, .decreaseInvitedCount _)
  | (_, .removePlayerAtLeave _) | (_, .eventPlayerLoggedOut _) | (_, .eventPlayerLoggedIn _)
  | (_, .handle _) => isTrue trivial

/-- The Alliance takes every node and wins. -/
def sweepRun : List (World × Event Unit Click) :=
  (duelOpening.take 6 ++ (List.finRange 5).map (clickAt 1) ++
    Event.update () 60000 :: List.replicate 54 (Event.update () 1000)).map (duelWorld, ·)

theorem sweepRun_endsOnce :
    (run step (create duelConfig duelWorld false) sweepRun).bg.endings = [Team.alliance.id] ∧
      EndedAtMostOnce step (create duelConfig duelWorld false) sweepRun :=
  ⟨by decide +kernel, ((endedAtMostOnce_iff_oneWinner duelConfig rfl duelWorld false).1 _).2 (by decide +kernel)⟩

/-- The opening and `n` updates, in each of which both teams earn ten points. -/
def duelRun (n : Nat) : List (World × Event Unit Click) :=
  (duelOpening ++ List.replicate n (Event.update () 9000)).map (duelWorld, ·)

/-- Both teams reach the maximum with one tick, and each is declared the winner. -/
theorem duelRun_endsTwice :
    (run step (create duelConfig duelWorld false) (duelRun 159)).bg.endings
        = [Team.alliance.id, Team.horde.id] ∧
      ¬ EndedAtMostOnce step (create duelConfig duelWorld false) (duelRun 159) := by
  have hendings : (run step (create duelConfig duelWorld false) (duelRun 159)).bg.endings
      = [Team.alliance.id, Team.horde.id] := by
    decide +kernel
  refine ⟨hendings, fun h => ?_⟩
  have hlen := h.1
  rw [hendings] at hlen
  exact absurd hlen (by decide)

end AB

end Axium.Zones
