import Axium.Zones.WarsongGulch

/-!
# The flags of Warsong Gulch

What `BattlegroundWS` keeps about a flag while the match is on: it is on a player exactly when it has a
keeper, who is inside and of the other team, and a captured flag waits for its timer.
-/

namespace Axium.Zones.WS

open Bg Run OrdMap WarsongGulch PerTeam

/-! ## One flag -/

structure FlagWF (team : Guid → Team) (inside : Guid → Prop) (z : WarsongGulch) (flag : Team) :
    Prop where
  onPlayer_iff : z.flagState.get flag = .onPlayer ↔ z.flagKeepers.get flag ≠ 0
  keeper : z.flagKeepers.get flag ≠ 0 →
    inside (z.flagKeepers.get flag) ∧ team (z.flagKeepers.get flag) = flag.other
  pending : z.flagState.get flag = .waitRespawn → 0 ≤ z.flagsTimer.get flag

namespace FlagWF

variable {team : Guid → Team} {inside inside' : Guid → Prop} {z z' : WarsongGulch} {flag : Team}

theorem of_same (h : FlagWF team inside z flag) (hkeeper : z'.flagKeepers.get flag = z.flagKeepers.get flag)
    (hstate : z'.flagState.get flag = z.flagState.get flag)
    (htimer : z'.flagsTimer.get flag = z.flagsTimer.get flag) : FlagWF team inside z' flag where
  onPlayer_iff := by
    rw [hstate, hkeeper]
    exact h.onPlayer_iff
  keeper := by
    rw [hkeeper]
    exact h.keeper
  pending := by
    rw [hstate, htimer]
    exact h.pending

theorem of_free (hkeeper : z.flagKeepers.get flag = 0) (hplayer : z.flagState.get flag ≠ .onPlayer)
    (htimer : z.flagState.get flag = .waitRespawn → 0 ≤ z.flagsTimer.get flag) : FlagWF team inside z flag where
  onPlayer_iff := ⟨fun h => absurd h hplayer, fun h => absurd hkeeper h⟩
  keeper h := absurd hkeeper h
  pending := htimer

theorem free (h : FlagWF team inside z flag) (hplayer : z.flagState.get flag ≠ .onPlayer) :
    z.flagKeepers.get flag = 0 := by
  by_contra hne
  exact hplayer (h.onPlayer_iff.2 hne)

theorem mono (h : FlagWF team inside z flag)
    (hin : z.flagKeepers.get flag ≠ 0 → inside' (z.flagKeepers.get flag)) : FlagWF team inside' z flag :=
  ⟨h.onPlayer_iff, fun hne => ⟨hin hne, (h.keeper hne).2⟩, h.pending⟩

end FlagWF

def FlagsWF (team : Guid → Team) (inside : Guid → Prop) (z : WarsongGulch) : Prop :=
  ∀ flag, FlagWF team inside z flag

namespace FlagsWF

variable {team : Guid → Team} {inside : Guid → Prop} {z z' : WarsongGulch}

theorem of_change (h : FlagsWF team inside z) (flag : Team) (hflag : FlagWF team inside z' flag)
    (hkeepers : ∀ u, u ≠ flag → z'.flagKeepers.get u = z.flagKeepers.get u)
    (hstate : ∀ u, u ≠ flag → z'.flagState.get u = z.flagState.get u)
    (htimer : ∀ u, u ≠ flag → z'.flagsTimer.get u = z.flagsTimer.get u) : FlagsWF team inside z' := by
  intro u
  by_cases hu : u = flag
  · rw [hu]
    exact hflag
  · exact (h u).of_same (hkeepers u hu) (hstate u hu) (htimer u hu)

theorem of_freed (h : FlagsWF team inside z) {flag : Team} (state : FlagState)
    (hplayer : state ≠ .onPlayer) (hwait : state ≠ .waitRespawn) (hfree : z'.flagKeepers.get flag = 0)
    (hkeepers : ∀ u, u ≠ flag → z'.flagKeepers.get u = z.flagKeepers.get u)
    (hstate : z'.flagState = z.flagState.set flag state) (htimer : z'.flagsTimer = z.flagsTimer) :
    FlagsWF team inside z' := by
  have hnew : z'.flagState.get flag = state := by
    rw [hstate, get_set_self]
  refine h.of_change flag (.of_free hfree ?_ ?_) hkeepers ?_ ?_
  · rw [hnew]
    exact hplayer
  · rw [hnew]
    exact fun hw => absurd hw hwait
  · intro u hu
    rw [hstate, get_set_ne _ _ hu.symm]
  · intro u _
    rw [htimer]

theorem respawnFlag (h : FlagsWF team inside z) {flag : Team} (hfree : z.flagKeepers.get flag = 0) :
    FlagsWF team inside (z.respawnFlag flag) :=
  h.of_freed .onBase (by decide) (by decide) hfree (fun _ _ => rfl) rfl rfl

variable {guid : Guid}

theorem pickUp (h : FlagsWF team inside z) {flag : Team} (hguid : guid ≠ 0)
    (hin : inside guid) (hteam : team guid = flag.other) : FlagsWF team inside (z.pickUp flag guid) := by
  have hstate : (z.pickUp flag guid).flagState.get flag = .onPlayer := get_set_self ..
  have hkeeper : (z.pickUp flag guid).flagKeepers.get flag = guid := get_set_self ..
  refine h.of_change flag ⟨?_, ?_, ?_⟩ (fun u hu => get_set_ne _ _ hu.symm)
    (fun u hu => get_set_ne _ _ hu.symm) (fun _ _ => rfl)
  · rw [hstate, hkeeper]
    exact ⟨fun _ => hguid, fun _ => rfl⟩
  · rw [hkeeper]
    exact fun _ => ⟨hin, hteam⟩
  · rw [hstate]
    exact fun hw => by cases hw

variable {status : Status}

section

variable (h : FlagsWF team inside z)
include h

theorem eventPlayerDroppedFlag (hst : status = .inProgress) (t : Team) (guid : Guid) :
    FlagsWF team inside (z.eventPlayerDroppedFlag status t guid) := by
  unfold WarsongGulch.eventPlayerDroppedFlag
  simp only
  by_cases hkeeper : z.flagKeepers.get t.other ≠ 0 ∧ z.flagKeepers.get t.other = guid
  · rw [if_pos hkeeper, if_pos hst]
    exact h.of_freed .onGround (by decide) (by decide) (get_set_self ..)
      (fun u hu => get_set_ne _ _ hu.symm) rfl rfl
  · rw [if_neg hkeeper]
    exact h

theorem clickBase (hguid : guid ≠ 0) (hin : inside guid) (object : Option Team) (flag : Team) :
    FlagsWF team inside (z.clickBase (team guid) guid object flag) := by
  unfold WarsongGulch.clickBase
  split
  · rename_i hclick
    intro u
    exact (h.pickUp hguid hin hclick.1 u).of_same rfl rfl rfl
  · exact h

theorem clickGround (hguid : guid ≠ 0) (hin : inside guid) (within : Bool) (flag : Team) :
    FlagsWF team inside (z.clickGround (team guid) guid within flag) := by
  unfold WarsongGulch.clickGround
  split
  · rename_i hground
    split
    · apply h.respawnFlag
      apply (h flag).free
      rw [hground.1]
      decide
    · rename_i hteam
      exact h.pickUp hguid hin (Team.eq_other_of_ne hteam)
  · exact h

theorem eventPlayerClickedOnFlag (status : Status)
    (hguid : guid ≠ 0) (hin : inside guid) (object : Option Team) (within : Bool) :
    FlagsWF team inside (z.eventPlayerClickedOnFlag status (team guid) guid object within) := by
  unfold WarsongGulch.eventPlayerClickedOnFlag
  split
  · have hbase := (h.clickBase hguid hin object .alliance).clickBase hguid hin object .horde
    exact (hbase.clickGround hguid hin within .alliance).clickGround hguid hin within .horde
  · exact h

theorem tickRespawn (diff : Nat) (flag : Team) : FlagsWF team inside (z.tickRespawn diff flag) := by
  unfold WarsongGulch.tickRespawn
  simp only
  split
  · rename_i hwait
    have hfree : z.flagKeepers.get flag = 0 := by
      apply (h flag).free
      rw [hwait]
      decide
    have htimer (timer : Int) (hpos : 0 ≤ timer) :
        FlagsWF team inside { z with flagsTimer := z.flagsTimer.set flag timer } := by
      refine h.of_change flag (.of_free hfree ?_ ?_) (fun _ _ => rfl) (fun _ _ => rfl)
        (fun u hu => get_set_ne _ _ hu.symm)
      · change z.flagState.get flag ≠ _
        rw [hwait]
        decide
      · intro _
        rw [get_set_self]
        exact hpos
    split
    · exact (htimer 0 (le_refl 0)).respawnFlag hfree
    · rename_i hpos
      exact htimer _ (not_lt.1 hpos)
  · exact h

theorem tickDrop (status : Status) (diff : Nat) (flag : Team) :
    FlagsWF team inside (z.tickDrop status diff flag) := by
  unfold WarsongGulch.tickDrop respawnFlagAfterDrop
  simp only
  split
  · rename_i hground
    have hfree : z.flagKeepers.get flag = 0 := by
      apply (h flag).free
      rw [hground]
      decide
    split
    · split
      · exact fun u => (h.respawnFlag hfree u).of_same rfl rfl rfl
      · exact fun u => (h u).of_same rfl rfl rfl
    · exact fun u => (h u).of_same rfl rfl rfl
  · exact h

theorem tick (status : Status) (diff : Nat) : FlagsWF team inside (z.tick status diff) := by
  have hdebuff (z : WarsongGulch) (hz : FlagsWF team inside z) : FlagsWF team inside (z.tickDebuff diff) := by
    unfold tickDebuff
    split
    · exact fun u => (hz u).of_same rfl rfl rfl
    · exact fun u => (hz u).of_same rfl rfl rfl
  apply hdebuff
  exact (((h.tickRespawn diff .alliance).tickDrop status diff .alliance).tickRespawn diff
    .horde).tickDrop status diff .horde

theorem takeFlag (hst : status = .inProgress)
    {player : Option Team} (hplayer : player = none ∨ player = some (team guid)) (flag : Team) :
    FlagsWF team inside (z.takeFlag status player guid flag) ∧
      (z.takeFlag status player guid flag).flagKeepers.get flag
        = (if z.flagKeepers.get flag = guid then 0 else z.flagKeepers.get flag) ∧
      ∀ u, u ≠ flag →
        (z.takeFlag status player guid flag).flagKeepers.get u = z.flagKeepers.get u := by
  unfold WarsongGulch.takeFlag
  split
  · rename_i hkeeper
    have hother : (team guid).other = flag := by
      rw [← hkeeper.2, ((h flag).keeper hkeeper.1).2, Team.other_other]
    rw [if_pos hkeeper.2]
    rcases hplayer with rfl | rfl
    · have hkeepers : ∀ u, u ≠ flag → (z.flagKeepers.set flag 0).get u = z.flagKeepers.get u :=
        fun u hu => get_set_ne _ _ hu.symm
      refine ⟨?_, get_set_self .., hkeepers⟩
      exact h.of_freed .onBase (by decide) (by decide) (get_set_self ..) hkeepers rfl rfl
    · refine ⟨h.eventPlayerDroppedFlag hst _ _, ?_⟩
      have hcond : z.flagKeepers.get (team guid).other ≠ 0 ∧
          z.flagKeepers.get (team guid).other = guid := hother ▸ hkeeper
      unfold WarsongGulch.eventPlayerDroppedFlag
      simp only
      rw [if_pos hcond, if_pos hst, hother]
      exact ⟨get_set_self .., fun u hu => get_set_ne _ _ hu.symm⟩
  · rename_i hkeeper
    refine ⟨h, ?_, fun _ _ => rfl⟩
    split
    · rename_i heq
      by_contra hne
      exact hkeeper ⟨hne, heq⟩
    · rfl

theorem removePlayer (hst : status = .inProgress)
    {player : Option Team} (hplayer : player = none ∨ player = some (team guid)) :
    FlagsWF team (fun g => inside g ∧ g ≠ guid) (removePlayer status player guid z) := by
  obtain ⟨hwf, halliance, hother⟩ := h.takeFlag hst hplayer .alliance
  obtain ⟨hwf', hhorde, hother'⟩ := hwf.takeFlag hst hplayer .horde
  have hfree (k : Guid) : (if k = guid then 0 else k) ≠ 0 → (if k = guid then 0 else k) ≠ guid := by
    split
    · exact fun hne => absurd rfl hne
    · rename_i hk
      exact fun _ => hk
  intro flag
  refine (hwf' flag).mono (fun hne => ⟨((hwf' flag).keeper hne).1, ?_⟩)
  revert hne
  cases flag with
  | alliance =>
    rw [hother' .alliance (by decide), halliance]
    exact hfree _
  | horde =>
    rw [hhorde]
    exact hfree _

theorem foldl_removePlayer (hst : status = .inProgress) {player : Guid → Option Team}
    (hplayer : ∀ guid, player guid = none ∨ player guid = some (team guid)) (guids : List Guid) :
    FlagsWF team (fun g => inside g ∧ g ∉ guids)
      (guids.foldl (fun z guid => WS.removePlayer status (player guid) guid z) z) := by
  induction guids generalizing z inside with
  | nil => exact fun flag => (h flag).mono (fun hne => ⟨((h flag).keeper hne).1, List.not_mem_nil⟩)
  | cons g guids ih =>
    have hrest := ih (h.removePlayer hst (hplayer g))
    intro flag
    refine (hrest flag).mono (fun hne => ?_)
    obtain ⟨⟨hin, hg⟩, hmem⟩ := ((hrest flag).keeper hne).1
    exact ⟨hin, fun hcons => (List.mem_cons.1 hcons).elim hg hmem⟩

end

end FlagsWF

/-! ## Before the match, and the scores -/

section Frame

variable (z : WarsongGulch)

theorem takeFlag_of_free {flag : Team} (h : z.flagKeepers.get flag = 0) (status : Status)
    (player : Option Team) (guid : Guid) : z.takeFlag status player guid flag = z := by
  unfold WarsongGulch.takeFlag
  rw [if_neg]
  exact fun hkeeper => hkeeper.1 h

theorem foldl_removePlayer_of_free (h : ∀ flag, z.flagKeepers.get flag = 0) (status : Status)
    (player : Guid → Option Team) (guids : List Guid) :
    guids.foldl (fun z guid => removePlayer status (player guid) guid z) z = z := by
  induction guids with
  | nil => rfl
  | cons g guids ih =>
    have hone : removePlayer status (player g) g z = z := by
      rw [removePlayer, takeFlag_of_free z (h .alliance), takeFlag_of_free z (h .horde)]
    rw [List.foldl_cons, hone, ih]

theorem eventPlayerDroppedFlag_of_free (h : ∀ flag, z.flagKeepers.get flag = 0) (status : Status)
    (t : Team) (guid : Guid) : z.eventPlayerDroppedFlag status t guid = z := by
  unfold WarsongGulch.eventPlayerDroppedFlag
  simp only
  rw [if_neg]
  exact fun hkeeper => hkeeper.1 (h t.other)

theorem eventPlayerDroppedFlag_scores (status : Status) (t : Team) (guid : Guid) :
    (z.eventPlayerDroppedFlag status t guid).teamScores = z.teamScores := by
  unfold WarsongGulch.eventPlayerDroppedFlag
  simp only
  split
  · split
    · rfl
    · rfl
  · rfl

theorem foldl_removePlayer_scores (status : Status) (player : Guid → Option Team) (guids : List Guid) :
    (guids.foldl (fun z guid => removePlayer status (player guid) guid z) z).teamScores = z.teamScores := by
  have htake (z : WarsongGulch) (p : Option Team) (guid : Guid) (flag : Team) :
      (z.takeFlag status p guid flag).teamScores = z.teamScores := by
    unfold WarsongGulch.takeFlag
    split
    · cases p with
      | none => rfl
      | some t => exact eventPlayerDroppedFlag_scores z status t guid
    · rfl
  induction guids generalizing z with
  | nil => rfl
  | cons g guids ih => rw [List.foldl_cons, ih, removePlayer, htake, htake]

theorem eventPlayerClickedOnFlag_scores (status : Status) (t : Team) (guid : Guid)
    (object : Option Team) (within : Bool) :
    (z.eventPlayerClickedOnFlag status t guid object within).teamScores = z.teamScores := by
  have hbase (z : WarsongGulch) (flag : Team) : (z.clickBase t guid object flag).teamScores = z.teamScores := by
    unfold WarsongGulch.clickBase
    split
    · rfl
    · rfl
  have hground (z : WarsongGulch) (flag : Team) :
      (z.clickGround t guid within flag).teamScores = z.teamScores := by
    unfold WarsongGulch.clickGround
    split
    · split
      · rfl
      · rfl
    · rfl
  unfold WarsongGulch.eventPlayerClickedOnFlag
  split
  · simp only [hground, hbase]
  · rfl

theorem tick_scores (status : Status) (diff : Nat) : (z.tick status diff).teamScores = z.teamScores := by
  have hrespawn (z : WarsongGulch) (flag : Team) : (z.tickRespawn diff flag).teamScores = z.teamScores := by
    unfold WarsongGulch.tickRespawn
    simp only
    split
    · split
      · rfl
      · rfl
    · rfl
  have hdrop (z : WarsongGulch) (flag : Team) : (z.tickDrop status diff flag).teamScores = z.teamScores := by
    unfold WarsongGulch.tickDrop respawnFlagAfterDrop
    simp only
    split
    · split
      · split
        · rfl
        · rfl
      · rfl
    · rfl
  have hdebuff (z : WarsongGulch) : (z.tickDebuff diff).teamScores = z.teamScores := by
    unfold tickDebuff
    split
    · rfl
    · rfl
  simp only [tick, tickFlag, hdebuff, hdrop, hrespawn]

end Frame

/-! ## A run -/

/-- While the match is on, a flag is on a player exactly when it has a keeper, who is inside. -/
structure FlagMatch (team : Guid → Team) (s : Zone WarsongGulch) : Prop where
  isBattleground : s.bg.config.isArena = false
  entries : ∀ guid p, s.bg.roster.players.find? guid = some p → p.team = (team guid).id
  before : ¬ Began s.bg → ∀ flag, s.own.flagKeepers.get flag = 0 ∧ s.own.flagState.get flag = .onBase
  flags : s.bg.status = .inProgress → FlagsWF team (· ∈ s.bg.roster.players.keys) s.own
  score_le : ∀ t, s.own.teamScores.get t ≤ maxTeamScore
  score_lt : s.bg.status ≠ .waitLeave → ∀ t, s.own.teamScores.get t < maxTeamScore

namespace FlagMatch

variable {team : Guid → Team} {s : Zone WarsongGulch}

theorem scores_of_same (h : FlagMatch team s) {s' : Zone WarsongGulch} (hadv : Advances s.bg s'.bg)
    (hscores : s'.own.teamScores = s.own.teamScores) :
    (∀ t, s'.own.teamScores.get t ≤ maxTeamScore) ∧
      (s'.bg.status ≠ .waitLeave → ∀ t, s'.own.teamScores.get t < maxTeamScore) := by
  rw [hscores]
  exact ⟨h.score_le, fun hst => h.score_lt (fun hover => hst (hadv.ended hover))⟩

theorem remove (h : FlagMatch team s) (s' : Zone WarsongGulch) (guids : List Guid) {player : Guid → Option Team}
    (hplayer : ∀ guid, player guid = none ∨ player guid = some (team guid))
    (hown : s'.own = guids.foldl (fun z guid => removePlayer s.bg.status (player guid) guid z) s.own)
    (hadv : Advances s.bg s'.bg)
    (hentries : ∀ guid p, s'.bg.roster.players.find? guid = some p → p.team = (team guid).id)
    (hkeys : ∀ guid ∈ s.bg.roster.players.keys, guid ∉ guids → guid ∈ s'.bg.roster.players.keys) :
    FlagMatch team s' := by
  have hsame (hnot : ¬ Began s.bg) : s'.own = s.own := by
    rw [hown, foldl_removePlayer_of_free _ (fun flag => (h.before hnot flag).1)]
  have hscores : s'.own.teamScores = s.own.teamScores := by
    rw [hown, foldl_removePlayer_scores]
  obtain ⟨hle, hlt⟩ := h.scores_of_same hadv hscores
  refine ⟨by rw [hadv.config]; exact h.isBattleground, hentries, fun hnot => ?_, fun hst flag => ?_, hle, hlt⟩
  · have hnot' : ¬ Began s.bg := fun hs => hnot (hadv.began hs)
    rw [hsame hnot']
    exact h.before hnot'
  · by_cases hbegan : Began s.bg
    · have hin : s.bg.status = .inProgress := by
        refine hbegan.resolve_right (fun hover => ?_)
        have hover' := hadv.ended hover
        rw [hst] at hover'
        cases hover'
      have hrest := (h.flags hin).foldl_removePlayer hin hplayer guids
      rw [← hown] at hrest
      refine (hrest flag).mono (fun hne => ?_)
      obtain ⟨hmem, hnot⟩ := ((hrest flag).keeper hne).1
      exact hkeys _ hmem hnot
    · obtain ⟨hfree, hbase⟩ := h.before hbegan flag
      rw [hsame hbegan]
      refine .of_free hfree ?_ ?_
      · rw [hbase]
        decide
      · rw [hbase]
        exact fun hw => by cases hw

theorem act (h : FlagMatch team s) (s' : Zone WarsongGulch) (hends : OnlyEnds s.bg s'.bg)
    (hbefore : ¬ Began s.bg → s'.own = s.own) (hscores : s'.own.teamScores = s.own.teamScores)
    (hflags : s.bg.status = .inProgress → s'.bg.status = .inProgress →
      FlagsWF team (· ∈ s.bg.roster.players.keys) s'.own) : FlagMatch team s' := by
  obtain ⟨hle, hlt⟩ := h.scores_of_same hends.advances hscores
  refine ⟨by rw [hends.config]; exact h.isBattleground, ?_, fun hnot => ?_, fun hst => ?_, hle, hlt⟩
  · rw [hends.roster]
    exact h.entries
  · have hnot' : ¬ Began s.bg := fun hs => hnot (hends.began hs)
    rw [hbefore hnot']
    exact h.before hnot'
  · rw [hends.roster]
    exact hflags (hends.inProgress hst) hst

theorem tickTime_own (s : Zone WarsongGulch) :
    (tickTime s).own.teamScores = s.own.teamScores ∧
      (tickTime s).own.flagKeepers = s.own.flagKeepers ∧
      (tickTime s).own.flagState = s.own.flagState ∧
      (tickTime s).own.flagsTimer = s.own.flagsTimer := by
  unfold tickTime
  split
  · exact ⟨rfl, rfl, rfl, rfl⟩
  · split
    · exact ⟨rfl, rfl, rfl, rfl⟩
    · exact ⟨rfl, rfl, rfl, rfl⟩

theorem tickTime_onlyEnds (s : Zone WarsongGulch) : OnlyEnds s.bg (tickTime s).bg := by
  unfold tickTime
  split
  · exact .endBattleground s.bg _
  · split
    · exact .refl _
    · exact .refl _

theorem postUpdateImpl_scores (diff : Nat) (s : Zone WarsongGulch) :
    (postUpdateImpl diff s).own.teamScores = s.own.teamScores := by
  unfold postUpdateImpl
  split
  · exact (tick_scores (tickTime s).own (tickTime s).bg.status diff).trans (tickTime_own s).1
  · rfl

theorem postUpdateImpl (h : FlagMatch team s) (diff : Nat) : FlagMatch team (postUpdateImpl diff s) := by
  refine h.act _ ?_ (fun hnot => ?_) (postUpdateImpl_scores diff s) (fun hin _ => ?_)
  · unfold WS.postUpdateImpl
    split
    · exact tickTime_onlyEnds s
    · exact .refl _
  · rw [WS.postUpdateImpl, if_neg (fun hin => hnot (.inl hin))]
  · rw [WS.postUpdateImpl, if_pos hin]
    obtain ⟨-, hkeepers, hstate, htimer⟩ := tickTime_own s
    have htime : FlagsWF team (· ∈ s.bg.roster.players.keys) (tickTime s).own := fun flag =>
      (h.flags hin flag).of_same (by rw [hkeepers]) (by rw [hstate]) (by rw [htimer])
    exact htime.tick _ diff

theorem click (h : FlagMatch team s) {guid : Guid} (hguid : guid ≠ 0)
    (hin : guid ∈ s.bg.roster.players.keys) (object : Option Team) (within : Bool) :
    FlagMatch team { s with
      own := s.own.eventPlayerClickedOnFlag s.bg.status (team guid) guid object within } := by
  refine h.act _ (.refl _) (fun hnot => ?_) (eventPlayerClickedOnFlag_scores s.own _ _ _ _ _) (fun hst _ => ?_)
  · exact if_neg (fun hst => hnot (.inl hst))
  · exact (h.flags hst).eventPlayerClickedOnFlag _ hguid hin object within

theorem drop (h : FlagMatch team s) (t : Team) (guid : Guid) :
    FlagMatch team { s with own := s.own.eventPlayerDroppedFlag s.bg.status t guid } :=
  h.act _ (.refl _)
    (fun hnot => eventPlayerDroppedFlag_of_free s.own (fun flag => (h.before hnot flag).1) _ _ _)
    (eventPlayerDroppedFlag_scores s.own _ _ _)
    (fun hst _ => (h.flags hst).eventPlayerDroppedFlag hst t guid)

/-! ### Captures -/

variable {t : Team}

theorem capture_scores {z : WarsongGulch} (h : z.teamScores.get t < maxTeamScore) (u : Team) :
    (z.capture t).teamScores.get u = z.teamScores.get u + if t = u then 1 else 0 := by
  unfold capture
  simp only
  rw [if_pos h, get_set]
  split
  · rename_i htu
    rw [htu]
  · rfl

theorem captured_scores (h : FlagMatch team s) (hst : s.bg.status = .inProgress)
    (hkeeper : s.own.flagKeepers.get t.other ≠ 0) (u : Team) :
    (eventPlayerCapturedFlag t s).own.teamScores.get u = s.own.teamScores.get u + if t = u then 1 else 0 := by
  have hlt : s.own.teamScores.get t < maxTeamScore := by
    apply h.score_lt
    rw [hst]
    decide
  rw [← capture_scores hlt u]
  unfold eventPlayerCapturedFlag
  rw [if_pos ⟨hst, hkeeper⟩]
  simp only
  cases (s.own.capture t).winner? with
  | none => rfl
  | some w => rfl

theorem captured_flag (hst : s.bg.status = .inProgress) (hkeeper : s.own.flagKeepers.get t.other ≠ 0) :
    (eventPlayerCapturedFlag t s).own.flagState.get t.other = .waitRespawn ∧
      ((eventPlayerCapturedFlag t s).bg.status = .waitLeave ∨
        (s.own.capture t).winner? = none ∧
          (eventPlayerCapturedFlag t s).own.flagsTimer.get t.other = flagRespawnTime) := by
  unfold eventPlayerCapturedFlag
  rw [if_pos ⟨hst, hkeeper⟩]
  simp only
  cases (s.own.capture t).winner? with
  | none => exact ⟨get_set_self .., .inr ⟨rfl, get_set_self ..⟩⟩
  | some w => exact ⟨get_set_self .., .inl rfl⟩

theorem score_lt_of_no_winner {z : WarsongGulch} (hle : ∀ t, z.teamScores.get t ≤ maxTeamScore)
    (h : z.winner? = none) (t : Team) : z.teamScores.get t < maxTeamScore := by
  unfold winner? at h
  split at h
  · cases h
  · rename_i hhorde
    split at h
    · cases h
    · rename_i halliance
      cases t with
      | alliance => exact lt_of_le_of_ne (hle .alliance) halliance
      | horde => exact lt_of_le_of_ne (hle .horde) hhorde

theorem captured (h : FlagMatch team s) (hst : s.bg.status = .inProgress)
    (hkeeper : s.own.flagKeepers.get t.other ≠ 0) : FlagMatch team (eventPlayerCapturedFlag t s) := by
  have hlt : ∀ u, s.own.teamScores.get u < maxTeamScore := by
    apply h.score_lt
    rw [hst]
    decide
  have hle (u : Team) : (s.own.capture t).teamScores.get u ≤ maxTeamScore := by
    have hu := hlt u
    rw [capture_scores (hlt t)]
    split
    · omega
    · omega
  have hbegan : ¬ ¬ Began s.bg := fun hnot => hnot (.inl hst)
  unfold eventPlayerCapturedFlag
  rw [if_pos ⟨hst, hkeeper⟩]
  simp only
  cases hw : (s.own.capture t).winner? with
  | some w =>
    refine ⟨h.isBattleground, h.entries, fun hnot => absurd (.inr rfl) hnot, fun hin => ?_, hle,
      fun hover => absurd rfl hover⟩
    cases hin
  | none =>
    refine ⟨h.isBattleground, h.entries, fun hnot => absurd hnot hbegan, fun _ => ?_, hle,
      fun _ => score_lt_of_no_winner hle hw⟩
    refine (h.flags hst).of_change t.other (.of_free (get_set_self ..) ?_ (fun _ => ?_))
      (fun u hu => get_set_ne _ _ hu.symm) (fun u hu => get_set_ne _ _ hu.symm)
      (fun u hu => get_set_ne _ _ hu.symm)
    · change (s.own.flagState.set t.other .waitRespawn).get t.other ≠ _
      rw [get_set_self]
      decide
    · change 0 ≤ (s.own.flagsTimer.set t.other flagRespawnTime).get t.other
      rw [get_set_self]
      decide

end FlagMatch

def ByParticipant (s : Zone WarsongGulch) : Event Unit Handler → Prop
  | .handle (.eventPlayerClickedOnFlag guid _ _) => guid ≠ 0 ∧ guid ∈ s.bg.roster.players.keys
  | _ => True

instance (s : Zone WarsongGulch) : ∀ e, Decidable (ByParticipant s e)
  | .handle (.eventPlayerClickedOnFlag _ _ _) => inferInstanceAs (Decidable (_ ∧ _))
  | .handle (.handleAreaTrigger _ _) | .handle (.eventPlayerDroppedFlag _)
  | .handle (.handleKillPlayer _) | .addPlayer _ | .increaseInvitedCount _
  | .decreaseInvitedCount _ | .removePlayerAtLeave _ | .eventPlayerLoggedOut _
  | .eventPlayerLoggedIn _ | .update _ _ => isTrue trivial

def Plays (team : Guid → Team) (s : Zone WarsongGulch) (we : World × Event Unit Handler) : Prop :=
  (∀ guid, (we.1.player guid).team = team guid) ∧ Admissible s we.2 ∧ ByParticipant s we.2

def Captures (t : Team) (s : Zone WarsongGulch) : Event Unit Handler → Prop
  | .handle (.handleAreaTrigger guid trigger) =>
    triggerFlag trigger = some t ∧ s.bg.status = .inProgress ∧ s.own.flagState.get t = .onBase ∧
      s.own.flagKeepers.get t.other ≠ 0 ∧ s.own.flagKeepers.get t.other = guid
  | _ => False

instance (t : Team) (s : Zone WarsongGulch) : ∀ e, Decidable (Captures t s e)
  | .handle (.handleAreaTrigger _ _) => inferInstanceAs (Decidable (_ ∧ _))
  | .handle (.eventPlayerClickedOnFlag _ _ _) | .handle (.eventPlayerDroppedFlag _)
  | .handle (.handleKillPlayer _) | .addPlayer _ | .increaseInvitedCount _
  | .decreaseInvitedCount _ | .removePlayerAtLeave _ | .eventPlayerLoggedOut _
  | .eventPlayerLoggedIn _ | .update _ _ => isFalse id

namespace FlagMatch

variable {team : Guid → Team} {s : Zone WarsongGulch}

abbrev Teams (team : Guid → Team) (s : Zone WarsongGulch) : Prop := ∀ guid, (s.bg.world.player guid).team = team guid

theorem handleAreaTrigger_eq (h : FlagMatch team s) (hteam : Teams team s) (guid : Guid) (trigger : Nat) :
    (∃ t, Captures t s (.handle (.handleAreaTrigger guid trigger)) ∧
        handleAreaTrigger guid trigger s = eventPlayerCapturedFlag t s) ∨
      (∀ t, ¬ Captures t s (.handle (.handleAreaTrigger guid trigger))) ∧
        handleAreaTrigger guid trigger s = s := by
  unfold handleAreaTrigger
  cases hbase : triggerFlag trigger with
  | none =>
    refine .inr ⟨fun t hcap => ?_, rfl⟩
    cases hbase.symm.trans hcap.1
  | some base =>
    have heq {t : Team} (ht : triggerFlag trigger = some t) : base = t :=
      Option.some.inj (hbase.symm.trans ht)
    simp only
    by_cases hcond : s.bg.status = .inProgress ∧ s.own.flagState.get base.other ≠ .onBase ∧
        s.own.flagState.get base = .onBase ∧ s.own.flagKeepers.get base.other = guid
    · rw [if_pos hcond, hteam]
      obtain ⟨hst, -, hown, hguid⟩ := hcond
      by_cases hkeeper : s.own.flagKeepers.get base.other ≠ 0
      · refine .inl ⟨base, ⟨hbase, hst, hown, hkeeper, hguid⟩, ?_⟩
        rw [← hguid, ((h.flags hst base.other).keeper hkeeper).2, Team.other_other]
      · -- the trigger of nobody: neither flag has a keeper
        refine .inr ⟨fun t hcap => hkeeper (heq hcap.1 ▸ hcap.2.2.2.1), if_neg ?_⟩
        rintro ⟨-, hne⟩
        have hfree : s.own.flagKeepers.get base = 0 := by
          apply (h.flags hst base).free
          rw [hown]
          decide
        by_cases ht : team guid = base
        · rw [ht] at hne
          exact hkeeper hne
        · rw [Team.eq_other_of_ne ht, Team.other_other] at hne
          exact hne hfree
    · rw [if_neg hcond]
      refine .inr ⟨fun t hcap => hcond ?_, rfl⟩
      obtain ⟨ht, hst, hown, hkeeper, hguid⟩ := hcap
      rw [heq ht]
      refine ⟨hst, ?_, hown, hguid⟩
      rw [(h.flags hst t.other).onPlayer_iff.2 hkeeper]
      decide

theorem handle (h : FlagMatch team s) (hteam : Teams team s)
    {e : Handler} (hclick : ByParticipant s (.handle e)) : FlagMatch team (handle s e) := by
  cases e with
  | eventPlayerClickedOnFlag guid object within =>
    obtain ⟨hguid, hin⟩ := hclick
    have hstep := h.click hguid hin object within
    rw [← hteam guid] at hstep
    exact hstep
  | eventPlayerDroppedFlag guid => exact h.drop _ guid
  | handleKillPlayer guid =>
    change FlagMatch team (if s.bg.status = .inProgress then _ else s)
    split
    · exact h.drop _ guid
    · exact h
  | handleAreaTrigger guid trigger =>
    change FlagMatch team (handleAreaTrigger guid trigger s)
    rcases h.handleAreaTrigger_eq hteam guid trigger with ⟨t, hcap, heq⟩ | ⟨-, heq⟩
    · rw [heq]
      exact h.captured hcap.2.1 hcap.2.2.2.1
    · rw [heq]
      exact h

theorem handle_scores (h : FlagMatch team s)
    (hteam : Teams team s) (e : Handler) (t : Team) :
    (WS.handle s e).own.teamScores.get t
      = s.own.teamScores.get t + if Captures t s (.handle e) then 1 else 0 := by
  cases e with
  | eventPlayerClickedOnFlag guid object within =>
    exact congrArg (get · t) (eventPlayerClickedOnFlag_scores s.own _ _ _ _ _)
  | eventPlayerDroppedFlag guid => exact congrArg (get · t) (eventPlayerDroppedFlag_scores s.own _ _ _)
  | handleKillPlayer guid =>
    change (if s.bg.status = .inProgress then _ else s).own.teamScores.get t = s.own.teamScores.get t
    split
    · exact congrArg (get · t) (eventPlayerDroppedFlag_scores s.own _ _ _)
    · rfl
  | handleAreaTrigger guid trigger =>
    change (handleAreaTrigger guid trigger s).own.teamScores.get t = _
    rcases h.handleAreaTrigger_eq hteam guid trigger with ⟨u, hcap, heq⟩ | ⟨hnot, heq⟩
    · rw [heq, h.captured_scores hcap.2.1 hcap.2.2.2.1]
      have hiff : Captures t s (.handle (.handleAreaTrigger guid trigger)) ↔ u = t := by
        constructor
        · intro hcap'
          exact Option.some.inj (hcap.1.symm.trans hcap'.1)
        · rintro rfl
          exact hcap
      simp only [hiff]
    · rw [heq, if_neg (hnot t)]
      rfl

theorem findPlayer_team (hteam : Teams team s) (guid : Guid) :
    findPlayer s.bg guid = none ∨ findPlayer s.bg guid = some (team guid) := by
  unfold findPlayer
  split
  · rw [hteam]
    exact .inr rfl
  · exact .inl rfl

section

variable (h : FlagMatch team s)
include h

theorem addPlayer (hteam : Teams team s)
    (guid : Guid) : FlagMatch team (s.addPlayer overrides guid) := by
  refine h.remove (s.addPlayer overrides guid) [] (findPlayer_team hteam) rfl ⟨rfl, id, id⟩ ?_ ?_
  · intro guid' p hp
    change (s.bg.roster.players.insert guid _).find? guid' = some p at hp
    rw [find?_insert] at hp
    split at hp
    · rename_i heq
      cases hp
      rw [← heq, ← hteam]
    · exact h.entries guid' p hp
  · intro guid' hmem _
    exact mem_keys_insert.2 (.inr hmem)

theorem removePlayerAtLeave (hteam : Teams team s) (guid : Guid) :
    FlagMatch team (s.removePlayerAtLeave overrides guid) := by
  have hremoves := removes_foldl [guid] s.bg
  refine h.remove _ [guid] (findPlayer_team hteam) rfl
    (SameResult.removePlayerAtLeave h.isBattleground guid).advances ?_ ?_
  · exact hremoves.entries h.entries
  · exact hremoves.keys

theorem eventPlayerLoggedOut (hteam : Teams team s) (guid : Guid) :
    FlagMatch team (s.eventPlayerLoggedOut overrides guid) := by
  have hadv := (SameResult.eventPlayerLoggedOut h.isBattleground guid).advances
  have hentries : ∀ guid' p, (s.bg.eventPlayerLoggedOut guid).roster.players.find? guid' = some p →
      p.team = (team guid').id := by
    intro guid' p' hp'
    rw [find?_loggedOut] at hp'
    obtain ⟨p, hp, hnew⟩ := Option.map_eq_some_iff.1 hp'
    have hteam' : p'.team = p.team := by
      rw [← hnew]
      split
      · rfl
      · rfl
    rw [hteam', h.entries guid' p hp]
  have hkeys : ∀ guid' ∈ s.bg.roster.players.keys,
      guid' ∈ (s.bg.eventPlayerLoggedOut guid).roster.players.keys := by
    intro guid' hmem
    rw [mem_keys] at hmem ⊢
    obtain ⟨p, hp⟩ := hmem
    rw [find?_loggedOut, hp]
    exact ⟨_, rfl⟩
  by_cases hout : s.bg.roster.players.contains guid = true ∧ s.bg.status = .inProgress
  · have hown : (s.eventPlayerLoggedOut overrides guid).own
        = removePlayer s.bg.status (some (team guid)) guid s.own := by
      rw [← hteam]
      exact if_pos hout
    exact h.remove _ [guid] (fun guid => .inr rfl) hown hadv hentries (fun g hg _ => hkeys g hg)
  · exact h.remove _ [] (findPlayer_team hteam) (if_neg hout) hadv hentries (fun g hg _ => hkeys g hg)

theorem update (hteam : Teams team s)
    (diff : Nat) : FlagMatch team (s.update overrides () diff) := by
  have hadv := advances_update h.isBattleground diff
  cases hempty : s.bg.roster.players.isEmpty with
  | true =>
    rw [Zone.update, if_pos hempty]
    have hroster := update_roster_of_isEmpty hempty diff
    refine h.remove { s with bg := s.bg.update diff } [] (findPlayer_team hteam) rfl hadv ?_ ?_
    · change ∀ guid p, (s.bg.update diff).roster.players.find? guid = some p → _
      rw [hroster]
      exact h.entries
    · change ∀ guid ∈ _, _ → guid ∈ (s.bg.update diff).roster.players.keys
      rw [hroster]
      exact fun guid hmem _ => hmem
  | false =>
    have hremoves := removes_update s.bg diff
    have hbase : FlagMatch team (s.updateBase overrides diff) :=
      h.remove _ (removedBy s.bg diff) (findPlayer_team hteam) rfl hadv
        (hremoves.entries h.entries) hremoves.keys
    rw [update_of_nonempty hempty]
    exact hbase.postUpdateImpl diff

theorem event (hteam : Teams team s)
    {e : Event Unit Handler} (hadm : Admissible s e) (hclick : ByParticipant s e) :
    FlagMatch team (s.event overrides e) := by
  cases e with
  | addPlayer guid => exact h.addPlayer hteam guid
  | increaseInvitedCount t =>
    exact h.remove _ [] (findPlayer_team hteam) rfl ⟨rfl, id, id⟩ h.entries (fun _ hmem _ => hmem)
  | decreaseInvitedCount t =>
    have hroster : (s.bg.decreaseInvitedCount t.id).roster = s.bg.roster :=
      Battleground.decreaseInvitedCount_roster ..
    refine h.remove { s with bg := s.bg.decreaseInvitedCount t.id } [] (findPlayer_team hteam) rfl
      (SameResult.decreaseInvitedCount h.isBattleground t.id).advances ?_ ?_
    · change ∀ guid p, (s.bg.decreaseInvitedCount t.id).roster.players.find? guid = some p → _
      rw [hroster]
      exact h.entries
    · change ∀ guid ∈ _, _ → guid ∈ (s.bg.decreaseInvitedCount t.id).roster.players.keys
      rw [hroster]
      exact fun guid hmem _ => hmem
  | removePlayerAtLeave guid => exact h.removePlayerAtLeave hteam guid
  | eventPlayerLoggedOut guid => exact h.eventPlayerLoggedOut hteam guid
  | eventPlayerLoggedIn guid =>
    obtain ⟨p, hp⟩ := mem_keys.1 hadm.1
    have hplayers := find?_loggedIn s.bg guid
    refine h.remove { s with bg := s.bg.eventPlayerLoggedIn guid } [] (findPlayer_team hteam) rfl
      ⟨rfl, id, id⟩ ?_ ?_
    · intro guid' p' hp'
      rw [hplayers] at hp'
      split at hp'
      · rename_i heq
        rw [hp] at hp'
        cases hp'
        rw [← heq]
        exact h.entries guid p hp
      · exact h.entries guid' p' hp'
    · intro guid' hmem _
      rw [mem_keys] at hmem ⊢
      rw [hplayers]
      split
      · exact ⟨_, rfl⟩
      · exact hmem
  | update input diff => exact h.update hteam diff
  | handle e => exact h.handle hteam hclick

theorem event_scores (hteam : Teams team s)
    (e : Event Unit Handler) (t : Team) :
    (s.event overrides e).own.teamScores.get t = s.own.teamScores.get t + if Captures t s e then 1 else 0 := by
  have hremove (guids : List Guid) := foldl_removePlayer_scores s.own s.bg.status (findPlayer s.bg) guids
  cases e with
  | addPlayer guid => rfl
  | increaseInvitedCount t => rfl
  | decreaseInvitedCount t => rfl
  | removePlayerAtLeave guid => exact congrArg (get · t) (hremove [guid])
  | eventPlayerLoggedOut guid =>
    change (if _ then removePlayer s.bg.status (some _) guid s.own else s.own).teamScores.get t
      = s.own.teamScores.get t
    split
    · exact congrArg (get · t) (foldl_removePlayer_scores s.own s.bg.status (fun _ => some _) [guid])
    · rfl
  | eventPlayerLoggedIn guid => rfl
  | update input diff =>
    change (s.update overrides () diff).own.teamScores.get t = s.own.teamScores.get t
    unfold Zone.update
    split
    · rfl
    · exact congrArg (get · t) ((postUpdateImpl_scores diff (s.updateBase overrides diff)).trans
        (hremove (removedBy s.bg diff)))
  | handle e => exact h.handle_scores hteam e t

theorem inWorld (world : World) : FlagMatch team (s.inWorld world) :=
  ⟨h.isBattleground, h.entries, h.before, h.flags, h.score_le, h.score_lt⟩

end

variable {we : World × Event Unit Handler}

/-- Every event of a match keeps flags and keepers together. -/
theorem step (h : FlagMatch team s) (hplays : Plays team s we) : FlagMatch team (step s we) :=
  (h.inWorld we.1).event hplays.1 hplays.2.1 hplays.2.2

theorem step_scores (h : FlagMatch team s) (hplays : Plays team s we) (t : Team) :
    (WS.step s we).own.teamScores.get t = s.own.teamScores.get t + if Captures t s we.2 then 1 else 0 := by
  have hscores := (h.inWorld we.1).event_scores hplays.1 we.2 t
  have hiff : Captures t (s.inWorld we.1) we.2 ↔ Captures t s we.2 := by
    cases we.2 with
    | handle e => cases e <;> exact Iff.rfl
    | _ => exact Iff.rfl
  exact hscores

theorem step_captures (h : FlagMatch team s) (hplays : Plays team s we) {t : Team} (hcap : Captures t s we.2) :
    (WS.step s we).own.flagState.get t.other = .waitRespawn ∧
      ((WS.step s we).bg.status = .inProgress →
        (WS.step s we).own.flagsTimer.get t.other = flagRespawnTime) := by
  obtain ⟨world, e⟩ := we
  obtain ⟨guid, trigger, rfl⟩ : ∃ guid trigger, e = .handle (.handleAreaTrigger guid trigger) := by
    cases e with
    | handle e =>
      cases e with
      | handleAreaTrigger guid trigger => exact ⟨guid, trigger, rfl⟩
      | _ => exact hcap.elim
    | _ => exact hcap.elim
  change (handleAreaTrigger guid trigger (s.inWorld world)).own.flagState.get t.other = _ ∧
    ((handleAreaTrigger guid trigger (s.inWorld world)).bg.status = _ →
      (handleAreaTrigger guid trigger (s.inWorld world)).own.flagsTimer.get t.other = _)
  rcases (h.inWorld world).handleAreaTrigger_eq hplays.1 guid trigger with
    ⟨u, hcap', heq⟩ | ⟨hnot, -⟩
  · have hu : u = t := Option.some.inj (hcap'.1.symm.trans hcap.1)
    subst hu
    obtain ⟨hstate, hnext⟩ := captured_flag (s := s.inWorld world) hcap.2.1 hcap.2.2.2.1
    rw [heq]
    refine ⟨hstate, fun hst => ?_⟩
    rcases hnext with hover | ⟨-, htimer⟩
    · rw [hst] at hover
      cases hover
    · exact htimer
  · exact absurd hcap (hnot t)

end FlagMatch

theorem flagMatch_create {config : Config} (hconfig : config.isArena = false) (world : World)
    (z : WarsongGulch) (team : Guid → Team) : FlagMatch team (create config world z) where
  isBattleground := hconfig
  entries guid p hp := by cases hp
  before _ flag := ⟨get_const .., get_const ..⟩
  flags hst := by cases hst
  score_le t := by
    change (⟨0, 0⟩ : PerTeam Nat).get t ≤ _
    rw [get_const]
    exact Nat.zero_le _
  score_lt _ t := by
    change (⟨0, 0⟩ : PerTeam Nat).get t < _
    rw [get_const]
    exact Nat.succ_pos _

/-- In every state of a run, while the match is on: a flag is on a player exactly when it has a keeper;
the keeper is inside and plays for the other team; a flag that waits for its respawn has a timer that is
not over, and a capture makes the flag wait, for the respawn time. In every state the score of a team is
the number of its captures, and at most the maximum. -/
theorem flag_machine {config : Config} (hconfig : config.isArena = false) (world : World)
    (z : WarsongGulch) (team : Guid → Team) (es : List (World × Event Unit Handler))
    (hplays : AllSteps step (Plays team) (create config world z) es) :
    let s := run step (create config world z) es
    (s.bg.status = .inProgress → ∀ flag,
      (s.own.flagState.get flag = .onPlayer ↔ s.own.flagKeepers.get flag ≠ 0) ∧
      (s.own.flagKeepers.get flag ≠ 0 →
        (∃ p, s.bg.roster.players.find? (s.own.flagKeepers.get flag) = some p ∧ p.team = flag.other.id) ∧
        team (s.own.flagKeepers.get flag) ≠ flag) ∧
      (s.own.flagState.get flag = .waitRespawn → 0 ≤ s.own.flagsTimer.get flag)) ∧
    (∀ we t, Plays team s we → Captures t s we.2 →
      (step s we).own.flagState.get t.other = .waitRespawn ∧
        ((step s we).bg.status = .inProgress → (step s we).own.flagsTimer.get t.other = flagRespawnTime)) ∧
    ∀ t, s.own.teamScores.get t
        = countSteps step (fun s we => Captures t s we.2) (create config world z) es ∧
      s.own.teamScores.get t ≤ maxTeamScore := by
  intro s
  have hstart := flagMatch_create hconfig world z team
  have h : FlagMatch team s := hplays.invariant (fun _ _ hs hP => hs.step hP) hstart
  refine ⟨fun hst flag => ?_, fun we t hP hcap => h.step_captures hP hcap, fun t => ⟨?_, h.score_le t⟩⟩
  · have hflag := h.flags hst flag
    refine ⟨hflag.onPlayer_iff, fun hne => ?_, hflag.pending⟩
    obtain ⟨hin, hteam⟩ := hflag.keeper hne
    obtain ⟨p, hp⟩ := mem_keys.1 hin
    refine ⟨⟨p, hp, ?_⟩, ?_⟩
    · rw [h.entries _ p hp, hteam]
    · rw [hteam]
      exact flag.other_ne
  · have hcount := hplays.counts (Q := fun s we => Captures t s we.2)
      (f := fun s => s.own.teamScores.get t) (fun _ _ hs hP => hs.step hP)
      (fun _ _ hs hP => hs.step_scores hP t) hstart
    have hzero : (create config world z).own.teamScores.get t = 0 := get_const ..
    rw [hzero, zero_add] at hcount
    exact hcount

/-! ## A match of two -/

def duelTeam (guid : Guid) : Team := if guid = 1 then .alliance else .horde

def duelWorld : World where
  player guid := { team := duelTeam guid }

def duelConfig : Config := { isArena := false, isRated := false }

def duelMemory : WarsongGulch where
  teamScores := ⟨0, 0⟩
  flagKeepers := ⟨0, 0⟩
  flagState := ⟨.onBase, .onBase⟩
  flagsTimer := ⟨0, 0⟩
  flagsDropTimer := ⟨0, 0⟩
  lastFlagCaptureTeam := 0
  flagSpellForceTimer := 0
  bothFlagsKept := false
  flagDebuffState := 0
  minutesElapsed := 0

/-- Two players enter and wait for the gates. Player 1 captures the flag of the horde, and player 2 takes
that of the alliance. -/
def duelRun : List (World × Event Unit Handler) :=
  [(duelWorld, .addPlayer 1), (duelWorld, .addPlayer 2), (duelWorld, .update () 0),
    (duelWorld, .update () 60000), (duelWorld, .update () 0), (duelWorld, .update () 0),
    (duelWorld, .handle (.eventPlayerClickedOnFlag 1 (some .horde) true)),
    (duelWorld, .handle (.handleAreaTrigger 1 3646)), (duelWorld, .update () 1000),
    (duelWorld, .handle (.eventPlayerClickedOnFlag 2 (some .alliance) true))]

def duelState : Zone WarsongGulch := run step (create duelConfig duelWorld duelMemory) duelRun

/-- Player 2 keeps the flag of the alliance, that of the horde waits, and the alliance has a point. -/
theorem duelRun_flags :
    duelState.bg.status = .inProgress ∧ duelState.own.flagState.get .alliance = .onPlayer ∧
      duelTeam (duelState.own.flagKeepers.get .alliance) ≠ .alliance ∧
      0 ≤ duelState.own.flagsTimer.get .horde ∧
      duelState.own.teamScores.get .alliance = countSteps step
        (fun s we => Captures .alliance s we.2) (create duelConfig duelWorld duelMemory) duelRun := by
  have hplays : AllSteps step (Plays duelTeam) (create duelConfig duelWorld duelMemory) duelRun := by
    simp only [duelRun, AllSteps, Plays, and_true]
    refine ⟨⟨fun _ => rfl, ?_⟩, ⟨fun _ => rfl, ?_⟩, ⟨fun _ => rfl, ?_⟩, ⟨fun _ => rfl, ?_⟩,
      ⟨fun _ => rfl, ?_⟩, ⟨fun _ => rfl, ?_⟩, ⟨fun _ => rfl, ?_⟩, ⟨fun _ => rfl, ?_⟩,
      ⟨fun _ => rfl, ?_⟩, fun _ => rfl, ?_⟩
    all_goals decide
  obtain ⟨hflags, -, hscores⟩ := flag_machine rfl duelWorld duelMemory duelTeam duelRun hplays
  have hst : duelState.bg.status = .inProgress := by decide
  have halliance : duelState.own.flagState.get .alliance = .onPlayer := by decide
  have hhorde : duelState.own.flagState.get .horde = .waitRespawn := by decide
  obtain ⟨hiff, hkeeper, -⟩ := hflags hst .alliance
  exact ⟨hst, halliance, (hkeeper (hiff.1 halliance)).2, (hflags hst .horde).2.2 hhorde, (hscores .alliance).1⟩

end Axium.Zones.WS
