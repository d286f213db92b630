import Axium.Battleground.ArenaResult

/-!
# Who ends an arena by logging out

`EventPlayerLoggedOut` ends an arena for the other side when at most one player of the leaver's
side is alive. The leaver counts among them only while he lives. A dead leaver is not counted, so
his last living mate is taken for him and the match is lost (`dead_leaver_ends_match`).
-/

namespace Axium.Bg

open Run OrdMap

namespace Battleground

variable (s : Battleground)

/-- `GetTeam` of a player. -/
def teamOf (guid : Guid) : Team := (s.world.player guid).team

def HasStandingMate (guid : Guid) : Prop :=
  ∃ mate ∈ s.roster.players.keys, mate ≠ guid ∧
    s.getPlayerTeam mate = (s.teamOf guid).id ∧ (s.world.player mate).standing

instance (guid : Guid) : Decidable (s.HasStandingMate guid) := inferInstanceAs (Decidable (∃ mate ∈ _, _))

/-- The players of a side who stand, and when the side has already won by
`CheckArenaWinConditions`, also those whom the end of the match brings back to life. -/
def livingAtCheck (t : Team) : Nat :=
  s.roster.players.count fun guid p =>
    p.team = t.id && ((s.world.player guid).standing ||
      (s.arenaWinner = some t && s.roster.playersCache.contains guid &&
        (s.world.player guid).online))

def SparesAtLogOut (guid : Guid) : Prop :=
  guid ∈ s.roster.players.keys → s.HasStandingMate guid →
    s.getPlayersCountByTeam (s.teamOf guid).other.id = 0 ∨ 2 ≤ s.livingAtCheck (s.teamOf guid)

/-- The battlegrounds that `EndBattleground` was called for by an event, by its argument. -/
def newEndings (s' : Battleground) : List Nat := s'.endings.drop s.endings.length

variable {s} {guid : Guid}

/-! ## The hook of the subclass -/

theorem HasStandingMate.alive_pos (h : s.HasStandingMate guid) :
    0 < s.getAlivePlayersCountByTeam (s.teamOf guid).id := by
  obtain ⟨mate, hmem, -, hteam, hstands⟩ := h
  obtain ⟨p, hp⟩ := mem_keys.1 hmem
  have hentry : p.team = (s.teamOf guid).id := by
    simpa [getPlayerTeam, hp] using hteam
  rw [getAlivePlayersCountByTeam, count_erase _ hp]
  simp [hentry, hstands]

theorem alive_eq_zero_of_arenaWinner {t : Team} (h : s.arenaWinner = some t) :
    s.getAlivePlayersCountByTeam t.other.id = 0 := by
  unfold arenaWinner at h
  split at h
  · rename_i hA
    cases h
    exact hA.1
  · split at h
    · rename_i hH
      cases h
      exact hH.2
    · cases h

theorem HasStandingMate.arenaWinner_eq (h : s.HasStandingMate guid) :
    s.arenaWinner = none ∨ s.arenaWinner = some (s.teamOf guid) := by
  cases hw : s.arenaWinner with
  | none => exact .inl rfl
  | some t =>
    refine .inr (congrArg some (by_contra fun hne => ?_))
    have hzero := alive_eq_zero_of_arenaWinner hw
    rw [Team.eq_other_of_ne hne, Team.other_other] at hzero
    exact ne_of_gt h.alive_pos hzero

theorem removePlayer_of_winner (ha : s.config.isArena) (hst : s.status = .inProgress) {t : Team}
    (hw : s.arenaWinner = some t) : s.removePlayer = s.endBattleground t.id := by
  unfold removePlayer checkArenaWinConditions
  rw [if_pos ⟨ha, by rw [hst]; decide⟩, hw]

theorem alive_after_end (w teamId : Nat) :
    (s.endBattleground w).getAlivePlayersCountByTeam teamId =
      s.roster.players.count fun guid p => p.team = teamId && ((s.world.player guid).standing ||
          (s.roster.playersCache.contains guid && (s.world.player guid).online)) := by
  refine count_congr fun guid p hp => ?_
  simp only [endBattleground]
  cases hc : s.roster.playersCache.contains guid <;>
    cases hon : (s.world.player guid).online <;>
    simp [PlayerState.standing, PlayerState.resurrect, hon]

theorem alive_after_hook (ha : s.config.isArena) (hst : s.status = .inProgress) {t : Team}
    (hw : s.arenaWinner = none ∨ s.arenaWinner = some t) :
    s.removePlayer.getAlivePlayersCountByTeam t.id = s.livingAtCheck t := by
  rcases hw with hw | hw
  · rw [removePlayer_of_no_winner hw]
    refine count_congr fun guid p hp => ?_
    simp [hw]
  · rw [removePlayer_of_winner ha hst hw, alive_after_end]
    refine count_congr fun guid p hp => ?_
    simp [hw]

theorem removePlayer_endings_of_mate (ha : s.config.isArena) (hst : s.status = .inProgress)
    {t : Team} (hw : s.arenaWinner = none ∨ s.arenaWinner = some t) :
    ∃ own, s.removePlayer.endings = s.endings ++ own ∧ t.other.id ∉ own := by
  rcases hw with hw | hw
  · exact ⟨[], by rw [removePlayer_of_no_winner hw, List.append_nil], List.not_mem_nil⟩
  · refine ⟨[t.id], by rw [removePlayer_of_winner ha hst hw]; rfl, ?_⟩
    simpa using t.other_ne

theorem removePlayer_teamOf : s.removePlayer.teamOf guid = s.teamOf guid := by
  unfold removePlayer checkArenaWinConditions
  repeat' split
  all_goals try rfl
  simp only [teamOf, endBattleground]
  split <;> rfl

/-! ## The log-out -/

section LogOut

variable (s guid)

def markOffline : Battleground :=
  { s with roster := s.roster.logOut guid (s.world.gameTime + maxOfflineTime) }

variable {s guid}

theorem livingAtCheck_markOffline (t : Team) : (s.markOffline guid).livingAtCheck t = s.livingAtCheck t := by
  have hw : (s.markOffline guid).arenaWinner = s.arenaWinner := (s.logOut_counts guid _).2
  unfold livingAtCheck
  rw [hw]
  exact count_logOut (fun g team => decide (team = t.id) && ((s.world.player g).standing ||
    (s.arenaWinner = some t && s.roster.playersCache.contains g &&
      (s.world.player g).online))) s.roster guid _

theorem eventPlayerLoggedOut_eq (hin : guid ∈ s.roster.players.keys) (hst : s.status = .inProgress) :
    s.eventPlayerLoggedOut guid = (s.markOffline guid).removePlayer.checkLastStanding guid := by
  have hcontains : s.roster.players.contains guid = true := contains_iff.2 hin
  unfold eventPlayerLoggedOut
  rw [if_pos hcontains]
  exact if_pos hst

theorem lost_iff_of_mate (ha : s.config.isArena) (hst : s.status = .inProgress)
    (hin : guid ∈ s.roster.players.keys) (hmate : s.HasStandingMate guid) :
    (s.teamOf guid).other.id ∈ s.newEndings (s.eventPlayerLoggedOut guid) ↔
      s.livingAtCheck (s.teamOf guid) ≤ 1 ∧
        s.getPlayersCountByTeam (s.teamOf guid).other.id ≠ 0 := by
  set off := s.markOffline guid with hoff
  set t := s.teamOf guid with ht
  have hw : off.arenaWinner = none ∨ off.arenaWinner = some t := by
    rw [hoff, markOffline, (s.logOut_counts guid _).2]
    exact hmate.arenaWinner_eq
  have hao : off.config.isArena := ha
  have hso : off.status = .inProgress := hst
  obtain ⟨own, hown, hnot⟩ := removePlayer_endings_of_mate hao hso hw
  have hteam : (off.removePlayer.world.player guid).team = t := removePlayer_teamOf (s := off)
  have halive : off.removePlayer.getAlivePlayersCountByTeam t.id = s.livingAtCheck t :=
    (alive_after_hook hao hso hw).trans (livingAtCheck_markOffline t)
  have hother : off.removePlayer.getPlayersCountByTeam t.other.id = s.getPlayersCountByTeam t.other.id := by
    rw [getPlayersCountByTeam, removePlayer_roster]
    rfl
  rw [eventPlayerLoggedOut_eq hin hst, ← hoff, newEndings, checkLastStanding]
  simp only [removePlayer_config, hteam, getOtherTeam_id]
  rw [halive, hother]
  have hends : s.endings = off.endings := rfl
  by_cases hlost : s.livingAtCheck t ≤ 1 ∧ s.getPlayersCountByTeam t.other.id ≠ 0
  · rw [if_pos ⟨ha, hlost⟩]
    simp [endBattleground, hown, hends, hlost]
  · rw [if_neg fun h => hlost h.2, hown, hends, List.drop_left]
    exact iff_of_false hnot hlost

end LogOut

/-- **A log-out spares a side with a living mate exactly when the check finds two of its players
alive, or nobody on the other side.** -/
theorem logOut_spares_mates_iff (s : Battleground) (guid : Guid) (ha : s.config.isArena)
    (hst : s.status = .inProgress) :
    (s.HasStandingMate guid →
        (s.teamOf guid).other.id ∉ s.newEndings (s.eventPlayerLoggedOut guid)) ↔ s.SparesAtLogOut guid := by
  by_cases hin : guid ∈ s.roster.players.keys
  · constructor
    · intro h _ hmate
      have hkept := h hmate
      rw [lost_iff_of_mate ha hst hin hmate] at hkept
      omega
    · intro h hmate
      rw [lost_iff_of_mate ha hst hin hmate]
      have := h hin hmate
      omega
  · -- `EventPlayerLoggedOut` ignores who is not inside
    have hout : s.eventPlayerLoggedOut guid = s := by
      unfold eventPlayerLoggedOut
      rw [if_neg fun h => hin (contains_iff.1 h)]
    refine iff_of_true (fun _ => ?_) fun h => absurd h hin
    simp [hout, newEndings]

theorem sparesAtLogOut_of_standing (hstands : (s.world.player guid).standing)
    (hteam : s.getPlayerTeam guid = (s.teamOf guid).id) : s.SparesAtLogOut guid := by
  intro hin hmate
  obtain ⟨mate, hmem, hne, hmteam, hmstands⟩ := hmate
  obtain ⟨p, hp⟩ := mem_keys.1 hin
  obtain ⟨q, hq⟩ := mem_keys.1 hmem
  have hpteam : p.team = (s.teamOf guid).id := by simpa [getPlayerTeam, hp] using hteam
  have hqteam : q.team = (s.teamOf guid).id := by simpa [getPlayerTeam, hq] using hmteam
  have hq' : (s.roster.players.erase guid).find? mate = some q := (find?_erase_ne _ hne.symm).trans hq
  refine .inr ?_
  unfold livingAtCheck
  rw [count_erase _ hp, count_erase _ hq']
  simp [hpteam, hqteam, hstands, hmstands]

end Battleground

/-! ## A 2v2 match -/

/-- Players 1 and 2 are of the alliance, players 3 and 4 of the horde; `dead` are dead. -/
def doubles (dead : List Guid) : World :=
  { player := fun guid => { alive := guid ∉ dead, team := if guid ≤ 2 then .alliance else .horde } }

def doublesStart : List (World × Event) :=
  [(doubles [], .increaseInvitedCount .alliance), (doubles [], .increaseInvitedCount .alliance),
    (doubles [], .increaseInvitedCount .horde), (doubles [], .increaseInvitedCount .horde),
    (doubles [], .addPlayer 1), (doubles [], .addPlayer 2), (doubles [], .addPlayer 3),
    (doubles [], .addPlayer 4), (doubles [], .update 1), (doubles [], .update 60000),
    (doubles [], .update 1), (doubles [], .update 1)]

def doublesMatch (dead : List Guid) (killer : Guid) : Battleground :=
  run step (create ratedArena (doubles []))
    (doublesStart ++ [(doubles dead, .handleKillPlayer (some killer))])

theorem living_leaver_spares :
    Team.horde.id ∉ (doublesMatch [4] 1).newEndings ((doublesMatch [4] 1).eventPlayerLoggedOut 1) :=
  (Battleground.logOut_spares_mates_iff (doublesMatch [4] 1) 1 (by decide) (by decide)).2
    (Battleground.sparesAtLogOut_of_standing (by decide) (by decide)) (by decide)

/-- Player 1 is killed and logs out. The match is on, his mate is alive, and it ends for the
horde. -/
theorem dead_leaver_ends_match :
    (doublesMatch [1] 3).status = .inProgress ∧ (doublesMatch [1] 3).HasStandingMate 1 ∧
      Team.horde.id ∈ (doublesMatch [1] 3).newEndings ((doublesMatch [1] 3).eventPlayerLoggedOut 1) := by
  decide

end Axium.Bg
