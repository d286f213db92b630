import Axium.Battleground.PlayerCount

/-!
# The result of a rated arena

`EndBattleground` applies the result to both arena teams, and does not ask whether it has run
before. Its callers see to that by the status, but not all of them, and three events can end the
match twice: a log-out (the departure ends it, then the count of those alive), a departure or a
declined invitation that leaves both sides empty (the two tests of `CheckEndConditions`), and an
`Update` at the time limit that also removes an offline player.
-/

namespace Axium.Bg

open Run OrdMap Battleground

namespace Battleground

variable (s : Battleground)

def onlineCount (teamId : Nat) : Nat :=
  s.roster.players.count fun guid p => p.team = teamId && (s.world.player guid).online

def deserted : Prop := s.sideEmpty .alliance ∧ s.sideEmpty .horde

instance : Decidable s.deserted := inferInstanceAs (Decidable (_ ∧ _))

def afterLeave (guid : Guid) : Battleground := (s.takeOff guid).decrInvited (s.leaverTeam guid)

def LeaveEnds (guid : Guid) : Prop :=
  (s.takeOff guid).arenaWinner.isSome ∨
    guid ∈ s.roster.players.keys ∧
      ((s.afterLeave guid).sideEmpty .alliance ∨ (s.afterLeave guid).sideEmpty .horde)

def LeaveEndsOnce (guid : Guid) : Prop :=
  s.status ≠ .waitLeave → guid ∈ s.roster.players.keys → ¬ (s.afterLeave guid).deserted

instance (guid : Guid) : Decidable (s.LeaveEnds guid) := inferInstanceAs (Decidable (_ ∨ _))

instance (guid : Guid) : Decidable (s.LeaveEndsOnce guid) := inferInstanceAs (Decidable (_ → _ → _))

end Battleground

/-- The event ends the match at most once.
* A declined invitation or a departure does not leave both sides empty.
* Nobody who is inside logs out when a side has already won by `CheckArenaWinConditions`, at most one player of
  his own side is online and the other side has players.
* At the time limit `Update` does not also remove an offline player whose departure ends the
  match.

A player who logs in is inside, as the caller checks. -/
def EndsOnce (s : Battleground) : Event → Prop
  | .decreaseInvitedCount t => s.status ≠ .waitLeave → ¬ (s.decrInvited t.id).deserted
  | .removePlayerAtLeave guid => s.LeaveEndsOnce guid
  | .eventPlayerLoggedOut guid =>
    guid ∈ s.roster.players.keys → s.status = .inProgress → s.arenaWinner.isSome →
      s.onlineCount (s.world.player guid).team.id ≤ 1 →
      s.getPlayersCountByTeam (s.world.player guid).team.other.id = 0
  | .eventPlayerLoggedIn guid => guid ∈ s.roster.players.keys
  | .update _ =>
    s.status = .inProgress → ∀ guid ∈ s.roster.offlineQueue.head?,
      guid ∈ s.roster.players.keys →
      s.LeaveEndsOnce guid ∧ (arenaTimeLimit ≤ s.duration → ¬ s.LeaveEnds guid)
  | _ => True

/-! ## One end of the match -/

/-- The invariant: the result has been applied at most once, not at all while the match is on, and
whoever is inside is in the cache. -/
structure ResultOnce (s : Battleground) : Prop where
  length_le : s.ratingEffects.length ≤ 1
  none_before : s.status ≠ .waitLeave → s.ratingEffects = []
  cached : ∀ guid ∈ s.roster.players.keys, guid ∈ s.roster.playersCache.keys

namespace ResultOnce

variable {s : Battleground}

theorem endBattleground (hnil : s.ratingEffects = [])
    (hc : ∀ guid ∈ s.roster.players.keys, guid ∈ s.roster.playersCache.keys) (w : Nat) :
    ResultOnce (s.endBattleground w) where
  length_le := by
    simp only [Battleground.endBattleground, hnil, List.nil_append]
    cases s.ratingEffect? w <;> simp
  none_before h := absurd rfl h
  cached := hc

section

variable (h : ResultOnce s)
include h

theorem of_frame {s' : Battleground} (heff : s'.ratingEffects = s.ratingEffects) (hst : s'.status = s.status)
    (hr : s'.roster = s.roster) : ResultOnce s' where
  length_le := heff ▸ h.length_le
  none_before hne := heff ▸ h.none_before (hst ▸ hne)
  cached := hr ▸ h.cached

theorem checkArenaWinConditions (hst : s.status ≠ .waitLeave) : ResultOnce s.checkArenaWinConditions := by
  unfold Battleground.checkArenaWinConditions
  split
  · exact .endBattleground (h.none_before hst) h.cached _
  · exact h

theorem removePlayer : ResultOnce s.removePlayer := by
  unfold Battleground.removePlayer
  split
  · rename_i hst
    exact h.checkArenaWinConditions hst.2
  · exact h

theorem checkEndConditions (hd : s.status ≠ .waitLeave → ¬ s.deserted) : ResultOnce s.checkEndConditions := by
  unfold Battleground.checkEndConditions
  split
  · exact h
  · rename_i hst
    have hnil := h.none_before hst
    have hd := hd hst
    split
    · simp only
      by_cases hA : s.sideEmpty .alliance
      · -- the first test ends the match; the second reads the same counters
        have hH : ¬ (s.endBattleground Team.horde.id).sideEmpty .horde := fun hH => hd ⟨hA, hH⟩
        rw [if_pos hA, if_neg hH]
        exact .endBattleground hnil h.cached _
      · rw [if_neg hA]
        split
        · exact .endBattleground hnil h.cached _
        · exact h
    · exact h

theorem decrInvited (teamId : Nat) : ResultOnce (s.decrInvited teamId) := h.of_frame rfl rfl rfl

theorem takeOff (guid : Guid) : ResultOnce (s.takeOff guid) where
  length_le := h.length_le
  none_before := h.none_before
  cached g hg := by
    simp only [Battleground.takeOff, Roster.remove] at hg ⊢
    cases hp : s.roster.players.find? guid with
    | none => exact h.cached g (by simpa [hp] using hg)
    | some p =>
      simp only [hp] at hg
      exact h.cached g (mem_keys_erase.1 hg).2

end

end ResultOnce

/-! ## A departure -/

namespace Battleground

variable {s : Battleground}

theorem sideEmpty_decrInvited_removePlayer (teamId : Nat) (t : Team) :
    (s.removePlayer.decrInvited teamId).sideEmpty t ↔ (s.decrInvited teamId).sideEmpty t := by
  simp only [sideEmpty, getInvitedCountByTeam, getPlayersCountByTeam, decrInvited,
    removePlayer_invited, removePlayer_roster]

theorem removePlayer_of_waitLeave (h : s.status = .waitLeave) : s.removePlayer = s := by
  unfold removePlayer
  rw [if_neg]
  exact fun hc => hc.2 h

theorem removePlayer_of_no_winner (h : s.arenaWinner = none) : s.removePlayer = s := by
  unfold removePlayer checkArenaWinConditions
  rw [h]
  split <;> rfl

theorem checkEndConditions_of_sides (hA : ¬ s.sideEmpty .alliance) (hH : ¬ s.sideEmpty .horde) :
    s.checkEndConditions = s := by
  unfold checkEndConditions
  simp only [if_neg hA, if_neg hH]
  repeat' split
  all_goals rfl

end Battleground

theorem ResultOnce.removePlayerAtLeave {s : Battleground} (h : ResultOnce s) {guid : Guid}
    (hL : s.LeaveEndsOnce guid) : ResultOnce (s.removePlayerAtLeave guid) := by
  have hoff := (h.takeOff guid).removePlayer
  unfold Battleground.removePlayerAtLeave
  split
  · rename_i hin
    have hdec : ResultOnce ((s.takeOff guid).removePlayer.decreaseInvitedCount (s.leaverTeam guid)) := by
      refine (hoff.decrInvited _).checkEndConditions fun hst hd => ?_
      -- the hook has not ended the match, so it was still on before
      have hst' : s.status ≠ .waitLeave := by
        intro hs
        rw [removePlayer_of_waitLeave (s := s.takeOff guid) hs] at hst
        exact hst hs
      refine hL hst' (contains_iff.1 hin) ?_
      exact ⟨(sideEmpty_decrInvited_removePlayer _ _).1 hd.1, (sideEmpty_decrInvited_removePlayer _ _).1 hd.2⟩
    simp only
    split
    · unfold addToBGFreeSlotQueue
      split
      · exact hdec.of_frame rfl rfl rfl
      · exact hdec
    · exact hdec
  · exact hoff

theorem Battleground.removePlayerAtLeave_status {s : Battleground} {guid : Guid}
    (hL : ¬ s.LeaveEnds guid) : (s.removePlayerAtLeave guid).status = s.status := by
  unfold Battleground.LeaveEnds at hL
  simp only [not_or, not_and, Option.not_isSome_iff_eq_none] at hL
  obtain ⟨hwin, hside⟩ := hL
  unfold Battleground.removePlayerAtLeave
  simp only [removePlayer_of_no_winner hwin]
  split
  · rename_i hin
    obtain ⟨hA, hH⟩ := hside (contains_iff.1 hin)
    have hcheck : (s.takeOff guid).decreaseInvitedCount (s.leaverTeam guid) = s.afterLeave guid :=
      checkEndConditions_of_sides hA hH
    rw [hcheck]
    split
    · unfold addToBGFreeSlotQueue
      split <;> rfl
    · rfl
  · rfl

/-! ## A log-out -/

namespace Battleground

variable {s : Battleground}

theorem getOtherTeam_id (t : Team) : getOtherTeam t.id = t.other.id := by cases t <;> rfl

theorem getAlivePlayersCountByTeam_endBattleground
    (hc : ∀ guid ∈ s.roster.players.keys, guid ∈ s.roster.playersCache.keys) (w teamId : Nat) :
    (s.endBattleground w).getAlivePlayersCountByTeam teamId = s.onlineCount teamId := by
  refine count_congr fun guid p hp => ?_
  have hcache : s.roster.playersCache.contains guid = true := contains_iff.2 (hc guid (mem_keys.2 ⟨p, hp⟩))
  simp only [endBattleground, hcache, Bool.true_and]
  cases hon : (s.world.player guid).online with
  | true => simp [PlayerState.standing, PlayerState.resurrect, hon]
  | false => simp [PlayerState.standing, hon]

theorem logOut_counts (guid : Guid) (time : Nat) :
    (∀ teamId, onlineCount { s with roster := s.roster.logOut guid time } teamId = s.onlineCount teamId) ∧
    arenaWinner { s with roster := s.roster.logOut guid time } = s.arenaWinner := by
  constructor
  · intro teamId
    exact count_logOut (fun g team => decide (team = teamId) && (s.world.player g).online) s.roster guid time
  · have halive : ∀ teamId, getAlivePlayersCountByTeam { s with roster := s.roster.logOut guid time } teamId =
          s.getAlivePlayersCountByTeam teamId := fun teamId =>
      count_logOut (fun g team => decide (team = teamId) && (s.world.player g).standing) s.roster
        guid time
    simp only [arenaWinner, halive]
    rfl

end Battleground

theorem ResultOnce.eventPlayerLoggedOut {s : Battleground} (h : ResultOnce s) {guid : Guid}
    (hE : EndsOnce s (.eventPlayerLoggedOut guid)) : ResultOnce (s.eventPlayerLoggedOut guid) := by
  unfold Battleground.eventPlayerLoggedOut
  split
  · rename_i hin
    obtain ⟨honline, hwinner⟩ := s.logOut_counts guid (s.world.gameTime + maxOfflineTime)
    set off : Battleground :=
      { s with roster := s.roster.logOut guid (s.world.gameTime + maxOfflineTime) } with hoffdef
    have hoff : ResultOnce off :=
      ⟨h.length_le, h.none_before, fun g hg => h.cached g (mem_keys_modify.1 hg)⟩
    simp only
    split
    · rename_i hst
      have hrun : off.status ≠ .waitLeave := by rw [hst]; decide
      unfold checkLastStanding
      simp only
      cases hw : off.arenaWinner with
      | none =>
        -- nobody had won, so the hook does nothing and the second check may end the match
        rw [removePlayer_of_no_winner hw]
        split
        · exact .endBattleground (hoff.none_before hrun) hoff.cached _
        · exact hoff
      | some t =>
        by_cases harena : off.config.isArena
        · -- the hook ends the match: the second check must not hold any more
          have hhook : off.removePlayer = off.endBattleground t.id := by
            unfold Battleground.removePlayer Battleground.checkArenaWinConditions
            rw [if_pos ⟨harena, hrun⟩, hw]
          rw [hhook, if_neg]
          · exact .endBattleground (hoff.none_before hrun) hoff.cached _
          · rintro ⟨-, halive, hother⟩
            have hteam : ((off.endBattleground t.id).world.player guid).team = (s.world.player guid).team := by
              simp only [Battleground.endBattleground, hoffdef]
              split <;> rfl
            rw [hteam] at halive hother
            rw [getAlivePlayersCountByTeam_endBattleground hoff.cached, honline] at halive
            rw [getOtherTeam_id] at hother
            exact hother (hE (contains_iff.1 hin) hst (by rw [← hwinner, hw]; rfl) halive)
        · have hhook : off.removePlayer = off := by
            unfold Battleground.removePlayer
            rw [if_neg fun hc => harena hc.1]
          rw [hhook, if_neg fun hc => harena hc.1]
          exact hoff
    · exact hoff
  · exact h

/-! ## `Update` and the other events -/

theorem Battleground.processOfflineQueue_duration (s : Battleground) :
    s.processOfflineQueue.duration = s.duration := by
  have hcheck : ∀ s : Battleground, s.checkEndConditions.duration = s.duration := by
    intro s
    unfold Battleground.checkEndConditions
    simp only
    repeat' split
    all_goals rfl
  have hhook : ∀ s : Battleground, s.removePlayer.duration = s.duration := by
    intro s
    unfold Battleground.removePlayer Battleground.checkArenaWinConditions
    repeat' split
    all_goals rfl
  unfold Battleground.processOfflineQueue Battleground.removePlayerAtLeave
    decreaseInvitedCount addToBGFreeSlotQueue
  simp only
  repeat' split
  all_goals first
    | rfl
    | exact (hcheck _).trans (hhook _)

namespace ResultOnce

variable {s : Battleground}

section

variable (h : ResultOnce s)
include h

theorem endBattleground_of_not_arena (ha : s.config.isArena = false) (w : Nat) :
    ResultOnce (s.endBattleground w) where
  length_le := by
    have hnone : s.ratingEffect? w = none := by simp [ratingEffect?, ha]
    simpa [Battleground.endBattleground, hnone] using h.length_le
  none_before hne := absurd rfl hne
  cached := h.cached

theorem processJoin (hst : s.status = .waitJoin) (diff : Nat) : ResultOnce (s.processJoin diff) := by
  have hnil : s.ratingEffects = [] := h.none_before (by rw [hst]; decide)
  have hle : s.ratingEffects.length ≤ 1 := h.length_le
  unfold Battleground.processJoin endNow
  simp only
  repeat' split
  all_goals first
    | exact ⟨hle, fun _ => hnil, h.cached⟩
    | exact ResultOnce.checkArenaWinConditions ⟨hle, fun _ => hnil, h.cached⟩ (by simp)

theorem processOfflineQueue (hst : s.status = .inProgress) (diff : Nat) (hE : EndsOnce s (.update diff)) :
    ResultOnce s.processOfflineQueue ∧
      (arenaTimeLimit ≤ s.duration → s.processOfflineQueue.status = .inProgress) := by
  unfold Battleground.processOfflineQueue
  split
  · exact ⟨h, fun _ => hst⟩
  · rename_i guid rest hq
    split
    · rename_i hin
      obtain ⟨honce, hlimit⟩ := hE hst guid (by simp [hq]) (contains_iff.1 hin)
      have hleave := h.removePlayerAtLeave honce
      refine ⟨⟨hleave.length_le, hleave.none_before, hleave.cached⟩, fun hd => ?_⟩
      exact (removePlayerAtLeave_status (hlimit hd)).trans hst
    · exact ⟨h, fun _ => hst⟩

theorem removePlayerAtLeave_of_waitLeave (hst : s.status = .waitLeave) (guid : Guid) :
    ResultOnce (s.removePlayerAtLeave guid) ∧ (s.removePlayerAtLeave guid).status = .waitLeave := by
  refine ⟨h.removePlayerAtLeave fun hne => absurd hst hne, ?_⟩
  have hoff : (s.takeOff guid).removePlayer = s.takeOff guid := removePlayer_of_waitLeave hst
  have hcheck : (s.takeOff guid).decreaseInvitedCount (s.leaverTeam guid) = s.afterLeave guid := by
    exact if_pos hst
  unfold Battleground.removePlayerAtLeave
  simp only [hoff, hcheck]
  split
  · rw [if_neg fun hne => hne hst]
    exact hst
  · exact hst

theorem processLeave (hst : s.status = .waitLeave) (diff : Nat) : ResultOnce (s.processLeave diff) := by
  have hfold : ∀ (guids : List Guid) (s : Battleground), ResultOnce s → s.status = .waitLeave →
      ResultOnce (guids.foldl Battleground.removePlayerAtLeave s) := by
    intro guids
    induction guids with
    | nil => exact fun s h _ => h
    | cons guid guids ih =>
      intro s h hst
      obtain ⟨hleave, hst'⟩ := h.removePlayerAtLeave_of_waitLeave hst guid
      exact ih _ hleave hst'
  unfold Battleground.processLeave
  simp only
  split
  · exact hfold _ _ (h.of_frame rfl rfl rfl) hst
  · exact h.of_frame rfl rfl rfl

theorem updateProgress (ha : s.config.isArena = false) (diff : Nat) : ResultOnce (s.updateProgress diff) := by
  unfold Battleground.updateProgress processProgress
  split
  · split
    · exact h.of_frame rfl rfl rfl
    · split
      · exact (h.endBattleground_of_not_arena ha _).of_frame rfl rfl rfl
      · split
        · exact h.of_frame rfl rfl rfl
        · exact h
  · exact h.of_frame rfl rfl rfl

theorem addDuration (diff : Nat) : ResultOnce (s.addDuration diff) := h.of_frame rfl rfl rfl

theorem update (diff : Nat) (hE : EndsOnce s (.update diff)) : ResultOnce (s.update diff) := by
  unfold Battleground.update
  split
  · split
    · exact h.of_frame rfl rfl rfl
    · exact h
  · split
    · rename_i hst
      exact (h.processJoin hst diff).addDuration diff
    · rename_i hst
      obtain ⟨hoff, hlimit⟩ := h.processOfflineQueue hst diff hE
      simp only
      split
      · split
        · rename_i hd
          have hst' := hlimit (s.processOfflineQueue_duration ▸ hd)
          exact .endBattleground (hoff.none_before (by rw [hst']; decide)) hoff.cached _
        · exact hoff.addDuration diff
      · rename_i ha
        exact (hoff.updateProgress (by simpa using ha) diff).addDuration diff
    · rename_i hst
      exact (h.processLeave hst diff).addDuration diff
    · exact h.addDuration diff

end

end ResultOnce

/-- A step that ends the match at most once applies its result at most once in all. -/
theorem ResultOnce.step {s : Battleground} (h : ResultOnce s) (we : World × Event)
    (hE : EndsOnce { s with world := we.1 } we.2) : ResultOnce (step s we) := by
  obtain ⟨w, e⟩ := we
  have hw : ResultOnce { s with world := w } := h.of_frame rfl rfl rfl
  cases e with
  | addPlayer guid =>
    refine ⟨h.length_le, h.none_before, fun g hg => ?_⟩
    rcases mem_keys_insert.1 hg with heq | hg
    · exact mem_keys_insert.2 (.inl heq)
    · exact mem_keys_insert.2 (.inr (h.cached g hg))
  | increaseInvitedCount t => exact hw.of_frame rfl rfl rfl
  | decreaseInvitedCount t => exact (hw.decrInvited t.id).checkEndConditions hE
  | handleKillPlayer killer =>
    simp only [Bg.step, handleKillPlayer]
    split
    · rename_i hk
      exact hw.checkArenaWinConditions (by rw [hk.2.1]; decide)
    · exact hw
  | removePlayerAtLeave guid => exact hw.removePlayerAtLeave hE
  | eventPlayerLoggedOut guid => exact hw.eventPlayerLoggedOut hE
  | eventPlayerLoggedIn guid =>
    refine ⟨h.length_le, h.none_before, fun g hg => ?_⟩
    rcases mem_keys_insert.1 hg with rfl | hg
    · exact h.cached _ hE
    · exact h.cached g hg
  | update diff => exact hw.update diff hE
  | endBattleground winner =>
    simp only [Bg.step]
    split
    · exact hw
    · rename_i ha
      exact hw.endBattleground_of_not_arena (by simpa using ha) _

/-- **In every run whose events end the match at most once, the result of the arena has been applied
at most once in every state reached.** -/
theorem result_at_most_once (config : Config) (world : World) (pre post : List (World × Event))
    (h : AllSteps step (fun s we => EndsOnce { s with world := we.1 } we.2) (create config world)
      (pre ++ post)) :
    (run step (create config world) pre).ratingEffects.length ≤ 1 := by
  have hnew : ResultOnce (create config world) :=
    ⟨Nat.zero_le 1, fun _ => rfl, fun _ hg => by simp [create, OrdMap.keys, OrdMap.empty] at hg⟩
  have hinv := AllSteps.reaches (I := ResultOnce) (fun _ we hs hE => hs.step we hE) hnew h
  exact hinv.length_le

instance (s : Battleground) : ∀ e, Decidable (EndsOnce s e)
  | .decreaseInvitedCount _ => inferInstanceAs (Decidable (_ → ¬ _))
  | .removePlayerAtLeave guid => inferInstanceAs (Decidable (s.LeaveEndsOnce guid))
  | .eventPlayerLoggedOut _ => inferInstanceAs (Decidable (_ → _ → _ → _ → _ = 0))
  | .eventPlayerLoggedIn guid => inferInstanceAs (Decidable (guid ∈ s.roster.players.keys))
  | .update _ => inferInstanceAs (Decidable (s.status = .inProgress → ∀ guid ∈ s.roster.offlineQueue.head?, _))
  | .addPlayer _ | .increaseInvitedCount _ | .handleKillPlayer _ | .endBattleground _ => isTrue trivial

/-- Player 1 is of the alliance, player 2 of the horde; `dead` are dead. -/
def duel (dead : List Guid) : World :=
  { player := fun guid => { alive := guid ∉ dead, team := if guid = 1 then .alliance else .horde } }

def duelStart : List (World × Event) :=
  [(duel [], .increaseInvitedCount .alliance), (duel [], .increaseInvitedCount .horde),
    (duel [], .addPlayer 1), (duel [], .addPlayer 2), (duel [], .update 1),
    (duel [], .update 60000), (duel [], .update 1), (duel [], .update 1)]

theorem duel_result_once :
    (run step (create ratedArena (duel [])) (duelStart ++
      [(duel [2], .handleKillPlayer (some 1)), (duel [], .removePlayerAtLeave 2),
        (duel [], .removePlayerAtLeave 1)])).ratingEffects.length ≤ 1 :=
  result_at_most_once ratedArena (duel []) _ [] (by decide)

/-- The result is applied twice when player 1 dies without a killer and then logs out, and when the
only invited player declines. -/
theorem result_applied_twice :
    (run step (create ratedArena (duel [])) (duelStart ++
      [(duel [1], .handleKillPlayer none), (duel [1], .eventPlayerLoggedOut 1)])).ratingEffects =
      [⟨2, 1, false⟩, ⟨2, 1, false⟩] ∧
    (run step (create ratedArena (duel [])) [(duel [], .increaseInvitedCount .horde),
        (duel [], .decreaseInvitedCount .horde)]).ratingEffects = [⟨2, 1, false⟩, ⟨1, 2, false⟩] := by
  decide

end Axium.Bg
