import Axium.Arena.Lifetime
import Axium.Battleground.ArenaResult

/-!
# The ratings of an arena that nobody wins

`EndBattleground` with the arena teams: the rating of both teams, then the record of every player of
the cache, then a save of both. At the time limit it is called with `WINNER_NONE`, which is no team id.
`GetTeamIndexByTeamId` reads it as the horde and `GetOtherTeam` as the alliance's opponent, so the
"loser" is the team of the alliance, and no player's team is the winner. Both teams lose the same
points once (`timedOut_stats`), but every player's loss is looked for among the members of the
alliance's team, and the members of the horde's team keep their records. So the two sides are treated
alike only when no player is a member of either team (`timedOut_alike_iff`).
-/

namespace Axium.PerTeam

def swap {α : Type} (p : PerTeam α) : PerTeam α := ⟨p.horde, p.alliance⟩

end Axium.PerTeam

namespace Axium.Bg

open Run
open ArenaTeam (ArenaTeamType ArenaTeamMember PvPStats ArenaPoints RatingChange modifyRating
  updateMember memberWon memberLost offlineMemberWon offlineMemberLost saveToDB)

/-! ## The teams -/

structure TeamStats where
  rating : UInt16 := 1500
  weekGames : UInt16 := 0
  weekWins : UInt16 := 0
  seasonGames : UInt16 := 0
  seasonWins : UInt16 := 0
  rank : Nat := 0
  deriving DecidableEq, Repr

structure RatedTeam where
  type : ArenaTeamType
  stats : TeamStats := {}
  members : List ArenaTeamMember := []
  deriving DecidableEq, Repr

/-- The store of `ArenaTeamMgr`, with the players' own statistics. -/
structure Ladder where
  config : ArenaTeam.Config := {}
  teams : OrdMap Nat RatedTeam := .empty
  pvpStats : Guid → Option PvPStats := fun _ => none
  arenaPoints : Guid → Option ArenaPoints := fun _ => none

/-- `GetRatingMod` and `GetMatchmakerRatingMod`: of the own rating, the opponent's, and whether the
match was won. -/
structure Formulas where
  getRatingMod : Nat → Nat → Bool → Int
  getMatchmakerRatingMod : Nat → Nat → Bool → Int

/-- The ratings that an arena keeps of its two sides: `m_ArenaTeamMMR` and
`m_ArenaTeamRatingChanges`. -/
structure SideRatings where
  arenaTeamMMR : PerTeam Nat := ⟨0, 0⟩
  arenaTeamRatingChanges : PerTeam Int := ⟨0, 0⟩
  deriving DecidableEq, Repr

def arenaTimelimitPointsLoss : Int := -16

/-- The sum of a `uint32` and an `int32`. -/
def add32 (a : Nat) (change : Int) : Nat := ((a + change) % 2 ^ 32).toNat

def TeamStats.addGame (stats : TeamStats) (mod : Int) : TeamStats :=
  { stats with
    rating := modifyRating stats.rating mod
    weekGames := stats.weekGames + 1
    seasonGames := stats.seasonGames + 1 }

namespace Ladder

variable (l : Ladder)

def setStats (id : Nat) (f : TeamStats → TeamStats) : Ladder :=
  { l with teams := l.teams.modify id fun team => { team with stats := f team.stats } }

/-- `FinishGame`. The rank is one more than the number of teams of the type with a higher rating. -/
def finishGame (id : Nat) (mod : Int) : Ladder :=
  match l.teams.find? id with
  | none => l
  | some team =>
    let l := l.setStats id (·.addGame mod)
    let rank := 1 + l.teams.count fun _ other =>
      other.type = team.type && (team.stats.addGame mod).rating < other.stats.rating
    l.setStats id ({ · with rank := rank })

def rating (id : Nat) : Nat := ((l.teams.find? id).map (·.stats.rating.toNat)).getD 0

/-- `WonAgainst`: the change of the matchmaker rating and of the team's rating. -/
def wonAgainst (F : Formulas) (id own opponent : Nat) : Ladder × Int × Int :=
  let mod := F.getMatchmakerRatingMod own opponent true
  let ratingChange := F.getRatingMod (l.rating id) opponent true
  let l := l.finishGame id ratingChange
  (l.setStats id fun stats =>
    { stats with weekWins := stats.weekWins + 1, seasonWins := stats.seasonWins + 1 },
    mod, ratingChange)

def lostAgainst (F : Formulas) (id own opponent : Nat) : Ladder × Int × Int :=
  let mod := F.getMatchmakerRatingMod own opponent false
  let ratingChange := F.getRatingMod (l.rating id) opponent false
  (l.finishGame id ratingChange, mod, ratingChange)

def withMembers (id : Nat) (f : ArenaTeam.State → ArenaTeam.State) : Ladder :=
  match l.teams.find? id with
  | none => l
  | some team =>
    let st := f {
      type := team.type
      config := l.config
      members := team.members
      pvpStats := l.pvpStats
      arenaPoints := l.arenaPoints }
    { l with
      teams := l.teams.insert id { team with members := st.members }
      pvpStats := st.pvpStats
      arenaPoints := st.arenaPoints }

/-- The changes that `MemberWon` and `MemberLost` make to the record of a member. -/
def memberChange (F : Formulas) (id : Nat) (guid : Guid) (against : Nat) (won : Bool)
    (matchmakerChange : Int) : RatingChange :=
  let member := (l.teams.find? id).bind fun team => team.members.find? (·.guid = guid)
  { personalRatingMod :=
      F.getRatingMod ((member.map (·.personalRating.toNat)).getD 0) against won
    matchmakerRatingChange := matchmakerChange }

end Ladder

/-! ## `EndBattleground` -/

/-- The two teams of a rated match, with the ratings that `EndBattleground` has computed. -/
structure RatedMatch where
  winner : Nat
  winnerArenaTeam : Nat
  loserArenaTeam : Nat
  winnerMMR : Nat := 0
  loserMMR : Nat := 0
  winnerMMRChange : Int := 0
  loserMMRChange : Int := 0

namespace Battleground

variable (F : Formulas) (s : Battleground)

def winnerArenaTeam (winner : Nat) : Nat := s.config.arenaTeamIds.get (teamIndex winner)

def loserArenaTeam (winner : Nat) : Nat := s.config.arenaTeamIds.get (teamIndex (getOtherTeam winner))

def bothTeams (l : Ladder) (winner : Nat) : Bool :=
  l.teams.contains (s.winnerArenaTeam winner) && l.teams.contains (s.loserArenaTeam winner) &&
    s.winnerArenaTeam winner ≠ s.loserArenaTeam winner

def rateParticipant (m : RatedMatch) (l : Ladder) (x : Guid × BattlegroundPlayer) : Ladder :=
  let player := x.2.offlineRemoveTime = 0 && (s.world.player x.1).online
  if x.2.team = m.winner then
    let c := l.memberChange F m.winnerArenaTeam x.1 m.loserMMR true m.winnerMMRChange
    l.withMembers m.winnerArenaTeam fun team =>
      if player then memberWon team x.1 c else offlineMemberWon team x.1 c
  else
    let c := l.memberChange F m.loserArenaTeam x.1 m.winnerMMR false m.loserMMRChange
    l.withMembers m.loserArenaTeam fun team =>
      if player then memberLost team x.1 c else offlineMemberLost team x.1 c

def rateParticipants (m : RatedMatch) (l : Ladder) : Ladder :=
  let l := s.roster.playersCache.entries.foldl (s.rateParticipant F m) l
  (l.withMembers m.winnerArenaTeam saveToDB).withMembers m.loserArenaTeam saveToDB

/-- The rating calculation of `EndBattleground`. -/
def endRatings (r : SideRatings) (l : Ladder) (winner : Nat) : SideRatings × Ladder :=
  if s.config.isArena && s.config.isRated then
    let m : RatedMatch := ⟨winner, s.winnerArenaTeam winner, s.loserArenaTeam winner, 0, 0, 0, 0⟩
    if s.bothTeams l winner then
      if winner ≠ winnerNone then
        let w := teamIndex winner
        let o := teamIndex (getOtherTeam winner)
        let loserMMR := r.arenaTeamMMR.get o
        let winnerMMR := r.arenaTeamMMR.get w
        let (l, winnerMMRChange, winnerChange) := l.wonAgainst F m.winnerArenaTeam winnerMMR loserMMR
        let (l, loserMMRChange, loserChange) := l.lostAgainst F m.loserArenaTeam loserMMR winnerMMR
        let r : SideRatings :=
          { arenaTeamMMR := (r.arenaTeamMMR.set w (add32 winnerMMR winnerMMRChange)).set o
              (add32 loserMMR loserMMRChange)
            arenaTeamRatingChanges := (r.arenaTeamRatingChanges.set w winnerChange).set o loserChange }
        (r, s.rateParticipants F { m with
          winnerMMR := winnerMMR, loserMMR := loserMMR
          winnerMMRChange := winnerMMRChange, loserMMRChange := loserMMRChange } l)
      else
        let r := { r with
          arenaTeamRatingChanges := ⟨arenaTimelimitPointsLoss, arenaTimelimitPointsLoss⟩ }
        let l := (l.finishGame m.winnerArenaTeam arenaTimelimitPointsLoss).finishGame
          m.loserArenaTeam arenaTimelimitPointsLoss
        (r, s.rateParticipants F m l)
    else ({ r with arenaTeamRatingChanges := ⟨0, 0⟩ }, l)
  else (r, l)

/-- `CheckArenaAfterTimerConditions`. -/
def timedOut (r : SideRatings) (l : Ladder) : SideRatings × Ladder := s.endRatings F r l winnerNone

end Battleground

/-! ## The results -/

/-- What a match changes of a team: the statistics less the rank, and the members. The rank also depends
on which of the two teams finishes first. -/
def Ladder.result (l : Ladder) (id : Nat) : Option (TeamStats × List ArenaTeamMember) :=
  (l.teams.find? id).map fun team => ({ team.stats with rank := 0 }, team.members)

def timeLimitChange (F : Formulas) (members : List ArenaTeamMember) (guid : Guid) : RatingChange where
  personalRatingMod := F.getRatingMod
    (((members.find? (·.guid = guid)).map (·.personalRating.toNat)).getD 0) 0 false
  matchmakerRatingChange := 0

def timeLimitLoss (F : Formulas) (members : List ArenaTeamMember) (guid : Guid) : List ArenaTeamMember :=
  updateMember guid (·.lost (timeLimitChange F members guid)) members

namespace Ladder

variable {l : Ladder} {F : Formulas}

theorem result_setStats (l : Ladder) (id : Nat) (f : TeamStats → TeamStats) {g : TeamStats → TeamStats}
    (hf : ∀ stats, { f stats with rank := 0 } = g { stats with rank := 0 }) (id' : Nat) :
    (l.setStats id f).result id' =
      if id' = id then (l.result id').map fun x => (g x.1, x.2) else l.result id' := by
  simp only [result, setStats, OrdMap.find?_modify]
  by_cases heq : id' = id
  · subst heq
    rw [if_pos rfl, if_pos rfl]
    cases l.teams.find? id' with
    | none => rfl
    | some team => exact congrArg (fun stats => some (stats, team.members)) (hf team.stats)
  · rw [if_neg heq, if_neg (Ne.symm heq)]

theorem result_setRank (l : Ladder) (id rank id' : Nat) :
    (l.setStats id ({ · with rank := rank })).result id' = l.result id' := by
  rw [l.result_setStats id ({ · with rank := rank }) (g := fun stats => stats) fun _ => rfl]
  split <;> simp

theorem result_finishGame (id : Nat) (mod : Int) (id' : Nat) :
    (l.finishGame id mod).result id' =
      if id' = id then (l.result id').map fun x => (x.1.addGame mod, x.2) else l.result id' := by
  unfold finishGame
  cases hteam : l.teams.find? id with
  | none =>
    by_cases heq : id' = id
    · simp [heq, result, hteam]
    · rw [if_neg heq]
  | some team => rw [result_setRank, l.result_setStats id _ (g := (·.addGame mod)) fun _ => rfl]

theorem result_withMembers (l : Ladder) (id : Nat) (f : ArenaTeam.State → ArenaTeam.State)
    {g : List ArenaTeamMember → List ArenaTeamMember} (hf : ∀ st, (f st).members = g st.members) (id' : Nat) :
    (l.withMembers id f).result id' =
      if id' = id then (l.result id').map fun x => (x.1, g x.2) else l.result id' := by
  unfold withMembers
  cases hteam : l.teams.find? id with
  | none =>
    by_cases heq : id' = id
    · simp [heq, result, hteam]
    · rw [if_neg heq]
  | some team =>
    simp only [result, OrdMap.find?_insert]
    by_cases heq : id' = id
    · subst heq
      simp [hteam, hf]
    · rw [if_neg (Ne.symm heq), if_neg heq]

theorem result_save (l : Ladder) (id id' : Nat) : (l.withMembers id saveToDB).result id' = l.result id' := by
  rw [l.result_withMembers id saveToDB (g := fun members => members) fun _ => rfl]
  split <;> simp

end Ladder

/-! ## The players of a match that nobody wins -/

section Players

variable {F : Formulas} {s : Battleground} {l : Ladder}

/-- `AddPlayer` gives every entry of the cache one of the two team ids. -/
def CacheTeams (r : Roster) : Prop := ∀ x ∈ r.playersCache.entries, ∃ t : Team, x.2.team = t.id

def Battleground.unwonMatch (s : Battleground) : RatedMatch :=
  ⟨winnerNone, s.winnerArenaTeam winnerNone, s.loserArenaTeam winnerNone, 0, 0, 0, 0⟩

theorem result_rateParticipant {x : Guid × BattlegroundPlayer} (hx : x.2.team ≠ winnerNone) (id : Nat) :
    (s.rateParticipant F s.unwonMatch l x).result id =
      if id = s.loserArenaTeam winnerNone then (l.result id).map fun y => (y.1, timeLimitLoss F y.2 x.1)
      else l.result id := by
  have hlost : x.2.team ≠ s.unwonMatch.winner := hx
  set o := s.loserArenaTeam winnerNone with ho
  set c := l.memberChange F o x.1 0 false 0 with hc
  have hturn : s.rateParticipant F s.unwonMatch l x = l.withMembers o fun team =>
      { team with members := updateMember x.1 (·.lost c) team.members } := by
    unfold Battleground.rateParticipant
    simp only [if_neg hlost]
    refine congrArg (l.withMembers o) (funext fun team => ?_)
    split <;> rfl
  rw [hturn, l.result_withMembers o _ (g := updateMember x.1 (·.lost c)) fun _ => rfl]
  by_cases hid : id = o
  · rw [if_pos hid, if_pos hid, hid, hc]
    unfold Ladder.result Ladder.memberChange
    cases l.teams.find? o <;> rfl
  · rw [if_neg hid, if_neg hid]

theorem result_foldl_rateParticipant {xs : List (Guid × BattlegroundPlayer)}
    (hxs : ∀ x ∈ xs, x.2.team ≠ winnerNone) (id : Nat) :
    (xs.foldl (s.rateParticipant F s.unwonMatch) l).result id =
      if id = s.loserArenaTeam winnerNone then
        (l.result id).map fun y => (y.1, (xs.map (·.1)).foldl (timeLimitLoss F) y.2) else l.result id := by
  induction xs generalizing l with
  | nil => simp
  | cons x xs ih =>
    rw [List.foldl_cons, ih fun x' hx' => hxs x' (List.mem_cons_of_mem x hx'),
      result_rateParticipant (hxs x List.mem_cons_self)]
    split
    · rw [Option.map_map]
      rfl
    · rfl

end Players

/-! ## Losses -/

section Losses

variable {F : Formulas} {guids : List Guid} {members : List ArenaTeamMember}

theorem find?_timeLimitLoss (members : List ArenaTeamMember) (guid k : Guid) :
    (((timeLimitLoss F members guid).find? (·.guid = k)).map (·.weekGames)) =
      if k = guid then (members.find? (·.guid = k)).map (·.weekGames + 1)
      else (members.find? (·.guid = k)).map (·.weekGames) := by
  unfold timeLimitLoss
  rw [ArenaTeam.find?_updateMember (f := (·.lost (timeLimitChange F members guid))) fun _ => rfl]
  split
  · rw [Option.map_map]
    rfl
  · rfl

theorem weekGames_foldl_timeLimitLoss (hnodup : guids.Nodup) (k : Guid) :
    ((guids.foldl (timeLimitLoss F) members).find? (·.guid = k)).map (·.weekGames) =
      if k ∈ guids then (members.find? (·.guid = k)).map (·.weekGames + 1)
      else (members.find? (·.guid = k)).map (·.weekGames) := by
  induction guids generalizing members with
  | nil => simp
  | cons guid guids ih =>
    obtain ⟨hnot, hnodup⟩ := List.nodup_cons.1 hnodup
    have hplus : ∀ o : Option ArenaTeamMember,
        o.map (·.weekGames + 1) = (o.map (·.weekGames)).map (· + 1) := fun o => by
      rw [Option.map_map]
      rfl
    rw [List.foldl_cons, ih hnodup, hplus, find?_timeLimitLoss]
    by_cases hk : k = guid
    · subst hk
      simp [hnot]
    · simp [hk, Option.map_map]
      rfl

theorem foldl_timeLimitLoss_eq_iff (hnodup : guids.Nodup) :
    guids.foldl (timeLimitLoss F) members = members ↔ ∀ guid ∈ guids, guid ∉ members.map (·.guid) := by
  constructor
  · intro heq guid hguid hmem
    have hgames : (members.find? (·.guid = guid)).map (·.weekGames) =
        (members.find? (·.guid = guid)).map (·.weekGames + 1) := by
      conv_lhs => rw [← heq]
      rw [weekGames_foldl_timeLimitLoss hnodup, if_pos hguid]
    obtain ⟨m, hm⟩ := Option.isSome_iff_exists.1
      (show (members.find? (·.guid = guid)).isSome by simpa [List.find?_isSome] using hmem)
    rw [hm, Option.map_some, Option.map_some] at hgames
    exact absurd hgames (by simp)
  · intro h
    induction guids with
    | nil => rfl
    | cons guid guids ih =>
      have hnone : timeLimitLoss F members guid = members :=
        ArenaTeam.updateMember_of_notMem (h guid List.mem_cons_self)
      rw [List.foldl_cons, hnone]
      exact ih (List.nodup_cons.1 hnodup).2 fun g hg => h g (List.mem_cons_of_mem guid hg)

end Losses

/-! ## The two teams -/

section Teams

variable {F : Formulas} {s : Battleground} {l : Ladder} {r : SideRatings}

def Battleground.rates (s : Battleground) (l : Ladder) : Bool :=
  s.config.isArena && s.config.isRated && s.bothTeams l winnerNone

theorem timedOut_of_not_rates (h : s.rates l = false) : (s.timedOut F r l).2 = l := by
  unfold Battleground.timedOut Battleground.endRatings
  unfold Battleground.rates at h
  split
  · rename_i hrated
    rw [hrated, Bool.true_and] at h
    simp only [h]
    rfl
  · rfl

theorem result_timedOut (hcache : CacheTeams s.roster) (h : s.rates l) (id : Nat) :
    (s.timedOut F r l).2.result id = (l.result id).map fun y =>
      (if id = s.config.arenaTeamIds.alliance ∨ id = s.config.arenaTeamIds.horde then
          y.1.addGame arenaTimelimitPointsLoss else y.1, if id = s.config.arenaTeamIds.alliance then
          s.roster.playersCache.keys.foldl (timeLimitLoss F) y.2 else y.2) := by
  have hteams : ∀ x ∈ s.roster.playersCache.entries, x.2.team ≠ winnerNone := by
    intro x hx
    obtain ⟨t, ht⟩ := hcache x hx
    rw [ht]
    cases t <;> decide
  obtain ⟨hrated, hboth⟩ := Bool.and_eq_true_iff.1 h
  have hne : s.config.arenaTeamIds.horde ≠ s.config.arenaTeamIds.alliance :=
    of_decide_eq_true (Bool.and_eq_true_iff.1 hboth).2
  have hend : (s.timedOut F r l).2 = s.rateParticipants F s.unwonMatch
      ((l.finishGame s.config.arenaTeamIds.horde arenaTimelimitPointsLoss).finishGame
        s.config.arenaTeamIds.alliance arenaTimelimitPointsLoss) := by
    unfold Battleground.timedOut Battleground.endRatings
    rw [if_pos hrated]
    simp only [hboth, if_true, ne_eq, not_true_eq_false, if_false]
    rfl
  rw [hend, Battleground.rateParticipants, Ladder.result_save, Ladder.result_save,
    result_foldl_rateParticipant hteams, Ladder.result_finishGame, Ladder.result_finishGame]
  change (if id = s.config.arenaTeamIds.alliance then _ else _) = _
  by_cases hA : id = s.config.arenaTeamIds.alliance
  · rw [hA]
    simp only [if_true, if_neg hne.symm, true_or, Option.map_map]
    rfl
  · by_cases hH : id = s.config.arenaTeamIds.horde
    · rw [hH]
      simp only [if_true, if_neg hne, or_true]
    · simp [hA, hH]

end Teams

/-! ## The cache in a run -/

section Cache

variable {s : Battleground}

theorem remove_playersCache (r : Roster) (guid : Guid) : (r.remove guid).playersCache = r.playersCache := by
  unfold Roster.remove
  split <;> rfl

theorem foldl_removePlayerAtLeave_playersCache (guids : List Guid) :
    (guids.foldl Battleground.removePlayerAtLeave s).roster.playersCache = s.roster.playersCache := by
  induction guids generalizing s with
  | nil => rfl
  | cons guid guids ih => rw [List.foldl_cons, ih, Battleground.removePlayerAtLeave_roster, remove_playersCache]

theorem processOfflineQueue_playersCache :
    s.processOfflineQueue.roster.playersCache = s.roster.playersCache := by
  unfold Battleground.processOfflineQueue
  split
  · rfl
  · split
    · simp only [Battleground.removePlayerAtLeave_roster]
      exact remove_playersCache _ _
    · rfl

theorem update_playersCache (diff : Nat) : (s.update diff).roster.playersCache = s.roster.playersCache := by
  unfold Battleground.update
  split
  · split <;> rfl
  · split
    · exact congrArg Roster.playersCache (s.processJoin_roster diff)
    · simp only
      split
      · split <;> exact processOfflineQueue_playersCache
      · refine (congrArg Roster.playersCache (Battleground.updateProgress_roster _ diff)).trans ?_
        exact processOfflineQueue_playersCache
    · simp only [Battleground.addDuration, Battleground.processLeave]
      split
      · exact foldl_removePlayerAtLeave_playersCache _
      · rfl
    · rfl

theorem step_playersCache (s : Battleground) (we : World × Event) :
    (step s we).roster.playersCache = s.roster.playersCache ∨
      ∃ guid, ∃ t : Team, (step s we).roster.playersCache =
        s.roster.playersCache.insert guid { offlineRemoveTime := 0, team := t.id } := by
  obtain ⟨w, e⟩ := we
  cases e with
  | addPlayer guid => exact .inr ⟨guid, _, rfl⟩
  | increaseInvitedCount t => exact .inl rfl
  | decreaseInvitedCount t => simp only [step, Battleground.decreaseInvitedCount_roster, true_or]
  | handleKillPlayer killer =>
    simp only [step, Battleground.handleKillPlayer]
    split
    · exact .inl (congrArg Roster.playersCache (Battleground.checkArenaWinConditions_roster _))
    · exact .inl rfl
  | removePlayerAtLeave guid =>
    simp only [step, Battleground.removePlayerAtLeave_roster]
    exact .inl (remove_playersCache _ _)
  | eventPlayerLoggedOut guid =>
    simp only [step, Battleground.eventPlayerLoggedOut]
    split
    · split
      · rw [Battleground.checkLastStanding_roster, Battleground.removePlayer_roster]
        exact .inl rfl
      · exact .inl rfl
    · exact .inl rfl
  | eventPlayerLoggedIn guid => exact .inl rfl
  | update diff => exact .inl (update_playersCache diff)
  | endBattleground winner =>
    simp only [step]
    split <;> exact .inl rfl

/-- Whoever enters the cache has one of the two sides. -/
theorem step_cacheTeams (h : CacheTeams s.roster) (we : World × Event) : CacheTeams (step s we).roster := by
  intro x hx
  rcases step_playersCache s we with hsame | ⟨guid, t, hnew⟩
  · rw [hsame] at hx
    exact h x hx
  · rw [hnew] at hx
    rcases OrdMap.mem_insertL hx with rfl | hold
    · exact ⟨t, rfl⟩
    · exact h x hold

theorem run_cacheTeams (config : Config) (world : World) (es : List (World × Event)) :
    CacheTeams (run step (create config world) es).roster := by
  have hnew : CacheTeams (create config world).roster := fun x hx => by cases hx
  exact (allSteps_true step (create config world) es).invariant
    (I := fun s : Battleground => CacheTeams s.roster) (fun _ we hs _ => step_cacheTeams hs we) hnew

end Cache

/-! ## Exchanging the sides -/

/-- The other side's team id; 0 and `WINNER_NONE` stay. -/
def swapId (teamId : Nat) : Nat :=
  if teamId = Team.alliance.id then Team.horde.id
  else if teamId = Team.horde.id then Team.alliance.id
  else teamId

def Roster.swap (r : Roster) : Roster :=
  let swapEntry (_ : Guid) (p : BattlegroundPlayer) := { p with team := swapId p.team }
  { r with
    players := r.players.mapVal swapEntry
    playersCache := r.playersCache.mapVal swapEntry
    playersCount := r.playersCount.swap }

/-- The match with the sides exchanged: the arena teams, the participants and the counts. -/
def Battleground.swapSides (s : Battleground) : Battleground :=
  { s with
    config := { s.config with arenaTeamIds := s.config.arenaTeamIds.swap }
    roster := s.roster.swap
    invited := s.invited.swap }

def SideRatings.swap (r : SideRatings) : SideRatings := ⟨r.arenaTeamMMR.swap, r.arenaTeamRatingChanges.swap⟩

section Swap

variable {F : Formulas} {s : Battleground} {l : Ladder} {r : SideRatings}

theorem CacheTeams.swap (h : CacheTeams s.roster) : CacheTeams s.swapSides.roster := by
  intro x hx
  obtain ⟨y, hy, rfl⟩ := List.mem_map.1 hx
  obtain ⟨t, ht⟩ := h y hy
  refine ⟨t.other, ?_⟩
  simp only [ht]
  cases t <;> rfl

theorem keys_swap : s.swapSides.roster.playersCache.keys = s.roster.playersCache.keys :=
  OrdMap.keys_mapVal ..

theorem rates_swap : s.swapSides.rates l = s.rates l := by
  have hteams : s.swapSides.bothTeams l winnerNone = s.bothTeams l winnerNone := by
    change (l.teams.contains s.config.arenaTeamIds.alliance && l.teams.contains s.config.arenaTeamIds.horde &&
        decide (s.config.arenaTeamIds.alliance ≠ s.config.arenaTeamIds.horde)) =
      (l.teams.contains s.config.arenaTeamIds.horde &&
        l.teams.contains s.config.arenaTeamIds.alliance &&
          decide (s.config.arenaTeamIds.horde ≠ s.config.arenaTeamIds.alliance))
    rw [Bool.and_comm (l.teams.contains s.config.arenaTeamIds.alliance)]
    simp only [ne_comm]
  exact congrArg (_ && ·) hteams

def IsMember (l : Ladder) (id : Nat) (guid : Guid) : Prop :=
  ∃ team, l.teams.find? id = some team ∧ guid ∈ team.members.map (·.guid)

/-- The losses of the players leave the team as it is. -/
def Unhurt (F : Formulas) (s : Battleground) (l : Ladder) (id : Nat) : Prop :=
  ∀ team, l.teams.find? id = some team →
    s.roster.playersCache.keys.foldl (timeLimitLoss F) team.members = team.members

theorem unhurt_iff (id : Nat) :
    Unhurt F s l id ↔ ∀ guid ∈ s.roster.playersCache.keys, ¬ IsMember l id guid := by
  constructor
  · rintro h guid hguid ⟨team, hteam, hmem⟩
    exact (foldl_timeLimitLoss_eq_iff s.roster.playersCache.keys_nodup).1 (h team hteam) guid hguid hmem
  · intro h team hteam
    exact (foldl_timeLimitLoss_eq_iff s.roster.playersCache.keys_nodup).2 fun guid hguid hmem =>
      h guid hguid ⟨team, hteam, hmem⟩

def OneLossEach (F : Formulas) (s : Battleground) (r : SideRatings) (l : Ladder) : Prop :=
  s.rates l → ∀ id ∈ [s.config.arenaTeamIds.alliance, s.config.arenaTeamIds.horde],
    ((s.timedOut F r l).2.result id).map (·.1) = (l.result id).map (·.1.addGame arenaTimelimitPointsLoss)

def AlikeAtLimit (F : Formulas) (s : Battleground) (r : SideRatings) (l : Ladder) : Prop :=
  ∀ id, (s.timedOut F r l).2.result id = (s.swapSides.timedOut F r.swap l).2.result id

/-- No participant of a match whose ratings are calculated is a member of one of its two teams. -/
def NoMemberPlays (s : Battleground) (l : Ladder) : Prop :=
  s.rates l → ∀ guid ∈ s.roster.playersCache.keys,
    ¬ IsMember l s.config.arenaTeamIds.alliance guid ∧ ¬ IsMember l s.config.arenaTeamIds.horde guid

theorem oneLossEach (hcache : CacheTeams s.roster) : OneLossEach F s r l := by
  intro h id hid
  have hteam : id = s.config.arenaTeamIds.alliance ∨ id = s.config.arenaTeamIds.horde := by
    simpa using hid
  rw [result_timedOut hcache h]
  simp [Function.comp_def, hteam]

theorem alikeAtLimit_iff_of_rates (hcache : CacheTeams s.roster) (h : s.rates l) :
    AlikeAtLimit F s r l ↔
      Unhurt F s l s.config.arenaTeamIds.alliance ∧ Unhurt F s l s.config.arenaTeamIds.horde := by
  have hne : s.config.arenaTeamIds.horde ≠ s.config.arenaTeamIds.alliance :=
    of_decide_eq_true (Bool.and_eq_true_iff.1 (Bool.and_eq_true_iff.1 h).2).2
  have hresult := result_timedOut (F := F) (r := r) hcache h
  have hswapped := result_timedOut (F := F) (r := r.swap) hcache.swap (rates_swap.trans h)
  rw [keys_swap] at hswapped
  change ∀ id, _ = (l.result id).map fun y =>
    (if id = s.config.arenaTeamIds.horde ∨ id = s.config.arenaTeamIds.alliance then _ else _,
      if id = s.config.arenaTeamIds.horde then _ else _) at hswapped
  constructor
  · intro heq
    constructor
    · intro team hteam
      have hA := heq s.config.arenaTeamIds.alliance
      rw [hresult, hswapped] at hA
      simpa [Ladder.result, hteam, hne.symm] using hA
    · intro team hteam
      have hH := heq s.config.arenaTeamIds.horde
      rw [hresult, hswapped] at hH
      simpa [Ladder.result, hteam, hne, eq_comm] using hH
  · rintro ⟨hA, hH⟩ id
    rw [hresult, hswapped]
    cases hteam : l.teams.find? id with
    | none => simp [Ladder.result, hteam]
    | some team =>
      by_cases hidA : id = s.config.arenaTeamIds.alliance
      · subst hidA
        simp [Ladder.result, hteam, hne.symm, hA team hteam]
      · by_cases hidH : id = s.config.arenaTeamIds.horde
        · subst hidH
          simp [Ladder.result, hteam, hne, hH team hteam]
        · simp [Ladder.result, hteam, hidA, hidH]

theorem alikeAtLimit_iff (hcache : CacheTeams s.roster) : AlikeAtLimit F s r l ↔ NoMemberPlays s l := by
  cases h : s.rates l with
  | false =>
    refine iff_of_true (fun id => ?_) fun hr => by rw [h] at hr; cases hr
    rw [timedOut_of_not_rates h, timedOut_of_not_rates (rates_swap.trans h)]
  | true =>
    rw [alikeAtLimit_iff_of_rates hcache h, unhurt_iff, unhurt_iff]
    constructor
    · exact fun hnone _ guid hguid => ⟨hnone.1 guid hguid, hnone.2 guid hguid⟩
    · exact fun hnone => ⟨fun guid hguid => (hnone h guid hguid).1, fun guid hguid => (hnone h guid hguid).2⟩

end Swap

def reached (config : Config) (world : World) (es : List (World × Event)) (w : World) : Battleground :=
  { run step (create config world) es with world := w }

/-- **At the time limit each team finishes one game with the same loss, but the two sides are treated
alike exactly when the ratings are not calculated or no participant is a member of either team.** -/
theorem timedOut_alike_iff (F : Formulas) (config : Config) (world : World)
    (es : List (World × Event)) (w : World) (r : SideRatings) (l : Ladder) :
    OneLossEach F (reached config world es w) r l ∧
      (AlikeAtLimit F (reached config world es w) r l ↔ NoMemberPlays (reached config world es w) l) := by
  have hcache : CacheTeams (reached config world es w).roster := run_cacheTeams config world es
  exact ⟨oneLossEach hcache, alikeAtLimit_iff hcache⟩

/-! ## A drawn duel -/

def duelTeams : Ladder where
  teams := (OrdMap.empty.insert 1 { type := .t2v2, members := [{ guid := 1 }] }).insert 2
    { type := .t2v2, members := [{ guid := 2 }] }

def tenPoints : Formulas := ⟨fun _ _ won => if won then 10 else -10, fun _ _ _ => 0⟩

def drawnDuel : Battleground := reached ratedArena (duel []) duelStart (duel [])

def weekGames (l : Ladder) (id : Nat) : Option (List UInt16) :=
  (l.result id).map fun y => y.2.map (·.weekGames)

/-- Both players fought, and only the one of the alliance's team has played a game. With the sides
exchanged it is the other one. -/
theorem drawnDuel_not_alike :
    ¬ AlikeAtLimit tenPoints drawnDuel {} duelTeams ∧
      weekGames (drawnDuel.timedOut tenPoints {} duelTeams).2 1 = some [1] ∧
      weekGames (drawnDuel.timedOut tenPoints {} duelTeams).2 2 = some [0] ∧
      weekGames (drawnDuel.swapSides.timedOut tenPoints {} duelTeams).2 1 = some [0] ∧
      weekGames (drawnDuel.swapSides.timedOut tenPoints {} duelTeams).2 2 = some [1] := by
  refine ⟨fun h => ?_, by decide, by decide, by decide, by decide⟩
  have hfirst := congrArg (Option.map fun y : TeamStats × List ArenaTeamMember =>
    y.2.map (·.weekGames)) (h 1)
  revert hfirst
  decide

end Axium.Bg
