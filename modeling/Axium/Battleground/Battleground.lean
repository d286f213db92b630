import Axium.Lib.Run
import Axium.Lib.OrdMap
import Axium.Battleground.Basic

/-!
# A battleground instance

The life of one `Battleground` object: who is inside, who is invited, who is offline, when the match
starts and how it ends. Translated from `Battleground.cpp`, with the arena subclasses (`NA`, `BE`,
`RL`, `DS`, `RV`), whose `RemovePlayer` and `HandleKillPlayer` are the same function up to the
packets they send. Of a battleground's own scoring only its call of `EndBattleground` is an event
here.

What the code asks of the rest of the server (is a player online, is he alive, does an arena team
exist, what time is it) is the `World`. It may change arbitrarily between two events; inside an
event it changes only through the code, which resurrects players when a match ends and when a
player leaves.
-/

namespace Axium.Bg

open Team

/-- `BattlegroundStatus`. -/
inductive Status where
  | none | waitQueue | waitJoin | inProgress | waitLeave
  deriving DecidableEq, Repr

/-- `BattlegroundPlayer`. The team is a team id, or 0 in an entry that `operator[]` created. -/
structure BattlegroundPlayer where
  offlineRemoveTime : Nat := 0
  team : Nat := 0
  deriving DecidableEq, Repr

/-- What the code asks of a `Player`: whether `FindPlayer` finds him, whether he is alive, whether
he is in the form of Spirit of Redemption, and `GetTeam`. -/
structure PlayerState where
  online : Bool := true
  alive : Bool := true
  spiritOfRedemption : Bool := false
  team : Team := .alliance
  deriving DecidableEq, Repr

def PlayerState.standing (p : PlayerState) : Bool := p.online && p.alive && !p.spiritOfRedemption

/-- A player after `ResurrectPlayer`, with Spirit of Redemption removed. -/
def PlayerState.resurrect (p : PlayerState) : PlayerState :=
  { p with alive := true, spiritOfRedemption := false }

/-- The server around the instance. `mapReady` is the success of `FindBgMap` and
`SetupBattleground`. -/
structure World where
  player : Guid → PlayerState
  arenaTeamExists : Nat → Bool := fun _ => true
  gameTime : Nat := 0
  mapReady : Bool := true

structure StartDelayTimes where
  first : Int
  second : Int
  third : Int
  fourth : Int := 0
  deriving DecidableEq, Repr

/-- What does not change after `CreateNewBattleground`. -/
structure Config where
  isArena : Bool
  isRated : Bool
  arenaTeamIds : PerTeam Nat := ⟨0, 0⟩
  startDelayTimes : StartDelayTimes := { first := 60000, second := 30000, third := 15000 }
  minPlayersPerTeam : Nat := 0
  maxPlayersPerTeam : Nat := 0
  prematureFinishTime : Nat := 0
  isTesting : Bool := false
  deriving DecidableEq, Repr

/-- One run of the rating block of `EndBattleground`: `WonAgainst` and `LostAgainst`, or `FinishGame`
for both teams when there is no winner. -/
structure RatingEffect where
  winnerArenaTeam : Nat
  loserArenaTeam : Nat
  noWinner : Bool
  deriving DecidableEq, Repr

/-- The players: `m_Players`, `m_PlayersCache`, `m_PlayersCount` and `m_OfflineQueue`. -/
structure Roster where
  players : OrdMap Guid BattlegroundPlayer := .empty
  playersCache : OrdMap Guid BattlegroundPlayer := .empty
  playersCount : PerTeam Nat := ⟨0, 0⟩
  offlineQueue : List Guid := []

/-- `GetTeamIndexByTeamId`: everything but `ALLIANCE` is the horde's index. -/
def teamIndex (teamId : Nat) : Team := if teamId = alliance.id then .alliance else .horde

namespace Roster

variable (r : Roster)

/-- `AddPlayer` for a player of the team: `m_Players[guid]`, `m_PlayersCache[guid]` and the count. -/
def add (guid : Guid) (team : Team) : Roster :=
  let bp : BattlegroundPlayer := { offlineRemoveTime := 0, team := team.id }
  { r with
    players := r.players.insert guid bp
    playersCache := r.playersCache.insert guid bp
    playersCount := r.playersCount.set team (incr32 (r.playersCount.get team)) }

/-- `RemovePlayerAtLeave`: the entry and the count. The cache and the offline queue stay. -/
def remove (guid : Guid) : Roster :=
  match r.players.find? guid with
  | some bp =>
    let t := teamIndex bp.team
    { r with
      players := r.players.erase guid
      playersCount := r.playersCount.set t (decr32 (r.playersCount.get t)) }
  | none => r

/-- `EventPlayerLoggedIn`. `m_Players[guid]` creates the entry when there is none. -/
def logIn (guid : Guid) : Roster :=
  let bp := (r.players.find? guid).getD {}
  { r with
    offlineQueue := r.offlineQueue.erase guid
    players := r.players.insert guid { bp with offlineRemoveTime := 0 } }

/-- `EventPlayerLoggedOut`, for a player inside. -/
def logOut (guid : Guid) (offlineRemoveTime : Nat) : Roster :=
  { r with
    offlineQueue := r.offlineQueue ++ [guid]
    players := r.players.modify guid ({ · with offlineRemoveTime := offlineRemoveTime }) }

end Roster

/-- A `Battleground` object, with the world it reads and logs of the calls of `EndBattleground` (by
their argument) and of the rating blocks they ran. `invited` is `m_InvitedAlliance` and
`m_InvitedHorde`. -/
structure Battleground where
  config : Config
  roster : Roster := {}
  invited : PerTeam Nat := ⟨0, 0⟩
  status : Status := .waitJoin
  winner : Nat := 2
  events : Nat := 0
  startDelayTime : Int := 0
  endTime : Int := 0
  duration : Nat := 0
  prematureCountDown : Bool := false
  prematureCountDownTimer : Nat := 0
  inBGFreeSlotQueue : Bool := false
  setDeleteThis : Bool := false
  world : World
  endings : List Nat := []
  ratingEffects : List RatingEffect := []

def getOtherTeam (teamId : Nat) : Nat :=
  if teamId = 0 then 0 else if teamId = alliance.id then horde.id else alliance.id

/-- The side whose invited count is changed: everything but `HORDE` is the alliance's. -/
def invitedIndex (teamId : Nat) : Team := if teamId = horde.id then .horde else .alliance

@[simp] theorem teamIndex_id (t : Team) : teamIndex t.id = t := by cases t <;> rfl

@[simp] theorem invitedIndex_id (t : Team) : invitedIndex t.id = t := by cases t <;> rfl

/-- `WINNER_NONE`, where a team id is expected. -/
def winnerNone : Nat := 2

def timeToAutoremove : Int := 120000

def arenaTimeLimit : Nat := 3600000

def maxOfflineTime : Nat := 30

/-- The conversion of an `int32` minus a `uint32` back to `int32`. -/
def sub32 (a : Int) (diff : Nat) : Int := (a - diff).bmod (2 ^ 32)

namespace Battleground

variable (s : Battleground)

def getPlayersCountByTeam (teamId : Nat) : Nat := s.roster.playersCount.get (teamIndex teamId)

def getInvitedCountByTeam (teamId : Nat) : Nat := s.invited.get (teamIndex teamId)

def getPlayerTeam (guid : Guid) : Nat :=
  match s.roster.players.find? guid with
  | some p => p.team
  | none => 0

def getAlivePlayersCountByTeam (teamId : Nat) : Nat :=
  s.roster.players.count fun guid p => p.team = teamId && (s.world.player guid).standing

/-- Whether the rating block runs for a winner: both arena teams exist and differ. `WINNER_NONE` has
the horde's index and the alliance as its other team. -/
def ratingEffect? (winner : Nat) : Option RatingEffect :=
  let winnerTeam := s.config.arenaTeamIds.get (teamIndex winner)
  let loserTeam := s.config.arenaTeamIds.get (teamIndex (getOtherTeam winner))
  if s.config.isArena && s.config.isRated && s.world.arenaTeamExists winnerTeam &&
      s.world.arenaTeamExists loserTeam && winnerTeam ≠ loserTeam then
    some { winnerArenaTeam := winnerTeam, loserArenaTeam := loserTeam
           noWinner := winner = winnerNone }
  else none

/-- `EndBattleground`. Every player of the cache who is online is brought back to life. -/
def endBattleground (winner : Nat) : Battleground :=
  { s with
    inBGFreeSlotQueue := false
    winner :=
      if winner = alliance.id then 1 else if winner = horde.id then 0 else 3
    events := s.events ||| 8
    startDelayTime := 0
    status := .waitLeave
    endTime := timeToAutoremove
    endings := s.endings ++ [winner]
    ratingEffects := s.ratingEffects ++ (s.ratingEffect? winner).toList
    world := { s.world with
      player := fun guid =>
        let p := s.world.player guid
        if s.roster.playersCache.contains guid && p.online then p.resurrect else p } }

def endNow : Battleground := { s with inBGFreeSlotQueue := false, status := .waitLeave, endTime := 0 }

/-- The side that wins by the rules of `CheckArenaWinConditions`. -/
def arenaWinner : Option Team :=
  if s.getAlivePlayersCountByTeam alliance.id = 0 ∧ s.getPlayersCountByTeam horde.id ≠ 0 then some .horde
  else if s.getPlayersCountByTeam alliance.id ≠ 0 ∧
      s.getAlivePlayersCountByTeam horde.id = 0 then some .alliance
  else none

def checkArenaWinConditions : Battleground :=
  match s.arenaWinner with
  | some t => s.endBattleground t.id
  | none => s

def sideEmpty (t : Team) : Prop := s.getInvitedCountByTeam t.id = 0 ∧ s.getPlayersCountByTeam t.id = 0

instance (t : Team) : Decidable (s.sideEmpty t) := inferInstanceAs (Decidable (_ ∧ _))

/-- `CheckEndConditions`: two tests, the second made also when the first has ended the match. -/
def checkEndConditions : Battleground :=
  if s.status = .waitLeave then s
  else if s.config.isArena then
    let s := if s.sideEmpty .alliance then s.endBattleground horde.id else s
    if s.sideEmpty .horde then s.endBattleground alliance.id else s
  else s

def increaseInvitedCount (teamId : Nat) : Battleground :=
  let t := invitedIndex teamId
  { s with invited := s.invited.set t (incr32 (s.invited.get t)) }

/-- The decrement of `DecreaseInvitedCount`. -/
def decrInvited (teamId : Nat) : Battleground :=
  let t := invitedIndex teamId
  { s with invited := s.invited.set t (decr32 (s.invited.get t)) }

def decreaseInvitedCount (teamId : Nat) : Battleground := (s.decrInvited teamId).checkEndConditions

/-- `RemovePlayer` of the subclass. The arenas look for a winner; a battleground drops flags. -/
def removePlayer : Battleground :=
  if s.config.isArena ∧ s.status ≠ .waitLeave then s.checkArenaWinConditions else s

/-- `HandleKillPlayer` of an arena. -/
def handleKillPlayer (killer : Option Guid) : Battleground :=
  if s.config.isArena ∧ s.status = .inProgress ∧ killer.isSome then s.checkArenaWinConditions else s

/-- The first part of `RemovePlayerAtLeave`: the player is taken off the lists and, when he is
online, brought back to life. -/
def takeOff (guid : Guid) : Battleground :=
  let p := s.world.player guid
  { s with
    roster := s.roster.remove guid
    world := { s.world with
      player := Function.update s.world.player guid (if p.online then p.resurrect else p) } }

def addToBGFreeSlotQueue : Battleground :=
  if !s.inBGFreeSlotQueue && !s.config.isArena then { s with inBGFreeSlotQueue := true } else s

/-- The team whose invited count a leaving player gives back: his entry's, or his own when that
is 0 and he is online. -/
def leaverTeam (guid : Guid) : Nat :=
  let team := s.getPlayerTeam guid
  let p := s.world.player guid
  if team = 0 ∧ p.online then p.team.id else team

def removePlayerAtLeave (guid : Guid) : Battleground :=
  let off := (s.takeOff guid).removePlayer
  if s.roster.players.contains guid then
    let off := off.decreaseInvitedCount (s.leaverTeam guid)
    if off.status ≠ .waitLeave then off.addToBGFreeSlotQueue else off
  else off

def addPlayer (guid : Guid) : Battleground :=
  { s with roster := s.roster.add guid (s.world.player guid).team }

def eventPlayerLoggedIn (guid : Guid) : Battleground := { s with roster := s.roster.logIn guid }

/-- The check at the end of `EventPlayerLoggedOut`, made whatever the status is by then. -/
def checkLastStanding (guid : Guid) : Battleground :=
  let team := (s.world.player guid).team.id
  if s.config.isArena ∧ s.getAlivePlayersCountByTeam team ≤ 1 ∧
      s.getPlayersCountByTeam (getOtherTeam team) ≠ 0 then
    s.endBattleground (getOtherTeam team)
  else s

def eventPlayerLoggedOut (guid : Guid) : Battleground :=
  if s.roster.players.contains guid then
    let off := { s with roster := s.roster.logOut guid (s.world.gameTime + maxOfflineTime) }
    if off.status = .inProgress then off.removePlayer.checkLastStanding guid else off
  else s

/-! ## `Update` -/

def processOfflineQueue : Battleground :=
  match s.roster.offlineQueue with
  | [] => s
  | guid :: rest =>
    if s.roster.players.contains guid then
      let off := s.removePlayerAtLeave guid
      { off with roster := { off.roster with offlineQueue := rest } }
    else s

/-- `_ProcessLeave`. The loop saves the next iterator before it removes a player, so it removes
exactly the players who are inside when it starts. -/
def processLeave (diff : Nat) : Battleground :=
  let endTime := sub32 s.endTime diff
  if endTime ≤ 0 then
    s.roster.players.keys.foldl removePlayerAtLeave { s with endTime := 0 }
  else { s with endTime := endTime }

def processProgress (diff : Nat) : Battleground :=
  if !s.prematureCountDown then
    { s with prematureCountDown := true, prematureCountDownTimer := s.config.prematureFinishTime }
  else if s.prematureCountDownTimer < diff then
    let winner :=
      if s.config.minPlayersPerTeam ≤ s.getPlayersCountByTeam alliance.id then alliance.id
      else if s.config.minPlayersPerTeam ≤ s.getPlayersCountByTeam horde.id then horde.id
      else 0
    { s.endBattleground winner with prematureCountDown := false }
  else if !s.config.isTesting then
    { s with prematureCountDownTimer := s.prematureCountDownTimer - diff }
  else s

def processJoin (diff : Nat) : Battleground :=
  let times := s.config.startDelayTimes
  let s := { s with startDelayTime := sub32 s.startDelayTime diff }
  if s.events &&& 1 = 0 then
    let s := { s with events := s.events ||| 1 }
    if s.world.mapReady then { s with startDelayTime := times.first } else s.endNow
  else if s.startDelayTime ≤ times.second ∧ s.events &&& 2 = 0 then
    { s with events := s.events ||| 2 }
  else if s.startDelayTime ≤ times.third ∧ s.events &&& 4 = 0 then
    { s with events := s.events ||| 4 }
  else if s.startDelayTime ≤ 0 ∧ s.events &&& 8 = 0 then
    let s := { s with
      events := s.events ||| 8, status := .inProgress, startDelayTime := times.fourth }
    if s.config.isArena then s.checkArenaWinConditions else s
  else s

/-- The timer at the end of `Update`. -/
def addDuration (diff : Nat) : Battleground := { s with duration := (s.duration + diff) % 2 ^ 32 }

/-- The part of `Update` for a battleground in progress that is not an arena. -/
def updateProgress (diff : Nat) : Battleground :=
  if s.config.prematureFinishTime ≠ 0 ∧
      (s.getPlayersCountByTeam alliance.id < s.config.minPlayersPerTeam ∨
        s.getPlayersCountByTeam horde.id < s.config.minPlayersPerTeam) then
    s.processProgress diff
  else { s with prematureCountDown := false }

/-- `Update`. At the time limit an arena ends without looking at the status again. -/
def update (diff : Nat) : Battleground :=
  if s.roster.players.isEmpty then
    if s.getInvitedCountByTeam horde.id = 0 ∧ s.getInvitedCountByTeam alliance.id = 0 then
      { s with setDeleteThis := true }
    else s
  else
    match s.status with
    | .waitJoin => (s.processJoin diff).addDuration diff
    | .inProgress =>
      let s := s.processOfflineQueue
      if s.config.isArena then
        if arenaTimeLimit ≤ s.duration then s.endBattleground winnerNone else s.addDuration diff
      else (s.updateProgress diff).addDuration diff
    | .waitLeave => (s.processLeave diff).addDuration diff
    | _ => s.addDuration diff

/-! ## What ending a match leaves alone -/

@[simp] theorem checkArenaWinConditions_roster : s.checkArenaWinConditions.roster = s.roster := by
  unfold checkArenaWinConditions
  split <;> rfl

@[simp] theorem checkArenaWinConditions_config : s.checkArenaWinConditions.config = s.config := by
  unfold checkArenaWinConditions
  split <;> rfl

@[simp] theorem checkEndConditions_roster : s.checkEndConditions.roster = s.roster := by
  unfold checkEndConditions
  simp only
  repeat' split
  all_goals rfl

@[simp] theorem checkEndConditions_invited : s.checkEndConditions.invited = s.invited := by
  unfold checkEndConditions
  simp only
  repeat' split
  all_goals rfl

@[simp] theorem removePlayer_invited : s.removePlayer.invited = s.invited := by
  unfold removePlayer checkArenaWinConditions
  repeat' split
  all_goals rfl

@[simp] theorem removePlayer_roster : s.removePlayer.roster = s.roster := by
  unfold removePlayer
  split
  · exact checkArenaWinConditions_roster s
  · rfl

@[simp] theorem removePlayer_config : s.removePlayer.config = s.config := by
  unfold removePlayer
  split
  · exact checkArenaWinConditions_config s
  · rfl

@[simp] theorem addToBGFreeSlotQueue_roster : s.addToBGFreeSlotQueue.roster = s.roster := by
  unfold addToBGFreeSlotQueue
  split <;> rfl

@[simp] theorem addToBGFreeSlotQueue_invited : s.addToBGFreeSlotQueue.invited = s.invited := by
  unfold addToBGFreeSlotQueue
  split <;> rfl

@[simp] theorem decreaseInvitedCount_roster (teamId : Nat) :
    (s.decreaseInvitedCount teamId).roster = s.roster := by
  simp [decreaseInvitedCount, decrInvited]

theorem removePlayerAtLeave_roster (guid : Guid) :
    (s.removePlayerAtLeave guid).roster = s.roster.remove guid := by
  unfold removePlayerAtLeave
  split
  · simp only
    split <;> simp [takeOff]
  · simp [takeOff]

theorem removePlayerAtLeave_invited (guid : Guid) :
    (s.removePlayerAtLeave guid).invited =
      if s.roster.players.contains guid then s.invited.set (invitedIndex (s.leaverTeam guid))
          (decr32 (s.invited.get (invitedIndex (s.leaverTeam guid)))) else s.invited := by
  unfold removePlayerAtLeave
  split
  · simp only
    split <;> simp [takeOff, decreaseInvitedCount, decrInvited]
  · simp [takeOff]

theorem checkLastStanding_roster (guid : Guid) : (s.checkLastStanding guid).roster = s.roster := by
  unfold checkLastStanding
  simp only
  split <;> rfl

theorem processJoin_roster (diff : Nat) : (s.processJoin diff).roster = s.roster := by
  unfold processJoin endNow
  simp only
  repeat' split
  all_goals first | rfl | exact checkArenaWinConditions_roster _

theorem updateProgress_roster (diff : Nat) : (s.updateProgress diff).roster = s.roster := by
  unfold updateProgress processProgress
  repeat' split
  all_goals rfl

end Battleground

/-! ## Runs -/

/-- What can happen to an instance. `endBattleground` is the scoring of a battleground. -/
inductive Event where
  | addPlayer (guid : Guid)
  | increaseInvitedCount (t : Team)
  | decreaseInvitedCount (t : Team)
  | handleKillPlayer (killer : Option Guid)
  | removePlayerAtLeave (guid : Guid)
  | eventPlayerLoggedOut (guid : Guid)
  | eventPlayerLoggedIn (guid : Guid)
  | update (diff : Nat)
  | endBattleground (winner : Nat)
  deriving DecidableEq, Repr

def step (s : Battleground) (we : World × Event) : Battleground :=
  let s := { s with world := we.1 }
  match we.2 with
  | .addPlayer guid => s.addPlayer guid
  | .increaseInvitedCount t => s.increaseInvitedCount t.id
  | .decreaseInvitedCount t => s.decreaseInvitedCount t.id
  | .handleKillPlayer killer => s.handleKillPlayer killer
  | .removePlayerAtLeave guid => s.removePlayerAtLeave guid
  | .eventPlayerLoggedOut guid => s.eventPlayerLoggedOut guid
  | .eventPlayerLoggedIn guid => s.eventPlayerLoggedIn guid
  | .update diff => s.update diff
  | .endBattleground winner => if s.config.isArena then s else s.endBattleground winner

/-- An instance as `CreateNewBattleground` leaves it. -/
def create (config : Config) (world : World) : Battleground := { config := config, world := world }

end Axium.Bg
