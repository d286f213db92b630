import Axium.Battleground.Battleground

/-!
# The battleground queue

One `BattlegroundQueue` with what it shares with the server around it: the heap its
`GroupQueueInfo` pointers point into, the battleground instances it invites to, and each player's
challenge pointer.

A pointer is a number that is never given out twice. Reading a freed group is undefined in the
source; here it gives a default, and the queue's invariant shows that it does not happen.
-/

namespace Axium.Queue

open Function
open Bg (Battleground World)

abbrev Ptr := Nat

abbrev InstanceId := Nat

inductive GroupType where
  | premade (t : Team)
  | normal (t : Team)
  | mixed
  deriving DecidableEq, Repr

def GroupType.all : List GroupType :=
  [.premade .alliance, .premade .horde, .normal .alliance, .normal .horde, .mixed]

/-- The `Players` map leads from a guid to that guid's own entry of `m_QueuedPlayers`; only its keys
are kept. A uint32 field that `AddGroup` does not initialise (`OTeam`) has any value. -/
structure GroupQueueInfo where
  players : OrdMap Guid Unit := .empty
  team : Team := .alliance
  oTeam : Nat := 0
  bgTypeId : BattlegroundTypeId := .typeNone
  isRated : Bool := false
  arenaType : Nat := 0
  arenaTeamId : Nat := 0
  joinTime : Nat := 0
  removeInviteTime : Nat := 0
  isInvitedToBGInstanceGUID : InstanceId := 0
  arenaTeamRating : Nat := 0
  arenaMatchmakerRating : Nat := 0
  opponentsTeamRating : Nat := 0
  opponentsMatchmakerRating : Nat := 0
  deriving DecidableEq

instance : Inhabited GroupQueueInfo := ⟨{}⟩

def GroupQueueInfo.isInvited (g : GroupQueueInfo) : Bool := g.isInvitedToBGInstanceGUID ≠ 0

structure PlayerQueueInfo where
  lastOnlineTime : Nat
  groupInfo : Ptr
  deriving DecidableEq, Repr

structure SelectionPool where
  selectedGroups : List Ptr := []
  playerCount : Nat := 0
  deriving DecidableEq, Repr

/-- The slots `[team][bracket]` of `m_WaitTimes`, `m_WaitTimeLastPlayer` and `m_SumOfWaitTimes`. -/
structure WaitRing where
  times : List Nat := List.replicate 10 0
  lastPlayer : Nat := 0
  sum : Nat := 0
  deriving DecidableEq, Repr

/-- A `Battleground` object with the fields that only the queue and its manager read. -/
structure Instance where
  typeId : BattlegroundTypeId
  bracketId : BattlegroundBracketId
  arenaType : Nat
  maxPlayers : Nat
  bg : Battleground

structure State where
  groups : Ptr → Option GroupQueueInfo := fun _ => none
  nextPtr : Ptr := 0
  queuedPlayers : OrdMap Guid PlayerQueueInfo := .empty
  queuedGroups : BattlegroundBracketId → GroupType → List Ptr := fun _ _ => []
  selectionPools : PerTeam SelectionPool := ⟨{}, {}⟩
  waitRings : Team → BattlegroundBracketId → WaitRing := fun _ _ => {}
  instances : InstanceId → Option Instance := fun _ => none
  challengeInfo : Guid → Option Ptr := fun _ => none

/-- The server at the time of a call: the players, `getMSTime()`, the configuration, the battleground
templates, and what `CreateNewBattleground` will answer. -/
structure Env where
  world : World
  msTime : Nat
  invitationType : Nat := 0
  premadeGroupWaitForMatch : Nat := 1800000
  isTesting : Bool := false
  isArenaTesting : Bool := false
  maxRatingDifference : Nat := 0
  ratingDiscardTimer : Nat := 0
  progressiveMmrTimer : Nat := 30000
  progressiveMmrStepSize : Nat := 50
  template : BattlegroundTypeId → Option Bg.Config := fun _ => none
  bracketEntryExists : Bool := true
  bgFreeSlotQueue : List InstanceId := []
  newPremade : Option (InstanceId × BattlegroundTypeId × Bg.Config) := none
  newMatch : Option (InstanceId × BattlegroundTypeId × Bg.Config) := none

def Env.online (env : Env) (guid : Guid) : Bool := (env.world.player guid).online

/-- `a - b` on `uint32`. -/
def u32Sub (a b : Nat) : Nat := (a + (2 ^ 32 - b % 2 ^ 32)) % 2 ^ 32

/-- `getMSTimeDiff`. After an overflow the difference is one short. -/
def getMSTimeDiff (oldMSTime newMSTime : Nat) : Nat :=
  if newMSTime < oldMSTime then u32Sub 0xFFFFFFFF oldMSTime + newMSTime else newMSTime - oldMSTime

def inviteAcceptWaitTime : Nat := 60000

namespace State

variable (st : State)

/-! ## The heap -/

def group (p : Ptr) : GroupQueueInfo := (st.groups p).getD default

def modifyGroup (p : Ptr) (f : GroupQueueInfo → GroupQueueInfo) : State :=
  { st with groups := update st.groups p ((st.groups p).map f) }

def free (p : Ptr) : State := { st with groups := update st.groups p none }

def setTeam (p : Ptr) (t : Team) : State := st.modifyGroup p ({ · with team := t })

def setList (b : BattlegroundBracketId) (j : GroupType) (l : List Ptr) : State :=
  { st with
    queuedGroups := update st.queuedGroups b (update (st.queuedGroups b) j l) }

def modifyInstance (i : InstanceId) (f : Instance → Instance) : State :=
  { st with instances := update st.instances i ((st.instances i).map f) }

def getBattleground (i : InstanceId) (bgTypeId : BattlegroundTypeId) : Option Instance :=
  if i = 0 then none
  else (st.instances i).filter fun inst => bgTypeId = .typeNone || inst.typeId = bgTypeId

/-! ## Joining -/

/-- The arguments of `AddGroup`. `members` are the online members of the group, in the order of the
references; `oTeam` is what the new object happens to hold. -/
structure Join where
  leader : Guid
  members : Option (List Guid) := none
  team : Team
  oTeam : Nat := 0
  bgTypeId : BattlegroundTypeId
  bracketId : BattlegroundBracketId
  arenaType : Nat := 0
  isRated : Bool := false
  isPremade : Bool := false
  arenaRating : Nat := 0
  matchmakerRating : Nat := 0
  arenaTeamId : Nat := 0
  deriving DecidableEq, Repr

def Join.guids (join : Join) : List Guid := join.members.getD [join.leader]

def Join.groupType (join : Join) : GroupType :=
  if join.arenaType = 0 then .mixed
  else if !join.isRated && !join.isPremade then .normal join.team
  else .premade join.team

def Join.newGroup (join : Join) (msTime : Nat) : GroupQueueInfo where
  team := join.team
  oTeam := join.oTeam
  bgTypeId := join.bgTypeId
  isRated := join.isRated
  arenaType := join.arenaType
  arenaTeamId := join.arenaTeamId
  joinTime := msTime
  arenaTeamRating := join.arenaRating
  arenaMatchmakerRating := join.matchmakerRating

def addPlayer (msTime : Nat) (p : Ptr) (st : State) (guid : Guid) : State :=
  let st := { st with
    queuedPlayers := st.queuedPlayers.insert guid { lastOnlineTime := msTime, groupInfo := p } }
  st.modifyGroup p fun g => { g with players := g.players.insert guid () }

def addGroup (env : Env) (join : Join) : State :=
  let p := st.nextPtr
  let st := { st with
    nextPtr := p + 1, groups := update st.groups p (some (join.newGroup env.msTime)) }
  let st := join.guids.foldl (addPlayer env.msTime p) st
  st.setList join.bracketId join.groupType (st.queuedGroups join.bracketId join.groupType ++ [p])

/-! ## Leaving -/

/-- The inner loops of the search in `RemovePlayer`: the last list of the bracket that has the group. -/
def lastType? (b : BattlegroundBracketId) (p : Ptr) : Option GroupType :=
  GroupType.all.foldl (fun found j => if p ∈ st.queuedGroups b j then some j else found) none

def findGroup (p : Ptr) : Option (BattlegroundBracketId × GroupType) :=
  (List.finRange 16).reverse.findSome? fun b => (st.lastType? b p).map (b, ·)

/-- The two errors that `RemovePlayer` logs before it returns. -/
inductive RemoveError where
  | playerNotFound
  | groupinfoNotFound
  deriving DecidableEq, Repr

/-- `DecreaseInvitedCount` on the battleground that the group is invited to. -/
def decreaseInvitedCount (env : Env) (g : GroupQueueInfo) : State :=
  let i := g.isInvitedToBGInstanceGUID
  if (st.getBattleground i (if g.bgTypeId = .aa then .typeNone else g.bgTypeId)).isSome then
    st.modifyInstance i fun inst =>
      { inst with bg := { inst.bg with world := env.world }.decreaseInvitedCount g.team.id }
  else st

def releaseChallenge (env : Env) (guid : Guid) : State :=
  match st.challengeInfo guid with
  | some c =>
    if env.online guid then
      { st.free c with challengeInfo := update st.challengeInfo guid none }
    else st
  | none => st

/-- One activation of `RemovePlayer`, with the player that it goes on with: the rest of a rated group
that is not invited. -/
def removeOne (env : Env) (guid : Guid) (decrease : Bool) : Except RemoveError (State × Option Guid) :=
  match st.queuedPlayers.find? guid with
  | none => .error .playerNotFound
  | some info =>
    let p := info.groupInfo
    match st.findGroup p with
    | none => .error .groupinfoNotFound
    | some (b, j) =>
      let st := st.modifyGroup p fun g => { g with players := g.players.erase guid }
      let g := st.group p
      let st := if decrease && g.isInvited then st.decreaseInvitedCount env g else st
      let st := st.releaseChallenge env guid
      let st := { st with queuedPlayers := st.queuedPlayers.erase guid }
      if g.players.isEmpty then .ok ((st.setList b j ((st.queuedGroups b j).erase p)).free p, none)
      else if !g.isInvited && g.isRated then .ok (st, g.players.first?)
      else .ok (st, none)

/-- `RemovePlayer`, at most `fuel` activations deep. Each takes one player out of the queue, so that
with one for each queued player the last would find the queue empty (`removePlayer_eq`). -/
def removeUpTo (env : Env) (decrease : Bool) : Nat → State → Guid → State × Option RemoveError
  | 0, st, _ => (st, some .playerNotFound)
  | fuel + 1, st, guid =>
    match st.removeOne env guid decrease with
    | .error e => (st, some e)
    | .ok (st, none) => (st, none)
    | .ok (st, some next) => removeUpTo env decrease fuel st next

/-- `RemovePlayer`, with the error it logs. -/
def removePlayer (env : Env) (guid : Guid) (decrease : Bool) : State × Option RemoveError :=
  removeUpTo env decrease st.queuedPlayers.size st guid

def isPlayerInvited (env : Env) (guid : Guid) (bgInstanceGuid : InstanceId) (removeTime : Nat) : Bool :=
  (env.online guid && (st.challengeInfo guid).isSome) ||
    match st.queuedPlayers.find? guid with
    | some info =>
      (st.group info.groupInfo).isInvitedToBGInstanceGUID = bgInstanceGuid &&
        (st.group info.groupInfo).removeInviteTime = removeTime
    | none => false

def getPlayerGroupInfoData (env : Env) (guid : Guid) : Option GroupQueueInfo :=
  match st.challengeInfo guid with
  | some c =>
    if env.online guid then some (st.group c)
    else (st.queuedPlayers.find? guid).map fun info => st.group info.groupInfo
  | none => (st.queuedPlayers.find? guid).map fun info => st.group info.groupInfo

/-! ## Inviting -/

def playerInvitedToBGUpdateAverageWaitTime (msTime : Nat) (g : GroupQueueInfo)
    (b : BattlegroundBracketId) : State :=
  let t := if g.arenaType = 0 then g.team else if g.isRated then .horde else .alliance
  let ring := st.waitRings t b
  let timeInQueue := getMSTimeDiff g.joinTime msTime
  let ring : WaitRing := {
    times := ring.times.set ring.lastPlayer timeInQueue
    lastPlayer := (ring.lastPlayer + 1) % 10
    sum := (u32Sub ring.sum (ring.times.getD ring.lastPlayer 0) + timeInQueue) % 2 ^ 32 }
  { st with waitRings := update st.waitRings t (update (st.waitRings t) b ring) }

def invitePlayer (env : Env) (g : GroupQueueInfo) (i : InstanceId) (b : BattlegroundBracketId)
    (st : State) (guid : Guid) : State :=
  if env.online guid then
    (st.playerInvitedToBGUpdateAverageWaitTime env.msTime g b).modifyInstance i fun inst =>
      { inst with bg := inst.bg.increaseInvitedCount g.team.id }
  else st

/-- `InviteGroupToBG` for a group that is not invited yet. -/
def invite (env : Env) (p : Ptr) (i : InstanceId) (inst : Instance) : State :=
  let g := st.group p
  let st := st.modifyGroup p ({ · with
    isInvitedToBGInstanceGUID := i
    removeInviteTime := (env.msTime + inviteAcceptWaitTime) % 2 ^ 32 })
  let st :=
    if inst.bg.config.isArena && inst.bg.config.isRated then
      st.modifyInstance i fun inst =>
        { inst with bg := { inst.bg with config := { inst.bg.config with
            arenaTeamIds := inst.bg.config.arenaTeamIds.set g.team g.arenaTeamId } } }
    else st
  g.players.keys.foldl (invitePlayer env g i inst.bracketId) st

/-- `InviteGroupToBG`. The side is written whether or not the group is invited already. The instance
is the one that the caller holds a pointer to. -/
def inviteGroupToBG (env : Env) (p : Ptr) (i : InstanceId) (side : Option Team) : State × Bool :=
  let st := match side with
    | some t => st.setTeam p t
    | none => st
  match st.instances i with
  | some inst => if (st.group p).isInvited then (st, false) else (st.invite env p i inst, true)
  | none => (st, false)

end State

end Axium.Queue
