import Axium.Battleground.QueueInvariant

/-!
# Challenges

`.challenge` puts two players, or the groups of both, into a new arena. `HandleChallenge` collects
the participants in the manager while it still checks them, creates the arena, writes the
participants into the queue of the arena type and invites them. Unlike `AddGroup` it puts the two
groups into no list of that queue.

The manager is a singleton, and its fields other than the map of players are not initialised.
-/

namespace Axium.Challenge

open Queue (Env State Ptr InstanceId GroupQueueInfo)

abbrev GroupId := Nat

structure PlayerView where
  name : String := ""
  level : Nat := 80
  isFrozen : Bool := false
  hasGameMasterTagOn : Bool := false
  isDND : Bool := false
  hasIgnore : Guid → Bool := fun _ => false
  inBattleground : Bool := false
  inBattlegroundQueue : Bool := false
  group : Option GroupId := none

/-- The players, their groups and the maps at the time of a call. `bracketByLevel` is
`GetBattlegroundBracketByLevel`, `mapId` the map of a battleground template. -/
structure Lobby where
  player : Guid → PlayerView := fun _ => {}
  members : GroupId → List Guid := fun _ => []
  mapId : BattlegroundTypeId → Nat := fun _ => 0
  bracketByLevel : Nat → Nat → Option BattlegroundBracketId := fun _ _ => some 0

inductive PlayerTeam where
  | teamA
  | teamB
  deriving DecidableEq, Repr

/-- The team that `AddPlayersToBattleground` gives the group of the participants. -/
def PlayerTeam.side : PlayerTeam → Team
  | teamA => .alliance
  | teamB => .horde

inductive Refusal where
  | yourself | frozen | otherFrozen | gameMaster | doNotDisturb | ignored
  | inBattleground | otherInBattleground | inQueue | otherInQueue
  | groupSize (name : String)
  | noBracket
  | memberInQueue | memberInBattleground | otherMemberInQueue | otherMemberInBattleground
  | noTemplate (bgTypeId : BattlegroundTypeId)
  | noBracketEntry (mapId : Nat)
  deriving DecidableEq, Repr

/-- Why a call does not come to the end: a player is not found, the challenge is refused, or a null
pointer is followed. -/
inductive Stop where
  | notFound
  | refused (r : Refusal)
  | undefined
  deriving DecidableEq, Repr

structure ChallengeMgr where
  players : OrdMap Guid PlayerTeam
  arenaType : Nat
  bgTypeId : BattlegroundTypeId
  bg : Option InstanceId

/-- `CleanupChallenge`. -/
def cleanupChallenge : ChallengeMgr := ⟨.empty, 0, .typeNone, none⟩

/-! ## The checks -/

/-- The checks of the two players, in the order of the source. -/
def check (env : Env) (lobby : Lobby) (challenger challenged : Guid) : Option Stop :=
  let playerA := lobby.player challenger
  let playerB := lobby.player challenged
  if !env.online challenger then some .notFound
  else if !env.online challenged then some .notFound
  else if challenger = challenged then some (.refused .yourself)
  else if playerA.isFrozen then some (.refused .frozen)
  else if playerB.isFrozen then some (.refused .otherFrozen)
  else if playerB.hasGameMasterTagOn then some (.refused .gameMaster)
  else if playerB.isDND then some (.refused .doNotDisturb)
  else if playerB.hasIgnore challenger then some (.refused .ignored)
  else if playerA.inBattleground then some (.refused .inBattleground)
  else if playerB.inBattleground then some (.refused .otherInBattleground)
  else if playerA.inBattlegroundQueue then some (.refused .inQueue)
  else if playerB.inBattlegroundQueue then some (.refused .otherInQueue)
  else none

def addMembers (env : Env) (lobby : Lobby) (team : PlayerTeam) (queued entered : Refusal) :
    List Guid → OrdMap Guid PlayerTeam → OrdMap Guid PlayerTeam × Option Stop
  | [], players => (players, none)
  | guid :: guids, players =>
    if !env.online guid then (players, some .undefined)
    else if (lobby.player guid).inBattlegroundQueue then (players, some (.refused queued))
    else if (lobby.player guid).inBattleground then (players, some (.refused entered))
    else addMembers env lobby team queued entered guids (players.insert guid team)

/-- `switch (map)`. -/
def arenaOfMap : Nat → BattlegroundTypeId
  | 1 => .na
  | 2 => .be
  | 3 => .rl
  | 4 => .ds
  | _ => .aa

def bgQueueTypeId (bgTypeId : BattlegroundTypeId) (arenaType : Nat) : BattlegroundQueueTypeId :=
  match bgTypeId with
  | .ws => .ws
  | .ab => .ab
  | .av => .av
  | .ey => .ey
  | .sa => .sa
  | .ic => .ic
  | .rb => .rb
  | .aa | .na | .rl | .be | .ds | .rv =>
    match arenaType with
    | 2 => .arena2v2
    | 3 => .arena3v3
    | 5 => .arena5v5
    | _ => .queueNone
  | .typeNone => .queueNone

namespace ChallengeMgr

variable (mgr : ChallengeMgr) (env : Env) (lobby : Lobby)

/-- Two groups against each other. A size without a bracket keeps the bracket that the manager
has. -/
def gatherGroups (membersA membersB : List Guid) (name : String) : ChallengeMgr × Option Stop :=
  if membersA.length ≠ membersB.length then (mgr, some (.refused (.groupSize name)))
  else
    let mgr := { mgr with
      arenaType := if membersA.length ∈ [2, 3, 5] then membersA.length else mgr.arenaType }
    if mgr.arenaType = 0 then (mgr, some (.refused .noBracket))
    else
      match addMembers env lobby .teamA .memberInQueue .memberInBattleground membersA mgr.players with
      | (players, some stop) => ({ mgr with players := players }, some stop)
      | (players, none) =>
        let (players, stop) := addMembers env lobby .teamB .otherMemberInQueue
          .otherMemberInBattleground membersB players
        ({ mgr with players := players }, stop)

def gather (challenger challenged : Guid) : ChallengeMgr × Option Stop :=
  let pair : ChallengeMgr := { mgr with
    arenaType := 2
    players := (mgr.players.insert challenger .teamA).insert challenged .teamB }
  match (lobby.player challenger).group, (lobby.player challenged).group with
  | some groupA, some groupB =>
    if groupA ≠ groupB then
      mgr.gatherGroups env lobby (lobby.members groupA) (lobby.members groupB)
        (lobby.player challenged).name
    else (pair, none)
  | _, _ => (pair, none)

/-- `HandleChallenge` until the battleground is created, with the bracket. -/
def prepare (challenger challenged : Guid) (map : Nat) : ChallengeMgr × Except Stop BattlegroundBracketId :=
  match check env lobby challenger challenged with
  | some stop => (mgr, .error stop)
  | none =>
    match mgr.gather env lobby challenger challenged with
    | (mgr, some stop) => (mgr, .error stop)
    | (mgr, none) =>
      let mgr := { mgr with bgTypeId := arenaOfMap map }
      if (env.template mgr.bgTypeId).isNone then
        (mgr, .error (.refused (.noTemplate mgr.bgTypeId)))
      else
        let mapId := lobby.mapId mgr.bgTypeId
        match lobby.bracketByLevel mapId (lobby.player challenged).level with
        | none => (mgr, .error (.refused (.noBracketEntry mapId)))
        | some b => (mgr, .ok b)

/-! ## The match -/

/-- `ginfoA` and `ginfoB`, before the players are added. -/
def newGroup (msTime : Nat) (t : Team) : GroupQueueInfo where
  team := t
  oTeam := t.other.id
  bgTypeId := mgr.bgTypeId
  arenaType := mgr.arenaType
  joinTime := msTime

def addParticipant (ptr : PlayerTeam → Ptr) (st : State) (x : Guid × PlayerTeam) : State :=
  if env.online x.1 then
    let st := State.addPlayer env.msTime (ptr x.2) st x.1
    { st with challengeInfo := Function.update st.challengeInfo x.1 (some (ptr x.2)) }
  else st

def ptr (next : Ptr) : PlayerTeam → Ptr
  | .teamA => next
  | .teamB => next + 1

/-- `AddPlayersToBattleground`, on the queue of the arena type. -/
def addPlayersToBattleground (i : InstanceId) (st : State) : State :=
  let ptr := ptr st.nextPtr
  let st := { st with
    nextPtr := st.nextPtr + 2
    groups := Function.update (Function.update st.groups (ptr .teamA)
      (some (mgr.newGroup env.msTime .alliance))) (ptr .teamB)
      (some (mgr.newGroup env.msTime .horde)) }
  let st := mgr.players.entries.foldl (addParticipant env ptr) st
  let st := (st.inviteGroupToBG env (ptr .teamA) i none).1
  let st := (st.inviteGroupToBG env (ptr .teamB) i none).1
  st.startBattleground i

end ChallengeMgr

structure Match where
  bg : InstanceId
  queueTypeId : BattlegroundQueueTypeId
  players : OrdMap Guid PlayerTeam

inductive Outcome where
  | stopped (stop : Stop)
  | accepted (m : Match)

structure Server where
  mgr : ChallengeMgr := cleanupChallenge
  queue : State := {}

/-- `HandleChallenge`, seen from the queue `own`. A challenge of another arena type does the same to
another queue, so that of its effects only those on the shared parts are seen. -/
def Server.handleChallenge (own : BattlegroundQueueTypeId) (s : Server) (env : Env) (lobby : Lobby)
    (challenger challenged : Guid) (map : Nat) : Server × Outcome :=
  match s.mgr.prepare env lobby challenger challenged map with
  | (mgr, .error stop) => ({ s with mgr := mgr }, .stopped stop)
  | (mgr, .ok b) =>
    match env.newMatch with
    | none => ({ s with mgr := { mgr with bg := none } }, .stopped .undefined)
    | some (i, typeId, config) =>
      let queueTypeId := bgQueueTypeId mgr.bgTypeId mgr.arenaType
      let st := s.queue.createNewBattleground env i typeId config b mgr.arenaType false
      let st := mgr.addPlayersToBattleground env i st
      let st := if queueTypeId = own then st else
        { st with queuedPlayers := s.queue.queuedPlayers, waitRings := s.queue.waitRings }
      ({ mgr := cleanupChallenge, queue := st }, .accepted ⟨i, queueTypeId, mgr.players⟩)

end Axium.Challenge
