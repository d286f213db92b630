import Axium.Battleground.Queue

/-!
# Matchmaking

`BattlegroundQueueUpdate` and the algorithms it runs: filling battlegrounds that have free slots,
premade matches, normal matches, skirmishes of one faction, cross-faction battlegrounds and rated
arenas.

`FillPlayersToBG` is called for battlegrounds only, and for these `FillXPlayersToBG` always answers
that it did the job (`fillXPlayersToBG_running`); what follows that call in `FillPlayersToBG` is
never reached.
-/

namespace Axium.Queue

open Bg (Battleground)

def toInt32 (n : Nat) : Int := (n : Int).bmod (2 ^ 32)

def toUInt32 (n : Int) : Nat := (n % 2 ^ 32).toNat

def getFreeSlotsForTeam (bg : Battleground) (t : Team) : Nat :=
  let invited := bg.getInvitedCountByTeam t.id
  let max := bg.config.maxPlayersPerTeam
  let min := bg.config.minPlayersPerTeam
  match bg.status with
  | .waitJoin => max - invited
  | .inProgress =>
    let otherTeam := bg.getInvitedCountByTeam t.other.id
    let otherIn := bg.getPlayersCountByTeam t.other.id
    let entered := bg.getPlayersCountByTeam t.id
    let diff := if otherTeam = invited then 1 else otherTeam - invited
    let diff2 := max - invited
    let diff3 :=
      if otherIn = entered then 1
      else if entered < otherIn then otherIn - entered
      else if invited ≤ min then min - invited + 1
      else 0
    Nat.min (Nat.min diff diff2) diff3
  | _ => 0

/-! ## Selection pools -/

/-- `GroupQueueInfo::Players.size()`. -/
def GroupQueueInfo.size (g : GroupQueueInfo) : Nat := g.players.size

namespace SelectionPool

variable (get : Ptr → GroupQueueInfo)

/-- `SelectionPool::AddGroup`. The answer is true as long as the pool is not full, also when the group
was not added. -/
def addGroup (pool : SelectionPool) (p : Ptr) (desiredCount : Nat) : SelectionPool × Bool :=
  if !(get p).isInvited && pool.playerCount + (get p).size ≤ desiredCount then
    ({ selectedGroups := pool.selectedGroups ++ [p]
       playerCount := pool.playerCount + (get p).size }, true)
  else (pool, pool.playerCount < desiredCount)

/-- `if (!invited && !AddGroup(group, desiredCount)) break;` over a list. -/
def addWaiting (desiredCount : Nat) : SelectionPool → List Ptr → SelectionPool
  | pool, [] => pool
  | pool, p :: ps =>
    if (get p).isInvited then addWaiting desiredCount pool ps
    else
      let (pool, more) := pool.addGroup get p desiredCount
      if more then addWaiting desiredCount pool ps else pool

/-- The first loop of `CheckNormalMatch`, with the groups from the one it stopped at. -/
def addUntil (minPlayers maxPlayers : Nat) :
    SelectionPool → List Ptr → SelectionPool × List Ptr
  | pool, [] => (pool, [])
  | pool, p :: ps =>
    if (get p).isInvited then addUntil minPlayers maxPlayers pool ps
    else
      let pool := (pool.addGroup get p maxPlayers).1
      if minPlayers ≤ pool.playerCount then (pool, p :: ps)
      else addUntil minPlayers maxPlayers pool ps

end SelectionPool

/-- `std::multimap::insert`: behind the entries with the same key. -/
def multimapInsert (l : List (Int × Ptr)) (k : Int) (p : Ptr) : List (Int × Ptr) :=
  l.takeWhile (·.1 ≤ k) ++ (k, p) :: l.dropWhile (·.1 ≤ k)

namespace State

variable (st : State)

/-- `QueuedGroupMap`: the groups by size, in ascending order. -/
def queuedGroupMap (ps : List Ptr) : List (Int × Ptr) :=
  ps.foldl (fun l p => multimapInsert l (st.group p).size p) []

def initPools : State := { st with selectionPools := ⟨{}, {}⟩ }

def setPool (t : Team) (pool : SelectionPool) : State :=
  { st with selectionPools := st.selectionPools.set t pool }

def pool (t : Team) : SelectionPool := st.selectionPools.get t

def waiting (b : BattlegroundBracketId) (j : GroupType) : List Ptr :=
  (st.queuedGroups b j).filter fun p => !(st.group p).isInvited

/-! ## Cross-faction battlegrounds -/

/-- `PreAddPlayers`: groups into the pool of their original faction, the largest first. The pool is
chosen by `OTeam`. -/
def preAddPlayers (map : List (Int × Ptr)) (maxAdd : Int) (maxInTeam : Nat) : State × Int :=
  map.reverse.foldl (fun (st, leftToAdd) (playerSize, p) =>
    if playerSize ≤ leftToAdd then
      let t := Bg.teamIndex (st.group p).oTeam
      let (pool, more) := (st.pool t).addGroup st.group p maxInTeam
      (st.setPool t pool, if more then leftToAdd - playerSize else leftToAdd)
    else (st, leftToAdd)) (st, maxAdd)

structure FillState where
  st : State
  free : PerTeam Int

/-- One turn of the balancing loop of `FillXPlayersToBG`. -/
def fillOne (minPlayers : Nat) (slots : PerTeam Int) (f : FillState) (p : Ptr) : FillState :=
  if (f.st.group p).isInvited || p ∈ (f.st.pool .alliance).selectedGroups ||
      p ∈ (f.st.pool .horde).selectedGroups ||
      (minPlayers ≤ (f.st.pool .alliance).playerCount &&
        minPlayers ≤ (f.st.pool .horde).playerCount) then f
  else
    let st :=
      if f.free.alliance ≠ f.free.horde then
        f.st.setTeam p (if f.free.alliance < f.free.horde then .horde else .alliance)
      else f.st
    let t := (st.group p).team
    let (pool, more) := (st.pool t).addGroup st.group p (toUInt32 (slots.get t))
    { st := st.setPool t pool
      free := if more then f.free.set t (f.free.get t - (st.group p).size) else f.free }

/-- The part of `FillXPlayersToBG` that adds groups to their own faction, for a new battleground. -/
def preAdd (b : BattlegroundBracketId) (slots : PerTeam Int) : FillState :=
  let own := fun t => (st.waiting b .mixed).filter fun p => Bg.teamIndex (st.group p).oTeam = t
  let queued := fun t => ((own t).map fun p => ((st.group p).size : Int)).sum
  let smallestOfTeams := min (min slots.alliance (queued .alliance)) (min slots.horde (queued .horde))
  let map := fun t => st.queuedGroupMap (own t)
  let (st, leftA) := st.preAddPlayers (map .alliance) smallestOfTeams (toUInt32 slots.alliance)
  let (st, leftH) := st.preAddPlayers (map .horde) smallestOfTeams (toUInt32 slots.horde)
  { st := st, free := ⟨slots.alliance - leftA, slots.horde - leftH⟩ }

/-- `queuedPeople`, a `uint8`. -/
def queuedPeople (b : BattlegroundBracketId) : Nat :=
  ((st.waiting b .mixed).map fun p => (st.group p).size).sum % 2 ^ 8

def fillXPlayersToBG (env : Env) (b : BattlegroundBracketId) (bg : Battleground) (start : Bool) :
    State × Bool :=
  let min := bg.config.minPlayersPerTeam
  if env.isTesting || min * 2 % 2 ^ 32 ≤ st.queuedPeople b || !start then
    let slots : PerTeam Int :=
      if start then ⟨toInt32 bg.config.maxPlayersPerTeam, toInt32 bg.config.maxPlayersPerTeam⟩
      else ⟨toInt32 (getFreeSlotsForTeam bg .alliance), toInt32 (getFreeSlotsForTeam bg .horde)⟩
    let st := st.initPools
    let f := if start then st.preAdd b slots else { st := st, free := slots }
    let order := (f.st.queuedGroupMap (f.st.queuedGroups b .mixed)).reverse.map Prod.snd
    ((order.foldl (fillOne min slots) f).st, true)
  else (st, false)

/-- `CheckCrossFactionMatch`. The required number of players is a `uint8`. -/
def checkCrossFactionMatch (env : Env) (b : BattlegroundBracketId) (bg : Battleground) : State × Bool :=
  if bg.config.isArena then (st, false)
  else
    let st := (st.fillXPlayersToBG env b bg true).1
    let countA := (st.pool .alliance).playerCount
    let countH := (st.pool .horde).playerCount
    let mpt := bg.config.minPlayersPerTeam % 2 ^ 8
    (st, (env.isTesting && (countA ≠ 0 || countH ≠ 0)) || !(countA < mpt || countH < mpt))

/-! ## Premade and normal matches -/

/-- The second part of `CheckPremadeMatch`: the first group of a premade list goes to the normal
list when it has waited too long or shrunk. -/
def demotePremade (env : Env) (b : BattlegroundBracketId) (minPlayers : Nat) (st : State) (t : Team) : State :=
  match st.queuedGroups b (.premade t) with
  | [] => st
  | p :: rest =>
    let g := st.group p
    if !g.isInvited &&
        (g.joinTime < u32Sub env.msTime env.premadeGroupWaitForMatch || g.size < minPlayers) then
      (st.setList b (.normal t) (p :: st.queuedGroups b (.normal t))).setList b (.premade t) rest
    else st

def checkPremadeMatch (env : Env) (b : BattlegroundBracketId) (minPlayers maxPlayers : Nat) : State × Bool :=
  match (st.waiting b (.premade .alliance)).head?, (st.waiting b (.premade .horde)).head? with
  | some a, some h =>
    let poolA := ((st.pool .alliance).addGroup st.group a maxPlayers).1
    let poolH := ((st.pool .horde).addGroup st.group h maxPlayers).1
    let max := Nat.min poolA.playerCount poolH.playerCount
    ({ st with selectionPools :=
        ⟨poolA.addWaiting st.group max (st.queuedGroups b (.normal .alliance)),
          poolH.addWaiting st.group max (st.queuedGroups b (.normal .horde))⟩ }, true)
  | _, _ => ([Team.alliance, .horde].foldl (demotePremade env b minPlayers) st, false)

def selectNormal (b : BattlegroundBracketId) (minPlayers maxPlayers : Nat) (t : Team) :
    SelectionPool × List Ptr :=
  (st.pool t).addUntil st.group minPlayers maxPlayers (st.queuedGroups b (.normal t))

def enoughPlayers (minPlayers : Nat) : Bool :=
  minPlayers ≤ (st.pool .alliance).playerCount && minPlayers ≤ (st.pool .horde).playerCount

/-- More groups for the side with fewer players, up to the number of the other side. `rest` are the
groups from the last one that the first loop looked at. -/
def evenOut (rest : Team → List Ptr) : State :=
  let j : Team :=
    if (st.pool .horde).playerCount < (st.pool .alliance).playerCount then .horde else .alliance
  st.setPool j
    ((st.pool j).addWaiting st.group (st.pool j.other).playerCount ((rest j).drop 1))

def checkNormalMatch (env : Env) (isBattleground : Bool) (b : BattlegroundBracketId)
    (minPlayers maxPlayers : Nat) : State × Bool :=
  let select := st.selectNormal b minPlayers maxPlayers
  let st := { st with selectionPools := ⟨(select .alliance).1, (select .horde).1⟩ }
  let even := env.invitationType ≠ 0 && st.enoughPlayers minPlayers
  let st := if even then st.evenOut fun t => (select t).2 else st
  let countA := (st.pool .alliance).playerCount
  let countH := (st.pool .horde).playerCount
  let uneven := even && 2 < (((countH : Int) - countA).bmod (2 ^ 32)).natAbs
  (st, !uneven && ((env.isTesting && isBattleground && (countA ≠ 0 || countH ≠ 0)) ||
    st.enoughPlayers minPlayers))

/-! ## Skirmishes of one faction -/

/-- Erase `p` behind the position of `last`. -/
def eraseAfter (last p : Ptr) : List Ptr → List Ptr
  | [] => []
  | q :: qs => if q = last then q :: qs.erase p else q :: eraseAfter last p qs

def changeSide (b : BattlegroundBracketId) (t : Team) (last : Ptr) (st : State) (p : Ptr) : State :=
  let st := st.setTeam p t.other
  let st := st.setList b (.normal t.other) (p :: st.queuedGroups b (.normal t.other))
  st.setList b (.normal t) (eraseAfter last p (st.queuedGroups b (.normal t)))

/-- `CheckSkirmishForSameFaction`. `back()` of the pool is undefined when it is empty. -/
def checkSkirmishForSameFaction (b : BattlegroundBracketId) (minPlayers : Nat) : State × Bool :=
  if (st.pool .alliance).playerCount < minPlayers && (st.pool .horde).playerCount < minPlayers then
    (st, false)
  else
    let t : Team := if (st.pool .horde).playerCount = minPlayers then .horde else .alliance
    let st := st.setPool t.other {}
    match (st.pool t).selectedGroups.getLast? with
    | none => (st, false)
    | some last =>
      match (st.queuedGroups b (.normal t)).dropWhile (· ≠ last) with
      | [] => (st, false)
      | _ :: behind =>
        let st := st.setPool t.other ((st.pool t.other).addWaiting st.group minPlayers behind)
        if (st.pool t.other).playerCount ≠ minPlayers then (st, false)
        else ((st.pool t.other).selectedGroups.foldl (changeSide b t last) st, true)

/-! ## Rated arenas -/

/-- The rounding of an integer to the 24 bits of a `float`, to even. -/
def roundFloat (n : Nat) : Nat :=
  let e := Nat.log2 n - 23
  let q := n / 2 ^ e
  let r := n % 2 ^ e
  if 2 ^ e < 2 * r ∨ (2 ^ e = 2 * r ∧ q % 2 = 1) then (q + 1) * 2 ^ e else q * 2 ^ e

/-- `mmrMaxDiff` for a group at the front of its list. -/
def mmrDiff (env : Env) (g : GroupQueueInfo) : Nat :=
  let mmrSteps := roundFloat (u32Sub env.msTime g.joinTime / env.progressiveMmrTimer)
  roundFloat (mmrSteps * roundFloat env.progressiveMmrStepSize) % 2 ^ 32

/-- The rating and the widening of an automatic update, from the fronts of the two lists. The `if`
guards the rating only: with two fronts the widening is always that of the first. -/
def frontRating (env : Env) : Option GroupQueueInfo → Option GroupQueueInfo → Option (Nat × Nat)
  | none, none => none
  | some g, none => some (g.arenaMatchmakerRating, mmrDiff env g)
  | none, some g => some (g.arenaMatchmakerRating, mmrDiff env g)
  | some g₁, some g₂ =>
    some (if g₁.joinTime < g₂.joinTime then g₁.arenaMatchmakerRating
      else g₂.arenaMatchmakerRating, mmrDiff env g₁)

structure RatingWindow where
  minRating : Nat
  maxRating : Nat
  discardTime : Nat
  deriving DecidableEq, Repr

def getMaxRatingDifference (env : Env) : Nat :=
  if env.maxRatingDifference = 0 then 5000 else env.maxRatingDifference

def ratingWindow (env : Env) (arenaRating mmrMaxDiff : Nat) : RatingWindow :=
  let diff := getMaxRatingDifference env
  let minRating := if arenaRating ≤ diff then 0 else arenaRating - diff
  let maxRating := (arenaRating + diff) % 2 ^ 32
  { minRating :=
      if 0 < mmrMaxDiff then (if minRating ≤ mmrMaxDiff then 0 else minRating - mmrMaxDiff)
      else minRating
    maxRating := if 0 < mmrMaxDiff then (mmrMaxDiff + maxRating) % 2 ^ 32 else maxRating
    discardTime := u32Sub env.msTime env.ratingDiscardTimer }

/-- The window of an update, or nothing when it returns because both lists are empty. -/
def ratedWindow (env : Env) (b : BattlegroundBracketId) (arenaRating : Nat) : Option RatingWindow :=
  if arenaRating ≠ 0 then some (ratingWindow env arenaRating 0)
  else
    let front := fun t => (st.queuedGroups b (.premade t)).head?.map st.group
    (frontRating env (front .alliance) (front .horde)).map fun (r, d) => ratingWindow env r d

def RatingWindow.eligible (w : RatingWindow) (g : GroupQueueInfo) : Bool :=
  !g.isInvited &&
    ((decide (w.minRating ≤ g.arenaMatchmakerRating) &&
      decide (g.arenaMatchmakerRating ≤ w.maxRating)) || decide (g.joinTime < w.discardTime))

def firstEligible (b : BattlegroundBracketId) (w : RatingWindow) (t : Team) : Option Ptr :=
  (st.queuedGroups b (.premade t)).find? fun p => w.eligible (st.group p)

def secondEligible (b : BattlegroundBracketId) (w : RatingWindow) (t : Team) (p : Ptr) : Option Ptr :=
  ((st.queuedGroups b (.premade t)).dropWhile (· ≠ p)).find? fun q =>
    w.eligible (st.group q) && (st.group p).arenaTeamId ≠ (st.group q).arenaTeamId

/-- `itr_teams`, when two groups are found. -/
def ratedPair (b : BattlegroundBracketId) (w : RatingWindow) : Option (Ptr × Ptr) :=
  match st.firstEligible b w .alliance, st.firstEligible b w .horde with
  | some a, some h => some (a, h)
  | some a, none => (st.secondEligible b w .alliance a).map (a, ·)
  | none, some h => (st.secondEligible b w .horde h).map (h, ·)
  | none, none => none

def relocate (b : BattlegroundBracketId) (p : Ptr) (side : Team) : State :=
  if (st.group p).team ≠ side then
    let st := st.setList b (.premade side) (p :: st.queuedGroups b (.premade side))
    st.setList b (.premade side.other) ((st.queuedGroups b (.premade side.other)).erase p)
  else st

def setOpponents (p : Ptr) (opponent : GroupQueueInfo) : State :=
  st.modifyGroup p ({ · with
    opponentsTeamRating := opponent.arenaTeamRating
    opponentsMatchmakerRating := opponent.arenaMatchmakerRating })

/-! ## `BattlegroundQueueUpdate` -/

/-- `CreateNewBattleground`, for the id, the type and the template that it comes to. -/
def createNewBattleground (env : Env) (i : InstanceId) (typeId : BattlegroundTypeId)
    (template : Bg.Config) (b : BattlegroundBracketId) (arenaType : Nat) (isRated : Bool) : State :=
  let max :=
    if template.isArena then (if arenaType ∈ [2, 3, 5] then arenaType else 0)
    else template.maxPlayersPerTeam
  let config := { template with isRated := isRated, maxPlayersPerTeam := max, arenaTeamIds := ⟨0, 0⟩ }
  { st with instances := Function.update st.instances i (some
      { typeId := typeId, bracketId := b, arenaType := arenaType, maxPlayers := max * 2
        bg := Bg.create config env.world }) }

def startBattleground (i : InstanceId) : State :=
  st.modifyInstance i fun inst => { inst with bg := { inst.bg with duration := 0 }.addToBGFreeSlotQueue }

/-- `InviteGroupToBG(group, bg, group->Team)` for the groups of a pool. -/
def invitePool (env : Env) (i : InstanceId) (t : Team) : State :=
  (st.pool t).selectedGroups.foldl
    (fun st p => (st.inviteGroupToBG env p i (some (st.group p).team)).1) st

def invitePools (env : Env) (i : InstanceId) : State :=
  (st.invitePool env i .alliance).invitePool env i .horde

def fillFreeSlots (env : Env) (bgTypeId : BattlegroundTypeId) (b : BattlegroundBracketId)
    (st : State) (i : InstanceId) : State :=
  match st.instances i with
  | none => st
  | some inst =>
    if !inst.bg.config.isArena && inst.typeId = bgTypeId && inst.bracketId = b &&
        (inst.bg.status = .waitJoin || inst.bg.status = .inProgress) then
      let st := (st.initPools.fillXPlayersToBG env b inst.bg false).1.invitePools env i
      if inst.maxPlayers ≤ inst.bg.roster.players.size then
        st.modifyInstance i fun inst => { inst with bg := { inst.bg with inBGFreeSlotQueue := false } }
      else st
    else st

/-- `MinPlayersPerTeam` and `MaxPlayersPerTeam`. -/
def playersPerTeam (env : Env) (template : Bg.Config) (arenaType : Nat) : Nat × Nat :=
  if template.isArena then if env.isArenaTesting then (1, 1) else (arenaType, arenaType)
  else (if env.isTesting then 1 else template.minPlayersPerTeam, template.maxPlayersPerTeam)

def premadeMatch (env : Env) (b : BattlegroundBracketId) (template : Bg.Config)
    (players : Nat × Nat) : State × Bool :=
  if template.isArena then (st, true)
  else
    match st.checkPremadeMatch env b players.1 players.2 with
    | (st, false) => (st, true)
    | (st, true) =>
      match env.newPremade with
      | none => (st, false)
      | some (i, typeId, config) =>
        let st := (st.createNewBattleground env i typeId config b 0 false).invitePools env i
        ((st.startBattleground i).initPools, true)

def checkMatch (env : Env) (b : BattlegroundBracketId) (template : Bg.Config)
    (players : Nat × Nat) : State × Bool :=
  match st.checkNormalMatch env (!template.isArena) b players.1 players.2 with
  | (st, true) => (st, true)
  | (st, false) =>
    match if template.isArena then st.checkSkirmishForSameFaction b players.1 else (st, false) with
    | (st, true) => (st, true)
    | (st, false) => st.checkCrossFactionMatch env b (Bg.create template env.world)

def normalMatch (env : Env) (b : BattlegroundBracketId) (template : Bg.Config) (arenaType : Nat)
    (players : Nat × Nat) : State :=
  match st.checkMatch env b template players, env.newMatch with
  | (st, true), some (i, typeId, config) =>
    ((st.createNewBattleground env i typeId config b arenaType false).invitePools env i).startBattleground i
  | (st, _), _ => st

/-- The end of the rated branch, for two groups and a new arena. -/
def startRated (env : Env) (b : BattlegroundBracketId) (i : InstanceId) (a h : Ptr) : State :=
  let gA := st.group a
  let gH := st.group h
  let st := (st.setOpponents a gH).setOpponents h gA
  let st := (st.relocate b a .alliance).relocate b h .horde
  let st := (st.inviteGroupToBG env a i (some .alliance)).1
  let st := (st.inviteGroupToBG env h i (some .horde)).1
  st.startBattleground i

def ratedMatch (env : Env) (b : BattlegroundBracketId) (arenaType arenaRating : Nat) : State :=
  match (st.ratedWindow env b arenaRating).bind (st.ratedPair b), env.newMatch with
  | some (a, h), some (i, typeId, config) =>
    (st.createNewBattleground env i typeId config b arenaType true).startRated env b i a h
  | _, _ => st

def battlegroundQueueUpdate (env : Env) (bgTypeId : BattlegroundTypeId) (b : BattlegroundBracketId)
    (arenaType : Nat) (isRated : Bool) (arenaRating : Nat) : State :=
  if GroupType.all.all fun j => (st.queuedGroups b j).isEmpty then st
  else
    let st := env.bgFreeSlotQueue.foldl (fillFreeSlots env bgTypeId b) st
    match env.template bgTypeId with
    | none => st
    | some template =>
      if !env.bracketEntryExists then st
      else
        let players := playersPerTeam env template arenaType
        match st.initPools.premadeMatch env b template players with
        | (st, false) => st
        | (st, true) =>
          if !isRated then st.normalMatch env b template arenaType players
          else if template.isArena then st.ratedMatch env b arenaType arenaRating
          else st

end State

end Axium.Queue
