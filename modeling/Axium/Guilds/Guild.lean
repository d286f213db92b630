import Axium.Lib.OrdMap
import Axium.Battleground.Basic

/-!
# Guilds

The data of `Guild` and the functions that change its ranks, members, leader and allowances, translated
from `Guild.cpp`.

`m_members` is a hash map from low guids. It is read and written as a map; where the source takes the
first or the best member of an iteration, the order of the iteration is an input. The rank that a `Player`
carries (`GetRank`) is his rank as a member: `ChangeRank`, `AddMember` and `DeleteMember` write both.

Rank names, notes, the event logs, packets and the rows of the database are left out.
-/

namespace Axium.Guilds

def ranksMinCount : Nat := 5

def ranksMaxCount : Nat := 10

def rankNone : Nat := 0xFF

def guildMaster : Nat := 0

def officer : Nat := 1

/-- `GUILD_WITHDRAW_MONEY_UNLIMITED` and `GUILD_WITHDRAW_SLOT_UNLIMITED`. -/
def unlimited : Nat := 0xFFFFFFFF

def rightEmpty : Nat := 0x40

def rightPromote : Nat := 0xC0

def rightDemote : Nat := 0x140

def rightWithdrawRepair : Nat := 0x40000

def rightWithdrawGold : Nat := 0x80000

def rightAll : Nat := 0x1DF1FF

/-- `GR_RIGHT_GCHATLISTEN | GR_RIGHT_GCHATSPEAK`. -/
def rightChat : Nat := 0x43

def rightViewTab : Nat := 0x01

def rightFull : Nat := 0xFF

/-- An index of `m_bankRemaining`: one of the `GUILD_BANK_MAX_TABS` tabs, or the money. -/
abbrev Allowance := Fin 7

/-- `GUILD_BANK_MAX_TABS`, as the index of the money. -/
def moneyTab : Allowance := Fin.last 6

structure RightsAndSlots where
  rights : Nat := 0
  slots : Nat := 0
  deriving DecidableEq, Repr

structure RankInfo where
  rankId : Nat
  rights : Nat
  bankMoneyPerDay : Nat := 0
  bankTabRightsAndSlots : Fin 6 → RightsAndSlots := fun _ => {}

namespace RankInfo

variable (r : RankInfo)

def getBankMoneyPerDay : Nat := if r.rankId = guildMaster then unlimited else r.bankMoneyPerDay

def getBankTabSlotsPerDay (tab : Fin 6) : Nat :=
  if r.rankId = guildMaster then unlimited else (r.bankTabRightsAndSlots tab).slots

def setRights (rights : Nat) : RankInfo :=
  { r with rights := if r.rankId = guildMaster then rightAll else rights }

def setBankMoneyPerDay (money : Nat) : RankInfo :=
  { r with bankMoneyPerDay := if r.rankId = guildMaster then unlimited else money }

def setBankTabSlotsAndRights (tab : Fin 6) (rightsAndSlots : RightsAndSlots) : RankInfo :=
  { r with
    bankTabRightsAndSlots := fun i =>
      if i = tab then
        if r.rankId = guildMaster then { rights := rightFull, slots := unlimited }
        else rightsAndSlots
      else r.bankTabRightsAndSlots i }

end RankInfo

/-- `RemainingValue`. The time is in minutes. -/
structure RemainingValue where
  value : Nat := 0
  resetTime : Nat := 0
  deriving DecidableEq, Repr

structure Member where
  name : String
  rankId : Nat
  bankRemaining : Allowance → RemainingValue := fun _ => {}

/-- `Guild`. `disbanded` is set by `Disband`, after which the object is deleted. -/
structure Guild where
  leaderGuid : Guid
  bankMoney : Nat := 0
  purchasedTabs : Nat := 0
  ranks : List RankInfo := []
  members : OrdMap Guid Member := .empty
  disbanded : Bool := false

namespace Guild

variable (g : Guild)

/-! ## Ranks -/

def getRanksSize : Nat := g.ranks.length % 256

/-- `_GetLowestRankId`: `uint8(m_ranks.size() - 1)`. -/
def getLowestRankId : Nat := (g.ranks.length + 255) % 256

def getRankInfo (rankId : Nat) : Option RankInfo :=
  if rankId < g.getRanksSize then g.ranks[rankId]? else none

def getRankRights (rankId : Nat) : Nat := ((g.getRankInfo rankId).map (·.rights)).getD 0

/-- `Player::GetRank`, of a player of the guild. -/
def playerRank (player : Guid) : Nat := ((g.members.find? player).map (·.rankId)).getD 0

def hasRankRight (player : Guid) (right : Nat) : Prop :=
  g.getRankRights (g.playerRank player) &&& right ≠ rightEmpty

instance (player : Guid) (right : Nat) : Decidable (g.hasRankRight player right) :=
  inferInstanceAs (Decidable (_ ≠ _))

def createRank (rights : Nat) : Guild :=
  if ranksMaxCount ≤ g.getRanksSize then g
  else { g with ranks := g.ranks ++ [{ rankId := g.getRanksSize, rights := rights }] }

def createDefaultGuildRanks : Guild :=
  ((((g.createRank rightAll).createRank rightAll).createRank rightChat).createRank
    rightChat).createRank rightChat

def isLeader (player : Guid) : Prop :=
  player = g.leaderGuid ∨ ∃ m, g.members.find? player = some m ∧ m.rankId = guildMaster

instance (player : Guid) : Decidable (g.isLeader player) :=
  match h : g.members.find? player with
  | none =>
    decidable_of_iff (player = g.leaderGuid)
      ⟨.inl, fun hl => hl.resolve_right (fun ⟨_, hm, _⟩ => by rw [h] at hm; cases hm)⟩
  | some m =>
    decidable_of_iff (player = g.leaderGuid ∨ m.rankId = guildMaster)
      ⟨fun hl => hl.imp_right (fun hm => ⟨m, h, hm⟩),
        fun hl => hl.imp_right (fun ⟨m', hm', hr⟩ => by rw [h] at hm'; cases hm'; exact hr)⟩

def handleAddNewRank (player : Guid) : Guild :=
  if g.getRanksSize < ranksMaxCount ∧ g.isLeader player then g.createRank rightChat else g

def handleRemoveLowestRank (player : Guid) : Guild :=
  if ranksMinCount < g.getRanksSize ∧ g.isLeader player then { g with ranks := g.ranks.dropLast }
  else g

/-! ## Members -/

def changeRank (guid : Guid) (newRank : Nat) : Guild :=
  { g with members := g.members.modify guid ({ · with rankId := newRank % 256 }) }

/-- `GetMember`, by the name: the first of the iteration. -/
def getMember (order : List Guid) (name : String) : Option Guid :=
  order.find? fun guid => (g.members.find? guid).any fun m => m.name = name

def setLeaderGUID (guid : Guid) : Guild := { g with leaderGuid := guid }.changeRank guid guildMaster

def handleSetLeader (order : List Guid) (player : Guid) (name : String) : Guild :=
  if g.isLeader player ∧ g.members.contains player then
    match g.getMember order name with
    | some guid => (g.setLeaderGUID guid).changeRank player officer
    | none => g
  else g

def handleUpdateMemberRank (order : List Guid) (player : Guid) (name : String) (demote : Bool) : Guild :=
  if g.hasRankRight player (if demote then rightDemote else rightPromote) then
    match g.getMember order name with
    | some guid =>
      let rank := g.playerRank guid
      if guid = player then g
      else if demote then
        if rank ≤ g.playerRank player then g
        else if g.getLowestRankId ≤ rank then g
        else g.changeRank guid (rank + 1)
      else if rank ≤ (g.playerRank player + 1) % 256 then g
      else g.changeRank guid (rank - 1)
    | none => g
  else g

def changeMemberRank (guid : Guid) (newRank : Nat) : Guild :=
  if newRank ≤ g.getLowestRankId ∧ g.members.contains guid then g.changeRank guid newRank else g

/-- `AddMember`. `free` says that the player exists and is in no other guild. -/
def addMember (guid : Guid) (name : String) (rankId : Nat) (free : Bool) : Guild :=
  if g.members.contains guid ∨ ¬ free then g
  else
    let rankId := if rankId = rankNone then g.getLowestRankId else rankId
    { g with members := g.members.insert guid { name := name, rankId := rankId } }

def disband : Guild := { g with members := .empty, disbanded := true }

/-- The new leader whom `DeleteMember` looks for: of the highest rank, and the first such in the
iteration. -/
def newLeader (order : List Guid) (guid : Guid) : Option Guid :=
  order.foldl (fun best i =>
    if i = guid then best
    else match best with
      | some b => if g.playerRank i < g.playerRank b then some i else some b
      | none => some i) none

/-- `DeleteMember`, when the guild is not disbanding. -/
def deleteMember (order : List Guid) (guid : Guid) : Guild :=
  if g.leaderGuid = guid then
    match g.newLeader order guid with
    | some i =>
      let g := g.setLeaderGUID i
      { g with members := g.members.erase guid }
    | none => g.disband
  else { g with members := g.members.erase guid }

/-- A guild as `Create` leaves it. -/
def create (leader : Guid) (name : String) : Guild :=
  ({ leaderGuid := leader } : Guild).createDefaultGuildRanks.addMember leader name guildMaster true

/-! ## Loading -/

def brokenRanks : Prop :=
  g.getRanksSize < ranksMinCount ∨ ranksMaxCount < g.getRanksSize ∨
    ∃ i < g.getRanksSize, (g.ranks[i]?).map (·.rankId) ≠ some i

instance : Decidable g.brokenRanks := inferInstanceAs (Decidable (_ ∨ _ ∨ _))

/-- The part of `Validate` about the ranks. -/
def validateRanks : Guild :=
  if g.brokenRanks then { g with ranks := [] }.createDefaultGuildRanks else g

/-- The part of `Validate` about the ranks of the members. -/
def validateMembers : Guild :=
  { g with
    members := g.members.mapVal fun _ m =>
      if g.getRanksSize < m.rankId then { m with rankId := g.getLowestRankId } else m }

/-- The part of `Validate` about the leader. -/
def validateLeader (order : List Guid) : Guild :=
  match g.members.find? g.leaderGuid with
  | none => g.deleteMember order g.leaderGuid
  | some m => if m.rankId = guildMaster then g else g.setLeaderGUID g.leaderGuid

/-- The part of `Validate` about other guild masters. -/
def validateMasters (allowMultipleGuildMaster : Bool) : Guild :=
  if allowMultipleGuildMaster then g
  else
    { g with
      members := g.members.mapVal fun guid m =>
        if m.rankId = guildMaster ∧ guid ≠ g.leaderGuid then { m with rankId := officer } else m }

/-- `Validate`. It returns false when the guild is disbanded. -/
def validate (order : List Guid) (allowMultipleGuildMaster : Bool) : Guild :=
  let g := g.validateRanks.validateMembers.validateLeader order
  if g.members.isEmpty then g.disband else g.validateMasters allowMultipleGuildMaster

/-- What is read back from the database: the members without those whose rows are broken, each under
the name of his character. -/
def load (names : Guid → String) (broken : List Guid) : Guild :=
  { g with
    members := (broken.foldl OrdMap.erase g.members).mapVal fun guid m => { m with name := names guid } }

/-! ## Runs -/

inductive Event
  | addNewRank (player : Guid)
  | removeLowestRank (player : Guid)
  | updateMemberRank (order : List Guid) (player : Guid) (name : String) (demote : Bool)
  | setLeader (order : List Guid) (player : Guid) (name : String)
  | addMember (guid : Guid) (name : String) (rankId : Nat) (free : Bool)
  | deleteMember (order : List Guid) (guid : Guid)
  | changeMemberRank (guid : Guid) (newRank : Nat)
  | reload (names : Guid → String) (broken order : List Guid) (allowMultipleGuildMaster : Bool)

def apply : Event → Guild
  | .addNewRank player => g.handleAddNewRank player
  | .removeLowestRank player => g.handleRemoveLowestRank player
  | .updateMemberRank order player name demote => g.handleUpdateMemberRank order player name demote
  | .setLeader order player name => g.handleSetLeader order player name
  | .addMember guid name rankId free => g.addMember guid name rankId free
  | .deleteMember order guid => g.deleteMember order guid
  | .changeMemberRank guid newRank => g.changeMemberRank guid newRank
  | .reload names broken order allow => (g.load names broken).validate order allow

def step (e : Event) : Guild := if g.disbanded then g else g.apply e

/-- Where a guild comes from: `Create`, or rows of the database. -/
inductive Origin
  | created (leader : Guid) (name : String)
  | loaded (g : Guild) (order : List Guid) (allowMultipleGuildMaster : Bool)

def Origin.guild : Origin → Guild
  | .created leader name => create leader name
  | .loaded g order allow => g.validate order allow

/-- The order of the iteration lists the members, the ranks have different keys in the database (a
`tinyint`), and `Validate` accepts. -/
def Origin.Valid : Origin → Prop
  | .created _ _ => True
  | .loaded g order allow =>
    order.Perm g.members.keys ∧ g.ranks.length ≤ 256 ∧ (g.validate order allow).disbanded = false

end Guild

end Axium.Guilds
