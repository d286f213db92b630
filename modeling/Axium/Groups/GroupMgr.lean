import Axium.Groups.GroupHandler

/-!
# Loading groups

`LoadGroups` of `GroupMgr.cpp`, which makes the groups of the two tables when the server starts, and the system of all
operations on groups: the ordinary groups, the raids of battlegrounds, players who come and go, and restarts. An
operation is done if the handlers that call it would call it.
-/

namespace Axium.Groups

namespace Database

variable (db : Database)

def memberCount (guids : Finset Nat) (guid : Nat) : Nat :=
  (guids.filter fun p => (db.member p).any (·.guid = guid)).card

/-- Groups without an existing leader or with less than two members are deleted, and then the members without a
group. If no group is left, the members are not looked at. -/
def clean (guids : Finset Nat) : Database :=
  let groups := db.groups.filter fun row => row.leaderGuid ∈ guids ∧ 1 < db.memberCount guids row.guid
  { groups := groups
    member := fun p =>
      if groups.isEmpty then db.member p
      else (db.member p).filter fun row => groups.any (·.guid = row.guid) && p ∈ guids }

def slotsOf (order : List Nat) (guid : Nat) : List MemberSlot :=
  order.filterMap fun p => ((db.member p).filter (·.guid = guid)).map fun row =>
    ⟨p, row.subgroup, row.memberFlags, row.roles⟩

def loadGroupFromDB (row : GroupRow) : Group :=
  let grp : Group := { bgGroup := none, raid := row.raid, leaderGuid := row.leaderGuid, dbStoreId := row.guid }
  if row.raid then grp.initRaidSubGroupsCounter else grp

/-- A group with its members: `LoadMemberFromDB` for each row. -/
def loadGroup (order : List Nat) (row : GroupRow) : Group :=
  (db.slotsOf order row.guid).foldl Group.pushSlot (loadGroupFromDB row)

end Database

namespace World

variable (w : World)

def loadRow (order : List Nat) (row : GroupRow) : World :=
  let w' := (w.setGroup w.nextGroup (w.db.loadGroup order row)).registerGroupDbStoreId row.guid w.nextGroup
  { w' with
    nextGroup := w.nextGroup + 1
    nextGroupDbStoreId := if row.guid = w.nextGroupDbStoreId then w.nextGroupDbStoreId + 1
      else w.nextGroupDbStoreId }

def restart : World :=
  { w with
    player := fun _ => { online := false, group := none, originalGroup := none, groupInvite := none }
    group := fun _ => none
    bgRaid := fun _ => none
    groupDbStore := []
    nextGroupDbStoreId := 1 }

/-- `LoadGroups`. The rows of a group come in the order of the characters in `order`. -/
def loadGroups (order : List Nat) : World :=
  let w := w.setDb (w.db.clean w.guids)
  w.db.groups.foldl (fun w row => w.loadRow order row) w

def reload (order : List Nat) : World := w.restart.loadGroups order

/-- A new party of two players: `HandleGroupAcceptOpcode`, once the invitations are taken back. -/
def createGroup (leader second : Nat) : World :=
  (((w.newGroup none).create w.nextGroup leader).addMember w.nextGroup second).1

end World

/-- Each character is named once. -/
def World.Enumerates (w : World) (order : List Nat) : Prop := order.Nodup ∧ order.toFinset = w.guids

instance (w : World) (order : List Nat) : Decidable (w.Enumerates order) :=
  inferInstanceAs (Decidable (_ ∧ _))

inductive Operation where
  | create (leader second : Nat)
  | addMember (g p : Nat)
  | joinBattleground (k p : Nat)
  | removeMember (g guid : Nat)
  | convertToRaid (g : Nat)
  | changeMembersGroup (g guid groupNr : Nat)
  | changeLeader (g guid : Nat)
  | setGroupMemberFlag (g guid : Nat) (apply : Bool) (flag : GroupMemberFlags)
  | disband (g : Nat)
  | login (p : Nat)
  | logout (p : Nat) (socket : Bool)
  | reload (order : List Nat)

/-- A player is added to an ordinary group that is created and not full, and of which he is no member. -/
def Group.admits (grp : Group) (p : Nat) : Bool :=
  !grp.isBGGroup && grp.isCreated && !grp.isFull && !grp.isMember p

def World.operate (w : World) : Operation → World
  | .create leader second =>
    if w.findPlayer leader && w.findPlayer second && leader ≠ second then w.createGroup leader second else w
  | .addMember g p => if (w.group g).any (·.admits p) && w.findPlayer p then (w.addMember g p).1 else w
  | .joinBattleground k p => if w.findPlayer p then w.addOrSetPlayerToCorrectBgGroup k p else w
  | .removeMember g guid =>
    if (w.group g).any fun grp => grp.isBGGroup || grp.isMember guid then w.removeMember g guid else w
  | .convertToRaid g => if (w.group g).any (2 ≤ ·.memberSlots.length) then w.convertToRaid g else w
  | .changeMembersGroup g guid groupNr =>
    if h : groupNr < maxRaidSubgroups then
      if (w.group g).any (·.hasFreeSlotSubGroup ⟨groupNr, h⟩) then w.changeMembersGroup g guid ⟨groupNr, h⟩ else w
    else w
  | .changeLeader g guid => w.changeLeader g guid
  | .setGroupMemberFlag g guid apply flag => w.setGroupMemberFlag g guid apply flag
  | .disband g => if (w.group g).any (·.isCreated) then w.disband g else w
  | .login p => if p ∈ w.guids ∧ (w.player p).online = false then w.login p else w
  | .logout p socket => if w.findPlayer p then w.logout p socket else w
  | .reload order => if w.Enumerates order then w.reload order else w

end Axium.Groups
