import Axium.Lib.Run
import Mathlib.Data.Finset.Card
import Mathlib.Data.List.FinRange
import Mathlib.Data.List.Sort

/-!
# Groups

Parties, raids and the raids of battlegrounds, from `Group.cpp`, `GroupMgr.cpp` and `Player.cpp`: their members with
the subgroups and flags, the references of the players to them, the invitations, and the two tables in which the
ordinary groups are stored. Loot, instances, target icons, difficulties and messages are left out.

A group is named by its address. An address is not used again after the group was deleted, and an operation on an
address without a group does nothing.
-/

namespace Axium.Groups

def maxGroupSize : Nat := 5

def maxRaidSize : Nat := 40

abbrev maxRaidSubgroups : Nat := 8

/-- The bits of `GroupMemberFlags`. -/
inductive GroupMemberFlags where
  | assistant | mainTank | mainAssist
  deriving DecidableEq, Repr

structure MemberSlot where
  guid : Nat
  group : Fin maxRaidSubgroups
  flags : Finset GroupMemberFlags
  roles : Nat
  deriving DecidableEq

def MemberSlot.setSubGroup (s : MemberSlot) (subgroup : Fin maxRaidSubgroups) : MemberSlot :=
  { s with group := subgroup }

def MemberSlot.toggle (s : MemberSlot) (flag : GroupMemberFlags) (apply : Bool) : MemberSlot :=
  { s with flags := if apply then insert flag s.flags else s.flags.erase flag }

/-- `Group`. `bgGroup` names the battleground and the team, `raid` is the bit `GROUPTYPE_RAID` of the type. -/
structure Group where
  bgGroup : Option Nat
  raid : Bool := false
  leaderGuid : Nat := 0
  memberSlots : List MemberSlot := []
  subGroupsCounts : Option (Fin maxRaidSubgroups → Nat) := none
  invitees : Finset Nat := ∅
  dbStoreId : Nat := 0

/-- A write through an iterator: to the first slot with the guid. -/
def writeSlot (guid : Nat) (f : MemberSlot → MemberSlot) : List MemberSlot → List MemberSlot
  | [] => []
  | s :: l => if s.guid = guid then f s :: l else s :: writeSlot guid f l

namespace Group

variable (grp : Group)

def withSlots (l : List MemberSlot) : Group := { grp with memberSlots := l }

def isBGGroup : Bool := grp.bgGroup.isSome

def isCreated : Bool := 0 < grp.memberSlots.length

def isFull : Bool := (if grp.raid then maxRaidSize else maxGroupSize) ≤ grp.memberSlots.length

def leastSize : Nat := if grp.isBGGroup then 1 else 2

def getMember (guid : Nat) : Option MemberSlot := grp.memberSlots.find? (·.guid = guid)

def isMember (guid : Nat) : Bool := (grp.getMember guid).isSome

def isLeader (guid : Nat) : Bool := grp.leaderGuid = guid

def isAssistant (guid : Nat) : Bool := (grp.getMember guid).any fun s => .assistant ∈ s.flags

def subGroupCounterIncrease (subgroup : Fin maxRaidSubgroups) : Group :=
  { grp with subGroupsCounts := grp.subGroupsCounts.map fun c =>
      Function.update c subgroup ((c subgroup + 1) % 2 ^ 8) }

def subGroupCounterDecrease (subgroup : Fin maxRaidSubgroups) : Group :=
  { grp with subGroupsCounts := grp.subGroupsCounts.map fun c =>
      Function.update c subgroup ((c subgroup + (2 ^ 8 - 1)) % 2 ^ 8) }

def initRaidSubGroupsCounter : Group :=
  { grp with subGroupsCounts := some (grp.memberSlots.foldl
      (fun c s => Function.update c s.group ((c s.group + 1) % 2 ^ 8)) fun _ => 0) }

/-- `Create`, as far as it is about the group. -/
def setUp (leader : Nat) : Group :=
  let grp := { grp with leaderGuid := leader, raid := grp.isBGGroup }
  if grp.raid then grp.initRaidSubGroupsCounter else grp

def hasFreeSlotSubGroup (subgroup : Fin maxRaidSubgroups) : Bool :=
  grp.subGroupsCounts.any fun c => c subgroup < maxGroupSize

def firstSubGroup : Option (Fin maxRaidSubgroups) :=
  match grp.subGroupsCounts with
  | none => some 0
  | some c => (List.finRange maxRaidSubgroups).find? fun i => c i < maxGroupSize

def pushSlot (s : MemberSlot) : Group :=
  (grp.withSlots (grp.memberSlots ++ [s])).subGroupCounterIncrease s.group

/-- The slot of `AddMember`. -/
def newSlot (guid : Nat) (subgroup : Fin maxRaidSubgroups) : MemberSlot := ⟨guid, subgroup, ∅, 0⟩

def eraseSlot (guid : Nat) : Group :=
  match grp.getMember guid with
  | none => grp
  | some s => (grp.subGroupCounterDecrease s.group).withSlots (grp.memberSlots.eraseP (·.guid = guid))

def convertToRaid : Group := { grp with raid := true }.initRaidSubGroupsCounter

def changeMembersGroup (guid : Nat) (subgroup : Fin maxRaidSubgroups) : Group :=
  if grp.raid then
    match grp.getMember guid with
    | none => grp
    | some s =>
      if s.group = subgroup then grp
      else
        ((grp.withSlots (writeSlot guid (·.setSubGroup subgroup) grp.memberSlots)).subGroupCounterIncrease
          subgroup).subGroupCounterDecrease s.group
  else grp

def eraseInvitee (p : Nat) : Group := { grp with invitees := grp.invitees.erase p }

def insertInvitee (p : Nat) : Group := { grp with invitees := insert p grp.invitees }

def setLeader (guid : Nat) : Group := { grp with leaderGuid := guid }

def toggleGroupMemberFlag (guid : Nat) (flag : GroupMemberFlags) (apply : Bool) : Group :=
  grp.withSlots (writeSlot guid (·.toggle flag apply) grp.memberSlots)

def removeUniqueGroupMemberFlag (flag : GroupMemberFlags) : Group :=
  grp.withSlots (grp.memberSlots.map (·.toggle flag false))

def setGroupMemberFlag (guid : Nat) (apply : Bool) (flag : GroupMemberFlags) : Group :=
  if grp.raid && grp.isMember guid then
    (if flag = .assistant then grp else grp.removeUniqueGroupMemberFlag flag).toggleGroupMemberFlag guid flag apply
  else grp

end Group

structure Player where
  online : Bool
  group : Option Nat
  originalGroup : Option Nat
  groupInvite : Option Nat
  deriving DecidableEq, Repr

/-- A row of `groups`, less what is left out. -/
structure GroupRow where
  guid : Nat
  leaderGuid : Nat
  raid : Bool
  deriving DecidableEq, Repr

/-- A row of `group_member`, less its primary key `memberGuid`. -/
structure MemberRow where
  guid : Nat
  memberFlags : Finset GroupMemberFlags
  subgroup : Fin maxRaidSubgroups
  roles : Nat
  deriving DecidableEq

/-- The tables. `groups` is ordered by its primary key. -/
structure Database where
  groups : List GroupRow
  member : Nat → Option MemberRow

/-- The characters are `guids`; all of them are in the table of characters. -/
structure World where
  guids : Finset Nat
  player : Nat → Player
  group : Nat → Option Group
  nextGroup : Nat
  bgRaid : Nat → Option Nat
  groupDbStore : List (Option Nat)
  nextGroupDbStoreId : Nat
  db : Database

namespace Database

variable (db : Database)

def insertGroup (row : GroupRow) : Database :=
  if db.groups.any (·.guid = row.guid) then db
  else { db with groups := db.groups.orderedInsert (fun r r' => r.guid ≤ r'.guid) row }

def updateGroup (guid : Nat) (f : GroupRow → GroupRow) : Database :=
  { db with groups := db.groups.map fun r => if r.guid = guid then f r else r }

/-- `CHAR_INS_GROUP_MEMBER`: it fails when there is a row with the primary key. -/
def insertMember (memberGuid : Nat) (row : MemberRow) : Database :=
  if (db.member memberGuid).isSome then db
  else { db with member := Function.update db.member memberGuid (some row) }

def deleteMember (memberGuid : Nat) : Database :=
  { db with member := Function.update db.member memberGuid none }

def updateSubgroup (memberGuid : Nat) (subgroup : Fin maxRaidSubgroups) : Database :=
  let row := (db.member memberGuid).map ({ · with subgroup := subgroup })
  { db with member := Function.update db.member memberGuid row }

def deleteGroup (guid : Nat) : Database where
  groups := db.groups.filter (·.guid ≠ guid)
  member p := (db.member p).filter (·.guid ≠ guid)

end Database

namespace World

variable (w : World)

def findPlayer (p : Nat) : Bool := p ∈ w.guids && (w.player p).online

def modifyPlayer (p : Nat) (f : Player → Player) : World :=
  { w with player := Function.update w.player p (f (w.player p)) }

def setGroup (g : Nat) (grp : Group) : World := { w with group := Function.update w.group g (some grp) }

def modifyGroup (g : Nat) (f : Group → Group) : World :=
  match w.group g with
  | none => w
  | some grp => w.setGroup g (f grp)

def setDb (db : Database) : World := { w with db := db }

/-- `m_memberMgr.getSize()`: the references of players to the group. -/
def getSize (g : Nat) : Nat :=
  (w.guids.filter fun p => (w.player p).group = some g).card +
    (w.guids.filter fun p => (w.player p).originalGroup = some g).card

/-! ## References of players -/

def removeFromBattlegroundRaid (p : Nat) : World :=
  w.modifyPlayer p fun c => { c with group := c.originalGroup, originalGroup := none }

def setBattlegroundRaid (p g : Nat) : World :=
  w.modifyPlayer p fun c => { c with group := some g, originalGroup := c.group }

def unsetGroup (p g : Nat) : World :=
  w.modifyPlayer p fun c => if c.originalGroup = some g then { c with originalGroup := none } else { c with group := none }

def unlinkMember (p g : Nat) (bg : Bool) : World :=
  if w.findPlayer p then if bg then w.removeFromBattlegroundRaid p else w.unsetGroup p g else w

/-- `DelinkMember`. A reference in `m_group` is the first one. -/
def delinkMember (p g : Nat) : World :=
  w.modifyPlayer p fun c =>
    if c.group = some g then { c with group := none }
    else if c.originalGroup = some g then { c with originalGroup := none }
    else c

/-- The references that `AddMember` sets. -/
def linkMember (p g : Nat) (bg : Bool) : World :=
  w.modifyPlayer p fun c =>
    if c.group.isSome && bg then { c with group := some g, originalGroup := c.group }
    else if c.group.isSome then { c with originalGroup := some g }
    else { c with group := some g }

/-! ## Invitations -/

def setGroupInvite (p : Nat) (g : Option Nat) : World := w.modifyPlayer p ({ · with groupInvite := g })

def removeInvite (g p : Nat) : World := (w.modifyGroup g (·.eraseInvitee p)).setGroupInvite p none

def removeAllInvites (g : Nat) : World :=
  match w.group g with
  | none => w
  | some grp =>
    { w.setGroup g { grp with invitees := ∅ } with
      player := fun p => if p ∈ grp.invitees then { w.player p with groupInvite := none } else w.player p }

def ordinaryGroup (p : Nat) : Option Nat :=
  match (w.player p).group with
  | none => none
  | some g => if (w.group g).any (·.isBGGroup) then (w.player p).originalGroup else some g

def addInvite (g p : Nat) : World × Bool :=
  if (w.player p).groupInvite.isSome || (w.ordinaryGroup p).isSome then (w, false)
  else (((w.removeInvite g p).modifyGroup g (·.insertInvitee p)).setGroupInvite p (some g), true)

def addLeaderInvite (g p : Nat) : World × Bool :=
  let r := w.addInvite g p
  if r.2 then (r.1.modifyGroup g (·.setLeader p), true) else (r.1, false)

/-! ## Groups -/

def newGroup (bgGroup : Option Nat) : World :=
  { w.setGroup w.nextGroup { bgGroup := bgGroup } with nextGroup := w.nextGroup + 1 }

/-- `delete` of a group: the references to it become invalid. -/
def deleteGroup (g : Nat) : World :=
  let unref := fun r : Option Nat => if r = some g then none else r
  { w with
    player := fun p => { w.player p with
      group := unref (w.player p).group
      originalGroup := unref (w.player p).originalGroup }
    group := Function.update w.group g none
    bgRaid := fun k => unref (w.bgRaid k) }

/-- `GenerateNewGroupDbStoreId`: the next id is the first one that is not in use. -/
def generateNewGroupDbStoreId : World :=
  let i := w.nextGroupDbStoreId + 1
  { w with nextGroupDbStoreId := i + ((w.groupDbStore.drop i).takeWhile Option.isSome).length }

def registerGroupDbStoreId (storageId g : Nat) : World :=
  { w with groupDbStore :=
      (w.groupDbStore ++ List.replicate (storageId + 1 - w.groupDbStore.length) none).set storageId (some g) }

def freeGroupDbStoreId (storageId : Nat) : World :=
  { w with
    nextGroupDbStoreId := min storageId w.nextGroupDbStoreId
    groupDbStore := w.groupDbStore.set storageId none }

def getGroupByDbStoreId (storageId : Nat) : Option Nat := w.groupDbStore.getD storageId none

/-- `AddMember`, once there is a subgroup. -/
def placeMember (g p : Nat) (grp : Group) (subgroup : Fin maxRaidSubgroups) : World :=
  let w := ((w.setGroup g (grp.pushSlot (Group.newSlot p subgroup))).setGroupInvite p none).linkMember p g
    grp.isBGGroup
  if grp.isBGGroup then w
  else w.setDb (w.db.insertMember p { guid := grp.dbStoreId, memberFlags := ∅, subgroup := subgroup, roles := 0 })

def addMember (g p : Nat) : World × Bool :=
  match w.group g with
  | none => (w, false)
  | some grp =>
    match grp.firstSubGroup with
    | none => (w, false)
    | some subgroup => (w.placeMember g p grp subgroup, true)

/-- The group gets an id and a row, in which the type is `GROUPTYPE_NORMAL`. -/
def storeGroup (g leader : Nat) (grp : Group) : World :=
  let id := w.nextGroupDbStoreId
  ((w.generateNewGroupDbStoreId.registerGroupDbStoreId id g).setGroup g { grp with dbStoreId := id }).setDb
    (w.db.insertGroup ⟨id, leader, false⟩)

def create (g leader : Nat) : World :=
  match w.group g with
  | none => w
  | some grp =>
    let w := if grp.isBGGroup then w.setGroup g (grp.setUp leader) else w.storeGroup g leader (grp.setUp leader)
    (w.addMember g leader).1

def disband (g : Nat) : World :=
  match w.group g with
  | none => w
  | some grp =>
    let w := grp.memberSlots.foldl (fun w s => w.unlinkMember s.guid g grp.isBGGroup) w
    let w := w.removeAllInvites g
    let w := if grp.isBGGroup then w
      else (w.setDb (w.db.deleteGroup grp.dbStoreId)).freeGroupDbStoreId grp.dbStoreId
    w.deleteGroup g

def changeLeader (g guid : Nat) : World :=
  match w.group g with
  | none => w
  | some grp =>
    if grp.isMember guid && w.findPlayer guid then
      let w := if grp.isBGGroup then w
        else w.setDb (w.db.updateGroup grp.dbStoreId ({ · with leaderGuid := guid }))
      w.setGroup g ((grp.setLeader guid).toggleGroupMemberFlag guid .assistant false)
    else w

def newLeader (grp : Group) : Option MemberSlot := grp.memberSlots.find? fun s => w.findPlayer s.guid

def pickLeader (g guid : Nat) : World :=
  match w.group g with
  | none => w
  | some grp =>
    if grp.leaderGuid = guid then
      match w.newLeader grp with
      | none => w
      | some s => w.changeLeader g s.guid
    else w

def disbandIfSmall (g least : Nat) : World := if w.getSize g < least then w.disband g else w

/-- What `RemoveMember` does before a leader is picked. -/
def takeOut (g guid : Nat) (grp : Group) : World :=
  (((w.unlinkMember guid g grp.isBGGroup).setDb (w.db.deleteMember guid)).delinkMember guid g).setGroup g
    (grp.eraseSlot guid)

def removeMember (g guid : Nat) : World :=
  match w.group g with
  | none => w
  | some grp =>
    if grp.leastSize < grp.memberSlots.length then
      ((w.takeOut g guid grp).pickLeader g guid).disbandIfSmall g grp.leastSize
    else w.disband g

def convertToRaid (g : Nat) : World :=
  match w.group g with
  | none => w
  | some grp =>
    let w := w.setGroup g grp.convertToRaid
    if grp.isBGGroup then w else w.setDb (w.db.updateGroup grp.dbStoreId ({ · with raid := true }))

def changeMembersGroup (g guid : Nat) (subgroup : Fin maxRaidSubgroups) : World :=
  match w.group g with
  | none => w
  | some grp =>
    let w := w.setGroup g (grp.changeMembersGroup guid subgroup)
    if grp.raid && (grp.getMember guid).any (·.group ≠ subgroup) && !grp.isBGGroup then
      w.setDb (w.db.updateSubgroup guid subgroup)
    else w

/-- `SetGroupMemberFlag`. Its statement binds the first parameter twice and the second never, so that no row is
written. -/
def setGroupMemberFlag (g guid : Nat) (apply : Bool) (flag : GroupMemberFlags) : World :=
  w.modifyGroup g (·.setGroupMemberFlag guid apply flag)

/-- `AddOrSetPlayerToCorrectBgGroup`, for a battleground and a team. -/
def addOrSetPlayerToCorrectBgGroup (k p : Nat) : World :=
  match w.bgRaid k with
  | none =>
    ({ w.newGroup (some k) with bgRaid := Function.update w.bgRaid k (some w.nextGroup) }).create w.nextGroup p
  | some g =>
    match w.group g with
    | none => w
    | some grp =>
      if grp.isMember p then w.setBattlegroundRaid p g
      else
        let w := (w.addMember g p).1
        match (w.player p).originalGroup.bind w.group with
        | none => w
        | some original => if original.isLeader p then w.changeLeader g p else w

def uninviteFromGroup (p : Nat) : World :=
  match (w.player p).groupInvite with
  | none => w
  | some g =>
    let w := w.removeInvite g p
    match w.group g with
    | none => w
    | some grp =>
      if grp.memberSlots.length ≤ 1 then
        if grp.isCreated then w.disband g else (w.removeAllInvites g).deleteGroup g
      else w

end World

end Axium.Groups
