import Axium.Groups.Group

/-!
# Requests about invitations

The requests by which players invite each other to groups and answer, from `GroupHandler.cpp`, with those by which
they leave a group, join the raid of a battleground, log in and log out.
-/

namespace Axium.Groups

namespace World

variable (w : World)

/-- A player who is in no group invites another one to a new group, of which he is the first to be invited. -/
def inviteToNewGroup (p target : Nat) : World :=
  let g := w.nextGroup
  let r := (w.newGroup none).addLeaderInvite g p
  if r.2 then
    let r' := r.1.addInvite g target
    if r'.2 then r'.1 else r'.1.deleteGroup g
  else r.1.deleteGroup g

/-- `HandleGroupInviteOpcode`, after the checks that `permitted` stands for. -/
def handleGroupInvite (p target : Nat) (permitted : Bool) : World :=
  if !w.findPlayer target || !permitted then w
  else if (w.ordinaryGroup target).isSome || (w.player target).groupInvite.isSome then w
  else
    match w.ordinaryGroup p with
    | some g =>
      match w.group g with
      | none => w
      | some grp =>
        if !grp.isLeader p && !grp.isAssistant p then w
        else if grp.isFull then w
        else (w.addInvite g target).1
    | none => w.inviteToNewGroup p target

def found (g leader p : Nat) : World := (((w.removeInvite g leader).create g leader).addMember g p).1

def handleGroupAccept (p : Nat) : World :=
  match (w.player p).groupInvite with
  | none => w
  | some g =>
    let w := w.removeInvite g p
    match w.group g with
    | none => w
    | some grp =>
      if grp.isLeader p then w
      else if grp.isFull then w
      else if grp.isCreated then (w.addMember g p).1
      else if w.findPlayer grp.leaderGuid then w.found g grp.leaderGuid p
      else w.removeAllInvites g

/-- `HandleGroupUninviteGuidOpcode`, and `HandleGroupUninviteOpcode` if the player is named by his name. The leader is
not looked for there. `restricted` stands for a player in a battleground. -/
def handleGroupUninvite (p guid : Nat) (byName restricted : Bool) : World :=
  if guid = p then w
  else
    match (w.player p).group with
    | none => w
    | some g =>
      match w.group g with
      | none => w
      | some grp =>
        if (!grp.isLeader p && !grp.isAssistant p) || restricted then w
        else if !byName && grp.isLeader guid then w
        else if grp.isMember guid then w.removeMember g guid
        else if guid ∈ grp.invitees then w.uninviteFromGroup guid
        else w

def handleGroupDisband (p : Nat) (restricted : Bool) : World :=
  match (w.player p).group with
  | none => w
  | some g => if restricted then w else w.removeMember g p

def login (p : Nat) : World :=
  w.modifyPlayer p fun _ =>
    { online := true
      group := (w.db.member p).bind fun row => w.getGroupByDbStoreId row.guid
      originalGroup := none
      groupInvite := none }

/-- `LogoutPlayer`, as far as it is about groups. `socket` stands for a player who is not kicked. -/
def logout (p : Nat) (socket : Bool) : World :=
  let w := w.uninviteFromGroup p
  let w :=
    match (w.player p).group with
    | none => w
    | some g => if !(w.group g).any Group.raid && socket then w.removeMember g p else w
  w.modifyPlayer p fun _ => { online := false, group := none, originalGroup := none, groupInvite := none }

/-- A player leaves a battleground: `RemoveMember` of its raid. -/
def leaveBattleground (k guid : Nat) : World :=
  match w.bgRaid k with
  | none => w
  | some g => w.removeMember g guid

end World

inductive InviteRequest where
  | invite (p target : Nat) (permitted : Bool)
  | accept (p : Nat)
  | decline (p : Nat)
  | uninvite (p guid : Nat) (byName restricted : Bool)
  | disband (p : Nat) (restricted : Bool)
  | joinBattleground (k p : Nat)
  | leaveBattleground (k guid : Nat)
  | login (p : Nat)
  | logout (p : Nat) (socket : Bool)

def World.inviteStep (w : World) (e : InviteRequest) : World :=
  match e with
  | .login p => if p ∈ w.guids ∧ (w.player p).online = false then w.login p else w
  | .leaveBattleground k guid => w.leaveBattleground k guid
  | .invite p target permitted => if w.findPlayer p then w.handleGroupInvite p target permitted else w
  | .accept p => if w.findPlayer p then w.handleGroupAccept p else w
  | .decline p => if w.findPlayer p then w.uninviteFromGroup p else w
  | .uninvite p guid byName restricted =>
    if w.findPlayer p then w.handleGroupUninvite p guid byName restricted else w
  | .disband p restricted => if w.findPlayer p then w.handleGroupDisband p restricted else w
  | .joinBattleground k p => if w.findPlayer p then w.addOrSetPlayerToCorrectBgGroup k p else w
  | .logout p socket => if w.findPlayer p then w.logout p socket else w

end Axium.Groups
