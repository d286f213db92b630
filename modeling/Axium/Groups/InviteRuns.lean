import Axium.Groups.Invitations

/-!
# Two-way invitations

The two places of an invitation agree in every state of a run if and only if nobody who is in no group invites
himself, nobody who is invited becomes a member of the raid of a battleground, and no group is founded while its
leader is invited to another one.
-/

namespace Axium.Groups

open World Option

section Requests

variable {w : World} {g p : Nat} {grp : Group}

def NamesHimself (w : World) (p target : Nat) (permitted : Bool) : Prop :=
  target = p ∧ permitted = true ∧ (w.player p).groupInvite = none ∧ w.ordinaryGroup p = none

/-- The invitation that a player accepts founds a group, and its leader is invited to another one. -/
def LeaderTurned (w : World) (p : Nat) : Prop :=
  ∃ g grp g', (w.player p).groupInvite = some g ∧ w.group g = some grp ∧ grp.isCreated = false ∧
    grp.leaderGuid ≠ p ∧ w.findPlayer grp.leaderGuid = true ∧
    (w.player grp.leaderGuid).groupInvite = some g' ∧ g' ≠ g

/-- A player who is invited gets a slot in the raid of a battleground. -/
def InvitedJoins (w : World) (k p : Nat) : Prop :=
  (w.player p).groupInvite ≠ none ∧
    ∀ g, w.bgRaid k = some g → ∃ grp, w.group g = some grp ∧ grp.isMember p = false ∧ grp.firstSubGroup ≠ none

theorem online_of_findPlayer (h : w.findPlayer p = true) : (w.player p).online = true := by
  exact (Bool.and_eq_true_iff.1 h).2

theorem handleGroupInvite_spec (h : TwoWay w ∧ Tidy w) (hp : w.findPlayer p = true) (target : Nat)
    (permitted : Bool) :
    (TwoWay (w.handleGroupInvite p target permitted) ↔ ¬ NamesHimself w p target permitted) ∧
      Tidy (w.handleGroupInvite p target permitted) := by
  have honline := online_of_findPlayer hp
  unfold handleGroupInvite
  by_cases hcheck : (!w.findPlayer target || !permitted) = true
  · rw [if_pos hcheck]
    refine ⟨iff_of_true h.1 ?_, h.2⟩
    rintro ⟨rfl, hpermitted, -, -⟩
    rw [hp, hpermitted] at hcheck
    cases hcheck
  rw [if_neg hcheck]
  have htarget : w.findPlayer target = true := by
    cases hfind : w.findPlayer target with
    | true => rfl
    | false => rw [hfind] at hcheck; exact absurd rfl hcheck
  have hpermitted : permitted = true := by
    cases permitted with
    | true => rfl
    | false => rw [htarget] at hcheck; exact absurd rfl hcheck
  by_cases hbusy : ((w.ordinaryGroup target).isSome || (w.player target).groupInvite.isSome) = true
  · rw [if_pos hbusy]
    refine ⟨iff_of_true h.1 ?_, h.2⟩
    rintro ⟨rfl, -, hinvite, hgroup⟩
    rw [hinvite, hgroup] at hbusy
    cases hbusy
  rw [if_neg hbusy]
  have hgroup' : w.ordinaryGroup target = none := by
    cases hord : w.ordinaryGroup target with
    | none => rfl
    | some g => rw [hord] at hbusy; exact absurd rfl hbusy
  have hinvite' : (w.player target).groupInvite = none := by
    cases hinv : (w.player target).groupInvite with
    | none => rfl
    | some g => rw [hinv, Option.isSome_some, Bool.or_true] at hbusy; exact absurd rfl hbusy
  cases hord : w.ordinaryGroup p with
  | some g =>
    have hnot : ¬ NamesHimself w p target permitted := by
      rintro ⟨-, -, -, hnone⟩
      rw [hord] at hnone
      cases hnone
    have hkept (hw : World) (hk : TwoWay hw ∧ Tidy hw) :
        (TwoWay hw ↔ ¬ NamesHimself w p target permitted) ∧ Tidy hw := ⟨iff_of_true hk.1 hnot, hk.2⟩
    dsimp only
    cases hg : w.group g with
    | none => exact hkept w h
    | some grp =>
      dsimp only
      split
      · exact hkept w h
      · split
        · exact hkept w h
        · exact hkept _ (addInvite_kept h hg (online_of_findPlayer htarget))
  | none =>
    by_cases hinvite : (w.player p).groupInvite = none
    · by_cases hself : target = p
      · subst hself
        obtain ⟨hbroken, htidy⟩ := inviteToNewGroup_self h honline hinvite hord
        exact ⟨iff_of_false hbroken (not_not.2 ⟨rfl, hpermitted, hinvite, hord⟩), htidy⟩
      · obtain ⟨htwo, htidy⟩ := inviteToNewGroup_kept h hself honline (online_of_findPlayer htarget) hinvite hord
          hinvite' hgroup'
        exact ⟨iff_of_true htwo fun hn => hself hn.1, htidy⟩
    · obtain ⟨htwo, htidy⟩ := inviteToNewGroup_refused h hinvite target
      exact ⟨iff_of_true htwo fun hn => hinvite hn.2.2.1, htidy⟩

theorem group_removeInvite (hg : w.group g = some grp) (p : Nat) :
    (w.removeInvite g p).group g = some (grp.eraseInvitee p) := by
  change (w.modifyGroup g (·.eraseInvitee p)).group g = _
  unfold modifyGroup
  rw [hg]
  rw [group_setGroup, if_pos rfl]

theorem player_removeInvite_of_ne {q : Nat} (hne : q ≠ p) (g : Nat) :
    (w.removeInvite g p).player q = w.player q := by
  rw [removeInvite, setGroupInvite, player_modifyPlayer, if_neg hne, player_modifyGroup]

theorem findPlayer_removeInvite (g p q : Nat) : (w.removeInvite g p).findPlayer q = w.findPlayer q := by
  have hguids : (w.removeInvite g p).guids = w.guids := by
    change (w.modifyGroup g (·.eraseInvitee p)).guids = _
    unfold modifyGroup
    split <;> rfl
  have honline : ((w.removeInvite g p).player q).online = (w.player q).online := by
    by_cases hq : q = p
    · rw [hq, removeInvite, setGroupInvite, player_modifyPlayer, if_pos rfl, player_modifyGroup]
    · rw [player_removeInvite_of_ne hq]
  rw [findPlayer, findPlayer, hguids, honline]

section

variable (h : TwoWay w ∧ Tidy w)
include h

theorem found_spec {leader : Nat} (hne : leader ≠ p) (hp : (w.player p).groupInvite = none) :
    (TwoWay (w.found g leader p) ↔ ∀ g', (w.player leader).groupInvite = some g' → g' = g) ∧
      Tidy (w.found g leader p) := by
  have hleader : ((w.removeInvite g leader).player leader).groupInvite = none := by
    rw [invite_removeInvite, if_pos rfl]
  have hp' : ((w.removeInvite g leader).player p).groupInvite = none := by
    rw [invite_removeInvite, if_neg (Ne.symm hne), hp]
  have hcreate : Quiet (w.removeInvite g leader) ((w.removeInvite g leader).create g leader) :=
    quiet_create hleader g
  have hquiet : Quiet (w.removeInvite g leader) (w.found g leader p) :=
    hcreate.trans (quiet_addMember ((hcreate.invite p).trans hp') g)
  exact ⟨hquiet.twoWay_iff.trans h.1.removeInvite_iff, hquiet.tidy (h.2.removeInvite g leader)⟩

theorem handleGroupAccept_spec (p : Nat) :
    (TwoWay (w.handleGroupAccept p) ↔ ¬ LeaderTurned w p) ∧ Tidy (w.handleGroupAccept p) := by
  unfold handleGroupAccept
  cases hp : (w.player p).groupInvite with
  | none =>
    refine ⟨iff_of_true h.1 ?_, h.2⟩
    rintro ⟨g, _, _, hinvite, -⟩
    rw [hp] at hinvite
    cases hinvite
  | some g =>
    obtain ⟨grp, hg, -⟩ := h.1.exists_of_invite hp
    have hremoved := removeInvite_kept (g := g) (p := p) h fun g' hg' => some.inj (hg'.symm.trans hp)
    have hforgot : ((w.removeInvite g p).player p).groupInvite = none := by rw [invite_removeInvite, if_pos rfl]
    dsimp only
    rw [group_removeInvite hg p]
    dsimp only
    have hkept (hw : World) (hk : TwoWay hw ∧ Tidy hw) (hnot : ¬ LeaderTurned w p) :
        (TwoWay hw ↔ ¬ LeaderTurned w p) ∧ Tidy hw := ⟨iff_of_true hk.1 hnot, hk.2⟩
    -- The group that the player turns to is the one of the condition.
    have hsame : LeaderTurned w p → grp.isCreated = false ∧ grp.leaderGuid ≠ p ∧ w.findPlayer grp.leaderGuid = true := by
      rintro ⟨g₁, grp₁, _, hinvite, hg₁, hcreated, hleader, hfind, -, -⟩
      obtain rfl := some.inj (hp.symm.trans hinvite)
      obtain rfl := some.inj (hg.symm.trans hg₁)
      exact ⟨hcreated, hleader, hfind⟩
    by_cases hleader : grp.leaderGuid = p
    · rw [if_pos (show (grp.eraseInvitee p).isLeader p = true from decide_eq_true hleader)]
      exact hkept _ hremoved fun hturned => (hsame hturned).2.1 hleader
    rw [if_neg (show ¬ (grp.eraseInvitee p).isLeader p = true from fun hd => hleader (of_decide_eq_true hd))]
    by_cases hfull : grp.isFull = true
    · rw [if_pos (show (grp.eraseInvitee p).isFull = true from hfull)]
      refine hkept _ hremoved fun hturned => ?_
      have hlength : ¬ 0 < grp.memberSlots.length := of_decide_eq_false (hsame hturned).1
      have hle : (if grp.raid then maxRaidSize else maxGroupSize) ≤ grp.memberSlots.length := of_decide_eq_true hfull
      have hmax : 0 < if grp.raid then maxRaidSize else maxGroupSize := by split <;> decide
      omega
    rw [if_neg (show ¬ (grp.eraseInvitee p).isFull = true from hfull)]
    by_cases hcreated : grp.isCreated = true
    · rw [if_pos (show (grp.eraseInvitee p).isCreated = true from hcreated)]
      refine hkept _ ((quiet_addMember hforgot g).kept hremoved) fun hturned => ?_
      rw [(hsame hturned).1] at hcreated
      cases hcreated
    rw [if_neg (show ¬ (grp.eraseInvitee p).isCreated = true from hcreated)]
    by_cases hfind : w.findPlayer grp.leaderGuid = true
    · rw [if_pos (show (w.removeInvite g p).findPlayer (grp.eraseInvitee p).leaderGuid = true from
        (findPlayer_removeInvite g p _).trans hfind)]
      obtain ⟨hiff, htidy⟩ := found_spec (g := g) hremoved hleader hforgot
      refine ⟨hiff.trans ?_, htidy⟩
      rw [player_removeInvite_of_ne hleader]
      constructor
      · rintro hall ⟨g₁, grp₁, g', hinvite, hg₁, -, -, -, hturned, hne⟩
        obtain rfl := some.inj (hp.symm.trans hinvite)
        obtain rfl := some.inj (hg.symm.trans hg₁)
        exact hne (hall g' hturned)
      · intro hnot g' hturned
        by_contra hne
        exact hnot ⟨g, grp, g', hp, hg, Bool.eq_false_iff.2 hcreated, hleader, hfind, hturned, hne⟩
    · rw [if_neg (show ¬ (w.removeInvite g p).findPlayer (grp.eraseInvitee p).leaderGuid = true from fun hf =>
        hfind ((findPlayer_removeInvite g p _).symm.trans hf))]
      refine hkept _ ⟨hremoved.1.removeAllInvites g, hremoved.2.removeAllInvites g⟩ fun hturned => ?_
      exact hfind (hsame hturned).2.2

theorem addOrSetPlayer_spec (k p : Nat) :
    (TwoWay (w.addOrSetPlayerToCorrectBgGroup k p) ↔ ¬ InvitedJoins w k p) ∧
      Tidy (w.addOrSetPlayerToCorrectBgGroup k p) := by
  unfold addOrSetPlayerToCorrectBgGroup
  cases hk : w.bgRaid k with
  | none =>
    have hnew := newGroup_kept h (some k)
    have hquiet : Quiet (w.newGroup (some k))
        { w.newGroup (some k) with bgRaid := Function.update w.bgRaid k (some w.nextGroup) } :=
      ⟨fun _ => rfl, fun _ => rfl, fun _ => rfl, rfl⟩
    obtain ⟨hiff, htidy⟩ := create_bgRaid_spec (hquiet.kept hnew) (group_newGroup w (some k)) p
    refine ⟨hiff.trans ?_, htidy⟩
    constructor
    · exact fun hnone hjoins => hjoins.1 hnone
    · intro hnot
      by_contra hinvite
      exact hnot ⟨hinvite, fun g hg => by rw [hk] at hg; cases hg⟩
  | some g =>
    dsimp only
    cases hg : w.group g with
    | none =>
      refine ⟨iff_of_true h.1 fun hjoins => ?_, h.2⟩
      obtain ⟨grp, hgrp, -⟩ := hjoins.2 g hk
      rw [hg] at hgrp
      cases hgrp
    | some grp =>
      dsimp only
      by_cases hmember : grp.isMember p = true
      · rw [if_pos hmember]
        obtain ⟨htwo, htidy⟩ := (quiet_setBattlegroundRaid p g).kept h
        refine ⟨iff_of_true htwo fun hjoins => ?_, htidy⟩
        obtain ⟨grp₁, hgrp₁, hno, -⟩ := hjoins.2 g hk
        obtain rfl := some.inj (hg.symm.trans hgrp₁)
        rw [hmember] at hno
        cases hno
      rw [if_neg hmember]
      have hadd := addMember_spec h hg p
      suffices hjoined : TwoWay (w.addMember g p).1 ↔ ¬ InvitedJoins w k p by
        have hleader : ∀ {w'}, Quiet (w.addMember g p).1 w' → (TwoWay w' ↔ ¬ InvitedJoins w k p) ∧ Tidy w' :=
          fun h' => ⟨h'.twoWay_iff.trans hjoined, h'.tidy hadd.2⟩
        split
        · exact hleader (.refl _)
        · split
          · exact hleader (quiet_changeLeader _ _)
          · exact hleader (.refl _)
      refine hadd.1.trans ?_
      constructor
      · rintro hor ⟨hinvite, hex⟩
        obtain ⟨grp₁, hgrp₁, -, hsub⟩ := hex g hk
        obtain rfl := some.inj (hg.symm.trans hgrp₁)
        exact hor.elim hsub hinvite
      · intro hnot
        by_contra hnone
        rw [not_or] at hnone
        refine hnot ⟨hnone.2, fun g' hg' => ?_⟩
        obtain rfl := some.inj (hk.symm.trans hg')
        exact ⟨grp, hg, Bool.eq_false_iff.2 hmember, hnone.1⟩

theorem handleGroupUninvite_kept (p guid : Nat) (byName restricted : Bool) :
    TwoWay (w.handleGroupUninvite p guid byName restricted) ∧ Tidy (w.handleGroupUninvite p guid byName restricted) := by
  unfold handleGroupUninvite
  split
  · exact h
  · split
    · exact h
    · split
      · exact h
      · split
        · exact h
        · split
          · exact h
          · split
            · exact removeMember_kept h _ _
            · split
              · exact uninviteFromGroup_kept h _
              · exact h

theorem handleGroupDisband_kept (p : Nat) (restricted : Bool) :
    TwoWay (w.handleGroupDisband p restricted) ∧ Tidy (w.handleGroupDisband p restricted) := by
  unfold handleGroupDisband
  split
  · exact h
  · split
    · exact h
    · exact removeMember_kept h _ _

theorem leaveBattleground_kept (k guid : Nat) :
    TwoWay (w.leaveBattleground k guid) ∧ Tidy (w.leaveBattleground k guid) := by
  unfold leaveBattleground
  split
  · exact h
  · exact removeMember_kept h _ _

theorem setPlayer_kept (hp : (w.player p).groupInvite = none) {c : Player}
    (hc : c.groupInvite = none) : TwoWay (w.modifyPlayer p fun _ => c) ∧ Tidy (w.modifyPlayer p fun _ => c) := by
  have hinvite (q : Nat) : ((w.modifyPlayer p fun _ => c).player q).groupInvite = (w.player q).groupInvite := by
    rw [player_modifyPlayer]
    split
    · next heq => rw [heq, hc, hp]
    · rfl
  refine ⟨fun q g => ?_, h.2.free, fun q hq => ?_⟩
  · rw [hinvite]
    exact h.1 q g
  · rw [player_modifyPlayer] at hq ⊢
    by_cases heq : q = p
    · rw [if_pos heq]
      exact hc
    · rw [if_neg heq] at hq ⊢
      exact h.2.offline q hq

theorem login_kept (hp : (w.player p).online = false) :
    TwoWay (w.login p) ∧ Tidy (w.login p) := setPlayer_kept h (h.2.offline p hp) rfl

theorem logout_kept (p : Nat) (socket : Bool) : TwoWay (w.logout p socket) ∧ Tidy (w.logout p socket) := by
  have hleft := uninviteFromGroup_kept h p
  have hnone := invite_none_uninviteFromGroup (w := w) p
  unfold logout
  dsimp only
  generalize w.uninviteFromGroup p = w' at hleft hnone ⊢
  split
  · exact setPlayer_kept hleft hnone rfl
  · split
    · exact setPlayer_kept (removeMember_kept hleft _ _) (invite_none_removeMember hnone _ _) rfl
    · exact setPlayer_kept hleft hnone rfl

end

end Requests

def Harmless (w : World) : InviteRequest → Prop
  | .invite p target permitted => w.findPlayer p = true → ¬ NamesHimself w p target permitted
  | .accept p => w.findPlayer p = true → ¬ LeaderTurned w p
  | .joinBattleground k p => w.findPlayer p = true → ¬ InvitedJoins w k p
  | _ => True

theorem inviteStep_spec {w : World} (h : TwoWay w ∧ Tidy w) (e : InviteRequest) :
    (TwoWay (w.inviteStep e) ↔ Harmless w e) ∧ Tidy (w.inviteStep e) := by
  have hkept {w' : World} (h' : TwoWay w' ∧ Tidy w') : (TwoWay w' ↔ True) ∧ Tidy w' := ⟨iff_true_intro h'.1, h'.2⟩
  have honly {p : Nat} {w' : World} {P : Prop} (h' : w.findPlayer p = true → (TwoWay w' ↔ P) ∧ Tidy w') :
      (TwoWay (if w.findPlayer p = true then w' else w) ↔ (w.findPlayer p = true → P)) ∧
        Tidy (if w.findPlayer p = true then w' else w) := by
    by_cases hp : w.findPlayer p = true
    · rw [if_pos hp]
      exact ⟨(h' hp).1.trans ⟨fun hP _ => hP, fun hP => hP hp⟩, (h' hp).2⟩
    · rw [if_neg hp]
      exact ⟨iff_of_true h.1 fun hf => absurd hf hp, h.2⟩
  have honly' {p : Nat} {w' : World} (h' : TwoWay w' ∧ Tidy w') :
      (TwoWay (if w.findPlayer p = true then w' else w) ↔ True) ∧ Tidy (if w.findPlayer p = true then w' else w) := by
    split
    · exact hkept h'
    · exact hkept h
  cases e with
  | invite p target permitted => exact honly fun hp => handleGroupInvite_spec h hp target permitted
  | accept p => exact honly fun _ => handleGroupAccept_spec h p
  | decline p => exact honly' (uninviteFromGroup_kept h p)
  | uninvite p guid byName restricted => exact honly' (handleGroupUninvite_kept h p guid byName restricted)
  | disband p restricted => exact honly' (handleGroupDisband_kept h p restricted)
  | joinBattleground k p => exact honly fun _ => addOrSetPlayer_spec h k p
  | leaveBattleground k guid => exact hkept (leaveBattleground_kept h k guid)
  | login p =>
    change (TwoWay (if p ∈ w.guids ∧ (w.player p).online = false then w.login p else w) ↔ True) ∧
      Tidy (if p ∈ w.guids ∧ (w.player p).online = false then w.login p else w)
    split
    · next hp => exact hkept (login_kept h hp.2)
    · exact hkept h
  | logout p socket => exact honly' (logout_kept h p socket)

/-- **Two-way invitations.** The two places of every invitation agree in all states of a run if and only if they do
at first and no request is one of the three. -/
theorem invitations_twoWay_iff (w : World) (h : Tidy w) (requests : List InviteRequest) :
    (∀ pre, pre <+: requests → TwoWay (Run.run inviteStep w pre)) ↔
      TwoWay w ∧ Run.AllSteps inviteStep Harmless w requests := by
  have htidy (s : World) (e : InviteRequest) (htwo : TwoWay s) (hs : Tidy s) (_ : True) : Tidy (s.inviteStep e) :=
    (inviteStep_spec ⟨htwo, hs⟩ e).2
  have hiff (s : World) (e : InviteRequest) (htwo : TwoWay s) (hs : Tidy s) (_ : True) :
      TwoWay (s.inviteStep e) ↔ Harmless s e := (inviteStep_spec ⟨htwo, hs⟩ e).1
  exact Run.AllSteps.always_iff htidy hiff h (Run.allSteps_true ..)

def threePlayers : World where
  guids := {1, 2, 3}
  player p := ⟨p == 1 || p == 2 || p == 3, none, none, none⟩
  group _ := none
  nextGroup := 0
  bgRaid _ := none
  groupDbStore := []
  nextGroupDbStoreId := 1
  db := ⟨[], fun _ => none⟩

theorem tidy_threePlayers : Tidy threePlayers := ⟨fun _ _ => rfl, fun _ _ => rfl⟩

theorem twoWay_threePlayers : TwoWay threePlayers := fun _ _ =>
  iff_of_false (fun h => nomatch h) fun ⟨_, hs, _⟩ => nomatch hs

/-- The first player founds a group with the second one, and the third one declines. -/
theorem invitations_twoWay_founded :
    TwoWay (Run.run inviteStep threePlayers
      [.invite 1 2 true, .accept 2, .invite 1 3 true, .decline 3, .joinBattleground 0 3]) := by
  refine (invitations_twoWay_iff threePlayers tidy_threePlayers
    [.invite 1 2 true, .accept 2, .invite 1 3 true, .decline 3, .joinBattleground 0 3]).2
    ⟨twoWay_threePlayers, ?_, ?_, ?_, trivial, ?_, trivial⟩ _ (List.prefix_refl _)
  · exact fun _ hself => absurd hself.1 (by decide)
  · rintro - ⟨g, grp, g', hinvite, hg, -, -, -, hturned, hne⟩
    obtain rfl : 0 = g := some.inj hinvite
    have hleader : 1 = grp.leaderGuid := some.inj (congrArg (Option.map Group.leaderGuid) hg)
    rw [← hleader] at hturned
    exact hne (some.inj hturned).symm
  · exact fun _ hself => absurd hself.1 (by decide)
  · exact fun _ hjoins => hjoins.1 rfl

/-- A player who names himself is left with an invitation to a group that is deleted, and one who joins a
battleground is still listed by the group that has invited him. -/
theorem himself_and_raid :
    ¬ TwoWay (threePlayers.inviteStep (.invite 1 1 true)) ∧
      ¬ TwoWay (Run.run inviteStep threePlayers [.invite 1 2 true, .joinBattleground 0 2]) := by
  constructor
  · intro h
    obtain ⟨s, hs, -⟩ := (h 1 0).1 rfl
    exact absurd hs fun h => nomatch h
  · intro h
    have hinvite := (h 2 0).2 ⟨_, rfl, by decide⟩
    exact absurd hinvite fun h => nomatch h

end Axium.Groups
