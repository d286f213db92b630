import Axium.Groups.GroupHandler

/-!
# Invitations to groups

An invitation is kept in two places, as `m_groupInvite` of the player and in `m_invitees` of the group. What the
operations on groups do to the two places is said here, one operation after the other.
-/

namespace Axium.Groups

open Function Option World

/-! ## The two places -/

def World.inviteesOf (w : World) (g : Nat) : Option (Finset Nat) := (w.group g).map (·.invitees)

def TwoWay (w : World) : Prop :=
  ∀ p g, (w.player p).groupInvite = some g ↔ ∃ s, w.inviteesOf g = some s ∧ p ∈ s

/-- Addresses from `nextGroup` on are free, and who is not online is not invited. -/
structure Tidy (w : World) : Prop where
  free : ∀ g, w.nextGroup ≤ g → w.inviteesOf g = none
  offline : ∀ p, (w.player p).online = false → (w.player p).groupInvite = none

/-- No invitation is touched. -/
structure Quiet (w w' : World) : Prop where
  invite : ∀ p, (w'.player p).groupInvite = (w.player p).groupInvite
  invitees : ∀ g, w'.inviteesOf g = w.inviteesOf g
  online : ∀ p, (w'.player p).online = (w.player p).online
  nextGroup : w'.nextGroup = w.nextGroup

theorem Quiet.refl (w : World) : Quiet w w := ⟨fun _ => rfl, fun _ => rfl, fun _ => rfl, rfl⟩

theorem Quiet.trans {w₁ w₂ w₃ : World} (h : Quiet w₁ w₂) (h' : Quiet w₂ w₃) : Quiet w₁ w₃ where
  invite p := (h'.invite p).trans (h.invite p)
  invitees g := (h'.invitees g).trans (h.invitees g)
  online p := (h'.online p).trans (h.online p)
  nextGroup := h'.nextGroup.trans h.nextGroup

theorem Quiet.twoWay_iff {w w' : World} (h : Quiet w w') : TwoWay w' ↔ TwoWay w := by
  unfold TwoWay
  simp only [h.invite, h.invitees]

theorem Quiet.tidy {w w' : World} (h : Quiet w w') (ht : Tidy w) : Tidy w' where
  free g hg := by
    rw [h.invitees]
    exact ht.free g (h.nextGroup ▸ hg)
  offline p hp := by
    rw [h.invite]
    exact ht.offline p (h.online p ▸ hp)

/-! ## What does not touch them -/

section Quiet

variable {w : World} {g p : Nat} {grp grp' : Group}

theorem player_modifyPlayer (p q : Nat) (f : Player → Player) :
    (w.modifyPlayer p f).player q = if q = p then f (w.player p) else w.player q := update_apply ..

theorem group_setGroup (g h : Nat) (grp : Group) :
    (w.setGroup g grp).group h = if h = g then some grp else w.group h := update_apply ..

theorem quiet_modifyPlayer {f : Player → Player} (hinvite : (f (w.player p)).groupInvite = (w.player p).groupInvite)
    (honline : (f (w.player p)).online = (w.player p).online) : Quiet w (w.modifyPlayer p f) where
  invite q := by
    rw [player_modifyPlayer]
    split
    · next h => rw [h, hinvite]
    · rfl
  invitees _ := rfl
  online q := by
    rw [player_modifyPlayer]
    split
    · next h => rw [h, honline]
    · rfl
  nextGroup := rfl

theorem quiet_setGroup (hg : w.group g = some grp) (h : grp'.invitees = grp.invitees) :
    Quiet w (w.setGroup g grp') where
  invite _ := rfl
  invitees h' := by
    unfold inviteesOf
    rw [group_setGroup]
    split
    · next heq => rw [heq, hg, map_some, map_some, h]
    · rfl
  online _ := rfl
  nextGroup := rfl

theorem quiet_setDb (w : World) (db : Database) : Quiet w (w.setDb db) :=
  ⟨fun _ => rfl, fun _ => rfl, fun _ => rfl, rfl⟩

theorem quiet_setGroupInvite_none (h : (w.player p).groupInvite = none) : Quiet w (w.setGroupInvite p none) :=
  quiet_modifyPlayer h.symm rfl

theorem quiet_linkMember (p g : Nat) (bg : Bool) : Quiet w (w.linkMember p g bg) := by
  refine quiet_modifyPlayer ?_ ?_ <;> split
  · rfl
  · split <;> rfl
  · rfl
  · split <;> rfl

theorem quiet_delinkMember (p g : Nat) : Quiet w (w.delinkMember p g) := by
  refine quiet_modifyPlayer ?_ ?_ <;> split
  · rfl
  · split <;> rfl
  · rfl
  · split <;> rfl

theorem quiet_setBattlegroundRaid (p g : Nat) : Quiet w (w.setBattlegroundRaid p g) := quiet_modifyPlayer rfl rfl

theorem quiet_unlinkMember (p g : Nat) (bg : Bool) : Quiet w (w.unlinkMember p g bg) := by
  unfold unlinkMember
  split
  · split
    · exact quiet_modifyPlayer rfl rfl
    · refine quiet_modifyPlayer ?_ ?_ <;> split <;> rfl
  · exact .refl w

@[simp] theorem group_unlinkMember (p g : Nat) (bg : Bool) : (w.unlinkMember p g bg).group = w.group := by
  unfold unlinkMember
  split
  · split <;> rfl
  · rfl

theorem quiet_foldl_unlinkMember (g : Nat) (bg : Bool) (l : List MemberSlot) : ∀ w : World,
    Quiet w (l.foldl (fun w s => w.unlinkMember s.guid g bg) w) ∧
      (l.foldl (fun w s => w.unlinkMember s.guid g bg) w).group = w.group := by
  induction l with
  | nil => exact fun w => ⟨.refl w, rfl⟩
  | cons s l ih =>
    intro w
    obtain ⟨hquiet, hgroup⟩ := ih (w.unlinkMember s.guid g bg)
    exact ⟨(quiet_unlinkMember s.guid g bg).trans hquiet, hgroup.trans (group_unlinkMember s.guid g bg)⟩

theorem invitees_eraseSlot (grp : Group) (guid : Nat) : (grp.eraseSlot guid).invitees = grp.invitees := by
  unfold Group.eraseSlot
  split <;> rfl

theorem quiet_takeOut (hg : w.group g = some grp) (guid : Nat) : Quiet w (w.takeOut g guid grp) := by
  have hgroup : (((w.unlinkMember guid g grp.isBGGroup).setDb (w.db.deleteMember guid)).delinkMember guid g).group g =
      some grp := (congrFun (group_unlinkMember guid g grp.isBGGroup) g).trans hg
  exact (quiet_unlinkMember guid g grp.isBGGroup).trans (.trans (quiet_setDb _ _)
    (.trans (quiet_delinkMember guid g) (quiet_setGroup hgroup (invitees_eraseSlot grp guid))))

theorem quiet_changeLeader (g guid : Nat) : Quiet w (w.changeLeader g guid) := by
  unfold changeLeader
  cases hg : w.group g with
  | none => exact .refl w
  | some grp =>
    dsimp only
    split
    · split
      · exact quiet_setGroup hg rfl
      · exact .trans (quiet_setDb w _) (quiet_setGroup hg rfl)
    · exact .refl w

theorem quiet_pickLeader (g guid : Nat) : Quiet w (w.pickLeader g guid) := by
  unfold pickLeader
  split
  · exact .refl w
  · split
    · split
      · exact .refl w
      · exact quiet_changeLeader _ _
    · exact .refl w

section

variable (h : (w.player p).groupInvite = none)
include h

theorem quiet_placeMember (hg : w.group g = some grp)
    (subgroup : Fin maxRaidSubgroups) : Quiet w (w.placeMember g p grp subgroup) := by
  have hpushed : Quiet w (w.setGroup g (grp.pushSlot (Group.newSlot p subgroup))) := quiet_setGroup hg rfl
  have hlinked := (hpushed.trans (quiet_setGroupInvite_none h)).trans (quiet_linkMember p g grp.isBGGroup)
  unfold placeMember
  split
  · exact hlinked
  · exact hlinked.trans (quiet_setDb _ _)

theorem quiet_addMember (g : Nat) : Quiet w (w.addMember g p).1 := by
  unfold addMember
  cases hg : w.group g with
  | none => exact .refl w
  | some grp =>
    dsimp only
    split
    · exact .refl w
    · exact quiet_placeMember h hg _

theorem quiet_create (g : Nat) : Quiet w (w.create g p) := by
  unfold create
  cases hg : w.group g with
  | none => exact .refl w
  | some grp =>
    have hinvitees : (grp.setUp p).invitees = grp.invitees := by
      unfold Group.setUp
      dsimp only
      split <;> rfl
    dsimp only
    split
    · have hset : Quiet w (w.setGroup g (grp.setUp p)) := quiet_setGroup hg hinvitees
      exact hset.trans (quiet_addMember ((hset.invite p).trans h) g)
    · have hset : Quiet w (w.setGroup g { grp.setUp p with dbStoreId := w.nextGroupDbStoreId }) :=
        quiet_setGroup hg hinvitees
      have hstored : Quiet w (w.storeGroup g p (grp.setUp p)) :=
        ⟨hset.invite, hset.invitees, hset.online, hset.nextGroup⟩
      exact hstored.trans (quiet_addMember ((hstored.invite p).trans h) g)

end

end Quiet

/-! ## Operations on invitations -/

section Invitations

variable {w : World} {g p : Nat} {grp : Group}

theorem TwoWay.exists_of_invite (h : TwoWay w) (hp : (w.player p).groupInvite = some g) :
    ∃ grp, w.group g = some grp ∧ p ∈ grp.invitees := by
  obtain ⟨s, hs, hmem⟩ := (h p g).1 hp
  obtain ⟨grp, hgrp, rfl⟩ := map_eq_some_iff.1 hs
  exact ⟨grp, hgrp, hmem⟩

theorem TwoWay.invite_of_mem (h : TwoWay w) (hg : w.group g = some grp) (hp : p ∈ grp.invitees) :
    (w.player p).groupInvite = some g := (h p g).2 ⟨_, by rw [inviteesOf, hg]; rfl, hp⟩

theorem TwoWay.clear {w' : World} (h : TwoWay w) (hg : w.group g = some grp)
    (hinvite : ∀ p, (w'.player p).groupInvite = if p ∈ grp.invitees then none else (w.player p).groupInvite)
    (hother : ∀ g', g' ≠ g → w'.inviteesOf g' = w.inviteesOf g')
    (hempty : ∀ s, w'.inviteesOf g = some s → s = ∅) : TwoWay w' := by
  intro p g'
  rw [hinvite]
  by_cases hp : p ∈ grp.invitees
  · rw [if_pos hp]
    refine iff_of_false (fun h => nomatch h) ?_
    rintro ⟨s, hs, hmem⟩
    by_cases heq : g' = g
    · rw [heq] at hs
      rw [hempty s hs] at hmem
      exact absurd hmem (Finset.notMem_empty p)
    · rw [hother g' heq] at hs
      have hboth := (h.invite_of_mem hg hp).symm.trans ((h p g').2 ⟨s, hs, hmem⟩)
      exact heq (some.inj hboth).symm
  · rw [if_neg hp]
    by_cases heq : g' = g
    · rw [heq]
      refine iff_of_false (fun hinv => ?_) ?_
      · obtain ⟨grp', hgrp', hmem⟩ := h.exists_of_invite hinv
        rw [hg] at hgrp'
        exact hp (some.inj hgrp' ▸ hmem)
      · rintro ⟨s, hs, hmem⟩
        rw [hempty s hs] at hmem
        exact absurd hmem (Finset.notMem_empty p)
    · rw [hother g' heq]
      exact h p g'

theorem inviteesOf_modifyGroup (g g' : Nat) (f : Group → Group) : (w.modifyGroup g f).inviteesOf g' =
    if g' = g then ((w.group g).map f).map (·.invitees) else w.inviteesOf g' := by
  unfold modifyGroup inviteesOf
  cases hg : w.group g with
  | none =>
    dsimp only
    split
    · next h => rw [h, hg]; rfl
    · rfl
  | some grp =>
    rw [group_setGroup]
    split <;> rfl

theorem player_modifyGroup (g : Nat) (f : Group → Group) : (w.modifyGroup g f).player = w.player := by
  unfold modifyGroup
  split <;> rfl

theorem nextGroup_modifyGroup (g : Nat) (f : Group → Group) : (w.modifyGroup g f).nextGroup = w.nextGroup := by
  unfold modifyGroup
  split <;> rfl

theorem invite_removeInvite (g p q : Nat) : ((w.removeInvite g p).player q).groupInvite =
    if q = p then none else (w.player q).groupInvite := by
  unfold World.removeInvite setGroupInvite
  rw [player_modifyPlayer, player_modifyGroup]
  split <;> rfl

theorem inviteesOf_removeInvite (g p g' : Nat) : (w.removeInvite g p).inviteesOf g' =
    if g' = g then (w.inviteesOf g).map (·.erase p) else w.inviteesOf g' := by
  change (w.modifyGroup g _).inviteesOf g' = _
  rw [inviteesOf_modifyGroup]
  split
  · rw [inviteesOf, map_map, map_map]
    rfl
  · rfl

theorem TwoWay.removeInvite_iff (h : TwoWay w) :
    TwoWay (w.removeInvite g p) ↔ ∀ g', (w.player p).groupInvite = some g' → g' = g := by
  constructor
  · intro h' g' hg'
    by_contra hne
    obtain ⟨s, hs, hmem⟩ := (h p g').1 hg'
    have hgone := (h' p g').2 ⟨s, by rw [inviteesOf_removeInvite, if_neg hne, hs], hmem⟩
    rw [invite_removeInvite, if_pos rfl] at hgone
    cases hgone
  · intro hp q g'
    rw [invite_removeInvite, inviteesOf_removeInvite]
    by_cases hq : q = p
    · subst hq
      rw [if_pos rfl]
      refine iff_of_false (fun h => nomatch h) ?_
      rintro ⟨s, hs, hmem⟩
      by_cases heq : g' = g
      · rw [if_pos heq] at hs
        obtain ⟨s', -, rfl⟩ := map_eq_some_iff.1 hs
        exact absurd hmem (Finset.notMem_erase q s')
      · rw [if_neg heq] at hs
        exact heq (hp g' ((h q g').2 ⟨s, hs, hmem⟩))
    · rw [if_neg hq, h q g']
      by_cases heq : g' = g
      · subst heq
        rw [if_pos rfl]
        constructor
        · rintro ⟨s, hs, hmem⟩
          exact ⟨s.erase p, by rw [hs]; rfl, Finset.mem_erase.2 ⟨hq, hmem⟩⟩
        · rintro ⟨s, hs, hmem⟩
          obtain ⟨s', hs', rfl⟩ := map_eq_some_iff.1 hs
          exact ⟨s', hs', Finset.mem_of_mem_erase hmem⟩
      · rw [if_neg heq]

theorem TwoWay.setGroupInvite_none_iff (h : TwoWay w) :
    TwoWay (w.setGroupInvite p none) ↔ (w.player p).groupInvite = none := by
  constructor
  · intro h'
    cases hp : (w.player p).groupInvite with
    | none => rfl
    | some g =>
      have hgone := (h' p g).2 ((h p g).1 hp)
      rw [setGroupInvite, player_modifyPlayer, if_pos rfl] at hgone
      cases hgone
  · exact fun hp => (quiet_setGroupInvite_none hp).twoWay_iff.2 h

theorem Tidy.removeInvite (h : Tidy w) (g p : Nat) : Tidy (w.removeInvite g p) where
  free g' hg' := by
    have hg : w.nextGroup ≤ g' := (nextGroup_modifyGroup g _).symm.le.trans hg'
    rw [inviteesOf_removeInvite]
    split
    · next heq =>
      rw [← heq, h.free g' hg]
      rfl
    · exact h.free g' hg
  offline q hq := by
    rw [invite_removeInvite]
    split
    · rfl
    · next hne =>
      refine h.offline q ?_
      rw [World.removeInvite, setGroupInvite, player_modifyPlayer, if_neg hne, player_modifyGroup] at hq
      exact hq

/-! ### Deleting a group -/

theorem invite_removeAllInvites (hg : w.group g = some grp) (p : Nat) :
    ((w.removeAllInvites g).player p).groupInvite =
      if p ∈ grp.invitees then none else (w.player p).groupInvite := by
  unfold World.removeAllInvites
  rw [hg]
  dsimp only
  split <;> rfl

theorem online_removeAllInvites (g p : Nat) : ((w.removeAllInvites g).player p).online = (w.player p).online := by
  unfold World.removeAllInvites
  split
  · rfl
  · dsimp only
    split <;> rfl

theorem inviteesOf_removeAllInvites (g g' : Nat) : (w.removeAllInvites g).inviteesOf g' =
    if g' = g then (w.inviteesOf g).map fun _ => ∅ else w.inviteesOf g' := by
  unfold World.removeAllInvites inviteesOf
  cases hg : w.group g with
  | none =>
    dsimp only
    split
    · next h => rw [h, hg]; rfl
    · rfl
  | some grp =>
    rw [group_setGroup]
    split <;> rfl

theorem nextGroup_removeAllInvites (g : Nat) : (w.removeAllInvites g).nextGroup = w.nextGroup := by
  unfold World.removeAllInvites
  split <;> rfl

theorem inviteesOf_deleteGroup (g g' : Nat) :
    (w.deleteGroup g).inviteesOf g' = if g' = g then none else w.inviteesOf g' := by
  change Option.map _ (update w.group g none g') = _
  rw [update_apply]
  split <;> rfl

theorem TwoWay.removeAllInvites (h : TwoWay w) (g : Nat) : TwoWay (w.removeAllInvites g) := by
  cases hg : w.group g with
  | none =>
    unfold World.removeAllInvites
    rw [hg]
    exact h
  | some grp =>
    refine h.clear hg (invite_removeAllInvites hg) (fun g' hne => ?_) fun s hs => ?_
    · rw [inviteesOf_removeAllInvites, if_neg hne]
    · rw [inviteesOf_removeAllInvites, if_pos rfl, map_eq_some_iff] at hs
      obtain ⟨-, -, rfl⟩ := hs
      rfl

theorem Tidy.removeAllInvites (h : Tidy w) (g : Nat) : Tidy (w.removeAllInvites g) where
  free g' hg' := by
    rw [nextGroup_removeAllInvites] at hg'
    rw [inviteesOf_removeAllInvites]
    split
    · next heq =>
      rw [← heq, h.free g' hg']
      rfl
    · exact h.free g' hg'
  offline p hp := by
    rw [online_removeAllInvites] at hp
    have hnone := h.offline p hp
    cases hg : w.group g with
    | none =>
      unfold World.removeAllInvites
      rw [hg]
      exact hnone
    | some grp =>
      rw [invite_removeAllInvites hg]
      split
      · rfl
      · exact hnone

theorem TwoWay.deleteGroup (h : TwoWay w) (hempty : ∀ s, w.inviteesOf g = some s → s = ∅) :
    TwoWay (w.deleteGroup g) := by
  intro p g'
  rw [inviteesOf_deleteGroup]
  by_cases heq : g' = g
  · subst heq
    rw [if_pos rfl]
    refine iff_of_false (fun hinvite => ?_) fun ⟨s, hs, _⟩ => nomatch hs
    obtain ⟨s, hs, hmem⟩ := (h p g').1 hinvite
    rw [hempty s hs] at hmem
    exact absurd hmem (Finset.notMem_empty p)
  · rw [if_neg heq]
    exact h p g'

theorem Tidy.deleteGroup (h : Tidy w) (g : Nat) : Tidy (w.deleteGroup g) where
  free g' hg' := by
    rw [inviteesOf_deleteGroup]
    split
    · rfl
    · exact h.free g' hg'
  offline := h.offline

theorem empty_removeAllInvites (g : Nat) : ∀ s, (w.removeAllInvites g).inviteesOf g = some s → s = ∅ := by
  intro s hs
  rw [inviteesOf_removeAllInvites, if_pos rfl, map_eq_some_iff] at hs
  obtain ⟨-, -, rfl⟩ := hs
  rfl

theorem disband_kept (h : TwoWay w ∧ Tidy w) (g : Nat) : TwoWay (w.disband g) ∧ Tidy (w.disband g) := by
  unfold disband
  cases hg : w.group g with
  | none => exact h
  | some grp =>
    dsimp only
    obtain ⟨hquiet, -⟩ := quiet_foldl_unlinkMember g grp.isBGGroup grp.memberSlots w
    generalize grp.memberSlots.foldl (fun w s => w.unlinkMember s.guid g grp.isBGGroup) w = w₁ at hquiet ⊢
    have htwo := (hquiet.twoWay_iff.2 h.1).removeAllInvites g
    have htidy := (hquiet.tidy h.2).removeAllInvites g
    have hempty := empty_removeAllInvites (w := w₁) g
    generalize w₁.removeAllInvites g = w₂ at htwo htidy hempty ⊢
    split
    · exact ⟨htwo.deleteGroup hempty, htidy.deleteGroup g⟩
    · have hstored : Quiet w₂ ((w₂.setDb (w₂.db.deleteGroup grp.dbStoreId)).freeGroupDbStoreId grp.dbStoreId) :=
        ⟨fun _ => rfl, fun _ => rfl, fun _ => rfl, rfl⟩
      exact ⟨(hstored.twoWay_iff.2 htwo).deleteGroup hempty, (hstored.tidy htidy).deleteGroup g⟩

theorem disbandIfSmall_kept (h : TwoWay w ∧ Tidy w) (g least : Nat) :
    TwoWay (w.disbandIfSmall g least) ∧ Tidy (w.disbandIfSmall g least) := by
  unfold disbandIfSmall
  split
  · exact disband_kept h g
  · exact h

/-- Pointers and lists of invitees agree where neither is touched. -/
theorem Quiet.kept {w' : World} (hquiet : Quiet w w') (h : TwoWay w ∧ Tidy w) : TwoWay w' ∧ Tidy w' :=
  ⟨hquiet.twoWay_iff.2 h.1, hquiet.tidy h.2⟩

theorem removeMember_kept (h : TwoWay w ∧ Tidy w) (g guid : Nat) :
    TwoWay (w.removeMember g guid) ∧ Tidy (w.removeMember g guid) := by
  unfold removeMember
  cases hg : w.group g with
  | none => exact h
  | some grp =>
    dsimp only
    split
    · exact disbandIfSmall_kept (((quiet_takeOut hg guid).trans (quiet_pickLeader g guid)).kept h) _ _
    · exact disband_kept h g

theorem removeInvite_kept (h : TwoWay w ∧ Tidy w) (hp : ∀ g', (w.player p).groupInvite = some g' → g' = g) :
    TwoWay (w.removeInvite g p) ∧ Tidy (w.removeInvite g p) :=
  ⟨h.1.removeInvite_iff.2 hp, h.2.removeInvite g p⟩

theorem uninviteFromGroup_kept (h : TwoWay w ∧ Tidy w) (p : Nat) :
    TwoWay (w.uninviteFromGroup p) ∧ Tidy (w.uninviteFromGroup p) := by
  unfold uninviteFromGroup
  cases hp : (w.player p).groupInvite with
  | none => exact h
  | some g =>
    have hremoved := removeInvite_kept (g := g) (p := p) h fun g' hg' => some.inj (hg'.symm.trans hp)
    dsimp only
    generalize w.removeInvite g p = w' at hremoved ⊢
    split
    · exact hremoved
    · split
      · split
        · exact disband_kept hremoved g
        · exact ⟨(hremoved.1.removeAllInvites g).deleteGroup (empty_removeAllInvites g),
            (hremoved.2.removeAllInvites g).deleteGroup g⟩
      · exact hremoved

/-! ### Inviting -/

theorem group_none_of_free (h : Tidy w) : w.group w.nextGroup = none := map_eq_none_iff.1 (h.free _ le_rfl)

theorem newGroup_kept (h : TwoWay w ∧ Tidy w) (bgGroup : Option Nat) :
    TwoWay (w.newGroup bgGroup) ∧ Tidy (w.newGroup bgGroup) := by
  have hinvitees (g' : Nat) : (w.newGroup bgGroup).inviteesOf g' =
      if g' = w.nextGroup then some ∅ else w.inviteesOf g' := by
    change Option.map _ ((w.setGroup w.nextGroup { bgGroup := bgGroup }).group g') = _
    rw [group_setGroup]
    split <;> rfl
  constructor
  · intro p g'
    rw [hinvitees]
    by_cases heq : g' = w.nextGroup
    · rw [if_pos heq]
      refine iff_of_false (fun hinvite => ?_) ?_
      · obtain ⟨s, hs, -⟩ := (h.1 p g').1 hinvite
        rw [heq, h.2.free _ le_rfl] at hs
        cases hs
      · rintro ⟨s, hs, hmem⟩
        rw [← some.inj hs] at hmem
        exact absurd hmem (Finset.notMem_empty p)
    · rw [if_neg heq]
      exact h.1 p g'
  · refine ⟨fun g' hg' => ?_, h.2.offline⟩
    have hlt : w.nextGroup < g' := hg'
    rw [hinvitees, if_neg hlt.ne']
    exact h.2.free g' hlt.le

theorem addInvite_of_refused (h : (w.player p).groupInvite ≠ none ∨ w.ordinaryGroup p ≠ none) :
    w.addInvite g p = (w, false) := by
  unfold addInvite
  rw [if_pos]
  rcases h with h | h
  · rw [isSome_iff_ne_none.2 h]
    rfl
  · rw [isSome_iff_ne_none.2 h, Bool.or_true]

theorem addInvite_accepted (hinvite : (w.player p).groupInvite = none) (hgroup : w.ordinaryGroup p = none) :
    ∃ w', w.addInvite g p = (w', true) ∧
      (∀ q, (w'.player q).groupInvite = if q = p then some g else (w.player q).groupInvite) ∧
      (∀ g', w'.inviteesOf g' = if g' = g then (w.inviteesOf g).map (insert p) else w.inviteesOf g') ∧
      (∀ q, (w'.player q).online = (w.player q).online) ∧ w'.nextGroup = w.nextGroup := by
  refine ⟨_, by unfold addInvite; rw [hinvite, hgroup]; rfl, fun q => ?_, fun g' => ?_, fun q => ?_, ?_⟩
  · rw [setGroupInvite, player_modifyPlayer, player_modifyGroup]
    split
    · rfl
    · next hne => rw [invite_removeInvite, if_neg hne]
  · change inviteesOf (modifyGroup _ g _) g' = _
    rw [inviteesOf_modifyGroup, inviteesOf_removeInvite]
    by_cases heq : g' = g
    · rw [if_pos heq, if_pos heq]
      have herased := inviteesOf_removeInvite (w := w) g p g
      rw [if_pos rfl] at herased
      unfold inviteesOf at herased ⊢
      cases hold : w.group g with
      | none =>
        rw [hold, map_none, map_none, map_eq_none_iff] at herased
        rw [herased]
        rfl
      | some grp =>
        rw [hold, map_some, map_some, map_eq_some_iff] at herased
        obtain ⟨grp', hgrp', herase⟩ := herased
        rw [hgrp']
        change some (insert p grp'.invitees) = some (insert p grp.invitees)
        rw [herase]
        refine congrArg some (Finset.ext fun q => ?_)
        by_cases hq : q = p <;> simp [hq]
    · rw [if_neg heq, if_neg heq, if_neg heq]
  · rw [setGroupInvite, player_modifyPlayer, player_modifyGroup]
    split
    · next heq =>
      rw [heq, World.removeInvite, setGroupInvite, player_modifyPlayer, if_pos rfl, player_modifyGroup]
    · next hne =>
      rw [World.removeInvite, setGroupInvite, player_modifyPlayer, if_neg hne, player_modifyGroup]
  · exact (nextGroup_modifyGroup g _).trans (nextGroup_modifyGroup g _)

theorem addInvite_kept (h : TwoWay w ∧ Tidy w) (hg : w.group g = some grp) (honline : (w.player p).online = true) :
    TwoWay (w.addInvite g p).1 ∧ Tidy (w.addInvite g p).1 := by
  by_cases hrefused : (w.player p).groupInvite ≠ none ∨ w.ordinaryGroup p ≠ none
  · rw [addInvite_of_refused hrefused]
    exact h
  push Not at hrefused
  obtain ⟨w', heq, hinvite, hinvitees, honl, hnext⟩ := addInvite_accepted (g := g) hrefused.1 hrefused.2
  rw [heq]
  have hlist : w.inviteesOf g = some grp.invitees := by rw [inviteesOf, hg]; rfl
  refine ⟨fun q g' => ?_, fun g' hg' => ?_, fun q hq => ?_⟩
  · rw [hinvite, hinvitees]
    by_cases hgg : g' = g
    · subst hgg
      rw [if_pos rfl, hlist]
      by_cases hq : q = p
      · subst hq
        rw [if_pos rfl]
        exact iff_of_true rfl ⟨_, rfl, Finset.mem_insert_self q _⟩
      · rw [if_neg hq, h.1 q g', hlist]
        constructor
        · rintro ⟨s, hs, hmem⟩
          rw [← some.inj hs] at hmem
          exact ⟨_, rfl, Finset.mem_insert_of_mem hmem⟩
        · rintro ⟨s, hs, hmem⟩
          rw [← some.inj hs] at hmem
          exact ⟨_, rfl, Finset.mem_of_mem_insert_of_ne hmem hq⟩
    · rw [if_neg hgg]
      by_cases hq : q = p
      · subst hq
        rw [if_pos rfl]
        refine iff_of_false (fun h => hgg (some.inj h).symm) fun hex => ?_
        have := (h.1 q g').2 hex
        rw [hrefused.1] at this
        cases this
      · rw [if_neg hq]
        exact h.1 q g'
  · dsimp only at hg'
    rw [hnext] at hg'
    have hfree := h.2.free g' hg'
    rw [hinvitees]
    split
    · next heq' =>
      rw [← heq', hfree]
      rfl
    · exact hfree
  · dsimp only at hq ⊢
    rw [honl] at hq
    rw [hinvite]
    split
    · next heq' =>
      rw [heq', honline] at hq
      cases hq
    · exact h.2.offline q hq

/-! ### A new group -/

theorem ordinaryGroup_congr {w' : World} (hgroup : (w'.player p).group = (w.player p).group)
    (horiginal : (w'.player p).originalGroup = (w.player p).originalGroup)
    (hbg : ∀ g, (w'.group g).any (·.isBGGroup) = (w.group g).any (·.isBGGroup)) :
    w'.ordinaryGroup p = w.ordinaryGroup p := by
  unfold ordinaryGroup
  rw [hgroup, horiginal]
  simp only [hbg]

variable (f : Group → Group)

theorem any_isBGGroup_modifyGroup (hf : ∀ grp, (f grp).bgGroup = grp.bgGroup) (g g' : Nat) :
    ((w.modifyGroup g f).group g').any (·.isBGGroup) = (w.group g').any (·.isBGGroup) := by
  unfold modifyGroup
  cases hg : w.group g with
  | none => rfl
  | some grp =>
    rw [group_setGroup]
    split
    · next h => rw [h, hg, any_some, any_some, Group.isBGGroup, Group.isBGGroup, hf]
    · rfl

theorem ordinaryGroup_modifyGroup (hf : ∀ grp, (f grp).bgGroup = grp.bgGroup) (g q : Nat) :
    (w.modifyGroup g f).ordinaryGroup q = w.ordinaryGroup q :=
  ordinaryGroup_congr (by rw [player_modifyGroup]) (by rw [player_modifyGroup]) (any_isBGGroup_modifyGroup f hf g)

theorem ordinaryGroup_setGroupInvite (i : Option Nat) (q : Nat) :
    (w.setGroupInvite p i).ordinaryGroup q = w.ordinaryGroup q := by
  have hplayer := player_modifyPlayer (w := w) p q ({ · with groupInvite := i })
  refine ordinaryGroup_congr ?_ ?_ fun _ => rfl <;> rw [setGroupInvite, hplayer] <;> split
  · next h => rw [h]
  · rfl
  · next h => rw [h]
  · rfl

theorem ordinaryGroup_addInvite (g p q : Nat) : (w.addInvite g p).1.ordinaryGroup q = w.ordinaryGroup q := by
  unfold addInvite
  split
  · rfl
  · dsimp only
    rw [ordinaryGroup_setGroupInvite, ordinaryGroup_modifyGroup (·.insertInvitee p) fun _ => rfl,
      World.removeInvite, ordinaryGroup_setGroupInvite, ordinaryGroup_modifyGroup (·.eraseInvitee p) fun _ => rfl]

theorem ordinaryGroup_newGroup (h : Tidy w) (q : Nat) : (w.newGroup none).ordinaryGroup q = w.ordinaryGroup q := by
  refine ordinaryGroup_congr rfl rfl fun g => ?_
  change ((w.setGroup w.nextGroup { bgGroup := none }).group g).any _ = _
  rw [group_setGroup]
  split
  · next heq =>
    rw [heq, group_none_of_free h]
    rfl
  · rfl

theorem group_newGroup (w : World) (bgGroup : Option Nat) :
    (w.newGroup bgGroup).group w.nextGroup = some { bgGroup := bgGroup } := by
  change (w.setGroup w.nextGroup { bgGroup := bgGroup }).group w.nextGroup = _
  rw [group_setGroup, if_pos rfl]

theorem quiet_modifyGroup (hf : ∀ grp, (f grp).invitees = grp.invitees) (g : Nat) :
    Quiet w (w.modifyGroup g f) := by
  unfold modifyGroup
  cases hg : w.group g with
  | none => exact .refl w
  | some grp => exact quiet_setGroup hg (hf grp)

section

variable (h : TwoWay w ∧ Tidy w)
include h

theorem inviteToNewGroup_refused (hp : (w.player p).groupInvite ≠ none) (target : Nat) :
    TwoWay (w.inviteToNewGroup p target) ∧ Tidy (w.inviteToNewGroup p target) := by
  have hnew := newGroup_kept h none
  have hempty (s : Finset Nat) (hs : (w.newGroup none).inviteesOf w.nextGroup = some s) : s = ∅ := by
    rw [inviteesOf, group_newGroup] at hs
    exact (some.inj hs).symm
  have hrefused : (w.newGroup none).addLeaderInvite w.nextGroup p = (w.newGroup none, false) := by
    have hinvite : (w.newGroup none).addInvite w.nextGroup p = (w.newGroup none, false) :=
      addInvite_of_refused (.inl hp)
    unfold addLeaderInvite
    rw [hinvite]
    rfl
  unfold inviteToNewGroup
  dsimp only
  rw [hrefused]
  exact ⟨hnew.1.deleteGroup hempty, hnew.2.deleteGroup _⟩

theorem addLeaderInvite_newGroup (honline : (w.player p).online = true)
    (hinvite : (w.player p).groupInvite = none) (hgroup : w.ordinaryGroup p = none) :
    ∃ w', (w.newGroup none).addLeaderInvite w.nextGroup p = (w', true) ∧ (TwoWay w' ∧ Tidy w') ∧
      (∀ q, (w'.player q).groupInvite = if q = p then some w.nextGroup else (w.player q).groupInvite) ∧
      (∀ q, w'.ordinaryGroup q = w.ordinaryGroup q) ∧ (∀ q, (w'.player q).online = (w.player q).online) ∧
      ∃ grp, w'.group w.nextGroup = some grp := by
  have hnew := newGroup_kept h none
  have hgroup' : (w.newGroup none).ordinaryGroup p = none := (ordinaryGroup_newGroup h.2 p).trans hgroup
  obtain ⟨w₁, heq, hinv, hinvitees, honl, -⟩ := addInvite_accepted (g := w.nextGroup)
    (show ((w.newGroup none).player p).groupInvite = none from hinvite) hgroup'
  have hkept := addInvite_kept hnew (group_newGroup w none) (show ((w.newGroup none).player p).online = true from honline)
  have hordinary (q : Nat) : w₁.ordinaryGroup q = w.ordinaryGroup q := by
    have := ordinaryGroup_addInvite (w := w.newGroup none) w.nextGroup p q
    rw [heq, ordinaryGroup_newGroup h.2] at this
    exact this
  rw [heq] at hkept
  have hquiet : Quiet w₁ (w₁.modifyGroup w.nextGroup (·.setLeader p)) :=
    quiet_modifyGroup (·.setLeader p) (fun _ => rfl) w.nextGroup
  refine ⟨w₁.modifyGroup w.nextGroup (·.setLeader p), ?_, hquiet.kept hkept, fun q => ?_, fun q => ?_,
    fun q => ?_, ?_⟩
  · unfold addLeaderInvite
    rw [heq]
    rfl
  · exact (hquiet.invite q).trans (hinv q)
  · exact (ordinaryGroup_modifyGroup (·.setLeader p) (fun _ => rfl) w.nextGroup q).trans (hordinary q)
  · exact (hquiet.online q).trans (honl q)
  · have hexists : (w₁.modifyGroup w.nextGroup (·.setLeader p)).inviteesOf w.nextGroup ≠ none := by
      rw [hquiet.invitees, hinvitees, if_pos rfl, inviteesOf, group_newGroup]
      exact some_ne_none _
    exact ne_none_iff_exists'.1 fun hnone => hexists (by rw [inviteesOf, hnone]; rfl)

theorem inviteToNewGroup_self (honline : (w.player p).online = true)
    (hinvite : (w.player p).groupInvite = none) (hgroup : w.ordinaryGroup p = none) :
    ¬ TwoWay (w.inviteToNewGroup p p) ∧ Tidy (w.inviteToNewGroup p p) := by
  obtain ⟨w', heq, hkept, hinv, -, -, -⟩ := addLeaderInvite_newGroup h honline hinvite hgroup
  have hself : (w'.player p).groupInvite = some w.nextGroup := by rw [hinv, if_pos rfl]
  have hrefused : w'.addInvite w.nextGroup p = (w', false) :=
    addInvite_of_refused (.inl (by rw [hself]; exact some_ne_none _))
  unfold inviteToNewGroup
  dsimp only
  rw [heq, hrefused]
  refine ⟨fun htwo => ?_, hkept.2.deleteGroup _⟩
  obtain ⟨s, hs, -⟩ := (htwo p w.nextGroup).1 hself
  change (w'.deleteGroup w.nextGroup).inviteesOf w.nextGroup = some s at hs
  rw [inviteesOf_deleteGroup, if_pos rfl] at hs
  cases hs

theorem inviteToNewGroup_kept {target : Nat} (hne : target ≠ p)
    (honline : (w.player p).online = true) (honline' : (w.player target).online = true)
    (hinvite : (w.player p).groupInvite = none) (hgroup : w.ordinaryGroup p = none)
    (hinvite' : (w.player target).groupInvite = none) (hgroup' : w.ordinaryGroup target = none) :
    TwoWay (w.inviteToNewGroup p target) ∧ Tidy (w.inviteToNewGroup p target) := by
  obtain ⟨w', heq, hkept, hinv, hordinary, honl, grp, hg⟩ := addLeaderInvite_newGroup h honline hinvite hgroup
  obtain ⟨w'', heq', -⟩ := addInvite_accepted (w := w') (g := w.nextGroup) (p := target)
    (by rw [hinv, if_neg hne, hinvite']) ((hordinary target).trans hgroup')
  have hboth := addInvite_kept hkept hg ((honl target).trans honline')
  unfold inviteToNewGroup
  dsimp only
  rw [heq]
  rw [heq'] at hboth ⊢
  exact hboth

end

/-! ### Becoming a member -/

theorem Tidy.setGroupInvite_none (h : Tidy w) (p : Nat) : Tidy (w.setGroupInvite p none) where
  free := h.free
  offline q hq := by
    rw [setGroupInvite, player_modifyPlayer] at hq ⊢
    split
    · rfl
    · next hne =>
      rw [if_neg hne] at hq
      exact h.offline q hq

theorem quiet_placeMember_forgets (hg : w.group g = some grp) (p : Nat) (subgroup : Fin maxRaidSubgroups) :
    Quiet (w.setGroupInvite p none) (w.placeMember g p grp subgroup) := by
  have hpushed : Quiet (w.setGroupInvite p none)
      ((w.setGroup g (grp.pushSlot (Group.newSlot p subgroup))).setGroupInvite p none) :=
    quiet_setGroup (show (w.setGroupInvite p none).group g = some grp from hg) rfl
  have hlinked := hpushed.trans (quiet_linkMember p g grp.isBGGroup)
  unfold placeMember
  split
  · exact hlinked
  · exact hlinked.trans (quiet_setDb _ _)

theorem addMember_spec (h : TwoWay w ∧ Tidy w) (hg : w.group g = some grp) (p : Nat) :
    (TwoWay (w.addMember g p).1 ↔ grp.firstSubGroup = none ∨ (w.player p).groupInvite = none) ∧
      Tidy (w.addMember g p).1 := by
  unfold addMember
  rw [hg]
  dsimp only
  cases hsub : grp.firstSubGroup with
  | none => exact ⟨iff_of_true h.1 (.inl rfl), h.2⟩
  | some subgroup =>
    have hquiet := quiet_placeMember_forgets hg p subgroup
    refine ⟨?_, hquiet.tidy (h.2.setGroupInvite_none p)⟩
    have hnot : some subgroup ≠ none := some_ne_none subgroup
    exact (hquiet.twoWay_iff.trans h.1.setGroupInvite_none_iff).trans (or_iff_right hnot).symm

theorem create_bgRaid_spec (h : TwoWay w ∧ Tidy w) {k : Nat} (hg : w.group g = some { bgGroup := some k }) (p : Nat) :
    (TwoWay (w.create g p) ↔ (w.player p).groupInvite = none) ∧ Tidy (w.create g p) := by
  have hset : Quiet w (w.setGroup g ({ bgGroup := some k : Group }.setUp p)) := quiet_setGroup hg rfl
  have hadd := addMember_spec (hset.kept h)
    (show (w.setGroup g ({ bgGroup := some k : Group }.setUp p)).group g = _ by rw [group_setGroup, if_pos rfl]) p
  have hsub : ({ bgGroup := some k : Group }.setUp p).firstSubGroup = some 0 := rfl
  have hnot : ¬ ({ bgGroup := some k : Group }.setUp p).firstSubGroup = none := by
    exact some_ne_none _
  have hcreate : w.create g p = ((w.setGroup g ({ bgGroup := some k : Group }.setUp p)).addMember g p).1 := by
    unfold create
    rw [hg]
    rfl
  rw [hcreate]
  exact ⟨hadd.1.trans (or_iff_right hnot), hadd.2⟩

/-! ### Who is not invited stays so -/

section

variable (h : (w.player p).groupInvite = none)
include h

theorem invite_none_removeAllInvites (g : Nat) : ((w.removeAllInvites g).player p).groupInvite = none := by
  cases hg : w.group g with
  | none =>
    unfold World.removeAllInvites
    rw [hg]
    exact h
  | some grp =>
    rw [invite_removeAllInvites hg]
    split
    · rfl
    · exact h

theorem invite_none_disband (g : Nat) : ((w.disband g).player p).groupInvite = none := by
  unfold disband
  cases hg : w.group g with
  | none => exact h
  | some grp =>
    obtain ⟨hquiet, -⟩ := quiet_foldl_unlinkMember g grp.isBGGroup grp.memberSlots w
    have hnone := invite_none_removeAllInvites ((hquiet.invite p).trans h) g
    dsimp only
    split
    · exact hnone
    · exact hnone

theorem invite_none_removeMember (g guid : Nat) : ((w.removeMember g guid).player p).groupInvite = none := by
  unfold removeMember
  cases hg : w.group g with
  | none => exact h
  | some grp =>
    dsimp only
    split
    · have hnone := (((quiet_takeOut hg guid).trans (quiet_pickLeader g guid)).invite p).trans h
      unfold disbandIfSmall
      split
      · exact invite_none_disband hnone g
      · exact hnone
    · exact invite_none_disband h g

end

theorem invite_none_uninviteFromGroup (p : Nat) : ((w.uninviteFromGroup p).player p).groupInvite = none := by
  unfold uninviteFromGroup
  cases hp : (w.player p).groupInvite with
  | none => exact hp
  | some g =>
    have hnone : ((w.removeInvite g p).player p).groupInvite = none := by rw [invite_removeInvite, if_pos rfl]
    dsimp only
    generalize w.removeInvite g p = w' at hnone ⊢
    split
    · exact hnone
    · split
      · split
        · exact invite_none_disband hnone g
        · exact invite_none_removeAllInvites hnone g
      · exact hnone

end Invitations

end Axium.Groups
