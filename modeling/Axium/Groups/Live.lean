import Axium.Groups.GroupMgr
import Axium.Groups.Invitations
import Axium.Groups.Members

/-!
# Groups in memory

In every state the groups are sound, a reference of a player leads to a group of which he is a member while he is
online, and the raids of battlegrounds are what the battlegrounds refer to. Leadership and the least size of a party
are kept apart: while a member is taken out they do not hold.
-/

namespace Axium.Groups

open List Option

def Group.ordinary (grp : Group) : Bool := !grp.isBGGroup && grp.isCreated

def World.Refers (w : World) (p g : Nat) : Prop :=
  (w.player p).group = some g ∨ (w.player p).originalGroup = some g

/-- Groups are sound, their members exist, and who points to a group is one of its members. -/
structure Live (w : World) : Prop where
  sound : ∀ g grp, w.group g = some grp → grp.Sound
  exist : ∀ g grp, w.group g = some grp → ∀ p ∈ grp.members, p ∈ w.guids
  free : ∀ g, w.nextGroup ≤ g → w.group g = none
  linked : ∀ p g, w.Refers p g → w.findPlayer p = true ∧ ∃ grp, w.group g = some grp ∧ p ∈ grp.members
  raids : ∀ k g, w.bgRaid k = some g → ∃ grp, w.group g = some grp ∧ grp.isBGGroup = true

section Live

variable {w : World} {g p : Nat} {grp grp' : Group}

theorem isCreated_iff : grp.isCreated = true ↔ grp.members ≠ [] := by
  unfold Group.isCreated Group.members
  rw [decide_eq_true_iff, length_pos_iff]
  simp

theorem Group.Led.isCreated (h : grp.Led) : grp.isCreated = true := isCreated_iff.2 (ne_nil_of_mem h)

theorem Live.of_eq {w' : World} (h : Live w) (hguids : w'.guids = w.guids)
    (hplayer : ∀ q, (w'.player q).online = (w.player q).online ∧ ∀ g, w'.Refers q g → w.Refers q g)
    (hgroup : w'.group = w.group) (hnext : w'.nextGroup = w.nextGroup) (hraid : w'.bgRaid = w.bgRaid) : Live w' where
  sound g grp hg := h.sound g grp (hgroup ▸ hg)
  exist g grp hg p hp := hguids ▸ h.exist g grp (hgroup ▸ hg) p hp
  free g hg := by
    rw [hgroup]
    exact h.free g (hnext ▸ hg)
  linked q g hq := by
    obtain ⟨hfind, grp, hgrp, hmem⟩ := h.linked q g ((hplayer q).2 g hq)
    refine ⟨?_, grp, hgroup ▸ hgrp, hmem⟩
    rw [World.findPlayer, hguids, (hplayer q).1]
    exact hfind
  raids k g hk := by
    rw [hgroup]
    exact h.raids k g (hraid ▸ hk)

/-! ### Writes to a group -/

theorem Live.setGroup (h : Live w) (hg : w.group g = some grp) (hsound : grp'.Sound)
    (hmembers : grp'.members = grp.members) (hbg : grp'.isBGGroup = grp.isBGGroup) : Live (w.setGroup g grp') where
  sound g' x hx := by
    rw [group_setGroup] at hx
    split at hx
    · exact some.inj hx ▸ hsound
    · exact h.sound g' x hx
  exist g' x hx p hp := by
    rw [group_setGroup] at hx
    split at hx
    · rw [← some.inj hx, hmembers] at hp
      exact h.exist g grp hg p hp
    · exact h.exist g' x hx p hp
  free g' hg' := by
    rw [group_setGroup]
    split
    · next heq =>
      rw [heq] at hg'
      rw [h.free g hg'] at hg
      cases hg
    · exact h.free g' hg'
  linked q g' hq := by
    obtain ⟨hfind, x, hx, hmem⟩ := h.linked q g' hq
    refine ⟨hfind, ?_⟩
    rw [group_setGroup]
    split
    · next heq =>
      rw [heq, hg] at hx
      exact ⟨grp', rfl, by rw [hmembers, some.inj hx]; exact hmem⟩
    · exact ⟨x, hx, hmem⟩
  raids k g' hk := by
    obtain ⟨x, hx, hxbg⟩ := h.raids k g' hk
    rw [group_setGroup]
    split
    · next heq =>
      rw [heq, hg] at hx
      exact ⟨grp', rfl, by rw [hbg, some.inj hx]; exact hxbg⟩
    · exact ⟨x, hx, hxbg⟩

theorem ordinary_eq_of_members (h : grp'.members = grp.members) (hbg : grp'.isBGGroup = grp.isBGGroup) :
    grp'.ordinary = grp.ordinary := by
  rw [Group.ordinary, Group.ordinary, hbg, Group.isCreated_eq_of_members h]

/-- The groups are led by one of their members, and ordinary ones have two: all of them but `x`. -/
structure Standing (w : World) (x : Option Nat) : Prop where
  live : Live w
  led : ∀ g grp, some g ≠ x → w.group g = some grp → grp.Led
  paired : ∀ g grp, some g ≠ x → w.group g = some grp → grp.ordinary = true → 2 ≤ grp.memberSlots.length

variable {x : Option Nat}

theorem Standing.except (h : Standing w none) (x : Option Nat) : Standing w x :=
  ⟨h.live, fun g grp _ => h.led g grp (Option.some_ne_none g), fun g grp _ => h.paired g grp (Option.some_ne_none g)⟩

theorem Standing.restore (h : Standing w (some g)) (hg : w.group g = some grp) (hled : grp.Led)
    (htwo : grp.ordinary = true → 2 ≤ grp.memberSlots.length) : Standing w none := by
  have hcase {P : Group → Prop} (hP : P grp) (hother : ∀ g' y, some g' ≠ some g → w.group g' = some y → P y) :
      ∀ g' y, w.group g' = some y → P y := by
    intro g' y hy
    by_cases heq : g' = g
    · rw [heq, hg] at hy
      exact some.inj hy ▸ hP
    · exact hother g' y (fun h => heq (some.inj h)) hy
  exact ⟨h.live, fun g' y _ => hcase hled h.led g' y, fun g' y _ => hcase htwo h.paired g' y⟩

theorem Standing.of_eq {w' : World} (h : Standing w x) (hguids : w'.guids = w.guids)
    (hplayer : ∀ q, (w'.player q).online = (w.player q).online ∧ ∀ g, w'.Refers q g → w.Refers q g)
    (hgroup : w'.group = w.group) (hnext : w'.nextGroup = w.nextGroup) (hraid : w'.bgRaid = w.bgRaid) :
    Standing w' x where
  live := h.live.of_eq hguids hplayer hgroup hnext hraid
  led g grp hx hg := h.led g grp hx (hgroup ▸ hg)
  paired g grp hx hg := h.paired g grp hx (hgroup ▸ hg)

theorem Standing.of_stored {w' : World} (h : Standing w x) (hguids : w'.guids = w.guids)
    (hplayer : w'.player = w.player) (hgroup : w'.group = w.group) (hnext : w'.nextGroup = w.nextGroup)
    (hraid : w'.bgRaid = w.bgRaid) : Standing w' x :=
  h.of_eq hguids (fun q => ⟨by rw [hplayer], fun g hg => by rwa [World.Refers, hplayer] at hg⟩) hgroup hnext hraid

section

variable (h : Standing w x)
include h

theorem Standing.setDb (db : Database) : Standing (w.setDb db) x := h.of_stored rfl rfl rfl rfl rfl

theorem Standing.setGroup (hg : w.group g = some grp) (hsound : grp'.Sound)
    (hmembers : grp'.members = grp.members) (hbg : grp'.isBGGroup = grp.isBGGroup)
    (hled : grp.Led → grp'.Led) : Standing (w.setGroup g grp') x := by
  refine ⟨h.live.setGroup hg hsound hmembers hbg, fun g' y hx hy => ?_, fun g' y hx hy ho => ?_⟩
  · rw [group_setGroup] at hy
    split at hy
    · next heq =>
      obtain rfl := some.inj hy
      exact hled (h.led g grp (heq ▸ hx) hg)
    · exact h.led g' y hx hy
  · rw [group_setGroup] at hy
    split at hy
    · next heq =>
      obtain rfl := some.inj hy
      rw [Group.length_eq_of_members hmembers]
      exact h.paired g grp (heq ▸ hx) hg (ordinary_eq_of_members hmembers hbg ▸ ho)
    · exact h.paired g' y hx hy ho

theorem Standing.modifyPlayer {f : Player → Player} (honline : (f (w.player p)).online = (w.player p).online)
    (hrefs : ∀ g, (f (w.player p)).group = some g ∨ (f (w.player p)).originalGroup = some g → w.Refers p g) :
    Standing (w.modifyPlayer p f) x := by
  refine h.of_eq rfl (fun q => ?_) rfl rfl rfl
  unfold World.Refers
  rw [player_modifyPlayer]
  split
  · next heq =>
    rw [heq]
    exact ⟨honline, hrefs⟩
  · exact ⟨rfl, fun _ h => h⟩

theorem Standing.setGroupInvite (p : Nat) (i : Option Nat) : Standing (w.setGroupInvite p i) x :=
  h.modifyPlayer rfl fun _ h => h

theorem Standing.removeInvite (g p : Nat) : Standing (w.removeInvite g p) x := by
  refine Standing.setGroupInvite ?_ p none
  unfold World.modifyGroup
  cases hg : w.group g with
  | none => exact h
  | some grp =>
    have hsound := h.live.sound g grp hg
    exact h.setGroup hg (hsound.of_eq rfl rfl rfl rfl rfl) rfl rfl id

theorem Standing.removeAllInvites (g : Nat) : Standing (w.removeAllInvites g) x := by
  unfold World.removeAllInvites
  cases hg : w.group g with
  | none => exact h
  | some grp =>
    have hsound := h.live.sound g grp hg
    have hset : Standing (w.setGroup g { grp with invitees := ∅ }) x :=
      h.setGroup hg (hsound.of_eq rfl rfl rfl rfl rfl) rfl rfl id
    refine hset.of_eq rfl (fun q => ?_) rfl rfl rfl
    unfold World.Refers
    dsimp only
    split
    · exact ⟨rfl, fun _ h => h⟩
    · exact ⟨rfl, fun _ h => h⟩

end

/-! ### Members who leave -/

theorem Standing.unlinkMember (h : Standing w x) (p g : Nat) (bg : Bool) : Standing (w.unlinkMember p g bg) x := by
  unfold World.unlinkMember
  split
  · split
    · refine h.modifyPlayer rfl fun g' hg' => ?_
      rcases hg' with hg' | hg'
      · exact .inr hg'
      · cases hg'
    · refine h.modifyPlayer ?_ fun g' hg' => ?_
      · split <;> rfl
      · split at hg'
        · rcases hg' with hg' | hg'
          · exact .inl hg'
          · cases hg'
        · rcases hg' with hg' | hg'
          · cases hg'
          · exact .inr hg'
  · exact h

theorem Standing.foldl_unlinkMember (g : Nat) (bg : Bool) (l : List MemberSlot) : ∀ {w : World},
    Standing w x → Standing (l.foldl (fun w s => w.unlinkMember s.guid g bg) w) x := by
  induction l with
  | nil => exact fun h => h
  | cons s l ih => exact fun h => ih (h.unlinkMember s.guid g bg)

theorem Standing.delinkMember (h : Standing w x) (p g : Nat) : Standing (w.delinkMember p g) x := by
  refine h.modifyPlayer ?_ fun g' hg' => ?_
  · split
    · rfl
    · split <;> rfl
  · split at hg'
    · rcases hg' with hg' | hg'
      · cases hg'
      · exact .inr hg'
    · split at hg'
      · rcases hg' with hg' | hg'
        · exact .inl hg'
        · cases hg'
      · exact hg'

theorem Standing.deleteGroup (h : Standing w (some g)) : Standing (w.deleteGroup g) none := by
  have hgroup (g' : Nat) : (w.deleteGroup g).group g' = if g' = g then none else w.group g' := Function.update_apply ..
  have hothers {P : Nat → Group → Prop} (hP : ∀ g' y, some g' ≠ some g → w.group g' = some y → P g' y) :
      ∀ g' y, (w.deleteGroup g).group g' = some y → P g' y := by
    intro g' y hy
    rw [hgroup] at hy
    by_cases heq : g' = g
    · rw [if_pos heq] at hy
      cases hy
    · rw [if_neg heq] at hy
      exact hP g' y (fun h => heq (some.inj h)) hy
  have hunref (r : Option Nat) (g' : Nat) (hr : (if r = some g then none else r) = some g') :
      r = some g' ∧ g' ≠ g := by
    by_cases heq : r = some g
    · rw [if_pos heq] at hr
      cases hr
    · rw [if_neg heq] at hr
      exact ⟨hr, fun h => heq (h ▸ hr)⟩
  refine ⟨⟨hothers fun g' y _ => h.live.sound g' y, hothers fun g' y _ => h.live.exist g' y, fun g' hg' => ?_,
    fun q g' hq => ?_, fun k g' hk => ?_⟩, fun g' y _ => hothers h.led g' y, fun g' y _ => hothers h.paired g' y⟩
  · rw [hgroup]
    split
    · rfl
    · exact h.live.free g' hg'
  · have hold : w.Refers q g' ∧ g' ≠ g := by
      rcases hq with hq | hq
      · exact ⟨.inl (hunref _ _ hq).1, (hunref _ _ hq).2⟩
      · exact ⟨.inr (hunref _ _ hq).1, (hunref _ _ hq).2⟩
    obtain ⟨hfind, y, hy, hmem⟩ := h.live.linked q g' hold.1
    exact ⟨hfind, y, by rw [hgroup, if_neg hold.2, hy], hmem⟩
  · obtain ⟨hk', hne⟩ := hunref _ _ hk
    obtain ⟨y, hy, hbg⟩ := h.live.raids k g' hk'
    exact ⟨y, by rw [hgroup, if_neg hne, hy], hbg⟩

theorem Standing.disband (h : Standing w (some g)) : Standing (w.disband g) none := by
  unfold World.disband
  cases hg : w.group g with
  | none =>
    exact ⟨h.live, fun g' y _ hy => h.led g' y (fun heq => by rw [some.inj heq, hg] at hy; cases hy) hy,
      fun g' y _ hy => h.paired g' y (fun heq => by rw [some.inj heq, hg] at hy; cases hy) hy⟩
  | some grp =>
    have hremoved := (Standing.foldl_unlinkMember g grp.isBGGroup grp.memberSlots h).removeAllInvites g
    dsimp only
    generalize (grp.memberSlots.foldl (fun w s => w.unlinkMember s.guid g grp.isBGGroup) w).removeAllInvites g =
      w' at hremoved ⊢
    split
    · exact hremoved.deleteGroup
    · have hfreed : Standing ((w'.setDb (w'.db.deleteGroup grp.dbStoreId)).freeGroupDbStoreId grp.dbStoreId) (some g) :=
        hremoved.of_stored rfl rfl rfl rfl rfl
      exact hfreed.deleteGroup

theorem not_refers_delinkMember (hone : (w.player p).group ≠ some g ∨ (w.player p).originalGroup ≠ some g) :
    ¬ (w.delinkMember p g).Refers p g := by
  have hplayer : (w.delinkMember p g).player p =
      if (w.player p).group = some g then { w.player p with group := none }
      else if (w.player p).originalGroup = some g then { w.player p with originalGroup := none } else w.player p :=
    (player_modifyPlayer p p _).trans (if_pos rfl)
  unfold World.Refers
  rw [hplayer]
  generalize w.player p = c at hone ⊢
  by_cases hgroup : c.group = some g
  · rw [if_pos hgroup]
    rintro (hr | hr)
    · cases hr
    · exact hone.elim (· hgroup) (· hr)
  · rw [if_neg hgroup]
    by_cases horiginal : c.originalGroup = some g
    · rw [if_pos horiginal]
      rintro (hr | hr)
      · exact hgroup hr
      · cases hr
    · rw [if_neg horiginal]
      rintro (hr | hr)
      · exact hgroup hr
      · exact horiginal hr

theorem unlinkMember_one (h : w.findPlayer p = true ∨ ¬ w.Refers p g) (bg : Bool) :
    ((w.unlinkMember p g bg).player p).group ≠ some g ∨
      ((w.unlinkMember p g bg).player p).originalGroup ≠ some g := by
  unfold World.unlinkMember
  split
  · split
    · refine .inr ?_
      rw [World.removeFromBattlegroundRaid, player_modifyPlayer, if_pos rfl]
      exact (nomatch ·)
    · rw [World.unsetGroup, player_modifyPlayer, if_pos rfl]
      split
      · exact .inr (nomatch ·)
      · exact .inl (nomatch ·)
  · next hfind => exact .inl fun hg => h.elim hfind fun hnot => hnot (.inl hg)

theorem Standing.takeOut (h : Standing w none) (hg : w.group g = some grp) (guid : Nat) :
    Standing (w.takeOut g guid grp) (some g) := by
  have hleft : Standing (((w.unlinkMember guid g grp.isBGGroup).setDb (w.db.deleteMember guid)).delinkMember guid g)
      (some g) := (((h.except (some g)).unlinkMember guid g grp.isBGGroup).setDb _).delinkMember guid g
  have hgroup : (((w.unlinkMember guid g grp.isBGGroup).setDb (w.db.deleteMember guid)).delinkMember guid g).group =
      w.group := group_unlinkMember guid g grp.isBGGroup
  have hnot : ¬ (((w.unlinkMember guid g grp.isBGGroup).setDb (w.db.deleteMember guid)).delinkMember guid g).Refers
      guid g := by
    refine not_refers_delinkMember (unlinkMember_one ?_ grp.isBGGroup)
    by_cases hfind : w.findPlayer guid = true
    · exact .inl hfind
    · exact .inr fun hr => hfind (h.live.linked guid g hr).1
  unfold World.takeOut
  generalize ((w.unlinkMember guid g grp.isBGGroup).setDb (w.db.deleteMember guid)).delinkMember guid g = w'
    at hleft hgroup hnot ⊢
  have hg' : w'.group g = some grp := by rw [hgroup, hg]
  have hsound := hleft.live.sound g grp hg'
  have hmembers := Group.members_eraseSlot hsound.nodup guid
  have hbg : (grp.eraseSlot guid).isBGGroup = grp.isBGGroup := by
    unfold Group.eraseSlot
    split <;> rfl
  have hothers {P : Nat → Group → Prop} (hP : ∀ g' y, some g' ≠ some g → w'.group g' = some y → P g' y) :
      ∀ g' y, some g' ≠ some g → (w'.setGroup g (grp.eraseSlot guid)).group g' = some y → P g' y := by
    intro g' y hne hy
    rw [group_setGroup, if_neg fun heq => hne (congrArg some heq)] at hy
    exact hP g' y hne hy
  refine ⟨⟨fun g' y hy => ?_, fun g' y hy p hp => ?_, fun g' hfree => ?_, fun q g' hq => ?_, fun k g' hk => ?_⟩,
    hothers hleft.led, hothers hleft.paired⟩
  · rw [group_setGroup] at hy
    split at hy
    · exact some.inj hy ▸ hsound.eraseSlot guid
    · exact hleft.live.sound g' y hy
  · rw [group_setGroup] at hy
    split at hy
    · rw [← some.inj hy, hmembers] at hp
      exact hleft.live.exist g grp hg' p (mem_of_mem_erase hp)
    · exact hleft.live.exist g' y hy p hp
  · rw [group_setGroup]
    split
    · next heq =>
      rw [heq] at hfree
      rw [hleft.live.free g hfree] at hg'
      cases hg'
    · exact hleft.live.free g' hfree
  · obtain ⟨hfind, y, hy, hmem⟩ := hleft.live.linked q g' hq
    refine ⟨hfind, ?_⟩
    rw [group_setGroup]
    split
    · next heq =>
      subst heq
      rw [hg'] at hy
      obtain rfl := some.inj hy
      refine ⟨_, rfl, ?_⟩
      rw [hmembers]
      refine (mem_erase_of_ne fun hqg => ?_).2 hmem
      rw [hqg] at hq
      exact hnot hq
    · exact ⟨y, hy, hmem⟩
  · obtain ⟨y, hy, hybg⟩ := hleft.live.raids k g' hk
    rw [group_setGroup]
    split
    · next heq =>
      rw [heq, hg'] at hy
      exact ⟨_, rfl, by rw [hbg, some.inj hy]; exact hybg⟩
    · exact ⟨y, hy, hybg⟩

theorem led_of_leader (hmembers : grp'.members = grp.members) (hleader : grp'.leaderGuid = grp.leaderGuid)
    (h : grp.Led) : grp'.Led := by
  rw [Group.Led, hmembers, hleader]
  exact h

/-! ### Leaders -/

theorem changeLeader_group (hg : w.group g = some grp) {guid : Nat} (hmember : guid ∈ grp.members)
    (hfind : w.findPlayer guid = true) :
    (w.changeLeader g guid).group g = some ((grp.setLeader guid).toggleGroupMemberFlag guid .assistant false) := by
  unfold World.changeLeader
  rw [hg]
  dsimp only
  rw [if_pos (by rw [Group.isMember_iff.2 hmember, hfind]; rfl), group_setGroup, if_pos rfl]

theorem player_changeLeader (g guid : Nat) :
    (w.changeLeader g guid).player = w.player ∧ (w.changeLeader g guid).guids = w.guids := by
  unfold World.changeLeader
  split
  · exact ⟨rfl, rfl⟩
  · split
    · dsimp only
      split <;> exact ⟨rfl, rfl⟩
    · exact ⟨rfl, rfl⟩

theorem Standing.changeLeader (h : Standing w x) (g guid : Nat) : Standing (w.changeLeader g guid) x := by
  unfold World.changeLeader
  cases hg : w.group g with
  | none => exact h
  | some grp =>
    dsimp only
    by_cases hcheck : (grp.isMember guid && w.findPlayer guid) = true
    · rw [if_pos hcheck]
      have hmember := Group.isMember_iff.1 (Bool.and_eq_true_iff.1 hcheck).1
      have hsound : (grp.setLeader guid).Sound := (h.live.sound g grp hg).of_eq rfl rfl rfl rfl rfl
      have hmembers := Group.members_toggleGroupMemberFlag (grp.setLeader guid) guid .assistant false
      have hled : ((grp.setLeader guid).toggleGroupMemberFlag guid .assistant false).Led := by
        rw [Group.Led, hmembers]
        exact hmember
      split
      · exact h.setGroup hg (hsound.toggleGroupMemberFlag _ _ _) hmembers rfl fun _ => hled
      · exact (h.setDb _).setGroup hg (hsound.toggleGroupMemberFlag _ _ _) hmembers rfl fun _ => hled
    · rw [if_neg hcheck]
      exact h

theorem Standing.pickLeader (h : Standing w (some g)) (hg : w.group g = some grp) (guid : Nat) :
    Standing (w.pickLeader g guid) (some g) ∧ (w.pickLeader g guid).player = w.player ∧
      (w.pickLeader g guid).guids = w.guids ∧
      ∃ grp', (w.pickLeader g guid).group g = some grp' ∧ grp'.members = grp.members ∧
        grp'.isBGGroup = grp.isBGGroup ∧ ((grp.leaderGuid ≠ guid → grp.Led) →
          (∃ p ∈ grp.members, w.findPlayer p = true) → grp'.Led) := by
  unfold World.pickLeader
  rw [hg]
  dsimp only
  by_cases hleader : grp.leaderGuid = guid
  · rw [if_pos hleader]
    cases hnew : w.newLeader grp with
    | none =>
      refine ⟨h, rfl, rfl, grp, hg, rfl, rfl, fun _ ⟨p, hp, hfind⟩ => ?_⟩
      obtain ⟨s, hs, rfl⟩ := Group.mem_members_iff.1 hp
      exact absurd hfind (find?_eq_none.1 hnew s hs)
    | some s =>
      have hmember : s.guid ∈ grp.members := mem_map_of_mem (mem_of_find?_eq_some hnew)
      have hfind : w.findPlayer s.guid = true :=
        find?_some (p := fun s : MemberSlot => w.findPlayer s.guid) hnew
      have hmembers := Group.members_toggleGroupMemberFlag (grp.setLeader s.guid) s.guid .assistant false
      refine ⟨h.changeLeader g s.guid, (player_changeLeader g s.guid).1, (player_changeLeader g s.guid).2, _,
        changeLeader_group hg hmember hfind, hmembers, rfl, fun _ _ => ?_⟩
      rw [Group.Led, hmembers]
      exact hmember
  · rw [if_neg hleader]
    exact ⟨h, rfl, rfl, grp, hg, rfl, rfl, fun hled _ => hled hleader⟩

theorem exists_refers_of_getSize (h : 0 < w.getSize g) : ∃ q, w.Refers q g := by
  rcases Nat.add_pos_iff_pos_or_pos.1 h with h | h
  · obtain ⟨q, hq⟩ := Finset.card_pos.1 h
    exact ⟨q, .inl (Finset.mem_filter.1 hq).2⟩
  · obtain ⟨q, hq⟩ := Finset.card_pos.1 h
    exact ⟨q, .inr (Finset.mem_filter.1 hq).2⟩

theorem leastSize_pos (grp : Group) : 0 < grp.leastSize := by
  unfold Group.leastSize
  split <;> decide

theorem group_takeOut (w : World) (g guid : Nat) (grp : Group) :
    (w.takeOut g guid grp).group g = some (grp.eraseSlot guid) := by
  unfold World.takeOut
  rw [group_setGroup, if_pos rfl]

theorem leader_eraseSlot (grp : Group) (guid : Nat) : (grp.eraseSlot guid).leaderGuid = grp.leaderGuid := by
  unfold Group.eraseSlot
  split <;> rfl

theorem isBGGroup_eraseSlot (grp : Group) (guid : Nat) : (grp.eraseSlot guid).isBGGroup = grp.isBGGroup := by
  unfold Group.eraseSlot
  split <;> rfl

theorem length_eraseSlot (hnodup : grp.members.Nodup) (guid : Nat) :
    grp.memberSlots.length ≤ (grp.eraseSlot guid).memberSlots.length + 1 := by
  have hmembers := congrArg length (Group.members_eraseSlot hnodup guid)
  rw [Group.members, length_map] at hmembers
  have hlength : grp.members.length = grp.memberSlots.length := length_map _
  have herase : grp.members.length - 1 ≤ (grp.members.erase guid).length := le_length_erase
  omega

theorem Standing.removeMember (h : Standing w none) (g guid : Nat) : Standing (w.removeMember g guid) none := by
  unfold World.removeMember
  cases hg : w.group g with
  | none => exact h
  | some grp =>
    dsimp only
    have hsound := h.live.sound g grp hg
    split
    · next hleast =>
      have hled : grp.Led := h.led g grp (nomatch ·) hg
      obtain ⟨hpicked, hplayer, hguids, grp', hgrp', hmembers, hbg, hnew⟩ :=
        (h.takeOut hg guid).pickLeader (group_takeOut w g guid grp) guid
      have hfind (q : Nat) : ((w.takeOut g guid grp).pickLeader g guid).findPlayer q =
          (w.takeOut g guid grp).findPlayer q := by rw [World.findPlayer, World.findPlayer, hplayer, hguids]
      generalize (w.takeOut g guid grp).pickLeader g guid = w' at hpicked hgrp' hfind ⊢
      unfold World.disbandIfSmall
      split
      · exact hpicked.disband
      · next hsize =>
        -- Somebody still refers to the group. He is a member, and he is online.
        obtain ⟨q, hq⟩ := exists_refers_of_getSize ((leastSize_pos grp).trans_le (not_lt.1 hsize))
        obtain ⟨honline, y, hy, hmem⟩ := hpicked.live.linked q g hq
        rw [hgrp'] at hy
        obtain rfl := some.inj hy
        refine hpicked.restore hgrp' (hnew (fun hne => ?_) ⟨q, hmembers ▸ hmem, (hfind q) ▸ honline⟩) fun ho => ?_
        · rw [leader_eraseSlot] at hne
          rw [Group.Led, leader_eraseSlot, Group.members_eraseSlot hsound.nodup]
          exact (mem_erase_of_ne hne).2 hled
        · have hlength := length_eraseSlot hsound.nodup guid
          rw [Group.length_eq_of_members hmembers]
          have hnot : grp.isBGGroup = false := by
            rw [← isBGGroup_eraseSlot grp guid, ← hbg]
            exact (Bool.not_eq_true' _).mp (Bool.and_eq_true_iff.1 ho).1
          rw [Group.leastSize, hnot] at hleast
          change 2 < _ at hleast
          omega
    · exact (h.except (some g)).disband

end Live

end Axium.Groups
