import Axium.Groups.Live

/-!
# Members who join

The operations that make groups, add members and change subgroups, flags and leaders keep the groups standing, as do
players who log in and out.
-/

namespace Axium.Groups

open List Function Option

section Joining

variable {w : World} {x : Option Nat} {g p : Nat} {grp grp' : Group}

/-! ## Groups that grow -/

theorem Standing.growGroup (h : Standing w x) (hg : w.group g = some grp) (hsound : grp'.Sound)
    (hexist : ∀ p ∈ grp'.members, p ∈ w.guids) (hmembers : ∀ p ∈ grp.members, p ∈ grp'.members)
    (hbg : grp'.isBGGroup = grp.isBGGroup) (hled : some g ≠ x → grp'.Led)
    (htwo : some g ≠ x → grp'.ordinary = true → 2 ≤ grp'.memberSlots.length) : Standing (w.setGroup g grp') x := by
  have hcase {P : Nat → Group → Prop} (hP : P g grp') (hother : ∀ g' y, w.group g' = some y → P g' y) :
      ∀ g' y, (w.setGroup g grp').group g' = some y → P g' y := by
    intro g' y hy
    rw [group_setGroup] at hy
    split at hy
    · next heq => exact heq ▸ some.inj hy ▸ hP
    · exact hother g' y hy
  refine ⟨⟨hcase hsound h.live.sound, hcase hexist h.live.exist, fun g' hg' => ?_, fun q g' hq => ?_,
    fun k g' hk => ?_⟩, fun g' y hx hy => ?_, fun g' y hx hy => ?_⟩
  · rw [group_setGroup]
    split
    · next heq =>
      rw [heq] at hg'
      rw [h.live.free g hg'] at hg
      cases hg
    · exact h.live.free g' hg'
  · obtain ⟨hfind, y, hy, hmem⟩ := h.live.linked q g' hq
    refine ⟨hfind, ?_⟩
    rw [group_setGroup]
    split
    · next heq =>
      rw [heq, hg] at hy
      exact ⟨grp', rfl, hmembers q (some.inj hy ▸ hmem)⟩
    · exact ⟨y, hy, hmem⟩
  · obtain ⟨y, hy, hybg⟩ := h.live.raids k g' hk
    rw [group_setGroup]
    split
    · next heq =>
      rw [heq, hg] at hy
      exact ⟨grp', rfl, by rw [hbg, some.inj hy]; exact hybg⟩
    · exact ⟨y, hy, hybg⟩
  · exact hcase (P := fun g' y => some g' ≠ x → y.Led) hled (fun g' y hy hx => h.led g' y hx hy) g' y hy hx
  · exact hcase (P := fun g' y => some g' ≠ x → y.ordinary = true → 2 ≤ y.memberSlots.length) htwo
      (fun g' y hy hx => h.paired g' y hx hy) g' y hy hx

theorem Standing.refer (h : Standing w x) (hfind : w.findPlayer p = true) (hg : w.group g = some grp)
    (hmem : p ∈ grp.members) {f : Player → Player} (honline : (f (w.player p)).online = (w.player p).online)
    (hrefs : ∀ g', (f (w.player p)).group = some g' ∨ (f (w.player p)).originalGroup = some g' →
      g' = g ∨ w.Refers p g') : Standing (w.modifyPlayer p f) x := by
  have hfindPlayer (q : Nat) : (w.modifyPlayer p f).findPlayer q = w.findPlayer q := by
    unfold World.findPlayer
    rw [player_modifyPlayer]
    split
    · next heq => rw [heq, honline]; rfl
    · rfl
  refine ⟨⟨h.live.sound, h.live.exist, h.live.free, fun q g' hq => ?_, h.live.raids⟩, h.led, h.paired⟩
  rw [hfindPlayer]
  unfold World.Refers at hq
  rw [player_modifyPlayer] at hq
  split at hq
  · next heq =>
    subst heq
    obtain rfl | hold := hrefs g' hq
    · exact ⟨hfind, grp, hg, hmem⟩
    · exact h.live.linked q g' hold
  · exact h.live.linked q g' hq

theorem guids_placeMember (g p : Nat) (grp : Group) (i : Fin maxRaidSubgroups) :
    (w.placeMember g p grp i).guids = w.guids := by
  unfold World.placeMember
  split <;> rfl

theorem Standing.placeMember (h : Standing w x) (hg : w.group g = some grp) (hfind : w.findPlayer p = true)
    {i : Fin maxRaidSubgroups} (hsound : (grp.pushSlot (Group.newSlot p i)).Sound)
    (hled : some g ≠ x → (grp.pushSlot (Group.newSlot p i)).Led)
    (htwo : some g ≠ x → (grp.pushSlot (Group.newSlot p i)).ordinary = true → 1 ≤ grp.memberSlots.length) :
    Standing (w.placeMember g p grp i) x := by
  have hmembers := Group.members_pushSlot grp (Group.newSlot p i)
  have hp : p ∈ w.guids := by
    exact of_decide_eq_true (Bool.and_eq_true_iff.1 hfind).1
  have hgrown : Standing (w.setGroup g (grp.pushSlot (Group.newSlot p i))) x := by
    refine h.growGroup hg hsound (fun q hq => ?_) (fun q hq => ?_) rfl hled fun hx ho => ?_
    · rw [hmembers] at hq
      obtain hq | hq := mem_append.1 hq
      · exact h.live.exist g grp hg q hq
      · rw [mem_singleton.1 hq]
        exact hp
    · rw [hmembers]
      exact mem_append_left _ hq
    · have hone := htwo hx ho
      change 2 ≤ (grp.memberSlots ++ [Group.newSlot p i]).length
      rw [length_append, length_singleton]
      omega
  have hinvited := hgrown.setGroupInvite p none
  have hlinked : Standing (((w.setGroup g (grp.pushSlot (Group.newSlot p i))).setGroupInvite p none).linkMember p g
      grp.isBGGroup) x := by
    refine hinvited.refer (g := g) ?_ ((group_setGroup g g _).trans (if_pos rfl)) ?_ ?_ fun g' hg' => ?_
    · unfold World.findPlayer at hfind ⊢
      unfold World.setGroupInvite
      rw [player_modifyPlayer, if_pos rfl]
      exact hfind
    · rw [hmembers]
      exact mem_append_right _ (mem_singleton.2 rfl)
    · split
      · rfl
      · split <;> rfl
    · split at hg'
      · rcases hg' with hg' | hg'
        · exact .inl (some.inj hg').symm
        · exact .inr (.inl hg')
      · split at hg'
        · rcases hg' with hg' | hg'
          · exact .inr (.inl hg')
          · exact .inl (some.inj hg').symm
        · rcases hg' with hg' | hg'
          · exact .inl (some.inj hg').symm
          · exact .inr (.inr hg')
  unfold World.placeMember
  split
  · exact hlinked
  · exact hlinked.setDb _

theorem Group.led_pushSlot (h : grp.Led) (s : MemberSlot) : (grp.pushSlot s).Led := by
  rw [Group.Led, Group.members_pushSlot]
  exact mem_append_left _ h

theorem Group.Led.length_pos (h : grp.Led) : 1 ≤ grp.memberSlots.length := by
  have hcreated := h.isCreated
  exact of_decide_eq_true hcreated

theorem Standing.addMember (h : Standing w x) (hg : w.group g = some grp) (hfind : w.findPlayer p = true)
    (hnew : p ∉ grp.members) (hparty : grp.raid = false → grp.memberSlots.length < maxGroupSize)
    (hbg : grp.isBGGroup = true → grp.raid = true)
    (hone : some g ≠ x → grp.Led) : Standing (w.addMember g p).1 x := by
  unfold World.addMember
  rw [hg]
  dsimp only
  split
  · exact h
  · next i hfirst =>
    have hsound := h.live.sound g grp hg
    exact h.placeMember hg hfind (hsound.pushSlot hnew (hsound.firstSubGroup_room hfirst) hparty hbg)
      (fun hx => Group.led_pushSlot (hone hx) _) fun hx _ => (hone hx).length_pos

theorem Standing.newGroup (h : Standing w none) (bgGroup : Option Nat) :
    Standing (w.newGroup bgGroup) (some w.nextGroup) := by
  have hgroup (g' : Nat) : (w.newGroup bgGroup).group g' =
      if g' = w.nextGroup then some { bgGroup := bgGroup } else w.group g' := update_apply ..
  have hne {g' : Nat} {y : Group} (hy : w.group g' = some y) : g' ≠ w.nextGroup := by
    rintro rfl
    rw [h.live.free w.nextGroup (le_refl _)] at hy
    cases hy
  refine ⟨⟨fun g' y hy => ?_, fun g' y hy q hq => ?_, fun g' hg' => ?_, fun q g' hq => ?_, fun k g' hk => ?_⟩,
    fun g' y hx hy => ?_, fun g' y hx hy => ?_⟩
  · rw [hgroup] at hy
    split at hy
    · rw [← some.inj hy]
      exact ⟨nodup_nil, rfl, nofun, fun _ => Nat.zero_le _, nofun⟩
    · exact h.live.sound g' y hy
  · rw [hgroup] at hy
    split at hy
    · rw [← some.inj hy] at hq
      cases hq
    · exact h.live.exist g' y hy q hq
  · change w.nextGroup + 1 ≤ g' at hg'
    rw [hgroup, if_neg (by omega)]
    exact h.live.free g' (by omega)
  · obtain ⟨hfind, y, hy, hmem⟩ := h.live.linked q g' hq
    exact ⟨hfind, y, by rw [hgroup, if_neg (hne hy), hy], hmem⟩
  · obtain ⟨y, hy, hbg⟩ := h.live.raids k g' hk
    exact ⟨y, by rw [hgroup, if_neg (hne hy), hy], hbg⟩
  · rw [hgroup, if_neg fun heq => hx (congrArg some heq)] at hy
    exact h.led g' y (nomatch ·) hy
  · rw [hgroup, if_neg fun heq => hx (congrArg some heq)] at hy
    exact h.paired g' y (nomatch ·) hy

theorem sound_setUp (bgGroup : Option Nat) (leader : Nat) : (Group.setUp { bgGroup := bgGroup } leader).Sound := by
  cases bgGroup with
  | none => exact ⟨nodup_nil, rfl, nofun, fun _ => Nat.zero_le _, nofun⟩
  | some k => exact ⟨nodup_nil, rfl, fun _ _ => Nat.zero_le _, fun _ => Nat.zero_le _, fun _ _ => rfl⟩

theorem Standing.setUp (h : Standing w (some g)) {bgGroup : Option Nat} (hg : w.group g = some { bgGroup := bgGroup })
    (leader : Nat) : Standing (w.setGroup g (Group.setUp { bgGroup := bgGroup } leader)) (some g) := by
  refine h.setGroup hg (sound_setUp bgGroup leader) ?_ ?_ fun hled => nomatch hled
  · cases bgGroup <;> rfl
  · cases bgGroup <;> rfl

/-! ## New groups -/

theorem group_placeMember (g p : Nat) (grp : Group) (i : Fin maxRaidSubgroups) :
    (w.placeMember g p grp i).group = update w.group g (some (grp.pushSlot (Group.newSlot p i))) := by
  unfold World.placeMember
  split <;> rfl

theorem online_modifyPlayer {f : Player → Player} (hf : (f (w.player p)).online = (w.player p).online) (q : Nat) :
    ((w.modifyPlayer p f).player q).online = (w.player q).online := by
  rw [player_modifyPlayer]
  split
  · next heq => rw [heq, hf]
  · rfl

theorem findPlayer_placeMember (g p : Nat) (grp : Group) (i : Fin maxRaidSubgroups) (q : Nat) :
    (w.placeMember g p grp i).findPlayer q = w.findPlayer q := by
  have honline : ((w.placeMember g p grp i).player q).online = (w.player q).online := by
    have hlink : ((((w.setGroup g (grp.pushSlot (Group.newSlot p i))).setGroupInvite p none).linkMember p g
        grp.isBGGroup).player q).online =
        (((w.setGroup g (grp.pushSlot (Group.newSlot p i))).setGroupInvite p none).player q).online := by
      refine online_modifyPlayer ?_ q
      split
      · rfl
      · split <;> rfl
    unfold World.placeMember
    split
    · exact hlink.trans (online_modifyPlayer rfl q)
    · exact hlink.trans (online_modifyPlayer rfl q)
  unfold World.findPlayer
  rw [guids_placeMember, honline]

def newParty (leader id : Nat) : Group :=
  { bgGroup := none, leaderGuid := leader, memberSlots := [Group.newSlot leader 0], dbStoreId := id }

theorem create_party (hg : w.group g = some { bgGroup := none }) (leader : Nat) :
    w.create g leader = (w.storeGroup g leader (Group.setUp { bgGroup := none } leader)).placeMember g leader
      { bgGroup := none, leaderGuid := leader, dbStoreId := w.nextGroupDbStoreId } 0 := by
  unfold World.create
  rw [hg]
  unfold World.addMember
  have hgroup : (w.storeGroup g leader (Group.setUp { bgGroup := none } leader)).group g =
      some { bgGroup := none, leaderGuid := leader, dbStoreId := w.nextGroupDbStoreId } :=
    update_self ..
  dsimp only
  rw [if_neg (show ¬ (Group.isBGGroup { bgGroup := none }) = true from Bool.false_ne_true), hgroup]
  rfl

theorem Standing.create_party (h : Standing w (some g)) (hg : w.group g = some { bgGroup := none }) {leader : Nat}
    (hfind : w.findPlayer leader = true) : Standing (w.create g leader) (some g) ∧
      (w.create g leader).group g = some (newParty leader w.nextGroupDbStoreId) ∧
      ∀ q, (w.create g leader).findPlayer q = w.findPlayer q := by
  have hgroup : (w.storeGroup g leader (Group.setUp { bgGroup := none } leader)).group g =
      some { bgGroup := none, leaderGuid := leader, dbStoreId := w.nextGroupDbStoreId } :=
    update_self ..
  have hsound : (Group.Sound { bgGroup := none, leaderGuid := leader, dbStoreId := w.nextGroupDbStoreId }) :=
    ⟨nodup_nil, rfl, nofun, fun _ => Nat.zero_le _, nofun⟩
  have hset : Standing (w.setGroup g
      { bgGroup := none, leaderGuid := leader, dbStoreId := w.nextGroupDbStoreId }) (some g) :=
    h.setGroup hg hsound rfl rfl fun hled => nomatch hled
  have hstored : Standing (w.storeGroup g leader (Group.setUp { bgGroup := none } leader)) (some g) :=
    hset.of_stored rfl rfl rfl rfl rfl
  rw [Groups.create_party hg]
  refine ⟨hstored.placeMember hgroup hfind ?_ (fun hx => absurd rfl hx) fun hx => absurd rfl hx, ?_, fun q =>
    findPlayer_placeMember g leader _ 0 q⟩
  · exact hsound.pushSlot not_mem_nil nofun (fun _ => show 0 < 5 by decide) nofun
  · rw [group_placeMember, update_self]
    rfl

theorem Standing.createGroup (h : Standing w none) {leader second : Nat} (hleader : w.findPlayer leader = true)
    (hsecond : w.findPlayer second = true) (hne : leader ≠ second) : Standing (w.createGroup leader second) none := by
  have hnew : (w.newGroup none).group w.nextGroup = some { bgGroup := none } := update_self ..
  obtain ⟨hcreated, hgroup, hfind⟩ := (h.newGroup none).create_party hnew hleader
  have hadded := hcreated.addMember (p := second) hgroup ((hfind second).trans hsecond)
    (fun hmem => hne (mem_singleton.1 hmem).symm) (fun _ => show 1 < 5 by decide) nofun fun hx => absurd rfl hx
  have hparty : (((w.newGroup none).create w.nextGroup leader).addMember w.nextGroup second).1.group w.nextGroup =
      some ((newParty leader w.nextGroupDbStoreId).pushSlot (Group.newSlot second 0)) := by
    unfold World.addMember
    rw [hgroup]
    dsimp only [Group.firstSubGroup, newParty]
    rw [group_placeMember, update_self]
    rfl
  exact hadded.restore hparty (mem_cons_self ..) fun _ => le_refl 2

/-! ## Raids of battlegrounds -/

theorem Standing.setBgRaid (h : Standing w x) (hg : w.group g = some grp) (hbg : grp.isBGGroup = true) (k : Nat) :
    Standing { w with bgRaid := update w.bgRaid k (some g) } x := by
  refine ⟨⟨h.live.sound, h.live.exist, h.live.free, h.live.linked, fun k' g' hk => ?_⟩, h.led, h.paired⟩
  change update w.bgRaid k (some g) k' = some g' at hk
  rw [update_apply] at hk
  split at hk
  · exact ⟨grp, by rw [← some.inj hk]; exact hg, hbg⟩
  · exact h.live.raids k' g' hk

theorem create_raid_eq {k : Nat} (hg : w.group g = some { bgGroup := some k }) (p : Nat) :
    w.create g p = ((w.setGroup g (Group.setUp { bgGroup := some k } p)).addMember g p).1 := by
  unfold World.create
  rw [hg]
  rfl

theorem Standing.create_raid (h : Standing w (some g)) {k : Nat} (hg : w.group g = some { bgGroup := some k })
    (hfind : w.findPlayer p = true) : Standing (w.create g p) none := by
  have hset := h.setUp hg p
  have hgroup : (w.setGroup g (Group.setUp { bgGroup := some k } p)).group g =
      some (Group.setUp { bgGroup := some k } p) := update_self ..
  have hcreate := create_raid_eq hg p
  have hfirst : (Group.setUp { bgGroup := some k } p).firstSubGroup = some 0 := rfl
  have hplace : ((w.setGroup g (Group.setUp { bgGroup := some k } p)).addMember g p).1 =
      (w.setGroup g (Group.setUp { bgGroup := some k } p)).placeMember g p
        (Group.setUp { bgGroup := some k } p) 0 := by
    unfold World.addMember
    rw [hgroup]
    dsimp only
    rw [hfirst]
  have hadded := hset.addMember hgroup hfind not_mem_nil nofun (fun _ => rfl) fun hx => absurd rfl hx
  have hraid : (w.create g p).group g =
      some ((Group.setUp { bgGroup := some k } p).pushSlot (Group.newSlot p 0)) := by
    rw [hcreate, hplace, group_placeMember, update_self]
  rw [← hcreate] at hadded
  exact hadded.restore hraid (mem_cons_self ..) fun ho => absurd ho Bool.false_ne_true

theorem Standing.joinBattleground (h : Standing w none) (k : Nat) (hfind : w.findPlayer p = true) :
    Standing (w.addOrSetPlayerToCorrectBgGroup k p) none := by
  unfold World.addOrSetPlayerToCorrectBgGroup
  cases hk : w.bgRaid k with
  | none =>
    have hgroup : (w.newGroup (some k)).group w.nextGroup = some { bgGroup := some k } := update_self ..
    exact ((h.newGroup (some k)).setBgRaid hgroup rfl k).create_raid hgroup hfind
  | some g =>
    obtain ⟨grp, hg, hbg⟩ := h.live.raids k g hk
    dsimp only
    rw [hg]
    dsimp only
    split
    · next hmember =>
      refine h.refer hfind hg (Group.isMember_iff.1 hmember) rfl fun g' hg' => ?_
      rcases hg' with hg' | hg'
      · exact .inl (some.inj hg').symm
      · exact .inr (.inl hg')
    · next hmember =>
      have hled := h.led g grp (nomatch ·) hg
      have hraid := (h.live.sound g grp hg).raid_of_bg hbg hled.isCreated
      have hadded := h.addMember hg hfind (fun hmem => hmember (Group.isMember_iff.2 hmem))
        (fun hparty => by rw [hraid] at hparty; cases hparty) (fun _ => hraid) fun _ => hled
      split
      · exact hadded
      · split
        · exact hadded.changeLeader g p
        · exact hadded

/-! ## Subgroups, flags and types -/

theorem Standing.modifyGroup (h : Standing w x) (g : Nat) {u : Group → Group} (hsound : ∀ y, y.Sound → (u y).Sound)
    (hmembers : ∀ y, (u y).members = y.members) (hbg : ∀ y, (u y).isBGGroup = y.isBGGroup)
    (hleader : ∀ y, (u y).leaderGuid = y.leaderGuid) : Standing (w.modifyGroup g u) x := by
  unfold World.modifyGroup
  cases hg : w.group g with
  | none => exact h
  | some grp =>
    exact h.setGroup hg (hsound grp (h.live.sound g grp hg)) (hmembers grp) (hbg grp)
      (led_of_leader (hmembers grp) (hleader grp))

theorem Standing.convertToRaid (h : Standing w x) (g : Nat) : Standing (w.convertToRaid g) x := by
  unfold World.convertToRaid
  cases hg : w.group g with
  | none => exact h
  | some grp =>
    have hset : Standing (w.setGroup g grp.convertToRaid) x :=
      h.setGroup hg (h.live.sound g grp hg).convertToRaid rfl rfl fun hled => hled
    dsimp only
    split
    · exact hset
    · exact hset.setDb _

theorem keeps_changeMembersGroup (grp : Group) (guid : Nat) (i : Fin maxRaidSubgroups) :
    (grp.changeMembersGroup guid i).isBGGroup = grp.isBGGroup ∧
      (grp.changeMembersGroup guid i).leaderGuid = grp.leaderGuid := by
  unfold Group.changeMembersGroup
  split
  · split
    · exact ⟨rfl, rfl⟩
    · split <;> exact ⟨rfl, rfl⟩
  · exact ⟨rfl, rfl⟩

theorem Standing.changeMembersGroup (h : Standing w x) (g guid : Nat) {i : Fin maxRaidSubgroups}
    (hfree : (w.group g).any (·.hasFreeSlotSubGroup i) = true) : Standing (w.changeMembersGroup g guid i) x := by
  unfold World.changeMembersGroup
  cases hg : w.group g with
  | none => exact h
  | some grp =>
    rw [hg] at hfree
    have hmembers := Group.members_changeMembersGroup grp guid i
    obtain ⟨hbg, hleader⟩ := keeps_changeMembersGroup grp guid i
    have hset := h.setGroup hg ((h.live.sound g grp hg).changeMembersGroup hfree guid) hmembers hbg
      (led_of_leader hmembers hleader)
    dsimp only
    split
    · exact hset.setDb _
    · exact hset

theorem keeps_setGroupMemberFlag (grp : Group) (guid : Nat) (apply : Bool) (flag : GroupMemberFlags) :
    (grp.setGroupMemberFlag guid apply flag).isBGGroup = grp.isBGGroup ∧
      (grp.setGroupMemberFlag guid apply flag).leaderGuid = grp.leaderGuid := by
  unfold Group.setGroupMemberFlag
  split
  · split <;> exact ⟨rfl, rfl⟩
  · exact ⟨rfl, rfl⟩

theorem Standing.setGroupMemberFlag (h : Standing w x) (g guid : Nat) (apply : Bool) (flag : GroupMemberFlags) :
    Standing (w.setGroupMemberFlag g guid apply flag) x :=
  h.modifyGroup g (fun _ hy => hy.setGroupMemberFlag guid apply flag)
    (fun y => Group.members_setGroupMemberFlag y guid apply flag)
    (fun y => (keeps_setGroupMemberFlag y guid apply flag).1) fun y => (keeps_setGroupMemberFlag y guid apply flag).2

/-! ## Players who come and go -/

theorem Standing.uninviteFromGroup (h : Standing w none) (p : Nat) : Standing (w.uninviteFromGroup p) none := by
  unfold World.uninviteFromGroup
  split
  · exact h
  · next g _ =>
    have hremoved := h.removeInvite g p
    generalize w.removeInvite g p = w' at hremoved ⊢
    dsimp only
    split
    · exact hremoved
    · split
      · split
        · exact (hremoved.except (some g)).disband
        · exact ((hremoved.except (some g)).removeAllInvites g).deleteGroup
      · exact hremoved

theorem Standing.goOffline (h : Standing w x) (p : Nat) :
    Standing (w.modifyPlayer p fun _ => ⟨false, none, none, none⟩) x := by
  refine ⟨⟨h.live.sound, h.live.exist, h.live.free, fun q g hq => ?_, h.live.raids⟩, h.led, h.paired⟩
  unfold World.Refers at hq
  rw [player_modifyPlayer] at hq
  split at hq
  · rcases hq with hq | hq <;> cases hq
  · next hne =>
    obtain ⟨hfind, hmem⟩ := h.live.linked q g hq
    refine ⟨?_, hmem⟩
    unfold World.findPlayer at hfind ⊢
    rw [player_modifyPlayer, if_neg hne]
    exact hfind

theorem Standing.logout (h : Standing w none) (p : Nat) (socket : Bool) : Standing (w.logout p socket) none := by
  have huninvited := h.uninviteFromGroup p
  unfold World.logout
  generalize w.uninviteFromGroup p = w' at huninvited ⊢
  refine Standing.goOffline ?_ p
  split
  · exact huninvited
  · split
    · exact huninvited.removeMember _ p
    · exact huninvited

theorem Standing.login (h : Standing w x) (hp : p ∈ w.guids) (hoffline : (w.player p).online = false)
    (hrow : ∀ row g, w.db.member p = some row → w.getGroupByDbStoreId row.guid = some g →
      ∃ grp, w.group g = some grp ∧ p ∈ grp.members) : Standing (w.login p) x := by
  refine ⟨⟨h.live.sound, h.live.exist, h.live.free, fun q g hq => ?_, h.live.raids⟩, h.led, h.paired⟩
  unfold World.Refers World.login at hq
  unfold World.findPlayer World.login
  rw [player_modifyPlayer] at hq ⊢
  split at hq
  · next heq =>
    subst heq
    rw [if_pos rfl]
    refine ⟨by rw [Bool.and_true]; exact decide_eq_true hp, ?_⟩
    rcases hq with hq | hq
    · obtain ⟨row, hmember, hgroup⟩ := Option.bind_eq_some_iff.1 hq
      exact hrow row g hmember hgroup
    · cases hq
  · next hne =>
    rw [if_neg hne]
    exact h.live.linked q g hq

end Joining

end Axium.Groups
