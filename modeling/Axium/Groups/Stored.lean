import Axium.Groups.Joining
import Axium.Groups.Tables

/-!
# Stored groups

Each operation keeps the tables in step with the ordinary groups, as long as a player is added to an ordinary group
only while he has no row, and is removed from the raid of a battleground only while he has none.
-/

namespace Axium.Groups

open List Function World

def Group.stored (grp : Group) : Profile :=
  ⟨grp.dbStoreId, grp.leaderGuid, grp.raid, grp.memberSlots.map fun s => (s.guid, s.group)⟩

def Group.profile (grp : Group) : Option Profile := if grp.ordinary then some grp.stored else none

def World.profiles (w : World) (g : Nat) : Option Profile := (w.group g).bind Group.profile

def Stored (w : World) : Prop := Tables w.profiles w.db w.groupDbStore w.nextGroupDbStoreId

section Stored

variable {w w' : World} {g p : Nat} {grp grp' : Group}

theorem Group.profile_of_not_ordinary (h : grp.ordinary = false) : grp.profile = none :=
  if_neg (by rw [h]; exact Bool.false_ne_true)

theorem Group.profile_of_bg (h : grp.isBGGroup = true) : grp.profile = none :=
  Group.profile_of_not_ordinary (by rw [Group.ordinary, h]; rfl)

theorem Group.profile_of_empty (h : grp.memberSlots = []) : grp.profile = none := by
  refine Group.profile_of_not_ordinary ?_
  rw [Group.ordinary, Group.isCreated, h]
  exact Bool.and_false _

theorem Group.profile_of_ordinary (h : grp.ordinary = true) : grp.profile = some grp.stored := if_pos h

theorem Group.ordinary_iff : grp.ordinary = true ↔ grp.isBGGroup = false ∧ grp.isCreated = true := by
  rw [Group.ordinary, Bool.and_eq_true, Bool.not_eq_true']

theorem profiles_of_group (hg : w.group g = some grp) : w.profiles g = grp.profile := by
  unfold profiles
  rw [hg]
  rfl

theorem profiles_setGroup (w : World) (g : Nat) (grp : Group) :
    (w.setGroup g grp).profiles = update w.profiles g grp.profile := by
  funext g'
  unfold profiles
  rw [group_setGroup, update_apply]
  split <;> rfl

/-- Nothing that is stored is touched. -/
structure SameTables (w w' : World) : Prop where
  group : w'.group = w.group
  db : w'.db = w.db
  store : w'.groupDbStore = w.groupDbStore
  next : w'.nextGroupDbStoreId = w.nextGroupDbStoreId

theorem SameTables.refl (w : World) : SameTables w w := ⟨rfl, rfl, rfl, rfl⟩

theorem SameTables.trans {w'' : World} (h : SameTables w w') (h' : SameTables w' w'') : SameTables w w'' :=
  ⟨h'.group.trans h.group, h'.db.trans h.db, h'.store.trans h.store, h'.next.trans h.next⟩

theorem SameTables.stored (h : SameTables w w') (hw : Stored w) : Stored w' := by
  unfold Stored profiles at *
  rw [h.group, h.db, h.store, h.next]
  exact hw

theorem sameTables_modifyPlayer (w : World) (p : Nat) (f : Player → Player) : SameTables w (w.modifyPlayer p f) :=
  ⟨rfl, rfl, rfl, rfl⟩

theorem sameTables_unlinkMember (w : World) (p g : Nat) (bg : Bool) : SameTables w (w.unlinkMember p g bg) := by
  unfold unlinkMember
  split
  · split <;> exact sameTables_modifyPlayer w p _
  · exact .refl w

theorem sameTables_foldl_unlinkMember (g : Nat) (bg : Bool) (l : List MemberSlot) : ∀ w : World,
    SameTables w (l.foldl (fun w s => w.unlinkMember s.guid g bg) w) := by
  induction l with
  | nil => exact SameTables.refl
  | cons s l ih => exact fun w => (sameTables_unlinkMember w s.guid g bg).trans (ih _)

theorem Stored.setGroup (h : Stored w) (hg : w.group g = some grp) (hprofile : grp'.profile = grp.profile) :
    Stored (w.setGroup g grp') := by
  unfold Stored at *
  rw [profiles_setGroup, hprofile, ← profiles_of_group hg, update_eq_self]
  exact h

theorem Stored.modifyGroup (h : Stored w) (g : Nat) {u : Group → Group} (hu : ∀ y, (u y).profile = y.profile) :
    Stored (w.modifyGroup g u) := by
  unfold World.modifyGroup
  cases hg : w.group g with
  | none => exact h
  | some grp => exact h.setGroup hg (hu grp)

theorem Stored.removeInvite (h : Stored w) (g p : Nat) : Stored (w.removeInvite g p) :=
  (sameTables_modifyPlayer _ p _).stored (h.modifyGroup g fun _ => rfl)

theorem profiles_removeAllInvites (w : World) (g : Nat) : (w.removeAllInvites g).profiles = w.profiles := by
  unfold World.removeAllInvites
  cases hg : w.group g with
  | none => rfl
  | some grp =>
    change (w.setGroup g { grp with invitees := ∅ }).profiles = w.profiles
    rw [profiles_setGroup, show Group.profile { grp with invitees := ∅ } = w.profiles g from
      (profiles_of_group hg).symm, update_eq_self]

theorem Stored.removeAllInvites (h : Stored w) (g : Nat) : Stored (w.removeAllInvites g) := by
  unfold Stored at *
  rw [profiles_removeAllInvites]
  unfold World.removeAllInvites
  split <;> exact h

/-! ## Groups that go -/

theorem profiles_deleteGroup (w : World) (g : Nat) : (w.deleteGroup g).profiles = update w.profiles g none := by
  funext g'
  unfold profiles
  rw [show (w.deleteGroup g).group g' = if g' = g then none else w.group g' from update_apply .., update_apply]
  split <;> rfl

theorem Stored.deleteGroup (h : Stored w) (hg : w.profiles g = none) : Stored (w.deleteGroup g) := by
  unfold Stored at *
  rw [profiles_deleteGroup, ← hg, update_eq_self]
  exact h

theorem Stored.disband (h : Stored w) (hg : w.group g = some grp) (hcreated : grp.isCreated = true) :
    Stored (w.disband g) := by
  have hunlinked := (sameTables_foldl_unlinkMember g grp.isBGGroup grp.memberSlots w)
  have hremoved := (hunlinked.stored h).removeAllInvites g
  have hprofile : ((grp.memberSlots.foldl (fun w s => w.unlinkMember s.guid g grp.isBGGroup) w).removeAllInvites
      g).profiles g = grp.profile := by
    rw [profiles_removeAllInvites]
    exact profiles_of_group ((congrFun hunlinked.group g).trans hg)
  unfold World.disband
  rw [hg]
  dsimp only
  generalize (grp.memberSlots.foldl (fun w s => w.unlinkMember s.guid g grp.isBGGroup) w).removeAllInvites g = w'
    at hremoved hprofile ⊢
  split
  · next hbg => exact hremoved.deleteGroup (hprofile.trans (Group.profile_of_bg hbg))
  · next hbg =>
    have hordinary : grp.ordinary = true := Group.ordinary_iff.2 ⟨Bool.eq_false_of_not_eq_true hbg, hcreated⟩
    rw [Group.profile_of_ordinary hordinary] at hprofile
    have htables := Tables.remove hremoved hprofile
    unfold Stored
    rw [profiles_deleteGroup]
    exact htables

/-! ## Leaders -/

theorem slots_writeSlot {u : MemberSlot → MemberSlot} (hu : ∀ s, (u s).guid = s.guid ∧ (u s).group = s.group)
    (guid : Nat) (l : List MemberSlot) :
    (writeSlot guid u l).map (fun s => (s.guid, s.group)) = l.map fun s => (s.guid, s.group) := by
  induction l with
  | nil => rfl
  | cons b l ih =>
    rw [writeSlot]
    split
    · rw [map_cons, map_cons, (hu b).1, (hu b).2]
    · rw [map_cons, map_cons, ih]

theorem profile_toggleGroupMemberFlag (grp : Group) (guid : Nat) (flag : GroupMemberFlags) (apply : Bool) :
    (grp.toggleGroupMemberFlag guid flag apply).profile = grp.profile := by
  have hordinary : (grp.toggleGroupMemberFlag guid flag apply).ordinary = grp.ordinary :=
    ordinary_eq_of_members (Group.members_toggleGroupMemberFlag grp guid flag apply) rfl
  unfold Group.profile Group.stored
  rw [hordinary, show (grp.toggleGroupMemberFlag guid flag apply).memberSlots =
    writeSlot guid (·.toggle flag apply) grp.memberSlots from rfl,
    slots_writeSlot (u := (·.toggle flag apply)) fun _ => ⟨rfl, rfl⟩]
  rfl

theorem Stored.changeLeader (h : Stored w) (g guid : Nat) : Stored (w.changeLeader g guid) := by
  unfold World.changeLeader
  cases hg : w.group g with
  | none => exact h
  | some grp =>
    dsimp only
    by_cases hcheck : (grp.isMember guid && w.findPlayer guid) = true
    · rw [if_pos hcheck]
      have hmember := Group.isMember_iff.1 (Bool.and_eq_true_iff.1 hcheck).1
      have hcreated : grp.isCreated = true := isCreated_iff.2 (ne_nil_of_mem hmember)
      split
      · next hbg =>
        refine h.setGroup hg ((Group.profile_of_bg ?_).trans (Group.profile_of_bg hbg).symm)
        exact hbg
      · next hbg =>
        have hordinary : grp.ordinary = true := Group.ordinary_iff.2 ⟨Bool.eq_false_of_not_eq_true hbg, hcreated⟩
        have hprofile := (profiles_of_group hg).trans (Group.profile_of_ordinary hordinary)
        unfold Stored
        rw [profiles_setGroup, profile_toggleGroupMemberFlag,
          Group.profile_of_ordinary (show (grp.setLeader guid).ordinary = true from hordinary)]
        exact h.updateRow (u := ({ · with leaderGuid := guid })) hprofile (grp.setLeader guid).stored rfl rfl
          (fun _ => rfl) rfl
    · rw [if_neg hcheck]
      exact h

theorem Stored.pickLeader (h : Stored w) (g guid : Nat) : Stored (w.pickLeader g guid) := by
  unfold World.pickLeader
  split
  · exact h
  · split
    · split
      · exact h
      · exact h.changeLeader g _
    · exact h

theorem Stored.convertToRaid (h : Stored w) (hg : w.group g = some grp) (hcreated : grp.isCreated = true) :
    Stored (w.convertToRaid g) := by
  unfold World.convertToRaid
  rw [hg]
  dsimp only
  split
  · next hbg =>
    refine h.setGroup hg ((Group.profile_of_bg ?_).trans (Group.profile_of_bg hbg).symm)
    exact hbg
  · next hbg =>
    have hordinary : grp.ordinary = true := Group.ordinary_iff.2 ⟨Bool.eq_false_of_not_eq_true hbg, hcreated⟩
    have hprofile := (profiles_of_group hg).trans (Group.profile_of_ordinary hordinary)
    change Tables (w.setGroup g grp.convertToRaid).profiles _ _ _
    rw [profiles_setGroup, Group.profile_of_ordinary (show grp.convertToRaid.ordinary = true from hordinary)]
    exact h.updateRow (u := ({ · with raid := true })) hprofile grp.convertToRaid.stored rfl rfl (fun _ => rfl) rfl

/-! ## Flags and subgroups -/

theorem profile_setGroupMemberFlag (grp : Group) (guid : Nat) (apply : Bool) (flag : GroupMemberFlags) :
    (grp.setGroupMemberFlag guid apply flag).profile = grp.profile := by
  unfold Group.setGroupMemberFlag
  split
  · rw [profile_toggleGroupMemberFlag]
    split
    · rfl
    · have hordinary : (grp.removeUniqueGroupMemberFlag flag).ordinary = grp.ordinary :=
        ordinary_eq_of_members (Group.members_removeUniqueGroupMemberFlag grp flag) rfl
      unfold Group.profile Group.stored
      rw [hordinary, show (grp.removeUniqueGroupMemberFlag flag).memberSlots =
        grp.memberSlots.map (·.toggle flag false) from rfl, map_map]
      rfl
  · rfl

theorem Stored.setGroupMemberFlag (h : Stored w) (g guid : Nat) (apply : Bool) (flag : GroupMemberFlags) :
    Stored (w.setGroupMemberFlag g guid apply flag) :=
  h.modifyGroup g fun y => profile_setGroupMemberFlag y guid apply flag

theorem mem_slots_eraseP {l : List MemberSlot} (hnodup : (l.map (·.guid)).Nodup) (guid q : Nat)
    (j : Fin maxRaidSubgroups) :
    (q, j) ∈ (l.eraseP (·.guid = guid)).map (fun s => (s.guid, s.group)) ↔
      (q, j) ∈ l.map (fun s => (s.guid, s.group)) ∧ q ≠ guid := by
  induction l with
  | nil => exact ⟨fun hnil => (nomatch hnil), fun hnil => (nomatch hnil.1)⟩
  | cons b l ih =>
    rw [map_cons, nodup_cons] at hnodup
    rw [map_cons, mem_cons, Prod.mk.injEq]
    by_cases hb : b.guid = guid
    · rw [eraseP_cons_of_pos (by simpa using hb)]
      have hothers : (q, j) ∈ l.map (fun s => (s.guid, s.group)) → q ≠ guid := by
        rintro hq rfl
        obtain ⟨s, hs, hsame⟩ := mem_map.1 hq
        exact hnodup.1 (mem_map.2 ⟨s, hs, (Prod.mk.inj hsame).1.trans hb.symm⟩)
      constructor
      · exact fun hrest => ⟨.inr hrest, hothers hrest⟩
      · rintro ⟨⟨hq, -⟩ | hrest, hne⟩
        · exact absurd (hq.trans hb) hne
        · exact hrest
    · rw [eraseP_cons_of_neg (by simpa using hb), map_cons, mem_cons, Prod.mk.injEq, ih hnodup.2]
      constructor
      · rintro (⟨hq, hj⟩ | ⟨hrest, hne⟩)
        · exact ⟨.inl ⟨hq, hj⟩, fun heq => hb (hq.symm.trans heq)⟩
        · exact ⟨.inr hrest, hne⟩
      · rintro ⟨⟨hq, hj⟩ | hrest, hne⟩
        · exact .inl ⟨hq, hj⟩
        · exact .inr ⟨hrest, hne⟩

/-- The member is written where he was erased. -/
theorem mem_slots_writeSlot {l : List MemberSlot} {guid : Nat} (i : Fin maxRaidSubgroups)
    (hmem : guid ∈ l.map (·.guid)) (q : Nat) (j : Fin maxRaidSubgroups) :
    (q, j) ∈ (writeSlot guid (·.setSubGroup i) l).map (fun s => (s.guid, s.group)) ↔
      (q, j) ∈ (l.eraseP (·.guid = guid)).map (fun s => (s.guid, s.group)) ∨ q = guid ∧ j = i := by
  induction l with
  | nil => cases hmem
  | cons b l ih =>
    rw [writeSlot]
    by_cases hb : b.guid = guid
    · rw [if_pos hb, eraseP_cons_of_pos (by simpa using hb), map_cons, mem_cons, Prod.mk.injEq,
        show (b.setSubGroup i).guid = guid from hb]
      exact or_comm
    · have hrest : guid ∈ l.map (·.guid) := (mem_cons.1 hmem).resolve_left fun heq => hb heq.symm
      rw [if_neg hb, eraseP_cons_of_neg (by simpa using hb), map_cons, map_cons, mem_cons, mem_cons, ih hrest,
        or_assoc]

theorem Stored.changeMembersGroup (h : Stored w) (hsound : ∀ grp, w.group g = some grp → grp.Sound) (guid : Nat)
    (i : Fin maxRaidSubgroups) : Stored (w.changeMembersGroup g guid i) := by
  unfold World.changeMembersGroup
  cases hg : w.group g with
  | none => exact h
  | some grp =>
    dsimp only
    split
    · next hcheck =>
      rw [Bool.and_eq_true, Bool.and_eq_true, Bool.not_eq_true'] at hcheck
      obtain ⟨⟨hraid, hany⟩, hbg⟩ := hcheck
      cases hmember : grp.getMember guid with
      | none =>
        rw [hmember] at hany
        cases hany
      | some s =>
        rw [hmember] at hany
        have hne : s.group ≠ i := of_decide_eq_true hany
        obtain ⟨hs, hguid⟩ := Group.getMember_some hmember
        have hmem : guid ∈ grp.members := Group.mem_members_iff.2 ⟨s, hs, hguid⟩
        have hordinary : grp.ordinary = true := Group.ordinary_iff.2 ⟨hbg, Group.isCreated_of_mem hs⟩
        have hprofile := (profiles_of_group hg).trans (Group.profile_of_ordinary hordinary)
        have hmoved : (grp.changeMembersGroup guid i).profile = some (grp.stored.withSlots
            ((writeSlot guid (·.setSubGroup i) grp.memberSlots).map fun s => (s.guid, s.group))) := by
          have hsame := ordinary_eq_of_members (Group.members_changeMembersGroup grp guid i)
            (keeps_changeMembersGroup grp guid i).1
          rw [Group.profile_of_ordinary (hsame.trans hordinary)]
          refine congrArg some ?_
          unfold Group.changeMembersGroup
          rw [if_pos hraid, hmember]
          dsimp only
          rw [if_neg hne]
          rfl
        change Tables (w.setGroup g (grp.changeMembersGroup guid i)).profiles _ _ _
        rw [profiles_setGroup, hmoved]
        refine h.moveSlot hprofile ⟨s.group, mem_map.2 ⟨s, hs, by rw [hguid]⟩⟩ fun q j => ?_
        exact (mem_slots_writeSlot i hmem q j).trans (or_congr_left (mem_slots_eraseP (hsound grp hg).nodup guid q j))
    · next hcheck =>
      refine h.setGroup hg ?_
      by_cases hbg : grp.isBGGroup = true
      · rw [Group.profile_of_bg hbg, Group.profile_of_bg ((keeps_changeMembersGroup grp guid i).1.trans hbg)]
      · have hsame : grp.changeMembersGroup guid i = grp := by
          unfold Group.changeMembersGroup
          split
          · next hraid =>
            cases hmember : grp.getMember guid with
            | none => rfl
            | some s =>
              dsimp only
              rw [if_pos]
              by_contra hne
              refine hcheck ?_
              rw [hraid, hmember, Option.any_some, decide_eq_true hne, Bool.eq_false_of_not_eq_true hbg]
              rfl
          · rfl
        rw [hsame]

/-! ## Members who leave -/

theorem Stored.takeOut (h : Stored w) (hg : w.group g = some grp) (hsound : grp.Sound) {guid : Nat}
    (hleast : grp.leastSize < grp.memberSlots.length) (hraid : grp.isBGGroup = true → w.db.member guid = none)
    (hmember : grp.isBGGroup = false → guid ∈ grp.members) : Stored (w.takeOut g guid grp) := by
  have hunlinked := sameTables_unlinkMember w guid g grp.isBGGroup
  have hgroup : ((w.unlinkMember guid g grp.isBGGroup).setDb (w.db.deleteMember guid)).profiles = w.profiles := by
    exact congrArg (fun f : Nat → Option Group => fun g => (f g).bind Group.profile) hunlinked.group
  have hprofile := profiles_of_group hg
  change Tables ((((w.unlinkMember guid g grp.isBGGroup).setDb (w.db.deleteMember guid)).delinkMember guid g).setGroup
    g (grp.eraseSlot guid)).profiles (w.db.deleteMember guid) (w.unlinkMember guid g grp.isBGGroup).groupDbStore
    (w.unlinkMember guid g grp.isBGGroup).nextGroupDbStoreId
  rw [profiles_setGroup, hunlinked.store, hunlinked.next]
  change Tables (update ((w.unlinkMember guid g grp.isBGGroup).setDb (w.db.deleteMember guid)).profiles g
    (grp.eraseSlot guid).profile) _ _ _
  rw [hgroup]
  cases hbg : grp.isBGGroup with
  | true =>
    rw [Group.profile_of_bg ((isBGGroup_eraseSlot grp guid).trans hbg), ← Group.profile_of_bg hbg, ← hprofile,
      update_eq_self]
    exact h.deleteMember_none (hraid hbg)
  | false =>
    obtain ⟨s, hs, hguid⟩ := Group.mem_members_iff.1 (hmember hbg)
    have hfound : grp.getMember guid = some s := hguid ▸ Group.getMember_of_mem hsound.nodup hs
    rw [Group.profile_of_ordinary (Group.ordinary_iff.2 ⟨hbg, Group.isCreated_of_mem hs⟩)] at hprofile
    have hlength := length_eraseSlot hsound.nodup guid
    have hcreated : (grp.eraseSlot guid).isCreated = true := by
      have hpos := leastSize_pos grp
      exact decide_eq_true (by omega)
    have hstored : (grp.eraseSlot guid).stored = grp.stored.withSlots
        ((grp.memberSlots.eraseP (·.guid = guid)).map fun s => (s.guid, s.group)) := by
      unfold Group.eraseSlot
      rw [hfound]
      rfl
    rw [Group.profile_of_ordinary (Group.ordinary_iff.2 ⟨(isBGGroup_eraseSlot grp guid).trans hbg, hcreated⟩),
      hstored]
    exact h.eraseSlot hprofile ⟨s.group, mem_map.2 ⟨s, hs, by rw [hguid]⟩⟩ fun q j =>
      mem_slots_eraseP hsound.nodup guid q j

theorem Stored.removeMember (h : Stored w) (hw : Standing w none) (hg : w.group g = some grp) {guid : Nat}
    (hraid : grp.isBGGroup = true → grp.leastSize < grp.memberSlots.length → w.db.member guid = none)
    (hmember : grp.isBGGroup = false → guid ∈ grp.members) : Stored (w.removeMember g guid) := by
  have hsound := hw.live.sound g grp hg
  have hled := hw.led g grp (nomatch ·) hg
  unfold World.removeMember
  rw [hg]
  dsimp only
  split
  · next hleast =>
    obtain ⟨-, -, -, y, hy, hmembers, -⟩ := (hw.takeOut hg guid).pickLeader (group_takeOut w g guid grp) guid
    have hpicked := (h.takeOut hg hsound hleast (fun hbg => hraid hbg hleast) hmember).pickLeader g guid
    have hcreated : y.isCreated = true := by
      have hlength := length_eraseSlot hsound.nodup guid
      have hpos := leastSize_pos grp
      rw [Group.isCreated, Group.length_eq_of_members hmembers]
      exact decide_eq_true (by omega)
    unfold disbandIfSmall
    split
    · exact hpicked.disband hy hcreated
    · exact hpicked
  · exact h.disband hg hled.isCreated

/-! ## Members who join -/

theorem profiles_placeMember (w : World) (g p : Nat) (grp : Group) (i : Fin maxRaidSubgroups) :
    (w.placeMember g p grp i).profiles = update w.profiles g (grp.pushSlot (Group.newSlot p i)).profile := by
  rw [← profiles_setGroup]
  unfold profiles
  rw [group_placeMember]
  rfl

theorem Stored.placeMember_raid (h : Stored w) (hg : w.group g = some grp) (hbg : grp.isBGGroup = true) (p : Nat)
    (i : Fin maxRaidSubgroups) : Stored (w.placeMember g p grp i) := by
  unfold Stored
  rw [profiles_placeMember, Group.profile_of_bg (show (grp.pushSlot (Group.newSlot p i)).isBGGroup = true from hbg),
    ← Group.profile_of_bg hbg, ← profiles_of_group hg, update_eq_self]
  unfold placeMember
  rw [if_pos hbg]
  exact h

theorem profile_pushSlot (hbg : grp.isBGGroup = false) (p : Nat) (i : Fin maxRaidSubgroups) :
    (grp.pushSlot (Group.newSlot p i)).profile =
      some (grp.stored.withSlots (grp.stored.slots ++ [(p, i)])) := by
  have hcreated : (grp.pushSlot (Group.newSlot p i)).isCreated = true :=
    Group.isCreated_of_mem (s := Group.newSlot p i) (mem_append_right grp.memberSlots (mem_singleton.2 rfl))
  have hordinary : (grp.pushSlot (Group.newSlot p i)).ordinary = true := Group.ordinary_iff.2 ⟨hbg, hcreated⟩
  rw [Group.profile_of_ordinary hordinary]
  refine congrArg some ?_
  change Profile.mk _ _ _ ((grp.memberSlots ++ [Group.newSlot p i]).map _) = _
  rw [map_append]
  rfl

theorem db_placeMember (w : World) (g p : Nat) {grp : Group} (hbg : grp.isBGGroup = false)
    (i : Fin maxRaidSubgroups) : (w.placeMember g p grp i).db = w.db.insertMember p (grp.stored.memberRow i) := by
  unfold placeMember
  rw [if_neg (by rw [hbg]; exact Bool.false_ne_true)]
  rfl

theorem ids_placeMember (w : World) (g p : Nat) (grp : Group) (i : Fin maxRaidSubgroups) :
    (w.placeMember g p grp i).groupDbStore = w.groupDbStore ∧
      (w.placeMember g p grp i).nextGroupDbStoreId = w.nextGroupDbStoreId := by
  unfold placeMember
  split <;> exact ⟨rfl, rfl⟩

theorem Stored.placeMember (h : Stored w) (hg : w.group g = some grp) (hordinary : grp.ordinary = true)
    (hp : w.db.member p = none) (i : Fin maxRaidSubgroups) : Stored (w.placeMember g p grp i) := by
  have hbg := (Group.ordinary_iff.1 hordinary).1
  have hprofile := (profiles_of_group hg).trans (Group.profile_of_ordinary hordinary)
  unfold Stored
  rw [profiles_placeMember, db_placeMember w g p hbg, (ids_placeMember w g p grp i).1, (ids_placeMember w g p grp i).2,
    profile_pushSlot hbg]
  exact h.addSlot hprofile hp i

theorem Stored.addMember (h : Stored w) (hg : w.group g = some grp) (hordinary : grp.ordinary = true)
    (hp : w.db.member p = none) : Stored (w.addMember g p).1 := by
  unfold World.addMember
  rw [hg]
  dsimp only
  split
  · exact h
  · exact h.placeMember hg hordinary hp _

theorem Stored.addMember_raid (h : Stored w) (hg : w.group g = some grp) (hbg : grp.isBGGroup = true) (p : Nat) :
    Stored (w.addMember g p).1 := by
  unfold World.addMember
  rw [hg]
  dsimp only
  split
  · exact h
  · exact h.placeMember_raid hg hbg p _

/-! ## New groups -/

theorem Stored.newGroup (h : Stored w) (hfree : w.group w.nextGroup = none) (bgGroup : Option Nat) :
    Stored (w.newGroup bgGroup) := by
  have hnone : w.profiles w.nextGroup = none := by
    unfold profiles
    rw [hfree]
    rfl
  change Tables (w.setGroup w.nextGroup { bgGroup := bgGroup }).profiles _ _ _
  rw [profiles_setGroup, Group.profile_of_empty rfl, ← hnone, update_eq_self]
  exact h

theorem Stored.create_party (h : Stored w) (hg : w.group g = some { bgGroup := none }) {leader : Nat}
    (hp : w.db.member leader = none) : Stored (w.create g leader) := by
  have hnone : w.profiles g = none := (profiles_of_group hg).trans (Group.profile_of_empty rfl)
  have hstore : (w.storeGroup g leader (Group.setUp { bgGroup := none } leader)).profiles = w.profiles := by
    change (w.setGroup g { bgGroup := none, leaderGuid := leader, dbStoreId := w.nextGroupDbStoreId }).profiles = _
    rw [profiles_setGroup, Group.profile_of_empty rfl, ← hnone, update_eq_self]
  rw [Groups.create_party hg]
  unfold Stored
  rw [profiles_placeMember, hstore]
  exact h.create hnone rfl rfl hp

theorem member_insertGroup (db : Database) (row : GroupRow) : (db.insertGroup row).member = db.member := by
  unfold Database.insertGroup
  split <;> rfl

theorem Stored.createGroup (h : Stored w) (hfree : w.group w.nextGroup = none) {leader second : Nat}
    (hleader : w.db.member leader = none) (hsecond : w.db.member second = none) (hne : leader ≠ second) :
    Stored (w.createGroup leader second) := by
  have hnew : (w.newGroup none).group w.nextGroup = some { bgGroup := none } := update_self ..
  have hcreated := (h.newGroup hfree none).create_party hnew hleader
  have hparty : ((w.newGroup none).create w.nextGroup leader).group w.nextGroup =
      some (newParty leader w.nextGroupDbStoreId) := by
    rw [Groups.create_party hnew, group_placeMember, update_self]
    rfl
  refine hcreated.addMember hparty rfl ?_
  rw [Groups.create_party hnew]
  change (Database.insertMember (w.db.insertGroup _) leader _).member second = none
  rw [Database.member_insertMember _ (by rw [member_insertGroup]; exact hleader), if_neg (Ne.symm hne),
    member_insertGroup]
  exact hsecond

theorem Stored.create_raid (h : Stored w) {k : Nat} (hg : w.group g = some { bgGroup := some k }) (p : Nat) :
    Stored (w.create g p) := by
  have hset : Stored (w.setGroup g (Group.setUp { bgGroup := some k } p)) :=
    h.setGroup hg ((Group.profile_of_bg rfl).trans (Group.profile_of_bg rfl).symm)
  rw [create_raid_eq hg]
  exact hset.addMember_raid (update_self ..) rfl p

theorem Stored.joinBattleground (h : Stored w) (hw : Standing w none) (k p : Nat) :
    Stored (w.addOrSetPlayerToCorrectBgGroup k p) := by
  unfold addOrSetPlayerToCorrectBgGroup
  cases hk : w.bgRaid k with
  | none =>
    have hnew := h.newGroup (hw.live.free w.nextGroup (le_refl _)) (some k)
    have hset : Stored { w.newGroup (some k) with bgRaid := update w.bgRaid k (some w.nextGroup) } := hnew
    exact hset.create_raid (update_self ..) p
  | some g =>
    obtain ⟨grp, hg, hbg⟩ := hw.live.raids k g hk
    dsimp only
    rw [hg]
    dsimp only
    split
    · exact (sameTables_modifyPlayer w p _).stored h
    · have hadded := h.addMember_raid hg hbg p
      split
      · exact hadded
      · split
        · exact hadded.changeLeader g p
        · exact hadded

/-! ## Players who come and go -/

theorem Stored.uninviteFromGroup (h : Stored w) (p : Nat) : Stored (w.uninviteFromGroup p) := by
  unfold World.uninviteFromGroup
  split
  · exact h
  · next g _ =>
    have hremoved := h.removeInvite g p
    generalize w.removeInvite g p = w' at hremoved ⊢
    dsimp only
    split
    · exact hremoved
    · next grp hg =>
      split
      · split
        · next hcreated => exact hremoved.disband hg hcreated
        · next hcreated =>
          refine (hremoved.removeAllInvites g).deleteGroup ?_
          rw [profiles_removeAllInvites, profiles_of_group hg]
          refine Group.profile_of_not_ordinary ?_
          rw [Group.ordinary, Bool.eq_false_of_not_eq_true hcreated, Bool.and_false]
      · exact hremoved

theorem Stored.logout (h : Stored w) (hw : Standing w none) (p : Nat) (socket : Bool) :
    Stored (w.logout p socket) := by
  have huninvited := h.uninviteFromGroup p
  have hstanding := hw.uninviteFromGroup p
  unfold World.logout
  generalize w.uninviteFromGroup p = w' at huninvited hstanding ⊢
  refine (sameTables_modifyPlayer _ p _).stored ?_
  split
  · exact huninvited
  · next g hgroup =>
    split
    · next hcheck =>
      obtain ⟨-, grp, hg, hmem⟩ := hstanding.live.linked p g (.inl hgroup)
      -- The raid of a battleground is a raid, so that its members stay in it.
      have hparty : grp.raid = false := by
        rw [hg, Bool.and_eq_true, Bool.not_eq_true'] at hcheck
        exact hcheck.1
      refine huninvited.removeMember hstanding hg (fun hbg => ?_) fun _ => hmem
      have hraid := (hstanding.live.sound g grp hg).raid_of_bg hbg (isCreated_iff.2 (ne_nil_of_mem hmem))
      rw [hparty] at hraid
      cases hraid
    · exact huninvited

theorem Stored.linked (h : Stored w) {row : MemberRow} (hrow : w.db.member p = some row)
    (hg : w.getGroupByDbStoreId row.guid = some g) : ∃ grp, w.group g = some grp ∧ p ∈ grp.members := by
  obtain ⟨g', c, i, hc, hmem, rfl⟩ := (Tables.member h p row).1 hrow
  obtain ⟨c', hc', hid⟩ := (Tables.registered h _ g).1 hg
  obtain rfl := h.id_injective hc hc' hid.symm
  obtain ⟨grp, hgrp, hprofile⟩ := Option.bind_eq_some_iff.1 hc
  refine ⟨grp, hgrp, ?_⟩
  unfold Group.profile at hprofile
  split at hprofile
  · rw [← Option.some.inj hprofile] at hmem
    obtain ⟨s, hs, hsame⟩ := mem_map.1 hmem
    exact Group.mem_members_iff.2 ⟨s, hs, (Prod.mk.inj hsame).1⟩
  · cases hprofile

end Stored

end Axium.Groups
