import Axium.Groups.Runs

/-!
# Stored groups and live groups

No row has flags: the statement of `SetGroupMemberFlag` never finds one. As long as no flag is set for a member of an
ordinary raid and the rows are spared, a restart brings back exactly the ordinary groups, and what happens in the raids
of battlegrounds leaves the tables alone.
-/

namespace Axium.Groups

open Run List Function World

def Group.Plain (grp : Group) : Prop := grp.isBGGroup = false → ∀ s ∈ grp.memberSlots, s.bare = s

def World.Plain (w : World) : Prop := ∀ g grp, w.group g = some grp → grp.Plain

def World.SetsNoFlag (w : World) : Operation → Prop
  | .setGroupMemberFlag g guid apply _ =>
    apply = true → (w.group g).any (fun grp => !grp.isBGGroup && grp.raid && grp.isMember guid) = false
  | _ => True

instance (w : World) : DecidablePred w.SetsNoFlag
  | .setGroupMemberFlag .. => inferInstanceAs (Decidable (_ = true → _ = false))
  | .create .. | .addMember .. | .joinBattleground .. | .removeMember .. | .convertToRaid .. | .changeMembersGroup ..
  | .changeLeader .. | .disband .. | .login .. | .logout .. | .reload .. => isTrue trivial

/-- The groups of `w'` are the ordinary groups of `w`. -/
structure World.Mirrors (w' w : World) : Prop where
  live : ∀ g' y, w'.group g' = some y →
    ∃! g, ∃ grp, w.group g = some grp ∧ grp.ordinary = true ∧ y.Mirrors grp
  loaded : ∀ g grp, w.group g = some grp → grp.ordinary = true → ∃! g', ∃ y, w'.group g' = some y ∧ y.Mirrors grp

def World.onRaid (w : World) : Operation → Bool
  | .joinBattleground .. => true
  | .removeMember g _ | .convertToRaid g | .changeMembersGroup g _ _ | .changeLeader g _
  | .setGroupMemberFlag g _ _ _ | .disband g => (w.group g).any (·.isBGGroup)
  | .create .. | .addMember .. | .login .. | .logout .. | .reload .. => false

section Plain

variable {w w' : World} {g p : Nat} {grp grp' : Group} {s : MemberSlot}

/-! ## Flags -/

theorem bare_eq_iff : s.bare = s ↔ s.flags = ∅ ∧ s.roles = 0 := by
  rw [MemberSlot.mk.injEq]
  exact ⟨fun h => ⟨h.2.2.1.symm, h.2.2.2.symm⟩, fun h => ⟨rfl, rfl, h.1.symm, h.2.symm⟩⟩

theorem forall_writeSlot {u : MemberSlot → MemberSlot} {guid : Nat} {l : List MemberSlot} {P : MemberSlot → Prop}
    (hl : ∀ s ∈ l, P s) (hu : ∀ s, P s → P (u s)) : ∀ s ∈ writeSlot guid u l, P s := by
  induction l with
  | nil => exact hl
  | cons b l ih =>
    obtain ⟨hb, hrest⟩ := forall_mem_cons.1 hl
    rw [writeSlot]
    split
    · exact forall_mem_cons.2 ⟨hu b hb, hrest⟩
    · exact forall_mem_cons.2 ⟨hb, ih hrest⟩

section

variable (h : grp.Plain)
include h

theorem Group.Plain.of_slots (hbg : grp'.isBGGroup = grp.isBGGroup)
    (hslots : ∀ s ∈ grp'.memberSlots, s ∈ grp.memberSlots) : grp'.Plain :=
  fun hnot s hs => h (hbg.symm.trans hnot) s (hslots s hs)

theorem Group.Plain.toggle_false (guid : Nat) (flag : GroupMemberFlags) :
    (grp.toggleGroupMemberFlag guid flag false).Plain := by
  intro hbg
  refine forall_writeSlot (h hbg) fun s hs => ?_
  obtain ⟨hflags, hroles⟩ := bare_eq_iff.1 hs
  refine bare_eq_iff.2 ⟨?_, hroles⟩
  change s.flags.erase flag = ∅
  rw [hflags, Finset.erase_empty]

theorem Group.Plain.removeUnique (flag : GroupMemberFlags) : (grp.removeUniqueGroupMemberFlag flag).Plain := by
  intro hbg s hs
  obtain ⟨b, hb, rfl⟩ := mem_map.1 hs
  obtain ⟨hflags, hroles⟩ := bare_eq_iff.1 (h hbg b hb)
  refine bare_eq_iff.2 ⟨?_, hroles⟩
  change b.flags.erase flag = ∅
  rw [hflags, Finset.erase_empty]

theorem Group.Plain.setGroupMemberFlag {guid : Nat} {apply : Bool} (flag : GroupMemberFlags)
    (hnot : apply = true → (!grp.isBGGroup && grp.raid && grp.isMember guid) = false) :
    (grp.setGroupMemberFlag guid apply flag).Plain := by
  intro hbg
  rw [(keeps_setGroupMemberFlag grp guid apply flag).1] at hbg
  unfold Group.setGroupMemberFlag
  split
  · next hcheck =>
    have happly : apply = false := by
      by_contra htrue
      have hfalse := hnot (Bool.eq_true_of_not_eq_false htrue)
      rw [hbg, Bool.not_false, Bool.true_and, hcheck] at hfalse
      cases hfalse
    rw [happly]
    refine Group.Plain.toggle_false ?_ guid flag ?_
    · split
      · exact h
      · exact h.removeUnique flag
    · split <;> exact hbg
  · exact h hbg

theorem Group.Plain.pushSlot (p : Nat) (i : Fin maxRaidSubgroups) :
    (grp.pushSlot (Group.newSlot p i)).Plain := by
  intro hbg s hs
  obtain hs | hs := mem_append.1 hs
  · exact h hbg s hs
  · rw [mem_singleton.1 hs]
    rfl

theorem Group.Plain.eraseSlot (guid : Nat) : (grp.eraseSlot guid).Plain := by
  refine h.of_slots (isBGGroup_eraseSlot grp guid) fun s hs => ?_
  unfold Group.eraseSlot at hs
  split at hs
  · exact hs
  · exact mem_of_mem_eraseP hs

theorem Group.Plain.changeMembersGroup (guid : Nat) (i : Fin maxRaidSubgroups) :
    (grp.changeMembersGroup guid i).Plain := by
  intro hbg
  rw [(keeps_changeMembersGroup grp guid i).1] at hbg
  unfold Group.changeMembersGroup
  split
  · split
    · exact h hbg
    · split
      · exact h hbg
      · refine forall_writeSlot (h hbg) fun s hs => bare_eq_iff.2 ?_
        exact (bare_eq_iff.1 hs : s.flags = ∅ ∧ s.roles = 0)
  · exact h hbg

theorem Group.Plain.setUp (leader : Nat) : (grp.setUp leader).Plain := by
  unfold Group.setUp
  dsimp only
  split <;> exact h

end

/-! ## Worlds -/

section

variable (h : w.Plain)
include h

theorem World.Plain.of_group (hgroup : w'.group = w.group) : w'.Plain :=
  fun g grp hg => h g grp (hgroup ▸ hg)

theorem World.Plain.setGroup (g : Nat) (hnew : grp'.Plain) : (w.setGroup g grp').Plain := by
  intro g' y hy
  rw [group_setGroup] at hy
  split at hy
  · exact Option.some.inj hy ▸ hnew
  · exact h g' y hy

theorem World.Plain.modifyGroup {u : Group → Group}
    (hu : ∀ y, w.group g = some y → y.Plain → (u y).Plain) : (w.modifyGroup g u).Plain := by
  unfold World.modifyGroup
  split
  · exact h
  · next y hy => exact h.setGroup g (hu y hy (h g y hy))

theorem World.Plain.deleteGroup (g : Nat) : (w.deleteGroup g).Plain := by
  intro g' y hy
  rw [show (w.deleteGroup g).group g' = if g' = g then none else w.group g' from update_apply ..] at hy
  split at hy
  · cases hy
  · exact h g' y hy

theorem World.Plain.removeInvite (g p : Nat) : (w.removeInvite g p).Plain :=
  World.Plain.of_group (w := w.modifyGroup g (·.eraseInvitee p)) (h.modifyGroup fun _ _ hy => hy) rfl

theorem World.Plain.removeAllInvites (g : Nat) : (w.removeAllInvites g).Plain := by
  unfold World.removeAllInvites
  split
  · exact h
  · next grp hg => exact (h.setGroup g (show Group.Plain { grp with invitees := ∅ } from h g grp hg)).of_group rfl

theorem World.Plain.disband (g : Nat) : (w.disband g).Plain := by
  unfold World.disband
  split
  · exact h
  · next grp hg =>
    have hunlinked := sameTables_foldl_unlinkMember g grp.isBGGroup grp.memberSlots w
    have hremoved := (h.of_group hunlinked.group).removeAllInvites g
    refine World.Plain.deleteGroup ?_ g
    split
    · exact hremoved
    · exact hremoved.of_group rfl

theorem World.Plain.changeLeader (g guid : Nat) : (w.changeLeader g guid).Plain := by
  unfold World.changeLeader
  split
  · exact h
  · next grp hg =>
    have hdb (db : Database) : (w.setDb db).Plain := h.of_group rfl
    have hnew := Group.Plain.toggle_false (show (grp.setLeader guid).Plain from h g grp hg) guid .assistant
    split
    · dsimp only
      split
      · exact h.setGroup g hnew
      · exact (hdb _).setGroup g hnew
    · exact h

theorem World.Plain.pickLeader (g guid : Nat) : (w.pickLeader g guid).Plain := by
  unfold World.pickLeader
  split
  · exact h
  · split
    · split
      · exact h
      · exact h.changeLeader g _
    · exact h

theorem World.Plain.removeMember (g guid : Nat) : (w.removeMember g guid).Plain := by
  unfold World.removeMember
  split
  · exact h
  · next grp hg =>
    split
    · have htaken : (w.takeOut g guid grp).Plain :=
        (h.of_group (group_unlinkMember guid g grp.isBGGroup)).setGroup g ((h g grp hg).eraseSlot guid)
      have hpicked := htaken.pickLeader g guid
      unfold disbandIfSmall
      split
      · exact hpicked.disband g
      · exact hpicked
    · exact h.disband g

theorem World.Plain.addMember (g p : Nat) : (w.addMember g p).1.Plain := by
  unfold World.addMember
  split
  · exact h
  · next grp hg =>
    split
    · exact h
    · next i _ => exact (h.setGroup g ((h g grp hg).pushSlot p i)).of_group (group_placeMember g p grp i)

theorem World.Plain.create (g leader : Nat) : (w.create g leader).Plain := by
  unfold World.create
  split
  · exact h
  · next grp hg =>
    have hnew := (h g grp hg).setUp leader
    have hstored : Group.Plain { grp.setUp leader with dbStoreId := w.nextGroupDbStoreId } := hnew
    refine World.Plain.addMember ?_ g leader
    split
    · exact h.setGroup g hnew
    · exact h.setGroup (w := w) g hstored

theorem World.Plain.newGroup (bgGroup : Option Nat) : (w.newGroup bgGroup).Plain :=
  h.setGroup w.nextGroup fun _ _ hs => nomatch hs

theorem World.Plain.joinBattleground (k p : Nat) : (w.addOrSetPlayerToCorrectBgGroup k p).Plain := by
  unfold addOrSetPlayerToCorrectBgGroup
  split
  · refine World.Plain.create ?_ w.nextGroup p
    exact (h.newGroup (some k)).of_group rfl
  · next g _ =>
    split
    · exact h
    · split
      · exact h.of_group rfl
      · have hadded := h.addMember g p
        dsimp only
        split
        · exact hadded
        · split
          · exact hadded.changeLeader g p
          · exact hadded

theorem World.Plain.uninviteFromGroup (p : Nat) : (w.uninviteFromGroup p).Plain := by
  unfold World.uninviteFromGroup
  split
  · exact h
  · next g _ =>
    have hremoved := h.removeInvite g p
    dsimp only
    split
    · exact hremoved
    · split
      · split
        · exact hremoved.disband g
        · exact (hremoved.removeAllInvites g).deleteGroup g
      · exact hremoved

theorem World.Plain.logout (p : Nat) (socket : Bool) : (w.logout p socket).Plain := by
  have huninvited := h.uninviteFromGroup p
  unfold World.logout
  dsimp only
  cases ((w.uninviteFromGroup p).player p).group with
  | none => exact huninvited.of_group rfl
  | some g =>
    dsimp only
    split
    · exact (huninvited.removeMember _ p).of_group rfl
    · exact huninvited.of_group rfl

end

theorem bare_of_plain (h : grp.Plain) (hbg : grp.isBGGroup = false) : grp.bare = grp := by
  unfold Group.bare
  rw [map_congr_left (g := id) (h hbg), map_id]
  rfl

theorem World.Plain.reload (hw : w.Ordered) {order : List Nat} (horder : w.Enumerates order) :
    (w.reload order).Plain := by
  intro g y hy _ s hs
  obtain ⟨g', grp, hg', hordinary, rfl⟩ := (hw.stored.loaded hw.standing order).origin hw.stored hy
  have hmirrors := hw.stored.loadGroup_mirrors hw.standing horder hg' hordinary
  obtain ⟨b, -, rfl⟩ := mem_map.1 (hmirrors.slots.mem_iff.1 hs)
  rfl

theorem World.Plain.createGroup (h : w.Plain) (leader second : Nat) : (w.createGroup leader second).Plain :=
  ((h.newGroup none).create w.nextGroup leader).addMember w.nextGroup second

theorem World.Plain.convertToRaid (h : w.Plain) (g : Nat) : (w.convertToRaid g).Plain := by
  unfold World.convertToRaid
  split
  · exact h
  · next grp hg =>
    have hset : (w.setGroup g grp.convertToRaid).Plain := h.setGroup g (show grp.convertToRaid.Plain from h g grp hg)
    split
    · exact hset
    · exact hset.of_group rfl

theorem World.Plain.changeMembersGroup (h : w.Plain) (g guid : Nat) (i : Fin maxRaidSubgroups) :
    (w.changeMembersGroup g guid i).Plain := by
  unfold World.changeMembersGroup
  split
  · exact h
  · next grp hg =>
    have hset := h.setGroup g ((h g grp hg).changeMembersGroup guid i)
    split
    · exact hset.of_group rfl
    · exact hset

theorem World.Plain.operate (h : w.Plain) (hw : w.Ordered) (op : Operation) (hflag : w.SetsNoFlag op) :
    (w.operate op).Plain := by
  have hite {c : Prop} [Decidable c] {v : World} (hv : c → v.Plain) : World.Plain (if c then v else w) := by
    split
    · next hc => exact hv hc
    · exact h
  cases op with
  | create leader second => exact hite fun _ => h.createGroup leader second
  | addMember g p => exact hite fun _ => h.addMember g p
  | joinBattleground k p => exact hite fun _ => h.joinBattleground k p
  | removeMember g guid => exact hite fun _ => h.removeMember g guid
  | convertToRaid g => exact hite fun _ => h.convertToRaid g
  | changeMembersGroup g guid groupNr =>
    change World.Plain (if h : _ then if _ then _ else _ else _)
    split
    · exact hite fun _ => h.changeMembersGroup g guid _
    · exact h
  | changeLeader g guid => exact h.changeLeader g guid
  | setGroupMemberFlag g guid apply flag =>
    refine h.modifyGroup fun y hy hplain => hplain.setGroupMemberFlag flag fun happly => ?_
    have hnot := hflag happly
    rwa [hy, Option.any_some] at hnot
  | disband g => exact hite fun _ => h.disband g
  | login p => exact hite fun _ => h.of_group rfl
  | logout p socket => exact hite fun _ => h.logout p socket
  | reload order => exact hite fun horder => World.Plain.reload hw horder

/-! ## Restarts -/

theorem World.Ordered.reload_mirrors (hw : w.Ordered) (h : w.Plain) {order : List Nat} (horder : w.Enumerates order) :
    (w.reload order).Mirrors w := by
  have hloaded := hw.stored.loaded hw.standing order
  have hstored := hw.stored.reload hw.standing horder
  have hmirrors {g : Nat} {grp : Group} (hg : w.group g = some grp) (hordinary : grp.ordinary = true) :
      (w.db.loadGroup order grp.stored.row).Mirrors grp := by
    have hbare := hw.stored.loadGroup_mirrors hw.standing horder hg hordinary
    rwa [bare_of_plain (h g grp hg) (Group.ordinary_iff.1 hordinary).1] at hbare
  refine ⟨fun g' y hy => ?_, fun g grp hg hordinary => ?_⟩
  · obtain ⟨g, grp, hg, hordinary, rfl⟩ := hloaded.origin hw.stored hy
    refine ⟨g, ⟨grp, hg, hordinary, hmirrors hg hordinary⟩, ?_⟩
    rintro g₂ ⟨grp₂, hg₂, hordinary₂, hmirrors₂⟩
    exact hw.stored.group_unique hg₂ hordinary₂ hg hordinary
      (hmirrors₂.dbStoreId.symm.trans (hmirrors hg hordinary).dbStoreId)
  · obtain ⟨g', hg', -⟩ := hloaded.image hw.stored hg hordinary
    have hback := (hmirrors hg hordinary).ordinary hordinary
    refine ⟨g', ⟨_, hg', hmirrors hg hordinary⟩, ?_⟩
    rintro g₂ ⟨y₂, hg₂, hmirrors₂⟩
    exact hstored.group_unique hg₂ (hmirrors₂.ordinary hordinary) hg' hback
      (hmirrors₂.dbStoreId.trans (hmirrors hg hordinary).dbStoreId.symm)

/-! ## Raids of battlegrounds -/

theorem db_changeLeader_raid (hg : w.group g = some grp) (hbg : grp.isBGGroup = true) (guid : Nat) :
    (w.changeLeader g guid).db = w.db := by
  unfold World.changeLeader
  rw [hg]
  dsimp only
  by_cases hcheck : (grp.isMember guid && w.findPlayer guid) = true
  · rw [if_pos hcheck, if_pos hbg]
    rfl
  · rw [if_neg hcheck]

theorem db_pickLeader_raid (hg : w.group g = some grp) (hbg : grp.isBGGroup = true) (guid : Nat) :
    (w.pickLeader g guid).db = w.db := by
  unfold World.pickLeader
  rw [hg]
  dsimp only
  split
  · split
    · rfl
    · exact db_changeLeader_raid hg hbg _
  · rfl

theorem db_disband_raid (hg : w.group g = some grp) (hbg : grp.isBGGroup = true) : (w.disband g).db = w.db := by
  have hunlinked := sameTables_foldl_unlinkMember g grp.isBGGroup grp.memberSlots w
  unfold World.disband
  rw [hg]
  dsimp only
  rw [if_pos hbg]
  refine Eq.trans ?_ hunlinked.db
  unfold World.removeAllInvites
  split <;> rfl

theorem db_removeMember_raid (hw : Standing w none) (hg : w.group g = some grp) (hbg : grp.isBGGroup = true)
    {guid : Nat} (hrow : grp.staysRaid = true → w.db.member guid = none) : (w.removeMember g guid).db = w.db := by
  unfold World.removeMember
  rw [hg]
  dsimp only
  split
  · next hleast =>
    have htaken : (w.takeOut g guid grp).db = w.db :=
      Database.deleteMember_of_none (hrow (staysRaid_of_least hbg hleast))
    have hbg' := (isBGGroup_eraseSlot grp guid).trans hbg
    have hpicked := (db_pickLeader_raid (group_takeOut w g guid grp) hbg' guid).trans htaken
    obtain ⟨-, -, -, y, hy, -, hsame, -⟩ := (hw.takeOut hg guid).pickLeader (group_takeOut w g guid grp) guid
    unfold disbandIfSmall
    split
    · exact (db_disband_raid hy (hsame.trans hbg')).trans hpicked
    · exact hpicked
  · exact db_disband_raid hg hbg

theorem db_addMember_raid (hg : w.group g = some grp) (hbg : grp.isBGGroup = true) (p : Nat) :
    (w.addMember g p).1.db = w.db := by
  unfold World.addMember
  rw [hg]
  dsimp only
  split
  · rfl
  · unfold placeMember
    rw [if_pos hbg]
    rfl

theorem group_addMember_raid (hg : w.group g = some grp) (hbg : grp.isBGGroup = true) (p : Nat) :
    ∃ y, (w.addMember g p).1.group g = some y ∧ y.isBGGroup = true := by
  unfold World.addMember
  rw [hg]
  dsimp only
  split
  · exact ⟨grp, hg, hbg⟩
  · rw [group_placeMember, update_self]
    exact ⟨_, rfl, hbg⟩

theorem db_joinBattleground (hw : Standing w none) (k p : Nat) : (w.addOrSetPlayerToCorrectBgGroup k p).db = w.db := by
  unfold addOrSetPlayerToCorrectBgGroup
  cases hk : w.bgRaid k with
  | none =>
    rw [create_raid_eq (k := k) (update_self ..)]
    exact db_addMember_raid (update_self ..) rfl p
  | some g =>
    obtain ⟨grp, hg, hbg⟩ := hw.live.raids k g hk
    obtain ⟨y, hy, hybg⟩ := group_addMember_raid hg hbg p
    have hadded := db_addMember_raid hg hbg p
    dsimp only
    rw [hg]
    dsimp only
    split
    · rfl
    · split
      · exact hadded
      · split
        · exact (db_changeLeader_raid hy hybg p).trans hadded
        · exact hadded

theorem db_convertToRaid_raid (hg : w.group g = some grp) (hbg : grp.isBGGroup = true) :
    (w.convertToRaid g).db = w.db := by
  unfold World.convertToRaid
  rw [hg]
  dsimp only
  rw [if_pos hbg]
  rfl

theorem db_changeMembersGroup_raid (hg : w.group g = some grp) (hbg : grp.isBGGroup = true) (guid : Nat)
    (i : Fin maxRaidSubgroups) : (w.changeMembersGroup g guid i).db = w.db := by
  unfold World.changeMembersGroup
  rw [hg]
  dsimp only
  rw [hbg, Bool.not_true, Bool.and_false]
  rfl

/-- **An operation on the raid of a battleground** leaves the tables alone, if it spares the rows. -/
theorem World.Ordered.db_operate_raid (hw : w.Ordered) {op : Operation} (hraid : w.onRaid op = true)
    (hspares : w.SparesRows op) : (w.operate op).db = w.db := by
  have hite {c : Prop} [Decidable c] {v : World} (hv : v.db = w.db) : (if c then v else w).db = w.db := by
    split
    · exact hv
    · rfl
  cases op with
  | joinBattleground k p => exact hite (db_joinBattleground hw.standing k p)
  | removeMember g guid =>
    obtain ⟨grp, hg, hbg⟩ := exists_of_any hraid
    refine hite (db_removeMember_raid hw.standing hg hbg fun hstays => hspares ?_)
    rw [hg]
    exact hstays
  | convertToRaid g =>
    obtain ⟨grp, hg, hbg⟩ := exists_of_any hraid
    exact hite (db_convertToRaid_raid hg hbg)
  | changeMembersGroup g guid groupNr =>
    obtain ⟨grp, hg, hbg⟩ := exists_of_any hraid
    change db (if h : _ then if _ then _ else _ else _) = _
    split
    · exact hite (db_changeMembersGroup_raid hg hbg guid _)
    · rfl
  | changeLeader g guid =>
    obtain ⟨grp, hg, hbg⟩ := exists_of_any hraid
    exact db_changeLeader_raid hg hbg guid
  | setGroupMemberFlag g guid apply flag =>
    change db (w.modifyGroup g _) = _
    unfold World.modifyGroup
    split <;> rfl
  | disband g =>
    obtain ⟨grp, hg, hbg⟩ := exists_of_any hraid
    exact hite (db_disband_raid hg hbg)
  | create | addMember | login | logout | reload => exact absurd hraid Bool.false_ne_true

theorem World.Vacant.plain (h : w.Vacant) : w.Plain := by
  intro g grp hg
  rw [h.group g] at hg
  cases hg

/-- **Stored groups mirror live groups.** After every run that spares the rows and sets no flag in an ordinary raid, a
restart brings back exactly the ordinary groups, and an operation on the raid of a battleground that spares the rows
changes no table. -/
theorem stored_mirror_live (h : w.Vacant) {es : List Operation}
    (hsteps : AllSteps operate (fun w op => w.SparesRows op ∧ w.SetsNoFlag op) w es) :
    (∀ order, (run operate w es).Enumerates order →
      ((run operate w es).reload order).Mirrors (run operate w es)) ∧
    ∀ op, (run operate w es).onRaid op = true → (run operate w es).SparesRows op →
      ((run operate w es).operate op).db = (run operate w es).db := by
  have hkept := hsteps.invariant (I := fun w => w.Ordered ∧ w.Plain)
    (fun _ op hw hop => ⟨hw.1.operate op hop.1, hw.2.operate hw.1 op hop.2⟩) ⟨⟨h.standing, h.stored⟩, h.plain⟩
  exact ⟨fun _ horder => hkept.1.reload_mirrors hkept.2 horder, fun _ hraid hspares =>
    hkept.1.db_operate_raid hraid hspares⟩

theorem stored_mirror_live_raid :
    ((run operate (firstStart {1, 2, 3, 4, 5}) raidRun).reload [1, 2, 3, 4, 5]).Mirrors
      (run operate (firstStart {1, 2, 3, 4, 5}) raidRun) := by
  have hsteps : AllSteps operate (fun w op => w.SparesRows op ∧ w.SetsNoFlag op) (firstStart {1, 2, 3, 4, 5})
      raidRun := by decide
  exact (stored_mirror_live (vacant_firstStart {1, 2, 3, 4, 5}) hsteps).1 [1, 2, 3, 4, 5] (by decide)

def lossRun : List Operation :=
  [.create 1 2, .addMember 0 3, .joinBattleground 0 1, .joinBattleground 0 2, .removeMember 1 1]

def assistantRun : List Operation := [.create 1 2, .convertToRaid 0, .setGroupMemberFlag 0 2 true .assistant]

/-- A member who leaves a raid loses his row in his own group, and the flag of an assistant is not stored. -/
theorem members_and_flags_lost :
    (¬ ((run operate (firstStart {1, 2, 3}) lossRun).reload [1, 2, 3]).Mirrors
      (run operate (firstStart {1, 2, 3}) lossRun)) ∧
    ¬ ((run operate (firstStart {1, 2}) assistantRun).reload [1, 2]).Mirrors
      (run operate (firstStart {1, 2}) assistantRun) := by
  constructor
  · intro h
    obtain ⟨g', ⟨y, hy, hmirrors⟩, -⟩ := h.loaded 0 _ rfl rfl
    obtain ⟨k, row, hk, -, rfl⟩ := ((loaded_reload _ [1, 2, 3] (by decide)).group g' y).1 hy
    have hrow : row ∈ [(⟨1, 1, false⟩ : GroupRow)] := mem_of_getElem? hk
    rw [mem_singleton.1 hrow] at hmirrors
    have hlength : 2 = 3 := hmirrors.length_eq
    cases hlength
  · intro h
    obtain ⟨g', ⟨y, hy, hmirrors⟩, -⟩ := h.loaded 0 _ rfl rfl
    obtain ⟨k, row, hk, -, rfl⟩ := ((loaded_reload _ [1, 2] (by decide)).group g' y).1 hy
    have hrow : row ∈ [(⟨1, 1, true⟩ : GroupRow)] := mem_of_getElem? hk
    rw [mem_singleton.1 hrow] at hmirrors
    have hslot : (⟨2, 0, {.assistant}, 0⟩ : MemberSlot) ∈ [(⟨1, 0, ∅, 0⟩ : MemberSlot), ⟨2, 0, ∅, 0⟩] :=
      hmirrors.slots.mem_iff.2 (.tail _ (.head _))
    revert hslot
    decide

end Plain

end Axium.Groups
