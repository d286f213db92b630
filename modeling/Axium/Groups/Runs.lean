import Axium.Groups.Loading

/-!
# Runs of operations on groups

Every operation, a restart included, keeps the groups standing and the tables in step, as long as the rows of the
ordinary groups are spared: `RemoveMember` deletes the row of the player whatever group it is called for, and a player
may be put into a second ordinary group. `AddInvite` turns down whoever has a group, but the leader of a new group is
not asked again when the first invited player accepts.
-/

namespace Axium.Groups

open Run

structure World.Vacant (w : World) : Prop where
  group : ∀ g, w.group g = none
  player : ∀ p, (w.player p).group = none ∧ (w.player p).originalGroup = none
  bgRaid : ∀ k, w.bgRaid k = none
  groups : w.db.groups = []
  member : ∀ p, w.db.member p = none
  store : w.groupDbStore = []

/-- The raid of a battleground that `RemoveMember` does not disband at once. -/
def Group.staysRaid (grp : Group) : Bool := grp.isBGGroup && 1 < grp.memberSlots.length

/-- No row of an ordinary group is lost: a player who is put into one has no row, nor has one who is removed from the
raid of a battleground. -/
def World.SparesRows (w : World) : Operation → Prop
  | .create leader second => (w.findPlayer leader && w.findPlayer second && leader ≠ second) = true →
      w.db.member leader = none ∧ w.db.member second = none
  | .addMember g p => ((w.group g).any (·.admits p) && w.findPlayer p) = true → w.db.member p = none
  | .removeMember g guid => (w.group g).any (·.staysRaid) = true → w.db.member guid = none
  | _ => True

instance (w : World) : DecidablePred w.SparesRows
  | .create .. => inferInstanceAs (Decidable (_ → _ ∧ _))
  | .addMember g p => inferInstanceAs (Decidable (((w.group g).any (·.admits p) && w.findPlayer p) = true → _))
  | .removeMember g _ => inferInstanceAs (Decidable ((w.group g).any (·.staysRaid) = true → _))
  | .joinBattleground .. | .convertToRaid .. | .changeMembersGroup .. | .changeLeader .. | .setGroupMemberFlag ..
  | .disband .. | .login .. | .logout .. | .reload .. => isTrue trivial

/-- The live groups stand, and the tables hold them. -/
structure World.Ordered (w : World) : Prop where
  standing : Standing w none
  stored : Stored w

section Runs

variable {w : World} {g p : Nat} {grp : Group}

theorem World.Vacant.standing (h : w.Vacant) : Standing w none := by
  have hnone {g : Nat} {y : Group} : w.group g ≠ some y := by
    rw [h.group g]
    nofun
  refine ⟨⟨fun g y hy => absurd hy hnone, fun g y hy => absurd hy hnone, fun g _ => h.group g, fun p g hp => ?_,
    fun k g hk => ?_⟩, fun g y _ hy => absurd hy hnone, fun g y _ hy => absurd hy hnone⟩
  · unfold World.Refers at hp
    rw [(h.player p).1, (h.player p).2] at hp
    rcases hp with hp | hp <;> cases hp
  · rw [h.bgRaid k] at hk
    cases hk

theorem World.Vacant.stored (h : w.Vacant) : Stored w := by
  have hnone {g : Nat} {c : Profile} : w.profiles g ≠ some c := by
    unfold World.profiles
    rw [h.group g]
    nofun
  refine ⟨?_, fun row => ?_, fun p row => ?_, fun id g => ?_, ?_⟩
  · rw [h.groups]
    exact List.Pairwise.nil
  · rw [h.groups]
    exact ⟨fun hrow => (nomatch hrow), fun ⟨_, _, hc, _⟩ => absurd hc hnone⟩
  · rw [h.member p]
    exact ⟨fun hrow => (nomatch hrow), fun ⟨_, _, _, hc, _⟩ => absurd hc hnone⟩
  · rw [h.store]
    exact ⟨fun hid => (nomatch hid), fun ⟨_, hc, _⟩ => absurd hc hnone⟩
  · rw [h.store]
    rfl

theorem exists_of_any {b : Group → Bool} (hany : (w.group g).any b = true) :
    ∃ grp, w.group g = some grp ∧ b grp = true := by
  cases hg : w.group g with
  | none =>
    rw [hg] at hany
    cases hany
  | some grp =>
    rw [hg] at hany
    exact ⟨grp, rfl, hany⟩

theorem Group.admits_iff : grp.admits p = true ↔
    grp.ordinary = true ∧ grp.isFull = false ∧ grp.isMember p = false := by
  unfold Group.admits Group.ordinary
  rw [Bool.and_eq_true, Bool.and_eq_true, Bool.not_eq_true', Bool.not_eq_true', and_assoc]

theorem World.Ordered.createGroup (h : w.Ordered) {leader second : Nat}
    (hcheck : (w.findPlayer leader && w.findPlayer second && leader ≠ second) = true)
    (hspares : w.SparesRows (.create leader second)) : (w.createGroup leader second).Ordered := by
  obtain ⟨hrow, hrow'⟩ := hspares hcheck
  rw [Bool.and_eq_true, Bool.and_eq_true, decide_eq_true_eq] at hcheck
  obtain ⟨⟨hleader, hsecond⟩, hne⟩ := hcheck
  exact ⟨h.standing.createGroup hleader hsecond hne,
    h.stored.createGroup (h.standing.live.free w.nextGroup (le_refl _)) hrow hrow' hne⟩

theorem World.Ordered.addMember (h : w.Ordered) (hg : w.group g = some grp) (hadmits : grp.admits p = true)
    (hfind : w.findPlayer p = true) (hrow : w.db.member p = none) : (w.addMember g p).1.Ordered := by
  obtain ⟨hordinary, hfull, hmember⟩ := Group.admits_iff.1 hadmits
  refine ⟨h.standing.addMember hg hfind (fun hmem => ?_) (fun hparty => ?_) (fun hbg => ?_) fun _ =>
    h.standing.led g grp (nomatch ·) hg, h.stored.addMember hg hordinary hrow⟩
  · rw [Group.isMember_iff.2 hmem] at hmember
    cases hmember
  · unfold Group.isFull at hfull
    rw [hparty] at hfull
    exact Nat.lt_of_not_le (of_decide_eq_false hfull)
  · rw [(Group.ordinary_iff.1 hordinary).1] at hbg
    cases hbg

theorem staysRaid_of_least (hbg : grp.isBGGroup = true) (hleast : grp.leastSize < grp.memberSlots.length) :
    grp.staysRaid = true := by
  unfold Group.leastSize at hleast
  rw [if_pos hbg] at hleast
  unfold Group.staysRaid
  rw [hbg, decide_eq_true hleast]
  rfl

theorem World.Ordered.removeMember (h : w.Ordered) (hg : w.group g = some grp) {guid : Nat}
    (hcheck : (grp.isBGGroup || grp.isMember guid) = true)
    (hrow : grp.staysRaid = true → w.db.member guid = none) : (w.removeMember g guid).Ordered := by
  refine ⟨h.standing.removeMember g guid, h.stored.removeMember h.standing hg
    (fun hbg hleast => hrow (staysRaid_of_least hbg hleast)) fun hbg => ?_⟩
  · rw [hbg] at hcheck
    exact Group.isMember_iff.1 hcheck

theorem World.Ordered.login (h : w.Ordered) (hp : p ∈ w.guids) (hoffline : (w.player p).online = false) :
    (w.login p).Ordered :=
  ⟨h.standing.login hp hoffline fun _ _ hrow hg => h.stored.linked hrow hg,
    (sameTables_modifyPlayer w p _).stored h.stored⟩

theorem World.Ordered.operate (h : w.Ordered) (op : Operation) (hspares : w.SparesRows op) :
    (w.operate op).Ordered := by
  have hite {c : Prop} [Decidable c] {v : World} (hv : c → v.Ordered) : World.Ordered (if c then v else w) := by
    split
    · next hc => exact hv hc
    · exact h
  have hcreated {g : Nat} {grp : Group} (hg : w.group g = some grp) : grp.isCreated = true :=
    (h.standing.led g grp (nomatch ·) hg).isCreated
  cases op with
  | create leader second => exact hite fun hcheck => h.createGroup hcheck hspares
  | addMember g p =>
    refine hite fun hcheck => ?_
    obtain ⟨hany, hfind⟩ := Bool.and_eq_true_iff.1 hcheck
    obtain ⟨grp, hg, hadmits⟩ := exists_of_any hany
    exact h.addMember hg hadmits hfind (hspares hcheck)
  | joinBattleground k p =>
    exact hite fun hfind => ⟨h.standing.joinBattleground k hfind, h.stored.joinBattleground h.standing k p⟩
  | removeMember g guid =>
    refine hite fun hcheck => ?_
    obtain ⟨grp, hg, hallowed⟩ := exists_of_any hcheck
    refine h.removeMember hg hallowed fun hstays => hspares ?_
    rw [hg]
    exact hstays
  | convertToRaid g =>
    refine hite fun hcheck => ?_
    obtain ⟨grp, hg, -⟩ := exists_of_any hcheck
    exact ⟨h.standing.convertToRaid g, h.stored.convertToRaid hg (hcreated hg)⟩
  | changeMembersGroup g guid groupNr =>
    change World.Ordered (if h : _ then if _ then _ else _ else _)
    split
    · exact hite fun hfree => ⟨h.standing.changeMembersGroup g guid hfree,
        h.stored.changeMembersGroup (fun grp hg => h.standing.live.sound g grp hg) guid _⟩
    · exact h
  | changeLeader g guid => exact ⟨h.standing.changeLeader g guid, h.stored.changeLeader g guid⟩
  | setGroupMemberFlag g guid apply flag =>
    exact ⟨h.standing.setGroupMemberFlag g guid apply flag, h.stored.setGroupMemberFlag g guid apply flag⟩
  | disband g =>
    refine hite fun hcheck => ?_
    obtain ⟨grp, hg, -⟩ := exists_of_any hcheck
    exact ⟨(h.standing.except (some g)).disband, h.stored.disband hg (hcreated hg)⟩
  | login p => exact hite fun hcheck => h.login hcheck.1 hcheck.2
  | logout p socket => exact hite fun _ => ⟨h.standing.logout p socket, h.stored.logout h.standing p socket⟩
  | reload order =>
    exact hite fun horder => ⟨h.standing.reload h.stored horder, h.stored.reload h.standing horder⟩

/-- From an empty server, every run that spares the rows of live groups keeps both. -/
theorem World.Vacant.ordered_run (h : w.Vacant) {es : List Operation}
    (hspares : AllSteps World.operate World.SparesRows w es) : (run World.operate w es).Ordered :=
  hspares.invariant (fun _ op hordered hop => hordered.operate op hop) ⟨h.standing, h.stored⟩

/-- **Group structure.** In every run that spares the rows, each group has distinct members, counts those of its
subgroups, is no larger than it may be and is led by a member. -/
theorem groups_structured (h : w.Vacant) {es : List Operation}
    (hspares : AllSteps World.operate World.SparesRows w es) (g : Nat) (grp : Group)
    (hg : (run World.operate w es).group g = some grp) : grp.Structured := by
  have hordered := h.ordered_run hspares
  exact (hordered.standing.live.sound g grp hg).structured (hordered.standing.led g grp (nomatch ·) hg)

def firstStart (guids : Finset Nat) : World where
  guids := guids
  player _ := ⟨true, none, none, none⟩
  group _ := none
  nextGroup := 0
  bgRaid _ := none
  groupDbStore := []
  nextGroupDbStoreId := 1
  db := ⟨[], fun _ => none⟩

theorem vacant_firstStart (guids : Finset Nat) : (firstStart guids).Vacant :=
  ⟨fun _ => rfl, fun _ => ⟨rfl, rfl⟩, fun _ => rfl, rfl, fun _ => rfl, rfl⟩

/-- A raid of four, two of whom fight in a battleground with a stranger, until the server is restarted. -/
def raidRun : List Operation :=
  [.create 1 2, .addMember 0 3, .convertToRaid 0, .addMember 0 4, .changeMembersGroup 0 3 2, .joinBattleground 0 1,
    .joinBattleground 0 2, .joinBattleground 0 5, .removeMember 1 5, .changeLeader 0 2, .removeMember 0 4,
    .reload [5, 4, 3, 2, 1]]

theorem groups_structured_raid :
    ∃ grp, (run World.operate (firstStart {1, 2, 3, 4, 5}) raidRun).group 2 = some grp ∧ grp.Structured := by
  have hspares : AllSteps World.operate World.SparesRows (firstStart {1, 2, 3, 4, 5}) raidRun := by decide
  exact ⟨_, rfl, groups_structured (vacant_firstStart {1, 2, 3, 4, 5}) hspares 2 _ rfl⟩

def removalRun : List Operation :=
  [.create 1 2, .addMember 0 3, .joinBattleground 0 1, .joinBattleground 0 2, .removeMember 1 1, .reload [1, 2, 3]]

/-- Player 1 has invited 2, and joins the party of 3 before 2 accepts: he leads a second party, in which his row cannot
be stored, until the server is restarted. -/
def secondPartyRun : List Operation := [.create 3 1, .create 1 2, .addMember 1 4, .reload [1, 2, 3, 4]]

/-- After a restart player 1 leads his party from outside: he has left a battleground, or had two parties. -/
theorem leader_lost_in_battleground :
    (∃ grp, (run World.operate (firstStart {1, 2, 3}) removalRun).group 2 = some grp ∧ ¬ grp.Structured) ∧
      ∃ grp, (run World.operate (firstStart {1, 2, 3, 4}) secondPartyRun).group 3 = some grp ∧ ¬ grp.Structured := by
  refine ⟨⟨_, rfl, fun h => ?_⟩, ⟨_, rfl, fun h => ?_⟩⟩
  · have hled : 1 ∈ [2, 3] := h.leader
    revert hled
    decide
  · have hled : 1 ∈ [2, 4] := h.leader
    revert hled
    decide

end Runs

end Axium.Groups
