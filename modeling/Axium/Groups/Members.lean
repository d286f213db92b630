import Axium.Groups.Group
import Mathlib.Algebra.BigOperators.Fin
import Mathlib.Algebra.Order.BigOperators.Group.Finset

/-!
# The members of one group

The members are distinct, a raid counts the members of each subgroup, and no subgroup and no party has more than five
of them. Each operation on the slots keeps this. Who leads the group is another matter: a leader who is erased is a
leader no more.
-/

namespace Axium.Groups

open List Function

/-! ## Slots -/

section Slots

variable {l l₁ l₂ : List MemberSlot} {guid : Nat} {s : MemberSlot}

theorem find?_guid (h : l.find? (·.guid = guid) = some s) :
    s.guid = guid ∧ ∃ l₁ l₂, l = l₁ ++ s :: l₂ ∧ ∀ b ∈ l₁, b.guid ≠ guid := by
  obtain ⟨hs, l₁, l₂, hl, hnot⟩ := find?_eq_some_iff_append.1 h
  refine ⟨of_decide_eq_true hs, l₁, l₂, hl, fun b hb => ?_⟩
  have := hnot b hb
  simpa using this

variable (f : MemberSlot → MemberSlot)

theorem writeSlot_append (hs : s.guid = guid) (hnot : ∀ b ∈ l₁, b.guid ≠ guid) :
    writeSlot guid f (l₁ ++ s :: l₂) = l₁ ++ f s :: l₂ := by
  induction l₁ with
  | nil => exact if_pos hs
  | cons b l ih =>
    have hrest := ih fun b hb => hnot b (mem_cons_of_mem _ hb)
    rw [cons_append, writeSlot, if_neg (hnot b mem_cons_self), hrest, cons_append]

theorem eraseP_append_guid (hs : s.guid = guid) (hnot : ∀ b ∈ l₁, b.guid ≠ guid) :
    (l₁ ++ s :: l₂).eraseP (·.guid = guid) = l₁ ++ l₂ := by
  rw [eraseP_append_right _ fun b hb => by simpa using hnot b hb, eraseP_cons_of_pos (by simpa using hs)]

theorem map_guid_writeSlot (hf : ∀ s, (f s).guid = s.guid) (guid : Nat)
    (l : List MemberSlot) : (writeSlot guid f l).map (·.guid) = l.map (·.guid) := by
  induction l with
  | nil => rfl
  | cons b l ih =>
    rw [writeSlot]
    split
    · rw [map_cons, map_cons, hf]
    · rw [map_cons, map_cons, ih]

theorem countP_writeSlot (hf : ∀ s, (f s).group = s.group) (guid : Nat)
    (i : Fin maxRaidSubgroups) (l : List MemberSlot) :
    (writeSlot guid f l).countP (·.group = i) = l.countP (·.group = i) := by
  induction l with
  | nil => rfl
  | cons b l ih =>
    rw [writeSlot]
    split
    · rw [countP_cons, countP_cons, hf]
    · rw [countP_cons, countP_cons, ih]

theorem sum_countP_group (l : List MemberSlot) :
    ∑ i : Fin maxRaidSubgroups, l.countP (·.group = i) = l.length := by
  induction l with
  | nil => exact Finset.sum_const_zero
  | cons b l ih =>
    simp only [countP_cons, Finset.sum_add_distrib, ih, length_cons, decide_eq_true_eq]
    rw [Finset.sum_ite_eq Finset.univ b.group fun _ => 1, if_pos (Finset.mem_univ _)]

theorem foldl_countGroups (l : List MemberSlot) : ∀ c : Fin maxRaidSubgroups → Nat,
    (∀ i, c i + l.countP (·.group = i) < 2 ^ 8) →
      l.foldl (fun c s => update c s.group ((c s.group + 1) % 2 ^ 8)) c =
        fun i => c i + l.countP (·.group = i) := by
  induction l with
  | nil => exact fun c _ => rfl
  | cons b l ih =>
    intro c hlt
    have hstep (i : Fin maxRaidSubgroups) : update c b.group ((c b.group + 1) % 2 ^ 8) i +
        l.countP (·.group = i) = c i + (b :: l).countP (·.group = i) := by
      rw [countP_cons, update_apply]
      by_cases hi : i = b.group
      · subst hi
        have hb := hlt b.group
        rw [countP_cons, if_pos (by simp)] at hb
        rw [if_pos rfl, if_pos (by simp)]
        omega
      · rw [if_neg hi, if_neg (by simpa using Ne.symm hi)]
        omega
    rw [foldl_cons, ih _ fun i => by rw [hstep]; exact hlt i]
    exact funext hstep

end Slots

/-! ## The members of a group -/

namespace Group

def countOf (grp : Group) (i : Fin maxRaidSubgroups) : Nat := grp.memberSlots.countP (·.group = i)

def members (grp : Group) : List Nat := grp.memberSlots.map (·.guid)

/-- Members are distinct, counted in their subgroups, and not too many. -/
structure Sound (grp : Group) : Prop where
  nodup : grp.members.Nodup
  counts : grp.subGroupsCounts = if grp.raid then some grp.countOf else none
  countOf_le : grp.raid = true → ∀ i, grp.countOf i ≤ maxGroupSize
  length_le : grp.raid = false → grp.memberSlots.length ≤ maxGroupSize
  raid_of_bg : grp.isBGGroup = true → grp.isCreated = true → grp.raid = true

def Led (grp : Group) : Prop := grp.leaderGuid ∈ grp.members

/-- **Group structure.** -/
structure Structured (grp : Group) : Prop where
  nodup : grp.members.Nodup
  counts : grp.raid = true → ∃ c, grp.subGroupsCounts = some c ∧ ∀ i, c i = grp.countOf i ∧ c i ≤ maxGroupSize
  length_le : grp.memberSlots.length ≤ if grp.raid then maxRaidSize else maxGroupSize
  leader : grp.Led

variable {grp grp' : Group} {guid : Nat} {s : MemberSlot}

theorem Sound.length_le_raid (h : grp.Sound) (hraid : grp.raid = true) : grp.memberSlots.length ≤ maxRaidSize := by
  have hsum := Finset.sum_le_card_nsmul Finset.univ grp.countOf maxGroupSize fun i _ => h.countOf_le hraid i
  rw [← sum_countP_group grp.memberSlots]
  exact hsum

theorem isCreated_of_mem (h : s ∈ grp.memberSlots) : grp.isCreated = true :=
  decide_eq_true (length_pos_of_mem h)

theorem length_eq_of_members (h : grp'.members = grp.members) :
    grp'.memberSlots.length = grp.memberSlots.length := by
  have := congrArg List.length h
  rwa [members, members, length_map, length_map] at this

theorem isCreated_eq_of_members (h : grp'.members = grp.members) : grp'.isCreated = grp.isCreated := by
  rw [isCreated, isCreated, length_eq_of_members h]

theorem Sound.structured (h : grp.Sound) (hled : grp.Led) : grp.Structured where
  nodup := h.nodup
  counts hraid := ⟨grp.countOf, by rw [h.counts, if_pos hraid], fun i => ⟨rfl, h.countOf_le hraid i⟩⟩
  length_le := by
    cases hraid : grp.raid with
    | true => exact h.length_le_raid hraid
    | false => exact h.length_le hraid
  leader := hled

theorem mem_members_iff : guid ∈ grp.members ↔ ∃ s ∈ grp.memberSlots, s.guid = guid := mem_map

theorem getMember_some (h : grp.getMember guid = some s) : s ∈ grp.memberSlots ∧ s.guid = guid :=
  ⟨mem_of_find?_eq_some h, (find?_guid h).1⟩

theorem isMember_iff : grp.isMember guid = true ↔ guid ∈ grp.members := by
  rw [mem_members_iff, isMember, getMember]
  simp

theorem getMember_eq_none_iff : grp.getMember guid = none ↔ guid ∉ grp.members := by
  rw [← isMember_iff, isMember]
  cases grp.getMember guid <;> simp

theorem getMember_of_mem (h : grp.members.Nodup) (hs : s ∈ grp.memberSlots) : grp.getMember s.guid = some s := by
  cases hfound : grp.getMember s.guid with
  | none => exact absurd (mem_map_of_mem hs) (getMember_eq_none_iff.1 hfound)
  | some s' =>
    obtain ⟨hs', hguid⟩ := getMember_some hfound
    rw [inj_on_of_nodup_map h hs' hs hguid]

theorem Sound.of_eq (h : grp.Sound) (hmembers : grp'.members = grp.members) (hcount : grp'.countOf = grp.countOf)
    (hcounts : grp'.subGroupsCounts = grp.subGroupsCounts) (hraid : grp'.raid = grp.raid)
    (hbg : grp'.bgGroup = grp.bgGroup) : grp'.Sound where
  nodup := hmembers ▸ h.nodup
  counts := by rw [hcounts, hraid, hcount, h.counts]
  countOf_le hr := by
    rw [hcount]
    exact h.countOf_le (hraid ▸ hr)
  length_le hr := by
    rw [length_eq_of_members hmembers]
    exact h.length_le (hraid ▸ hr)
  raid_of_bg hb hc := by
    rw [hraid]
    exact h.raid_of_bg (by rw [isBGGroup, ← hbg]; exact hb) (isCreated_eq_of_members hmembers ▸ hc)

/-! ### A new member -/

theorem members_pushSlot (grp : Group) (s : MemberSlot) : (grp.pushSlot s).members = grp.members ++ [s.guid] :=
  map_append

theorem Sound.pushSlot (h : grp.Sound) (hnew : s.guid ∉ grp.members)
    (hroom : grp.raid = true → grp.countOf s.group < maxGroupSize)
    (hparty : grp.raid = false → grp.memberSlots.length < maxGroupSize)
    (hbg : grp.isBGGroup = true → grp.raid = true) : (grp.pushSlot s).Sound := by
  have hcount (i : Fin maxRaidSubgroups) :
      (grp.pushSlot s).countOf i = grp.countOf i + if s.group = i then 1 else 0 := by
    change (grp.memberSlots ++ [s]).countP (·.group = i) = _
    rw [countP_append, countP_singleton]
    simp only [decide_eq_true_eq]
    rfl
  refine ⟨?_, ?_, fun hraid i => ?_, fun hraid => ?_, fun hb _ => hbg hb⟩
  · rw [members_pushSlot]
    exact nodup_append.2 ⟨h.nodup, nodup_singleton _, fun a ha b hb hab =>
      hnew (by rw [← mem_singleton.1 hb, ← hab]; exact ha)⟩
  · change Option.map _ grp.subGroupsCounts = if grp.raid then _ else none
    rw [h.counts]
    cases hraid : grp.raid with
    | false => rfl
    | true =>
      have hlt : grp.countOf s.group < 5 := hroom hraid
      refine congrArg some (funext fun i => ?_)
      dsimp only
      rw [update_apply, hcount]
      by_cases hi : i = s.group
      · rw [if_pos hi, if_pos hi.symm, hi, Nat.mod_eq_of_lt (by omega)]
      · rw [if_neg hi, if_neg (Ne.symm hi), add_zero]
  · rw [hcount]
    have hle := h.countOf_le hraid i
    by_cases hi : s.group = i
    · rw [if_pos hi]
      exact hi ▸ hroom hraid
    · rw [if_neg hi]
      exact hle
  · change (grp.memberSlots ++ [s]).length ≤ _
    rw [length_append]
    exact hparty hraid

theorem Sound.firstSubGroup_room (h : grp.Sound) {i : Fin maxRaidSubgroups} (hfirst : grp.firstSubGroup = some i)
    (hraid : grp.raid = true) : grp.countOf i < maxGroupSize := by
  rw [firstSubGroup, h.counts, if_pos hraid] at hfirst
  have := find?_some hfirst
  exact of_decide_eq_true this

/-! ### A member less -/

theorem eraseSlot_eq (hmember : grp.getMember guid = some s) : ∃ l₁ l₂, grp.memberSlots = l₁ ++ s :: l₂ ∧
    grp.eraseSlot guid = (grp.subGroupCounterDecrease s.group).withSlots (l₁ ++ l₂) := by
  obtain ⟨hs, l₁, l₂, hl, hnot⟩ := find?_guid hmember
  refine ⟨l₁, l₂, hl, ?_⟩
  rw [eraseSlot, hmember, hl]
  rw [eraseP_append_guid hs hnot]

theorem eraseSlot_of_not_mem (h : guid ∉ grp.members) : grp.eraseSlot guid = grp := by
  rw [eraseSlot, getMember_eq_none_iff.2 h]

theorem members_eraseSlot (h : grp.members.Nodup) (guid : Nat) :
    (grp.eraseSlot guid).members = grp.members.erase guid := by
  cases hmember : grp.getMember guid with
  | none =>
    have hnot := getMember_eq_none_iff.1 hmember
    rw [eraseSlot_of_not_mem hnot, erase_of_not_mem hnot]
  | some s =>
    obtain ⟨l₁, l₂, hl, heq⟩ := eraseSlot_eq hmember
    have hguid := (getMember_some hmember).2
    rw [heq]
    change (l₁ ++ l₂).map _ = _
    rw [members, hl, map_append, map_cons, hguid] at h
    rw [members, hl, map_append, map_append, map_cons, hguid]
    have hnot : guid ∉ l₁.map (·.guid) := fun hin => (nodup_append.1 h).2.2 guid hin guid mem_cons_self rfl
    rw [erase_append_right _ hnot, erase_cons_head]

theorem Sound.eraseSlot (h : grp.Sound) (guid : Nat) : (grp.eraseSlot guid).Sound := by
  cases hmember : grp.getMember guid with
  | none =>
    rw [eraseSlot_of_not_mem (getMember_eq_none_iff.1 hmember)]
    exact h
  | some s =>
    have hnodup : (grp.eraseSlot guid).members.Nodup := by
      rw [members_eraseSlot h.nodup]
      exact h.nodup.erase guid
    obtain ⟨l₁, l₂, hl, heq⟩ := eraseSlot_eq hmember
    rw [heq] at hnodup ⊢
    have hcount (i : Fin maxRaidSubgroups) :
        grp.countOf i = (l₁ ++ l₂).countP (·.group = i) + if s.group = i then 1 else 0 := by
      rw [countOf, hl, countP_append, countP_cons, countP_append]
      simp only [decide_eq_true_eq]
      omega
    have hcreated := isCreated_of_mem (getMember_some hmember).1
    refine ⟨hnodup, ?_, fun hraid i => ?_, fun hraid => ?_, fun hb _ => h.raid_of_bg hb hcreated⟩
    · change Option.map _ grp.subGroupsCounts = if grp.raid then _ else none
      rw [h.counts]
      cases hraid : grp.raid with
      | false => rfl
      | true =>
        refine congrArg some (funext fun i => ?_)
        dsimp only
        rw [show (Group.withSlots _ (l₁ ++ l₂)).countOf i = (l₁ ++ l₂).countP (·.group = i) from rfl]
        have hle : grp.countOf i ≤ 5 := h.countOf_le hraid i
        have hi := hcount i
        rw [update_apply]
        by_cases hsi : i = s.group
        · rw [if_pos hsi, ← hsi]
          rw [if_pos hsi.symm] at hi
          omega
        · rw [if_neg hsi]
          rw [if_neg (Ne.symm hsi)] at hi
          exact hi
    · have hle := h.countOf_le hraid i
      have hi := hcount i
      change (l₁ ++ l₂).countP (·.group = i) ≤ _
      omega
    · have hle := h.length_le hraid
      rw [hl, length_append, length_cons] at hle
      change (l₁ ++ l₂).length ≤ _
      rw [length_append]
      omega

/-! ### Subgroups and flags -/

theorem Sound.convertToRaid (h : grp.Sound) : grp.convertToRaid.Sound := by
  have hle (i : Fin maxRaidSubgroups) : grp.countOf i ≤ maxGroupSize := by
    cases hraid : grp.raid with
    | true => exact h.countOf_le hraid i
    | false => exact countP_le_length.trans (h.length_le hraid)
  refine ⟨h.nodup, ?_, fun _ => hle, (nomatch ·), fun _ _ => rfl⟩
  change some (grp.memberSlots.foldl _ fun _ => 0) = some _
  have hlt (i : Fin maxRaidSubgroups) : 0 + grp.memberSlots.countP (·.group = i) < 2 ^ 8 := by
    have := hle i
    rw [countOf, maxGroupSize] at this
    omega
  rw [foldl_countGroups _ _ hlt]
  refine congrArg some (funext fun i => ?_)
  rw [zero_add]
  rfl

theorem members_changeMembersGroup (grp : Group) (guid : Nat) (i : Fin maxRaidSubgroups) :
    (grp.changeMembersGroup guid i).members = grp.members := by
  unfold changeMembersGroup
  split
  · split
    · rfl
    · split
      · rfl
      · exact map_guid_writeSlot (·.setSubGroup i) (fun _ => rfl) guid grp.memberSlots
  · rfl

theorem Sound.changeMembersGroup (h : grp.Sound) {i : Fin maxRaidSubgroups} (hfree : grp.hasFreeSlotSubGroup i = true)
    (guid : Nat) : (grp.changeMembersGroup guid i).Sound := by
  have hmembers := members_changeMembersGroup grp guid i
  unfold Group.changeMembersGroup at hmembers ⊢
  by_cases hraid : grp.raid = true
  · rw [if_pos hraid] at hmembers ⊢
    cases hmember : grp.getMember guid with
    | none => exact h
    | some s =>
      rw [hmember] at hmembers
      dsimp only at hmembers ⊢
      by_cases hsame : s.group = i
      · rw [if_pos hsame]
        exact h
      rw [if_neg hsame] at hmembers ⊢
      obtain ⟨hs, l₁, l₂, hl, hnot⟩ := find?_guid hmember
      have hwrite : writeSlot guid (·.setSubGroup i) (l₁ ++ s :: l₂) = l₁ ++ s.setSubGroup i :: l₂ :=
        writeSlot_append _ hs hnot
      rw [← hl] at hwrite
      have hroom : grp.countOf i < 5 := by
        rw [hasFreeSlotSubGroup, h.counts, if_pos hraid] at hfree
        exact of_decide_eq_true hfree
      have hcount (j : Fin maxRaidSubgroups) :
          (writeSlot guid (·.setSubGroup i) grp.memberSlots).countP (·.group = j) +
            (if s.group = j then 1 else 0) = grp.countOf j + if i = j then 1 else 0 := by
        rw [hwrite, countOf, hl, countP_append, countP_cons, countP_append, countP_cons]
        simp only [decide_eq_true_eq]
        change _ + (_ + if i = j then 1 else 0) + _ = _
        omega
      refine ⟨hmembers ▸ h.nodup, ?_, fun _ j => ?_, fun hr => ?_, fun _ _ => hraid⟩
      · change Option.map _ (Option.map _ grp.subGroupsCounts) = if grp.raid then _ else none
        rw [h.counts, if_pos hraid, if_pos hraid]
        refine congrArg some (funext fun j => ?_)
        change _ = (writeSlot guid (·.setSubGroup i) grp.memberSlots).countP (·.group = j)
        have hj := hcount j
        have hle : grp.countOf j ≤ 5 := h.countOf_le hraid j
        simp only [update_apply]
        by_cases hjs : j = s.group
        · have hji : j ≠ i := fun hji => hsame (hjs.symm.trans hji)
          rw [if_pos hjs, if_neg hsame, ← hjs]
          rw [if_pos hjs.symm, if_neg (Ne.symm hji)] at hj
          omega
        · rw [if_neg hjs]
          rw [if_neg (Ne.symm hjs)] at hj
          by_cases hji : j = i
          · rw [if_pos hji.symm] at hj
            rw [if_pos hji]
            subst hji
            omega
          · rw [if_neg hji]
            rw [if_neg (Ne.symm hji)] at hj
            exact hj.symm
      · change (writeSlot guid (·.setSubGroup i) grp.memberSlots).countP (·.group = j) ≤ 5
        have hj := hcount j
        have hle : grp.countOf j ≤ 5 := h.countOf_le hraid j
        by_cases hji : i = j
        · rw [if_pos hji] at hj
          rw [hji] at hroom
          omega
        · rw [if_neg hji] at hj
          omega
      · exact absurd hraid (by rw [show grp.raid = false from hr]; exact Bool.false_ne_true)
  · rw [if_neg hraid]
    exact h

theorem members_toggleGroupMemberFlag (grp : Group) (guid : Nat) (flag : GroupMemberFlags) (apply : Bool) :
    (grp.toggleGroupMemberFlag guid flag apply).members = grp.members :=
  map_guid_writeSlot (·.toggle flag apply) (fun _ => rfl) guid grp.memberSlots

theorem Sound.toggleGroupMemberFlag (h : grp.Sound) (guid : Nat) (flag : GroupMemberFlags) (apply : Bool) :
    (grp.toggleGroupMemberFlag guid flag apply).Sound :=
  h.of_eq (members_toggleGroupMemberFlag grp guid flag apply)
    (funext fun i => countP_writeSlot (·.toggle flag apply) (fun _ => rfl) guid i grp.memberSlots) rfl rfl rfl

theorem members_removeUniqueGroupMemberFlag (grp : Group) (flag : GroupMemberFlags) :
    (grp.removeUniqueGroupMemberFlag flag).members = grp.members := map_map

theorem Sound.removeUniqueGroupMemberFlag (h : grp.Sound) (flag : GroupMemberFlags) :
    (grp.removeUniqueGroupMemberFlag flag).Sound :=
  h.of_eq (members_removeUniqueGroupMemberFlag grp flag) (funext fun _ => countP_map) rfl rfl rfl

theorem members_setGroupMemberFlag (grp : Group) (guid : Nat) (apply : Bool) (flag : GroupMemberFlags) :
    (grp.setGroupMemberFlag guid apply flag).members = grp.members := by
  unfold Group.setGroupMemberFlag
  split
  · rw [members_toggleGroupMemberFlag]
    split
    · rfl
    · exact members_removeUniqueGroupMemberFlag grp flag
  · rfl

theorem Sound.setGroupMemberFlag (h : grp.Sound) (guid : Nat) (apply : Bool) (flag : GroupMemberFlags) :
    (grp.setGroupMemberFlag guid apply flag).Sound := by
  unfold Group.setGroupMemberFlag
  split
  · refine Sound.toggleGroupMemberFlag ?_ _ _ _
    split
    · exact h
    · exact h.removeUniqueGroupMemberFlag flag
  · exact h

end Group

end Axium.Groups
