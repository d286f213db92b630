import Axium.Groups.Stored

/-!
# Groups that come back

The tables keep of a member his guid and his subgroup. From them `LoadGroups` makes the ordinary groups again, at other
addresses and with the members in the order of the rows: nothing is cleaned away, each group is sound and led, and the
tables hold the groups that were made.
-/

namespace Axium.Groups

open List Database

def MemberSlot.bare (s : MemberSlot) : MemberSlot := Group.newSlot s.guid s.group

def Group.bare (grp : Group) : Group := grp.withSlots (grp.memberSlots.map MemberSlot.bare)

/-- The two groups are the same up to the order of their members. -/
structure Group.Mirrors (grp grp' : Group) : Prop where
  dbStoreId : grp.dbStoreId = grp'.dbStoreId
  leaderGuid : grp.leaderGuid = grp'.leaderGuid
  raid : grp.raid = grp'.raid
  bgGroup : grp.bgGroup = grp'.bgGroup
  slots : grp.memberSlots.Perm grp'.memberSlots

section Loading

variable {w v : World} {g p id : Nat} {grp y : Group} {order : List Nat} {row : GroupRow} {db : Database}

/-! ## Rows -/

theorem profiles_eq_some {c : Profile} :
    w.profiles g = some c ↔ ∃ grp, w.group g = some grp ∧ grp.ordinary = true ∧ c = grp.stored := by
  unfold World.profiles
  rw [Option.bind_eq_some_iff]
  refine exists_congr fun grp => and_congr_right fun _ => ?_
  unfold Group.profile
  split
  · next h => exact ⟨fun heq => ⟨h, (Option.some.inj heq).symm⟩, fun heq => congrArg some heq.2.symm⟩
  · next h => exact ⟨fun heq => (nomatch heq), fun heq => absurd heq.1 h⟩

theorem Stored.row_iff (h : Stored w) (row : GroupRow) :
    row ∈ w.db.groups ↔ ∃ g grp, w.group g = some grp ∧ grp.ordinary = true ∧ row = grp.stored.row := by
  rw [Tables.rows h]
  constructor
  · rintro ⟨g, c, hc, rfl⟩
    obtain ⟨grp, hg, hordinary, rfl⟩ := profiles_eq_some.1 hc
    exact ⟨g, grp, hg, hordinary, rfl⟩
  · rintro ⟨g, grp, hg, hordinary, rfl⟩
    exact ⟨g, grp.stored, profiles_eq_some.2 ⟨grp, hg, hordinary, rfl⟩, rfl⟩

theorem Stored.memberRow_iff (h : Stored w) (p : Nat) (row : MemberRow) :
    w.db.member p = some row ↔ ∃ g grp s, w.group g = some grp ∧ grp.ordinary = true ∧ s ∈ grp.memberSlots ∧
      s.guid = p ∧ row = grp.stored.memberRow s.group := by
  rw [Tables.member h]
  constructor
  · rintro ⟨g, c, i, hc, hmem, rfl⟩
    obtain ⟨grp, hg, hordinary, rfl⟩ := profiles_eq_some.1 hc
    obtain ⟨s, hs, hsame⟩ := mem_map.1 hmem
    obtain ⟨rfl, rfl⟩ := Prod.mk.inj hsame
    exact ⟨g, grp, s, hg, hordinary, hs, rfl, rfl⟩
  · rintro ⟨g, grp, s, hg, hordinary, hs, rfl, rfl⟩
    exact ⟨g, grp.stored, s.group, profiles_eq_some.2 ⟨grp, hg, hordinary, rfl⟩, mem_map_of_mem hs, rfl⟩

theorem Stored.group_unique (h : Stored w) {g' : Nat} {grp' : Group} (hg : w.group g = some grp)
    (hordinary : grp.ordinary = true) (hg' : w.group g' = some grp') (hordinary' : grp'.ordinary = true)
    (hid : grp.dbStoreId = grp'.dbStoreId) : g = g' :=
  Tables.id_injective h (profiles_eq_some.2 ⟨grp, hg, hordinary, rfl⟩)
    (profiles_eq_some.2 ⟨grp', hg', hordinary', rfl⟩) hid

theorem Enumerates.mem_iff (h : w.Enumerates order) (p : Nat) : p ∈ order ↔ p ∈ w.guids := by
  rw [← h.2, mem_toFinset]

theorem Stored.clean_eq (h : Stored w) (hw : Standing w none) : w.db.clean w.guids = w.db := by
  have hrow : ∀ row ∈ w.db.groups, row.leaderGuid ∈ w.guids ∧ 1 < w.db.memberCount w.guids row.guid := by
    intro row hrow
    obtain ⟨g, grp, hg, hordinary, rfl⟩ := (h.row_iff row).1 hrow
    refine ⟨hw.live.exist g grp hg _ (hw.led g grp (nomatch ·) hg), ?_⟩
    have hsub : grp.members.toFinset ⊆ w.guids.filter fun p => (w.db.member p).any (·.guid = grp.dbStoreId) := by
      intro p hp
      obtain ⟨s, hs, hguid⟩ := Group.mem_members_iff.1 (mem_toFinset.1 hp)
      have hmember := (h.memberRow_iff p _).2 ⟨g, grp, s, hg, hordinary, hs, hguid, rfl⟩
      refine Finset.mem_filter.2 ⟨hw.live.exist g grp hg p (mem_toFinset.1 hp), ?_⟩
      rw [hmember]
      exact decide_eq_true rfl
    have hcard := Finset.card_le_card hsub
    rw [toFinset_card_of_nodup (hw.live.sound g grp hg).nodup, Group.members, length_map] at hcard
    exact lt_of_lt_of_le (hw.paired g grp (nomatch ·) hg hordinary) hcard
  have hgroups : (w.db.groups.filter fun row =>
      row.leaderGuid ∈ w.guids ∧ 1 < w.db.memberCount w.guids row.guid) = w.db.groups :=
    filter_eq_self.2 fun row hmem => decide_eq_true (hrow row hmem)
  have hmember (p : Nat) : (w.db.member p).filter (fun row =>
      w.db.groups.any (·.guid = row.guid) && p ∈ w.guids) = w.db.member p := by
    cases hp : w.db.member p with
    | none => rfl
    | some row =>
      obtain ⟨g, grp, s, hg, hordinary, hs, hguid, rfl⟩ := (h.memberRow_iff p row).1 hp
      rw [Option.filter_some, if_pos]
      rw [Bool.and_eq_true, any_eq_true, decide_eq_true_eq]
      exact ⟨⟨_, (h.row_iff _).2 ⟨g, grp, hg, hordinary, rfl⟩, decide_eq_true rfl⟩,
        hw.live.exist g grp hg p (Group.mem_members_iff.2 ⟨s, hs, hguid⟩)⟩
  unfold clean
  rw [hgroups]
  simp only [hmember, ite_self]

theorem mem_slotsOf {s : MemberSlot} : s ∈ db.slotsOf order id ↔ s.guid ∈ order ∧
    ∃ row, db.member s.guid = some row ∧ row.guid = id ∧ s = ⟨s.guid, row.subgroup, row.memberFlags, row.roles⟩ := by
  unfold slotsOf
  rw [mem_filterMap]
  constructor
  · rintro ⟨p, hp, hslot⟩
    obtain ⟨row, hrow, rfl⟩ := Option.map_eq_some_iff.1 hslot
    obtain ⟨hrow, hid⟩ := Option.filter_eq_some_iff.1 hrow
    exact ⟨hp, row, hrow, of_decide_eq_true hid, rfl⟩
  · rintro ⟨hp, row, hrow, hid, hs⟩
    refine ⟨s.guid, hp, Option.map_eq_some_iff.2 ⟨row, Option.filter_eq_some_iff.2 ⟨hrow, ?_⟩, hs.symm⟩⟩
    exact decide_eq_true hid

theorem guids_slotsOf (db : Database) (order : List Nat) (id : Nat) :
    ((db.slotsOf order id).map (·.guid)).Sublist order := by
  unfold slotsOf
  induction order with
  | nil => exact List.Sublist.refl []
  | cons p order ih =>
    rw [filterMap_cons]
    split
    · exact ih.cons p
    · next s hs =>
      obtain ⟨row, -, rfl⟩ := Option.map_eq_some_iff.1 hs
      exact ih.cons_cons p

theorem Stored.slotsOf_perm (h : Stored w) (hw : Standing w none) (horder : w.Enumerates order)
    (hg : w.group g = some grp) (hordinary : grp.ordinary = true) :
    (w.db.slotsOf order grp.dbStoreId).Perm grp.bare.memberSlots := by
  have hnodup : (w.db.slotsOf order grp.dbStoreId).Nodup :=
    (horder.1.sublist (guids_slotsOf w.db order grp.dbStoreId)).of_map _
  have hbare : (grp.memberSlots.map MemberSlot.bare).Nodup := by
    refine List.Nodup.of_map (·.guid) ?_
    rw [map_map]
    exact (hw.live.sound g grp hg).nodup
  refine (perm_ext_iff_of_nodup hnodup hbare).2 fun s => ?_
  rw [mem_slotsOf, mem_map]
  constructor
  · rintro ⟨-, row, hrow, hid, hs⟩
    obtain ⟨g', grp', s', hg', hordinary', hs', hguid, rfl⟩ := (h.memberRow_iff _ row).1 hrow
    have heq := h.group_unique hg' hordinary' hg hordinary hid
    rw [heq, hg] at hg'
    obtain rfl := Option.some.inj hg'
    exact ⟨s', hs', by rw [hs, MemberSlot.bare, hguid]; rfl⟩
  · rintro ⟨s', hs', rfl⟩
    refine ⟨?_, _, (h.memberRow_iff _ _).2 ⟨g, grp, s', hg, hordinary, hs', rfl, rfl⟩, rfl, rfl⟩
    exact (Enumerates.mem_iff horder _).2 (hw.live.exist g grp hg _ (Group.mem_members_iff.2 ⟨s', hs', rfl⟩))

/-! ## One group -/

theorem foldl_pushSlot (l : List MemberSlot) : ∀ grp : Group,
    (l.foldl Group.pushSlot grp).memberSlots = grp.memberSlots ++ l ∧
      (l.foldl Group.pushSlot grp).dbStoreId = grp.dbStoreId ∧
      (l.foldl Group.pushSlot grp).leaderGuid = grp.leaderGuid ∧
      (l.foldl Group.pushSlot grp).raid = grp.raid ∧ (l.foldl Group.pushSlot grp).bgGroup = grp.bgGroup := by
  induction l with
  | nil => exact fun grp => ⟨(append_nil _).symm, rfl, rfl, rfl, rfl⟩
  | cons s l ih =>
    intro grp
    obtain ⟨hslots, hid, hleader, hraid, hbg⟩ := ih (grp.pushSlot s)
    refine ⟨hslots.trans ?_, hid, hleader, hraid, hbg⟩
    change (grp.memberSlots ++ [s]) ++ l = _
    rw [append_assoc]
    rfl

theorem Group.Sound.foldl_pushSlot (l : List MemberSlot) : ∀ {grp : Group}, grp.Sound → grp.isBGGroup = false →
    (grp.members ++ l.map (·.guid)).Nodup →
    (grp.raid = true → ∀ i, grp.countOf i + l.countP (·.group = i) ≤ maxGroupSize) →
    (grp.raid = false → grp.memberSlots.length + l.length ≤ maxGroupSize) → (l.foldl Group.pushSlot grp).Sound := by
  induction l with
  | nil => exact fun h _ _ _ _ => h
  | cons s l ih =>
    intro grp h hbg hnodup hroom hparty
    have hmembers := Group.members_pushSlot grp s
    have hnew : s.guid ∉ grp.members := fun hin =>
      (nodup_append.1 hnodup).2.2 s.guid hin s.guid mem_cons_self rfl
    have hcount (i : Fin maxRaidSubgroups) : (grp.pushSlot s).countOf i + l.countP (·.group = i) =
        grp.countOf i + (s :: l).countP (·.group = i) := by
      change (grp.memberSlots ++ [s]).countP (·.group = i) + _ = _
      rw [countP_append, countP_singleton, countP_cons, Group.countOf]
      omega
    have hpushed : (grp.pushSlot s).Sound := by
      refine h.pushSlot hnew (fun hraid => ?_) (fun hraid => ?_) fun hb => ?_
      · have hle := hroom hraid s.group
        rw [countP_cons, if_pos (decide_eq_true rfl)] at hle
        omega
      · have hle := hparty hraid
        rw [length_cons] at hle
        omega
      · rw [hbg] at hb
        cases hb
    refine ih hpushed hbg ?_ (fun hraid i => ?_) fun hraid => ?_
    · rw [hmembers, append_assoc]
      exact hnodup
    · rw [hcount]
      exact hroom hraid i
    · have hle := hparty hraid
      rw [length_cons] at hle
      change (grp.memberSlots ++ [s]).length + _ ≤ _
      rw [length_append, length_singleton]
      omega

theorem sound_loadGroupFromDB (row : GroupRow) : (loadGroupFromDB row).Sound := by
  unfold loadGroupFromDB
  split
  · next hraid => exact ⟨nodup_nil, (if_pos hraid).symm, fun _ _ => Nat.zero_le _, fun _ => Nat.zero_le _, nofun⟩
  · next hraid => exact ⟨nodup_nil, (if_neg hraid).symm, fun h => absurd h hraid, fun _ => Nat.zero_le _, nofun⟩

theorem loadGroupFromDB_eq (row : GroupRow) : (loadGroupFromDB row).memberSlots = [] ∧
    (loadGroupFromDB row).dbStoreId = row.guid ∧
    (loadGroupFromDB row).leaderGuid = row.leaderGuid ∧
    (loadGroupFromDB row).raid = row.raid ∧ (loadGroupFromDB row).bgGroup = none := by
  unfold loadGroupFromDB
  split <;> exact ⟨rfl, rfl, rfl, rfl, rfl⟩

theorem loadGroup_eq (db : Database) (order : List Nat) (row : GroupRow) :
    (db.loadGroup order row).memberSlots = db.slotsOf order row.guid ∧
      (db.loadGroup order row).dbStoreId = row.guid ∧ (db.loadGroup order row).leaderGuid = row.leaderGuid ∧
      (db.loadGroup order row).raid = row.raid ∧ (db.loadGroup order row).bgGroup = none := by
  obtain ⟨hslots, hid, hleader, hraid, hbg⟩ :=
    foldl_pushSlot (db.slotsOf order row.guid) (loadGroupFromDB row)
  obtain ⟨hslots', hid', hleader', hraid', hbg'⟩ := loadGroupFromDB_eq row
  refine ⟨hslots.trans ?_, hid.trans hid', hleader.trans hleader', hraid.trans hraid', hbg.trans hbg'⟩
  rw [hslots', nil_append]

theorem Stored.loadGroup_mirrors (h : Stored w) (hw : Standing w none) (horder : w.Enumerates order)
    (hg : w.group g = some grp) (hordinary : grp.ordinary = true) :
    (w.db.loadGroup order grp.stored.row).Mirrors grp.bare := by
  obtain ⟨hslots, hid, hleader, hraid, hbg⟩ := loadGroup_eq w.db order grp.stored.row
  refine ⟨hid, hleader, hraid, hbg.trans ?_, hslots ▸ h.slotsOf_perm hw horder hg hordinary⟩
  have hnot : grp.bgGroup.isSome = false := (Group.ordinary_iff.1 hordinary).1
  exact (Option.isSome_eq_false_iff.1 hnot |> Option.isNone_iff_eq_none.1).symm

theorem members_bare (grp : Group) : grp.bare.members = grp.members := map_map

theorem Group.Mirrors.members (h : y.Mirrors grp) : y.members.Perm grp.members := h.slots.map _

theorem Group.Mirrors.length_eq (h : y.Mirrors grp) : y.memberSlots.length = grp.memberSlots.length :=
  h.slots.length_eq

theorem Stored.loadGroup_sound (h : Stored w) (hw : Standing w none) (horder : w.Enumerates order)
    (hg : w.group g = some grp) (hordinary : grp.ordinary = true) :
    (w.db.loadGroup order grp.stored.row).Sound := by
  have hsound := hw.live.sound g grp hg
  have hperm := h.slotsOf_perm hw horder hg hordinary
  obtain ⟨hslots, -, -, hraid, hbg⟩ := loadGroupFromDB_eq grp.stored.row
  have hempty : (loadGroupFromDB grp.stored.row).members = [] := by
    rw [Group.members, hslots]
    rfl
  refine (sound_loadGroupFromDB grp.stored.row).foldl_pushSlot (w.db.slotsOf order grp.dbStoreId) ?_ ?_
    (fun hr i => ?_) fun hp => ?_
  · rw [Group.isBGGroup, hbg]
    rfl
  · rw [hempty]
    exact horder.1.sublist (guids_slotsOf w.db order grp.dbStoreId)
  · rw [Group.countOf, hslots, countP_nil, zero_add, hperm.countP_eq]
    change (grp.memberSlots.map MemberSlot.bare).countP _ ≤ _
    rw [countP_map]
    exact hsound.countOf_le (hraid.symm.trans hr) i
  · rw [hslots, length_nil, zero_add, hperm.length_eq]
    change (grp.memberSlots.map MemberSlot.bare).length ≤ _
    rw [length_map]
    exact hsound.length_le (hraid.symm.trans hp)

/-! ## All groups -/

/-- What `LoadGroups` makes of the rows: one group a row, registered by its id. -/
structure Loaded (w : World) (order : List Nat) (rows : List GroupRow) (v : World) : Prop where
  group : ∀ g y, v.group g = some y ↔
    ∃ k row, rows[k]? = some row ∧ g = w.nextGroup + k ∧ y = w.db.loadGroup order row
  store : ∀ id g, v.groupDbStore.getD id none = some g ↔
    ∃ k row, rows[k]? = some row ∧ g = w.nextGroup + k ∧ row.guid = id
  nextGroup : v.nextGroup = w.nextGroup + rows.length
  fresh : ∀ row ∈ rows, row.guid ≠ v.nextGroupDbStoreId
  guids : v.guids = w.guids
  db : v.db = w.db
  player : ∀ p, v.player p = ⟨false, none, none, none⟩
  bgRaid : ∀ k, v.bgRaid k = none

theorem loaded_restart (w : World) (db : Database) (order : List Nat) :
    Loaded (w.setDb db) order [] (w.restart.setDb db) where
  group _ _ := ⟨fun h => (nomatch h), fun ⟨_, _, h, _⟩ => (nomatch h)⟩
  store _ _ := ⟨fun h => (nomatch h), fun ⟨_, _, h, _⟩ => (nomatch h)⟩
  nextGroup := rfl
  fresh _ h := nomatch h
  guids := rfl
  db := rfl
  player _ := rfl
  bgRaid _ := rfl

theorem getElem?_concat_eq_some {rows : List GroupRow} {r : GroupRow} {k : Nat} :
    (rows ++ [row])[k]? = some r ↔ rows[k]? = some r ∨ k = rows.length ∧ r = row := by
  rw [getElem?_append]
  split
  · next hlt => exact ⟨.inl, fun h => h.resolve_right fun h => absurd h.1 (ne_of_lt hlt)⟩
  · next hge =>
    rw [getElem?_eq_none (l := rows) (not_lt.1 hge), getElem?_singleton]
    constructor
    · intro h
      split at h
      · exact .inr ⟨by omega, (Option.some.inj h).symm⟩
      · cases h
    · rintro (h | ⟨rfl, rfl⟩)
      · cases h
      · rw [Nat.sub_self, if_pos rfl]

theorem Loaded.loadRow {rows : List GroupRow} (h : Loaded w order rows v)
    (hsorted : ∀ r ∈ rows, r.guid < row.guid) : Loaded w order (rows ++ [row]) (v.loadRow order row) := by
  have hnew {g k : Nat} {r : GroupRow} (hr : rows[k]? = some r) (hg : g = w.nextGroup + k) : g ≠ v.nextGroup := by
    have hlt := (List.getElem?_eq_some_iff.1 hr).1
    rw [h.nextGroup]
    omega
  refine ⟨fun g y => ?_, fun id g => ?_, ?_, fun r hr => ?_, h.guids, h.db, h.player, h.bgRaid⟩
  · change Function.update v.group v.nextGroup _ g = some y ↔ _
    rw [Function.update_apply, h.db]
    constructor
    · intro hy
      split at hy
      · next heq =>
        exact ⟨rows.length, row, getElem?_concat_eq_some.2 (.inr ⟨rfl, rfl⟩), heq.trans h.nextGroup,
          (Option.some.inj hy).symm⟩
      · obtain ⟨k, r, hr, hg, hload⟩ := (h.group g y).1 hy
        exact ⟨k, r, getElem?_concat_eq_some.2 (.inl hr), hg, hload⟩
    · rintro ⟨k, r, hr, hg, rfl⟩
      obtain hr | ⟨rfl, rfl⟩ := getElem?_concat_eq_some.1 hr
      · rw [if_neg (hnew hr hg)]
        exact (h.group g _).2 ⟨k, r, hr, hg, rfl⟩
      · rw [if_pos (hg.trans h.nextGroup.symm)]
  · change ((v.groupDbStore ++ replicate (row.guid + 1 - v.groupDbStore.length) none).set row.guid
      (some v.nextGroup)).getD id none = some g ↔ _
    rw [getD_set _ _ _ _ (.inr (by rw [length_append, length_replicate]; omega)), getD_append_replicate]
    constructor
    · intro hg
      split at hg
      · next heq =>
        exact ⟨rows.length, row, getElem?_concat_eq_some.2 (.inr ⟨rfl, rfl⟩),
          (Option.some.inj hg).symm.trans h.nextGroup, heq.symm⟩
      · obtain ⟨k, r, hr, hg, hid⟩ := (h.store id g).1 hg
        exact ⟨k, r, getElem?_concat_eq_some.2 (.inl hr), hg, hid⟩
    · rintro ⟨k, r, hr, hg, rfl⟩
      obtain hr | ⟨rfl, rfl⟩ := getElem?_concat_eq_some.1 hr
      · rw [if_neg (ne_of_lt (hsorted r (mem_of_getElem? hr)))]
        exact (h.store r.guid g).2 ⟨k, r, hr, hg, rfl⟩
      · rw [if_pos rfl, hg, h.nextGroup]
  · change v.nextGroup + 1 = _
    rw [h.nextGroup, length_append, length_singleton, add_assoc]
  · change r.guid ≠ if row.guid = v.nextGroupDbStoreId then v.nextGroupDbStoreId + 1 else v.nextGroupDbStoreId
    obtain hr | hr := mem_append.1 hr
    · have hne := h.fresh r hr
      have hlt := hsorted r hr
      split <;> omega
    · rw [mem_singleton.1 hr]
      split <;> omega

theorem Loaded.foldl_loadRow (todo : List GroupRow) : ∀ {rows : List GroupRow} {v : World}, Loaded w order rows v →
    ((rows ++ todo).Pairwise fun r r' => r.guid < r'.guid) →
    Loaded w order (rows ++ todo) (todo.foldl (fun v row => v.loadRow order row) v) := by
  induction todo with
  | nil =>
    intro rows v h _
    rw [append_nil]
    exact h
  | cons row todo ih =>
    intro rows v h hsorted
    have hrow : ∀ r ∈ rows, r.guid < row.guid := fun r hr =>
      (pairwise_append.1 hsorted).2.2 r hr row mem_cons_self
    rw [append_cons] at hsorted ⊢
    exact ih (h.loadRow hrow) hsorted

theorem loaded_reload (w : World) (order : List Nat)
    (hsorted : (w.db.clean w.guids).groups.Pairwise fun r r' => r.guid < r'.guid) :
    Loaded (w.setDb (w.db.clean w.guids)) order (w.db.clean w.guids).groups (w.reload order) :=
  (loaded_restart w (w.db.clean w.guids) order).foldl_loadRow _ hsorted

theorem Stored.loaded (h : Stored w) (hw : Standing w none) (order : List Nat) :
    Loaded w order w.db.groups (w.reload order) := by
  have hloaded := loaded_reload w order (by rw [h.clean_eq hw]; exact Tables.sorted h)
  rw [h.clean_eq hw] at hloaded
  exact hloaded

theorem Loaded.origin (h : Loaded w order w.db.groups v) (hstored : Stored w) (hg : v.group g = some y) :
    ∃ g' grp, w.group g' = some grp ∧ grp.ordinary = true ∧ y = w.db.loadGroup order grp.stored.row := by
  obtain ⟨k, row, hk, -, rfl⟩ := (h.group g y).1 hg
  obtain ⟨g', grp, hg', hordinary, rfl⟩ := (hstored.row_iff row).1 (mem_of_getElem? hk)
  exact ⟨g', grp, hg', hordinary, rfl⟩

theorem Loaded.image (h : Loaded w order w.db.groups v) (hstored : Stored w) (hg : w.group g = some grp)
    (hordinary : grp.ordinary = true) : ∃ g', v.group g' = some (w.db.loadGroup order grp.stored.row) ∧
      v.groupDbStore.getD grp.dbStoreId none = some g' := by
  obtain ⟨k, hk⟩ := mem_iff_getElem?.1 ((hstored.row_iff _).2 ⟨g, grp, hg, hordinary, rfl⟩)
  exact ⟨w.nextGroup + k, (h.group _ _).2 ⟨k, _, hk, rfl, rfl⟩, (h.store _ _).2 ⟨k, _, hk, rfl, rfl⟩⟩

theorem Group.Mirrors.led (h : y.Mirrors grp) (hled : grp.Led) : y.Led := by
  rw [Group.Led, h.leaderGuid, h.members.mem_iff]
  exact hled

theorem Standing.reload (hw : Standing w none) (h : Stored w) (horder : w.Enumerates order) :
    Standing (w.reload order) none := by
  have hloaded := h.loaded hw order
  generalize w.reload order = v at hloaded ⊢
  have hled {grp : Group} {g' : Nat} (hg' : w.group g' = some grp) : grp.bare.Led := by
    have hled := hw.led g' grp (nomatch ·) hg'
    rw [Group.Led, members_bare]
    exact hled
  have hpaired {grp : Group} {g' : Nat} (hg' : w.group g' = some grp) (hordinary : grp.ordinary = true) :
      2 ≤ grp.bare.memberSlots.length := by
    have htwo := hw.paired g' grp (nomatch ·) hg' hordinary
    rwa [← Group.length_eq_of_members (members_bare grp)] at htwo
  refine ⟨⟨fun g y hy => ?_, fun g y hy p hp => ?_, fun g hg => ?_, fun p g hp => ?_, fun k g hk => ?_⟩,
    fun g y _ hy => ?_, fun g y _ hy _ => ?_⟩
  · obtain ⟨g', grp, hg', hordinary, rfl⟩ := hloaded.origin h hy
    exact h.loadGroup_sound hw horder hg' hordinary
  · obtain ⟨g', grp, hg', hordinary, rfl⟩ := hloaded.origin h hy
    rw [(h.loadGroup_mirrors hw horder hg' hordinary).members.mem_iff, members_bare] at hp
    rw [hloaded.guids]
    exact hw.live.exist g' grp hg' p hp
  · rw [Option.eq_none_iff_forall_ne_some]
    intro y hy
    obtain ⟨k, row, hk, rfl, -⟩ := (hloaded.group g y).1 hy
    have hlt := (List.getElem?_eq_some_iff.1 hk).1
    rw [hloaded.nextGroup] at hg
    omega
  · unfold World.Refers at hp
    rw [hloaded.player] at hp
    rcases hp with hp | hp <;> cases hp
  · rw [hloaded.bgRaid] at hk
    cases hk
  · obtain ⟨g', grp, hg', hordinary, rfl⟩ := hloaded.origin h hy
    exact (h.loadGroup_mirrors hw horder hg' hordinary).led (hled hg')
  · obtain ⟨g', grp, hg', hordinary, rfl⟩ := hloaded.origin h hy
    rw [(h.loadGroup_mirrors hw horder hg' hordinary).length_eq]
    exact hpaired hg' hordinary

theorem Group.Mirrors.ordinary (h : y.Mirrors grp) (hordinary : grp.ordinary = true) : y.ordinary = true := by
  unfold Group.ordinary Group.isBGGroup Group.isCreated at hordinary ⊢
  rw [h.bgGroup, h.length_eq]
  exact hordinary

theorem ordinary_bare (grp : Group) : grp.bare.ordinary = grp.ordinary :=
  ordinary_eq_of_members (members_bare grp) rfl

theorem row_loadGroup (db : Database) (order : List Nat) (row : GroupRow) :
    (db.loadGroup order row).stored.row = row := by
  obtain ⟨-, hid, hleader, hraid, -⟩ := loadGroup_eq db order row
  unfold Group.stored Profile.row
  rw [hid, hleader, hraid]

theorem Group.Mirrors.mem_slots (h : y.Mirrors grp.bare) (p : Nat) (i : Fin maxRaidSubgroups) :
    (p, i) ∈ y.stored.slots ↔ (p, i) ∈ grp.stored.slots := by
  have hperm := h.slots.map fun s => (s.guid, s.group)
  rw [show y.stored.slots = y.memberSlots.map fun s => (s.guid, s.group) from rfl, hperm.mem_iff]
  change _ ∈ (grp.memberSlots.map MemberSlot.bare).map _ ↔ _
  rw [map_map]
  exact Iff.rfl

theorem Stored.original (h : Stored w) (hw : Standing w none) (horder : w.Enumerates order) {k : Nat}
    (hk : w.db.groups[k]? = some row) : ∃ g grp, w.group g = some grp ∧ grp.ordinary = true ∧
      row = grp.stored.row ∧ (w.db.loadGroup order row).Mirrors grp.bare := by
  obtain ⟨g, grp, hg, hordinary, rfl⟩ := (h.row_iff row).1 (mem_of_getElem? hk)
  exact ⟨g, grp, hg, hordinary, rfl, h.loadGroup_mirrors hw horder hg hordinary⟩

theorem Loaded.profiles_iff (hloaded : Loaded w order w.db.groups v) (h : Stored w) (hw : Standing w none)
    (horder : w.Enumerates order) (g : Nat) (c : Profile) : v.profiles g = some c ↔
      ∃ k row, w.db.groups[k]? = some row ∧ g = w.nextGroup + k ∧ c = (w.db.loadGroup order row).stored := by
  rw [profiles_eq_some]
  constructor
  · rintro ⟨y, hy, -, rfl⟩
    obtain ⟨k, row, hk, hg, rfl⟩ := (hloaded.group g y).1 hy
    exact ⟨k, row, hk, hg, rfl⟩
  · rintro ⟨k, row, hk, hg, rfl⟩
    obtain ⟨-, grp, -, hordinary, -, hmirrors⟩ := h.original hw horder hk
    have hback := hmirrors.ordinary ((ordinary_bare grp).trans hordinary)
    exact ⟨_, (hloaded.group g _).2 ⟨k, row, hk, hg, rfl⟩, hback, rfl⟩

theorem memberRow_loadGroup (h : y.Mirrors grp.bare) (i : Fin maxRaidSubgroups) :
    y.stored.memberRow i = grp.stored.memberRow i := by
  unfold Profile.memberRow
  rw [show y.stored.id = grp.stored.id from h.dbStoreId]

theorem Stored.reload (h : Stored w) (hw : Standing w none) (horder : w.Enumerates order) :
    Stored (w.reload order) := by
  have hloaded := h.loaded hw order
  generalize w.reload order = v at hloaded ⊢
  have hprofile := hloaded.profiles_iff h hw horder
  refine ⟨?_, fun row => ?_, fun p r => ?_, fun id g => ?_, ?_⟩
  · rw [hloaded.db]
    exact Tables.sorted h
  · rw [hloaded.db]
    constructor
    · intro hrow
      obtain ⟨k, hk⟩ := mem_iff_getElem?.1 hrow
      exact ⟨_, _, (hprofile _ _).2 ⟨k, row, hk, rfl, rfl⟩, (row_loadGroup w.db order row).symm⟩
    · rintro ⟨g, c, hc, rfl⟩
      obtain ⟨k, row, hk, -, rfl⟩ := (hprofile g c).1 hc
      rw [row_loadGroup]
      exact mem_of_getElem? hk
  · rw [hloaded.db]
    constructor
    · intro hr
      obtain ⟨g, grp, s, hg, hordinary, hs, rfl, rfl⟩ := (h.memberRow_iff p r).1 hr
      obtain ⟨k, hk⟩ := mem_iff_getElem?.1 ((h.row_iff _).2 ⟨g, grp, hg, hordinary, rfl⟩)
      have hmirrors := h.loadGroup_mirrors hw horder hg hordinary
      exact ⟨_, _, s.group, (hprofile _ _).2 ⟨k, _, hk, rfl, rfl⟩,
        (hmirrors.mem_slots _ _).2 (mem_map_of_mem hs), (memberRow_loadGroup hmirrors s.group).symm⟩
    · rintro ⟨g, c, i, hc, hmem, rfl⟩
      obtain ⟨k, row, hk, -, rfl⟩ := (hprofile g c).1 hc
      obtain ⟨g', grp, hg', hordinary, rfl, hmirrors⟩ := h.original hw horder hk
      exact (Tables.member h p _).2 ⟨g', grp.stored, i, profiles_eq_some.2 ⟨grp, hg', hordinary, rfl⟩,
        (hmirrors.mem_slots p i).1 hmem, memberRow_loadGroup hmirrors i⟩
  · rw [hloaded.store]
    constructor
    · rintro ⟨k, row, hk, hg, rfl⟩
      exact ⟨_, (hprofile _ _).2 ⟨k, row, hk, hg, rfl⟩, (loadGroup_eq w.db order row).2.1⟩
    · rintro ⟨c, hc, rfl⟩
      obtain ⟨k, row, hk, hg, rfl⟩ := (hprofile _ c).1 hc
      exact ⟨k, row, hk, hg, (loadGroup_eq w.db order row).2.1.symm⟩
  · rw [Option.eq_none_iff_forall_ne_some]
    intro g hg
    obtain ⟨k, row, hk, -, hid⟩ := (hloaded.store _ g).1 hg
    exact hloaded.fresh row (mem_of_getElem? hk) hid

end Loading

end Axium.Groups
