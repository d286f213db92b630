import Axium.Groups.Live

/-!
# The tables of the ordinary groups

What `groups`, `group_member` and the pool of ids hold is said by the profiles of the ordinary groups: the row of each
group and the subgroup of each member. A member is stored under his guid alone, so that he has a row in one group at
most. Each statement that the operations execute keeps the tables in step with the profiles.
-/

namespace Axium.Groups

open List Function Database

structure Profile where
  id : Nat
  leaderGuid : Nat
  raid : Bool
  slots : List (Nat × Fin maxRaidSubgroups)

def Profile.withSlots (c : Profile) (slots : List (Nat × Fin maxRaidSubgroups)) : Profile := { c with slots := slots }

def Profile.row (c : Profile) : GroupRow := ⟨c.id, c.leaderGuid, c.raid⟩

/-- The row of a member. Flags and roles are never written. -/
def Profile.memberRow (c : Profile) (subgroup : Fin maxRaidSubgroups) : MemberRow := ⟨c.id, ∅, subgroup, 0⟩

/-- The tables are those of the groups `f`, and every group is registered by its id. -/
structure Tables (f : Nat → Option Profile) (db : Database) (store : List (Option Nat)) (next : Nat) : Prop where
  sorted : db.groups.Pairwise fun r r' => r.guid < r'.guid
  rows : ∀ row, row ∈ db.groups ↔ ∃ g c, f g = some c ∧ row = c.row
  member : ∀ p row, db.member p = some row ↔ ∃ g c i, f g = some c ∧ (p, i) ∈ c.slots ∧ row = c.memberRow i
  registered : ∀ id g, store.getD id none = some g ↔ ∃ c, f g = some c ∧ c.id = id
  fresh : store.getD next none = none

section Tables

variable {f : Nat → Option Profile} {db : Database} {store : List (Option Nat)} {next g g' p : Nat} {c : Profile}
  {i : Fin maxRaidSubgroups}

theorem Tables.id_injective (h : Tables f db store next) (hg : f g = some c) (hg' : f g' = some c')
    (hid : c.id = c'.id) : g = g' := by
  have hstore := (h.registered c.id g).2 ⟨c, hg, rfl⟩
  rw [(h.registered c.id g').2 ⟨c', hg', hid.symm⟩] at hstore
  exact (Option.some.inj hstore).symm

theorem Tables.not_mem_of_none (h : Tables f db store next) (hp : db.member p = none) (hg : f g = some c) :
    (p, i) ∉ c.slots := by
  intro hmem
  rw [(h.member p (c.memberRow i)).2 ⟨g, c, i, hg, hmem, rfl⟩] at hp
  cases hp

theorem Tables.id_ne_next (h : Tables f db store next) (hg : f g = some c) : c.id ≠ next := by
  intro hid
  have hstore := (h.registered c.id g).2 ⟨c, hg, rfl⟩
  rw [hid, h.fresh] at hstore
  cases hstore

theorem update_eq_some {x : Profile} : update f g (some c) g' = some x ↔
    g' = g ∧ c = x ∨ g' ≠ g ∧ f g' = some x := by
  rw [update_apply]
  by_cases heq : g' = g
  · rw [if_pos heq, Option.some.injEq]
    exact ⟨fun h => .inl ⟨heq, h⟩, fun h => h.elim And.right fun h => absurd heq h.1⟩
  · rw [if_neg heq]
    exact ⟨fun h => .inr ⟨heq, h⟩, fun h => h.elim (fun h => absurd h.1 heq) And.right⟩

theorem Tables.rows_iff (h : Tables f db store next) (hg : f g = some c) (row : GroupRow) :
    row ∈ db.groups ↔ row ∈ db.groups ∧ row.guid ≠ c.id ∨ row = c.row := by
  constructor
  · intro hrow
    obtain ⟨g', x, hx, rfl⟩ := (h.rows row).1 hrow
    by_cases hid : x.id = c.id
    · have heq := h.id_injective hx hg hid
      rw [heq, hg] at hx
      exact .inr (by rw [Option.some.inj hx])
    · exact .inl ⟨hrow, hid⟩
  · rintro (h' | rfl)
    · exact h'.1
    · exact (h.rows _).2 ⟨g, c, hg, rfl⟩

theorem Tables.member_iff (h : Tables f db store next) (hg : f g = some c) (q : Nat) (row : MemberRow) :
    db.member q = some row ↔ db.member q = some row ∧ row.guid ≠ c.id ∨
      ∃ j, (q, j) ∈ c.slots ∧ row = c.memberRow j := by
  constructor
  · intro hrow
    obtain ⟨g', x, j, hx, hmem, rfl⟩ := (h.member q row).1 hrow
    by_cases hid : x.id = c.id
    · have heq := h.id_injective hx hg hid
      rw [heq, hg] at hx
      rw [← Option.some.inj hx] at hmem ⊢
      exact .inr ⟨j, hmem, rfl⟩
    · exact .inl ⟨hrow, hid⟩
  · rintro (h' | ⟨j, hmem, rfl⟩)
    · exact h'.1
    · exact (h.member q _).2 ⟨g, c, j, hg, hmem, rfl⟩

theorem Tables.change (h : Tables f db store next) (hg : f g = some c) (c' : Profile) (hid : c'.id = c.id)
    {db' : Database} (hsorted : db'.groups.Pairwise fun r r' => r.guid < r'.guid)
    (hrows : ∀ row, row ∈ db'.groups ↔ row ∈ db.groups ∧ row.guid ≠ c.id ∨ row = c'.row)
    (hmember : ∀ q row, db'.member q = some row ↔ db.member q = some row ∧ row.guid ≠ c.id ∨
      ∃ j, (q, j) ∈ c'.slots ∧ row = c'.memberRow j) : Tables (update f g (some c')) db' store next where
  sorted := hsorted
  rows row := by
    rw [hrows, h.rows]
    constructor
    · rintro (⟨⟨g', x, hx, rfl⟩, hne⟩ | rfl)
      · refine ⟨g', x, update_eq_some.2 (.inr ⟨fun heq => ?_, hx⟩), rfl⟩
        rw [heq, hg] at hx
        exact hne (by rw [← Option.some.inj hx]; rfl)
      · exact ⟨g, c', update_eq_some.2 (.inl ⟨rfl, rfl⟩), rfl⟩
    · rintro ⟨g', x, hx, rfl⟩
      obtain ⟨rfl, rfl⟩ | ⟨hne, hx⟩ := update_eq_some.1 hx
      · exact .inr rfl
      · exact .inl ⟨⟨g', x, hx, rfl⟩, fun hsame => hne (h.id_injective hx hg hsame)⟩
  member q row := by
    rw [hmember, h.member]
    constructor
    · rintro (⟨⟨g', x, j, hx, hmem, rfl⟩, hne⟩ | ⟨j, hmem, rfl⟩)
      · refine ⟨g', x, j, update_eq_some.2 (.inr ⟨fun heq => ?_, hx⟩), hmem, rfl⟩
        rw [heq, hg] at hx
        exact hne (by rw [← Option.some.inj hx]; rfl)
      · exact ⟨g, c', j, update_eq_some.2 (.inl ⟨rfl, rfl⟩), hmem, rfl⟩
    · rintro ⟨g', x, j, hx, hmem, rfl⟩
      obtain ⟨rfl, rfl⟩ | ⟨hne, hx⟩ := update_eq_some.1 hx
      · exact .inr ⟨j, hmem, rfl⟩
      · exact .inl ⟨⟨g', x, j, hx, hmem, rfl⟩, fun hsame => hne (h.id_injective hx hg hsame)⟩
  registered id g' := by
    rw [h.registered]
    constructor
    · rintro ⟨x, hx, rfl⟩
      by_cases heq : g' = g
      · rw [heq, hg] at hx
        exact ⟨c', update_eq_some.2 (.inl ⟨heq, rfl⟩), by rw [hid, Option.some.inj hx]⟩
      · exact ⟨x, update_eq_some.2 (.inr ⟨heq, hx⟩), rfl⟩
    · rintro ⟨x, hx, rfl⟩
      obtain ⟨rfl, rfl⟩ | ⟨-, hx⟩ := update_eq_some.1 hx
      · exact ⟨c, hg, hid.symm⟩
      · exact ⟨x, hx, rfl⟩
  fresh := h.fresh

/-! ## Members -/

theorem Database.member_insertMember (db : Database) {p : Nat} (hp : db.member p = none) (row : MemberRow)
    (q : Nat) : (db.insertMember p row).member q = if q = p then some row else db.member q := by
  unfold insertMember
  rw [hp]
  exact update_apply ..

theorem Database.groups_insertMember (db : Database) (p : Nat) (row : MemberRow) :
    (db.insertMember p row).groups = db.groups := by
  unfold insertMember
  split <;> rfl

variable {slots : List (Nat × Fin maxRaidSubgroups)}

theorem Tables.setSlots (h : Tables f db store next) (hg : f g = some c)
    {db' : Database} {r : Option MemberRow} (hgroups : db'.groups = db.groups)
    (hmember : ∀ q, db'.member q = if q = p then r else db.member q)
    (hold : db.member p = none ∨ ∃ j, (p, j) ∈ c.slots)
    (hslots : ∀ q j, q ≠ p → ((q, j) ∈ slots ↔ (q, j) ∈ c.slots))
    (hnew : ∀ row, r = some row ↔ ∃ j, (p, j) ∈ slots ∧ row = c.memberRow j) :
    Tables (update f g (some (c.withSlots slots))) db' store next := by
  refine h.change hg (c.withSlots slots) rfl ?_ (fun row => ?_) fun q row => ?_
  · rw [hgroups]
    exact h.sorted
  · rw [hgroups]
    exact h.rows_iff hg row
  · rw [hmember]
    by_cases hq : q = p
    · rw [if_pos hq, hq, hnew]
      refine ⟨.inr, fun h' => h'.resolve_left ?_⟩
      rintro ⟨hrow, hne⟩
      obtain hnone | ⟨i, hi⟩ := hold
      · rw [hnone] at hrow
        cases hrow
      · rw [(h.member p (c.memberRow i)).2 ⟨g, c, i, hg, hi, rfl⟩] at hrow
        exact hne (congrArg MemberRow.guid (Option.some.inj hrow)).symm
    · rw [if_neg hq]
      exact (h.member_iff hg q row).trans
        (or_congr_right (exists_congr fun j => and_congr_left fun _ => (hslots q j hq).symm))

theorem Tables.addSlot (h : Tables f db store next) (hg : f g = some c) (hp : db.member p = none)
    (i : Fin maxRaidSubgroups) :
    Tables (update f g (some (c.withSlots (c.slots ++ [(p, i)])))) (db.insertMember p (c.memberRow i))
      store next := by
  refine h.setSlots hg (groups_insertMember ..) (member_insertMember db hp _) (.inl hp)
    (fun q j hq => ?_) fun row => ?_
  · rw [mem_append, mem_singleton, Prod.mk.injEq]
    exact or_iff_left fun h => hq h.1
  · constructor
    · exact fun hrow => ⟨i, mem_append_right _ (mem_singleton.2 rfl), (Option.some.inj hrow).symm⟩
    · rintro ⟨j, hmem, rfl⟩
      obtain hmem | hmem := mem_append.1 hmem
      · exact absurd hmem (h.not_mem_of_none hp hg)
      · rw [(Prod.mk.inj (mem_singleton.1 hmem)).2]

theorem Tables.eraseSlot (h : Tables f db store next) (hg : f g = some c)
    (hp : ∃ j, (p, j) ∈ c.slots) (hslots : ∀ q j, (q, j) ∈ slots ↔ (q, j) ∈ c.slots ∧ q ≠ p) :
    Tables (update f g (some (c.withSlots slots))) (db.deleteMember p) store next :=
  h.setSlots hg rfl (fun _ => update_apply ..) (.inr hp) (fun q j hq => (hslots q j).trans (and_iff_left hq))
    fun _ => iff_of_false nofun fun ⟨j, hmem, _⟩ => ((hslots p j).1 hmem).2 rfl

theorem Database.deleteMember_of_none {db : Database} (hp : db.member p = none) : db.deleteMember p = db := by
  unfold deleteMember
  rw [← hp, update_eq_self]

theorem Tables.deleteMember_none (h : Tables f db store next) (hp : db.member p = none) :
    Tables f (db.deleteMember p) store next := by
  rw [deleteMember_of_none hp]
  exact h

theorem Tables.moveSlot (h : Tables f db store next) (hg : f g = some c) (hp : ∃ j, (p, j) ∈ c.slots)
    (hslots : ∀ q j, (q, j) ∈ slots ↔ (q, j) ∈ c.slots ∧ q ≠ p ∨ q = p ∧ j = i) :
    Tables (update f g (some (c.withSlots slots))) (db.updateSubgroup p i) store next := by
  refine h.setSlots hg (r := some (c.memberRow i)) rfl (fun q => ?_) (.inr hp) (fun q j hq => ?_) fun row => ?_
  · obtain ⟨k, hk⟩ := hp
    unfold updateSubgroup
    rw [(h.member p (c.memberRow k)).2 ⟨g, c, k, hg, hk, rfl⟩]
    exact update_apply ..
  · rw [hslots, and_iff_left hq]
    exact or_iff_left fun h => hq h.1
  · constructor
    · exact fun hrow => ⟨i, (hslots p i).2 (.inr ⟨rfl, rfl⟩), (Option.some.inj hrow).symm⟩
    · rintro ⟨j, hmem, rfl⟩
      obtain ⟨-, hne⟩ | ⟨-, rfl⟩ := (hslots p j).1 hmem
      · exact absurd rfl hne
      · rfl

/-! ## Groups -/

theorem Tables.updateRow (h : Tables f db store next) (hg : f g = some c) (c' : Profile) (hid : c'.id = c.id)
    (hslots : c'.slots = c.slots) {u : GroupRow → GroupRow} (hu : ∀ r, (u r).guid = r.guid) (hrow : u c.row = c'.row) :
    Tables (update f g (some c')) (db.updateGroup c.id u) store next := by
  have hguid : ∀ r : GroupRow, (if r.guid = c.id then u r else r).guid = r.guid := by
    intro r
    split
    · exact hu r
    · rfl
  refine h.change hg c' hid ?_ (fun row => ?_) fun q row => ?_
  · unfold updateGroup
    rw [pairwise_map]
    simpa only [hguid] using h.sorted
  · unfold updateGroup
    rw [mem_map]
    constructor
    · rintro ⟨r, hr, rfl⟩
      obtain ⟨hr, hne⟩ | rfl := (h.rows_iff hg r).1 hr
      · rw [if_neg hne]
        exact .inl ⟨hr, hne⟩
      · rw [if_pos (show c.row.guid = c.id from rfl)]
        exact .inr hrow
    · rintro (⟨hr, hne⟩ | rfl)
      · exact ⟨row, hr, if_neg hne⟩
      · exact ⟨c.row, (h.rows_iff hg c.row).2 (.inr rfl), by rw [if_pos (show c.row.guid = c.id from rfl), hrow]⟩
  · refine (h.member_iff hg q row).trans (or_congr_right ?_)
    unfold Profile.memberRow
    rw [hslots, hid]

theorem update_none_eq_some {x : Profile} : update f g none g' = some x ↔ g' ≠ g ∧ f g' = some x := by
  rw [update_apply]
  by_cases heq : g' = g
  · rw [if_pos heq]
    exact ⟨fun hnone => (nomatch hnone), fun h => absurd heq h.1⟩
  · rw [if_neg heq]
    exact ⟨fun h => ⟨heq, h⟩, And.right⟩

variable (l : List (Option Nat))

theorem getD_set (k id : Nat) (v : Option Nat) (hk : v = none ∨ k < l.length) :
    (l.set k v).getD id none = if id = k then v else l.getD id none := by
  rw [getD_eq_getElem?_getD, getElem?_set, getD_eq_getElem?_getD]
  by_cases hid : k = id
  · rw [if_pos hid, if_pos hid.symm]
    split
    · rfl
    · next hlt => rw [hk.resolve_right (hid ▸ hlt), Option.getD_none]
  · rw [if_neg hid, if_neg (Ne.symm hid)]

theorem Tables.remove (h : Tables f db store next) (hg : f g = some c) :
    Tables (update f g none) (db.deleteGroup c.id) (store.set c.id none) (min c.id next) where
  sorted := h.sorted.filter _
  rows row := by
    unfold deleteGroup
    rw [mem_filter, decide_eq_true_eq, h.rows]
    constructor
    · rintro ⟨⟨g', x, hx, rfl⟩, hne⟩
      refine ⟨g', x, update_none_eq_some.2 ⟨fun heq => ?_, hx⟩, rfl⟩
      rw [heq, hg] at hx
      exact hne (by rw [← Option.some.inj hx]; rfl)
    · rintro ⟨g', x, hx, rfl⟩
      obtain ⟨hne, hx⟩ := update_none_eq_some.1 hx
      exact ⟨⟨g', x, hx, rfl⟩, fun hid => hne (h.id_injective hx hg hid)⟩
  member q row := by
    change (db.member q).filter (·.guid ≠ c.id) = some row ↔ _
    rw [Option.filter_eq_some_iff, decide_eq_true_eq, h.member]
    constructor
    · rintro ⟨⟨g', x, j, hx, hmem, rfl⟩, hne⟩
      refine ⟨g', x, j, update_none_eq_some.2 ⟨fun heq => ?_, hx⟩, hmem, rfl⟩
      rw [heq, hg] at hx
      exact hne (by rw [← Option.some.inj hx]; rfl)
    · rintro ⟨g', x, j, hx, hmem, rfl⟩
      obtain ⟨hne, hx⟩ := update_none_eq_some.1 hx
      exact ⟨⟨g', x, j, hx, hmem, rfl⟩, fun hid => hne (h.id_injective hx hg hid)⟩
  registered id g' := by
    rw [getD_set store c.id id none (.inl rfl)]
    by_cases hid : id = c.id
    · rw [if_pos hid]
      constructor
      · exact fun hnone => (nomatch hnone)
      · rintro ⟨x, hx, hxid⟩
        obtain ⟨hne, hx⟩ := update_none_eq_some.1 hx
        exact absurd (h.id_injective hx hg (hxid.trans hid)) hne
    · rw [if_neg hid, h.registered]
      constructor
      · rintro ⟨x, hx, rfl⟩
        refine ⟨x, update_none_eq_some.2 ⟨fun heq => ?_, hx⟩, rfl⟩
        rw [heq, hg] at hx
        exact hid (by rw [Option.some.inj hx])
      · rintro ⟨x, hx, rfl⟩
        exact ⟨x, (update_none_eq_some.1 hx).2, rfl⟩
  fresh := by
    rw [getD_set store c.id _ none (.inl rfl)]
    split
    · rfl
    · next hne => rw [show min c.id next = next by omega, h.fresh]

theorem pairwise_orderedInsert {row : GroupRow} {l : List GroupRow} (h : l.Pairwise fun r r' => r.guid < r'.guid)
    (hnew : ∀ r ∈ l, r.guid ≠ row.guid) :
    (l.orderedInsert (fun r r' => r.guid ≤ r'.guid) row).Pairwise fun r r' => r.guid < r'.guid := by
  induction l with
  | nil => exact pairwise_singleton _ _
  | cons b l ih =>
    have hrest := pairwise_cons.1 h
    rw [List.orderedInsert]
    split
    · next hle =>
      have hlt : row.guid < b.guid := lt_of_le_of_ne hle (Ne.symm (hnew b mem_cons_self))
      refine pairwise_cons.2 ⟨fun r hr => ?_, h⟩
      obtain rfl | hr := mem_cons.1 hr
      · exact hlt
      · exact hlt.trans (hrest.1 r hr)
    · next hgt =>
      refine pairwise_cons.2 ⟨fun r hr => ?_, ih hrest.2 fun r hr => hnew r (mem_cons_of_mem b hr)⟩
      obtain rfl | hr := (mem_orderedInsert _).1 hr
      · exact Nat.lt_of_not_le hgt
      · exact hrest.1 r hr

theorem getD_takeWhile (i : Nat) : l.getD (i + ((l.drop i).takeWhile Option.isSome).length) none = none := by
  rw [getD_eq_getElem?_getD, ← getElem?_drop]
  generalize l.drop i = l
  induction l with
  | nil => rfl
  | cons a l ih =>
    cases a with
    | none => rfl
    | some g =>
      rw [takeWhile_cons_of_pos rfl, length_cons]
      exact ih

theorem getD_append_replicate (n id : Nat) : (l ++ replicate n none).getD id none = l.getD id none := by
  rw [getD_eq_getElem?_getD, getD_eq_getElem?_getD, getElem?_append]
  split
  · rfl
  · next hlt =>
    rw [getElem?_eq_none (not_lt.1 hlt), getElem?_replicate]
    split <;> rfl

theorem Tables.create (h : Tables f db store next) (hg : f g = none) (hid : c.id = next) (hslots : c.slots = [(p, i)])
    (hp : db.member p = none) :
    Tables (update f g (some c)) ((db.insertGroup c.row).insertMember p (c.memberRow i))
      ((store ++ replicate (next + 1 - store.length) none).set next (some g))
      (next + 1 + ((store.drop (next + 1)).takeWhile Option.isSome).length) := by
  have hnew : ∀ r ∈ db.groups, r.guid ≠ c.row.guid := by
    intro r hr
    obtain ⟨g', x, hx, rfl⟩ := (h.rows r).1 hr
    exact fun hsame => h.id_ne_next hx (hsame.trans hid)
  have hgroups : (db.insertGroup c.row).groups = db.groups.orderedInsert (fun r r' => r.guid ≤ r'.guid) c.row := by
    unfold insertGroup
    rw [if_neg]
    rw [any_eq_true]
    rintro ⟨r, hr, hsame⟩
    exact hnew r hr (of_decide_eq_true hsame)
  have hrows : (db.insertGroup c.row).member = db.member := by
    unfold insertGroup
    split <;> rfl
  have hstore (id : Nat) : ((store ++ replicate (next + 1 - store.length) none).set next (some g)).getD id none =
      if id = next then some g else store.getD id none := by
    rw [getD_set _ _ _ _ (.inr (by rw [length_append, length_replicate]; omega)), getD_append_replicate]
  refine ⟨?_, fun row => ?_, fun q row => ?_, fun id g' => ?_, ?_⟩
  · rw [groups_insertMember, hgroups]
    exact pairwise_orderedInsert h.sorted hnew
  · rw [groups_insertMember, hgroups, mem_orderedInsert, h.rows]
    constructor
    · rintro (rfl | ⟨g', x, hx, rfl⟩)
      · exact ⟨g, c, update_eq_some.2 (.inl ⟨rfl, rfl⟩), rfl⟩
      · refine ⟨g', x, update_eq_some.2 (.inr ⟨fun heq => ?_, hx⟩), rfl⟩
        rw [heq, hg] at hx
        cases hx
    · rintro ⟨g', x, hx, rfl⟩
      obtain ⟨rfl, rfl⟩ | ⟨-, hx⟩ := update_eq_some.1 hx
      · exact .inl rfl
      · exact .inr ⟨g', x, hx, rfl⟩
  · rw [member_insertMember _ (hrows ▸ hp), hrows]
    constructor
    · intro hrow
      by_cases hq : q = p
      · rw [if_pos hq] at hrow
        exact ⟨g, c, i, update_eq_some.2 (.inl ⟨rfl, rfl⟩), by rw [hslots, hq]; exact mem_singleton.2 rfl,
          (Option.some.inj hrow).symm⟩
      · rw [if_neg hq] at hrow
        obtain ⟨g', x, j, hx, hmem, rfl⟩ := (h.member q row).1 hrow
        refine ⟨g', x, j, update_eq_some.2 (.inr ⟨fun heq => ?_, hx⟩), hmem, rfl⟩
        rw [heq, hg] at hx
        cases hx
    · rintro ⟨g', x, j, hx, hmem, rfl⟩
      obtain ⟨rfl, rfl⟩ | ⟨-, hx⟩ := update_eq_some.1 hx
      · rw [hslots, mem_singleton, Prod.mk.injEq] at hmem
        rw [if_pos hmem.1, hmem.2]
      · have hne : q ≠ p := by
          rintro rfl
          exact h.not_mem_of_none hp hx hmem
        rw [if_neg hne]
        exact (h.member q _).2 ⟨g', x, j, hx, hmem, rfl⟩
  · rw [hstore]
    by_cases hnext : id = next
    · rw [if_pos hnext, Option.some.injEq]
      constructor
      · rintro rfl
        exact ⟨c, update_eq_some.2 (.inl ⟨rfl, rfl⟩), hid.trans hnext.symm⟩
      · rintro ⟨x, hx, hxid⟩
        obtain ⟨rfl, -⟩ | ⟨-, hx⟩ := update_eq_some.1 hx
        · rfl
        · exact absurd (hxid.trans hnext) (h.id_ne_next hx)
    · rw [if_neg hnext, h.registered]
      constructor
      · rintro ⟨x, hx, rfl⟩
        refine ⟨x, update_eq_some.2 (.inr ⟨fun heq => ?_, hx⟩), rfl⟩
        rw [heq, hg] at hx
        cases hx
      · rintro ⟨x, hx, rfl⟩
        obtain ⟨rfl, rfl⟩ | ⟨-, hx⟩ := update_eq_some.1 hx
        · exact absurd hid hnext
        · exact ⟨x, hx, rfl⟩
  · rw [hstore, if_neg (by omega)]
    exact getD_takeWhile store (next + 1)

end Tables

end Axium.Groups
