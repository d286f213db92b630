import Axium.Looting.RollCount

/-!
# The rolls of a group over whole runs

The invariant of the list of rolls, kept by each step of a group that is attended, and what it gives for
every run: **`soundRolls_of_attended`**.
-/

namespace Axium.Looting

open Run List Function Option OrdMap

def Filled (loots : Nat → Option Loot) : Prop :=
  ∀ id loot, loots id = some loot → ∀ item ∈ loot.items, item.count ≠ 0

/-- From `loots` to `loots'` the items stay where they are, with their counts. -/
def SameItems (loots loots' : Nat → Option Loot) : Prop :=
  ∀ id loot', loots' id = some loot' →
    ∃ loot, loots id = some loot ∧ loot'.items.map (·.count) = loot.items.map (·.count)

namespace SameItems

variable {loots loots' : Nat → Option Loot}

theorem refl (loots : Nat → Option Loot) : SameItems loots loots := fun _ loot' h => ⟨loot', h, rfl⟩

theorem filled (h : SameItems loots loots') (hf : Filled loots) : Filled loots' := by
  intro id loot' hl item hitem
  obtain ⟨loot, hloot, hmap⟩ := h id loot' hl
  have hmem : item.count ∈ loot'.items.map (·.count) := mem_map_of_mem hitem
  rw [hmap] at hmem
  obtain ⟨item₀, hitem₀, hcount⟩ := mem_map.1 hmem
  rw [← hcount]
  exact hf id loot hloot item₀ hitem₀

theorem length (h : SameItems loots loots') {id : Nat} {loot' : Loot} (hl : loots' id = some loot') :
    ∃ loot, loots id = some loot ∧ loot'.items.length = loot.items.length := by
  obtain ⟨loot, hloot, hmap⟩ := h id loot' hl
  have hlen := congrArg List.length hmap
  rw [length_map, length_map] at hlen
  exact ⟨loot, hloot, hlen⟩

theorem update {id : Nat} {loot loot' : Loot} (h : loots id = some loot)
    (hmap : loot'.items.map (·.count) = loot.items.map (·.count)) :
    SameItems loots (update loots id (some loot')) := by
  intro id' loot'' hl
  by_cases hid : id' = id
  · subst hid
    rw [update_self, some.injEq] at hl
    exact ⟨loot, h, hl ▸ hmap⟩
  · rw [update_of_ne hid] at hl
    exact ⟨loot'', hl, rfl⟩

end SameItems

theorem map_count_modify (items : List LootItem) (i : Nat) {f : LootItem → LootItem}
    (hf : ∀ item, (f item).count = item.count) : (items.modify i f).map (·.count) = items.map (·.count) := by
  refine ext_getElem? fun n => ?_
  rw [getElem?_map, getElem?_map, getElem?_modify]
  cases items[n]? with
  | none => rfl
  | some item =>
    by_cases hn : i = n
    · simp [hn, hf]
    · simp [hn]

theorem map_count_countTheRoll (loot : Loot) (roll : Roll) (draw : Draw) :
    (loot.countTheRoll roll draw).1.items.map (·.count) = loot.items.map (·.count) := by
  rcases Loot.countTheRoll_cases loot roll draw with heq | heq | ⟨_, _, -, -, heq | heq⟩
  · rw [heq]
  · rw [heq]
    exact map_count_modify loot.items roll.itemSlot fun _ => rfl
  · rw [heq]
    exact map_count_modify loot.items roll.itemSlot fun _ => rfl
  · rw [heq]
    exact map_count_modify loot.items roll.itemSlot fun _ => rfl

namespace Group

variable {g : Group}

/-- Every roll is over an item that is there and counts its votes; no item is rolled for twice. -/
structure Base (g : Group) : Prop where
  rolls : ∀ roll ∈ g.rollId, roll.Ok
  inRange : ∀ roll ∈ g.rollId, ∀ loot, g.loots roll.lootId = some loot → roll.itemSlot < loot.items.length
  filled : Filled g.loots
  settled : ∀ r ∈ g.results, r.Settled
  dropped : ∀ roll ∈ g.dropped, roll.Waits
  nodup : g.members.Nodup
  length_le : g.members.length ≤ maxRaidSize
  guids : (g.allRolls.map (·.itemGUID)).Nodup
  guid_lt : ∀ roll ∈ g.allRolls, roll.itemGUID < g.nextItemGUID

def Waiting (g : Group) : Prop := ∀ roll ∈ g.rollId, roll.isValid g.loots = true → roll.Waits

theorem Base.sound (hb : g.Base) (hw : g.Waiting) : g.Sound where
  counted roll hroll := (hb.rolls roll hroll).counted
  waits := hw
  settled := hb.settled
  dropped := hb.dropped

/-! ## Counting a roll -/

/-- The group after the roll at `i` was counted with the loot `loot`. -/
def counted (g : Group) (i : Nat) (roll : Roll) (loot : Loot) (draw : Draw) : Group :=
  { g with
    rollId := g.rollId.eraseIdx i
    loots := update g.loots roll.lootId (some (loot.countTheRoll roll draw).1)
    results := g.results ++ [{
      roll
      given := (loot.countTheRoll roll draw).2
      item := (loot.countTheRoll roll draw).1.items[roll.itemSlot]? }] }

theorem countTheRoll_cases (g : Group) (i : Nat) (draw : Draw) :
    g.rollId[i]? = none ∧ g.countTheRoll i draw = g ∨
      (∃ roll, g.rollId[i]? = some roll ∧ g.loots roll.lootId = none ∧
        g.countTheRoll i draw = { g with rollId := g.rollId.eraseIdx i }) ∨
      ∃ roll loot, g.rollId[i]? = some roll ∧ g.loots roll.lootId = some loot ∧
        g.countTheRoll i draw = g.counted i roll loot draw := by
  unfold countTheRoll
  cases hroll : g.rollId[i]? with
  | none => exact .inl ⟨rfl, rfl⟩
  | some roll =>
    dsimp only
    cases hloot : g.loots roll.lootId with
    | none => exact .inr (.inl ⟨roll, rfl, hloot, rfl⟩)
    | some loot => exact .inr (.inr ⟨roll, loot, rfl, hloot, rfl⟩)

theorem allRolls_countTheRoll (g : Group) (i : Nat) (draw : Draw) :
    (g.countTheRoll i draw).allRolls.Subperm g.allRolls := by
  rcases g.countTheRoll_cases i draw with ⟨-, heq⟩ | ⟨roll, -, -, heq⟩ | ⟨roll, loot, hroll, -, heq⟩
  · rw [heq]
  · rw [heq]
    exact ((eraseIdx_sublist _ _).append_right _).subperm
  · rw [heq]
    unfold allRolls counted
    rw [map_append]
    obtain ⟨hi, hget⟩ := List.getElem?_eq_some_iff.1 hroll
    have hperm := List.getElem_cons_eraseIdx_perm hi
    rw [hget] at hperm
    have hall : (g.rollId.eraseIdx i ++ (g.results.map (·.roll) ++ [roll])).Perm
        (g.rollId ++ g.results.map (·.roll)) := by
      refine List.Perm.trans ?_ (hperm.append_right _)
      rw [← append_assoc]
      exact perm_append_singleton _ _
    exact hall.subperm

variable {i : Nat}

theorem mem_rollId_countTheRoll {draw : Draw} {roll : Roll}
    (h : roll ∈ (g.countTheRoll i draw).rollId) : roll ∈ g.rollId := by
  rcases g.countTheRoll_cases i draw with ⟨-, heq⟩ | ⟨_, -, -, heq⟩ | ⟨_, _, -, -, heq⟩
  · rw [heq] at h
    exact h
  · rw [heq] at h
    exact mem_of_mem_eraseIdx h
  · rw [heq] at h
    exact mem_of_mem_eraseIdx h

theorem loots_countTheRoll (g : Group) (i : Nat) (draw : Draw) :
    SameItems g.loots (g.countTheRoll i draw).loots := by
  rcases g.countTheRoll_cases i draw with ⟨-, heq⟩ | ⟨_, -, -, heq⟩ | ⟨roll, loot, -, hloot, heq⟩
  · rw [heq]
    exact .refl _
  · rw [heq]
    exact .refl _
  · rw [heq]
    exact .update hloot (map_count_countTheRoll loot roll draw)

theorem Base.countTheRoll (hb : g.Base) {draw : Draw}
    (honline : ∀ roll, g.rollId[i]? = some roll → WinnerOnline roll draw) : (g.countTheRoll i draw).Base := by
  have hsub := g.allRolls_countTheRoll i draw
  have hitems := g.loots_countTheRoll i draw
  have hfields : (g.countTheRoll i draw).members = g.members ∧
      (g.countTheRoll i draw).nextItemGUID = g.nextItemGUID ∧
      (g.countTheRoll i draw).dropped = g.dropped := by
    rcases g.countTheRoll_cases i draw with ⟨-, heq⟩ | ⟨_, -, -, heq⟩ | ⟨_, _, -, -, heq⟩ <;> rw [heq] <;>
      exact ⟨rfl, rfl, rfl⟩
  obtain ⟨hmembers, hnext, hdropped⟩ := hfields
  refine ⟨fun roll h => hb.rolls roll (mem_rollId_countTheRoll h), fun roll h loot' hl => ?_,
    hitems.filled hb.filled, ?_, hdropped ▸ hb.dropped, hmembers ▸ hb.nodup,
    hmembers ▸ hb.length_le, ?_, fun roll h => ?_⟩
  · obtain ⟨loot, hloot, hlen⟩ := hitems.length hl
    rw [hlen]
    exact hb.inRange roll (mem_rollId_countTheRoll h) loot hloot
  · rcases g.countTheRoll_cases i draw with ⟨-, heq⟩ | ⟨_, -, -, heq⟩ | ⟨roll, loot, hroll, hloot, heq⟩
    · rw [heq]
      exact hb.settled
    · rw [heq]
      exact hb.settled
    · rw [heq]
      intro r hr
      rcases mem_append.1 hr with hold | hnew
      · exact hb.settled r hold
      · -- the item of the roll is in the loot
        rw [mem_singleton.1 hnew]
        have hmem : roll ∈ g.rollId := mem_of_getElem? hroll
        have hlt := hb.inRange roll hmem loot hloot
        have hitem : loot.items[roll.itemSlot]? = some loot.items[roll.itemSlot] := getElem?_eq_getElem hlt
        exact Loot.countTheRoll_settled (hb.rolls roll hmem).counted hitem
          (hb.filled _ loot hloot _ (getElem_mem hlt)) (honline roll hroll)
  · obtain ⟨l, hperm, hl⟩ := hsub
    exact (hperm.map _).nodup_iff.1 ((hl.map _).nodup hb.guids)
  · rw [hnext]
    exact hb.guid_lt roll (hsub.subset h)

theorem isValid_countTheRoll {draw : Draw} {roll : Roll}
    (h : roll.isValid (g.countTheRoll i draw).loots = true) : roll.isValid g.loots = true := by
  unfold Roll.isValid at h ⊢
  obtain ⟨loot', hl⟩ := isSome_iff_exists.1 h
  obtain ⟨loot, hloot, -⟩ := g.loots_countTheRoll i draw roll.lootId loot' hl
  rw [hloot]
  rfl

theorem waiting_countTheRoll {draw : Draw}
    (hw : ∀ j roll, j ≠ i → g.rollId[j]? = some roll → roll.isValid g.loots = true → roll.Waits)
    (hi : i < g.rollId.length) : (g.countTheRoll i draw).Waiting := by
  intro roll hroll hvalid
  have hvalid := isValid_countTheRoll hvalid
  have hmem : roll ∈ g.rollId.eraseIdx i := by
    rcases g.countTheRoll_cases i draw with ⟨hnone, -⟩ | ⟨_, -, -, heq⟩ | ⟨_, _, -, -, heq⟩
    · exact absurd (getElem?_eq_none_iff.1 hnone) (by omega)
    · rw [heq] at hroll
      exact hroll
    · rw [heq] at hroll
      exact hroll
  obtain ⟨j, hj, hget⟩ := mem_eraseIdx_iff_getElem?.1 hmem
  exact hw j roll hj hget hvalid

/-! ## A vote -/

def setRoll (g : Group) (i : Nat) (roll : Roll) : Group := { g with rollId := g.rollId.set i roll }

theorem Base.setRoll (hb : g.Base) {roll roll' : Roll} (hroll : g.rollId[i]? = some roll)
    (hok : roll'.Ok) (hguid : roll'.itemGUID = roll.itemGUID) (hloot : roll'.lootId = roll.lootId)
    (hslot : roll'.itemSlot = roll.itemSlot) : (g.setRoll i roll').Base := by
  have hmem : roll ∈ g.rollId := mem_of_getElem? hroll
  have hset : ∀ r ∈ g.rollId.set i roll', r = roll' ∨ r ∈ g.rollId := fun r hr =>
    (mem_or_eq_of_mem_set hr).symm
  have hguids : (g.setRoll i roll').allRolls.map (·.itemGUID) = g.allRolls.map (·.itemGUID) := by
    unfold allRolls Group.setRoll
    rw [map_append, map_append]
    congr 1
    refine ext_getElem? fun n => ?_
    rw [getElem?_map, getElem?_map, getElem?_set]
    by_cases hn : i = n
    · subst hn
      obtain ⟨hi, -⟩ := List.getElem?_eq_some_iff.1 hroll
      rw [if_pos rfl, if_pos hi, hroll, map_some, map_some, hguid]
    · rw [if_neg hn]
  refine ⟨fun r hr => ?_, fun r hr loot hl => ?_, hb.filled, hb.settled, hb.dropped, hb.nodup,
    hb.length_le, hguids ▸ hb.guids, fun r hr => ?_⟩
  · rcases hset r hr with rfl | hold
    · exact hok
    · exact hb.rolls r hold
  · rcases hset r hr with rfl | hold
    · rw [hslot]
      exact hb.inRange roll hmem loot (hloot ▸ hl)
    · exact hb.inRange r hold loot hl
  · change r.itemGUID < g.nextItemGUID
    rcases mem_append.1 hr with hnew | hold
    · rcases hset r hnew with rfl | hold
      · rw [hguid]
        exact hb.guid_lt roll (mem_append_left _ hmem)
      · exact hb.guid_lt r (mem_append_left _ hold)
    · exact hb.guid_lt r (mem_append_right _ hold)

theorem countRollVote_cases (g : Group) (player : Guid) (guid choice : Nat) (draw : Draw) :
    g.countRollVote player guid choice draw = g ∨
      ∃ i roll, g.rollId[i]? = some roll ∧ roll.itemGUID = guid ∧
        roll.playerVote.contains player = true ∧
        ((roll.vote player choice).totalPass + (roll.vote player choice).totalNeed +
            (roll.vote player choice).totalGreed < (roll.vote player choice).totalPlayersRolling ∧
          g.countRollVote player guid choice draw = g.setRoll i (roll.vote player choice) ∨
        g.countRollVote player guid choice draw =
          (g.setRoll i (roll.vote player choice)).countTheRoll i draw) := by
  unfold countRollVote
  cases hget : g.getRoll guid with
  | none => exact .inl rfl
  | some i =>
    dsimp only
    cases hroll : g.rollId[i]? with
    | none => exact .inl rfl
    | some roll =>
      dsimp only
      by_cases hplayer : roll.playerVote.contains player = true
      · rw [if_pos hplayer]
        by_cases hempty : (g.loots roll.lootId).any (·.items.isEmpty) = true
        · rw [if_pos hempty]
          exact .inl rfl
        · rw [if_neg hempty]
          obtain ⟨hi, hp, -⟩ := findIdx?_eq_some_iff_getElem.1 hget
          have hguid : roll.itemGUID = guid := by
            rw [getElem?_eq_getElem hi, some.injEq] at hroll
            rw [hroll, Bool.and_eq_true] at hp
            exact of_decide_eq_true hp.1
          refine .inr ⟨i, roll, hroll, hguid, hplayer, ?_⟩
          by_cases hfull : (roll.vote player choice).totalPlayersRolling ≤
              (roll.vote player choice).totalPass + (roll.vote player choice).totalNeed +
                (roll.vote player choice).totalGreed
          · rw [if_pos hfull]
            exact .inr rfl
          · rw [if_neg hfull]
            exact .inl ⟨Nat.lt_of_not_le hfull, rfl⟩
      · rw [if_neg hplayer]
        exact .inl rfl

section Vote

variable {player : Guid} {guid choice : Nat} {draw : Draw}

theorem ok_vote (hb : g.Base) (hatt : g.Attended (.countRollVote player guid choice draw)) {i : Nat}
    {roll : Roll} (hroll : g.rollId[i]? = some roll) (hguid : roll.itemGUID = guid)
    (hplayer : roll.playerVote.contains player = true) : (roll.vote player choice).Ok := by
  have hmem : roll ∈ g.rollId := mem_of_getElem? hroll
  refine (hb.rolls roll hmem).vote fun hlt => ?_
  obtain ⟨v, hv⟩ := isSome_iff_exists.1 hplayer
  rw [hv, (hatt roll hmem hguid).1 v hv hlt]

theorem Base.voted (hb : g.Base) (hatt : g.Attended (.countRollVote player guid choice draw)) {i : Nat}
    {roll : Roll} (hroll : g.rollId[i]? = some roll) (hguid : roll.itemGUID = guid)
    (hplayer : roll.playerVote.contains player = true) : (g.setRoll i (roll.vote player choice)).Base :=
  hb.setRoll hroll (ok_vote hb hatt hroll hguid hplayer) (Roll.itemGUID_vote roll choice)
    (Roll.lootId_vote roll choice) (Roll.itemSlot_vote roll choice)

theorem getElem?_setRoll {i : Nat} {roll : Roll} (hroll : g.rollId[i]? = some roll) (roll' : Roll) :
    (g.setRoll i roll').rollId[i]? = some roll' := by
  obtain ⟨hi, -⟩ := List.getElem?_eq_some_iff.1 hroll
  exact List.getElem?_set_self hi

theorem Base.countRollVote (hb : g.Base) (hatt : g.Attended (.countRollVote player guid choice draw)) :
    (g.countRollVote player guid choice draw).Base := by
  rcases g.countRollVote_cases player guid choice draw with
    heq | ⟨i, roll, hroll, hguid, hplayer, ⟨-, heq⟩ | heq⟩
  · rw [heq]
    exact hb
  · rw [heq]
    exact hb.voted hatt hroll hguid hplayer
  · rw [heq]
    refine (hb.voted hatt hroll hguid hplayer).countTheRoll fun roll' hroll' => ?_
    rw [getElem?_setRoll hroll, some.injEq] at hroll'
    rw [← hroll']
    exact (hatt roll (mem_of_getElem? hroll) hguid).2

theorem waiting_countRollVote (hb : g.Base) (hw : g.Waiting)
    (hatt : g.Attended (.countRollVote player guid choice draw)) :
    (g.countRollVote player guid choice draw).Waiting := by
  rcases g.countRollVote_cases player guid choice draw with
    heq | ⟨i, roll, hroll, hguid, hplayer, ⟨hlt, heq⟩ | heq⟩
  · rw [heq]
    exact hw
  · rw [heq]
    intro r hr hvalid
    rcases mem_or_eq_of_mem_set hr with hold | rfl
    · exact hw r hold hvalid
    · exact (ok_vote hb hatt hroll hguid hplayer).waits hlt
  · rw [heq]
    obtain ⟨hi, -⟩ := List.getElem?_eq_some_iff.1 hroll
    refine waiting_countTheRoll (fun j r hj hr hvalid => ?_) ?_
    · have hold : g.rollId[j]? = some r := by
        rw [← hr]
        exact (getElem?_set_ne (Ne.symm hj)).symm
      exact hw r (mem_of_getElem? hold) hvalid
    · change i < (g.rollId.set i _).length
      rw [length_set]
      exact hi

theorem allRolls_countRollVote {roll' : Roll} (h : roll' ∈ (g.countRollVote player guid choice draw).allRolls) :
    roll' ∈ g.allRolls ∨ ∃ roll ∈ g.rollId, roll.itemGUID = guid ∧ roll' = roll.vote player choice := by
  have hset : ∀ {i : Nat} {roll : Roll}, g.rollId[i]? = some roll → roll.itemGUID = guid →
      roll' ∈ (g.setRoll i (roll.vote player choice)).allRolls → roll' ∈ g.allRolls ∨
        ∃ roll ∈ g.rollId, roll.itemGUID = guid ∧ roll' = roll.vote player choice := by
    intro i roll hroll hguid hmem
    rcases mem_append.1 hmem with hnew | hold
    · rcases mem_or_eq_of_mem_set hnew with hold | heq
      · exact .inl (mem_append_left _ hold)
      · exact .inr ⟨roll, mem_of_getElem? hroll, hguid, heq⟩
    · exact .inl (mem_append_right _ hold)
  rcases g.countRollVote_cases player guid choice draw with
    heq | ⟨i, roll, hroll, hguid, -, ⟨-, heq⟩ | heq⟩
  · rw [heq] at h
    exact .inl h
  · rw [heq] at h
    exact hset hroll hguid h
  · rw [heq] at h
    exact hset hroll hguid ((allRolls_countTheRoll _ _ _).subset h)

end Vote

/-! ## The end of the time for a roll -/

section EndRoll

variable {lootId : Nat} {draws : Nat → Draw}

theorem endRoll_succ (g : Group) (fuel : Nat) :
    endRoll lootId draws (fuel + 1) g = g ∨
      ∃ i roll, g.rollId[i]? = some roll ∧ roll.lootId = lootId ∧
        endRoll lootId draws (fuel + 1) g =
          endRoll lootId draws fuel (g.countTheRoll i (draws roll.itemGUID)) := by
  cases hfind : g.rollId.findIdx? fun roll => roll.lootId = lootId && roll.isValid g.loots with
  | none =>
    left
    simp only [endRoll, hfind]
  | some i =>
    obtain ⟨hi, hp, -⟩ := findIdx?_eq_some_iff_getElem.1 hfind
    rw [Bool.and_eq_true] at hp
    refine .inr ⟨i, g.rollId[i], getElem?_eq_getElem hi, of_decide_eq_true hp.1, ?_⟩
    simp only [endRoll, hfind, getElem?_eq_getElem hi, map_some, getD_some]

theorem endRoll_induction {I : Group → Prop}
    (hstep : ∀ g i roll, I g → g.rollId[i]? = some roll → roll.lootId = lootId →
      I (g.countTheRoll i (draws roll.itemGUID))) (fuel : Nat) (hg : I g) :
    I (endRoll lootId draws fuel g) := by
  induction fuel generalizing g with
  | zero => exact hg
  | succ fuel ih =>
    rcases @endRoll_succ lootId draws g fuel with heq | ⟨i, roll, hroll, hid, heq⟩
    · rw [heq]
      exact hg
    · rw [heq]
      exact ih (hstep g i roll hg hroll hid)

theorem Base.endRoll (hb : g.Base) (hw : g.Waiting) (hatt : g.Attended (.endRoll lootId draws)) (fuel : Nat) :
    (endRoll lootId draws fuel g).Base ∧ (endRoll lootId draws fuel g).Waiting ∧
      ∀ roll ∈ (endRoll lootId draws fuel g).allRolls, roll ∈ g.allRolls := by
  have h := @endRoll_induction g lootId draws
    (fun g' => g'.Base ∧ g'.Waiting ∧ g'.Attended (.endRoll lootId draws) ∧
      ∀ roll ∈ g'.allRolls, roll ∈ g.allRolls) ?_ fuel ⟨hb, hw, hatt, fun _ h => h⟩
  · exact ⟨h.1, h.2.1, h.2.2.2⟩
  · rintro g' i roll ⟨hb', hw', hatt', hall⟩ hroll hid
    obtain ⟨hi, -⟩ := List.getElem?_eq_some_iff.1 hroll
    refine ⟨hb'.countTheRoll fun roll' hroll' => ?_, waiting_countTheRoll (fun j r _ hr hvalid =>
        hw' r (mem_of_getElem? hr) hvalid) hi,
      fun r hr hrid => hatt' r (mem_rollId_countTheRoll hr) hrid,
      fun r hr => hall r ((allRolls_countTheRoll _ _ _).subset hr)⟩
    rw [hroll, some.injEq] at hroll'
    rw [← hroll']
    exact hatt' roll (mem_of_getElem? hroll) hid

end EndRoll

/-! ## A member leaves -/

section RemoveMember

variable {guid : Guid} {draw : Draw}

theorem countRollVote_absent (hb : g.Base) {i : Nat} {roll : Roll} (hroll : g.rollId[i]? = some roll)
    (habsent : roll.playerVote.find? guid = none) (choice : Nat) :
    g.countRollVote guid roll.itemGUID choice draw = g := by
  rcases g.countRollVote_cases guid roll.itemGUID choice draw with
    heq | ⟨i', roll', hroll', hguid, hplayer, -⟩
  · exact heq
  · have hsame : roll' = roll := inj_on_of_nodup_map hb.guids (mem_append_left _ (mem_of_getElem? hroll'))
      (mem_append_left _ (mem_of_getElem? hroll)) hguid
    rw [hsame, OrdMap.contains, habsent] at hplayer
    cases hplayer

structure Erased (guid : Guid) (roll roll' : Roll) : Prop where
  itemGUID : roll'.itemGUID = roll.itemGUID
  lootId : roll'.lootId = roll.lootId
  others : ∀ p, p ≠ guid → roll'.playerVote.find? p = roll.playerVote.find? p
  own : roll'.playerVote.find? guid = roll.playerVote.find? guid ∨ roll'.playerVote.find? guid = none

theorem Erased.removeVote {roll roll' : Roll} (h : Erased guid roll roll') (vote : RollVote) :
    Erased guid roll (roll'.removeVote guid vote) where
  itemGUID := h.itemGUID
  lootId := h.lootId
  others p hp := (find?_erase_ne _ (Ne.symm hp)).trans (h.others p hp)
  own := .inr (find?_erase_self _ _)

/-- What the loop of `RemoveMember` leaves of the rolls. -/
structure Left (guid : Guid) (g g' : Group) : Prop where
  base : g'.Base
  erased : ∀ roll' ∈ g'.rollId, ∃ roll ∈ g.rollId, Erased guid roll roll'
  loots : g'.loots = g.loots
  results : g'.results = g.results

theorem Left.removeFromRolls {g' : Group} (h : Left guid g g') (is : List Nat) :
    Left guid g (removeFromRolls guid draw is g') := by
  induction is generalizing g' with
  | nil => exact h
  | cons i is ih =>
    unfold Group.removeFromRolls
    cases hroll : g'.rollId[i]? with
    | none => exact h
    | some roll =>
      dsimp only
      cases hvote : roll.playerVote.find? guid with
      | none => exact ih h
      | some vote =>
        dsimp only
        have hmem : roll ∈ g'.rollId := mem_of_getElem? hroll
        have hbase : (g'.setRoll i (roll.removeVote guid vote)).Base :=
          h.base.setRoll hroll ((h.base.rolls roll hmem).removeVote hvote) rfl rfl rfl
        have hnoop := @countRollVote_absent _ guid draw hbase i _
          (getElem?_setRoll hroll (roll.removeVote guid vote)) (find?_erase_self _ _) 4
        unfold Group.setRoll at hnoop hbase
        rw [hnoop]
        refine ih ⟨hbase, fun roll' hr => ?_, h.loots, h.results⟩
        rcases mem_or_eq_of_mem_set hr with hold | rfl
        · exact h.erased roll' hold
        · obtain ⟨roll₀, hroll₀, he⟩ := h.erased roll hmem
          exact ⟨roll₀, hroll₀, he.removeVote vote⟩

/-- Somebody else than the member has not voted yet. -/
def OtherWaits (guid : Guid) (g : Group) : Prop :=
  ∀ roll ∈ g.rollId, roll.isValid g.loots = true →
    ∃ p, p ≠ guid ∧ roll.playerVote.find? p = some .notEmitedYet

theorem OtherWaits.waiting (h : OtherWaits guid g) : g.Waiting := by
  intro roll hroll hvalid
  obtain ⟨p, -, hp⟩ := h roll hroll hvalid
  exact ⟨p, hp⟩

theorem Left.otherWaits {g' : Group} (h : Left guid g g') (hw : OtherWaits guid g) : OtherWaits guid g' := by
  intro roll' hroll' hvalid
  obtain ⟨roll, hroll, he⟩ := h.erased roll' hroll'
  unfold Roll.isValid at hvalid
  rw [h.loots, he.lootId] at hvalid
  obtain ⟨p, hp, hfind⟩ := hw roll hroll hvalid
  exact ⟨p, hp, (he.others p hp).trans hfind⟩

theorem Base.disband (hb : g.Base) (hw : OtherWaits guid g) : (g.disband guid).Base where
  rolls := nofun
  inRange := nofun
  filled := hb.filled
  settled := hb.settled
  dropped := by
    intro roll hroll
    rcases mem_append.1 hroll with hold | hnew
    · exact hb.dropped roll hold
    · obtain ⟨roll₀, hmem, rfl⟩ := mem_map.1 hnew
      obtain ⟨hmem, hvalid⟩ := mem_filter.1 hmem
      obtain ⟨p, hp, hfind⟩ := hw roll₀ hmem hvalid
      exact ⟨p, (find?_erase_ne _ (Ne.symm hp)).trans hfind⟩
  nodup := nodup_nil
  length_le := Nat.zero_le _
  guids := (List.Sublist.map _ (sublist_append_right _ _)).nodup hb.guids
  guid_lt roll hroll := hb.guid_lt roll (mem_append_right _ hroll)

theorem removeMember_spec (hb : g.Base) {online : Nat} (hatt : g.Attended (.removeMember guid online draw)) :
    (g.removeMember guid online draw).Base ∧ (g.removeMember guid online draw).Waiting ∧
      ∀ roll' ∈ (g.removeMember guid online draw).allRolls,
        roll' ∈ g.allRolls ∨ ∃ roll ∈ g.rollId, Erased guid roll roll' := by
  have hother : OtherWaits guid g := by
    intro roll hroll hvalid
    obtain ⟨p, -, hp⟩ := hatt roll hroll hvalid
    exact ⟨p, hp⟩
  have hleft : Left guid g (removeFromRolls guid draw (range g.rollId.length) g) :=
    Left.removeFromRolls ⟨hb, fun roll h => ⟨roll, h, rfl, rfl, fun _ _ => rfl, .inl rfl⟩, rfl, rfl⟩ _
  set g' := removeFromRolls guid draw (range g.rollId.length) g with hg'
  have hbase : Base { g' with members := g'.members.erase guid } :=
    ⟨hleft.base.rolls, hleft.base.inRange, hleft.base.filled, hleft.base.settled, hleft.base.dropped,
      hleft.base.nodup.erase guid, length_erase_le.trans hleft.base.length_le, hleft.base.guids,
      hleft.base.guid_lt⟩
  have hother' : OtherWaits guid { g' with members := g'.members.erase guid } := hleft.otherWaits hother
  unfold Group.removeMember
  generalize (if g.isBGGroup = true then 1 else 2) = least
  by_cases hmany : least < g.members.length
  · rw [if_pos hmany]
    by_cases honline : online < least
    · rw [if_pos honline]
      refine ⟨hbase.disband hother', nofun, fun roll' h => .inl ?_⟩
      have h' : roll' ∈ g'.results.map (·.roll) := h
      rw [hleft.results] at h'
      exact mem_append_right _ h'
    · rw [if_neg honline]
      refine ⟨hbase, hother'.waiting, fun roll' h => ?_⟩
      rcases mem_append.1 h with hroll | hres
      · exact .inr (hleft.erased roll' hroll)
      · have h' : roll' ∈ g'.results.map (·.roll) := hres
        rw [hleft.results] at h'
        exact .inl (mem_append_right _ h')
  · rw [if_neg hmany]
    exact ⟨hb.disband hother, nofun, fun roll' h => .inl (mem_append_right _ h)⟩

end RemoveMember

/-! ## New rolls -/

section SendLoot

variable {lootId : Nat}

/-- What the loop of `GroupLoot` has done to the rolls of a group with a loot of `n` items. -/
structure Started (lootId n : Nat) (g g' : Group) : Prop where
  base : g'.Base
  waiting : g'.Waiting
  members : g'.members = g.members
  loot : ∃ loot, g'.loots lootId = some loot ∧ loot.items.length = n
  rolls : ∀ roll ∈ g'.allRolls, roll ∈ g.allRolls ∨ g.nextItemGUID ≤ roll.itemGUID
  next_le : g.nextItemGUID ≤ g'.nextItemGUID

theorem isValid_of_sameItems {loots loots' : Nat → Option Loot} (h : SameItems loots loots')
    {roll : Roll} (hvalid : roll.isValid loots' = true) : roll.isValid loots = true := by
  unfold Roll.isValid at hvalid ⊢
  obtain ⟨loot', hl⟩ := isSome_iff_exists.1 hvalid
  obtain ⟨loot, hloot, -⟩ := h roll.lootId loot' hl
  rw [hloot]
  rfl

theorem Started.startRoll {n itemSlot : Nat} {g' : Group} (h : Started lootId n g g')
    (hslot : itemSlot < n) (item : LootItem) {overThreshold : Bool} {eligible pass : Guid → Bool}
    (hatt : overThreshold = true → ∀ p ∈ g.members, eligible p = true →
      ∃ q ∈ g.members, eligible q = true ∧ pass q = false) :
    Started lootId n g (g'.startRoll lootId itemSlot item overThreshold eligible pass) := by
  unfold Group.startRoll
  cases item.freeforall with
  | true => exact h
  | false =>
    cases overThreshold with
    | false => exact h
    | true =>
      have hb := h.base
      by_cases hnone : g'.members.filter eligible = []
      · rw [if_pos hnone]
        exact ⟨⟨hb.rolls, hb.inRange, hb.filled, hb.settled, hb.dropped, hb.nodup, hb.length_le,
            hb.guids, fun roll hr => Nat.lt_succ_of_lt (hb.guid_lt roll hr)⟩, h.waiting, h.members,
          h.loot, h.rolls, Nat.le_succ_of_le h.next_le⟩
      · rw [if_neg hnone]
        obtain ⟨loot, hloot, hlen⟩ := h.loot
        set players := g'.members.filter eligible with hplayers
        set roll : Roll := {
          lootId, itemSlot
          itemGUID := g'.nextItemGUID
          itemid := item.itemid
          playerVote := startVotes pass players
          totalPlayersRolling := add8 0 players.length
          totalPass := add8 0 (players.countP pass) } with hroll
        have hok : roll.Ok := startVotes_ok pass (hb.nodup.filter _)
          (le_trans (length_filter_le _ _) hb.length_le) lootId itemSlot g'.nextItemGUID item.itemid
        have hwaits : roll.Waits := by
          obtain ⟨p, hp⟩ := exists_mem_of_ne_nil _ hnone
          obtain ⟨hpm, hpe⟩ := mem_filter.1 hp
          obtain ⟨q, hqm, hqe, hqp⟩ := hatt rfl p (h.members ▸ hpm) hpe
          refine ⟨q, ?_⟩
          rw [find?_startVotes, if_pos (mem_filter.2 ⟨h.members ▸ hqm, hqe⟩), hqp]
          rfl
        have hblocked := map_count_modify loot.items itemSlot
          (f := fun item => { item with isBlocked := true }) fun _ => rfl
        have hitems : SameItems g'.loots (update g'.loots lootId ((g'.loots lootId).map
            fun loot => loot.modifyEntry (fun item => { item with isBlocked := true })
              (.item itemSlot))) := by
          rw [hloot]
          exact .update hloot hblocked
        have hmem : ∀ r ∈ g'.rollId ++ [roll], r ∈ g'.rollId ∨ r = roll := fun r hr =>
          (mem_append.1 hr).imp_right mem_singleton.1
        refine ⟨⟨fun r hr => ?_, fun r hr loot' hl => ?_, hitems.filled hb.filled, hb.settled,
          hb.dropped, hb.nodup, hb.length_le, ?_, fun r hr => ?_⟩, fun r hr hvalid => ?_, h.members,
          ?_, fun r hr => ?_, Nat.le_succ_of_le h.next_le⟩
        · rcases hmem r hr with hold | rfl
          · exact hb.rolls r hold
          · exact hok
        · obtain ⟨loot₀, hloot₀, hlen₀⟩ := hitems.length hl
          rw [hlen₀]
          rcases hmem r hr with hold | rfl
          · exact hb.inRange r hold loot₀ hloot₀
          · have heq : loot₀ = loot := some.inj (hloot₀.symm.trans hloot)
            rw [heq, hlen]
            exact hslot
        · have hperm : ((g'.rollId ++ [roll]) ++ g'.results.map (·.roll)).Perm (roll :: g'.allRolls) :=
            (perm_append_singleton roll g'.rollId).append_right _
          refine ((hperm.map (·.itemGUID)).nodup_iff).2 (nodup_cons.2 ⟨fun hin => ?_, hb.guids⟩)
          obtain ⟨r, hr, hguid⟩ := mem_map.1 hin
          exact absurd (hb.guid_lt r hr) (by rw [hguid]; exact lt_irrefl _)
        · rcases mem_append.1 hr with hr | hr
          · rcases hmem r hr with hold | rfl
            · exact Nat.lt_succ_of_lt (hb.guid_lt r (mem_append_left _ hold))
            · exact Nat.lt_succ_self _
          · exact Nat.lt_succ_of_lt (hb.guid_lt r (mem_append_right _ hr))
        · rcases hmem r hr with hold | rfl
          · exact h.waiting r hold (isValid_of_sameItems hitems hvalid)
          · exact hwaits
        · refine ⟨loot.modifyEntry (fun item => { item with isBlocked := true }) (.item itemSlot), ?_, ?_⟩
          · rw [hloot]
            exact update_self ..
          · change (loot.items.modify itemSlot _).length = n
            rw [length_modify]
            exact hlen
        · rcases mem_append.1 hr with hr | hr
          · rcases hmem r hr with hold | rfl
            · exact h.rolls r (mem_append_left _ hold)
            · exact .inr h.next_le
          · exact h.rolls r (mem_append_right _ hr)

theorem Started.groupLoot {n : Nat} {terms : Terms} (items : List LootItem) {itemSlot : Nat}
    {g' : Group} (h : Started lootId n g g') (hlen : itemSlot + items.length = n)
    (hatt : ∀ i, itemSlot ≤ i → i < n → terms.overThreshold i = true → ∀ p ∈ g.members,
      terms.eligible i p = true → ∃ q ∈ g.members, terms.eligible i q = true ∧ terms.pass q = false) :
    Started lootId n g (groupLoot lootId terms items itemSlot g') := by
  induction items generalizing itemSlot g' with
  | nil => exact h
  | cons item items ih =>
    rw [length_cons] at hlen
    refine ih (h.startRoll (by omega) item (hatt itemSlot (le_refl _) (by omega))) (by omega) ?_
    intro i hi
    exact hatt i (by omega)

theorem sendLoot_spec (hb : g.Base) (hw : g.Waiting) {terms : Terms}
    (hatt : g.Attended (.sendLoot lootId terms)) :
    (g.sendLoot lootId terms).Base ∧ (g.sendLoot lootId terms).Waiting ∧
      ∀ roll ∈ (g.sendLoot lootId terms).allRolls, roll ∈ g.allRolls ∨ g.nextItemGUID ≤ roll.itemGUID := by
  unfold Group.sendLoot
  by_cases hopened : lootId ∈ g.lootForBody
  · rw [if_pos hopened]
    exact ⟨hb, hw, fun _ h => .inl h⟩
  · rw [if_neg hopened]
    cases hloot : g.loots lootId with
    | none => exact ⟨hb, hw, fun _ h => .inl h⟩
    | some loot =>
      have hstart : Started lootId loot.items.length g { g with lootForBody := lootId :: g.lootForBody } :=
        ⟨⟨hb.rolls, hb.inRange, hb.filled, hb.settled, hb.dropped, hb.nodup, hb.length_le, hb.guids,
          hb.guid_lt⟩, hw, rfl, ⟨loot, hloot, rfl⟩, fun _ h => .inl h, le_refl _⟩
      have hdone := @Started.groupLoot g lootId _ terms loot.items 0 _ hstart (zero_add _)
        fun i _ hi => hatt loot hloot i hi
      exact ⟨hdone.base, hdone.waiting, hdone.rolls⟩

end SendLoot

/-! ## Whole runs -/

structure Orderly (g : Group) : Prop where
  base : g.Base
  waiting : g.Waiting

theorem Orderly.deleteLoot (h : g.Orderly) (lootId : Nat) :
    Orderly { g with loots := update g.loots lootId none } := by
  have hb := h.base
  have hitems : SameItems g.loots (update g.loots lootId none) := by
    intro id loot' hl
    by_cases hid : id = lootId
    · rw [hid, update_self] at hl
      cases hl
    · rw [update_of_ne hid] at hl
      exact ⟨loot', hl, rfl⟩
  refine ⟨⟨hb.rolls, fun roll hr loot' hl => ?_, hitems.filled hb.filled, hb.settled, hb.dropped,
    hb.nodup, hb.length_le, hb.guids, hb.guid_lt⟩, fun roll hr hvalid => ?_⟩
  · obtain ⟨loot, hloot, hlen⟩ := hitems.length hl
    rw [hlen]
    exact hb.inRange roll hr loot hloot
  · exact h.waiting roll hr (isValid_of_sameItems hitems hvalid)

/-- After an event that is attended every roll has its votes counted and waits for somebody. -/
theorem Orderly.step (h : g.Orderly) {e : Event} (he : g.Attended e) : (g.step e).Orderly := by
  have hb := h.base
  cases e with
  | addMember guid =>
    dsimp only [Group.step]
    by_cases hadd : g.members.length < maxRaidSize ∧ guid ∉ g.members
    · rw [if_pos hadd]
      refine ⟨⟨hb.rolls, hb.inRange, hb.filled, hb.settled, hb.dropped, ?_, ?_, hb.guids, hb.guid_lt⟩,
        h.waiting⟩
      · exact nodup_append.2 ⟨hb.nodup, nodup_singleton _, fun a ha b hb hab =>
          hadd.2 (mem_singleton.1 hb ▸ hab ▸ ha)⟩
      · rw [length_append]
        exact hadd.1
    · rw [if_neg hadd]
      exact h
  | sendLoot lootId terms =>
    obtain ⟨hbase, hwait, -⟩ := sendLoot_spec hb h.waiting he
    exact ⟨hbase, hwait⟩
  | countRollVote player guid choice draw => exact ⟨hb.countRollVote he, waiting_countRollVote hb h.waiting he⟩
  | endRoll lootId draws =>
    obtain ⟨hbase, hwait, -⟩ := hb.endRoll h.waiting he g.rollId.length
    exact ⟨hbase, hwait⟩
  | removeMember guid online draw =>
    obtain ⟨hbase, hwait, -⟩ := removeMember_spec hb he
    exact ⟨hbase, hwait⟩
  | deleteLoot lootId => exact h.deleteLoot lootId

theorem Base.eq_of_guid (hb : g.Base) {roll roll' : Roll} (h : roll ∈ g.allRolls)
    (h' : roll' ∈ g.allRolls) (hguid : roll'.itemGUID = roll.itemGUID) : roll' = roll :=
  inj_on_of_nodup_map hb.guids h' h hguid

theorem Orderly.firstVoteFinal (h : g.Orderly) {e : Event} (he : g.Attended e) : g.FirstVoteFinal e := by
  have hb := h.base
  intro roll hroll roll' hroll' hguid p v hp hv
  have hmem : roll ∈ g.allRolls := mem_append_left _ hroll
  -- a roll that was there before is the same one
  have hsame : roll' ∈ g.allRolls → roll'.playerVote.find? p = some v := fun h' => by
    rw [hb.eq_of_guid hmem h' hguid]
    exact hp
  cases e with
  | addMember guid =>
    refine .inl (hsame ?_)
    dsimp only [Group.step] at hroll'
    by_cases hadd : g.members.length < maxRaidSize ∧ guid ∉ g.members
    · rw [if_pos hadd] at hroll'
      exact hroll'
    · rw [if_neg hadd] at hroll'
      exact hroll'
  | sendLoot lootId terms =>
    obtain ⟨-, -, hrolls⟩ := sendLoot_spec hb h.waiting he
    rcases hrolls roll' hroll' with hold | hnew
    · exact .inl (hsame hold)
    · have hlt := hb.guid_lt roll hmem
      omega
  | countRollVote player guid choice draw =>
    rcases allRolls_countRollVote hroll' with hold | ⟨roll₀, hroll₀, hguid₀, rfl⟩
    · exact .inl (hsame hold)
    · rw [Roll.itemGUID_vote] at hguid
      have heq := hb.eq_of_guid hmem (mem_append_left _ hroll₀) hguid
      subst heq
      by_cases hpp : player = p
      · subst hpp
        by_cases hchoice : choice < 4
        · exact absurd ((he roll₀ hroll₀ hguid₀).1 v hp hchoice) hv
        · -- a choice that is no vote changes nothing
          obtain ⟨n, rfl⟩ : ∃ n, choice = n + 4 := ⟨choice - 4, by omega⟩
          exact .inl hp
      · rw [Roll.find?_vote_ne roll₀ choice hpp]
        exact .inl hp
  | endRoll lootId draws =>
    obtain ⟨-, -, hrolls⟩ := hb.endRoll h.waiting he g.rollId.length
    exact .inl (hsame (hrolls roll' hroll'))
  | removeMember guid online draw =>
    obtain ⟨-, -, hrolls⟩ := removeMember_spec hb he
    rcases hrolls roll' hroll' with hold | ⟨roll₀, hroll₀, herased⟩
    · exact .inl (hsame hold)
    · have heq := hb.eq_of_guid hmem (mem_append_left _ hroll₀) (herased.itemGUID.symm.trans hguid)
      subst heq
      by_cases hpp : p = guid
      · subst hpp
        exact herased.own.imp_left fun h' => h'.trans hp
      · exact .inl ((herased.others p hpp).trans hp)
  | deleteLoot lootId => exact .inl (hsame hroll')

/-- **Loot rolls.** In a run of a group, from one without members among any loots, in which nobody votes
twice, somebody else is undecided when a member leaves and when a roll starts, and those who want the item
are online when it is decided: the totals are the numbers of the votes, a vote is final, no complete roll is
left open, and a resolved one gave the item to a voter of the best category or unblocked it. -/
theorem soundRolls_of_attended {loots : Nat → Option Loot} {isBGGroup : Bool} {es : List Event}
    (hfilled : Filled loots) (hes : AllSteps step Attended { loots, isBGGroup } es) :
    AllSteps step FirstVoteFinal { loots, isBGGroup } es ∧
      ∀ pre, pre <+: es → Sound (run step { loots, isBGGroup } pre) := by
  have hstart : Orderly { loots, isBGGroup } :=
    ⟨⟨nofun, nofun, hfilled, nofun, nofun, nodup_nil, Nat.zero_le _, nodup_nil, nofun⟩, nofun⟩
  refine ⟨(hes.strengthen (fun g e hg he => hg.step he) hstart).mono fun g e h =>
    h.1.firstVoteFinal h.2, fun pre hpre => ?_⟩
  obtain ⟨post, rfl⟩ := hpre
  have hend := hes.reaches (I := Orderly) (fun g e hg he => hg.step he) hstart
  exact hend.base.sound hend.waiting

section Examples

def corpse : Nat → Option Loot := fun id => if id = 0 then some { items := [{ itemid := 5 }] } else none

def threeRoll : List Event :=
  [.addMember 1, .addMember 2, .addMember 3,
    .sendLoot 0 { overThreshold := fun _ => true, eligible := fun _ _ => true, pass := fun _ => false }]

/-- The dice all show the same, everybody but `offline` is online and has room. -/
def evenDraw (offline : Guid) : Draw where
  dice _ := 0
  online p := p ≠ offline
  canStoreNewItem _ := true

def passTwice : List Event :=
  threeRoll ++ [.countRollVote 1 0 0 (evenDraw 0), .countRollVote 1 0 0 (evenDraw 0)]

def undecidedLeaves : List Event :=
  threeRoll ++ [.countRollVote 1 0 1 (evenDraw 0), .countRollVote 2 0 0 (evenDraw 0),
    .removeMember 3 2 (evenDraw 0)]

def winnerOffline : List Event :=
  threeRoll ++ [.countRollVote 1 0 1 (evenDraw 0), .countRollVote 2 0 0 (evenDraw 0),
    .countRollVote 3 0 0 (evenDraw 1)]

/-- A repeated vote is counted twice; another vote replaces the first one; a roll without undecided members
stays open; the item of an absent winner stays blocked. -/
theorem roll_goes_wrong :
    ¬ Sound (run step { loots := corpse } passTwice) ∧
    ¬ FirstVoteFinal (run step { loots := corpse } passTwice) (.countRollVote 1 0 1 (evenDraw 0)) ∧
    ¬ Sound (run step { loots := corpse } undecidedLeaves) ∧
    ¬ Sound (run step { loots := corpse } winnerOffline) := by
  refine ⟨fun h => ?_, fun h => ?_, fun h => ?_, fun h => ?_⟩
  · have hpass : ∀ roll ∈ (run step { loots := corpse } passTwice).rollId,
        roll.totalPass = roll.playerVote.count fun _ v => v = .pass :=
      fun roll hroll => (h.counted roll hroll).pass
    revert hpass
    decide
  · have hfinal : ∀ roll ∈ (run step { loots := corpse } passTwice).rollId,
        ∀ roll' ∈ ((run step { loots := corpse } passTwice).step
          (.countRollVote 1 0 1 (evenDraw 0))).allRolls,
        roll'.itemGUID = roll.itemGUID → roll.playerVote.find? 1 = some .pass →
          roll'.playerVote.find? 1 = some .pass ∨ roll'.playerVote.find? 1 = none :=
      fun roll hroll roll' hroll' hguid hp => h roll hroll roll' hroll' hguid 1 .pass hp (by decide)
    revert hfinal
    decide
  · have hwaits : ∀ roll ∈ (run step { loots := corpse } undecidedLeaves).rollId,
        roll.isValid (run step { loots := corpse } undecidedLeaves).loots = true →
        ∃ p ∈ roll.playerVote.keys, roll.playerVote.find? p = some .notEmitedYet := by
      intro roll hroll hvalid
      obtain ⟨p, hp⟩ := h.waits roll hroll hvalid
      exact ⟨p, mem_keys.2 ⟨_, hp⟩, hp⟩
    revert hwaits
    decide
  · have hsettled : ∀ r ∈ (run step { loots := corpse } winnerOffline).results,
        r.given ≠ none ∨ r.item.all fun item => item.isBlocked = false := by
      intro r hr
      rcases h.settled r hr with ⟨p, hgiven, -⟩ | ⟨-, item, hitem, hblocked⟩
      · exact .inl (by rw [hgiven]; exact some_ne_none _)
      · exact .inr (by rw [hitem]; exact decide_eq_true hblocked)
    revert hsettled
    decide

def threeVotes : List Event :=
  threeRoll ++ [.countRollVote 1 0 1 (evenDraw 0), .countRollVote 2 0 2 (evenDraw 0),
    .countRollVote 3 0 0 (evenDraw 0)]

theorem threeVotes_sound :
    AllSteps step FirstVoteFinal { loots := corpse } threeVotes ∧
      ∀ pre, pre <+: threeVotes → Sound (run step { loots := corpse } pre) := by
  refine soundRolls_of_attended (fun id loot h => ?_) (by decide)
  by_cases hid : id = 0
  · rw [corpse, if_pos hid, some.injEq] at h
    rw [← h]
    decide
  · rw [corpse, if_neg hid] at h
    cases h

end Examples

end Group

end Axium.Looting
