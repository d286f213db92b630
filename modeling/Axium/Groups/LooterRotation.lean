import Axium.Groups.Group
import Mathlib.Data.List.Rotate

/-!
# The rotation of the looter

`Group::UpdateLooterGuid`. An iterator into the member slots is a position, and the end is their number.
The two searches, behind the looter and from the start up to him, are together one search through the
members in the order of their turns.
-/

namespace Axium.Groups

open List

inductive LootMethod where
  | freeForAll | roundRobin | masterLoot | groupLoot | needBeforeGreed
  deriving DecidableEq, Repr

/-- `Player`, what the search reads of it for the looted object. -/
structure Looter where
  isWithinDistInMap : Bool

/-- `ObjectAccessor::FindPlayer`. The guid `0` names no player. -/
structure OnlinePlayers where
  findPlayer : Nat → Option Looter
  findPlayer_zero : findPlayer 0 = none

def OnlinePlayers.inRange (ps : OnlinePlayers) (guid : Nat) : Bool :=
  (ps.findPlayer guid).any (·.isWithinDistInMap)

@[simp] theorem OnlinePlayers.inRange_zero (ps : OnlinePlayers) : ps.inRange 0 = false := by
  rw [inRange, ps.findPlayer_zero]
  rfl

/-- `Group`, with the looter. `sentUpdates` counts the calls of `SendUpdate`. -/
structure LootGroup extends Group where
  lootMethod : LootMethod
  looterGuid : Nat
  sentUpdates : Nat := 0

namespace LootGroup

variable (grp : LootGroup) (ps : OnlinePlayers)

def memberCSlot (guid : Nat) : Nat := grp.memberSlots.findIdx (·.guid = guid)

/-- The loop over the slots from `first` to `last`. -/
def search (first last : Nat) : Option Nat :=
  (((grp.memberSlots.take last).drop first).find? fun s => ps.inRange s.guid).map (·.guid)

def setLooterGuid (guid : Nat) : LootGroup :=
  { grp with looterGuid := guid, sentUpdates := grp.sentUpdates + 1 }

def updateLooterGuid (ifneed : Bool) : LootGroup :=
  if grp.lootMethod = .masterLoot ∨ grp.lootMethod = .freeForAll then grp
  else
    let last := grp.memberSlots.length
    let guidItr := grp.memberCSlot grp.looterGuid
    -- not update if only update if need and ok
    if guidItr ≠ last ∧ ifneed ∧ ps.inRange grp.looterGuid then grp
    else
      let guidItr := if guidItr ≠ last then guidItr + 1 else guidItr
      -- search next after current, then from start
      match (grp.search ps guidItr last).or (grp.search ps 0 guidItr) with
      | some newLooter => if grp.looterGuid ≠ newLooter then grp.setLooterGuid newLooter else grp
      | none => grp.setLooterGuid 0

/-! ## The order of the turns -/

def guids : List Nat := grp.memberSlots.map (·.guid)

/-- The members in the order of their turns: cyclically from the one after the looter to the looter, or
from the start if he is no member. -/
def turns : List Nat :=
  if grp.looterGuid ∈ grp.guids then grp.guids.rotate (grp.guids.idxOf grp.looterGuid + 1) else grp.guids

variable {grp ps} {guid : Nat}

theorem mem_turns : guid ∈ grp.turns ↔ guid ∈ grp.guids := by
  unfold turns
  split
  · exact mem_rotate
  · rfl

theorem memberCSlot_eq (guid : Nat) : grp.memberCSlot guid = grp.guids.idxOf guid := by
  rw [guids, List.idxOf, findIdx_map]
  rfl

theorem memberCSlot_ne_iff : grp.memberCSlot guid ≠ grp.memberSlots.length ↔ guid ∈ grp.guids := by
  have hlen : grp.memberSlots.length = grp.guids.length := (length_map _).symm
  rw [memberCSlot_eq, ← idxOf_lt_length_iff]
  have hle := idxOf_le_length (l := grp.guids) (a := guid)
  omega

theorem search_eq (first last : Nat) :
    grp.search ps first last = ((grp.guids.take last).drop first).find? ps.inRange := by
  rw [guids, ← map_take, ← map_drop, find?_map]
  rfl

theorem searches_eq :
    let guidItr := if grp.memberCSlot grp.looterGuid ≠ grp.memberSlots.length
      then grp.memberCSlot grp.looterGuid + 1 else grp.memberCSlot grp.looterGuid
    (grp.search ps guidItr grp.memberSlots.length).or (grp.search ps 0 guidItr) =
      grp.turns.find? ps.inRange := by
  have hlen : grp.memberSlots.length = grp.guids.length := (length_map _).symm
  dsimp only
  rw [search_eq, search_eq, drop_zero, hlen, take_length, ← find?_append]
  by_cases hmem : grp.looterGuid ∈ grp.guids
  · have hlt := idxOf_lt_length_iff.2 hmem
    rw [turns, if_pos hmem, ← hlen, if_pos (memberCSlot_ne_iff.2 hmem), memberCSlot_eq,
      rotate_eq_drop_append_take (by omega)]
  · have hend : grp.memberCSlot grp.looterGuid = grp.memberSlots.length := by
      by_contra hne
      exact hmem (memberCSlot_ne_iff.1 hne)
    rw [turns, if_neg hmem, ← hlen, hend, if_neg (fun h => h rfl), hlen, drop_length, nil_append, take_length]

theorem getLast?_turns (hmem : grp.looterGuid ∈ grp.guids) : grp.turns.getLast? = some grp.looterGuid := by
  have hlt := idxOf_lt_length_iff.2 hmem
  rw [turns, if_pos hmem, rotate_eq_drop_append_take (by omega), take_add_one, getElem?_eq_getElem hlt]
  simp

theorem find?_turns_eq_none_iff :
    grp.turns.find? ps.inRange = none ↔ ∀ guid ∈ grp.guids, ps.inRange guid = false := by
  rw [find?_eq_none]
  exact ⟨fun h guid hg => Bool.eq_false_iff.2 (h guid (mem_turns.2 hg)),
    fun h guid hg => Bool.eq_false_iff.1 (h guid (mem_turns.1 hg))⟩

theorem find?_turns_ne_zero : grp.turns.find? ps.inRange ≠ some 0 := by
  intro h
  have hrange := find?_some h
  rw [ps.inRange_zero] at hrange
  cases hrange

theorem looterGuid_update {ifneed : Bool} (hmethod : ¬ (grp.lootMethod = .masterLoot ∨ grp.lootMethod = .freeForAll))
    (hneed : ¬ (ifneed ∧ grp.looterGuid ∈ grp.guids ∧ ps.inRange grp.looterGuid)) :
    (grp.updateLooterGuid ps ifneed).looterGuid = (grp.turns.find? ps.inRange).getD 0 := by
  have hnot : ¬ (grp.memberCSlot grp.looterGuid ≠ grp.memberSlots.length ∧ ifneed ∧
      ps.inRange grp.looterGuid) := by
    rintro ⟨hmem, hif, hrange⟩
    exact hneed ⟨hif, memberCSlot_ne_iff.1 hmem, hrange⟩
  unfold updateLooterGuid
  dsimp only
  rw [if_neg hmethod, if_neg hnot, searches_eq]
  cases grp.turns.find? ps.inRange with
  | none => rfl
  | some newLooter =>
    dsimp only
    split
    · rfl
    · next hsame => exact not_not.1 hsame

theorem updateLooterGuid_kept (hmem : grp.looterGuid ∈ grp.guids) (hrange : ps.inRange grp.looterGuid = true) :
    grp.updateLooterGuid ps true = grp := by
  have hkeep : grp.memberCSlot grp.looterGuid ≠ grp.memberSlots.length ∧ true ∧ ps.inRange grp.looterGuid :=
    ⟨memberCSlot_ne_iff.2 hmem, rfl, hrange⟩
  unfold updateLooterGuid
  rw [if_pos hkeep, ite_self]

variable (grp ps)

/-- **The looter rotates**: the turn goes to the first member in range behind the looter, who is the last
himself, to nobody exactly when no member is in range, and stays where it is while it need not change. -/
theorem updateLooterGuid_rotates (hmethod : grp.lootMethod ≠ .masterLoot ∧ grp.lootMethod ≠ .freeForAll) :
    (grp.updateLooterGuid ps false).looterGuid = (grp.turns.find? ps.inRange).getD 0 ∧
    (grp.looterGuid ∈ grp.guids → grp.turns.getLast? = some grp.looterGuid) ∧
    ((grp.updateLooterGuid ps false).looterGuid = 0 ↔ ∀ guid ∈ grp.guids, ps.inRange guid = false) ∧
    (grp.looterGuid ∈ grp.guids → ps.inRange grp.looterGuid = true → grp.updateLooterGuid ps true = grp) := by
  have hupdate : (grp.updateLooterGuid ps false).looterGuid = (grp.turns.find? ps.inRange).getD 0 :=
    looterGuid_update (not_or.2 hmethod) fun h => Bool.false_ne_true h.1
  refine ⟨hupdate, getLast?_turns, ?_, updateLooterGuid_kept⟩
  rw [hupdate, ← find?_turns_eq_none_iff]
  cases hfind : grp.turns.find? ps.inRange with
  | none => exact iff_of_true rfl rfl
  | some newLooter =>
    have hne : newLooter ≠ 0 := fun h => find?_turns_ne_zero (hfind.trans (congrArg some h))
    exact iff_of_false hne nofun

def threeMembers : LootGroup where
  bgGroup := none
  memberSlots := [⟨1, 0, ∅, 0⟩, ⟨2, 0, ∅, 0⟩, ⟨3, 0, ∅, 0⟩]
  lootMethod := .groupLoot
  looterGuid := 2

def twoOnline : OnlinePlayers where
  findPlayer guid := if guid = 1 ∨ guid = 2 then some ⟨true⟩ else none
  findPlayer_zero := rfl

theorem updateLooterGuid_rotates_three :
    (threeMembers.updateLooterGuid twoOnline false).looterGuid = 1 ∧
      (threeMembers.updateLooterGuid twoOnline true) = threeMembers :=
  have h := updateLooterGuid_rotates threeMembers twoOnline (by decide)
  ⟨h.1.trans (by decide), h.2.2.2 (by decide) (by decide)⟩

end LootGroup

end Axium.Groups
