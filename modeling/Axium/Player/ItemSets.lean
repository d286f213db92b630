import Axium.Lib.Run
import Axium.Lib.Slots

/-!
# Item sets

`AddItemsSetItem` and `RemoveItemsSetItem` of `Item.cpp`. The effects of the sets that a player wears lie in
a vector with holes, and each has an array for the bonus spells that were applied. `applied` is what the calls
of `ApplyEquipSpell` come to: whether the last one for a spell was with `apply`. The call knows the spell and
not the set, so that a set takes the bonus of another one away that grants the same spell.

The pieces of a set are counted apart from the player (`Worn`). What its array holds is a function of their number
(`Counted`), and `bonuses_iff` says exactly when the applied spells are too.
-/

namespace Axium.ItemSets

open Axium.Run Slots Function

structure ItemSetEntry where
  spells : Fin 8 → Nat
  itemsToTriggerspell : Fin 8 → Nat
  requiredSkillId : Nat := 0
  requiredSkillValue : Nat := 0

structure ItemSetEffect where
  setid : Nat
  itemCount : Nat
  spells : Fin 8 → Option Nat

/-- `sItemSetStore`, and whether `GetSpellInfo` finds a spell. -/
structure Stores where
  itemSet : Nat → Option ItemSetEntry
  spellKnown : Nat → Bool

structure Player where
  itemSetEff : List (Option ItemSetEffect) := []
  applied : Nat → Bool := fun _ => false

structure Bonuses where
  spells : Fin 8 → Option Nat
  applied : Nat → Bool

namespace Stores

variable (S : Stores)

def triggerTurn (set : ItemSetEntry) (itemCount : Nat) (b : Bonuses) (x : Fin 8) : Bonuses :=
  if set.spells x = 0 then b
  -- not enough for spell
  else if itemCount < set.itemsToTriggerspell x then b
  else if Holds b.spells (set.spells x) then b
  else match free? b.spells with
    | none => b
    | some y =>
      -- a spell that is not found is left out
      if S.spellKnown (set.spells x) then
        ⟨update b.spells y (some (set.spells x)), update b.applied (set.spells x) true⟩
      else b

def releaseTurn (set : ItemSetEntry) (itemCount : Nat) (b : Bonuses) (x : Fin 8) : Bonuses :=
  if set.spells x = 0 then b
  -- enough for spell
  else if set.itemsToTriggerspell x ≤ itemCount then b
  else match slotOf? b.spells (set.spells x) with
    | none => b
    | some z => ⟨update b.spells z none, update b.applied (set.spells x) false⟩

/-- `AddItemsSetItem`. A new effect goes to the first hole of the vector. -/
def addItemsSetItem (setid : Nat) (skillValue : Nat → Nat) (p : Player) : Player :=
  match S.itemSet setid with
  | none => p
  | some set =>
    if set.requiredSkillId ≠ 0 ∧ skillValue set.requiredSkillId < set.requiredSkillValue then p
    else
      let eff := (find (·.setid) setid p.itemSetEff).getD ⟨setid, 0, fun _ => none⟩
      let itemCount := (eff.itemCount + 1) % 2 ^ 32
      let b := (List.finRange 8).foldl (S.triggerTurn set itemCount) ⟨eff.spells, p.applied⟩
      let eff : ItemSetEffect := ⟨setid, itemCount, b.spells⟩
      { itemSetEff :=
          if (find (·.setid) setid p.itemSetEff).isSome then write (·.setid) setid (some eff) p.itemSetEff
          else insert eff p.itemSetEff
        applied := b.applied }

def removeItemsSetItem (setid : Nat) (p : Player) : Player :=
  match S.itemSet setid with
  | none => p
  | some set =>
    match find (·.setid) setid p.itemSetEff with
    | none => p
    | some eff =>
      let itemCount := (eff.itemCount + (2 ^ 32 - 1)) % 2 ^ 32
      let b := (List.finRange 8).foldl (releaseTurn set itemCount) ⟨eff.spells, p.applied⟩
      -- all items of a set were removed
      let eff : Option ItemSetEffect := if itemCount = 0 then none else some ⟨setid, itemCount, b.spells⟩
      { itemSetEff := write (·.setid) setid eff p.itemSetEff
        applied := b.applied }

end Stores

inductive Call where
  | add (setid : Nat) (skillValue : Nat → Nat)
  | remove (setid : Nat)

def step (S : Stores) (p : Player) : Call → Player
  | .add setid skillValue => S.addItemsSetItem setid skillValue p
  | .remove setid => S.removeItemsSetItem setid p

def countPiece (setid : Nat) (n : Nat) : Call → Nat
  | .add setid' _ => if setid' = setid then n + 1 else n
  | .remove setid' => if setid' = setid then n - 1 else n

@[simp] theorem countPiece_add (setid n setid' : Nat) (skillValue : Nat → Nat) :
    countPiece setid n (.add setid' skillValue) = if setid' = setid then n + 1 else n := rfl

@[simp] theorem countPiece_remove (setid n setid' : Nat) :
    countPiece setid n (.remove setid') = if setid' = setid then n - 1 else n := rfl

/-! ## The bonus spells -/

def ItemSetEntry.Distinct (set : ItemSetEntry) : Prop :=
  ∀ x x', set.spells x = set.spells x' → set.spells x ≠ 0 → x = x'

instance (set : ItemSetEntry) : Decidable set.Distinct := inferInstanceAs (Decidable (∀ _ _, _))

/-- The spell is a bonus of the set for so many pieces. -/
def Stores.Due (S : Stores) (set : ItemSetEntry) (itemCount id : Nat) : Prop :=
  ∃ x, set.spells x = id ∧ id ≠ 0 ∧ S.spellKnown id = true ∧ set.itemsToTriggerspell x ≤ itemCount

/-- The spell is a bonus of the set that so many pieces are not enough for. -/
def ItemSetEntry.Lost (set : ItemSetEntry) (itemCount id : Nat) : Prop :=
  ∃ x, set.spells x = id ∧ id ≠ 0 ∧ itemCount < set.itemsToTriggerspell x

instance (S : Stores) (set : ItemSetEntry) (itemCount id : Nat) : Decidable (S.Due set itemCount id) :=
  inferInstanceAs (Decidable (∃ _, _))

instance (set : ItemSetEntry) (itemCount id : Nat) : Decidable (set.Lost itemCount id) :=
  inferInstanceAs (Decidable (∃ _, _))

section Turns

variable {S : Stores} {set : ItemSetEntry} {itemCount id : Nat} {b : Bonuses} {x : Fin 8}

/-- An array of bonus spells of the set, each once. -/
structure ArrayOf (set : ItemSetEntry) (spells : Fin 8 → Option Nat) : Prop where
  apart : Apart spells
  spells : ∀ id, Holds spells id → ∃ x, set.spells x = id

theorem arrayOf_empty (set : ItemSetEntry) : ArrayOf set fun _ => none :=
  ⟨apart_empty, fun _ h => absurd h not_holds_empty⟩

theorem triggerTurn_of_place {y : Fin 8} (h0 : set.spells x ≠ 0) (hcount : set.itemsToTriggerspell x ≤ itemCount)
    (hnew : ¬ Holds b.spells (set.spells x)) (hfree : free? b.spells = some y)
    (hknown : S.spellKnown (set.spells x) = true) :
    S.triggerTurn set itemCount b x =
      ⟨place b.spells (set.spells x), update b.applied (set.spells x) true⟩ := by
  unfold Stores.triggerTurn place
  rw [if_neg h0, if_neg (not_lt.2 hcount), if_neg hnew, hfree]
  exact if_pos hknown

theorem triggerTurn_of_not
    (h : ¬ (set.spells x ≠ 0 ∧ S.spellKnown (set.spells x) = true ∧ set.itemsToTriggerspell x ≤ itemCount) ∨
      Holds b.spells (set.spells x)) : S.triggerTurn set itemCount b x = b := by
  unfold Stores.triggerTurn
  split
  · rfl
  · next h0 =>
    split
    · rfl
    · next hcount =>
      split
      · rfl
      · next hnew =>
        cases free? b.spells with
        | none => rfl
        | some y =>
          dsimp only
          split
          · next hknown => exact absurd ⟨h0, hknown, not_lt.1 hcount⟩ (h.resolve_right hnew)
          · rfl

theorem triggerTurn_spec (S : Stores) (itemCount : Nat) (h : ArrayOf set b.spells) (x : Fin 8) :
    ArrayOf set (S.triggerTurn set itemCount b x).spells ∧
    (∀ id, Holds (S.triggerTurn set itemCount b x).spells id ↔ Holds b.spells id ∨
      set.spells x = id ∧ id ≠ 0 ∧ S.spellKnown id = true ∧ set.itemsToTriggerspell x ≤ itemCount) ∧
    ∀ id, (S.triggerTurn set itemCount b x).applied id = true ↔ b.applied id = true ∨ ¬ Holds b.spells id ∧
      set.spells x = id ∧ id ≠ 0 ∧ S.spellKnown id = true ∧ set.itemsToTriggerspell x ≤ itemCount := by
  by_cases hskip : ¬ (set.spells x ≠ 0 ∧ S.spellKnown (set.spells x) = true ∧
      set.itemsToTriggerspell x ≤ itemCount) ∨ Holds b.spells (set.spells x)
  · rw [triggerTurn_of_not hskip]
    refine ⟨h, fun id => ⟨.inl, ?_⟩, fun id => ⟨.inl, ?_⟩⟩
    · rintro (hheld | ⟨rfl, hdue⟩)
      · exact hheld
      · exact hskip.resolve_left (not_not.2 hdue)
    · rintro (happlied | ⟨hnew, rfl, hdue⟩)
      · exact happlied
      · exact absurd (hskip.resolve_left (not_not.2 hdue)) hnew
  · obtain ⟨hdue, hnew⟩ := not_or.1 hskip
    obtain ⟨h0, hknown, hcount⟩ := not_not.1 hdue
    obtain ⟨y, hfree⟩ := exists_free h.apart set.spells x fun id hheld => by
      obtain ⟨x', hx'⟩ := h.spells id hheld
      exact ⟨x', fun he => hnew (he ▸ hx' ▸ hheld), hx'⟩
    rw [triggerTurn_of_place h0 hcount hnew hfree hknown]
    refine ⟨⟨h.apart.place hnew, fun id hheld => ?_⟩, fun id => ?_, fun id => ?_⟩
    · rcases (holds_place hfree).1 hheld with rfl | hold
      · exact ⟨x, rfl⟩
      · exact h.spells id hold
    · rw [holds_place hfree, or_comm]
      refine or_congr_right ⟨?_, fun hid => hid.1.symm⟩
      rintro rfl
      exact ⟨rfl, h0, hknown, hcount⟩
    · dsimp only
      by_cases hid : id = set.spells x
      · subst hid
        simp [h0, hknown, hcount, hnew]
      · rw [update_of_ne hid]
        simp [Ne.symm hid]

theorem releaseTurn_of_held (h0 : set.spells x ≠ 0) (hcount : itemCount < set.itemsToTriggerspell x)
    (hheld : Holds b.spells (set.spells x)) :
    Stores.releaseTurn set itemCount b x =
      ⟨clear b.spells (set.spells x), update b.applied (set.spells x) false⟩ := by
  unfold Stores.releaseTurn clear
  rw [if_neg h0, if_neg (not_le.2 hcount)]
  cases hslot : slotOf? b.spells (set.spells x) with
  | none => exact absurd hheld (slotOf?_eq_none_iff.1 hslot)
  | some z => rfl

theorem releaseTurn_of_not
    (h : ¬ (set.spells x ≠ 0 ∧ itemCount < set.itemsToTriggerspell x ∧ Holds b.spells (set.spells x))) :
    Stores.releaseTurn set itemCount b x = b := by
  unfold Stores.releaseTurn
  split
  · rfl
  · next h0 =>
    split
    · rfl
    · next hcount =>
      have hnot : ¬ Holds b.spells (set.spells x) := fun hheld => h ⟨h0, not_le.1 hcount, hheld⟩
      rw [slotOf?_eq_none_iff.2 hnot]

theorem releaseTurn_spec (itemCount : Nat) (h : ArrayOf set b.spells) (x : Fin 8) :
    ArrayOf set (Stores.releaseTurn set itemCount b x).spells ∧
    (∀ id, Holds (Stores.releaseTurn set itemCount b x).spells id ↔ Holds b.spells id ∧
      ¬ (set.spells x = id ∧ id ≠ 0 ∧ itemCount < set.itemsToTriggerspell x)) ∧
    ∀ id, (Stores.releaseTurn set itemCount b x).applied id = true ↔ b.applied id = true ∧
      ¬ (Holds b.spells id ∧ set.spells x = id ∧ id ≠ 0 ∧ itemCount < set.itemsToTriggerspell x) := by
  by_cases hrelease : set.spells x ≠ 0 ∧ itemCount < set.itemsToTriggerspell x ∧ Holds b.spells (set.spells x)
  · obtain ⟨h0, hcount, hheld⟩ := hrelease
    rw [releaseTurn_of_held h0 hcount hheld]
    refine ⟨⟨h.apart.clear, fun id hid => h.spells id ((holds_clear h.apart).1 hid).1⟩, fun id => ?_, fun id => ?_⟩
    · rw [holds_clear h.apart]
      refine and_congr_right fun _ => not_congr ⟨?_, fun hid => hid.1.symm⟩
      rintro rfl
      exact ⟨rfl, h0, hcount⟩
    · dsimp only
      by_cases hid : id = set.spells x
      · subst hid
        simp [h0, hcount, hheld]
      · rw [update_of_ne hid]
        simp [Ne.symm hid]
  · rw [releaseTurn_of_not hrelease]
    refine ⟨h, fun id => ⟨fun hid => ⟨hid, ?_⟩, And.left⟩, fun id => ⟨fun hid => ⟨hid, ?_⟩, And.left⟩⟩
    · rintro ⟨rfl, h0, hcount⟩
      exact hrelease ⟨h0, hcount, hid⟩
    · rintro ⟨hheld, rfl, h0, hcount⟩
      exact hrelease ⟨h0, hcount, hheld⟩

theorem triggerTurns_spec (S : Stores) (itemCount : Nat) (h : ArrayOf set b.spells) (xs : List (Fin 8)) :
    ArrayOf set (xs.foldl (S.triggerTurn set itemCount) b).spells ∧
    (∀ id, Holds (xs.foldl (S.triggerTurn set itemCount) b).spells id ↔ Holds b.spells id ∨
      ∃ x ∈ xs, set.spells x = id ∧ id ≠ 0 ∧ S.spellKnown id = true ∧ set.itemsToTriggerspell x ≤ itemCount) ∧
    ∀ id, (xs.foldl (S.triggerTurn set itemCount) b).applied id = true ↔ b.applied id = true ∨ ¬ Holds b.spells id ∧
      ∃ x ∈ xs, set.spells x = id ∧ id ≠ 0 ∧ S.spellKnown id = true ∧ set.itemsToTriggerspell x ≤ itemCount := by
  induction xs generalizing b with
  | nil => exact ⟨h, fun id => by simp, fun id => by simp⟩
  | cons x xs ih =>
    obtain ⟨hof, hholds, happlied⟩ := triggerTurn_spec S itemCount h x
    obtain ⟨hof', hholds', happlied'⟩ := ih hof
    rw [List.foldl_cons]
    refine ⟨hof', fun id => ?_, fun id => ?_⟩
    · rw [hholds', hholds, or_assoc, List.exists_mem_cons_iff]
    · rw [happlied', happlied, hholds, List.exists_mem_cons_iff]
      tauto

theorem releaseTurns_spec (itemCount : Nat) (h : ArrayOf set b.spells) (xs : List (Fin 8)) :
    ArrayOf set (xs.foldl (Stores.releaseTurn set itemCount) b).spells ∧
    (∀ id, Holds (xs.foldl (Stores.releaseTurn set itemCount) b).spells id ↔ Holds b.spells id ∧
      ¬ ∃ x ∈ xs, set.spells x = id ∧ id ≠ 0 ∧ itemCount < set.itemsToTriggerspell x) ∧
    ∀ id, (xs.foldl (Stores.releaseTurn set itemCount) b).applied id = true ↔ b.applied id = true ∧
      ¬ (Holds b.spells id ∧ ∃ x ∈ xs, set.spells x = id ∧ id ≠ 0 ∧ itemCount < set.itemsToTriggerspell x) := by
  induction xs generalizing b with
  | nil => exact ⟨h, fun id => by simp, fun id => by simp⟩
  | cons x xs ih =>
    obtain ⟨hof, hholds, happlied⟩ := releaseTurn_spec itemCount h x
    obtain ⟨hof', hholds', happlied'⟩ := ih hof
    rw [List.foldl_cons]
    refine ⟨hof', fun id => ?_, fun id => ?_⟩
    · rw [hholds', hholds, and_assoc, List.exists_mem_cons_iff, not_or]
    · rw [happlied', happlied, hholds, List.exists_mem_cons_iff]
      generalize (∃ x ∈ xs, set.spells x = id ∧ id ≠ 0 ∧ itemCount < set.itemsToTriggerspell x) = later
      tauto

variable (S) in
theorem triggered (itemCount : Nat) (h : ArrayOf set b.spells) :
    ArrayOf set ((List.finRange 8).foldl (S.triggerTurn set itemCount) b).spells ∧
    (∀ id, Holds ((List.finRange 8).foldl (S.triggerTurn set itemCount) b).spells id ↔
      Holds b.spells id ∨ S.Due set itemCount id) ∧
    ∀ id, ((List.finRange 8).foldl (S.triggerTurn set itemCount) b).applied id = true ↔
      b.applied id = true ∨ ¬ Holds b.spells id ∧ S.Due set itemCount id := by
  have h := triggerTurns_spec S itemCount h (List.finRange 8)
  simpa only [Stores.Due, List.mem_finRange, true_and] using h

theorem released (itemCount : Nat) (h : ArrayOf set b.spells) :
    ArrayOf set ((List.finRange 8).foldl (Stores.releaseTurn set itemCount) b).spells ∧
    (∀ id, Holds ((List.finRange 8).foldl (Stores.releaseTurn set itemCount) b).spells id ↔
      Holds b.spells id ∧ ¬ set.Lost itemCount id) ∧
    ∀ id, ((List.finRange 8).foldl (Stores.releaseTurn set itemCount) b).applied id = true ↔
      b.applied id = true ∧ ¬ (Holds b.spells id ∧ set.Lost itemCount id) := by
  have h := releaseTurns_spec itemCount h (List.finRange 8)
  simpa only [ItemSetEntry.Lost, List.mem_finRange, true_and] using h

end Turns

/-! ## The effects of a player -/

namespace Player

variable (p : Player) (setid : Nat)

def bonusSpells : Fin 8 → Option Nat :=
  ((find (·.setid) setid p.itemSetEff).map (·.spells)).getD fun _ => none

def itemCount : Nat := ((find (·.setid) setid p.itemSetEff).map (·.itemCount)).getD 0

end Player

/-- A piece of the set makes its effect apply the spell. -/
def Stores.Triggers (S : Stores) (p : Player) (setid : Nat) (skillValue : Nat → Nat) (id : Nat) : Prop :=
  match S.itemSet setid with
  | none => False
  | some set =>
    ¬ (set.requiredSkillId ≠ 0 ∧ skillValue set.requiredSkillId < set.requiredSkillValue) ∧
      ¬ Holds (p.bonusSpells setid) id ∧ S.Due set ((p.itemCount setid + 1) % 2 ^ 32) id

/-- Without a piece the effect of the set takes the spell back. -/
def Stores.Releases (S : Stores) (p : Player) (setid id : Nat) : Prop :=
  match S.itemSet setid with
  | none => False
  | some set => Holds (p.bonusSpells setid) id ∧ set.Lost ((p.itemCount setid + (2 ^ 32 - 1)) % 2 ^ 32) id

instance (S : Stores) (p : Player) (setid : Nat) (skillValue : Nat → Nat) (id : Nat) :
    Decidable (S.Triggers p setid skillValue id) := by
  unfold Stores.Triggers
  split
  · infer_instance
  · infer_instance

instance (S : Stores) (p : Player) (setid id : Nat) : Decidable (S.Releases p setid id) := by
  unfold Stores.Releases
  split
  · infer_instance
  · infer_instance

/-- What holds whatever is put on and taken off: no set has two effects, an effect has bonus spells of its set, and
only known spells are applied. -/
structure Sets (S : Stores) (p : Player) : Prop where
  nodup : (keys (·.setid) p.itemSetEff).Nodup
  arrays : ∀ setid set, S.itemSet setid = some set → ArrayOf set (p.bonusSpells setid)
  known : ∀ id, p.applied id = true → S.spellKnown id = true

section Calls

variable {S : Stores} {setid setid' : Nat} {set : ItemSetEntry} {p : Player} {skillValue : Nat → Nat}

theorem find_add (hset : S.itemSet setid = some set)
    (hskill : ¬ (set.requiredSkillId ≠ 0 ∧ skillValue set.requiredSkillId < set.requiredSkillValue)) :
    let b := (List.finRange 8).foldl (S.triggerTurn set ((p.itemCount setid + 1) % 2 ^ 32))
      ⟨p.bonusSpells setid, p.applied⟩
    (∀ setid', find (·.setid) setid' (S.addItemsSetItem setid skillValue p).itemSetEff =
      if setid' = setid then some ⟨setid, (p.itemCount setid + 1) % 2 ^ 32, b.spells⟩
      else find (·.setid) setid' p.itemSetEff) ∧ (S.addItemsSetItem setid skillValue p).applied = b.applied := by
  have heff : ((find (·.setid) setid p.itemSetEff).getD ⟨setid, 0, fun _ => none⟩).itemCount = p.itemCount setid ∧
      ((find (·.setid) setid p.itemSetEff).getD ⟨setid, 0, fun _ => none⟩).spells = p.bonusSpells setid := by
    unfold Player.bonusSpells Player.itemCount
    cases find (·.setid) setid p.itemSetEff
    · exact ⟨rfl, rfl⟩
    · exact ⟨rfl, rfl⟩
  unfold Stores.addItemsSetItem
  rw [hset]
  dsimp only
  rw [if_neg hskill, heff.1, heff.2]
  refine ⟨fun setid' => find_put setid' ?_, rfl⟩
  rfl

theorem removeItemsSetItem_eq {eff : ItemSetEffect} (hset : S.itemSet setid = some set)
    (hfind : find (·.setid) setid p.itemSetEff = some eff) {n : Nat}
    (hn : (p.itemCount setid + (2 ^ 32 - 1)) % 2 ^ 32 = n) :
    let b := (List.finRange 8).foldl (Stores.releaseTurn set n) ⟨p.bonusSpells setid, p.applied⟩
    S.removeItemsSetItem setid p =
      { itemSetEff := write (·.setid) setid (if n = 0 then none else some ⟨setid, n, b.spells⟩) p.itemSetEff
        applied := b.applied } := by
  have hcount : eff.itemCount = p.itemCount setid := by
    unfold Player.itemCount
    rw [hfind]
    rfl
  have hspells : eff.spells = p.bonusSpells setid := by
    unfold Player.bonusSpells
    rw [hfind]
    rfl
  unfold Stores.removeItemsSetItem
  rw [hset, hfind]
  dsimp only
  rw [hcount, hspells, hn]

theorem find_add_other (skillValue : Nat → Nat) (hne : setid ≠ setid') :
    find (·.setid) setid (S.addItemsSetItem setid' skillValue p).itemSetEff = find (·.setid) setid p.itemSetEff := by
  unfold Stores.addItemsSetItem
  split
  · rfl
  · split
    · rfl
    · refine Eq.trans (find_put setid ?_) (if_neg hne)
      rfl

theorem find_remove_other (hne : setid ≠ setid') :
    find (·.setid) setid (S.removeItemsSetItem setid' p).itemSetEff = find (·.setid) setid p.itemSetEff := by
  unfold Stores.removeItemsSetItem
  split
  · rfl
  · split
    · rfl
    · refine find_write_ne hne fun v hv => ?_
      split at hv
      · cases hv
      · cases hv
        rfl

theorem find_remove (h : Sets S p) {eff : ItemSetEffect} (hset : S.itemSet setid = some set)
    (hfind : find (·.setid) setid p.itemSetEff = some eff) {n : Nat}
    (hn : (p.itemCount setid + (2 ^ 32 - 1)) % 2 ^ 32 = n) (setid' : Nat) :
    let b := (List.finRange 8).foldl (Stores.releaseTurn set n) ⟨p.bonusSpells setid, p.applied⟩
    find (·.setid) setid' (S.removeItemsSetItem setid p).itemSetEff =
      if setid' = setid then if n = 0 then none else some ⟨setid, n, b.spells⟩
      else find (·.setid) setid' p.itemSetEff := by
  intro b
  by_cases hsame : setid' = setid
  · subst hsame
    rw [removeItemsSetItem_eq hset hfind hn, if_pos rfl]
    by_cases hzero : n = 0
    · rw [if_pos hzero]
      exact find_write_none h.nodup
    · rw [if_neg hzero]
      exact find_write_some hfind rfl
  · rw [if_neg hsame]
    exact find_remove_other hsame

theorem not_holds_of_find_none (hfind : find (·.setid) setid p.itemSetEff = none) (id : Nat) :
    ¬ Holds (p.bonusSpells setid) id := by
  unfold Player.bonusSpells
  rw [hfind]
  exact not_holds_empty

theorem applied_add (h : Sets S p) (id : Nat) : (S.addItemsSetItem setid skillValue p).applied id = true ↔
    p.applied id = true ∨ S.Triggers p setid skillValue id := by
  unfold Stores.Triggers
  cases hset : S.itemSet setid with
  | none => rw [Stores.addItemsSetItem, hset, or_false]
  | some set =>
    by_cases hskill : set.requiredSkillId ≠ 0 ∧ skillValue set.requiredSkillId < set.requiredSkillValue
    · have hnot : ∀ P : Prop, ¬ (¬ (set.requiredSkillId ≠ 0 ∧
          skillValue set.requiredSkillId < set.requiredSkillValue) ∧ P) := fun P hP => hP.1 hskill
      dsimp only
      rw [Stores.addItemsSetItem, hset, or_iff_left (hnot _)]
      dsimp only
      rw [if_pos hskill]
    · dsimp only
      rw [(find_add hset hskill).2, (triggered S _ (h.arrays setid set hset)).2.2, and_iff_right hskill]

theorem applied_remove (h : Sets S p) (id : Nat) : (S.removeItemsSetItem setid p).applied id = true ↔
    p.applied id = true ∧ ¬ S.Releases p setid id := by
  unfold Stores.Releases
  cases hset : S.itemSet setid with
  | none =>
    rw [Stores.removeItemsSetItem, hset]
    exact (and_iff_left not_false).symm
  | some set =>
    cases hfind : find (·.setid) setid p.itemSetEff with
    | none =>
      rw [Stores.removeItemsSetItem, hset, hfind]
      exact (and_iff_left fun hheld => not_holds_of_find_none hfind id hheld.1).symm
    | some eff =>
      rw [removeItemsSetItem_eq hset hfind rfl]
      exact (released _ (h.arrays setid set hset)).2.2 id

theorem Sets.add (h : Sets S p) (setid : Nat) (skillValue : Nat → Nat) :
    Sets S (S.addItemsSetItem setid skillValue p) := by
  have hknown : ∀ id, (S.addItemsSetItem setid skillValue p).applied id = true → S.spellKnown id = true := by
    intro id hid
    rcases (applied_add h id).1 hid with hold | hnew
    · exact h.known id hold
    · unfold Stores.Triggers at hnew
      split at hnew
      · exact hnew.elim
      · obtain ⟨-, -, -, -, -, hknown, -⟩ := hnew
        exact hknown
  cases hset : S.itemSet setid with
  | none =>
    rw [Stores.addItemsSetItem, hset]
    exact h
  | some set =>
    by_cases hskill : set.requiredSkillId ≠ 0 ∧ skillValue set.requiredSkillId < set.requiredSkillValue
    · rw [Stores.addItemsSetItem, hset]
      dsimp only
      rw [if_pos hskill]
      exact h
    · refine ⟨?_, fun setid' set' hset' => ?_, hknown⟩
      · unfold Stores.addItemsSetItem
        rw [hset]
        dsimp only
        rw [if_neg hskill]
        exact nodup_put rfl h.nodup
      · unfold Player.bonusSpells
        rw [(find_add hset hskill).1]
        split
        · next hsame =>
          subst hsame
          cases hset.symm.trans hset'
          exact (triggered S _ (h.arrays setid' set hset)).1
        · exact h.arrays setid' set' hset'

theorem Sets.remove (h : Sets S p) (setid : Nat) : Sets S (S.removeItemsSetItem setid p) := by
  cases hset : S.itemSet setid with
  | none =>
    rw [Stores.removeItemsSetItem, hset]
    exact h
  | some set =>
    cases hfind : find (·.setid) setid p.itemSetEff with
    | none =>
      rw [Stores.removeItemsSetItem, hset, hfind]
      exact h
    | some eff =>
      refine ⟨?_, fun setid' set' hset' => ?_, fun id hid => h.known id ((applied_remove h id).1 hid).1⟩
      · rw [removeItemsSetItem_eq hset hfind rfl]
        refine nodup_write (fun v hv => ?_) h.nodup
        split at hv
        · cases hv
        · cases hv
          rfl
      · unfold Player.bonusSpells
        rw [find_remove h hset hfind rfl]
        split
        · next hsame =>
          subst hsame
          cases hset.symm.trans hset'
          split
          · exact arrayOf_empty set
          · exact (released _ (h.arrays setid' set hset)).1
        · exact h.arrays setid' set' hset'

end Calls

/-! ## The pieces of one set -/

/-- The player, and the number of pieces of the set that are counted. -/
structure Worn where
  player : Player := {}
  pieces : Nat := 0

namespace Worn

variable (S : Stores) (setid : Nat) (set : ItemSetEntry)

def step (w : Worn) (c : Call) : Worn := ⟨ItemSets.step S w.player c, countPiece setid w.pieces c⟩

/-- Only counted pieces are taken off. -/
def Legal (w : Worn) : Call → Prop
  | .add _ _ => True
  | .remove setid' => setid' = setid → 0 < w.pieces

/-- No set has two effects, that of the set has the number of pieces, and of its bonus spells those are applied that
the pieces are enough for. -/
structure Matches (w : Worn) : Prop where
  nodup : (keys (·.setid) w.player.itemSetEff).Nodup
  itemCount : (find (·.setid) setid w.player.itemSetEff).map (·.itemCount) =
    if w.pieces = 0 then none else some w.pieces
  applied : ∀ x, set.spells x ≠ 0 →
    (w.player.applied (set.spells x) = true ↔ set.itemsToTriggerspell x ≤ w.pieces)

/-- Another set does not apply a bonus spell that is not due, or take one back that is. A piece of the set itself is
not one too many for the counter, and makes no unknown spell due. -/
def Undisturbed (w : Worn) : Call → Prop
  | .add setid' skillValue =>
    if setid' = setid then
      w.pieces + 1 < 2 ^ 32 ∧ ∀ x, set.spells x ≠ 0 → set.itemsToTriggerspell x ≤ w.pieces + 1 →
        S.spellKnown (set.spells x) = true
    else
      ∀ x, set.spells x ≠ 0 → S.Triggers w.player setid' skillValue (set.spells x) →
        set.itemsToTriggerspell x ≤ w.pieces
  | .remove setid' => setid' ≠ setid → ∀ x, set.spells x ≠ 0 → S.Releases w.player setid' (set.spells x) →
      w.pieces < set.itemsToTriggerspell x

instance (w : Worn) : (c : Call) → Decidable (w.Legal setid c)
  | .add _ _ => isTrue trivial
  | .remove _ => inferInstanceAs (Decidable (_ → _))

instance (w : Worn) : (c : Call) → Decidable (w.Undisturbed S setid set c)
  | .add _ _ => by unfold Undisturbed; infer_instance
  | .remove _ => by unfold Undisturbed; infer_instance

/-- What holds besides: the array of the set has the known bonuses that the pieces are enough for. -/
structure Counted (w : Worn) : Prop where
  sets : Sets S w.player
  holds : ∀ id, Holds (w.player.bonusSpells setid) id ↔ 0 < w.pieces ∧ S.Due set w.pieces id
  small : w.pieces < 2 ^ 32

variable {S setid set} {w : Worn}

theorem counted_init : Counted S setid set {} where
  sets := ⟨List.nodup_nil, fun _ set _ => arrayOf_empty set, fun _ h => absurd h Bool.false_ne_true⟩
  holds _ := ⟨fun h => absurd h not_holds_empty, fun h => absurd h.1 (lt_irrefl 0)⟩
  small := by decide

theorem matches_init : Matches setid set {} ↔ ∀ x, set.spells x ≠ 0 → 0 < set.itemsToTriggerspell x := by
  constructor
  · intro h x h0
    have happlied := h.applied x h0
    exact Nat.pos_of_ne_zero fun hzero => Bool.false_ne_true (happlied.2 hzero.le)
  · exact fun h => ⟨List.nodup_nil, rfl, fun x h0 => ⟨fun happlied => absurd happlied Bool.false_ne_true,
      fun hle => absurd (h x h0) (Nat.not_lt.2 hle)⟩⟩

theorem due_iff (hdistinct : set.Distinct) {x : Fin 8} (h0 : set.spells x ≠ 0) (n : Nat) :
    S.Due set n (set.spells x) ↔ S.spellKnown (set.spells x) = true ∧ set.itemsToTriggerspell x ≤ n := by
  constructor
  · rintro ⟨x', hx', -, hknown, hle⟩
    rw [hdistinct x' x hx' (hx' ▸ h0)] at hle
    exact ⟨hknown, hle⟩
  · rintro ⟨hknown, hle⟩
    exact ⟨x, rfl, h0, hknown, hle⟩

theorem lost_iff (hdistinct : set.Distinct) {x : Fin 8} (h0 : set.spells x ≠ 0) (n : Nat) :
    set.Lost n (set.spells x) ↔ n < set.itemsToTriggerspell x := by
  constructor
  · rintro ⟨x', hx', -, hlt⟩
    rwa [hdistinct x' x hx' (hx' ▸ h0)] at hlt
  · exact fun hlt => ⟨x, rfl, h0, hlt⟩

theorem Counted.other {p : Player} (hc : w.Counted S setid set) (hsets : Sets S p)
    (hfind : find (·.setid) setid p.itemSetEff = find (·.setid) setid w.player.itemSetEff) :
    Counted S setid set ⟨p, w.pieces⟩ := by
  refine ⟨hsets, fun id => ?_, hc.small⟩
  have hspells : p.bonusSpells setid = w.player.bonusSpells setid := by
    unfold Player.bonusSpells
    rw [hfind]
  rw [← hc.holds, ← hspells]

theorem Matches.other_iff {p : Player} (h : w.Matches setid set) (hsets : Sets S p)
    (hfind : find (·.setid) setid p.itemSetEff = find (·.setid) setid w.player.itemSetEff) :
    Matches setid set ⟨p, w.pieces⟩ ↔ ∀ x, set.spells x ≠ 0 →
      (p.applied (set.spells x) = true ↔ set.itemsToTriggerspell x ≤ w.pieces) :=
  ⟨fun h' => h'.applied, fun happlied => ⟨hsets.nodup, hfind ▸ h.itemCount, happlied⟩⟩

theorem Matches.itemCount_eq (h : w.Matches setid set) : w.player.itemCount setid = w.pieces := by
  unfold Player.itemCount
  rw [h.itemCount]
  split
  · next hzero => exact hzero.symm
  · rfl

theorem Matches.less (h : w.Matches setid set) (hc : w.Counted S setid set) (hpos : 0 < w.pieces) :
    (w.player.itemCount setid + (2 ^ 32 - 1)) % 2 ^ 32 = w.pieces - 1 := by
  have hsmall := hc.small
  rw [h.itemCount_eq]
  omega

section

variable (hset : S.itemSet setid = some set) (hskill : set.requiredSkillId = 0) (hdistinct : set.Distinct)
  (h : w.Matches setid set) (hc : w.Counted S setid set)
include hset h hc

section

variable {skillValue : Nat → Nat}
include hskill

theorem Counted.add (hn : w.pieces + 1 < 2 ^ 32) :
    Counted S setid set ⟨S.addItemsSetItem setid skillValue w.player, w.pieces + 1⟩ := by
  have hrefused : ¬ (set.requiredSkillId ≠ 0 ∧ skillValue set.requiredSkillId < set.requiredSkillValue) :=
    fun hnot => hnot.1 hskill
  refine ⟨hc.sets.add setid skillValue, fun id => ?_, hn⟩
  unfold Player.bonusSpells
  rw [(find_add hset hrefused).1, if_pos rfl, h.itemCount_eq, Nat.mod_eq_of_lt hn]
  refine ((triggered S _ (hc.sets.arrays setid set hset)).2.1 id).trans ?_
  rw [hc.holds]
  constructor
  · rintro (⟨-, x, hx, h0, hknown, hle⟩ | hdue)
    · exact ⟨Nat.succ_pos _, x, hx, h0, hknown, hle.trans (Nat.le_succ _)⟩
    · exact ⟨Nat.succ_pos _, hdue⟩
  · exact fun hdue => .inr hdue.2

include hdistinct

theorem Matches.add_iff : Matches setid set ⟨S.addItemsSetItem setid skillValue w.player, w.pieces + 1⟩ ↔
    w.pieces + 1 < 2 ^ 32 ∧ ∀ x, set.spells x ≠ 0 → set.itemsToTriggerspell x ≤ w.pieces + 1 →
      S.spellKnown (set.spells x) = true := by
  have hrefused : ¬ (set.requiredSkillId ≠ 0 ∧ skillValue set.requiredSkillId < set.requiredSkillValue) :=
    fun hnot => hnot.1 hskill
  have hsets := hc.sets.add setid skillValue
  have hfind := (find_add (p := w.player) hset hrefused).1 setid
  rw [if_pos rfl, h.itemCount_eq] at hfind
  constructor
  · intro h'
    refine ⟨?_, fun x h0 hle => hsets.known _ ((h'.applied x h0).2 hle)⟩
    have hcount := h'.itemCount
    dsimp only at hcount
    rw [hfind, if_neg (Nat.succ_ne_zero _)] at hcount
    have hsome := Option.some.inj hcount
    dsimp only at hsome
    omega
  · rintro ⟨hn, hknown⟩
    refine ⟨hsets.nodup, ?_, fun x h0 => ?_⟩
    · rw [hfind, Nat.mod_eq_of_lt hn]
      rfl
    · dsimp only
      rw [applied_add hc.sets, h.applied x h0]
      unfold Stores.Triggers
      rw [hset]
      dsimp only
      rw [and_iff_right hrefused, h.itemCount_eq, Nat.mod_eq_of_lt hn, hc.holds, due_iff hdistinct h0,
        due_iff hdistinct h0]
      constructor
      · rintro (hle | ⟨-, -, hle⟩)
        · exact hle.trans (Nat.le_succ _)
        · exact hle
      · intro hle
        by_cases hold : set.itemsToTriggerspell x ≤ w.pieces
        · exact .inl hold
        · exact .inr ⟨fun hheld => hold hheld.2.2, hknown x h0 hle, hle⟩

end

section

variable (hpos : 0 < w.pieces)
include hpos

theorem find_less : find (·.setid) setid (S.removeItemsSetItem setid w.player).itemSetEff =
    if w.pieces - 1 = 0 then none
    else some ⟨setid, w.pieces - 1, ((List.finRange 8).foldl (Stores.releaseTurn set (w.pieces - 1))
      ⟨w.player.bonusSpells setid, w.player.applied⟩).spells⟩ := by
  have hcount := h.itemCount
  rw [if_neg hpos.ne', Option.map_eq_some_iff] at hcount
  obtain ⟨eff, hfind, -⟩ := hcount
  rw [find_remove hc.sets hset hfind (h.less hc hpos), if_pos rfl]

include hdistinct

theorem Counted.remove : Counted S setid set ⟨S.removeItemsSetItem setid w.player, w.pieces - 1⟩ := by
  refine ⟨hc.sets.remove setid, fun id => ?_, (Nat.sub_le ..).trans_lt hc.small⟩
  unfold Player.bonusSpells
  rw [find_less hset h hc hpos]
  split
  · next hzero =>
    rw [hzero]
    exact ⟨fun hid => absurd hid not_holds_empty, fun hid => absurd hid.1 (lt_irrefl 0)⟩
  · next hmore =>
    refine ((released _ (hc.sets.arrays setid set hset)).2.1 id).trans ?_
    rw [hc.holds, and_iff_right (Nat.pos_of_ne_zero hmore)]
    constructor
    · rintro ⟨⟨-, x, rfl, h0, hknown, -⟩, hkept⟩
      rw [lost_iff hdistinct h0] at hkept
      exact ⟨x, rfl, h0, hknown, Nat.not_lt.1 hkept⟩
    · rintro ⟨x, rfl, h0, hknown, hle⟩
      rw [lost_iff hdistinct h0]
      exact ⟨⟨hpos, x, rfl, h0, hknown, hle.trans (Nat.sub_le ..)⟩, Nat.not_lt.2 hle⟩

theorem Matches.remove : Matches setid set ⟨S.removeItemsSetItem setid w.player, w.pieces - 1⟩ := by
  refine ⟨(hc.sets.remove setid).nodup, ?_, fun x h0 => ?_⟩
  · dsimp only
    rw [find_less hset h hc hpos]
    split
    · rfl
    · rfl
  · have hknown := hc.sets.known (set.spells x)
    dsimp only
    rw [applied_remove hc.sets]
    unfold Stores.Releases
    rw [hset]
    dsimp only
    rw [h.less hc hpos, lost_iff hdistinct h0, hc.holds, due_iff hdistinct h0]
    rw [h.applied x h0] at hknown ⊢
    constructor
    · rintro ⟨hle, hkept⟩
      by_contra hlt
      exact hkept ⟨⟨hpos, hknown hle, hle⟩, Nat.not_le.1 hlt⟩
    · exact fun hle => ⟨hle.trans (Nat.sub_le ..), fun hlost => absurd hle (Nat.not_le.2 hlost.2)⟩

end

include hskill hdistinct

/-- What the set counts and grants follows what is worn, over every undisturbed call. -/
theorem Counted.step {c : Call} (hlegal : w.Legal setid c) (hc' : w.Undisturbed S setid set c) :
    (w.step S setid c).Counted S setid set := by
  cases c with
  | add setid' skillValue =>
    change Counted S setid set ⟨S.addItemsSetItem setid' skillValue w.player, countPiece setid w.pieces _⟩
    simp only [Undisturbed] at hc'
    rw [countPiece_add]
    by_cases hsame : setid' = setid
    · subst hsame
      rw [if_pos rfl] at hc' ⊢
      exact hc.add hset hskill h hc'.1
    · rw [if_neg hsame]
      exact hc.other (hc.sets.add setid' skillValue) (find_add_other skillValue (Ne.symm hsame))
  | remove setid' =>
    change Counted S setid set ⟨S.removeItemsSetItem setid' w.player, countPiece setid w.pieces _⟩
    rw [countPiece_remove]
    by_cases hsame : setid' = setid
    · subst hsame
      rw [if_pos rfl]
      exact hc.remove hset hdistinct h (hlegal rfl)
    · rw [if_neg hsame]
      exact hc.other (hc.sets.remove setid') (find_remove_other (Ne.symm hsame))

/-- The step of `bonuses_iff`. -/
theorem Matches.step_iff {c : Call} (hlegal : w.Legal setid c) :
    (w.step S setid c).Matches setid set ↔ w.Undisturbed S setid set c := by
  cases c with
  | add setid' skillValue =>
    change Matches setid set ⟨S.addItemsSetItem setid' skillValue w.player, countPiece setid w.pieces _⟩ ↔ _
    simp only [Undisturbed]
    rw [countPiece_add]
    by_cases hsame : setid' = setid
    · subst hsame
      rw [if_pos rfl, if_pos rfl]
      exact h.add_iff hset hskill hdistinct hc
    · rw [if_neg hsame, if_neg hsame, h.other_iff (hc.sets.add setid' skillValue)
        (find_add_other skillValue (Ne.symm hsame))]
      refine forall₂_congr fun x h0 => ?_
      rw [applied_add hc.sets, h.applied x h0]
      tauto
  | remove setid' =>
    change Matches setid set ⟨S.removeItemsSetItem setid' w.player, countPiece setid w.pieces _⟩ ↔
      (setid' ≠ setid → _)
    rw [countPiece_remove]
    by_cases hsame : setid' = setid
    · subst hsame
      rw [if_pos rfl]
      exact iff_of_true (h.remove hset hdistinct hc (hlegal rfl)) fun hne => absurd rfl hne
    · rw [if_neg hsame, h.other_iff (hc.sets.remove setid') (find_remove_other (Ne.symm hsame)),
        imp_iff_right hsame]
      refine forall₂_congr fun x h0 => ?_
      rw [applied_remove hc.sets, h.applied x h0, ← Nat.not_le]
      tauto

end

end Worn

/-- **When the bonuses are those of the pieces.** They are in every state of a run if and only if no bonus of the set is
for no piece at all, and no step disturbs them. -/
theorem bonuses_iff (S : Stores) {setid : Nat} {set : ItemSetEntry} (hset : S.itemSet setid = some set)
    (hskill : set.requiredSkillId = 0) (hdistinct : set.Distinct) (calls : List Call)
    (hlegal : AllSteps (Worn.step S setid) (Worn.Legal setid) {} calls) :
    (∀ pre, pre <+: calls → (run (Worn.step S setid) {} pre).Matches setid set) ↔
      (∀ x, set.spells x ≠ 0 → 0 < set.itemsToTriggerspell x) ∧
        AllSteps (Worn.step S setid) (Worn.Undisturbed S setid set) {} calls := by
  rw [← Worn.matches_init]
  exact AllSteps.always_iff_of_kept (fun w c h hc hlegal hP => hc.step hset hskill hdistinct h hlegal hP)
    (fun w c h hc hlegal => h.step_iff hset hskill hdistinct hc hlegal) Worn.counted_init hlegal

def oneBonus (spell pieces : Nat) : ItemSetEntry where
  spells x := if x = 0 then spell else 0
  itemsToTriggerspell _ := pieces

/-- The second and the third set grant the same spell. -/
def threeSets : Stores where
  itemSet setid :=
    if setid = 1 then some (oneBonus 100 2)
    else if setid = 2 then some (oneBonus 101 1)
    else if setid = 3 then some (oneBonus 101 1)
    else none
  spellKnown _ := true

def sampleCalls : List Call :=
  [.add 1 fun _ => 0, .add 2 fun _ => 0, .add 1 fun _ => 0, .add 3 fun _ => 0, .remove 2, .remove 1]

theorem bonuses_iff_two : (run (Worn.step threeSets 1) {} sampleCalls).Matches 1 (oneBonus 100 2) :=
  (bonuses_iff threeSets rfl rfl (by decide) sampleCalls (by decide)).2 (by decide) _ List.prefix_rfl

/-- A piece of the third set is worn, and its bonus is gone with the second set. -/
theorem bonus_gone :
    let w := run (Worn.step threeSets 3) {} [.add 2 fun _ => 0, .add 3 fun _ => 0, .remove 2]
    w.pieces = 1 ∧ Holds (w.player.bonusSpells 3) 101 ∧ w.player.applied 101 = false ∧
      ¬ w.Matches 3 (oneBonus 101 1) := by
  refine ⟨by decide, by decide, by decide, fun h => ?_⟩
  exact absurd (h.applied 0 (by decide)) (by decide)

end Axium.ItemSets
