import Axium.Player.DestroyCount
import Axium.Player.OffHand

/-!
# Forced unequips

An item that may not be worn any more is stored, or mailed when no space is found. `AutoUnequipOffhandIfNeed`
takes it out of its slot before it is mailed. For the Bauble of True Blood, `ActivateSpec` mails the item that
is still worn and then calls `DestroyItem` on its slot, so what is in the mail is marked as removed.

Of `ActivateSpec` there is what it does to items: the calls of `AutoUnequipOffhandIfNeed` while spells are
removed, and the rule for trinkets.
-/

namespace Axium.Player

open Guilds Stacks Function Vault List Inventory

def trinket1 : Byte := 12

def trinket2 : Byte := 13

def isBauble (entry : Nat) : Bool := entry = 50354 ∨ entry = 50726

/-- The items of a player and in his mail, with the guids that `DestroyItem` has marked as removed. -/
structure Belongings extends Inventory where
  destroyed : List Nat

/-- What `ActivateSpec` reads. `hands` has `CanDualWield` and `CanTitanGrip` as they are each time that
`removeSpell` comes to its end, and `isHealingSpec` is asked after the spec was changed. -/
structure SpecChange where
  activeSpec : Nat
  specsCount : Nat
  offhandCheckAtSpellUnlearn : Bool
  hands : List (Bool × Bool)
  healerOnlyBauble : Bool
  isHealingSpec : Bool

def Rules.wielding (W : Rules) (hands : Bool × Bool) : Rules :=
  { W with canDualWield := hands.1, canTitanGrip := hands.2 }

namespace Inventory

variable {W : Rules} {inv : Inventory} {it : Item} {slot : Byte} {dest : List (Place × Nat)}

theorem WellKept.loose_empty {p : Pos} (h : WellKept W inv) (hit : inv.getItemByPos W p = some it)
    (hloose : isBagPos p.bag p.slot = false ∨ (W.template it.entry).isBag = false) :
    inv.isNotEmptyBag W it = false := by
  rw [Bool.eq_false_iff]
  intro hfull
  obtain ⟨bag, -, hbag⟩ := any_eq_true.1 hfull
  cases hb : inv.toVault.getBagByPos (W.realm inv.toVault) bag with
  | none =>
    rw [hb] at hbag
    cases hbag
  | some b =>
    rw [hb] at hbag
    obtain ⟨hmem, hslots, hisBag⟩ := getBagByPos_some.1 hb
    have hsame := h.valid.sound.apart hslots (getItemByPos_some hit).2 (of_decide_eq_true hbag).1
    rcases hloose with hpos | hnot
    · have hbag0 : p.bag = bag0 := (congrArg Place.container hsame).symm
      have hslot : p.slot = bag := (congrArg Place.slot hsame).symm
      rw [hslot, isBagPos_iff.2 ⟨hbag0, hmem⟩] at hpos
      cases hpos
    · rw [hsame, (getItemByPos_some hit).2, Option.some.injEq] at hslots
      rw [← hslots] at hisBag
      exact absurd (hnot.symm.trans hisBag) Bool.false_ne_true

theorem WellKept.worn_empty (h : WellKept W inv) (hslot : slot.val < 19)
    (hit : inv.getItemByPos W ⟨bag0, slot⟩ = some it) : inv.isNotEmptyBag W it = false := by
  refine h.loose_empty hit (.inl (Bool.eq_false_iff.2 fun hpos => ?_))
  exact absurd (le_bagSlot (isBagPos_iff.1 hpos).2) (not_le.2 hslot)

theorem WellKept.restore (h : WellKept W inv) (hslot : slot.val < 19)
    (hit : inv.getItemByPos W ⟨bag0, slot⟩ = some it)
    (hcan : inv.canStoreItem W ⟨nullBag, nullSlot⟩ it false = some dest) :
    WellKept W (storeItem W it dest (inv.removeItem W ⟨bag0, slot⟩)) ∧
      (storeItem W it dest (inv.removeItem W ⟨bag0, slot⟩)).mailed = inv.mailed ∧
      Stowed (W.realm inv.toVault).maxStack inv.nextGuid (update inv.slots ⟨false, bag0, slot⟩ none) it
        (dest.map Prod.fst) it.count (storeItem W it dest (inv.removeItem W ⟨bag0, slot⟩)).nextGuid
        (storeItem W it dest (inv.removeItem W ⟨bag0, slot⟩)).slots := by
  have hempty := h.worn_empty hslot hit
  have hslots : inv.slots ⟨false, bag0, slot⟩ = some it := (getItemByPos_some hit).2
  have htaken := h.take hit hempty
  have heq := removeItem_eq h hit hempty
  have hhand : InHand inv.nextGuid (update inv.slots ⟨false, bag0, slot⟩ none) it :=
    h.valid.sound.inHand hslots
  have hfits := canStoreItem_fits (h.valid.sound.bounded hslots) (canStoreItem_vault hcan)
  rw [Vault.Fits, without_eq_take h.valid.sound hslots] at hfits
  have hvec : ∀ q ∈ dest, q.1.isBank = false ∧
      Visible (W.realm inv.toVault) (inv.removeItem W ⟨bag0, slot⟩).toVault q.1 ∧
      Room (W.realm inv.toVault).maxStack (update inv.slots ⟨false, bag0, slot⟩ none) it.entry q.1 q.2 := by
    intro q hq
    have hpack := canStoreItem_pack_removed hslot hit hcan q hq
    exact ⟨hpack.1, hpack.visible, (hfits.room q hq).2⟩
  have hstow := stow_spec (h.valid.sound.take ⟨false, bag0, slot⟩) hhand hfits.nodup fun q hq => (hvec q hq).2.2
  rw [heq] at htaken hvec ⊢
  obtain ⟨hkept, hslots', hnext, -, hmailed⟩ := htaken.store hhand hfits.nodup hvec
  have hsum : (dest.map Prod.snd).sum = it.count := hfits.sum
  rw [hsum] at hstow
  refine ⟨hkept, hmailed, ?_⟩
  rw [hslots', hnext]
  exact hstow

/-! What is in the mail stays there while items are moved. -/

theorem removeItem_mailed (p : Pos) : (inv.removeItem W p).mailed = inv.mailed := by
  unfold removeItem
  split
  · rfl
  · dsimp only
    split
    · rfl
    · rfl

theorem setTop_mailed : (inv.setTop slot it).mailed = inv.mailed := by
  unfold setTop
  split
  · rfl
  · rfl

theorem setItem_mailed (p : Place) : (inv.setItem W p it).mailed = inv.mailed := by
  unfold setItem
  split
  · exact setTop_mailed
  · split
    · rfl
    · rfl

theorem storeAt_mailed (clone : Bool) (p : Place) (count : Nat) :
    (inv.storeAt W it clone p count).mailed = inv.mailed := by
  unfold storeAt
  split
  · rfl
  · split
    · split
      · exact setItem_mailed p
      · rfl
    · exact setItem_mailed p

theorem storeItem_mailed : (storeItem W it dest inv).mailed = inv.mailed := by
  induction dest generalizing inv with
  | nil => rfl
  | cons q rest ih => exact ih.trans (storeAt_mailed _ _ _)

theorem destroySingle_mailed (p : Pos) : (inv.destroySingle W p).mailed = inv.mailed := by
  unfold destroySingle
  split
  · rfl
  · rfl

theorem destroyItem_mailed (p : Pos) : (inv.destroyItem W p).mailed = inv.mailed := by
  have hfold : ∀ (l : List Nat) (inv : Inventory),
      (l.foldl (fun inv j => inv.destroySingle W ⟨p.slot, Fin.ofNat 256 j⟩) inv).mailed = inv.mailed := by
    intro l
    induction l with
    | nil => exact fun _ => rfl
    | cons j rest ih => exact fun inv => (ih _).trans (destroySingle_mailed _)
  unfold destroyItem
  split
  · split
    · exact (destroySingle_mailed p).trans (hfold _ _)
    · exact destroySingle_mailed p
  · rfl

end Inventory

namespace Belongings

section definitions

variable (W : Rules) (b : Belongings)

def autoUnequipOffhandIfNeed (force : Bool) : Belongings :=
  { b with toInventory := b.toInventory.autoUnequipOffhandIfNeed W force }

def restore (slot : Byte) (it : Item) (dest : List (Place × Nat)) : Belongings :=
  { b with toInventory := storeItem W it dest (b.removeItem W ⟨bag0, slot⟩) }

/-- `ActivateSpec`, for the item in a slot for trinkets. -/
def unequipBauble (isHealingSpec : Bool) (slot : Byte) : Belongings :=
  match b.getItemByPos W ⟨bag0, slot⟩ with
  | none => b
  | some it =>
    if ¬ isHealingSpec ∧ isBauble it.entry then
      match b.canStoreItem W ⟨nullBag, nullSlot⟩ it false with
      | some dest => b.restore W slot it dest
      | none =>
        -- the item is mailed as it is worn, and destroyed in its slot
        { toInventory := destroyItem W { b.toInventory with mailed := it :: b.mailed } ⟨bag0, slot⟩
          destroyed := it.guid :: b.destroyed }
    else b

def unlearn (C : SpecChange) : Belongings :=
  if C.offhandCheckAtSpellUnlearn then
    C.hands.foldl (fun b hands => b.autoUnequipOffhandIfNeed (W.wielding hands) false) b
  else b

def activateSpec (C : SpecChange) (spec : Nat) : Belongings :=
  if C.activeSpec = spec then b
  else if C.specsCount < spec then b
  else
    let b := b.unlearn W C
    if C.healerOnlyBauble then
      (b.unequipBauble W C.isHealingSpec trinket1).unequipBauble W C.isHealingSpec trinket2
    else b

/-! ## Nothing is lost -/

def units (e : Nat) : Nat :=
  total e b.slots + ((b.mailed.filter (·.guid ∉ b.destroyed)).map (amount e ∘ some)).sum

/-- Every item is in one place: in its slot or once in the mail. What is there was not destroyed. -/
structure Sound : Prop where
  wellKept : Inventory.WellKept W b.toInventory
  nodup : (b.mailed.map (·.guid)).Nodup
  posted : ∀ {m}, m ∈ b.mailed → m.guid < b.nextGuid ∧ ∀ {q t}, b.slots q = some t → t.guid ≠ m.guid
  alive : ∀ {m}, m ∈ b.mailed → m.guid ∉ b.destroyed
  intact : ∀ {q t}, b.slots q = some t → t.guid ∉ b.destroyed
  given : ∀ {g}, g ∈ b.destroyed → g < b.nextGuid

/-- From `b` to `b'` some slots of the equipment are emptied, and every item that was there is now in the
bags or once in the mail, where it is not marked as removed: no unit is lost or doubled. -/
structure Displaces (b' : Belongings) : Prop where
  sound : b'.Sound W
  units : ∀ e, b'.units e = b.units e
  worn : ∀ {slot : Byte}, slot.val < 23 →
    b'.slots ⟨false, bag0, slot⟩ = b.slots ⟨false, bag0, slot⟩ ∨ b'.slots ⟨false, bag0, slot⟩ = none
  mails : ∀ {m}, m ∈ b'.mailed →
    m ∈ b.mailed ∨ ∃ slot : Byte, slot.val < 23 ∧ b.slots ⟨false, bag0, slot⟩ = some m

def fits (isHealingSpec : Bool) (slot : Byte) : Bool :=
  match b.getItemByPos W ⟨bag0, slot⟩ with
  | none => true
  | some it => isHealingSpec || !isBauble it.entry || (b.canStoreItem W ⟨nullBag, nullSlot⟩ it false).isSome

def baublesFit (C : SpecChange) (spec : Nat) : Bool :=
  C.activeSpec = spec || C.specsCount < spec || !C.healerOnlyBauble ||
    (b.unlearn W C).fits W C.isHealingSpec trinket1 &&
      ((b.unlearn W C).unequipBauble W C.isHealingSpec trinket1).fits W C.isHealingSpec trinket2

end definitions

variable {W : Rules} {b b' b'' : Belongings} {it : Item} {slot : Byte} {dest : List (Place × Nat)}

theorem Displaces.refl (h : b.Sound W) : b.Displaces W b :=
  ⟨h, fun _ => rfl, fun _ => .inl rfl, fun hm => .inl hm⟩

theorem Displaces.trans (h : b.Displaces W b') (h' : b'.Displaces W b'') : b.Displaces W b'' where
  sound := h'.sound
  units e := (h'.units e).trans (h.units e)
  worn hslot := by
    rcases h'.worn hslot with heq | hnone
    · rw [heq]
      exact h.worn hslot
    · exact .inr hnone
  mails hm := by
    rcases h'.mails hm with hm' | ⟨slot, hslot, hworn⟩
    · exact h.mails hm'
    · rcases h.worn hslot with heq | hnone
      · rw [heq] at hworn
        exact .inr ⟨slot, hslot, hworn⟩
      · rw [hnone] at hworn
        cases hworn

theorem Sound.old (h : b.Sound W) {p q : Place} {t : Item} (hit : b.slots p = some it)
    (hq : update b.slots p none q = some t) : b.slots q = some t ∧ t.guid ≠ it.guid := by
  have hne : q ≠ p := by
    rintro rfl
    rw [update_self] at hq
    cases hq
  rw [update_of_ne hne] at hq
  exact ⟨hq, fun hguid => hne (h.wellKept.valid.sound.apart hq hit hguid)⟩

theorem worn_update {o : Byte} : update b.slots ⟨false, bag0, slot⟩ none ⟨false, bag0, o⟩ = b.slots ⟨false, bag0, o⟩ ∨
    update b.slots ⟨false, bag0, slot⟩ none ⟨false, bag0, o⟩ = none := by
  by_cases heq : (⟨false, bag0, o⟩ : Place) = ⟨false, bag0, slot⟩
  · rw [heq, update_self]
    exact .inr rfl
  · rw [update_of_ne heq]
    exact .inl rfl

theorem Sound.restore (h : b.Sound W) (hslot : slot.val < 19) (hit : b.getItemByPos W ⟨bag0, slot⟩ = some it)
    (hcan : b.canStoreItem W ⟨nullBag, nullSlot⟩ it false = some dest) :
    b.Displaces W (b.restore W slot it dest) := by
  have hslots : b.slots ⟨false, bag0, slot⟩ = some it := (getItemByPos_some hit).2
  obtain ⟨hkept, hmailed, hstow⟩ := h.wellKept.restore hslot hit hcan
  have hmails : (b.restore W slot it dest).mailed = b.mailed := hmailed
  have hle : b.nextGuid ≤ (b.restore W slot it dest).nextGuid := hstow.le
  -- where the guids come from
  have hguids : ∀ {q t}, (b.restore W slot it dest).slots q = some t →
      b.nextGuid ≤ t.guid ∨ ∃ r u, b.slots r = some u ∧ u.guid = t.guid := by
    intro q t hq
    rcases hstow.guids hq with hsame | hnew | ⟨u, hu, hguid⟩
    · exact .inr ⟨_, it, hslots, hsame.symm⟩
    · exact .inl hnew
    · exact .inr ⟨q, u, (h.old hslots hu).1, hguid⟩
  refine ⟨⟨hkept, ?_, ?_, ?_, ?_, ?_⟩, ?_, ?_, ?_⟩
  · rw [hmails]
    exact h.nodup
  · intro m hm
    rw [hmails] at hm
    obtain ⟨hlt, hapart⟩ := h.posted hm
    refine ⟨lt_of_lt_of_le hlt hle, fun hq => ?_⟩
    rcases hguids hq with hnew | ⟨r, u, hu, hguid⟩
    · exact (lt_of_lt_of_le hlt hnew).ne'
    · rw [← hguid]
      exact hapart hu
  · intro m hm
    rw [hmails] at hm
    exact h.alive hm
  · intro q t hq hgone
    rcases hguids hq with hnew | ⟨r, u, hu, hguid⟩
    · exact absurd (h.given hgone) (not_lt.2 hnew)
    · rw [← hguid] at hgone
      exact h.intact hu hgone
  · exact fun hg => lt_of_lt_of_le (h.given hg) hle
  · intro e
    have htotal : total e (b.restore W slot it dest).slots = total e b.slots :=
      (hstow.total e).trans (total_take e hslots)
    unfold units
    rw [hmails, htotal]
    rfl
  · intro o ho
    have hworn : (b.restore W slot it dest).slots ⟨false, bag0, o⟩ = _ := restore_worn hslot hit hcan ho
    rw [hworn]
    exact worn_update
  · intro m hm
    rw [hmails] at hm
    exact .inl hm

theorem Sound.mail (h : b.Sound W) (hslot : slot.val < 19) (hit : b.getItemByPos W ⟨bag0, slot⟩ = some it) :
    b.Displaces W
      { b with
        toInventory :=
          { b.removeItem W ⟨bag0, slot⟩ with mailed := it :: (b.removeItem W ⟨bag0, slot⟩).mailed } } := by
  have hslots : b.slots ⟨false, bag0, slot⟩ = some it := (getItemByPos_some hit).2
  have hempty := h.wellKept.worn_empty hslot hit
  have htaken := h.wellKept.take hit hempty
  rw [removeItem_eq h.wellKept hit hempty] at htaken ⊢
  refine ⟨⟨?_, ?_, ?_, ?_, ?_, h.given⟩, ?_, fun _ => worn_update, ?_⟩
  · exact ⟨htaken.valid, htaken.player, htaken.tracked, htaken.stash⟩
  · refine nodup_cons.2 ⟨fun hmem => ?_, h.nodup⟩
    obtain ⟨m, hm, hguid⟩ := mem_map.1 hmem
    exact (h.posted hm).2 hslots hguid.symm
  · intro m hm
    rcases mem_cons.1 hm with rfl | hm
    · exact ⟨h.wellKept.valid.sound.fresh hslots, fun hq => (h.old hslots hq).2⟩
    · exact ⟨(h.posted hm).1, fun hq => (h.posted hm).2 (h.old hslots hq).1⟩
  · intro m hm
    rcases mem_cons.1 hm with rfl | hm
    · exact h.intact hslots
    · exact h.alive hm
  · exact fun hq => h.intact (h.old hslots hq).1
  · intro e
    have htake : total e (update b.slots (Pos.mk bag0 slot).place none) + (if it.entry = e then it.count else 0) =
        total e b.slots := total_take e hslots
    have hkeep : (it :: b.mailed).filter (fun m => m.guid ∉ b.destroyed) =
        it :: b.mailed.filter (fun m => m.guid ∉ b.destroyed) :=
      filter_cons_of_pos (decide_eq_true (h.intact hslots))
    unfold units
    dsimp only
    rw [hkeep, map_cons, sum_cons, comp_apply, amount_some]
    omega
  · intro m hm
    rcases mem_cons.1 hm with rfl | hm
    · exact .inr ⟨slot, lt_trans hslot (by decide), hslots⟩
    · exact .inl hm

/-! ## The off-hand -/

theorem wellKept_wielding {inv : Inventory} {hands : Bool × Bool} :
    Inventory.WellKept (W.wielding hands) inv ↔ Inventory.WellKept W inv :=
  ⟨fun h => ⟨⟨h.valid.sound, h.valid.placed⟩, h.player, h.tracked, h.stash⟩,
    fun h => ⟨⟨h.valid.sound, h.valid.placed⟩, h.player, h.tracked, h.stash⟩⟩

theorem sound_wielding {hands : Bool × Bool} : b.Sound (W.wielding hands) ↔ b.Sound W :=
  ⟨fun h => ⟨wellKept_wielding.1 h.wellKept, h.nodup, h.posted, h.alive, h.intact, h.given⟩,
    fun h => ⟨wellKept_wielding.2 h.wellKept, h.nodup, h.posted, h.alive, h.intact, h.given⟩⟩

theorem Sound.autoUnequip (h : b.Sound W) (force : Bool) : b.Displaces W (b.autoUnequipOffhandIfNeed W force) := by
  unfold Belongings.autoUnequipOffhandIfNeed Inventory.autoUnequipOffhandIfNeed
  cases hoff : b.getItemByPos W ⟨bag0, offhand⟩ with
  | none => exact Displaces.refl h
  | some it =>
    dsimp only
    split
    · exact Displaces.refl h
    · cases hcan : b.canStoreItem W ⟨nullBag, nullSlot⟩ it false with
      | none => exact h.mail (by decide) hoff
      | some dest => exact h.restore (by decide) hoff hcan

theorem Displaces.foldl {α : Type} {l : List α} {step : Belongings → α → Belongings} (h : b.Sound W)
    (hstep : ∀ {b : Belongings} a, b.Sound W → b.Displaces W (step b a)) : b.Displaces W (l.foldl step b) := by
  induction l generalizing b with
  | nil => exact Displaces.refl h
  | cons a rest ih => exact (hstep a h).trans (ih (hstep a h).sound)

theorem Sound.unlearn (h : b.Sound W) (C : SpecChange) : b.Displaces W (b.unlearn W C) := by
  unfold Belongings.unlearn
  by_cases hcheck : C.offhandCheckAtSpellUnlearn = true
  · rw [if_pos hcheck]
    refine Displaces.foldl h fun hands h => ?_
    have hsound : Sound (W.wielding hands) _ := sound_wielding.2 h
    have hstep := hsound.autoUnequip false
    exact ⟨sound_wielding.1 hstep.sound, hstep.units, hstep.worn, hstep.mails⟩
  · rw [if_neg hcheck]
    exact Displaces.refl h

/-! ## The trinkets -/

theorem Sound.unequipBauble {healing : Bool} (h : b.Sound W) (hslot : slot.val < 19)
    (hfits : b.fits W healing slot = true) : b.Displaces W (b.unequipBauble W healing slot) := by
  unfold fits at hfits
  unfold Belongings.unequipBauble
  cases hit : b.getItemByPos W ⟨bag0, slot⟩ with
  | none => exact Displaces.refl h
  | some it =>
    rw [hit] at hfits
    dsimp only at hfits ⊢
    by_cases hgoes : ¬ healing = true ∧ isBauble it.entry = true
    · rw [if_pos hgoes]
      cases hcan : b.canStoreItem W ⟨nullBag, nullSlot⟩ it false with
      | none =>
        rw [hcan, Bool.eq_false_iff.2 hgoes.1, hgoes.2] at hfits
        cases hfits
      | some dest => exact h.restore hslot hit hcan
    · rw [if_neg hgoes]
      exact Displaces.refl h

def Spoiled (b : Belongings) : Prop := ∃ m ∈ b.mailed, m.guid ∈ b.destroyed

theorem Sound.not_spoiled (h : b.Sound W) : ¬ b.Spoiled := fun ⟨_, hm, hgone⟩ => h.alive hm hgone

theorem spoiled_of_not_fits {healing : Bool} (hfits : ¬ b.fits W healing slot = true) :
    (b.unequipBauble W healing slot).Spoiled := by
  unfold fits at hfits
  unfold Belongings.unequipBauble
  cases hit : b.getItemByPos W ⟨bag0, slot⟩ with
  | none =>
    rw [hit] at hfits
    exact absurd rfl hfits
  | some it =>
    rw [hit] at hfits
    simp only [Bool.or_eq_true, Bool.not_eq_true', not_or, Bool.not_eq_false] at hfits
    obtain ⟨⟨hhealing, hbauble⟩, hcan⟩ := hfits
    dsimp only
    rw [if_pos ⟨hhealing, hbauble⟩, Option.not_isSome_iff_eq_none.1 hcan]
    refine ⟨it, ?_, mem_cons_self ..⟩
    rw [destroyItem_mailed]
    exact mem_cons_self ..

theorem Spoiled.unequipBauble {healing : Bool} (h : b.Spoiled) : (b.unequipBauble W healing slot).Spoiled := by
  obtain ⟨m, hm, hgone⟩ := h
  unfold Belongings.unequipBauble
  split
  · exact ⟨m, hm, hgone⟩
  · split
    · split
      · refine ⟨m, ?_, hgone⟩
        change m ∈ (storeItem W _ _ _).mailed
        rw [storeItem_mailed, removeItem_mailed]
        exact hm
      · refine ⟨m, ?_, mem_cons_of_mem _ hgone⟩
        rw [destroyItem_mailed]
        exact mem_cons_of_mem _ hm
    · exact ⟨m, hm, hgone⟩

/-- **Forced unequips lose no item exactly when every bauble that must go can be stored.** The item of the
off-hand is always stored or mailed; a bauble without space is mailed and destroyed. -/
theorem forced_unequips_iff (h : b.Sound W) :
    (∀ force, b.Displaces W (b.autoUnequipOffhandIfNeed W force)) ∧
    ∀ C spec, b.Displaces W (b.activateSpec W C spec) ↔ b.baublesFit W C spec = true := by
  refine ⟨h.autoUnequip, fun C spec => ?_⟩
  unfold activateSpec baublesFit
  by_cases hsame : C.activeSpec = spec
  · rw [if_pos hsame, decide_eq_true hsame]
    exact iff_of_true (Displaces.refl h) rfl
  by_cases hmany : C.specsCount < spec
  · rw [if_neg hsame, if_pos hmany, decide_eq_true hmany]
    exact iff_of_true (Displaces.refl h) (by simp)
  rw [if_neg hsame, if_neg hmany, decide_eq_false hsame, decide_eq_false hmany, Bool.false_or, Bool.false_or]
  have hunlearn := h.unlearn C
  cases hrule : C.healerOnlyBauble with
  | false => exact iff_of_true hunlearn rfl
  | true =>
    rw [Bool.not_true, Bool.false_or, Bool.and_eq_true]
    by_cases hfirst : (b.unlearn W C).fits W C.isHealingSpec trinket1 = true
    · have hone := hunlearn.trans (hunlearn.sound.unequipBauble (by decide) hfirst)
      by_cases hsecond : ((b.unlearn W C).unequipBauble W C.isHealingSpec trinket1).fits W C.isHealingSpec
          trinket2 = true
      · exact iff_of_true (hone.trans (hone.sound.unequipBauble (by decide) hsecond)) ⟨hfirst, hsecond⟩
      · exact iff_of_false (fun hall => hall.sound.not_spoiled (spoiled_of_not_fits hsecond))
          fun hboth => hsecond hboth.2
    · exact iff_of_false (fun hall => hall.sound.not_spoiled (spoiled_of_not_fits hfirst).unequipBauble)
        fun hboth => hfirst hboth.1

/-! ## A bauble that must go -/

def plainRules : Rules := { Rules.lax with gear := fun _ => .trinket }

def toDamage : SpecChange where
  activeSpec := 0
  specsCount := 2
  offhandCheckAtSpellUnlearn := true
  hands := []
  healerOnlyBauble := true
  isHealingSpec := false

def baubled : Belongings where
  toInventory :=
    { empty 1 with
      slots := update (empty 1).slots ⟨false, bag0, trinket1⟩ (some ⟨0, 50354, 1⟩)
      own := update (empty 1).own 0 (none, trinket1) }
  destroyed := []

theorem sound_baubled : baubled.Sound plainRules where
  wellKept := @Inventory.WellKept.putTop plainRules _ ⟨0, 50354, 1⟩ (wellKept_empty 1) trinket1
    (by decide) rfl (nomatch ·) (by decide) (by decide)
  nodup := nodup_nil
  posted hm := nomatch hm
  alive hm := nomatch hm
  intact _ := not_mem_nil
  given hg := nomatch hg

theorem forced_unequips_baubled : baubled.Displaces plainRules (baubled.activateSpec plainRules toDamage 1) :=
  ((forced_unequips_iff sound_baubled).2 toDamage 1).2 (by decide +kernel)

def laden : Belongings where
  toInventory :=
    { empty 17 with
      slots := fun q =>
        if q.isBank = false ∧ q.container = bag0 ∧ q.slot = trinket1 then some ⟨0, 50354, 1⟩
        else if q.isBank = false ∧ q.container = bag0 ∧ 23 ≤ q.slot.val ∧ q.slot.val < 39 then
          some ⟨q.slot.val - 22, 1, 1⟩
        else none
      own := fun guid => (none, if guid = 0 then trinket1 else Fin.ofNat 256 (guid + 22)) }
  destroyed := []

/-- The backpack is full: the bauble is mailed, and then destroyed. -/
theorem bauble_mailed_and_destroyed :
    laden.getItemByPos plainRules ⟨bag0, trinket1⟩ = some ⟨0, 50354, 1⟩ ∧
      (laden.activateSpec plainRules toDamage 1).mailed = [⟨0, 50354, 1⟩] ∧
      (laden.activateSpec plainRules toDamage 1).destroyed = [0] ∧
      (laden.activateSpec plainRules toDamage 1).getItemByPos plainRules ⟨bag0, trinket1⟩ = none := by
  decide +kernel

end Belongings

end Axium.Player
