import Axium.Player.OffHand

/-!
# A refused equip

`CanEquipItem` is asked before an item is worn, and the search for its slot can send the item of the off-hand
away before the checks that follow refuse. Here is when it does, and what is left of the inventory after a
`SwapItem` or an auto-equip that ends in `SendEquipError`.
-/

namespace Axium.Player

open Guilds Stacks Function Vault Option

namespace Inventory

section definitions

variable (W : Rules) (inv : Inventory)

/-- The checks of `CanEquipItem` before the search for a slot pass. -/
def reachesSearch (it : Item) : Bool :=
  !W.lootGenerated it && !W.isBindedNotWith it &&
  (W.canTakeMoreSimilarItems inv.toVault it.entry it.count it).1 = .ok && W.mayEquipNow it

/-- The search for a slot takes an item out of the off-hand. -/
def displacesOffhand (it : Item) : Bool :=
  inv.reachesSearch W it && inv.unequipsOffhand W it && (inv.getItemByPos W ⟨bag0, offhand⟩).isSome

def acceptsTwoHand (slot : Byte) (it : Item) (swap : Bool) : Bool :=
  (slot = nullSlot || slot = mainhand) && (swap || (inv.getItemByPos W ⟨bag0, mainhand⟩).isNone) &&
  W.canUseItem it &&
  W.canEquipUniqueItem (inv.autoUnequipOffhandIfNeed W true).toVault it (if swap then mainhand else nullSlot) &&
  !inv.otherQuiver W it mainhand swap && W.mayWear it

/-! ## Requests that end in an error

Each of these follows the request of the same name: whether it ends in `SendEquipError`, or whether one of
the checks that it comes to takes an item out of the off-hand. -/

def asksOffhand (p : Pos) (it : Item) : Bool := isEquipmentPos p && inv.displacesOffhand W it

/-- The checks of `SwapItem` before it looks for space. -/
def swapChecks (src dst : Pos) (s : Item) (d : Option Item) : Bool :=
  ¬ (¬ W.isAlive ∨ W.lootGenerated s) ∧
  ¬ ((isEquipmentPos src ∨ isBagPos src.bag src.slot) ∧
    ¬ inv.canUnequipItem W src
      (!isBagPos src.bag src.slot || isBagPos dst.bag dst.slot || d.any (inv.isEmptyBag W))) ∧
  ¬ (isBagPos src.bag src.slot ∧ src.slot = dst.bag) ∧ ¬ (isBagPos dst.bag dst.slot ∧ src.bag = dst.slot) ∧
  d.all fun d =>
    ¬ W.lootGenerated d ∧
    ¬ ((isEquipmentPos dst ∨ isBagPos dst.bag dst.slot) ∧
      ¬ inv.canUnequipItem W dst
        (!isBagPos dst.bag dst.slot || isBagPos src.bag src.slot || inv.isEmptyBag W s))

def moveItemFails (dst : Pos) (it : Item) : Bool :=
  if isInventoryPos dst then (inv.canStoreItem W dst it false).isNone
  else if isBankPos dst then (inv.canBankItem W dst it false).isNone
  else if isEquipmentPos dst then (inv.canEquipItem W dst.slot it false).1.isNone
  else false

def realSwapFails (src dst : Pos) (s d : Item) : Bool :=
  match inv.canPlace W dst (inv.deref s) with
  | (none, _) => true
  | (some _, inv) =>
    match inv.canPlace W src (inv.deref d) with
    | (none, _) => true
    | (some _, inv) => (inv.swapBagItems W src dst (inv.deref s) (inv.deref d)).isNone

def swapWithFails (src dst : Pos) (s d : Item) : Bool :=
  if (W.template s.entry).isBag ∨ (W.template d.entry).isBag then inv.realSwapFails W src dst s d
  else match inv.canMerge W dst s with
    | (some _, _) => false
    | (none, inv) => inv.realSwapFails W src dst s d

/-- `SwapItem` ends in `SendEquipError`. -/
def swapItemFails (src dst : Pos) : Bool :=
  match inv.getItemByPos W src with
  | none => false
  | some s =>
    let d := inv.getItemByPos W dst
    !inv.swapChecks W src dst s d ||
      match d with
      | none => inv.moveItemFails W dst s
      | some d => inv.swapWithFails W src dst s d

def swapAsksOffhand (src dst : Pos) (s d : Item) : Bool :=
  inv.asksOffhand W dst s || (inv.canPlace W dst s).1.isSome && inv.asksOffhand W src d

/-- A check that `SwapItem` comes to takes an item out of the off-hand. -/
def swapItemAsksOffhand (src dst : Pos) : Bool :=
  match inv.getItemByPos W src with
  | none => false
  | some s =>
    let d := inv.getItemByPos W dst
    inv.swapChecks W src dst s d &&
      match d with
      | none => inv.asksOffhand W dst s
      | some d => inv.swapAsksOffhand W src dst s d

/-- `HandleAutoEquipItemOpcode` ends in `SendEquipError`. -/
def autoEquipFails (p : Pos) : Bool :=
  match inv.getItemByPos W p with
  | none => false
  | some s =>
    let isBag := (W.template s.entry).isBag
    match inv.canEquipItem W nullSlot s (!isBag) with
    | (none, _) => true
    | (some dest, inv) =>
      if inv.getPos s.guid = ⟨bag0, dest⟩ then false
      else match inv.getItemByPos W ⟨bag0, dest⟩ with
        | none => false
        | some d =>
          !inv.canUnequipItem W ⟨bag0, dest⟩ (!isBag) ||
            (inv.canPlaceBack W (inv.getPos s.guid) p d).1.isNone

def autoEquipAsksOffhand (p : Pos) : Bool :=
  match inv.getItemByPos W p with
  | none => false
  | some s =>
    let isBag := (W.template s.entry).isBag
    inv.displacesOffhand W s ||
      (inv.canEquipItem W nullSlot s (!isBag)).1.any fun dest =>
        inv.getPos s.guid ≠ ⟨bag0, dest⟩ && inv.canUnequipItem W ⟨bag0, dest⟩ (!isBag) &&
          (inv.getItemByPos W ⟨bag0, dest⟩).any (inv.asksOffhand W (inv.getPos s.guid))

end definitions

variable {W : Rules} {inv : Inventory} {it s d : Item} {slot : Byte} {p src dst : Pos} {swap : Bool}

/-! ## What the question costs -/

theorem reachesSearch_iff : inv.reachesSearch W it = true ↔
    ¬ ((W.realm inv.toVault).lootGenerated it = true ∨ (W.realm inv.toVault).isBindedNotWith it = true ∨
      ((W.realm inv.toVault).canTakeMoreSimilarItems it.entry it.count it).1 ≠ .ok ∨
      ¬ W.mayEquipNow it = true) := by
  unfold reachesSearch Rules.realm
  simp only [Bool.and_eq_true, Bool.not_eq_true', decide_eq_true_eq, not_or, not_not, Bool.not_eq_true,
    Bool.not_eq_false, and_assoc]

theorem equipSlots_snd : (inv.equipSlots W it).2 =
    if inv.unequipsOffhand W it then inv.autoUnequipOffhandIfNeed W true else inv := by
  unfold equipSlots
  split
  · rfl
  · split
    · rfl
    · rfl

theorem findEquipSlot_snd : (inv.findEquipSlot W it slot swap).2 = (inv.equipSlots W it).2 := by
  unfold findEquipSlot
  cases inv.equipSlots W it with
  | mk l inv' =>
    dsimp only
    split
    · rfl
    · split
      · rfl
      · rfl

theorem canEquipItem_snd : (inv.canEquipItem W slot it swap).2 =
    if inv.displacesOffhand W it then inv.autoUnequipOffhandIfNeed W true else inv := by
  have hfree : ¬ inv.displacesOffhand W it = true → inv.reachesSearch W it = true →
      (inv.equipSlots W it).2 = inv := by
    intro hnot hreach
    rw [equipSlots_snd]
    by_cases hun : inv.unequipsOffhand W it = true
    · rw [if_pos hun]
      apply autoUnequip_of_free
      unfold displacesOffhand at hnot
      rw [hreach, hun] at hnot
      simpa using hnot
    · rw [if_neg hun]
  have htaken : inv.displacesOffhand W it = true → inv.reachesSearch W it = true ∧
      (inv.equipSlots W it).2 = inv.autoUnequipOffhandIfNeed W true := by
    intro hdisp
    unfold displacesOffhand at hdisp
    rw [Bool.and_eq_true, Bool.and_eq_true] at hdisp
    rw [equipSlots_snd, if_pos hdisp.1.2]
    exact ⟨hdisp.1.1, rfl⟩
  have hsnd : (inv.canEquipItem W slot it swap).2 =
      if inv.reachesSearch W it = true then (inv.equipSlots W it).2 else inv := by
    unfold canEquipItem
    by_cases hreach : inv.reachesSearch W it = true
    · rw [if_pos hreach, if_neg (reachesSearch_iff.1 hreach), apply_ite Prod.snd, ite_self]
      exact findEquipSlot_snd
    · rw [if_neg hreach, if_pos (not_not.1 (fun h => hreach (reachesSearch_iff.2 h)))]
  rw [hsnd]
  by_cases hdisp : inv.displacesOffhand W it = true
  · rw [if_pos hdisp, if_pos (htaken hdisp).1, (htaken hdisp).2]
  · rw [if_neg hdisp]
    by_cases hreach : inv.reachesSearch W it = true
    · rw [if_pos hreach, hfree hdisp hreach]
    · rw [if_neg hreach]

theorem canEquipItem_snd_eq_iff :
    (inv.canEquipItem W slot it swap).2 = inv ↔ ¬ inv.displacesOffhand W it = true := by
  rw [canEquipItem_snd]
  by_cases hdisp : inv.displacesOffhand W it = true
  · rw [if_pos hdisp, autoUnequip_eq_iff]
    refine ⟨fun hfree => ?_, fun hnot => absurd hdisp hnot⟩
    unfold displacesOffhand at hdisp
    rw [hfree, Bool.and_eq_true] at hdisp
    cases hdisp.2
  · rw [if_neg hdisp]
    exact ⟨fun _ => hdisp, fun _ => rfl⟩

/-! ## The answer with the off-hand empty -/

theorem mainhand_autoUnequip :
    (inv.autoUnequipOffhandIfNeed W true).getItemByPos W ⟨bag0, mainhand⟩ = inv.getItemByPos W ⟨bag0, mainhand⟩ := by
  rw [getItemByPos_top (by decide), autoUnequip_worn (by decide)]
  exact if_neg (by decide)

theorem findEquipSlot_fst (hun : inv.unequipsOffhand W it = true) : (inv.findEquipSlot W it slot swap).1 =
    if (slot = nullSlot ∨ slot = mainhand) ∧
      (swap = true ∨ (inv.getItemByPos W ⟨bag0, mainhand⟩).isNone = true) then mainhand else nullSlot := by
  unfold findEquipSlot equipSlots
  rw [if_pos hun]
  dsimp only
  by_cases hnull : slot = nullSlot
  · subst hnull
    rw [if_neg (not_not.2 rfl)]
    have hfind : [mainhand].find? (fun s =>
        ((inv.autoUnequipOffhandIfNeed W true).getItemByPos W ⟨bag0, s⟩).isNone &&
          (s ≠ offhand || !(inv.autoUnequipOffhandIfNeed W true).isTwoHandUsed W)) =
        if (inv.getItemByPos W ⟨bag0, mainhand⟩).isNone = true then some mainhand else none := by
      rw [List.find?_cons, mainhand_autoUnequip]
      cases inv.getItemByPos W ⟨bag0, mainhand⟩ with
      | none => rfl
      | some t => rfl
    rw [hfind]
    by_cases hfree : (inv.getItemByPos W ⟨bag0, mainhand⟩).isNone = true
    · rw [if_pos hfree, if_pos (And.intro (Or.inl rfl) (Or.inr hfree))]
    · rw [if_neg hfree]
      cases swap with
      | true => rfl
      | false => rw [if_neg Bool.false_ne_true, if_neg (fun h => h.2.elim Bool.false_ne_true hfree)]
  · rw [if_pos hnull]
    by_cases hslot : slot = mainhand
    · subst hslot
      simp only [mainhand_autoUnequip, List.mem_singleton, and_true, or_true, true_and]
    · rw [if_neg (fun h => hslot (List.mem_singleton.1 h.2)), if_neg (fun h => h.1.elim hnull hslot)]

theorem otherQuiver_autoUnequip :
    (inv.autoUnequipOffhandIfNeed W true).otherQuiver W it slot swap = inv.otherQuiver W it slot swap := by
  have hbags : ∀ i ∈ inventoryBags, (inv.autoUnequipOffhandIfNeed W true).getItemByPos W ⟨bag0, i⟩ =
      inv.getItemByPos W ⟨bag0, i⟩ := by
    intro i hi
    have hlt : ∀ b ∈ inventoryBags, b.val < 23 := by simp [inventoryBags]
    have hne : ∀ b ∈ inventoryBags, b ≠ offhand := by simp [inventoryBags, offhand]
    rw [getItemByPos_top (lt_trans (hlt i hi) (by decide)),
      getItemByPos_top (lt_trans (hlt i hi) (by decide)), autoUnequip_worn (hlt i hi)]
    exact if_neg (hne i hi)
  refine congrArg (fun b : Bool => decide ((W.template it.entry).itemClass = 11 ∧ b = true)) ?_
  rw [Bool.eq_iff_iff, List.any_eq_true, List.any_eq_true]
  refine exists_congr fun i => and_congr_right fun hi => ?_
  rw [hbags i hi]

theorem mayHoldTwoHand_autoUnequip : (inv.autoUnequipOffhandIfNeed W true).mayHoldTwoHand W mainhand = true := by
  unfold mayHoldTwoHand
  rw [autoUnequip_offhand, if_neg (by decide), Bool.or_true, Bool.and_true]
  exact decide_eq_true rfl

theorem acceptsTwoHand_iff : inv.acceptsTwoHand W slot it swap = true ↔
    ((slot = nullSlot ∨ slot = mainhand) ∧
      (swap = true ∨ (inv.getItemByPos W ⟨bag0, mainhand⟩).isNone = true)) ∧
    W.canUseItem it = true ∧
    W.canEquipUniqueItem (inv.autoUnequipOffhandIfNeed W true).toVault it
      (if swap then mainhand else nullSlot) = true ∧
    ¬ inv.otherQuiver W it mainhand swap = true ∧ W.mayWear it = true := by
  unfold acceptsTwoHand
  simp only [Bool.and_eq_true, Bool.or_eq_true, Bool.not_eq_true', decide_eq_true_eq, Bool.not_eq_true,
    and_assoc]

theorem canEquipItem_fst (hdisp : inv.displacesOffhand W it = true) :
    (inv.canEquipItem W slot it swap).1 = none ↔ ¬ inv.acceptsTwoHand W slot it swap = true := by
  unfold displacesOffhand at hdisp
  rw [Bool.and_eq_true, Bool.and_eq_true] at hdisp
  obtain ⟨⟨hreach, hun⟩, -⟩ := hdisp
  have hsnd : (inv.findEquipSlot W it slot swap).2 = inv.autoUnequipOffhandIfNeed W true := by
    rw [findEquipSlot_snd, equipSlots_snd, if_pos hun]
  have hne : mainhand ≠ nullSlot := by decide
  have hoff : mainhand ≠ offhand := by decide
  unfold canEquipItem
  dsimp only
  rw [if_neg (reachesSearch_iff.1 hreach), findEquipSlot_fst hun, hsnd]
  by_cases hslot : (slot = nullSlot ∨ slot = mainhand) ∧
      (swap = true ∨ (inv.getItemByPos W ⟨bag0, mainhand⟩).isNone = true)
  · rw [if_pos hslot]
    have hfree : ¬ (¬ swap = true ∧ (inv.getItemByPos W ⟨bag0, mainhand⟩).isSome = true) := by
      rintro ⟨hswap, hsome⟩
      have hnone := hslot.2.resolve_left hswap
      rw [isNone_iff_eq_none] at hnone
      rw [hnone] at hsome
      cases hsome
    by_cases haccepts : inv.acceptsTwoHand W slot it swap = true
    · obtain ⟨-, huse, hunique, hquiver, hwear⟩ := acceptsTwoHand_iff.1 haccepts
      rw [if_neg]
      · exact iff_of_false (some_ne_none _) (not_not.2 haccepts)
      · rintro (hnull | hno | htaken | hno | hno | ⟨heq, -⟩ | ⟨-, hno⟩ | hno)
        · exact hne hnull
        · exact hno huse
        · rw [mainhand_autoUnequip] at htaken
          exact hfree htaken
        · exact hno hunique
        · rw [otherQuiver_autoUnequip] at hno
          exact hquiver hno
        · exact hoff heq
        · exact hno mayHoldTwoHand_autoUnequip
        · exact hno hwear
    · refine iff_of_true ?_ haccepts
      rw [if_pos]
      by_contra hnone
      simp only [not_or, not_not] at hnone
      obtain ⟨-, huse, -, hunique, hquiver, -, -, hwear⟩ := hnone
      rw [otherQuiver_autoUnequip] at hquiver
      exact haccepts (acceptsTwoHand_iff.2 ⟨hslot, huse, hunique, hquiver, hwear⟩)
  · rw [if_neg hslot]
    exact iff_of_true rfl fun haccepts => hslot (acceptsTwoHand_iff.1 haccepts).1

theorem canEquipItem_refused_iff :
    ((inv.canEquipItem W slot it swap).1 = none → (inv.canEquipItem W slot it swap).2 = inv) ↔
      (inv.displacesOffhand W it = true → inv.acceptsTwoHand W slot it swap = true) := by
  rw [canEquipItem_snd_eq_iff]
  by_cases hdisp : inv.displacesOffhand W it = true
  · rw [canEquipItem_fst hdisp]
    exact ⟨fun h _ => not_not.1 fun hno => h hno hdisp, fun h hno => absurd (h hdisp) hno⟩
  · exact ⟨fun _ h => absurd h hdisp, fun _ _ => hdisp⟩

/-! ## The questions of the requests -/

theorem isEquipmentPos_not (hp : isEquipmentPos p = true) : ¬ isInventoryPos p = true ∧ ¬ isBankPos p = true := by
  unfold isEquipmentPos inventoryBags at hp
  unfold isInventoryPos isBankPos inventoryBags bankBags
  simp only [decide_eq_true_eq, bag0, nullSlot, List.mem_cons, List.not_mem_nil, or_false, Fin.ext_iff,
    Fin.isValue, Fin.coe_ofNat_eq_mod, Nat.mod_succ, Nat.reduceMod] at hp ⊢
  omega

def asked (W : Rules) (inv : Inventory) (asks : Bool) : Inventory :=
  if asks then inv.autoUnequipOffhandIfNeed W true else inv

theorem taken_of_displaces (hdisp : inv.displacesOffhand W it = true) :
    inv.getItemByPos W ⟨bag0, offhand⟩ ≠ none := by
  intro hfree
  unfold displacesOffhand at hdisp
  rw [hfree, Bool.and_eq_true] at hdisp
  cases hdisp.2

theorem taken_of_asks (hasks : inv.asksOffhand W p it = true) : inv.getItemByPos W ⟨bag0, offhand⟩ ≠ none :=
  taken_of_displaces (Bool.and_eq_true_iff.1 hasks).2

theorem asked_eq_iff {asks : Bool} (htaken : asks = true → inv.getItemByPos W ⟨bag0, offhand⟩ ≠ none) :
    inv.asked W asks = inv ↔ ¬ asks = true := by
  unfold asked
  cases asks with
  | true =>
    rw [if_pos rfl, autoUnequip_eq_iff]
    exact iff_of_false (htaken rfl) (not_not.2 rfl)
  | false => exact iff_of_true rfl Bool.false_ne_true

theorem asksOffhand_autoUnequip : (inv.autoUnequipOffhandIfNeed W true).asksOffhand W p it = false := by
  unfold asksOffhand displacesOffhand
  rw [autoUnequip_offhand, isSome_none, Bool.and_false, Bool.and_false]

theorem asked_asksOffhand {asks : Bool} :
    (inv.asked W asks).asked W ((inv.asked W asks).asksOffhand W p it) =
      inv.asked W (asks || inv.asksOffhand W p it) := by
  cases asks with
  | true =>
    change (inv.autoUnequipOffhandIfNeed W true).asked W
      ((inv.autoUnequipOffhandIfNeed W true).asksOffhand W p it) = _
    rw [asksOffhand_autoUnequip]
    rfl
  | false => rfl

theorem asked_of_equipment (hp : isEquipmentPos p = true) {slot : Byte} {swap : Bool} :
    inv.asked W (inv.asksOffhand W p it) = (inv.canEquipItem W slot it swap).2 := by
  unfold asked asksOffhand
  rw [hp, Bool.true_and, canEquipItem_snd]

theorem asked_of_not_equipment (hp : ¬ isEquipmentPos p = true) : inv.asked W (inv.asksOffhand W p it) = inv := by
  unfold asked asksOffhand
  rw [Bool.not_eq_true _ |>.mp hp, Bool.false_and, if_neg Bool.false_ne_true]

theorem canPlace_snd : (inv.canPlace W p it).2 = inv.asked W (inv.asksOffhand W p it) := by
  unfold canPlace
  by_cases hp : isEquipmentPos p = true
  · rw [if_neg (isEquipmentPos_not hp).1, if_neg (isEquipmentPos_not hp).2, if_pos hp, asked_of_equipment hp]
    rcases inv.canEquipItem W p.slot it true with ⟨_ | eslot, inv'⟩
    · rfl
    · rfl
  · rw [asked_of_not_equipment hp]
    split_ifs <;> rfl

theorem canMerge_snd : (inv.canMerge W p it).2 = inv.asked W (inv.asksOffhand W p it) := by
  unfold canMerge
  by_cases hp : isEquipmentPos p = true
  · rw [if_neg (isEquipmentPos_not hp).1, if_neg (isEquipmentPos_not hp).2, if_pos hp, asked_of_equipment hp]
  · rw [asked_of_not_equipment hp]
    split_ifs <;> rfl

theorem canPlaceBack_snd {q : Pos} : (inv.canPlaceBack W p q it).2 = inv.asked W (inv.asksOffhand W p it) := by
  unfold canPlaceBack
  by_cases hp : isEquipmentPos p = true
  · rw [if_neg (isEquipmentPos_not hp).1, if_neg (isEquipmentPos_not hp).2, if_pos hp, asked_of_equipment hp]
    rcases inv.canEquipItem W q.slot it true with ⟨_ | eslot, inv'⟩
    · rfl
    · rfl
  · rw [asked_of_not_equipment hp]
    split_ifs <;> rfl

theorem moveItem_of_fails (hfails : inv.moveItemFails W dst it = true) :
    inv.moveItem W src dst it = inv.asked W (inv.asksOffhand W dst it) := by
  unfold moveItemFails at hfails
  unfold moveItem asked asksOffhand
  by_cases hp : isEquipmentPos dst = true
  · rw [if_neg (isEquipmentPos_not hp).1, if_neg (isEquipmentPos_not hp).2, if_pos hp] at hfails ⊢
    rw [hp, Bool.true_and, ← @canEquipItem_snd W inv it dst.slot false]
    rcases hcan : inv.canEquipItem W dst.slot it false with ⟨_ | eslot, inv'⟩
    · rfl
    · rw [hcan] at hfails
      cases hfails
  · rw [if_neg hp, Bool.not_eq_true _ |>.mp hp, Bool.false_and, if_neg Bool.false_ne_true]
    by_cases hinv : isInventoryPos dst = true
    · rw [if_pos hinv] at hfails ⊢
      rw [isNone_iff_eq_none.1 hfails]
    · rw [if_neg hinv] at hfails ⊢
      by_cases hbank : isBankPos dst = true
      · rw [if_pos hbank] at hfails ⊢
        rw [isNone_iff_eq_none.1 hfails]
      · rw [if_neg hbank]

theorem realSwap_of_fails (hfails : inv.realSwapFails W src dst s d = true) :
    inv.realSwap W src dst s d =
      inv.asked W (inv.asksOffhand W dst (inv.deref s) || ((inv.canPlace W dst (inv.deref s)).1.isSome &&
          inv.asksOffhand W src ((inv.asked W (inv.asksOffhand W dst (inv.deref s))).deref d))) := by
  have hfirst := @canPlace_snd W inv (inv.deref s) dst
  unfold realSwapFails at hfails
  unfold realSwap
  rcases hcan : inv.canPlace W dst (inv.deref s) with ⟨_ | toDst, inv₁⟩
  · rw [hcan] at hfirst
    dsimp only at hfirst ⊢
    rw [hfirst, isSome_none, Bool.false_and, Bool.or_false]
  · rw [hcan] at hfirst hfails
    dsimp only at hfirst hfails ⊢
    rw [isSome_some, Bool.true_and, ← asked_asksOffhand, ← hfirst]
    have hsecond := @canPlace_snd W inv₁ (inv₁.deref d) src
    rcases hback : inv₁.canPlace W src (inv₁.deref d) with ⟨_ | toSrc, inv₂⟩
    · rw [hback] at hsecond
      exact hsecond
    · rw [hback] at hsecond hfails
      dsimp only at hsecond hfails ⊢
      rw [isNone_iff_eq_none.1 hfails]
      exact hsecond

theorem realSwap_of_fails_kept (hs : inv.deref s = s) (hd : inv.deref d = d)
    (hfails : inv.realSwapFails W src dst s d = true) :
    inv.realSwap W src dst s d = inv.asked W (inv.swapAsksOffhand W src dst s d) := by
  rw [realSwap_of_fails hfails, hs]
  unfold swapAsksOffhand
  cases hask : inv.asksOffhand W dst s with
  | true => rfl
  | false =>
    change inv.asked W (false || (_ && inv.asksOffhand W src (inv.deref d))) = _
    rw [hd]

theorem swapWith_of_fails (hs : inv.deref s = s) (hd : inv.deref d = d)
    (hfails : inv.swapWithFails W src dst s d = true) :
    inv.swapWith W src dst s d = inv.asked W (inv.swapAsksOffhand W src dst s d) := by
  unfold swapWithFails at hfails
  unfold swapWith
  by_cases hbag : (W.template s.entry).isBag = true ∨ (W.template d.entry).isBag = true
  · rw [if_pos hbag] at hfails ⊢
    exact realSwap_of_fails_kept hs hd hfails
  · rw [if_neg hbag] at hfails ⊢
    have hmerge := @canMerge_snd W inv s dst
    rcases hcan : inv.canMerge W dst s with ⟨_ | target, inv'⟩
    · rw [hcan] at hmerge hfails
      dsimp only at hmerge hfails ⊢
      cases hask : inv.asksOffhand W dst s with
      | true =>
        -- the off-hand is empty now, and the swap does not come to it again
        have hauto : inv' = inv.autoUnequipOffhandIfNeed W true := by
          rw [hmerge, hask]
          rfl
        rw [realSwap_of_fails hfails, hauto]
        unfold swapAsksOffhand
        rw [asksOffhand_autoUnequip, asksOffhand_autoUnequip, hask, Bool.and_false]
        rfl
      | false =>
        have hsame : inv' = inv := by
          rw [hmerge, hask]
          rfl
        rw [hsame] at hfails ⊢
        exact realSwap_of_fails_kept hs hd hfails
    · rw [hcan] at hfails
      cases hfails

theorem swapItem_eq (src dst : Pos) :
    inv.swapItem W src dst =
      match inv.getItemByPos W src with
      | none => inv
      | some s =>
        if inv.swapChecks W src dst s (inv.getItemByPos W dst) then
          match inv.getItemByPos W dst with
          | none => inv.moveItem W src dst s
          | some d => inv.swapWith W src dst s d
        else inv := by
  unfold swapItem
  cases inv.getItemByPos W src with
  | none => rfl
  | some s =>
    dsimp only
    by_cases hchecks : inv.swapChecks W src dst s (inv.getItemByPos W dst) = true
    · rw [if_pos hchecks]
      obtain ⟨hdead, hun, hself, hinside, hother⟩ := of_decide_eq_true hchecks
      rw [if_neg hdead, if_neg hun, if_neg hself, if_neg hinside]
      cases hd : inv.getItemByPos W dst with
      | none => rfl
      | some d =>
        rw [hd] at hother
        obtain ⟨hloot, hun'⟩ := of_decide_eq_true hother
        dsimp only
        rw [if_neg hloot, if_neg hun']
    · rw [if_neg hchecks]
      unfold swapChecks at hchecks
      rw [decide_eq_true_eq] at hchecks
      cases hd : inv.getItemByPos W dst with
      | none =>
        rw [hd] at hchecks
        split_ifs with hdead hun hself hinside
        all_goals first | rfl | exact absurd ⟨hdead, hun, hself, hinside, rfl⟩ hchecks
      | some d =>
        rw [hd] at hchecks
        dsimp only
        split_ifs with hdead hun hself hinside hloot hun'
        all_goals first
          | rfl
          | exact absurd ⟨hdead, hun, hself, hinside, decide_eq_true ⟨hloot, hun'⟩⟩ hchecks

theorem swapItem_of_fails (h : WellKept W inv) (hfails : inv.swapItemFails W src dst = true) :
    inv.swapItem W src dst = inv.asked W (inv.swapItemAsksOffhand W src dst) := by
  have hderef : ∀ {p it}, inv.getItemByPos W p = some it → inv.deref it = it := by
    intro p it hp
    obtain ⟨hvis, hslots⟩ := getItemByPos_some hp
    exact h.deref_eq hslots (not_inBuyback_of_visible hvis rfl)
  rw [swapItem_eq]
  unfold swapItemFails at hfails
  unfold swapItemAsksOffhand
  cases hs : inv.getItemByPos W src with
  | none =>
    rw [hs] at hfails
    cases hfails
  | some s =>
    rw [hs] at hfails
    dsimp only at hfails ⊢
    cases hchecks : inv.swapChecks W src dst s (inv.getItemByPos W dst) with
    | false => rfl
    | true =>
      rw [hchecks, Bool.not_true] at hfails
      cases hd : inv.getItemByPos W dst with
      | none =>
        rw [hd] at hfails
        exact moveItem_of_fails hfails
      | some d =>
        rw [hd] at hfails
        exact swapWith_of_fails (hderef hs) (hderef hd) hfails

theorem swapItemAsksOffhand_taken (hasks : inv.swapItemAsksOffhand W src dst = true) :
    inv.getItemByPos W ⟨bag0, offhand⟩ ≠ none := by
  unfold swapItemAsksOffhand at hasks
  cases hs : inv.getItemByPos W src with
  | none =>
    rw [hs] at hasks
    cases hasks
  | some s =>
    rw [hs] at hasks
    have hmove := (Bool.and_eq_true_iff.1 hasks).2
    cases hd : inv.getItemByPos W dst with
    | none =>
      rw [hd] at hmove
      exact taken_of_asks hmove
    | some d =>
      rw [hd] at hmove
      rcases Bool.or_eq_true_iff.1 hmove with hfirst | hsecond
      · exact taken_of_asks hfirst
      · exact taken_of_asks (Bool.and_eq_true_iff.1 hsecond).2

theorem autoEquip_of_fails (hfails : inv.autoEquipFails W p = true) :
    inv.handleAutoEquipItem W p = inv.asked W (inv.autoEquipAsksOffhand W p) := by
  unfold autoEquipFails at hfails
  unfold handleAutoEquipItem autoEquipAsksOffhand
  cases hs : inv.getItemByPos W p with
  | none =>
    rw [hs] at hfails
    cases hfails
  | some s =>
    rw [hs] at hfails
    dsimp only at hfails ⊢
    have hsnd : (inv.canEquipItem W nullSlot s (!(W.template s.entry).isBag)).2 =
        inv.asked W (inv.displacesOffhand W s) := canEquipItem_snd
    rcases hcan : inv.canEquipItem W nullSlot s (!(W.template s.entry).isBag) with ⟨_ | dest, inv'⟩
    · rw [hcan] at hsnd
      dsimp only at hsnd ⊢
      rw [hsnd, any_none, Bool.or_false]
    · rw [hcan] at hsnd hfails
      dsimp only at hsnd hfails ⊢
      rw [any_some]
      by_cases hsame : inv'.getPos s.guid = ⟨bag0, dest⟩
      · rw [if_pos hsame] at hfails
        cases hfails
      rw [if_neg hsame] at hfails ⊢
      cases hd : inv'.getItemByPos W ⟨bag0, dest⟩ with
      | none =>
        rw [hd] at hfails
        cases hfails
      | some d =>
        rw [hd] at hfails
        dsimp only at hfails ⊢
        have hback := @canPlaceBack_snd W inv' d (inv'.getPos s.guid) p
        refine Eq.trans (b := inv'.asked W (inv'.canUnequipItem W ⟨bag0, dest⟩ (!(W.template s.entry).isBag) &&
            inv'.asksOffhand W (inv'.getPos s.guid) d)) ?_ ?_
        · cases hun : inv'.canUnequipItem W ⟨bag0, dest⟩ (!(W.template s.entry).isBag) with
          | false => rfl
          | true =>
            rw [hun, Bool.not_true] at hfails
            rcases hplace : inv'.canPlaceBack W (inv'.getPos s.guid) p d with ⟨_ | toSrc, inv''⟩
            · rw [hplace] at hback
              exact hback
            · rw [hplace] at hfails
              cases hfails
        cases hdisp : inv.displacesOffhand W s with
        | true =>
          -- the off-hand is empty now
          have hauto : inv' = inv.autoUnequipOffhandIfNeed W true := by
            rw [hsnd, hdisp]
            rfl
          rw [hauto, asksOffhand_autoUnequip, Bool.and_false]
          rfl
        | false =>
          have hkept : inv' = inv := by
            rw [hsnd, hdisp]
            rfl
          rw [hkept] at hsame hd ⊢
          rw [hd, decide_eq_true hsame]
          rfl

theorem autoEquipAsksOffhand_taken (hasks : inv.autoEquipAsksOffhand W p = true) :
    inv.getItemByPos W ⟨bag0, offhand⟩ ≠ none := by
  unfold autoEquipAsksOffhand at hasks
  cases hs : inv.getItemByPos W p with
  | none =>
    rw [hs] at hasks
    cases hasks
  | some s =>
    rw [hs] at hasks
    rcases Bool.or_eq_true_iff.1 hasks with hdisp | hback
    · exact taken_of_displaces hdisp
    · obtain ⟨dest, -, hdest⟩ := (any_eq_true ..).1 hback
      obtain ⟨d, -, hd⟩ := (any_eq_true ..).1 (Bool.and_eq_true_iff.1 hdest).2
      exact taken_of_asks hd

/-- **A refused equip changes nothing exactly when it takes nothing out of the off-hand.** `CanEquipItem`
does so when the item is a two-handed weapon that must not share the hands, and is right only when it then
accepts the item; a request that ends in an error leaves all items where they were exactly when none of the
questions it came to did so. -/
theorem refused_unchanged_iff :
    (∀ slot it swap, ((inv.canEquipItem W slot it swap).1 = none → (inv.canEquipItem W slot it swap).2 = inv) ↔
        (inv.displacesOffhand W it = true → inv.acceptsTwoHand W slot it swap = true)) ∧
    (WellKept W inv → ∀ src dst, inv.swapItemFails W src dst = true →
      (inv.swapItem W src dst = inv ↔ ¬ inv.swapItemAsksOffhand W src dst = true)) ∧
    (∀ p, inv.autoEquipFails W p = true →
      (inv.handleAutoEquipItem W p = inv ↔ ¬ inv.autoEquipAsksOffhand W p = true)) := by
  refine ⟨fun slot it swap => canEquipItem_refused_iff, fun h src dst hfails => ?_, fun p hfails => ?_⟩
  · rw [swapItem_of_fails h hfails]
    exact asked_eq_iff swapItemAsksOffhand_taken
  · rw [autoEquip_of_fails hfails]
    exact asked_eq_iff autoEquipAsksOffhand_taken

/-! ## A staff that cannot be used

The player has a sword and a shield in his hands and a staff in the backpack. -/

def noStaves : Rules :=
  { Rules.lax with
    template := fun entry => { subClass := if entry = 3 then 10 else 0 }
    gear := fun entry => if entry = 1 then .weapon else if entry = 2 then .shield else .twoHandWeapon
    canUseItem := fun it => it.entry ≠ 3 }

def withItem (inv : Inventory) (slot : Byte) (it : Item) : Inventory :=
  { inv with
    slots := update inv.slots ⟨false, bag0, slot⟩ (some it)
    own := update inv.own it.guid (none, slot) }

def shielded : Inventory :=
  ((empty 3 |>.withItem mainhand ⟨0, 1, 1⟩).withItem offhand ⟨1, 2, 1⟩).withItem 23 ⟨2, 3, 1⟩

theorem WellKept.withItem (h : WellKept W inv) (hlt : ∀ {q t}, inv.slots q = some t → t.guid < it.guid)
    (hslot : slot.val < 74) (hfree : inv.slots ⟨false, bag0, slot⟩ = none)
    (hmax : it.count ≤ (W.template it.entry).getMaxStackSize) (hfresh : it.guid < inv.nextGuid) :
    WellKept W (inv.withItem slot it) ∧
      ∀ {q t}, (inv.withItem slot it).slots q = some t → t.guid < it.guid + 1 := by
  refine ⟨h.putTop hslot hfree (fun ht => (hlt ht).ne) hmax hfresh, ?_⟩
  intro q t hq
  change update inv.slots _ _ q = _ at hq
  by_cases heq : q = ⟨false, bag0, slot⟩
  · rw [heq, update_self] at hq
    cases hq
    exact Nat.lt_succ_self _
  · rw [update_of_ne heq] at hq
    exact Nat.lt_succ_of_lt (hlt hq)

theorem wellKept_shielded : WellKept noStaves shielded := by
  have hsword := @WellKept.withItem noStaves (empty 3) ⟨0, 1, 1⟩ mainhand (wellKept_empty 3) (nomatch ·)
    (by decide) rfl (by decide) (by decide)
  have hshield := @WellKept.withItem noStaves _ ⟨1, 2, 1⟩ offhand hsword.1 hsword.2
    (by decide) rfl (by decide) (by decide)
  exact (@WellKept.withItem noStaves _ ⟨2, 3, 1⟩ 23 hshield.1 hshield.2
    (by decide) rfl (by decide) (by decide)).1

theorem refused_unchanged_staff :
    ¬ ((shielded.canEquipItem noStaves nullSlot ⟨2, 3, 1⟩ true).1 = none →
      (shielded.canEquipItem noStaves nullSlot ⟨2, 3, 1⟩ true).2 = shielded) ∧
    shielded.swapItem noStaves ⟨bag0, 23⟩ ⟨bag0, mainhand⟩ ≠ shielded ∧
    shielded.handleAutoEquipItem noStaves ⟨bag0, 23⟩ ≠ shielded := by
  have hall := @refused_unchanged_iff noStaves shielded
  have hswap := hall.2.1 wellKept_shielded ⟨bag0, 23⟩ ⟨bag0, mainhand⟩ (by decide +kernel)
  exact ⟨(hall.1 nullSlot ⟨2, 3, 1⟩ true).not.2 (by decide +kernel), hswap.not.2 (by decide +kernel),
    (hall.2.2 ⟨bag0, 23⟩ (by decide +kernel)).not.2 (by decide +kernel)⟩

/-- The auto-equip of the staff ends in an error, and the shield is in the backpack. -/
theorem refused_unequips_shield :
    (shielded.canEquipItem noStaves nullSlot ⟨2, 3, 1⟩ true).1 = none ∧
      shielded.autoEquipFails noStaves ⟨bag0, 23⟩ = true ∧
      shielded.getItemByPos noStaves ⟨bag0, offhand⟩ = some ⟨1, 2, 1⟩ ∧
      (shielded.canEquipItem noStaves nullSlot ⟨2, 3, 1⟩ true).2.getItemByPos noStaves ⟨bag0, offhand⟩ = none ∧
      (shielded.handleAutoEquipItem noStaves ⟨bag0, 23⟩).getItemByPos noStaves ⟨bag0, offhand⟩ = none ∧
      (shielded.handleAutoEquipItem noStaves ⟨bag0, 23⟩).getItemByPos noStaves ⟨bag0, 24⟩ = some ⟨1, 2, 1⟩ := by
  decide +kernel

end Inventory

end Axium.Player
