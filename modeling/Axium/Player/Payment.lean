import Axium.Player.ForcedUnequip

/-!
# Items as a payment

`DestroyItemCount` as vendors call it for the items of an extended cost. While nothing that is meant is a bag in a
bag slot, every turn takes something out of its slot and leaves the rest in place (`Taken`). The first three loops
go through no bag slot, so for every entry the four loops are one (`destroyItemCount_scanned`), and what
`HasItemCount` has found is taken (`destroyItemCount_drop`). Requirement after requirement, what is owed is taken,
if the sum for each entry is at hand (`payItems_charged`).
-/

namespace Axium.Player

open Guilds Stacks Function Vault List

namespace Inventory

/-! ## Less in the slots -/

section Taken

variable {W : Rules} {inv inv' inv'' : Inventory} {p : Pos} {it : Item} {o : Option Item}

/-- `inv'` is `inv` with less in its slots. The bags are the same. -/
structure Taken (W : Rules) (inv inv' : Inventory) : Prop where
  kept : WellKept W inv'
  bags : SameBags W inv inv'
  nextGuid : inv'.nextGuid = inv.nextGuid
  mailed : inv'.mailed = inv.mailed
  less : ∀ {q t}, inv'.slots q = some t → ∃ n, inv.slots q = some { t with count := n } ∧ t.count ≤ n

theorem Taken.refl (h : WellKept W inv) : Taken W inv inv :=
  ⟨h, fun _ => rfl, rfl, rfl, fun {_ t} ht => ⟨t.count, ht, le_rfl⟩⟩

theorem Taken.trans (h : Taken W inv inv') (h' : Taken W inv' inv'') : Taken W inv inv'' where
  kept := h'.kept
  bags bag := (h'.bags bag).trans (h.bags bag)
  nextGuid := h'.nextGuid.trans h.nextGuid
  mailed := h'.mailed.trans h.mailed
  less ht := by
    obtain ⟨n, hn, hle⟩ := h'.less ht
    obtain ⟨m, hm, hle'⟩ := h.less hn
    exact ⟨m, hm, hle.trans hle'⟩

theorem sameBags_of_loose (hslots : inv'.slots = update inv.slots p.place o) (hit : inv.slots p.place = some it)
    (ho : ∀ t, o = some t → t.entry = it.entry)
    (hloose : isBagPos p.bag p.slot = false ∨ (W.template it.entry).isBag = false) : SameBags W inv inv' := by
  rcases hloose with hpos | hnot
  · intro bag
    change (if bag ∈ inventoryBags ∨ bag ∈ bankBags then Option.filter _ (inv'.slots ⟨false, bag0, bag⟩) else none) =
      if bag ∈ inventoryBags ∨ bag ∈ bankBags then Option.filter _ (inv.slots ⟨false, bag0, bag⟩) else none
    by_cases hbag : bag ∈ inventoryBags ∨ bag ∈ bankBags
    · have hne : (⟨false, bag0, bag⟩ : Place) ≠ p.place := by
        intro heq
        have hbag0 : p.bag = bag0 := (congrArg Place.container heq).symm
        have hslot : p.slot = bag := (congrArg Place.slot heq).symm
        rw [hslot, isBagPos_iff.2 ⟨hbag0, hbag⟩] at hpos
        cases hpos
      rw [if_pos hbag, if_pos hbag, hslots, update_of_ne hne]
      rfl
    · rw [if_neg hbag, if_neg hbag]
  · refine sameBags_of_update hslots (fun t ht => ?_) fun t ht => ?_
    · rw [hit] at ht
      rw [← Option.some.inj ht]
      exact hnot
    · rw [ho t ht]
      exact hnot

theorem destroyItem_eq (h : WellKept W inv) (hit : inv.getItemByPos W p = some it)
    (hempty : inv.isNotEmptyBag W it = false) : inv.destroyItem W p = inv.removeItem W p := by
  have hnot : ¬ ((W.template it.entry).isBag = true ∧ inv.isNotEmptyBag W it = true) := fun hfull =>
    absurd (hempty.symm.trans hfull.2) Bool.false_ne_true
  rw [removeItem_eq h hit hempty]
  unfold destroyItem destroySingle
  simp only [hit]
  rw [if_neg hnot, h.no_container hit]

theorem Taken.destroy (h : Taken W inv inv') (hit : inv'.getItemByPos W p = some it)
    (hloose : isBagPos p.bag p.slot = false ∨ (W.template it.entry).isBag = false) :
    (inv'.destroyItem W p).slots = update inv'.slots p.place none ∧ Taken W inv (inv'.destroyItem W p) := by
  have hempty := h.kept.loose_empty hit hloose
  have hkept := h.kept.take hit hempty
  rw [destroyItem_eq h.kept hit hempty]
  rw [removeItem_eq h.kept hit hempty] at hkept ⊢
  refine ⟨rfl, h.trans ⟨hkept, ?_, rfl, rfl, fun {q t} ht => ?_⟩⟩
  · exact sameBags_of_loose rfl (getItemByPos_some hit).2 (fun t ht => nomatch ht) hloose
  · dsimp only at ht
    have hne : q ≠ p.place := by
      rintro rfl
      rw [update_self] at ht
      cases ht
    rw [update_of_ne hne] at ht
    exact ⟨t.count, ht, le_rfl⟩

theorem Taken.lower {n : Nat} (h : Taken W inv inv') (hit : inv'.slots p.place = some it) (hn : n ≤ it.count)
    (hloose : isBagPos p.bag p.slot = false ∨ (W.template it.entry).isBag = false) :
    Taken W inv { inv' with slots := update inv'.slots p.place (some { it with count := n }) } := by
  refine h.trans ⟨h.kept.resize hit (hn.trans (h.kept.valid.sound.bounded hit)), ?_, rfl, rfl, fun {q t} ht => ?_⟩
  · refine sameBags_of_loose rfl hit (fun t ht => ?_) hloose
    rw [← Option.some.inj ht]
  · dsimp only at ht
    by_cases hq : q = p.place
    · rw [hq, update_self] at ht
      rw [hq, ← Option.some.inj ht]
      exact ⟨it.count, hit, hn⟩
    · rw [update_of_ne hq] at ht
      exact ⟨t.count, ht, le_rfl⟩

end Taken

/-! ## The loops of a payment -/

section Paying

variable {W : Rules} {inTrade : Nat → Bool} {inv inv' : Inventory} {p : Pos} {it : Item} {entry count : Nat}

/-- Nothing that is meant is a bag in a bag slot. -/
def Payable (W : Rules) (inTrade : Nat → Bool) (entry : Nat) (inv : Inventory) : Prop :=
  ∀ slot ∈ inventoryBags, ∀ it, inv.slots ⟨false, bag0, slot⟩ = some it →
    meant inTrade entry it.guid it.entry = true → (W.template entry).isBag = false

theorem Payable.taken (h : Payable W inTrade entry inv) (ht : Taken W inv inv') : Payable W inTrade entry inv' := by
  intro slot hslot it hit hmeant
  obtain ⟨n, hn, -⟩ := ht.less hit
  exact h slot hslot { it with count := n } hn hmeant

theorem bagSlot_scanned (hp : p ∈ inv.scanned W) (hpos : isBagPos p.bag p.slot = true) :
    p.bag = bag0 ∧ p.slot ∈ inventoryBags := by
  obtain ⟨hbag, hinv | hbank⟩ := isBagPos_iff.1 hpos
  · exact ⟨hbag, hinv⟩
  · have hall : ∀ b ∈ bankBags, 67 ≤ b.val ∧ b.val < 74 := by simp [bankBags]
    have hslot := hall p.slot hbank
    unfold scanned at hp
    simp only [mem_append, mem_topSlots (show 39 ≤ 256 by decide), mem_topSlots (show 150 ≤ 256 by decide),
      mem_topSlots (show 23 ≤ 256 by decide), mem_flatMap, mem_bagPositions] at hp
    rcases hp with ((⟨-, hlo, hhi⟩ | ⟨-, hlo, hhi⟩) | ⟨bag, hinv, hin, -⟩) | ⟨-, -, hhi⟩
    · omega
    · omega
    · rw [hbag] at hin
      rw [← hin] at hinv
      exact absurd hinv (by decide)
    · omega

/-- What is meant in the slot is no bag in a bag slot. -/
theorem loose_of_meant (h : isBagPos p.bag p.slot = false ∨ Payable W inTrade entry inv) (hp : p ∈ inv.scanned W)
    (hit : inv.slots p.place = some it) (hmeant : meant inTrade entry it.guid it.entry = true) :
    isBagPos p.bag p.slot = false ∨ (W.template it.entry).isBag = false := by
  rcases h with hpos | hpay
  · exact .inl hpos
  · cases hpos : isBagPos p.bag p.slot with
    | false => exact .inl rfl
    | true =>
      obtain ⟨hbag, hslot⟩ := bagSlot_scanned hp hpos
      have hplace : p.place = ⟨false, bag0, p.slot⟩ := by
        unfold Pos.place
        rw [hbag]
      rw [hplace] at hit
      exact .inr (entry_of_meant hmeant ▸ hpay p.slot hslot it hit hmeant)

/-- In the loops something has been taken, and no more than `count` while they go on. -/
structure Paying (W : Rules) (inv : Inventory) (count : Nat) (st : Destroying) : Prop where
  taken : Taken W inv st.inv
  remcount_le : st.done = false → st.remcount ≤ count

theorem Paying.start (h : WellKept W inv) (count : Nat) : Paying W inv count { inv } :=
  ⟨Taken.refl h, fun _ => Nat.zero_le _⟩

variable {st : Destroying} {ps : List Pos}

theorem Paying.loose (h : Paying W inv count st) (hpay : isBagPos p.bag p.slot = false ∨ Payable W inTrade entry inv)
    (hp : p ∈ inv.scanned W) (hit : st.inv.slots p.place = some it)
    (hmeant : meant inTrade entry it.guid it.entry = true) :
    isBagPos p.bag p.slot = false ∨ (W.template it.entry).isBag = false :=
  loose_of_meant (hpay.imp_right (·.taken h.taken)) (h.taken.bags.scanned ▸ hp) hit hmeant

theorem Paying.removable (h : Paying W inv count st)
    (hpay : isBagPos p.bag p.slot = false ∨ Payable W inTrade entry inv) (hp : p ∈ inv.scanned W) :
    Removable W inTrade entry st p := by
  have hread := getItemByPos_of_scanned h.taken.bags hp
  refine ⟨hread, fun it hit hmeant => ?_⟩
  exact ((Taken.refl h.taken.kept).destroy (hread.trans hit) (h.loose hpay hp hit hmeant)).1

/-- One turn takes a stack, or a part of the last one. -/
theorem Paying.turn (h : Paying W inv count st) (hpay : isBagPos p.bag p.slot = false ∨ Payable W inTrade entry inv)
    (hp : p ∈ inv.scanned W) (hcount : count < 2 ^ 32) :
    Paying W inv count (destroyTurn W inTrade entry count false st p) := by
  cases hdone : st.done with
  | true =>
    rw [destroyTurn_of_done hdone]
    exact h
  | false =>
    have hread := getItemByPos_of_scanned h.taken.bags hp
    rcases skip_or_meant hread with ⟨hskip, -, -⟩ | ⟨it, hit, hmeant⟩
    · rw [hskip]
      exact h
    · have hitem := hread.trans hit
      have hloose := h.loose hpay hp hit hmeant
      have hmax : it.count ≤ 0x7FFFFFFE :=
        (h.taken.kept.valid.sound.bounded hit).trans (ItemTemplate.getMaxStackSize_le _)
      have hle := h.remcount_le hdone
      rw [destroyTurn_of_meant hdone hitem hmeant]
      split_ifs with hwhole
      · refine ⟨(h.taken.destroy hitem hloose).2, fun hnot => ?_⟩
        exact (Nat.lt_of_not_le (of_decide_eq_false hnot)).le
      · refine ⟨h.taken.lower hit ?_ hloose, fun hnot => nomatch hnot⟩
        unfold uint32
        omega

theorem Paying.foldl (h : Paying W inv count st)
    (hpay : ∀ p ∈ ps, isBagPos p.bag p.slot = false ∨ Payable W inTrade entry inv)
    (hps : ∀ p ∈ ps, p ∈ inv.scanned W) (hcount : count < 2 ^ 32) :
    Paying W inv count (ps.foldl (destroyTurn W inTrade entry count false) st) := by
  induction ps generalizing st with
  | nil => exact h
  | cons p ps ih =>
    obtain ⟨hp, hps⟩ := forall_mem_cons.1 hps
    obtain ⟨hpay, hpays⟩ := forall_mem_cons.1 hpay
    exact ih (h.turn hpay hp hcount) hpays hps

/-- The slots of the first three loops. -/
def unworn (W : Rules) (inv : Inventory) : List Pos :=
  topSlots 23 39 ++ topSlots 86 150 ++ inventoryBags.flatMap (inv.bagPositions W)

theorem unworn_not_bagPos (hp : p ∈ inv.unworn W) : isBagPos p.bag p.slot = false := by
  refine Bool.eq_false_iff.2 fun hpos => ?_
  obtain ⟨hbag, hslot⟩ := bagSlot_scanned (mem_append_left _ hp) hpos
  have hall : ∀ b ∈ inventoryBags, b.val < 23 := by simp [inventoryBags]
  have hlt := hall p.slot hslot
  unfold unworn at hp
  simp only [mem_append, mem_topSlots (show 39 ≤ 256 by decide), mem_topSlots (show 150 ≤ 256 by decide),
    mem_flatMap, mem_bagPositions] at hp
  rcases hp with (⟨-, hlo, -⟩ | ⟨-, hlo, -⟩) | ⟨bag, hinv, hin, -⟩
  · omega
  · omega
  · rw [← hin, hbag] at hinv
    exact absurd hinv (by decide)

theorem destroyItemCount_scanned (h : WellKept W inv) (hcount : count < 2 ^ 32) :
    inv.destroyItemCount W inTrade entry count false =
      ((inv.scanned W).foldl (destroyTurn W inTrade entry count false) { inv }).inv := by
  have hpart : ∀ {st : Destroying} {ps : List Pos}, (∀ p ∈ ps, p ∈ inv.unworn W) → Paying W inv count st →
      Paying W inv count (ps.foldl (destroyTurn W inTrade entry count false) st) := fun hps hst =>
    hst.foldl (fun p hp => .inl (unworn_not_bagPos (hps p hp))) (fun p hp => mem_append_left _ (hps p hp)) hcount
  have hstep : ∀ {st : Destroying} {bag}, bag ∈ inventoryBags → Paying W inv count st →
      Paying W inv count ((inv.bagPositions W bag).foldl (destroyTurn W inTrade entry count false) st) :=
    fun hbag => hpart fun p hp => mem_append_right _ (mem_flatMap.2 ⟨_, hbag, hp⟩)
  unfold destroyItemCount
  simp only
  rw [← foldl_append, foldl_bags (J := Paying W inv count) (fun hst => hst.taken.bags) hstep
    (hpart (fun p hp => mem_append_left _ hp) (Paying.start h count)), ← foldl_append, ← foldl_append]
  rfl

/-! ## What is found is taken -/

/-- `inv'` has the slot emptied, and maybe others with it: a bag goes with what is in it. -/
def Emptied (p : Pos) (inv inv' : Inventory) : Prop :=
  inv'.slots p.place = none ∧ ∀ q, inv'.slots q = inv.slots q ∨ inv'.slots q = none

/-- `before` units of the entry were there, of which `found` at hand; `rest` has the slots that are still to come.
No more than what has been counted is left, and once the loops have ended, `count` are gone. -/
structure Dropping (inTrade : Nat → Bool) (entry count before found : Nat) (st : Destroying) (rest : List Pos) :
    Prop where
  bounded : st.done = false → ∀ q it, st.inv.slots q = some it → it.count ≤ 0x7FFFFFFE
  remcount_le : st.done = false → st.remcount ≤ count
  counted : st.done = false → total entry st.inv.slots + st.remcount ≤ before
  ahead : st.done = false →
    total entry st.inv.slots + found ≤ before + along (meant inTrade entry) (rest.map Pos.place) st.inv.slots
  ended : st.done = true → total entry st.inv.slots + count ≤ before

theorem Dropping.turn {before found : Nat} (h : Dropping inTrade entry count before found st (p :: ps))
    (hread : st.inv.getItemByPos W p = st.inv.slots p.place)
    (hdestroy : ∀ it, st.inv.slots p.place = some it → meant inTrade entry it.guid it.entry = true →
      Emptied p st.inv (st.inv.destroyItem W p))
    (hnodup : ((p :: ps).map Pos.place).Nodup) (hcount : count < 2 ^ 32) :
    Dropping inTrade entry count before found (destroyTurn W inTrade entry count false st p) ps := by
  cases hdone : st.done with
  | true =>
    rw [destroyTurn_of_done hdone]
    have hopen : st.done ≠ false := fun hnot => absurd (hdone.symm.trans hnot) (by decide)
    exact ⟨fun h => absurd h hopen, fun h => absurd h hopen, fun h => absurd h hopen, fun h => absurd h hopen, h.ended⟩
  | false =>
    have hahead := h.ahead hdone
    rw [map_cons, along_cons] at hahead
    rcases skip_or_meant hread with ⟨hskip, hzero, -⟩ | ⟨it, hit, hmeant⟩
    · rw [hskip]
      rw [hzero, zero_add] at hahead
      exact ⟨h.bounded, h.remcount_le, h.counted, fun _ => hahead, h.ended⟩
    · obtain ⟨hnone, hless⟩ := hdestroy it hit hmeant
      have hpick : picked (meant inTrade entry) (st.inv.slots p.place) = it.count := by
        rw [hit]
        exact picked_of_meant hmeant it.count
      have hentry : ∀ g e', meant inTrade entry g e' = true → e' = entry := fun _ _ hmeant => entry_of_meant hmeant
      obtain ⟨hnotMem, hdistinct⟩ := nodup_cons.1 hnodup
      -- what is lost with the slot, and in the slots to come
      have hlost : total entry (st.inv.destroyItem W p).slots + along (meant inTrade entry) [p.place] st.inv.slots ≤
          total entry st.inv.slots + along (meant inTrade entry) [] (st.inv.destroyItem W p).slots :=
        total_emptied hentry hless (not_mem_nil (a := p.place)) hnone nodup_nil
      have hlater := total_emptied hentry hless hnotMem hnone hdistinct
      rw [along_cons, hpick] at hlost hlater
      rw [hpick] at hahead
      have hmax := h.bounded hdone _ _ hit
      have hle := h.remcount_le hdone
      have hcounted := h.counted hdone
      have hmod := Nat.mod_le (st.remcount + it.count) (2 ^ 32)
      rw [destroyTurn_of_meant hdone (hread.trans hit) hmeant]
      change _ + (_ + 0) ≤ _ + 0 at hlost
      split_ifs with hwhole
      · refine ⟨fun _ q t ht => ?_, fun hnot => ?_, fun _ => ?_, fun _ => ?_, fun hreach => ?_⟩
        · rcases hless q with heq | hgone
          · exact h.bounded hdone q t (heq ▸ ht)
          · cases hgone.symm.trans ht
        · exact (Nat.lt_of_not_le (of_decide_eq_false hnot)).le
        · dsimp only
          omega
        · dsimp only
          omega
        · have hreach := of_decide_eq_true hreach
          dsimp only
          omega
      · have hupdate := total_update entry st.inv.slots p.place
          (some { it with count := uint32 ((it.count : Int) - count + st.remcount) })
        rw [hit, amount_some, amount_some, if_pos (entry_of_meant hmeant), if_pos (entry_of_meant hmeant)] at hupdate
        refine ⟨nofun, nofun, nofun, nofun, fun _ => ?_⟩
        dsimp only at hupdate ⊢
        unfold uint32 at hupdate ⊢
        omega

/-- `J` is what the turns keep: the next slot can be read, and what is meant in it destroyed. -/
theorem Dropping.foldl {before found : Nat} {rest : List Pos} {J : Destroying → Prop}
    (hJ : ∀ {st p}, p ∈ ps → J st → st.inv.getItemByPos W p = st.inv.slots p.place ∧
      (∀ it, st.inv.slots p.place = some it → meant inTrade entry it.guid it.entry = true →
        Emptied p st.inv (st.inv.destroyItem W p)) ∧ J (destroyTurn W inTrade entry count false st p))
    (hst : J st) (hnodup : ((ps ++ rest).map Pos.place).Nodup) (hcount : count < 2 ^ 32)
    (h : Dropping inTrade entry count before found st (ps ++ rest)) :
    Dropping inTrade entry count before found (ps.foldl (destroyTurn W inTrade entry count false) st) rest := by
  induction ps generalizing st with
  | nil => exact h
  | cons p ps ih =>
    obtain ⟨hread, hdestroy, hnext⟩ := hJ mem_cons_self hst
    exact ih (fun hp => hJ (mem_cons_of_mem _ hp)) hnext (nodup_cons.1 hnodup).2
      (h.turn hread hdestroy hnodup hcount)

/-- `owed` has the units of each entry that are taken from `inv`: they are gone from the slots, and from what the
player has at hand. -/
structure Charged (W : Rules) (inTrade : Nat → Bool) (owed : Nat → Nat) (inv inv' : Inventory) : Prop where
  taken : Taken W inv inv'
  total : ∀ e, total e inv'.slots + owed e = total e inv.slots
  carried : ∀ e, inv'.carried W inTrade e + owed e = inv.carried W inTrade e

theorem Charged.refl (h : WellKept W inv) : Charged W inTrade (fun _ => 0) inv inv :=
  ⟨Taken.refl h, fun _ => add_zero _, fun _ => add_zero _⟩

theorem Charged.trans {inv'' : Inventory} {owed owed' : Nat → Nat} (h : Charged W inTrade owed inv inv')
    (h' : Charged W inTrade owed' inv' inv'') : Charged W inTrade (fun e => owed e + owed' e) inv inv'' where
  taken := h.taken.trans h'.taken
  total e := by
    have hfirst := h.total e
    have hlast := h'.total e
    omega
  carried e := by
    have hfirst := h.carried e
    have hlast := h'.carried e
    omega

theorem destroyItemCount_taken (h : WellKept W inv) (hpay : Payable W inTrade entry inv) (hcount : count < 2 ^ 32) :
    Taken W inv (inv.destroyItemCount W inTrade entry count false) := by
  rw [destroyItemCount_scanned h hcount]
  exact ((Paying.start h count).foldl (fun _ _ => .inr hpay) (fun _ hp => hp) hcount).taken

def SameUnits (inv inv' : Inventory) : Prop :=
  ∀ (pick : Nat → Nat → Bool) q, picked pick (inv'.slots q) = picked pick (inv.slots q)

theorem Paying.turn_zero (h : Paying W inv 0 st) (hpay : Payable W inTrade entry inv) (hp : p ∈ inv.scanned W)
    (hsame : SameUnits inv st.inv) : SameUnits inv (destroyTurn W inTrade entry 0 false st p).inv := by
  cases hdone : st.done with
  | true =>
    rw [destroyTurn_of_done hdone]
    exact hsame
  | false =>
    have hremovable : Removable W inTrade entry st p := h.removable (.inr hpay) hp
    have hkeeps : ∀ {slots : Store Place Nat} {o : Option Item}, slots = update st.inv.slots p.place o →
        (∀ pick : Nat → Nat → Bool, picked pick o = picked pick (st.inv.slots p.place)) →
        ∀ (pick : Nat → Nat → Bool) q, picked pick (slots q) = picked pick (inv.slots q) := by
      intro slots o hslots ho pick q
      rw [hslots, ← hsame pick q]
      by_cases hq : q = p.place
      · rw [hq, update_self]
        exact ho pick
      · rw [update_of_ne hq]
    rcases skip_or_meant hremovable.read with ⟨hskip, -, -⟩ | ⟨it, hit, hmeant⟩
    · rw [hskip]
      exact hsame
    · have hmax : it.count ≤ 0x7FFFFFFE :=
        (h.taken.kept.valid.sound.bounded hit).trans (ItemTemplate.getMaxStackSize_le _)
      have hzero : st.remcount = 0 := Nat.le_zero.1 (h.remcount_le hdone)
      rw [destroyTurn_of_meant hdone (hremovable.read.trans hit) hmeant, hzero]
      split_ifs with hwhole
      · refine hkeeps (hremovable.emptied it hit hmeant) fun pick => ?_
        have hnone : it.count = 0 := by omega
        rw [hit]
        simp [picked, hnone]
      · have hall : uint32 ((it.count : Int) - (0 : Nat) + (0 : Nat)) = it.count := by
          unfold uint32
          omega
        refine hkeeps rfl fun pick => ?_
        rw [hall, hit]

theorem destroyItemCount_zero (h : WellKept W inv) (hpay : Payable W inTrade entry inv) :
    SameUnits inv (inv.destroyItemCount W inTrade entry 0 false) := by
  have hrun : ∀ {ps : List Pos} {st : Destroying}, (∀ p ∈ ps, p ∈ inv.scanned W) → Paying W inv 0 st →
      SameUnits inv st.inv →
      SameUnits inv (ps.foldl (destroyTurn W inTrade entry 0 false) st).inv := by
    intro ps
    induction ps with
    | nil => exact fun _ _ hsame => hsame
    | cons p ps ih =>
      intro st hps hst hsame
      obtain ⟨hp, hps⟩ := forall_mem_cons.1 hps
      exact ih hps (hst.turn (.inr hpay) hp (by decide)) (hst.turn_zero hpay hp hsame)
  rw [destroyItemCount_scanned h (by decide)]
  exact hrun (fun _ hp => hp) (Paying.start h 0) fun _ _ => rfl

theorem SameUnits.charged (h : SameUnits inv inv') (htaken : Taken W inv inv') :
    Charged W inTrade (fun _ => 0) inv inv' where
  taken := htaken
  total e := by
    have hamount : ∀ o : Option Item, amount e o = picked (fun _ e' => e' = e) o := by
      intro o
      cases o with
      | none => rfl
      | some t => simp [amount, picked]
    rw [add_zero]
    refine Finset.sum_congr rfl fun q _ => ?_
    rw [hamount, hamount, h]
  carried e := by
    rw [add_zero]
    unfold carried along
    rw [htaken.bags.counted]
    congr 1
    exact map_congr_left fun q _ => h _ q

theorem destroyItemCount_charged (h : WellKept W inv) (hpay : Payable W inTrade entry inv)
    (hsmall : inv.carried W inTrade entry < 2 ^ 32) (hle : count ≤ inv.carried W inTrade entry) :
    Charged W inTrade (fun e => if entry = e then count else 0) inv
      (inv.destroyItemCount W inTrade entry count false) := by
  have hcount : count < 2 ^ 32 := hle.trans_lt hsmall
  have htaken : Taken W inv (inv.destroyItemCount W inTrade entry count false) :=
    destroyItemCount_taken h hpay hcount
  rcases eq_zero_or_pos count with hzero | hpos
  · subst hzero
    have hsame : SameUnits inv (inv.destroyItemCount W inTrade entry 0 false) := destroyItemCount_zero h hpay
    simpa only [ite_self] using hsame.charged htaken
  have hnodup := nodup_scanned W inv
  have hmin : min count (along (meant inTrade entry) ((inv.scanned W).map Pos.place) inv.slots) = count := by
    rw [← carried_eq]
    exact min_eq_left hle
  have hslots : (inv.destroyItemCount W inTrade entry count false).slots =
      drain (meant inTrade entry) count ((inv.scanned W).map Pos.place) inv.slots := by
    rw [destroyItemCount_scanned h hcount]
    refine foldl_destroyTurn_slots (I := fun st ps => Paying W inv count st ∧
      (ps.map Pos.place).Nodup ∧ ∀ p ∈ ps, p ∈ inv.scanned W) ?_ ⟨Paying.start h count, hnodup, fun _ hp => hp⟩
      rfl hpos hcount (noWrap_of_sum_lt ?_)
    · rintro st p ps ⟨hst, hdistinct, hps⟩
      obtain ⟨hnotMem, hdistinct⟩ := nodup_cons.1 hdistinct
      obtain ⟨hp, hps⟩ := forall_mem_cons.1 hps
      exact ⟨hst.removable (.inr hpay) hp, hnotMem, hst.turn (.inr hpay) hp hcount, hdistinct, hps⟩
    · rw [zero_add, sum_meantCounts, ← carried_eq]
      exact hsmall
  refine ⟨htaken, fun e => ?_, fun e => ?_⟩
  · have hentry : ∀ g e', meant inTrade entry g e' = true → e' = entry := fun _ _ hmeant => entry_of_meant hmeant
    have hdrain := total_drain (σ := inv.slots) (n := count) hentry hnodup e
    rwa [hmin, ← hslots] at hdrain
  · rw [carried_eq, carried_eq, htaken.bags.scanned, hslots]
    by_cases he : entry = e
    · subst he
      rw [if_pos rfl]
      have hdrain : along (meant inTrade entry) ((inv.scanned W).map Pos.place)
          (drain (meant inTrade entry) count _ inv.slots) + min count _ = _ := along_drain hnodup
      rwa [hmin] at hdrain
    · rw [if_neg he, add_zero]
      refine along_drain_other (fun g e' hmeant => decide_eq_false fun hother => he ?_) hnodup _
      rw [← entry_of_meant hmeant, hother.1]

end Paying

/-! ## Several requirements -/

section Requirements

variable (W : Rules) (inTrade : Nat → Bool) (count : Nat)

/-- The payment of `reqitem` and `reqitemcount`, `count` times. -/
def payItems (reqitems : List (Nat × Nat)) (inv : Inventory) : Inventory :=
  reqitems.foldl (fun inv r =>
    if r.1 ≠ 0 then inv.destroyItemCount W inTrade r.1 (r.2 * count % 2 ^ 32) false else inv) inv

/-- The sum over all requirements that name the entry. -/
def owed (reqitems : List (Nat × Nat)) (e : Nat) : Nat :=
  (reqitems.map fun r => if r.1 ≠ 0 ∧ r.1 = e then r.2 * count else 0).sum

/-- The sum for each entry is at hand, nothing of it is a bag in a bag slot, and the counters can hold what is
carried. -/
structure Affordable (reqitems : List (Nat × Nat)) (inv : Inventory) : Prop where
  payable : ∀ r ∈ reqitems, r.1 ≠ 0 → Payable W inTrade r.1 inv
  covered : ∀ e, owed count reqitems e ≤ inv.carried W inTrade e
  small : ∀ r ∈ reqitems, r.1 ≠ 0 → inv.carried W inTrade r.1 < 2 ^ 32

variable {W inTrade count} {inv inv' : Inventory} {reqitems : List (Nat × Nat)} {r : Nat × Nat}

theorem owed_cons (r : Nat × Nat) (reqitems : List (Nat × Nat)) (e : Nat) :
    owed count (r :: reqitems) e = (if r.1 ≠ 0 ∧ r.1 = e then r.2 * count else 0) + owed count reqitems e := by
  unfold owed
  rw [map_cons, sum_cons]

theorem Affordable.head_le (h : Affordable W inTrade count (r :: reqitems) inv) (hr : r.1 ≠ 0) :
    r.2 * count ≤ inv.carried W inTrade r.1 := by
  have hcovered := h.covered r.1
  rw [owed_cons, if_pos ⟨hr, rfl⟩] at hcovered
  omega

theorem Affordable.tail (h : Affordable W inTrade count (r :: reqitems) inv)
    (hpaid : Charged W inTrade (fun e => if r.1 ≠ 0 ∧ r.1 = e then r.2 * count else 0) inv inv') :
    Affordable W inTrade count reqitems inv' where
  payable r hr hne := (h.payable r (mem_cons_of_mem _ hr) hne).taken hpaid.taken
  covered e := by
    have hcovered := h.covered e
    have hcarried := hpaid.carried e
    rw [owed_cons] at hcovered
    omega
  small r hr hne := by
    have hsmall := h.small r (mem_cons_of_mem _ hr) hne
    have hcarried := hpaid.carried r.1
    omega

theorem payItems_charged (h : WellKept W inv) (haff : Affordable W inTrade count reqitems inv) :
    Charged W inTrade (owed count reqitems) inv (payItems W inTrade count reqitems inv) := by
  induction reqitems generalizing inv with
  | nil => exact Charged.refl h
  | cons r rest ih =>
    have hfirst : Charged W inTrade (fun e => if r.1 ≠ 0 ∧ r.1 = e then r.2 * count else 0) inv
        (if r.1 ≠ 0 then inv.destroyItemCount W inTrade r.1 (r.2 * count % 2 ^ 32) false else inv) := by
      by_cases hr : r.1 = 0
      · have hnone : (fun e => if r.1 ≠ 0 ∧ r.1 = e then r.2 * count else 0) = fun _ => 0 :=
          funext fun e => if_neg fun hnot => hnot.1 hr
        rw [if_neg (not_not.2 hr), hnone]
        exact Charged.refl h
      · have hle := haff.head_le hr
        have hsmall := haff.small r mem_cons_self hr
        rw [Nat.mod_eq_of_lt (hle.trans_lt hsmall)]
        simp only [ne_eq, hr, not_false_eq_true, true_and]
        exact destroyItemCount_charged h (haff.payable r mem_cons_self hr) hsmall hle
    have hrest := hfirst.trans (ih hfirst.taken.kept (haff.tail hfirst))
    rwa [← funext (owed_cons r rest)] at hrest

/-- More than one requirement names the entry. -/
def Repeated (reqitems : List (Nat × Nat)) (e : Nat) : Prop := 1 < (reqitems.filter fun r => r.1 = e).length

instance (reqitems : List (Nat × Nat)) (e : Nat) : Decidable (Repeated reqitems e) :=
  inferInstanceAs (Decidable (_ < _))

theorem owed_eq (e : Nat) : owed count reqitems e =
    if e = 0 then 0 else ((reqitems.filter fun r => r.1 = e).map fun r => r.2 * count).sum := by
  induction reqitems with
  | nil => simp [owed]
  | cons r rest ih =>
    rw [owed_cons, ih]
    by_cases he : e = 0
    · subst he
      simp
    · by_cases hr : r.1 = e
      · subst hr
        simp [he]
      · simp [hr, he]

theorem le_owed (hr : r ∈ reqitems) (hne : r.1 ≠ 0) : r.2 * count ≤ owed count reqitems r.1 := by
  rw [owed_eq, if_neg hne]
  refine le_sum_of_mem (mem_map.2 ⟨r, mem_filter.2 ⟨hr, decide_eq_true rfl⟩, rfl⟩)

theorem affordable_of_each (hpayable : ∀ r ∈ reqitems, r.1 ≠ 0 → Payable W inTrade r.1 inv)
    (hsmall : ∀ r ∈ reqitems, r.1 ≠ 0 → inv.carried W inTrade r.1 < 2 ^ 32)
    (heach : ∀ r ∈ reqitems, r.1 ≠ 0 → if Repeated reqitems r.1 then
      owed count reqitems r.1 ≤ inv.carried W inTrade r.1 else r.2 * count ≤ inv.carried W inTrade r.1) :
    Affordable W inTrade count reqitems inv := by
  refine ⟨hpayable, fun e => ?_, hsmall⟩
  rw [owed_eq]
  by_cases he : e = 0
  · rw [if_pos he]
    exact Nat.zero_le _
  rw [if_neg he]
  cases hnamed : reqitems.filter fun r => r.1 = e with
  | nil => exact Nat.zero_le _
  | cons r rest =>
    have hmem : r ∈ reqitems.filter fun r => r.1 = e := by
      rw [hnamed]
      exact mem_cons_self
    obtain ⟨hr, hentry⟩ := mem_filter.1 hmem
    have hentry : r.1 = e := of_decide_eq_true hentry
    subst hentry
    have hcovered := heach r hr he
    split_ifs at hcovered with htwice
    · rw [owed_eq, if_neg he, hnamed] at hcovered
      exact hcovered
    · -- the entry is named once
      unfold Repeated at htwice
      rw [hnamed, length_cons] at htwice
      have hrest : rest = [] := eq_nil_of_length_eq_zero (by omega)
      rw [hrest, map_cons, map_nil]
      exact hcovered

end Requirements

end Inventory

end Axium.Player
