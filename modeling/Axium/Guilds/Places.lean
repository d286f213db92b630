import Axium.Guilds.BankItems

/-!
# Places that can be seen

Items are found in the tabs that were bought, at the slots of the player outside bags, and in the bags that are
there. The ranges of slots that `CanStoreItem` goes through are among these.
-/

namespace Axium.Guilds

open Stacks Function

namespace Vault

variable {R : Realm} {v v' : Vault} {p src dest side : Place} {it : Item}

/-- The place is in a tab that was bought, or at the player: outside bags and not for buyback, or in a bag
that is there. -/
def Visible (R : Realm) (v : Vault) (p : Place) : Prop :=
  if p.isBank then p.container.val < v.guild.purchasedTabs ∧ p.slot.val < bankMaxSlots
  else (p.container = bag0 ∧ (p.slot.val < 74 ∨ 86 ≤ p.slot.val ∧ p.slot.val < 150)) ∨
    ∃ b, v.getBagByPos R p.container = some b ∧ p.slot.val < getBagSize R b

/-- `BUYBACK_SLOT_START` to `BUYBACK_SLOT_END`. -/
def InBuyback (p : Place) : Prop :=
  p.isBank = false ∧ p.container = bag0 ∧ 74 ≤ p.slot.val ∧ p.slot.val < 86

variable {tab slot : Byte}

theorem visible_bank :
    Visible R v ⟨true, tab, slot⟩ ↔ tab.val < v.guild.purchasedTabs ∧ slot.val < bankMaxSlots :=
  Iff.rfl

variable {bag : Byte}

theorem visible_player :
    Visible R v ⟨false, bag, slot⟩ ↔
      (bag = bag0 ∧ (slot.val < 74 ∨ 86 ≤ slot.val ∧ slot.val < 150)) ∨
        ∃ b, v.getBagByPos R bag = some b ∧ slot.val < getBagSize R b :=
  Iff.rfl

theorem getBagByPos_some {b : Item} :
    v.getBagByPos R bag = some b ↔
      (bag ∈ inventoryBags ∨ bag ∈ bankBags) ∧ v.slots ⟨false, bag0, bag⟩ = some b ∧
        (R.template b.entry).isBag := by
  unfold getBagByPos
  by_cases h : bag ∈ inventoryBags ∨ bag ∈ bankBags
  · rw [if_pos h, Option.filter_eq_some_iff]
    exact ⟨fun hb => ⟨h, hb⟩, fun hb => hb.2⟩
  · rw [if_neg h]
    refine ⟨?_, fun hb => absurd hb.1 h⟩
    rintro ⟨⟩

theorem bag0_not_bag : ¬ (bag0 ∈ inventoryBags ∨ bag0 ∈ bankBags) := by decide

theorem getItemByPos_eq (bag slot : Byte) [Decidable (Visible R v ⟨false, bag, slot⟩)] :
    v.getItemByPos R bag slot =
      if Visible R v ⟨false, bag, slot⟩ then v.slots ⟨false, bag, slot⟩ else none := by
  unfold getItemByPos
  by_cases hout : bag = bag0 ∧ (slot.val < 74 ∨ 86 ≤ slot.val ∧ slot.val < 150)
  · rw [if_pos hout, if_pos (visible_player.2 (.inl hout))]
  · rw [if_neg hout]
    cases hb : v.getBagByPos R bag with
    | none =>
      rw [if_neg]
      intro hvis
      rcases visible_player.1 hvis with h | ⟨b, h, -⟩
      · exact hout h
      · rw [hb] at h
        cases h
    | some b =>
      dsimp only
      by_cases hslot : slot.val < getBagSize R b
      · rw [if_pos hslot, if_pos (visible_player.2 (.inr ⟨b, hb, hslot⟩))]
      · rw [if_neg hslot, if_neg]
        intro hvis
        rcases visible_player.1 hvis with h | ⟨b', h, hlt⟩
        · exact hout h
        · rw [hb] at h
          cases h
          exact hslot hlt

open Classical in
theorem itemAt_eq (p : Place) : v.itemAt R p = if Visible R v p then v.slots p else none := by
  obtain ⟨bank, container, slot⟩ := p
  cases bank with
  | true =>
    unfold itemAt getItem
    rw [if_pos rfl]
    exact if_congr visible_bank.symm rfl rfl
  | false => exact getItemByPos_eq container slot

theorem itemAt_of_visible (h : Visible R v p) : v.itemAt R p = v.slots p := by
  classical
  rw [itemAt_eq, if_pos h]

theorem visible_of_itemAt (h : v.itemAt R p = some it) : Visible R v p ∧ v.slots p = some it := by
  classical
  rw [itemAt_eq] at h
  by_cases hvis : Visible R v p
  · rw [if_pos hvis] at h
    exact ⟨hvis, h⟩
  · rw [if_neg hvis] at h
    cases h

theorem otherAt_of_visible (h : Visible R v p) : v.otherAt R it p = without it.guid v.slots p := by
  unfold otherAt without
  rw [itemAt_of_visible h]

variable {t : Item}

theorem visible_of_otherAt (h : v.otherAt R it p = some t) : Visible R v p := by
  unfold otherAt at h
  rw [Option.filter_eq_some_iff] at h
  exact (visible_of_itemAt h.1).1

theorem Visible.mono (h : Visible R v p) (htabs : v'.guild.purchasedTabs = v.guild.purchasedTabs)
    (hkeeps : ∀ {i t}, v.slots i = some t → ∃ m, v'.slots i = some { t with count := m }) :
    Visible R v' p := by
  obtain ⟨bank, container, slot⟩ := p
  cases bank with
  | true =>
    rw [visible_bank, htabs]
    exact h
  | false =>
    rcases visible_player.1 h with hout | ⟨b, hb, hslot⟩
    · exact visible_player.2 (.inl hout)
    · obtain ⟨hbag, hb, hisBag⟩ := getBagByPos_some.1 hb
      obtain ⟨m, hm⟩ := hkeeps hb
      exact visible_player.2 (.inr ⟨_, getBagByPos_some.2 ⟨hbag, hm, hisBag⟩, hslot⟩)

/-- A place stays in sight when another slot is written, if not both are at the player, and when it is
itself written. -/
theorem Visible.update (h : Visible R v p) (i : Place) (o : Option Item)
    (hi : p.isBank = true ∨ i.isBank = true ∨ i = p) :
    Visible R { v with slots := update v.slots i o } p := by
  obtain ⟨bank, container, slot⟩ := p
  cases bank with
  | true => exact h
  | false =>
    rcases visible_player.1 h with hout | ⟨b, hb, hslot⟩
    · exact visible_player.2 (.inl hout)
    · obtain ⟨hbag, hb, hisBag⟩ := getBagByPos_some.1 hb
      have hne : (⟨false, bag0, container⟩ : Place) ≠ i := by
        rintro rfl
        rcases hi with hi | hi | hi
        · cases hi
        · cases hi
        · have hc : container = bag0 := (congrArg Place.container hi).symm
          rw [hc] at hbag
          exact bag0_not_bag hbag
      refine visible_player.2 (.inr ⟨b, getBagByPos_some.2 ⟨hbag, ?_, hisBag⟩, hslot⟩)
      change Function.update v.slots i o _ = some b
      rw [update_of_ne hne]
      exact hb

theorem canBeMergedPartlyWith_ok {entry : Nat} (h : canBeMergedPartlyWith R t entry = .ok) :
    t.entry = entry ∧ t.count < R.maxStack entry := by
  unfold canBeMergedPartlyWith at h
  by_cases hloot : R.lootGenerated t
  · rw [if_pos hloot] at h
    cases h
  · rw [if_neg hloot] at h
    by_cases hentry : t.entry ≠ entry
    · rw [if_pos hentry] at h
      cases h
    · rw [if_neg hentry] at h
      by_cases hcount : R.maxStack entry ≤ t.count
      · rw [if_pos hcount] at h
        cases h
      · exact ⟨not_not.1 hentry, Nat.lt_of_not_le hcount⟩

/-! ## The slots of a search -/

theorem ofNat_val {j : Nat} (h : j < 256) : (Fin.ofNat 256 j).val = j := Nat.mod_eq_of_lt h

theorem fitToSlot_visible {proto : ItemTemplate}
    (h : v.fitToSlot R bag slot proto = .ok) : Visible R v ⟨false, bag, slot⟩ := by
  unfold fitToSlot at h
  by_cases hbag : bag = bag0
  · rw [if_pos hbag] at h
    by_cases hkey : 86 ≤ slot.val ∧ slot.val < 118 ∧ ¬ proto.isKey
    · rw [if_pos hkey] at h
      cases h
    · rw [if_neg hkey] at h
      by_cases htoken : 118 ≤ slot.val ∧ slot.val < 150 ∧ ¬ proto.isCurrencyToken
      · rw [if_pos htoken] at h
        cases h
      · rw [if_neg htoken] at h
        by_cases hcheat : (74 ≤ slot.val ∧ slot.val < 86) ∨ 150 ≤ slot.val
        · rw [if_pos hcheat] at h
          cases h
        · exact visible_player.2 (.inl ⟨hbag, by omega⟩)
  · rw [if_neg hbag] at h
    cases hb : v.getBagByPos R bag with
    | none =>
      rw [hb] at h
      cases h
    | some b =>
      rw [hb] at h
      dsimp only at h
      by_cases hslot : getBagSize R b ≤ slot.val
      · rw [if_pos hslot] at h
        cases h
      · exact visible_player.2 (.inr ⟨b, hb, Nat.lt_of_not_le hslot⟩)

def SlotRange (slotBegin slotEnd : Nat) : Prop := slotEnd ≤ 74 ∨ 86 ≤ slotBegin ∧ slotEnd ≤ 150

variable {merge : Bool}

def Attempt.InSight : Attempt → Prop
  | .inventorySlots slotBegin slotEnd _ => SlotRange slotBegin slotEnd
  | _ => True

theorem mem_attempts {proto : ItemTemplate} {slotBegin slotEnd : Nat}
    (h : .inventorySlots slotBegin slotEnd merge ∈ attempts bag slot proto) :
    (slotBegin, slotEnd) ∈ [(23, 39), (86, 118), (118, 150), (86, 150)] := by
  unfold attempts at h
  aesop

theorem attempts_inSight {proto : ItemTemplate} : ∀ a ∈ attempts bag slot proto, a.InSight := by
  intro a ha
  cases a with
  | inventorySlots slotBegin slotEnd merge =>
    have hrange := mem_attempts ha
    simp only [List.mem_cons, Prod.mk.injEq, List.not_mem_nil, or_false] at hrange
    change _ ∨ _
    omega
  | _ => trivial

end Vault

end Axium.Guilds
