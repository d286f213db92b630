import Axium.Guilds.StoreOffers

/-!
# Moves conserve items

A request moves items between the slots of the bank and of the player. `Valid` is what holds of the slots:
no stack is over its maximum, no item is in two slots, and every item is where it can be seen, so that no
item is in a bag that is not there.

The space for a move is planned on the slots without the item that is moved (`canStore_fits`), and in a
swap it is the slot of the other item (`canStore_swap`). The item is then taken out and put away along the
plan, with `Stacks.stow`.
-/

namespace Axium.Guilds

open Stacks Function

theorem ItemTemplate.getMaxStackSize_le (proto : ItemTemplate) : proto.getMaxStackSize ≤ 0x7FFFFFFE := by
  have hle := proto.stackable_le
  unfold ItemTemplate.getMaxStackSize
  by_cases h : proto.stackable = 2147483647 ∨ proto.stackable ≤ 0
  · rw [if_pos h]
  · rw [if_neg h]
    omega

namespace Vault

variable {R : Realm} {v v' : Vault} {p src dest side : Place} {it t : Item} {tab slot bag : Byte}

/-! ## Space that was found is there -/

abbrev Fits (R : Realm) (v : Vault) (it : Item) (bank : Bool) (n : Nat) (P : Plan Place) : Prop :=
  P.Fits R.maxStack (without it.guid v.slots) (fun p => Visible R v p ∧ p.isBank = bank) it.entry n

variable {bank : Bool} {n : Nat} {P : Plan Place}

theorem fits_dest (h : Fits R v it bank n P) (hleft : P.left = 0) : Fits R v it bank n ⟨P.dest, 0⟩ := by
  obtain ⟨dest, left⟩ := P
  dsimp only at hleft
  rw [hleft] at h
  exact h

theorem Fits.reserve_free (h : Fits R v it bank n P) (hp : Visible R v p) (hbank : p.isBank = bank)
    (hfree : v.otherAt R it p = none) : Fits R v it bank n (P.reserve p (R.maxStack it.entry)) := by
  apply Plan.Fits.reserve h ⟨hp, hbank⟩
  rw [otherAt_of_visible hp] at hfree
  rw [room_none hfree]
  exact min_le_left ..

theorem Fits.reserve_merge (h : Fits R v it bank n P) (hbank : p.isBank = bank)
    (ht : v.otherAt R it p = some t) (hentry : t.entry = it.entry) (hcount : t.count < R.maxStack it.entry) :
    Fits R v it bank n (P.reserve p (R.maxStack it.entry - t.count)) := by
  have hp := visible_of_otherAt ht
  apply Plan.Fits.reserve h ⟨hp, hbank⟩
  rw [otherAt_of_visible hp] at ht
  rw [room_some ht]
  exact ⟨hentry, by omega⟩

theorem Fits.reserve_good {asked : Place} {o : Place × Nat} (h : Fits R v it false n P)
    (ho : Good R v it asked false o) : Fits R v it false n (P.reserve o.1 o.2) := by
  apply Plan.Fits.reserve h ⟨ho.visible, ho.player⟩
  cases ho.takes with
  | free hfree hmax =>
    have hnone : without it.guid v.slots o.1 = none := by
      unfold without
      exact Option.filter_eq_none_iff.2 fun t ht => by simpa using hfree t ht
    rw [room_none hnone]
    exact (min_le_left ..).trans hmax
  | swapped hswap => cases hswap
  | merged ht hother hmerge hmax =>
    refine (room_some (Option.filter_eq_some_iff.2 ⟨ht, decide_eq_true hother⟩)).2 ?_
    exact ⟨(canBeMergedPartlyWith_ok hmerge).1, (Nat.add_le_add_left (min_le_left ..) _).trans hmax⟩

/-! ## At the player -/

variable {swap merge : Bool} {noSimilar : Nat} {skipSlot : Byte} {vec : List (Place × Nat)}

/-- A result `ok` of `CanStoreItem` comes from a run of the attempts that found place for the whole
item. -/
theorem canStoreItem_run (h : v.canStoreItem R bag slot it swap = (.ok, vec)) :
    ∃ noSimilar P, P.dest = vec ∧
      (attempts bag slot (R.template it.entry)).foldlM (v.attempt R bag slot it swap noSimilar)
        ⟨[], uint32 (it.count - noSimilar)⟩ = .error (.ok, P) := by
  unfold canStoreItem at h
  by_cases hloot : R.lootGenerated it
  · rw [if_pos hloot] at h
    cases h
  rw [if_neg hloot] at h
  by_cases hbound : R.isBindedNotWith it
  · rw [if_pos hbound] at h
    cases h
  rw [if_neg hbound] at h
  dsimp only at h
  by_cases hsim : (R.canTakeMoreSimilarItems it.entry it.count it).1 ≠ .ok ∧
      it.count = (R.canTakeMoreSimilarItems it.entry it.count it).2
  · rw [if_pos hsim] at h
    exact absurd (congrArg Prod.fst h) hsim.1
  rw [if_neg hsim] at h
  generalize (if (R.canTakeMoreSimilarItems it.entry it.count it).1 ≠ .ok then
    (R.canTakeMoreSimilarItems it.entry it.count it).2 else 0) = noSimilar at h
  cases hrun : (attempts bag slot (R.template it.entry)).foldlM (v.attempt R bag slot it swap noSimilar)
      ⟨[], uint32 (it.count - noSimilar)⟩ with
  | ok P =>
    rw [hrun] at h
    cases h
  | error r =>
    obtain ⟨res, P⟩ := r
    rw [hrun] at h
    cases h
    exact ⟨noSimilar, P, rfl, hrun⟩

theorem run_whole (hcount : it.count ≤ R.maxStack it.entry)
    (hrun : (attempts bag slot (R.template it.entry)).foldlM (v.attempt R bag slot it swap noSimilar)
      ⟨[], uint32 (it.count - noSimilar)⟩ = .error (.ok, P)) :
    noSimilar = 0 ∧ uint32 (it.count - noSimilar) = it.count := by
  have hzero := (run_ok hrun).1
  have hmax := (R.template it.entry).getMaxStackSize_le
  unfold Realm.maxStack at hcount
  refine ⟨hzero, ?_⟩
  unfold uint32
  omega

theorem run_fits {proto : ItemTemplate}
    (hrun : (attempts bag slot proto).foldlM (v.attempt R bag slot it false noSimilar) ⟨[], n⟩ = .error (.ok, P)) :
    Fits R v it false n ⟨P.dest, 0⟩ := by
  have hfound : Found (Fits R v it false n) noSimilar (.error (.ok, P)) := by
    rw [← hrun]
    exact run_found (fun _ _ ho hP => hP.reserve_good ho) (fun _ ha => good_offering (attempts_inSight _ ha))
      Plan.fits_start
  exact fits_dest hfound.1 (hfound.2 rfl).2

theorem canStoreItem_fits
    (hcount : it.count ≤ R.maxStack it.entry) (h : v.canStoreItem R bag slot it false = (.ok, vec)) :
    Fits R v it false it.count ⟨vec, 0⟩ := by
  obtain ⟨noSimilar, P, rfl, hrun⟩ := canStoreItem_run h
  have hfits := run_fits hrun
  rwa [(run_whole hcount hrun).2] at hfits

/-! ## In the bank -/

theorem reserveSpace_fits {P' : Plan Place} (hp : Visible R v p) (hbank : p.isBank = bank)
    (h : Fits R v it bank n P) (hres : reserveSpace R p it (v.otherAt R it p) P = some P') :
    Fits R v it bank n P' := by
  cases ht : v.otherAt R it p with
  | none =>
    rw [ht] at hres
    cases hres
    exact h.reserve_free hp hbank ht
  | some t =>
    rw [ht] at hres
    dsimp only [reserveSpace] at hres
    by_cases hno : t.entry ≠ it.entry ∨ R.maxStack it.entry ≤ t.count
    · rw [if_pos hno] at hres
      cases hres
    · rw [if_neg hno] at hres
      cases hres
      rw [not_or, not_not, not_le] at hno
      exact h.reserve_merge hbank ht hno.1 hno.2

theorem canStoreItemInTab_fits {l : List Nat}
    (htab : tab.val < v.guild.purchasedTabs) (hl : ∀ j ∈ l, j < bankMaxSlots) (h : Fits R v it true n P) :
    Fits R v it true n (v.canStoreItemInTab R tab it skipSlot merge l P) := by
  induction l generalizing P with
  | nil => exact h
  | cons j rest ih =>
    have hj : j < bankMaxSlots := hl j (List.mem_cons_self ..)
    have hrest : ∀ k ∈ rest, k < bankMaxSlots := fun k hk => hl k (List.mem_cons_of_mem _ hk)
    have hvis : Visible R v ⟨true, tab, Fin.ofNat 256 j⟩ := by
      refine visible_bank.2 ⟨htab, ?_⟩
      rw [ofNat_val (by unfold bankMaxSlots at hj; omega)]
      exact hj
    unfold canStoreItemInTab
    by_cases hleft : P.left = 0
    · rw [if_pos hleft]
      exact h
    rw [if_neg hleft]
    by_cases hskip : j = skipSlot.val
    · rw [if_pos hskip]
      exact ih hrest h
    rw [if_neg hskip]
    by_cases hmerge : (v.otherAt R it ⟨true, tab, Fin.ofNat 256 j⟩).isSome ≠ merge
    · rw [if_pos hmerge]
      exact ih hrest h
    rw [if_neg hmerge]
    apply ih hrest
    cases hres : reserveSpace R ⟨true, tab, Fin.ofNat 256 j⟩ it
        (v.otherAt R it ⟨true, tab, Fin.ofNat 256 j⟩) P with
    | none => exact h
    | some P' => exact reserveSpace_fits hvis rfl h hres

theorem canStoreInRest_fits (htab : tab.val < v.guild.purchasedTabs)
    (h : Fits R v it true n P) : Fits R v it true n (v.canStoreInRest R tab slot it P).2 := by
  have hrange : ∀ j ∈ List.range bankMaxSlots, j < bankMaxSlots := fun j hj => List.mem_range.1 hj
  apply canStoreItemInTab_fits htab hrange
  by_cases hmax : 1 < R.maxStack it.entry
  · rw [if_pos hmax]
    exact canStoreItemInTab_fits htab hrange h
  · rw [if_neg hmax]
    exact h

theorem canStoreInRest_ok (h : (v.canStoreInRest R tab slot it P).1 = .ok) :
    (v.canStoreInRest R tab slot it P).2.left = 0 := by
  unfold canStoreInRest at h ⊢
  dsimp only at h ⊢
  by_contra hleft
  rw [if_neg hleft] at h
  cases h

theorem canStoreInBank_fits (hslot : slot.val < bankMaxSlots ∨ slot = nullSlot)
    (h : v.canStoreInBank R tab slot it false = (.ok, vec)) : Fits R v it true it.count ⟨vec, 0⟩ := by
  unfold canStoreInBank at h
  by_cases hbound : R.isSoulBound it
  · rw [if_pos hbound] at h
    cases h
  rw [if_neg hbound] at h
  by_cases htab : v.guild.purchasedTabs ≤ tab.val
  · rw [if_pos htab] at h
    cases h
  rw [if_neg htab] at h
  have htab := Nat.lt_of_not_le htab
  have hrest : ∀ {P}, Fits R v it true it.count P →
      (v.canStoreInRest R tab slot it P).map id (·.dest) = (.ok, vec) →
      Fits R v it true it.count ⟨vec, 0⟩ := by
    intro P hP hres
    have hok : (v.canStoreInRest R tab slot it P).1 = .ok := congrArg Prod.fst hres
    have hvec : (v.canStoreInRest R tab slot it P).2.dest = vec := congrArg Prod.snd hres
    rw [← hvec]
    exact fits_dest (canStoreInRest_fits htab hP) (canStoreInRest_ok hok)
  by_cases hnull : slot ≠ nullSlot
  · rw [if_pos hnull] at h
    dsimp only at h
    rw [if_neg Bool.false_ne_true] at h
    have hvis : Visible R v ⟨true, tab, slot⟩ := visible_bank.2 ⟨htab, hslot.resolve_right hnull⟩
    cases hres : reserveSpace R ⟨true, tab, slot⟩ it (v.otherAt R it ⟨true, tab, slot⟩)
        ⟨[], it.count⟩ with
    | none =>
      rw [hres] at h
      cases h
    | some P =>
      rw [hres] at h
      dsimp only at h
      have hfits : Fits R v it true it.count P := reserveSpace_fits hvis rfl Plan.fits_start hres
      by_cases hleft : P.left = 0
      · rw [if_pos hleft] at h
        cases h
        exact fits_dest hfits hleft
      · rw [if_neg hleft] at h
        exact hrest hfits h
  · rw [if_neg hnull] at h
    exact hrest Plan.fits_start h

def Asked (side : Place) : Prop := side.isBank = true → side.slot.val < bankMaxSlots ∨ side.slot = nullSlot

theorem canStore_fits (hasked : Asked side)
    (hcount : it.count ≤ R.maxStack it.entry) (h : v.canStore R side it false = (.ok, vec)) :
    Fits R v it side.isBank it.count ⟨vec, 0⟩ := by
  obtain ⟨bank, container, slot⟩ := side
  cases bank with
  | true => exact canStoreInBank_fits (hasked rfl) h
  | false => exact canStoreItem_fits hcount h

/-! ## In a swap -/

theorem Visible.explicit (h : Visible R v p) :
    p.slot ≠ nullSlot ∧ (p.isBank = false → p.container ≠ nullBag) := by
  obtain ⟨bank, container, slot⟩ := p
  cases bank with
  | true =>
    have hslot := (visible_bank.1 h).2
    refine ⟨?_, fun hb => by cases hb⟩
    rintro rfl
    exact absurd hslot (by decide)
  | false =>
    rcases visible_player.1 h with ⟨rfl, hslot⟩ | ⟨b, hb, hslot⟩
    · have hne : bag0 ≠ nullBag := by decide
      refine ⟨?_, fun _ => hne⟩
      rintro rfl
      exact absurd hslot (by decide)
    · have hsize : getBagSize R b < 37 := (R.template b.entry).containerSlots.isLt
      have hbag := (getBagByPos_some.1 hb).1
      refine ⟨?_, fun _ => ?_⟩
      · rintro rfl
        have hval : (nullSlot : Byte).val = 255 := rfl
        omega
      · rintro rfl
        exact absurd hbag (by decide)

theorem canStoreInBank_swap (hcount : it.count ≤ R.maxStack it.entry) (hslot : slot ≠ nullSlot)
    (h : v.canStoreInBank R tab slot it true = (.ok, vec)) : vec = [(⟨true, tab, slot⟩, it.count)] := by
  unfold canStoreInBank at h
  by_cases hbound : R.isSoulBound it
  · rw [if_pos hbound] at h
    cases h
  rw [if_neg hbound] at h
  by_cases htab : v.guild.purchasedTabs ≤ tab.val
  · rw [if_pos htab] at h
    cases h
  rw [if_neg htab, if_pos hslot] at h
  have hres : reserveSpace R ⟨true, tab, slot⟩ it none ⟨[], it.count⟩ =
      some ⟨[(⟨true, tab, slot⟩, it.count)], 0⟩ := by
    simp [reserveSpace, Plan.reserve, min_eq_right hcount]
  simp only [if_true, hres] at h
  exact (congrArg Prod.snd h).symm

theorem canStoreItemInSpecificSlot_swap {k : Nat} (hk : k ≤ R.maxStack it.entry)
    (h : (v.canStoreItemInSpecificSlot R bag slot it true ⟨[], k⟩).1 = .ok) :
    (v.canStoreItemInSpecificSlot R bag slot it true ⟨[], k⟩).2 = ⟨[(⟨false, bag, slot⟩, k)], 0⟩ := by
  unfold canStoreItemInSpecificSlot at h ⊢
  by_cases hempty : v.isNotEmptyBag R it ∧ ¬ isBagPos bag slot
  · rw [if_pos hempty] at h
    cases h
  rw [if_neg hempty] at h ⊢
  cases hfit : v.fitToSlot R bag slot (R.template it.entry) with
  | ok => simp [Plan.reserve, min_eq_right hk]
  | _ =>
    rw [hfit] at h
    cases h

theorem canStoreItem_swap
    (hcount : it.count ≤ R.maxStack it.entry) (hbag : bag ≠ nullBag) (hslot : slot ≠ nullSlot)
    (h : v.canStoreItem R bag slot it true = (.ok, vec)) : vec = [(⟨false, bag, slot⟩, it.count)] := by
  obtain ⟨noSimilar, P, rfl, hrun⟩ := canStoreItem_run h
  obtain ⟨hzero, hwhole⟩ := run_whole hcount hrun
  obtain ⟨rest, hattempts⟩ : ∃ rest, attempts bag slot (R.template it.entry) = .specificSlot :: rest := by
    unfold attempts
    rw [if_pos ⟨hbag, hslot⟩]
    exact ⟨_, rfl⟩
  rw [hattempts, List.foldlM_cons, hwhole] at hrun
  -- the first attempt ends the run: it fails, or it takes the whole item
  have hfirst : (v.canStoreItemInSpecificSlot R bag slot it true ⟨[], it.count⟩).1 = .ok →
      (v.canStoreItemInSpecificSlot R bag slot it true ⟨[], it.count⟩).2 =
        ⟨[(⟨false, bag, slot⟩, it.count)], 0⟩ :=
    canStoreItemInSpecificSlot_swap hcount
  generalize hr : v.canStoreItemInSpecificSlot R bag slot it true ⟨[], it.count⟩ = r at hfirst
  have hattempt : v.attempt R bag slot it true noSimilar ⟨[], it.count⟩ .specificSlot = settle noSimilar r := by
    rw [← hr]
    rfl
  rw [hattempt] at hrun
  unfold settle at hrun
  by_cases hok : r.1 ≠ .ok
  · rw [if_pos hok] at hrun
    cases hrun
    exact absurd rfl hok
  · rw [if_neg hok] at hrun
    have hplan := hfirst (not_not.1 hok)
    rw [hplan, if_pos hzero] at hrun
    cases hrun
    rfl

theorem canStore_swap (hside : Visible R v side)
    (hcount : it.count ≤ R.maxStack it.entry) (h : v.canStore R side it true = (.ok, vec)) :
    vec = [(side, it.count)] := by
  obtain ⟨hslot, hbag⟩ := hside.explicit
  obtain ⟨bank, container, slot⟩ := side
  cases bank with
  | true => exact canStoreInBank_swap hcount hslot h
  | false => exact canStoreItem_swap hcount (hbag rfl) hslot h

/-! ## Taking out and putting away -/

/-- No stack is over its maximum, no item is in two slots, and every item is where it can be seen or was
sold. -/
structure Valid (R : Realm) (v : Vault) : Prop where
  sound : Sound R.maxStack v.nextGuid v.slots
  placed : ∀ {p it}, v.slots p = some it → Visible R v p ∨ InBuyback p

theorem Valid.congr (h : Valid R v) (hslots : v'.slots = v.slots) (hguid : v.nextGuid ≤ v'.nextGuid)
    (htabs : v'.guild.purchasedTabs = v.guild.purchasedTabs) : Valid R v' where
  sound := by
    rw [hslots]
    exact h.sound.mono hguid
  placed := by
    intro p it hp
    rw [hslots] at hp
    refine (h.placed hp).imp_left fun hvis => hvis.mono htabs ?_
    intro i t ht
    exact ⟨t.count, by rw [hslots]; exact ht⟩

theorem isNotEmptyBag_of_mem (hb : v.getBagByPos R bag = some it)
    (hslot : slot.val < getBagSize R it) (ht : v.slots ⟨false, bag, slot⟩ = some t) :
    v.isNotEmptyBag R it = true := by
  unfold isNotEmptyBag
  rw [List.any_eq_true]
  refine ⟨bag, ?_, ?_⟩
  · rw [List.mem_append]
    exact (getBagByPos_some.1 hb).1
  · rw [hb]
    have hofNat : Fin.ofNat 256 slot.val = slot := Fin.ext (ofNat_val slot.isLt)
    have hany : (List.range (getBagSize R it)).any
        (fun j => (v.slots ⟨false, bag, Fin.ofNat 256 j⟩).isSome) = true := by
      rw [List.any_eq_true]
      refine ⟨slot.val, List.mem_range.2 hslot, ?_⟩
      rw [hofNat, ht]
      rfl
    exact decide_eq_true ⟨rfl, hany⟩

theorem isNotEmptyBag_congr (h : ∀ bag slot, v'.slots ⟨false, bag, slot⟩ = v.slots ⟨false, bag, slot⟩) :
    v'.isNotEmptyBag R it = v.isNotEmptyBag R it := by
  have hbag : ∀ bag, v'.getBagByPos R bag = v.getBagByPos R bag := by
    intro bag
    unfold getBagByPos
    rw [h]
  unfold isNotEmptyBag
  simp only [hbag, h]

theorem Valid.take (h : Valid R v) (hit : v.slots p = some it)
    (hempty : p.isBank = false → v.isNotEmptyBag R it = false) :
    Valid R { v with slots := update v.slots p none } where
  sound := h.sound.take p
  placed := by
    intro q t hq
    change update v.slots p none q = some t at hq
    have hqp : q ≠ p := by
      rintro rfl
      rw [update_self] at hq
      cases hq
    have ht : v.slots q = some t := by
      rwa [update_of_ne hqp] at hq
    refine (h.placed ht).imp_left fun hvis => ?_
    obtain ⟨bank, container, slot⟩ := q
    cases bank with
    | true => exact hvis.update p none (.inl rfl)
    | false =>
      rcases visible_player.1 hvis with hout | ⟨b, hb, hslot⟩
      · exact visible_player.2 (.inl hout)
      · obtain ⟨hbag, hbs, hisBag⟩ := getBagByPos_some.1 hb
        have hne : (⟨false, bag0, container⟩ : Place) ≠ p := by
          rintro rfl
          rw [hit] at hbs
          cases hbs
          have hnot := isNotEmptyBag_of_mem hb hslot ht
          rw [hempty rfl] at hnot
          cases hnot
        refine visible_player.2 (.inr ⟨b, getBagByPos_some.2 ⟨hbag, ?_, hisBag⟩, hslot⟩)
        change update v.slots p none _ = some b
        rw [update_of_ne hne]
        exact hbs

variable {m : Nat}

theorem Valid.lower (h : Valid R v) (hit : v.slots p = some it) (hm : m ≤ it.count) :
    Valid R { v with slots := update v.slots p (some { it with count := m }) } where
  sound := h.sound.setCount hit (hm.trans (h.sound.bounded hit))
  placed := by
    intro q t hq
    have hold : ∃ u, v.slots q = some u := by
      by_cases hqp : q = p
      · exact ⟨it, hqp ▸ hit⟩
      · change update v.slots p _ q = some t at hq
        rw [update_of_ne hqp] at hq
        exact ⟨t, hq⟩
    obtain ⟨u, hu⟩ := hold
    refine (h.placed hu).imp_left fun hvis => hvis.mono rfl ?_
    intro i t ht
    exact setCount_keeps hit ht

theorem storeAt_eq {clone : Bool} {count : Nat} (hp : Visible R v p) :
    v.storeAt R it clone p count =
      { v with
        slots := (drop R.maxStack it (!clone) p count (v.nextGuid, v.slots)).2
        nextGuid := (drop R.maxStack it (!clone) p count (v.nextGuid, v.slots)).1 } := by
  have hset : ∀ c : Item, v.setItem R p c = { v with slots := update v.slots p (some c) } := by
    intro c
    obtain ⟨bank, container, slot⟩ := p
    cases bank with
    | true => exact if_pos (visible_bank.1 hp)
    | false =>
      unfold setItem
      rw [if_neg Bool.false_ne_true]
      by_cases hbag : container = bag0
      · rw [if_pos (.inl hbag), hbag]
      · rcases visible_player.1 hp with hout | ⟨b, hb, -⟩
        · exact absurd hout.1 hbag
        · rw [if_neg]
          rw [hb, not_or]
          exact ⟨hbag, Option.some_ne_none b⟩
  unfold storeAt drop
  rw [itemAt_of_visible hp]
  dsimp only
  cases ht : v.slots p with
  | some t => rfl
  | none =>
    cases clone with
    | false => simp [hset]
    | true =>
      cases hc : Stacks.clone R.maxStack v.nextGuid it count with
      | none => simp
      | some c => simp [hset]

theorem storeItem_eq (hvec : ∀ q ∈ vec, Visible R v q.1) :
    storeItem R it vec v =
      { v with
        slots := (stow R.maxStack it vec (v.nextGuid, v.slots)).2
        nextGuid := (stow R.maxStack it vec (v.nextGuid, v.slots)).1 } := by
  induction vec generalizing v with
  | nil => rfl
  | cons q rest ih =>
    obtain ⟨p, count⟩ := q
    have hp : Visible R v p := hvec (p, count) (List.mem_cons_self ..)
    unfold storeItem stow
    rw [storeAt_eq hp, Bool.not_not]
    rw [ih]
    intro q hq
    refine (hvec q (List.mem_cons_of_mem _ hq)).mono rfl ?_
    intro i t ht
    exact drop_keeps ht

theorem Valid.store (h : Valid R v) (hit : InHand v.nextGuid v.slots it) (hnodup : (vec.map Prod.fst).Nodup)
    (hvec : ∀ q ∈ vec, Visible R v q.1 ∧ Room R.maxStack v.slots it.entry q.1 q.2) :
    Valid R (storeItem R it vec v) ∧
      Stowed R.maxStack v.nextGuid v.slots it (vec.map Prod.fst) (vec.map Prod.snd).sum
        (storeItem R it vec v).nextGuid (storeItem R it vec v).slots := by
  have hstow := stow_spec h.sound hit hnodup (fun q hq => (hvec q hq).2)
  rw [storeItem_eq (fun q hq => (hvec q hq).1)]
  refine ⟨⟨hstow.sound, ?_⟩, hstow⟩
  intro p t hp
  have hvis : Visible R v p ∨ InBuyback p := by
    by_cases hmem : p ∈ vec.map Prod.fst
    · obtain ⟨q, hq, rfl⟩ := List.mem_map.1 hmem
      exact .inl (hvec q hq).1
    · exact h.placed ((hstow.only hmem).symm.trans hp)
  exact hvis.imp_left fun hvis => hvis.mono rfl hstow.keeps

theorem Valid.store_one (h : Valid R v) (hit : InHand v.nextGuid v.slots it) (hp : Visible R v p)
    (hfree : v.slots p = none) (hmax : it.count ≤ R.maxStack it.entry) :
    Valid R (storeItem R it [(p, it.count)] v) ∧
      Stowed R.maxStack v.nextGuid v.slots it [p] it.count
        (storeItem R it [(p, it.count)] v).nextGuid (storeItem R it [(p, it.count)] v).slots := by
  have hvec : ∀ q ∈ [(p, it.count)], Visible R v q.1 ∧ Room R.maxStack v.slots it.entry q.1 q.2 := by
    intro q hq
    rw [List.mem_singleton.1 hq]
    exact ⟨hp, (room_none hfree).2 hmax⟩
  exact h.store hit (List.nodup_singleton p) hvec

theorem storeItem_guild {n : Nat} (hp : Visible R v p) : (storeItem R it [(p, n)] v).guild = v.guild := by
  rw [storeItem_eq]
  intro q hq
  rw [List.mem_singleton.1 hq]
  exact hp

theorem getMemberRemaining_purchasedTabs (g : Guild) (guid : Guid) (a : Allowance) (now : Nat) :
    (g.getMemberRemaining guid a now).2.purchasedTabs = g.purchasedTabs := by
  unfold Guild.getMemberRemaining
  cases g.members.find? guid with
  | none => rfl
  | some m => rfl

theorem decreaseMemberRemainingSlots_purchasedTabs (g : Guild) (guid : Guid) (tab : Fin 6) (now : Nat) :
    (g.decreaseMemberRemainingSlots guid tab now).purchasedTabs = g.purchasedTabs := by
  unfold Guild.decreaseMemberRemainingSlots
  dsimp only
  split
  · exact getMemberRemaining_purchasedTabs ..
  · exact getMemberRemaining_purchasedTabs ..

theorem hasWithdrawRights_purchasedTabs (side other : Place) :
    (v.hasWithdrawRights R side other).2.purchasedTabs = v.guild.purchasedTabs := by
  unfold hasWithdrawRights
  split
  · rfl
  · split
    · exact getMemberRemaining_purchasedTabs ..
    · rfl

theorem removeItem_purchasedTabs (side other : Place) (it : Item) (splitedAmount : Nat) :
    (v.removeItem R side other it splitedAmount).guild.purchasedTabs = v.guild.purchasedTabs := by
  unfold removeItem
  split
  · rfl
  · split
    · exact decreaseMemberRemainingSlots_purchasedTabs ..
    · rfl

theorem removeItem_slots (side other : Place) (it : Item) :
    (v.removeItem R side other it 0).slots = update v.slots side none := rfl

theorem Valid.removeItem (h : Valid R v) (hit : v.slots p = some it)
    (hempty : p.isBank = false → v.isNotEmptyBag R it = false) (other : Place) :
    Valid R (v.removeItem R p other it 0) :=
  (h.take hit hempty).congr rfl le_rfl (removeItem_purchasedTabs ..)

theorem Visible.removeItem (h : Visible R v p) {i : Place}
    (hi : p.isBank = true ∨ i.isBank = true ∨ i = p) (other : Place) :
    Visible R (v.removeItem R i other t 0) p := by
  refine (h.update i none hi).mono (removeItem_purchasedTabs ..) ?_
  intro j u hu
  exact ⟨u.count, hu⟩

/-! ## Moves -/

def Conserved (R : Realm) (v v' : Vault) : Prop := Valid R v' ∧ ∀ e, total e v'.slots = total e v.slots

theorem doItemsMove_merge (h : Valid R v) (hit : v.slots src = some it)
    (hempty : src.isBank = false → v.isNotEmptyBag R it = false)
    (hbanks : src.isBank = true ∨ dest.isBank = true) (hasked : Asked dest)
    (hmove : v.doItemsMove R src dest it it none 0 = some v') : Conserved R v v' := by
  unfold doItemsMove at hmove
  cases hcan : v.canStore R dest it (none : Option Item).isSome with
  | mk res vec =>
    rw [hcan] at hmove
    cases res with
    | ok =>
      cases hmove
      have hfits := canStore_fits hasked (h.sound.bounded hit) hcan
      rw [Fits, without_eq_take h.sound hit] at hfits
      have hstore := (h.removeItem hit hempty dest).store (h.sound.inHand hit) hfits.nodup (by
        intro q hq
        obtain ⟨⟨hvis, hbank⟩, hroom⟩ := hfits.room q hq
        refine ⟨hvis.removeItem ?_ dest, hroom⟩
        rcases hbanks with hsrc | hdest
        · exact .inr (.inl hsrc)
        · exact .inl (hbank.trans hdest))
      refine ⟨hstore.1, ?_⟩
      intro e
      have hsum : (vec.map Prod.snd).sum = it.count := hfits.sum
      have hput := hstore.2.total e
      rw [hsum, removeItem_slots, total_take e hit] at hput
      exact hput
    | _ => cases hmove

theorem removeItem_slots_split (hm : m ≠ 0) (side other : Place) (it : Item) :
    (v.removeItem R side other it m).slots =
      update v.slots side (some { it with count := it.count - m }) := by
  unfold removeItem
  rw [if_pos hm]

theorem doItemsMove_split {c : Item} (h : Valid R v) (hit : v.slots src = some it)
    (hm0 : m ≠ 0) (hm : m < it.count) (hc : c = ⟨v.nextGuid, it.entry, m⟩) (hasked : Asked dest)
    (hmove : { v with nextGuid := v.nextGuid + 1 }.doItemsMove R src dest it c none m = some v') :
    Conserved R v v' := by
  have hguid : c.guid = v.nextGuid := by rw [hc]
  have hentry : c.entry = it.entry := by rw [hc]
  have hcount : c.count = m := by rw [hc]
  have hmax := h.sound.bounded hit
  unfold doItemsMove at hmove
  cases hcan : { v with nextGuid := v.nextGuid + 1 }.canStore R dest c (none : Option Item).isSome with
  | mk res vec =>
    rw [hcan] at hmove
    cases res with
    | ok =>
      cases hmove
      have hfits := canStore_fits hasked (by rw [hentry]; omega) hcan
      rw [Fits, hguid] at hfits
      rw [without_of_le h.sound le_rfl] at hfits
      generalize hv1 : { v with nextGuid := v.nextGuid + 1 }.removeItem R src dest it m = v1
      have hslots : v1.slots = update v.slots src (some { it with count := it.count - m }) := by
        rw [← hv1, removeItem_slots_split hm0]
      have hnext : v1.nextGuid = v.nextGuid + 1 := by rw [← hv1]; rfl
      have htabs : v1.guild.purchasedTabs = v.guild.purchasedTabs := by
        rw [← hv1, removeItem_purchasedTabs]
      have hlower := h.lower hit (Nat.sub_le it.count m)
      have hvalid : Valid R v1 := hlower.congr hslots (by rw [hnext]; exact Nat.le_succ _) htabs
      have hhand : InHand v1.nextGuid v1.slots c := by
        refine ⟨?_, by rw [hguid, hnext]; exact Nat.lt_succ_self _⟩
        intro i t ht
        rw [hslots] at ht
        rw [hguid]
        exact (hlower.sound.fresh ht).ne
      have hstore := hvalid.store hhand hfits.nodup (by
        intro q hq
        obtain ⟨⟨hvis, -⟩, hroom⟩ := hfits.room q hq
        refine ⟨hvis.mono htabs ?_, ?_⟩
        · intro i t ht
          rw [hslots]
          exact setCount_keeps hit ht
        · rw [hslots]
          exact hroom.lower hit (Nat.sub_le it.count m))
      refine ⟨hstore.1, ?_⟩
      intro e
      have hsum : (vec.map Prod.snd).sum = m := hfits.sum.trans hcount
      have hput := hstore.2.total e
      rw [hsum, hslots, hentry, total_lower e hit hm.le] at hput
      exact hput
    | _ => cases hmove

theorem swap_conserved {d : Item} (h : Valid R v) (hit : v.slots src = some it)
    (hd : v.slots dest = some d) (hsrc : Visible R v src) (hdest : Visible R v dest)
    (hempty : src.isBank = false → v.isNotEmptyBag R it = false)
    (hempty' : dest.isBank = false → v.isNotEmptyBag R d = false)
    (hbanks : src.isBank = true ∨ dest.isBank = true) (hne : src ≠ dest) :
    Conserved R v (storeItem R d [(src, d.count)] (storeItem R it [(dest, it.count)]
      ((v.removeItem R src dest it 0).removeItem R dest src d 0))) := by
  have hguids : it.guid ≠ d.guid := fun hguid => hne (h.sound.apart hit hd hguid)
  -- the two items are taken out
  generalize hv1 : v.removeItem R src dest it 0 = v1
  have hslots1 : v1.slots = update v.slots src none := by rw [← hv1, removeItem_slots]
  have hvalid1 : Valid R v1 := hv1 ▸ h.removeItem hit hempty dest
  have hd1 : v1.slots dest = some d := by rw [hslots1, update_of_ne hne.symm, hd]
  have hempty1 : dest.isBank = false → v1.isNotEmptyBag R d = false := by
    intro hdb
    rw [← hempty' hdb]
    apply isNotEmptyBag_congr
    intro bag slot
    rw [hslots1, update_of_ne]
    rintro rfl
    rcases hbanks with hb | hb
    · cases hb
    · rw [hdb] at hb
      cases hb
  generalize hv2 : v1.removeItem R dest src d 0 = v2
  have hslots2 : v2.slots = update v1.slots dest none := by rw [← hv2, removeItem_slots]
  have hnext2 : v2.nextGuid = v.nextGuid := by rw [← hv2, ← hv1]; rfl
  have hvalid2 : Valid R v2 := hv2 ▸ hvalid1.removeItem hd1 hempty1 src
  have hsrc2 : Visible R v2 src := by
    rw [← hv2, ← hv1]
    exact (hsrc.removeItem (.inr (.inr rfl)) dest).removeItem (hbanks.imp_right .inl) src
  have hdest2 : Visible R v2 dest := by
    rw [← hv2, ← hv1]
    exact (hdest.removeItem (hbanks.symm.imp_right .inl) dest).removeItem (.inr (.inr rfl)) src
  have hit2 : InHand v2.nextGuid v2.slots it := by
    rw [hnext2, hslots2, hslots1]
    exact (h.sound.inHand hit).take dest
  have hd2 : InHand v2.nextGuid v2.slots d := by
    rw [← hv2]
    exact hvalid1.sound.inHand hd1
  -- the first one is put away
  have hfree2 : v2.slots dest = none := by rw [hslots2, update_self]
  obtain ⟨hvalid3, hstow3⟩ := hvalid2.store_one hit2 hdest2 hfree2 (h.sound.bounded hit)
  have hguild3 : (storeItem R it [(dest, it.count)] v2).guild = v2.guild := storeItem_guild hdest2
  generalize storeItem R it [(dest, it.count)] v2 = v3 at hvalid3 hstow3 hguild3
  -- and then the second one
  have hsrc3 : Visible R v3 src := hsrc2.mono (by rw [hguild3]) hstow3.keeps
  have hfree3 : v3.slots src = none := by
    rw [hstow3.only (by simpa using hne), hslots2, update_of_ne hne, hslots1, update_self]
  obtain ⟨hvalid4, hstow4⟩ := hvalid3.store_one (hstow3.inHand hd2 hguids) hsrc3 hfree3 (h.sound.bounded hd)
  refine ⟨hvalid4, ?_⟩
  intro e
  calc total e (storeItem R d [(src, d.count)] v3).slots
      = total e v3.slots + (if d.entry = e then d.count else 0) := hstow4.total e
    _ = total e v2.slots + (if it.entry = e then it.count else 0) +
          (if d.entry = e then d.count else 0) := by rw [hstow3.total e]
    _ = total e v2.slots + (if d.entry = e then d.count else 0) +
          (if it.entry = e then it.count else 0) := add_right_comm ..
    _ = total e v1.slots + (if it.entry = e then it.count else 0) := by
          rw [hslots2, total_take e hd1]
    _ = total e v.slots := by rw [hslots1, total_take e hit]

theorem doItemsMove_swap {d : Item} (h : Valid R v) (hit : v.slots src = some it)
    (hd : v.slots dest = some d) (hsrc : Visible R v src) (hdest : Visible R v dest)
    (hempty : src.isBank = false → v.isNotEmptyBag R it = false)
    (hempty' : dest.isBank = false → v.isNotEmptyBag R d = false)
    (hbanks : src.isBank = true ∨ dest.isBank = true) (hne : src ≠ dest)
    (hmove : v.doItemsMove R src dest it it (some d) 0 = some v') : Conserved R v v' := by
  unfold doItemsMove at hmove
  cases hcan : v.canStore R dest it (some d).isSome with
  | mk res vec =>
    rw [hcan] at hmove
    cases res with
    | ok =>
      dsimp only at hmove
      cases hcan' : v.canStore R src d true with
      | mk res' vec' =>
        rw [hcan'] at hmove
        cases res' with
        | ok =>
          cases hmove
          have hvec := canStore_swap hdest (h.sound.bounded hit) hcan
          have hvec' := canStore_swap hsrc (h.sound.bounded hd) hcan'
          rw [hvec, hvec']
          exact swap_conserved h hit hd hsrc hdest hempty hempty' hbanks hne
        | _ => cases hmove
    | _ => cases hmove

/-! ## Requests -/

theorem initItem_some (h : v.initItem R side = some it) :
    Visible R v side ∧ v.slots side = some it ∧
      (side.isBank = false → v.isNotEmptyBag R it = false) := by
  obtain ⟨bank, container, slot⟩ := side
  cases bank with
  | true =>
    obtain ⟨hvis, hslot⟩ : Visible R v ⟨true, container, slot⟩ ∧ _ := visible_of_itemAt h
    exact ⟨hvis, hslot, fun hb => by cases hb⟩
  | false =>
    unfold initItem at h
    rw [if_neg Bool.false_ne_true, Option.filter_eq_some_iff, Bool.and_eq_true, Bool.not_eq_true'] at h
    obtain ⟨hvis, hslot⟩ : Visible R v ⟨false, container, slot⟩ ∧ _ := visible_of_itemAt h.1
    exact ⟨hvis, hslot, fun _ => h.2.1⟩

/-- What a request leaves: the items are conserved, and the slots are as before if nothing was moved. -/
def Outcome (R : Realm) (v : Vault) (r : Bool × Vault) : Prop :=
  Conserved R v r.2 ∧ (r.1 = false → r.2.slots = v.slots)

theorem Conserved.outcome (h : Conserved R v v') : Outcome R v (true, v') := ⟨h, fun hf => by cases hf⟩

theorem Valid.refused (h : Valid R v) (hslots : v'.slots = v.slots) (hguid : v.nextGuid ≤ v'.nextGuid)
    (htabs : v'.guild.purchasedTabs = v.guild.purchasedTabs) : Outcome R v (false, v') :=
  ⟨⟨h.congr hslots hguid htabs, fun e => by rw [hslots]⟩, fun _ => hslots⟩

theorem Valid.withdrawRights (h : Valid R v) (side other : Place) :
    Valid R { v with guild := (v.hasWithdrawRights R side other).2 } :=
  h.congr rfl le_rfl (hasWithdrawRights_purchasedTabs side other)

theorem Visible.withdrawRights (h : Visible R v p) (side other : Place) :
    Visible R { v with guild := (v.hasWithdrawRights R side other).2 } p :=
  h.mono (hasWithdrawRights_purchasedTabs side other) fun ht => ⟨_, ht⟩

theorem swapMove_outcome (h : Valid R v) (hit : v.initItem R src = some it)
    (hbanks : src.isBank = true ∨ dest.isBank = true) (hne : src ≠ dest) :
    Outcome R v (v.swapMove R src dest it) := by
  obtain ⟨hsrc, hslot, hempty⟩ := initItem_some hit
  have hsame : Outcome R v (false, v) := h.refused rfl le_rfl rfl
  unfold swapMove
  cases hd : v.initItem R dest with
  | none => exact hsame
  | some d =>
    obtain ⟨hdest, hslot', hempty'⟩ := initItem_some hd
    dsimp only
    by_cases hstore : ¬ v.hasStoreRights R src dest
    · rw [if_pos hstore]
      exact hsame
    rw [if_neg hstore]
    have hrefused : Outcome R v (false, { v with guild := (v.hasWithdrawRights R dest src).2 }) :=
      h.refused rfl le_rfl (hasWithdrawRights_purchasedTabs dest src)
    by_cases hwithdraw : ¬ (v.hasWithdrawRights R dest src).1
    · rw [if_pos hwithdraw]
      exact hrefused
    rw [if_neg hwithdraw]
    cases hmove : { v with guild := (v.hasWithdrawRights R dest src).2 }.doItemsMove R src dest it it
        (some d) 0 with
    | none => exact hrefused
    | some v' =>
      apply Conserved.outcome
      have hswap := doItemsMove_swap (h.withdrawRights dest src) hslot hslot'
        (hsrc.withdrawRights dest src) (hdest.withdrawRights dest src) hempty hempty' hbanks hne hmove
      exact hswap

theorem splitOrMerge_outcome (h : Valid R v) (hit : v.initItem R src = some it)
    (hm : m < it.count ∨ m = 0) (hbanks : src.isBank = true ∨ dest.isBank = true) (hne : src ≠ dest)
    (hasked : Asked dest) : Outcome R v (v.splitOrMerge R src dest it m) := by
  obtain ⟨-, hslot, hempty⟩ := initItem_some hit
  unfold splitOrMerge
  by_cases hm0 : m ≠ 0
  · rw [if_pos hm0]
    have hlt := hm.resolve_right hm0
    have hmax := h.sound.bounded hslot
    have hclone : Stacks.clone R.maxStack v.nextGuid it m = some ⟨v.nextGuid, it.entry, m⟩ := by
      rw [Stacks.clone, if_neg hm0, min_eq_left (hlt.le.trans hmax)]
    rw [hclone]
    dsimp only
    cases hmove : { v with nextGuid := v.nextGuid + 1 }.doItemsMove R src dest it
        ⟨v.nextGuid, it.entry, m⟩ none m with
    | none => exact h.refused rfl (Nat.le_succ _) rfl
    | some v' => exact (doItemsMove_split h hslot hm0 hlt rfl hasked hmove).outcome
  · rw [if_neg hm0]
    cases hmove : v.doItemsMove R src dest it it none 0 with
    | none => exact swapMove_outcome h hit hbanks hne
    | some v' => exact (doItemsMove_merge h hslot hempty hbanks hasked hmove).outcome

theorem initItem_withdrawRights (h : v.initItem R src = some it) (side other : Place) :
    { v with guild := (v.hasWithdrawRights R side other).2 }.initItem R src = some it := by
  unfold initItem getItem at h ⊢
  rw [hasWithdrawRights_purchasedTabs]
  exact h

theorem moveItems_outcome (h : Valid R v) (hbanks : src.isBank = true ∨ dest.isBank = true)
    (hne : src ≠ dest) (hasked : Asked dest) : Outcome R v (v.moveItems R src dest m) := by
  have hsame : Outcome R v (false, v) := h.refused rfl le_rfl rfl
  unfold moveItems
  cases hit : v.initItem R src with
  | none => exact hsame
  | some it =>
    dsimp only
    by_cases hm : it.count < m
    · rw [if_pos hm]
      exact hsame
    rw [if_neg hm]
    by_cases hstore : ¬ v.hasStoreRights R dest src
    · rw [if_pos hstore]
      exact hsame
    rw [if_neg hstore]
    by_cases hwithdraw : ¬ (v.hasWithdrawRights R src dest).1
    · rw [if_pos hwithdraw]
      exact h.refused rfl le_rfl (hasWithdrawRights_purchasedTabs src dest)
    rw [if_neg hwithdraw]
    have hsplit : (if m = it.count then 0 else m) < it.count ∨ (if m = it.count then 0 else m) = 0 := by
      by_cases heq : m = it.count
      · exact .inr (if_pos heq)
      · rw [if_neg heq]
        omega
    exact splitOrMerge_outcome (h.withdrawRights src dest) (initItem_withdrawRights hit src dest) hsplit
      hbanks hne hasked

theorem request_outcome (h : Valid R v) (q : Request) : Outcome R v (v.request R q) := by
  have hsame : Outcome R v (false, v) := h.refused rfl le_rfl rfl
  cases q with
  | swapItems tab slot destTab destSlot m =>
    unfold request swapItems
    dsimp only
    by_cases hrange : v.guild.purchasedTabs ≤ tab.val ∨ bankMaxSlots ≤ slot.val ∨
        v.guild.purchasedTabs ≤ destTab.val ∨ bankMaxSlots ≤ destSlot.val
    · rw [if_pos hrange]
      exact hsame
    rw [if_neg hrange]
    by_cases heq : tab = destTab ∧ slot = destSlot
    · rw [if_pos heq]
      exact hsame
    rw [if_neg heq]
    apply moveItems_outcome h (.inl rfl)
    · intro hplace
      exact heq ⟨congrArg Place.container hplace, congrArg Place.slot hplace⟩
    · intro _
      left
      dsimp only
      omega
  | swapItemsWithInventory toChar tab slot playerBag playerSlot m =>
    unfold request swapItemsWithInventory
    dsimp only
    by_cases hrange : (bankMaxSlots ≤ slot.val ∧ slot ≠ nullSlot) ∨ v.guild.purchasedTabs ≤ tab.val
    · rw [if_pos hrange]
      exact hsame
    rw [if_neg hrange]
    by_cases hto : toChar = true
    · rw [if_pos hto]
      apply moveItems_outcome h (.inl rfl)
      · intro hplace
        cases congrArg Place.isBank hplace
      · rintro ⟨⟩
    · rw [if_neg hto]
      apply moveItems_outcome h (.inr rfl)
      · intro hplace
        cases congrArg Place.isBank hplace
      · intro _
        rw [not_or, not_and_or, not_le, not_not] at hrange
        exact hrange.1

theorem Conserved.trans {v'' : Vault} (h : Conserved R v v') (h' : Conserved R v' v'') : Conserved R v v'' :=
  ⟨h'.1, fun e => (h'.2 e).trans (h.2 e)⟩

theorem Valid.of_template {R' : Realm} (h : Valid R v) (hT : R'.template = R.template) : Valid R' v := by
  obtain ⟨T', player', now', sb', ct', lg', bn', tm'⟩ := R'
  cases hT
  exact ⟨h.sound, h.placed⟩

def requests (v : Vault) (l : List (Realm × Request)) : Vault :=
  l.foldl (fun v q => (v.request q.1 q.2).2) v

/-- **No sequence of requests makes or loses a piece**, whatever else the server asks of the items meanwhile. -/
theorem requests_conserved {l : List (Realm × Request)} (hT : ∀ q ∈ l, q.1.template = R.template)
    (h : Valid R v) : Conserved R v (v.requests l) := by
  induction l generalizing v with
  | nil => exact ⟨h, fun _ => rfl⟩
  | cons q rest ih =>
    have hq := hT q (List.mem_cons_self ..)
    have hstep := (request_outcome (h.of_template hq) q.2).1
    have hvalid : Valid R (v.request q.1 q.2).2 := hstep.1.of_template hq.symm
    have hrest := ih (fun r hr => hT r (List.mem_cons_of_mem _ hr)) hvalid
    exact Conserved.trans ⟨hvalid, hstep.2⟩ hrest

/-- Every request of a member leaves the pieces of every entry, no stack over its maximum and no item in
two slots; and one that is refused leaves every slot as it was. -/
theorem request_conserves (h : Valid R v) (q : Request) :
    (∀ e, total e (v.request R q).2.slots = total e v.slots) ∧
    (∀ p t, (v.request R q).2.slots p = some t → t.count ≤ R.maxStack t.entry) ∧
    (∀ p p' t t', (v.request R q).2.slots p = some t → (v.request R q).2.slots p' = some t' →
      t.guid = t'.guid → p = p') ∧
    ((v.request R q).1 = false → (v.request R q).2.slots = v.slots) := by
  obtain ⟨⟨hvalid, htotal⟩, hrefused⟩ := request_outcome h q
  refine ⟨htotal, ?_, ?_, hrefused⟩
  · intro p t hp
    exact hvalid.sound.bounded hp
  · intro p p' t t' hp hp' hguid
    exact hvalid.sound.apart hp hp' hguid

def herbRealm : Realm where
  template := fun _ => { stackable := 20 }
  player := 1
  now := 30000000
  isSoulBound := fun _ => false
  canBeTraded := fun _ => true
  lootGenerated := fun _ => false
  isBindedNotWith := fun _ => false
  canTakeMoreSimilarItems := fun _ _ _ => (.ok, 0)

def herbVault : Vault where
  guild := { Guild.create 1 "Master" with purchasedTabs := 1 }
  slots := update (update (fun _ => none) ⟨true, 0, 0⟩ (some ⟨1, 765, 15⟩)) ⟨false, 255, 23⟩
    (some ⟨2, 765, 10⟩)
  nextGuid := 3

theorem herbVault_slots (h : herbVault.slots p = some it) :
    (p = ⟨true, 0, 0⟩ ∧ it = ⟨1, 765, 15⟩) ∨ (p = ⟨false, 255, 23⟩ ∧ it = ⟨2, 765, 10⟩) := by
  unfold herbVault at h
  dsimp only at h
  by_cases hbag : p = ⟨false, 255, 23⟩
  · rw [hbag] at h
    cases h
    exact .inr ⟨hbag, rfl⟩
  · rw [update_of_ne hbag] at h
    by_cases hbank : p = ⟨true, 0, 0⟩
    · rw [hbank] at h
      cases h
      exact .inl ⟨hbank, rfl⟩
    · rw [update_of_ne hbank] at h
      cases h

theorem herbVault_valid : Valid herbRealm herbVault where
  sound := by
    refine ⟨?_, ?_, ?_⟩
    · intro p t hp
      rcases herbVault_slots hp with ⟨-, rfl⟩ | ⟨-, rfl⟩
      · decide
      · decide
    · intro p p' t t' hp hp' hguid
      rcases herbVault_slots hp with ⟨rfl, rfl⟩ | ⟨rfl, rfl⟩
      · rcases herbVault_slots hp' with ⟨rfl, rfl⟩ | ⟨rfl, rfl⟩
        · rfl
        · exact absurd hguid (by decide)
      · rcases herbVault_slots hp' with ⟨rfl, rfl⟩ | ⟨rfl, rfl⟩
        · exact absurd hguid (by decide)
        · rfl
    · intro p t hp
      rcases herbVault_slots hp with ⟨-, rfl⟩ | ⟨-, rfl⟩
      · decide
      · decide
  placed := by
    intro p t hp
    rcases herbVault_slots hp with ⟨rfl, -⟩ | ⟨rfl, -⟩
    · exact .inl (visible_bank.2 (by decide))
    · exact .inl (visible_player.2 (.inl (by decide)))

/-- The ten herbs go on the fifteen: five fill the stack up, and five are a stack in the next slot. -/
theorem herbVault_conserves :
    (herbVault.request herbRealm (.swapItemsWithInventory false 0 0 255 23 0)).2.slots ⟨true, 0, 1⟩ =
      some ⟨2, 765, 5⟩ ∧
    ∀ e, total e (herbVault.request herbRealm (.swapItemsWithInventory false 0 0 255 23 0)).2.slots =
      total e herbVault.slots :=
  ⟨by decide, (request_conserves herbVault_valid _).1⟩

def herbRequests : List (Realm × Request) :=
  [(herbRealm, .swapItemsWithInventory false 0 0 255 23 0), (herbRealm, .swapItemsWithInventory true 0 1 255 23 0)]

/-- The five herbs of the new stack are taken out again. -/
theorem herbRequests_conserved : (herbVault.requests herbRequests).slots ⟨false, 255, 23⟩ = some ⟨2, 765, 5⟩ ∧
    Conserved herbRealm herbVault (herbVault.requests herbRequests) :=
  ⟨by decide, requests_conserved (by simp [herbRequests]) herbVault_valid⟩

end Vault

end Axium.Guilds
