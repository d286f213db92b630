import Axium.Guilds.ItemMoves

/-!
# What there is no space for

`Player::CanStoreItem` with the count of its own and with `no_space_count`, for an item and for new items, and
`CanTakeMoreSimilarItems` with the limits that it reads, from `Player.cpp`. What there are too many of is taken
off the count before the search, in `uint32`. When the player is over the limit already, that is more than the
count, and the search is about nearly `2 ^ 32` units: `canStoreItem_exact_iff` has the exact condition.
-/

namespace Axium.Player

open Guilds Stacks Vault Function

/-- `ItemLimitCategoryEntry`; the flag is for `ITEM_LIMIT_CATEGORY_MODE_HAVE`. -/
structure LimitCategory where
  maxCount : Nat
  modeHave : Bool

structure Limits where
  maxCount : Nat → Int := fun _ => 0
  itemLimitCategory : Nat → Nat := fun _ => 0
  limitCategory : Nat → Option LimitCategory := fun _ => none
  gemProperties : Nat → Bool := fun _ => false
  hasSocket : Nat → Bool := fun _ => false
  getGemCountWithID : Item → Nat → Nat := fun _ _ => 0

/-- What `CanStoreItem` leaves: its result, `dest`, and `no_space_count` if it was set. -/
structure Placement where
  result : InventoryResult
  dest : List (Place × Nat)
  noSpaceCount : Option Nat

/-- What a place is looked for: the item that is moved, or a new object. The count in it is not read. -/
def wanted (v : Vault) (entry : Nat) (pItem : Option Item) : Item :=
  ⟨(pItem.map (·.guid)).getD v.nextGuid, entry, 0⟩

namespace Limits

variable (L : Limits) (R : Realm) (v : Vault)

/-! ## Counting -/

/-- The sum of `f` over the items in the slots from `slotBegin` to `slotEnd` outside bags. -/
def sumSlots (f : Item → Nat) (slotBegin slotEnd : Nat) : Nat :=
  ((List.range' slotBegin (slotEnd - slotBegin)).map fun j =>
    ((v.getItemByPos R bag0 (Fin.ofNat 256 j)).map f).getD 0).sum

def sumBags (f : Item → Nat) (bags : List Byte) : Nat :=
  (bags.map fun bag => match v.getBagByPos R bag with
    | some b =>
      ((List.range (getBagSize R b)).map fun j =>
        ((v.getItemByPos R bag (Fin.ofNat 256 j)).map f).getD 0).sum
    | none => 0).sum

def sumItems (f : Item → Nat) : Nat :=
  sumSlots R v f 0 39 + sumSlots R v f 86 150 + sumBags R v f inventoryBags + sumSlots R v f 39 67 +
    sumBags R v f bankBags

def isNot (skipItem : Option Item) (it : Item) : Bool := !skipItem.any fun s => s.guid = it.guid

def getItemCount (entry : Nat) (skipItem : Option Item) : Nat :=
  let gems (it : Item) : Nat :=
    if isNot skipItem it ∧ L.hasSocket it.entry then L.getGemCountWithID it entry else 0
  uint32 (sumItems R v (fun it => if isNot skipItem it ∧ it.entry = entry then it.count else 0) +
    if skipItem.any fun s => L.gemProperties s.entry then
      sumSlots R v gems 0 39 + sumBags R v gems inventoryBags + sumSlots R v gems 39 67 + sumBags R v gems bankBags
    else 0 : Nat)

def getItemCountWithLimitCategory (category : Nat) (skipItem : Option Item) : Nat :=
  uint32 (sumItems R v fun it =>
    if isNot skipItem it ∧ L.itemLimitCategory it.entry = category then it.count else 0 : Nat)

/-! ## Storing -/

/-- `CanTakeMoreSimilarItems`, with how many are too many. -/
def canTakeMoreSimilarItems (entry count : Nat) (pItem : Option Item) : InventoryResult × Nat :=
  let category := L.itemLimitCategory entry
  if pItem.any R.lootGenerated then (.alreadyLooted, 0)
  -- no maximum
  else if (L.maxCount entry ≤ 0 ∧ category = 0) ∨ L.maxCount entry = 2147483647 then (.ok, 0)
  else
    let curcount := L.getItemCount R v entry pItem
    if 0 < L.maxCount entry ∧ L.maxCount entry < uint32 (curcount + count) then
      (.cantCarryMoreOfThis, uint32 (count + curcount - L.maxCount entry))
    -- check unique-equipped limit
    else if category = 0 then (.ok, 0)
    else match L.limitCategory category with
      | none => (.itemCantBeEquipped, count)
      | some limitEntry =>
        let curcount := L.getItemCountWithLimitCategory R v category pItem
        if limitEntry.modeHave ∧ limitEntry.maxCount < uint32 (curcount + count) then
          (.itemMaxLimitCategoryCountExceeded, uint32 (count + curcount - limitEntry.maxCount))
        else (.ok, 0)

/-- `Player::CanStoreItem`. `no_space_count` is not set with `ok`, nor at the check that a bag is empty. -/
def canStoreItem (bag slot : Byte) (entry count : Nat) (pItem : Option Item) (swap : Bool) : Placement :=
  let it := wanted v entry pItem
  if pItem.any R.lootGenerated then ⟨.alreadyLooted, [], some count⟩
  else if pItem.any R.isBindedNotWith then ⟨.dontOwnThatItem, [], some count⟩
  else
    let r := L.canTakeMoreSimilarItems R v entry count pItem
    let noSimilar := r.2
    if r.1 ≠ .ok ∧ count = noSimilar then ⟨r.1, [], some noSimilar⟩
    else
      let left := if r.1 ≠ .ok then uint32 (count - noSimilar) else count
      match (attempts bag slot (R.template entry)).foldlM (v.attempt R bag slot it swap noSimilar) ⟨[], left⟩ with
      | .error (res, P) =>
        ⟨res, P.dest, if res = .ok ∨ res = .nonemptyBagOverOtherBag then none else some (uint32 (P.left + noSimilar))⟩
      | .ok P => ⟨.inventoryFull, P.dest, some (uint32 (P.left + noSimilar))⟩

/-! ## What is promised -/

/-- A place takes `n` units: it is free or holds the item that is moved, it is the place of a swap, or it holds a
stack that has the space. -/
inductive Suits (entry : Nat) (pItem : Option Item) (asked : Place) (swap : Bool) (q : Place) (n : Nat) : Prop
  | free (hfree : v.slots q = none) (hmax : n ≤ R.maxStack entry)
  | itself {t : Item} (ht : v.slots q = some t) (hself : isNot pItem t = false) (hmax : n ≤ R.maxStack entry)
  | swapped (hswap : swap = true) (hasked : q = asked) (hmax : n ≤ R.maxStack entry)
  | merged {t : Item} (ht : v.slots q = some t) (hmerge : canBeMergedPartlyWith R t entry = .ok)
      (hmax : t.count + n ≤ R.maxStack entry)

structure Exact (entry count : Nat) (pItem : Option Item) (asked : Place) (swap : Bool) (r : Placement) : Prop where
  nodup : (r.dest.map Prod.fst).Nodup
  placed : ∀ q ∈ r.dest, 0 < q.2 ∧ Visible R v q.1 ∧ Suits R v entry pItem asked swap q.1 q.2
  whole : r.result = .ok → (r.dest.map Prod.snd).sum = count
  short : ∀ n, r.noSpaceCount = some n → (r.dest.map Prod.snd).sum + n = count

def space (bag slot : Byte) (entry : Nat) (pItem : Option Item) (swap : Bool) : Nat :=
  room [] (v.gather R (wanted v entry pItem) bag slot swap (attempts bag slot (R.template entry))).2

variable {L R v} {entry count : Nat} {pItem : Option Item} {bag slot : Byte} {swap : Bool}

theorem uint32_of_lt {n : Nat} (hn : n < 2 ^ 32) : uint32 n = n := by
  unfold uint32
  omega

theorem uint32_lt (z : Int) : uint32 z < 2 ^ 32 := by
  unfold uint32
  omega

theorem canTakeMoreSimilarItems_lt (hcount : count < 2 ^ 32) :
    (L.canTakeMoreSimilarItems R v entry count pItem).2 < 2 ^ 32 := by
  unfold canTakeMoreSimilarItems
  dsimp only
  split_ifs
  · decide
  · decide
  · exact uint32_lt _
  · decide
  split
  · exact hcount
  split_ifs
  · exact uint32_lt _
  · decide

theorem canTakeMoreSimilarItems_ok (hok : (L.canTakeMoreSimilarItems R v entry count pItem).1 = .ok) :
    (L.canTakeMoreSimilarItems R v entry count pItem).2 = 0 := by
  unfold canTakeMoreSimilarItems at hok ⊢
  dsimp only at hok ⊢
  split_ifs at hok ⊢
  · rfl
  · rfl
  split at hok
  · cases hok
  split_ifs at hok ⊢
  rfl

/-! ## The search -/

def finish (noSimilar : Nat) (r : InventoryResult × Plan Place) : Placement :=
  ⟨r.1, r.2.dest,
    if r.1 = .ok ∨ r.1 = .nonemptyBagOverOtherBag then none else some (uint32 (r.2.left + noSimilar))⟩

theorem finish_outcome {noSimilar : Nat} (run : Except (InventoryResult × Plan Place) (Plan Place)) :
    (match run with
      | .error (res, P) =>
        ⟨res, P.dest, if res = .ok ∨ res = .nonemptyBagOverOtherBag then none else some (uint32 (P.left + noSimilar))⟩
      | .ok P => ⟨.inventoryFull, P.dest, some (uint32 (P.left + noSimilar))⟩) =
    finish noSimilar (outcome run) := by
  cases run with
  | error r => rfl
  | ok P => rfl

theorem canStoreItem_eq (hcount : count < 2 ^ 32) (hloot : pItem.any R.lootGenerated = false)
    (hbound : pItem.any R.isBindedNotWith = false)
    (hgo : (L.canTakeMoreSimilarItems R v entry count pItem).1 = .ok ∨
      count ≠ (L.canTakeMoreSimilarItems R v entry count pItem).2) :
    L.canStoreItem R v bag slot entry count pItem swap =
      finish (L.canTakeMoreSimilarItems R v entry count pItem).2
        (outcome ((attempts bag slot (R.template entry)).foldlM
          (v.attempt R bag slot (wanted v entry pItem) swap (L.canTakeMoreSimilarItems R v entry count pItem).2)
          ⟨[], uint32 (count - (L.canTakeMoreSimilarItems R v entry count pItem).2)⟩)) := by
  have hleft : (if (L.canTakeMoreSimilarItems R v entry count pItem).1 ≠ .ok then
      uint32 (count - (L.canTakeMoreSimilarItems R v entry count pItem).2) else count) =
        uint32 (count - (L.canTakeMoreSimilarItems R v entry count pItem).2) := by
    split_ifs with hok
    · rfl
    · rw [canTakeMoreSimilarItems_ok (not_not.1 hok)]
      exact (uint32_of_lt hcount).symm
  unfold canStoreItem
  rw [hloot, hbound, if_neg Bool.false_ne_true, if_neg Bool.false_ne_true, if_neg fun h => hgo.elim h.1 (· h.2), hleft]
  exact finish_outcome _

/-- What a search leaves for `n` units that are not too many: what the slots have space for is set aside. -/
theorem search_spec {noSimilar n : Nat} (hn : 0 < n) {r : Placement}
    (hr : r = finish noSimilar (outcome ((attempts bag slot (R.template entry)).foldlM
      (v.attempt R bag slot (wanted v entry pItem) swap noSimilar) ⟨[], n⟩))) :
    (r.dest.map Prod.fst).Nodup ∧
    (∀ q ∈ r.dest, Good R v (wanted v entry pItem) ⟨false, bag, slot⟩ swap q) ∧
    (r.dest.map Prod.snd).sum = min n (space R v bag slot entry pItem swap) ∧
    (r.result = .ok → noSimilar = 0 ∧ n ≤ space R v bag slot entry pItem swap) ∧
    (∀ m, r.noSpaceCount = some m → m = uint32 ((n - space R v bag slot entry pItem swap : Nat) + noSimilar)) ∧
    (0 < space R v bag slot entry pItem swap → 0 < noSimilar → r.noSpaceCount.isSome = true) := by
  have hgood : ∀ o ∈ (v.gather R (wanted v entry pItem) bag slot swap (attempts bag slot (R.template entry))).2,
      Good R v (wanted v entry pItem) ⟨false, bag, slot⟩ swap o := good_gather attempts_inSight
  have hof := fill_of hn fun o ho => (hgood o ho).pos
  have hleft : (Plan.fill (v.gather R (wanted v entry pItem) bag slot swap
      (attempts bag slot (R.template entry))).2 ⟨[], n⟩).left = n - space R v bag slot entry pItem swap :=
    fill_left (P := ⟨[], n⟩) hn
  rw [run_eq (P := ⟨[], n⟩) hn] at hr
  subst hr
  refine ⟨hof.nodup, ?_, ?_, ?_, ?_, ?_⟩
  · intro q hq
    obtain ⟨hpos, o, ho, hslot, hle⟩ := hof.offered q hq
    obtain ⟨-, hvis, hplayer, htakes⟩ := hgood o ho
    rw [hslot] at hvis hplayer htakes
    exact ⟨hpos, hvis, hplayer, htakes.mono hle⟩
  · have hsum := hof.sum
    dsimp only [finish]
    omega
  · intro hok
    dsimp only [finish] at hok
    split_ifs at hok with hdone hzero
    · exact ⟨hzero, by omega⟩
    · exact absurd hok gather_ne_ok
  · intro m hm
    dsimp only [finish] at hm
    rw [hleft] at hm
    split_ifs at hm
    all_goals cases hm; rfl
  · intro hspace hsim
    have hne : (v.gather R (wanted v entry pItem) bag slot swap
        (attempts bag slot (R.template entry))).1 ≠ .nonemptyBagOverOtherBag := by
      apply gather_ne_nonempty
      intro hnil
      unfold space at hspace
      rw [hnil] at hspace
      exact absurd hspace (lt_irrefl 0)
    dsimp only [finish]
    rw [if_neg, Option.isSome_some]
    rw [if_neg hsim.ne']
    split_ifs
    · simp
    · exact not_or.2 ⟨gather_ne_ok, hne⟩

def Fresh (v : Vault) : Prop := ∀ p t, v.slots p = some t → t.guid < v.nextGuid

theorem suits_of_takes (hfresh : Fresh v) {asked q : Place} {n : Nat}
    (h : Takes R v (wanted v entry pItem) asked swap q n) : Suits R v entry pItem asked swap q n := by
  cases h with
  | free hfree hmax =>
    cases ht : v.slots q with
    | none => exact .free ht hmax
    | some t =>
      have hguid := hfree t ht
      cases pItem with
      | none => exact absurd hguid (hfresh q t ht).ne
      | some it =>
        refine .itself ht ?_ hmax
        unfold isNot
        rw [Option.any_some, decide_eq_true (show it.guid = t.guid from hguid.symm)]
        rfl
  | swapped hswap hasked hmax => exact .swapped hswap hasked hmax
  | merged ht hother hmerge hmax => exact .merged ht hmerge hmax

/-- **The placement is exact unless the count wraps.** Every slot that is set aside takes what is planned for it,
and what has no space is what is missing, except when more than the count is too many and the slots have space
for more than the count. -/
theorem canStoreItem_exact_iff (hfresh : Fresh v) (hpos : 0 < count) (hcount : count < 2 ^ 32) :
    Exact R v entry count pItem ⟨false, bag, slot⟩ swap (L.canStoreItem R v bag slot entry count pItem swap) ↔
      pItem.any R.lootGenerated = true ∨ pItem.any R.isBindedNotWith = true ∨
      (L.canTakeMoreSimilarItems R v entry count pItem).2 ≤ count ∨
      space R v bag slot entry pItem swap ≤ count := by
  have hnone : ∀ code, code ≠ InventoryResult.ok →
      Exact R v entry count pItem ⟨false, bag, slot⟩ swap ⟨code, [], some count⟩ := by
    intro code hcode
    refine ⟨List.nodup_nil, fun q hq => absurd hq List.not_mem_nil, fun hok => absurd hok hcode, ?_⟩
    rintro n ⟨⟩
    exact zero_add _
  cases hloot : pItem.any R.lootGenerated with
  | true =>
    refine iff_of_true ?_ (.inl rfl)
    unfold canStoreItem
    rw [if_pos hloot]
    exact hnone _ InventoryResult.noConfusion
  | false =>
  cases hbound : pItem.any R.isBindedNotWith with
  | true =>
    refine iff_of_true ?_ (.inr (.inl rfl))
    unfold canStoreItem
    dsimp only
    rw [hloot, if_pos hbound]
    exact hnone _ InventoryResult.noConfusion
  | false =>
  have hsim : (L.canTakeMoreSimilarItems R v entry count pItem).2 < 2 ^ 32 := canTakeMoreSimilarItems_lt hcount
  by_cases hne : count = (L.canTakeMoreSimilarItems R v entry count pItem).2
  · refine iff_of_true ?_ (.inr (.inr (.inl hne.symm.le)))
    have hok : (L.canTakeMoreSimilarItems R v entry count pItem).1 ≠ .ok := by
      intro hok
      rw [canTakeMoreSimilarItems_ok hok] at hne
      exact hpos.ne' hne
    unfold canStoreItem
    rw [hloot, hbound, if_neg Bool.false_ne_true, if_neg Bool.false_ne_true, if_pos ⟨hok, hne⟩, ← hne]
    exact hnone _ hok
  have hleft : 0 < uint32 (count - (L.canTakeMoreSimilarItems R v entry count pItem).2) := by
    unfold uint32
    omega
  have hsearch : L.canStoreItem R v bag slot entry count pItem swap = _ := canStoreItem_eq hcount hloot hbound (.inr hne)
  obtain ⟨hnodup, hplaced, hsum, hwhole, hshort, hset⟩ := search_spec hleft hsearch
  constructor
  · intro hexact
    rw [or_iff_right Bool.false_ne_true, or_iff_right Bool.false_ne_true]
    by_contra hover
    rw [not_or] at hover
    obtain ⟨m, hm⟩ := Option.isSome_iff_exists.1 (hset (by omega) (by omega))
    have htotal := hexact.short m hm
    rw [hsum] at htotal
    unfold uint32 at htotal
    omega
  · intro hcond
    rw [or_iff_right Bool.false_ne_true, or_iff_right Bool.false_ne_true] at hcond
    refine ⟨hnodup, ?_, ?_, ?_⟩
    · intro q hq
      obtain ⟨hone, hvis, -, htakes⟩ := hplaced q hq
      exact ⟨hone, hvis, suits_of_takes hfresh htakes⟩
    · intro hok
      obtain ⟨hzero, hle⟩ := hwhole hok
      rw [hsum, hzero, min_eq_left (hzero ▸ hle)]
      exact uint32_of_lt hcount
    · intro m hm
      rw [hsum, hshort m hm]
      unfold uint32
      omega

def coinRealm : Realm := { herbRealm with template := fun _ => { stackable := 20 } }

def coinLimits : Limits := { maxCount := fun _ => 2 }

/-- A player with `n` coins in the backpack. -/
def coinVault (n : Nat) : Vault :=
  { guild := Guild.create 1 "Master", slots := update (fun _ => none) ⟨false, 255, 23⟩ (some ⟨1, 700, n⟩), nextGuid := 2 }

theorem coinVault_fresh (n : Nat) : Fresh (coinVault n) := by
  intro p t ht
  unfold coinVault at ht
  dsimp only at ht
  by_cases hp : p = ⟨false, 255, 23⟩
  · rw [hp] at ht
    cases ht
    exact one_lt_two
  · rw [update_of_ne hp] at ht
    cases ht

theorem canStoreItem_exact_coins :
    (coinLimits.canStoreItem coinRealm (coinVault 1) nullBag nullSlot 700 3 none false).noSpaceCount = some 2 ∧
    Exact coinRealm (coinVault 1) 700 3 none ⟨false, nullBag, nullSlot⟩ false
      (coinLimits.canStoreItem coinRealm (coinVault 1) nullBag nullSlot 700 3 none false) :=
  ⟨by decide +kernel, (canStoreItem_exact_iff (coinVault_fresh 1) (by decide) (by decide)).2
    (.inr (.inr (.inl (by decide +kernel))))⟩

/-- Five are carried of an item of which two may be: the units over the limit wrap. -/
theorem canStoreItem_over_limit :
    ((coinLimits.canStoreItem coinRealm (coinVault 5) nullBag nullSlot 700 1 none false).dest.map Prod.snd).sum = 315 ∧
    (coinLimits.canStoreItem coinRealm (coinVault 5) nullBag nullSlot 700 1 none false).noSpaceCount =
      some 4294966982 ∧
    ¬ Exact coinRealm (coinVault 5) 700 1 none ⟨false, nullBag, nullSlot⟩ false
      (coinLimits.canStoreItem coinRealm (coinVault 5) nullBag nullSlot 700 1 none false) := by
  have hsum : ((coinLimits.canStoreItem coinRealm (coinVault 5) nullBag nullSlot 700 1 none false).dest.map
      Prod.snd).sum = 315 := by decide +kernel
  have hshort : (coinLimits.canStoreItem coinRealm (coinVault 5) nullBag nullSlot 700 1 none false).noSpaceCount =
      some 4294966982 := by decide +kernel
  refine ⟨hsum, hshort, fun hexact => ?_⟩
  have htotal := hexact.short _ hshort
  omega

end Limits

end Axium.Player
