import Axium.Lib.Filling
import Axium.Guilds.Places

/-!
# The offers of a search for space

What `CanStoreItem` sets aside depends on what is left to place only in that it stops when nothing is left.
So each attempt is a result and a list of offers that do not depend on the plan (`attempt_eq`), and the whole
search fills the offers of all attempts up to the first one that is refused (`run_eq`).
-/

namespace Axium.Guilds

open Stacks Function List InventoryResult

namespace Vault

/-- A search: its result, and the slots with their space that it offers when the result is `ok`. -/
abbrev Offers := InventoryResult × List (Place × Nat)

def Offers.apply (s : Offers) (P : Plan Place) : InventoryResult × Plan Place :=
  if s.1 = .ok then (.ok, P.fill s.2) else (s.1, P)

section definitions

variable (R : Realm) (v : Vault) (it : Item)

def slotOffer (merge : Bool) (p : Place) : Option (Place × Nat) :=
  if (v.otherAt R it p).isSome ≠ merge then none
  else (needSpace R it (v.otherAt R it p)).map fun space => (p, space)

def specificOffers (bag slot : Byte) (swap : Bool) : Offers :=
  ((v.canStoreItemInSpecificSlot R bag slot it swap ⟨[], 0⟩).1,
    match (if swap then none else v.otherAt R it ⟨false, bag, slot⟩) with
    | none => [(⟨false, bag, slot⟩, R.maxStack it.entry)]
    | some item2 => [(⟨false, bag, slot⟩, R.maxStack it.entry - item2.count)])

def bagOffers (bag : Byte) (merge nonSpecialized : Bool) (skipBag skipSlot : Byte) : Offers :=
  ((v.canStoreItemInBag R bag it merge nonSpecialized skipBag skipSlot ⟨[], 0⟩).1,
    match v.getBagByPos R bag with
    | none => []
    | some b =>
      (((range (getBagSize R b)).filter (· ≠ skipSlot.val)).map
        fun j => (⟨false, bag, Fin.ofNat 256 j⟩ : Place)).filterMap (slotOffer R v it merge))

def inventoryOffers (slotBegin slotEnd : Nat) (merge : Bool) (skipBag skipSlot : Byte) : Offers :=
  ((v.canStoreItemInInventorySlots R slotBegin slotEnd it merge skipBag skipSlot ⟨[], 0⟩).1,
    (((List.range' slotBegin (slotEnd - slotBegin)).filter
      fun j => ¬ (bag0 = skipBag ∧ j = skipSlot.val)).map
        fun j => (⟨false, bag0, Fin.ofNat 256 j⟩ : Place)).filterMap (slotOffer R v it merge))

def attemptOffers (bag slot : Byte) (swap : Bool) : Attempt → Offers
  | .specificSlot => v.specificOffers R it bag slot swap
  | .inventorySlots slotBegin slotEnd merge => v.inventoryOffers R it slotBegin slotEnd merge bag slot
  | .specificBag merge =>
    if (v.bagOffers R it bag merge false nullBag slot).1 ≠ .ok then v.bagOffers R it bag merge true nullBag slot
    else v.bagOffers R it bag merge false nullBag slot
  | .bags merge nonSpecialized =>
    (.ok, inventoryBags.flatMap fun i =>
      if (v.bagOffers R it i merge nonSpecialized bag slot).1 ≠ .ok then []
      else (v.bagOffers R it i merge nonSpecialized bag slot).2)
  | .emptyBagCheck => (if v.isNotEmptyBag R it then .nonemptyBagOverOtherBag else .ok, [])

/-- The offers of the attempts up to the first one that is refused, with the result when they do not do. -/
def gather (bag slot : Byte) (swap : Bool) : List Attempt → Offers
  | [] => (.inventoryFull, [])
  | a :: rest =>
    if (v.attemptOffers R it bag slot swap a).1 ≠ .ok then ((v.attemptOffers R it bag slot swap a).1, [])
    else ((gather bag slot swap rest).1, (v.attemptOffers R it bag slot swap a).2 ++ (gather bag slot swap rest).2)

end definitions

variable {R : Realm} {v : Vault} {it : Item} {P : Plan Place} {bag slot : Byte} {swap merge : Bool}

theorem Offers.apply_fst (s : Offers) : (s.apply P).1 = s.1 := by
  unfold Offers.apply
  by_cases hok : s.1 = .ok
  · rw [if_pos hok, hok]
  · rw [if_neg hok]

theorem Offers.apply_of_ok {s : Offers} (hok : s.1 = .ok) : s.apply P = Offers.apply (.ok, s.2) P := by
  unfold Offers.apply
  rw [if_pos hok, if_pos rfl]

/-! ## One pass -/

theorem searchSlots_eq {l : List Place} :
    v.searchSlots R it merge l P = P.fill (l.filterMap (slotOffer R v it merge)) := by
  induction l generalizing P with
  | nil => rfl
  | cons p rest ih =>
    unfold searchSlots
    by_cases hmerge : (v.otherAt R it p).isSome ≠ merge
    · have hoffer : slotOffer R v it merge p = none := if_pos hmerge
      rw [if_pos hmerge, filterMap_cons_none hoffer]
      exact ih
    · rw [if_neg hmerge]
      cases hspace : needSpace R it (v.otherAt R it p) with
      | none =>
        have hoffer : slotOffer R v it merge p = none := by
          unfold slotOffer
          rw [if_neg hmerge, hspace]
          rfl
        rw [filterMap_cons_none hoffer]
        exact ih
      | some space =>
        have hoffer : slotOffer R v it merge p = some (p, space) := by
          unfold slotOffer
          rw [if_neg hmerge, hspace]
          rfl
        rw [filterMap_cons_some hoffer, fill_cons]
        dsimp only
        rw [ih, ih]

theorem canStoreItemInSpecificSlot_eq :
    v.canStoreItemInSpecificSlot R bag slot it swap P = (v.specificOffers R it bag slot swap).apply P := by
  unfold specificOffers Offers.apply canStoreItemInSpecificSlot
  by_cases hempty : v.isNotEmptyBag R it = true ∧ ¬ isBagPos bag slot = true
  · rw [if_pos hempty]
    dsimp only
    rw [if_pos hempty]
    exact (if_neg (by decide)).symm
  · rw [if_neg hempty]
    rw [if_neg hempty]
    cases (if swap then none else v.otherAt R it ⟨false, bag, slot⟩) with
    | none =>
      cases v.fitToSlot R bag slot (R.template it.entry) with
      | ok => rw [fill_single]; rfl
      | _ => rfl
    | some t =>
      dsimp only
      rw [fill_single]
      unfold canBeMergedPartlyWith
      split_ifs
      all_goals first | rfl | contradiction

variable {i skipBag skipSlot : Byte} {nonSpecialized : Bool}

theorem canStoreItemInBag_eq :
    v.canStoreItemInBag R i it merge nonSpecialized skipBag skipSlot P =
      (v.bagOffers R it i merge nonSpecialized skipBag skipSlot).apply P := by
  unfold bagOffers Offers.apply canStoreItemInBag
  by_cases hskip : i = skipBag
  · rw [if_pos hskip]
    dsimp only
    rw [if_pos hskip]
    exact (if_neg (by decide)).symm
  · rw [if_neg hskip]
    rw [if_neg hskip]
    cases v.getBagByPos R i with
    | none => rfl
    | some b =>
      dsimp only
      rw [searchSlots_eq]
      split_ifs
      all_goals first | rfl | contradiction

variable {slotBegin slotEnd : Nat}

theorem canStoreItemInInventorySlots_eq :
    v.canStoreItemInInventorySlots R slotBegin slotEnd it merge skipBag skipSlot P =
      (v.inventoryOffers R it slotBegin slotEnd merge skipBag skipSlot).apply P := by
  unfold inventoryOffers Offers.apply canStoreItemInInventorySlots
  by_cases hempty : v.isNotEmptyBag R it = true
  · rw [if_pos hempty]
    rw [if_pos hempty]
    rfl
  · rw [if_neg hempty]
    dsimp only
    rw [if_neg hempty, searchSlots_eq]
    rfl

/-! ## The attempts -/

variable {noSimilar : Nat}

theorem settle_apply {l : List (Place × Nat)} :
    settle noSimilar (Offers.apply (.ok, l) P) =
      if (P.fill l).left = 0 then .error (if noSimilar = 0 then .ok else .cantCarryMoreOfThis, P.fill l)
      else .ok (P.fill l) := by
  unfold Offers.apply settle
  rw [if_pos rfl, if_neg (not_not.2 rfl)]

theorem bags_eq (hP : 0 < P.left) {l : List Byte} :
    l.foldlM (fun P i =>
      let r := v.canStoreItemInBag R i it merge nonSpecialized bag slot P
      if r.1 ≠ .ok then .ok P else settle noSimilar r) P =
    settle noSimilar (Offers.apply (.ok, l.flatMap fun i =>
      if (v.bagOffers R it i merge nonSpecialized bag slot).1 ≠ .ok then []
      else (v.bagOffers R it i merge nonSpecialized bag slot).2) P) := by
  induction l generalizing P with
  | nil => exact (if_neg hP.ne').symm
  | cons i rest ih =>
    rw [foldlM_cons, flatMap_cons, settle_apply, fill_append hP]
    rw [canStoreItemInBag_eq]
    by_cases hok : (v.bagOffers R it i merge nonSpecialized bag slot).1 ≠ .ok
    · rw [if_pos (Offers.apply_fst _ ▸ hok), if_pos hok]
      change List.foldlM _ P rest = _
      rw [ih hP, if_neg (show ¬ (P.fill []).left = 0 from hP.ne')]
      rfl
    · rw [if_neg (Offers.apply_fst _ ▸ hok), if_neg hok, Offers.apply_of_ok (not_not.1 hok), settle_apply]
      by_cases hdone : (P.fill (v.bagOffers R it i merge nonSpecialized bag slot).2).left = 0
      · rw [if_pos hdone, if_pos hdone, if_pos hdone]
        rfl
      · rw [if_neg hdone, if_neg hdone]
        change List.foldlM _ (P.fill _) rest = _
        rw [ih (pos_of_ne_zero hdone), settle_apply]

theorem attempt_eq (hP : 0 < P.left) (a : Attempt) :
    v.attempt R bag slot it swap noSimilar P a = settle noSimilar ((v.attemptOffers R it bag slot swap a).apply P) := by
  cases a with
  | specificSlot => exact congrArg (settle noSimilar) canStoreItemInSpecificSlot_eq
  | inventorySlots slotBegin slotEnd merge => exact congrArg (settle noSimilar) canStoreItemInInventorySlots_eq
  | specificBag merge =>
    unfold attempt attemptOffers
    dsimp only
    rw [canStoreItemInBag_eq, canStoreItemInBag_eq]
    by_cases hok : (v.bagOffers R it bag merge false nullBag slot).1 ≠ .ok
    · rw [if_pos (Offers.apply_fst _ ▸ hok), if_pos hok]
    · rw [if_neg (Offers.apply_fst _ ▸ hok), if_neg hok]
  | bags merge nonSpecialized => exact bags_eq hP
  | emptyBagCheck =>
    unfold attempt attemptOffers Offers.apply settle
    by_cases hfull : v.isNotEmptyBag R it = true
    · rw [if_pos hfull, if_pos hfull]
      rfl
    · rw [if_neg hfull, if_neg hfull]
      rw [if_pos rfl, if_neg (show ¬ (P.fill []).left = 0 from hP.ne')]
      rfl

def outcome : Except (InventoryResult × Plan Place) (Plan Place) → InventoryResult × Plan Place
  | .error r => r
  | .ok P => (.inventoryFull, P)

/-- **The search fills the offers of its attempts.** Its result is the one for nothing left, or that of the
first attempt that was refused. -/
theorem run_eq (hP : 0 < P.left) (l : List Attempt) :
    outcome (l.foldlM (v.attempt R bag slot it swap noSimilar) P) =
      (if (P.fill (v.gather R it bag slot swap l).2).left = 0 then
          if noSimilar = 0 then .ok else .cantCarryMoreOfThis else (v.gather R it bag slot swap l).1,
        P.fill (v.gather R it bag slot swap l).2) := by
  induction l generalizing P with
  | nil =>
    unfold gather
    rw [if_neg (show ¬ (P.fill []).left = 0 from hP.ne')]
    rfl
  | cons a rest ih =>
    rw [foldlM_cons, attempt_eq hP]
    unfold gather
    by_cases hok : (v.attemptOffers R it bag slot swap a).1 ≠ .ok
    · rw [if_pos hok, if_neg (show ¬ (P.fill []).left = 0 from hP.ne')]
      unfold Offers.apply settle
      rw [if_neg hok, if_pos hok]
      rfl
    · rw [if_neg hok, fill_append hP]
      rw [Offers.apply_of_ok (not_not.1 hok), settle_apply]
      by_cases hdone : (P.fill (v.attemptOffers R it bag slot swap a).2).left = 0
      · rw [if_pos hdone, if_pos hdone, if_pos hdone]
        rfl
      · rw [if_neg hdone, if_neg hdone]
        exact ih (pos_of_ne_zero hdone)

/-! ## What a search finds -/

/-- `F` holds of the plan, and with the result `ok` nothing was held back and nothing is left. -/
def Found (F : Plan Place → Prop) (noSimilar : Nat) : Except (InventoryResult × Plan Place) (Plan Place) → Prop
  | .ok P => F P
  | .error r => F r.2 ∧ (r.1 = .ok → noSimilar = 0 ∧ r.2.left = 0)

/-- Every slot that a pass of the attempt offers satisfies `G`. -/
def Attempt.Offering (R : Realm) (v : Vault) (it : Item) (bag slot : Byte) (swap : Bool) (G : Place × Nat → Prop) :
    Attempt → Prop
  | .specificSlot => (v.specificOffers R it bag slot swap).1 = .ok → ∀ o ∈ (v.specificOffers R it bag slot swap).2, G o
  | .inventorySlots slotBegin slotEnd merge => ∀ o ∈ (v.inventoryOffers R it slotBegin slotEnd merge bag slot).2, G o
  | .specificBag merge => ∀ nonSpecialized, ∀ o ∈ (v.bagOffers R it bag merge nonSpecialized nullBag slot).2, G o
  | .bags merge nonSpecialized => ∀ i, ∀ o ∈ (v.bagOffers R it i merge nonSpecialized bag slot).2, G o
  | .emptyBagCheck => True

section Found

variable {F : Plan Place → Prop} {G : Place × Nat → Prop} {l : List Attempt}

theorem Found.outcome {r : Except (InventoryResult × Plan Place) (Plan Place)} (h : Found F noSimilar r) :
    F (outcome r).2 := by
  cases r with
  | ok P => exact h
  | error r => exact h.1

theorem settle_found {r : InventoryResult × Plan Place} (h : F r.2) : Found F noSimilar (settle noSimilar r) := by
  unfold settle
  by_cases hok : r.1 ≠ .ok
  · rw [if_pos hok]
    exact ⟨h, fun hres => absurd hres hok⟩
  rw [if_neg hok]
  by_cases hleft : r.2.left = 0
  · rw [if_pos hleft]
    refine ⟨h, fun hres => ⟨?_, hleft⟩⟩
    by_contra hsim
    rw [if_neg hsim] at hres
    cases hres
  · rw [if_neg hleft]
    exact h

theorem foldlM_found {α : Type} {f : Plan Place → α → Except (InventoryResult × Plan Place) (Plan Place)}
    {l : List α} (hf : ∀ a ∈ l, ∀ P, F P → Found F noSimilar (f P a)) (h : F P) :
    Found F noSimilar (l.foldlM f P) := by
  induction l generalizing P with
  | nil => exact h
  | cons a rest ih =>
    have hstep := hf a (mem_cons_self ..) P h
    rw [foldlM_cons]
    cases hfa : f P a with
    | error r =>
      rw [hfa] at hstep
      exact hstep
    | ok P' =>
      rw [hfa] at hstep
      exact ih (fun b hb => hf b (mem_cons_of_mem _ hb)) hstep

variable (hstep : ∀ P o, G o → F P → F (P.reserve o.1 o.2))
include hstep

theorem Offers.apply_keeps {s : Offers} (hs : s.1 = .ok → ∀ o ∈ s.2, G o) (h : F P) : F (s.apply P).2 := by
  unfold Offers.apply
  by_cases hok : s.1 = .ok
  · rw [if_pos hok]
    exact fill_keeps (c := False) False.elim h fun P _ hP o ho _ => hstep P o (hs hok o ho) hP
  · rw [if_neg hok]
    exact h

theorem attempt_found {a : Attempt} (ha : a.Offering R v it bag slot swap G) (h : F P) :
    Found F noSimilar (v.attempt R bag slot it swap noSimilar P a) := by
  cases a with
  | specificSlot =>
    rw [attempt, canStoreItemInSpecificSlot_eq]
    exact settle_found (Offers.apply_keeps hstep ha h)
  | inventorySlots slotBegin slotEnd merge =>
    rw [attempt, canStoreItemInInventorySlots_eq]
    exact settle_found (Offers.apply_keeps hstep (fun _ => ha) h)
  | specificBag merge =>
    rw [attempt, canStoreItemInBag_eq, canStoreItemInBag_eq]
    apply settle_found
    split_ifs
    · exact Offers.apply_keeps hstep (fun _ => ha true) h
    · exact Offers.apply_keeps hstep (fun _ => ha false) h
  | bags merge nonSpecialized =>
    refine foldlM_found (fun i _ P hP => ?_) h
    rw [canStoreItemInBag_eq]
    dsimp only
    split_ifs
    · exact hP
    · exact settle_found (Offers.apply_keeps hstep (fun _ => ha i) hP)
  | emptyBagCheck =>
    unfold attempt
    split_ifs
    · exact ⟨h, noConfusion⟩
    · exact h

theorem run_found (hl : ∀ a ∈ l, a.Offering R v it bag slot swap G) (h : F P) :
    Found F noSimilar (l.foldlM (v.attempt R bag slot it swap noSimilar) P) :=
  foldlM_found (fun a ha _ hP => attempt_found hstep (hl a ha) hP) h

end Found

variable {l : List Attempt} {a : Attempt}

theorem offering_true : a.Offering R v it bag slot swap fun _ => True := by
  cases a <;> unfold Attempt.Offering <;> simp

theorem run_ok {Q : Plan Place} (hrun : l.foldlM (v.attempt R bag slot it swap noSimilar) P = .error (.ok, Q)) :
    noSimilar = 0 ∧ Q.left = 0 := by
  have hfound : Found (fun _ => True) noSimilar (l.foldlM (v.attempt R bag slot it swap noSimilar) P) :=
    run_found (fun _ _ _ _ => trivial) (fun _ _ => offering_true) trivial
  rw [hrun] at hfound
  exact hfound.2 rfl

theorem run_total (l : List Attempt) (P : Plan Place) :
    ((outcome (l.foldlM (v.attempt R bag slot it swap noSimilar) P)).2.dest.map Prod.snd).sum +
      (outcome (l.foldlM (v.attempt R bag slot it swap noSimilar) P)).2.left =
        (P.dest.map Prod.snd).sum + P.left :=
  (run_found (F := fun Q => (Q.dest.map Prod.snd).sum + Q.left = (P.dest.map Prod.snd).sum + P.left)
    (fun _ _ _ h => reserve_total.trans h) (fun _ _ => offering_true) rfl).outcome

/-! ## What is offered has space -/

/-- A slot takes `n` units of the item: it is going to be free, or it holds a stack that has space. -/
inductive Takes (R : Realm) (v : Vault) (it : Item) (asked : Place) (swap : Bool) (q : Place) (n : Nat) : Prop
  | free (hfree : ∀ t, v.slots q = some t → t.guid = it.guid) (hmax : n ≤ R.maxStack it.entry)
  | swapped (hswap : swap = true) (hasked : q = asked) (hmax : n ≤ R.maxStack it.entry)
  | merged {t : Item} (ht : v.slots q = some t) (hother : t.guid ≠ it.guid)
      (hmerge : canBeMergedPartlyWith R t it.entry = .ok) (hmax : t.count + n ≤ R.maxStack it.entry)

theorem Takes.mono {asked q : Place} {m n : Nat} (h : Takes R v it asked swap q n) (hle : m ≤ n) :
    Takes R v it asked swap q m := by
  cases h with
  | free hfree hmax => exact .free hfree (hle.trans hmax)
  | swapped hswap hasked hmax => exact .swapped hswap hasked (hle.trans hmax)
  | merged ht hother hmerge hmax => exact .merged ht hother hmerge ((Nat.add_le_add_left hle _).trans hmax)

structure Good (R : Realm) (v : Vault) (it : Item) (asked : Place) (swap : Bool) (o : Place × Nat) : Prop where
  pos : 0 < o.2
  visible : Visible R v o.1
  player : o.1.isBank = false
  takes : Takes R v it asked swap o.1 o.2

theorem maxStack_pos (R : Realm) (entry : Nat) : 0 < R.maxStack entry := by
  unfold Realm.maxStack ItemTemplate.getMaxStackSize
  split
  · decide
  · omega

variable {asked p : Place} {o : Place × Nat}

theorem free_of_otherAt (hp : Visible R v p) (hfree : v.otherAt R it p = none) :
    ∀ t, v.slots p = some t → t.guid = it.guid := by
  intro t ht
  rw [otherAt_of_visible hp] at hfree
  by_contra hne
  unfold without at hfree
  rw [ht, Option.filter_some, if_pos (decide_eq_true hne)] at hfree
  cases hfree

theorem taken_of_otherAt {t : Item} (ht : v.otherAt R it p = some t) :
    Visible R v p ∧ v.slots p = some t ∧ t.guid ≠ it.guid := by
  unfold otherAt at ht
  rw [Option.filter_eq_some_iff] at ht
  obtain ⟨hvis, hslots⟩ := visible_of_itemAt ht.1
  exact ⟨hvis, hslots, of_decide_eq_true ht.2⟩

theorem good_of_merge {t : Item} (hplayer : p.isBank = false) (ht : v.otherAt R it p = some t)
    (hmerge : canBeMergedPartlyWith R t it.entry = .ok) :
    Good R v it asked swap (p, R.maxStack it.entry - t.count) := by
  obtain ⟨hvis, hslots, hother⟩ := taken_of_otherAt ht
  have hlt := (canBeMergedPartlyWith_ok hmerge).2
  exact ⟨Nat.sub_pos_of_lt hlt, hvis, hplayer, .merged hslots hother hmerge (by dsimp only; omega)⟩

theorem good_slotOffer (hp : Visible R v p) (hplayer : p.isBank = false) (ho : slotOffer R v it merge p = some o) :
    Good R v it asked swap o := by
  unfold slotOffer at ho
  by_cases hmerge : (v.otherAt R it p).isSome ≠ merge
  · rw [if_pos hmerge] at ho
    cases ho
  · rw [if_neg hmerge] at ho
    obtain ⟨space, hspace, rfl⟩ := Option.map_eq_some_iff.1 ho
    cases hother : v.otherAt R it p with
    | none =>
      rw [hother] at hspace
      cases hspace
      exact ⟨maxStack_pos R it.entry, hp, hplayer, .free (free_of_otherAt hp hother) le_rfl⟩
    | some t =>
      rw [hother] at hspace
      dsimp only [needSpace] at hspace
      by_cases hok : canBeMergedPartlyWith R t it.entry = .ok
      · rw [if_pos hok] at hspace
        cases hspace
        exact good_of_merge hplayer hother hok
      · rw [if_neg hok] at hspace
        cases hspace

theorem good_specificOffers (hok : (v.specificOffers R it bag slot swap).1 = .ok) :
    ∀ o ∈ (v.specificOffers R it bag slot swap).2, Good R v it ⟨false, bag, slot⟩ swap o := by
  unfold specificOffers canStoreItemInSpecificSlot at hok
  by_cases hempty : v.isNotEmptyBag R it = true ∧ ¬ isBagPos bag slot = true
  · rw [if_pos hempty] at hok
    cases hok
  rw [if_neg hempty] at hok
  unfold specificOffers
  cases hitem : (if swap then none else v.otherAt R it ⟨false, bag, slot⟩) with
  | none =>
    rw [hitem] at hok
    intro o ho
    rw [mem_singleton.1 ho]
    have hfit : v.fitToSlot R bag slot (R.template it.entry) = .ok := by
      cases hcode : v.fitToSlot R bag slot (R.template it.entry) with
      | ok => rfl
      | _ =>
        rw [hcode] at hok
        exact hok
    have hvis := fitToSlot_visible hfit
    refine ⟨maxStack_pos R it.entry, hvis, rfl, ?_⟩
    cases swap with
    | true => exact .swapped rfl rfl le_rfl
    | false => exact .free (free_of_otherAt hvis hitem) le_rfl
  | some t =>
    rw [hitem] at hok
    dsimp only at hok
    intro o ho
    rw [mem_singleton.1 ho]
    have hmerge : canBeMergedPartlyWith R t it.entry = .ok := by
      cases hcode : canBeMergedPartlyWith R t it.entry with
      | ok => rfl
      | _ =>
        rw [hcode] at hok
        exact hok
    cases swap with
    | true => cases hitem
    | false => exact good_of_merge rfl hitem hmerge

theorem slotOffer_fst (ho : slotOffer R v it merge p = some o) : o.1 = p := by
  unfold slotOffer at ho
  by_cases hmerge : (v.otherAt R it p).isSome ≠ merge
  · rw [if_pos hmerge] at ho
    cases ho
  · rw [if_neg hmerge] at ho
    obtain ⟨space, -, rfl⟩ := Option.map_eq_some_iff.1 ho
    rfl

theorem mem_bagOffers (ho : o ∈ (v.bagOffers R it i merge nonSpecialized skipBag skipSlot).2) :
    ∃ b j, v.getBagByPos R i = some b ∧ j.val < getBagSize R b ∧ slotOffer R v it merge ⟨false, i, j⟩ = some o := by
  unfold bagOffers at ho
  cases hb : v.getBagByPos R i with
  | none =>
    rw [hb] at ho
    exact absurd ho not_mem_nil
  | some b =>
    rw [hb] at ho
    obtain ⟨p, hp, hoffer⟩ := mem_filterMap.1 ho
    obtain ⟨j, hj, rfl⟩ := mem_map.1 hp
    have hlt : j < getBagSize R b := mem_range.1 (mem_filter.1 hj).1
    have hsize : getBagSize R b < 37 := (R.template b.entry).containerSlots.isLt
    refine ⟨b, _, rfl, ?_, hoffer⟩
    rw [ofNat_val (by omega)]
    exact hlt

theorem mem_inventoryOffers (hend : slotEnd ≤ 150)
    (ho : o ∈ (v.inventoryOffers R it slotBegin slotEnd merge skipBag skipSlot).2) :
    ∃ j : Byte, slotBegin ≤ j.val ∧ j.val < slotEnd ∧ slotOffer R v it merge ⟨false, bag0, j⟩ = some o := by
  obtain ⟨p, hp, hoffer⟩ := mem_filterMap.1 ho
  obtain ⟨j, hj, rfl⟩ := mem_map.1 hp
  have hj := mem_range'_1.1 (mem_filter.1 hj).1
  refine ⟨_, ?_, ?_, hoffer⟩
  · rw [ofNat_val (by omega)]
    exact hj.1
  · rw [ofNat_val (by omega)]
    omega

theorem good_bagOffers :
    ∀ o ∈ (v.bagOffers R it i merge nonSpecialized skipBag skipSlot).2, Good R v it asked swap o := by
  intro o ho
  obtain ⟨b, j, hb, hlt, hoffer⟩ := mem_bagOffers ho
  exact good_slotOffer (visible_player.2 (.inr ⟨b, hb, hlt⟩)) rfl hoffer

theorem good_offering (ha : a.InSight) :
    a.Offering R v it bag slot swap (Good R v it ⟨false, bag, slot⟩ swap) := by
  cases a with
  | specificSlot => exact good_specificOffers
  | inventorySlots slotBegin slotEnd merge =>
    intro o ho
    have hrange : slotEnd ≤ 74 ∨ 86 ≤ slotBegin ∧ slotEnd ≤ 150 := ha
    obtain ⟨j, hle, hlt, hoffer⟩ := mem_inventoryOffers (by omega) ho
    exact good_slotOffer (visible_player.2 (.inl ⟨rfl, by omega⟩)) rfl hoffer
  | specificBag merge => exact fun _ => good_bagOffers
  | bags merge nonSpecialized => exact fun _ => good_bagOffers
  | emptyBagCheck => trivial

theorem Attempt.Offering.offers {G : Place × Nat → Prop} (ha : a.Offering R v it bag slot swap G)
    (hok : (v.attemptOffers R it bag slot swap a).1 = .ok) : ∀ o ∈ (v.attemptOffers R it bag slot swap a).2, G o := by
  cases a with
  | specificSlot => exact ha hok
  | inventorySlots slotBegin slotEnd merge => exact ha
  | specificBag merge =>
    unfold attemptOffers
    dsimp only
    split_ifs
    · exact ha true
    · exact ha false
  | bags merge nonSpecialized =>
    intro o ho
    obtain ⟨i, -, ho⟩ := mem_flatMap.1 ho
    split_ifs at ho
    · exact absurd ho not_mem_nil
    · exact ha i o ho
  | emptyBagCheck => exact fun o ho => absurd ho not_mem_nil

theorem good_gather (hl : ∀ a ∈ l, a.InSight) :
    ∀ o ∈ (v.gather R it bag slot swap l).2, Good R v it ⟨false, bag, slot⟩ swap o := by
  induction l with
  | nil => exact fun o ho => absurd ho not_mem_nil
  | cons a rest ih =>
    unfold gather
    by_cases hok : (v.attemptOffers R it bag slot swap a).1 ≠ .ok
    · rw [if_pos hok]
      exact fun o ho => absurd ho not_mem_nil
    · rw [if_neg hok]
      intro o ho
      rcases mem_append.1 ho with ho | ho
      · exact (good_offering (hl a (mem_cons_self ..))).offers (not_not.1 hok) o ho
      · exact ih (fun b hb => hl b (mem_cons_of_mem _ hb)) o ho

/-! ## A full bag -/

theorem gather_ne_ok : (v.gather R it bag slot swap l).1 ≠ .ok := by
  induction l with
  | nil => exact noConfusion
  | cons a rest ih =>
    unfold gather
    by_cases hok : (v.attemptOffers R it bag slot swap a).1 ≠ .ok
    · rw [if_pos hok]
      exact hok
    · rw [if_neg hok]
      exact ih

section

variable (hfull : v.isNotEmptyBag R it = true)
include hfull

theorem bagOffers_of_full :
    (v.bagOffers R it i merge nonSpecialized skipBag skipSlot).1 = .itemDoesntGoIntoBag ∨
      (v.bagOffers R it i merge nonSpecialized skipBag skipSlot).1 = .canOnlyDoWithEmptyBags := by
  unfold bagOffers canStoreItemInBag
  rw [hfull]
  by_cases hskip : i = skipBag
  · rw [if_pos hskip]
    exact .inl rfl
  rw [if_neg hskip]
  cases v.getBagByPos R i with
  | none => exact .inl rfl
  | some b =>
    dsimp only
    by_cases hsame : b.guid = it.guid
    · rw [if_pos hsame]
      exact .inl rfl
    · rw [if_neg hsame]
      exact .inr rfl

theorem bagOffers_refused : (v.bagOffers R it i merge nonSpecialized skipBag skipSlot).1 ≠ .ok := by
  intro hok
  rcases bagOffers_of_full (i := i) hfull with hcode | hcode
  · rw [hok] at hcode
    cases hcode
  · rw [hok] at hcode
    cases hcode

theorem inventoryOffers_of_full :
    (v.inventoryOffers R it slotBegin slotEnd merge skipBag skipSlot).1 = .canOnlyDoWithEmptyBags := by
  unfold inventoryOffers canStoreItemInInventorySlots
  rw [if_pos hfull]

end

theorem attemptOffers_ne_nonempty (ha : a ≠ .emptyBagCheck) :
    (v.attemptOffers R it bag slot swap a).1 ≠ .nonemptyBagOverOtherBag := by
  cases a with
  | specificSlot =>
    unfold attemptOffers specificOffers canStoreItemInSpecificSlot fitToSlot canBeMergedPartlyWith
    split_ifs <;> grind
  | inventorySlots slotBegin slotEnd merge =>
    unfold attemptOffers inventoryOffers canStoreItemInInventorySlots
    dsimp only
    split_ifs
    · exact noConfusion
    · exact noConfusion
  | specificBag merge =>
    unfold attemptOffers bagOffers canStoreItemInBag
    split_ifs <;> grind
  | bags merge nonSpecialized => exact noConfusion
  | emptyBagCheck => exact absurd rfl ha

theorem gather_of_empty (hempty : v.isNotEmptyBag R it = false) :
    (v.gather R it bag slot swap l).1 ≠ .nonemptyBagOverOtherBag := by
  induction l with
  | nil => exact noConfusion
  | cons a rest ih =>
    unfold gather
    by_cases hok : (v.attemptOffers R it bag slot swap a).1 ≠ .ok
    · rw [if_pos hok]
      apply attemptOffers_ne_nonempty
      rintro rfl
      unfold attemptOffers at hok
      rw [hempty] at hok
      exact hok rfl
    · rw [if_neg hok]
      exact ih

theorem gather_of_refused {rest : List Attempt}
    (hrefused : (v.attemptOffers R it bag slot swap a).1 ≠ .ok) :
    v.gather R it bag slot swap (a :: rest) = ((v.attemptOffers R it bag slot swap a).1, []) := if_pos hrefused

/-- The attempts that any bag can meet: not those of the place that was asked for. -/
def Attempt.Anywhere : Attempt → Prop
  | .specificSlot => False
  | .specificBag _ => False
  | _ => True

theorem gather_of_full (hfull : v.isNotEmptyBag R it = true) (hl : ∀ a ∈ l, a.Anywhere) :
    (v.gather R it bag slot swap l).2 = [] := by
  induction l with
  | nil => rfl
  | cons a rest ih =>
    unfold gather
    by_cases hok : (v.attemptOffers R it bag slot swap a).1 ≠ .ok
    · rw [if_pos hok]
    · rw [if_neg hok]
      rw [ih fun b hb => hl b (mem_cons_of_mem _ hb), append_nil]
      have hhere := hl a (mem_cons_self ..)
      cases a with
      | specificSlot => exact hhere.elim
      | specificBag merge => exact hhere.elim
      | inventorySlots slotBegin slotEnd merge =>
        have hcode : (v.inventoryOffers R it slotBegin slotEnd merge bag slot).1 = .canOnlyDoWithEmptyBags :=
          inventoryOffers_of_full hfull
        unfold attemptOffers at hok
        rw [hcode] at hok
        exact absurd noConfusion hok
      | bags merge nonSpecialized =>
        refine flatMap_eq_nil_iff.2 fun i _ => if_pos ?_
        exact bagOffers_refused hfull
      | emptyBagCheck => rfl

variable {proto : ItemTemplate}

theorem attempts_anywhere : ∀ a ∈ attempts nullBag slot proto, a.Anywhere := by
  intro a ha
  unfold attempts at ha
  cases a with
  | specificSlot => aesop
  | specificBag merge => aesop
  | _ => trivial

theorem attempts_asked (hbag : bag ≠ nullBag) :
    ∃ a rest, attempts bag slot proto = (if slot ≠ nullSlot then [.specificSlot] else []) ++ a :: rest ∧
      ((∃ slotBegin slotEnd merge, a = .inventorySlots slotBegin slotEnd merge) ∨
        ∃ merge, a = .specificBag merge) := by
  unfold attempts
  simp only [hbag, ne_eq, not_false_eq_true, true_and, if_false, append_assoc]
  split_ifs
  all_goals first
    | exact ⟨_, _, rfl, .inl ⟨_, _, _, rfl⟩⟩
    | exact ⟨_, _, rfl, .inr ⟨_, rfl⟩⟩

theorem gather_ne_nonempty (hroom : (v.gather R it bag slot swap (attempts bag slot proto)).2 ≠ []) :
    (v.gather R it bag slot swap (attempts bag slot proto)).1 ≠ .nonemptyBagOverOtherBag := by
  cases hfull : v.isNotEmptyBag R it with
  | false => exact gather_of_empty hfull
  | true =>
    by_cases hbag : bag = nullBag
    · rw [hbag] at hroom
      exact absurd (gather_of_full hfull attempts_anywhere) hroom
    obtain ⟨a, rest, hattempts, ha⟩ : ∃ a rest, attempts bag slot proto = _ ∧ _ := attempts_asked hbag
    have hrefused : (v.attemptOffers R it bag slot swap a).1 ≠ .ok ∧
        (v.attemptOffers R it bag slot swap a).1 ≠ .nonemptyBagOverOtherBag := by
      rcases ha with ⟨slotBegin, slotEnd, merge, rfl⟩ | ⟨merge, rfl⟩
      · unfold attemptOffers
        rw [inventoryOffers_of_full hfull]
        decide
      · unfold attemptOffers
        dsimp only
        rw [if_pos (bagOffers_refused hfull)]
        refine ⟨bagOffers_refused hfull, ?_⟩
        rcases bagOffers_of_full (i := bag) hfull with hcode | hcode
        · rw [hcode]
          exact noConfusion
        · rw [hcode]
          exact noConfusion
    have hrest : (v.gather R it bag slot swap (a :: rest)).1 ≠ .nonemptyBagOverOtherBag := by
      rw [gather_of_refused hrefused.1]
      exact hrefused.2
    rw [hattempts]
    by_cases hslot : slot = nullSlot
    · rw [if_neg (not_not.2 hslot)]
      exact hrest
    · rw [if_pos hslot, singleton_append]
      unfold gather
      by_cases hok : (v.attemptOffers R it bag slot swap .specificSlot).1 ≠ .ok
      · rw [if_pos hok]
        exact attemptOffers_ne_nonempty Attempt.noConfusion
      · rw [if_neg hok]
        exact hrest

end Vault

end Axium.Guilds
