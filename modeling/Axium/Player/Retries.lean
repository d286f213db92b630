import Axium.Player.NewItems

/-!
# Searches one after the other

`AutoStoreLoot` looks for space in a slot, then in a bag, then anywhere, and its three calls of
`CanStoreNewItem` write into one `dest`. What a call has planned stays there when it fails, and the next call
looks for space for the whole count again. So a later call may succeed with more than the count in `dest`:
`delivers_iff` has the exact condition.
-/

namespace Axium.Player

open Guilds Stacks Vault List

namespace Limits

section Definitions

variable (L : Limits) (R : Realm) (v : Vault)

/-- `CanStoreNewItem`, which is `CanStoreItem` without an item to move. `dest` may have positions already. -/
def canStoreNewItem (bag slot : Byte) (dest : List (Place × Nat)) (item count : Nat) : Placement :=
  let r := L.canTakeMoreSimilarItems R v item count none
  let noSimilar := r.2
  if r.1 ≠ .ok ∧ count = noSimilar then ⟨r.1, dest, some noSimilar⟩
  else
    let left := if r.1 ≠ .ok then uint32 (count - noSimilar) else count
    match (attempts bag slot (R.template item)).foldlM
        (v.attempt R bag slot (wanted v item none) false noSimilar) ⟨dest, left⟩ with
    | .error (res, P) =>
      ⟨res, P.dest, if res = .ok ∨ res = .nonemptyBagOverOtherBag then none else some (uint32 (P.left + noSimilar))⟩
    | .ok P => ⟨.inventoryFull, P.dest, some (uint32 (P.left + noSimilar))⟩

/-- The search of `AutoStoreLoot` for an item. -/
def placeNewItem (bag slot : Byte) (item count : Nat) : Placement :=
  let r := L.canStoreNewItem R v bag slot [] item count
  let r := if r.result ≠ .ok ∧ slot ≠ nullSlot then L.canStoreNewItem R v bag nullSlot r.dest item count else r
  if r.result ≠ .ok ∧ bag ≠ nullBag then L.canStoreNewItem R v nullBag nullSlot r.dest item count else r

def looksAt (item : Nat) (p : Byte × Byte) : List (Place × Nat) :=
  (v.gather R (wanted v item none) p.1 p.2 false (attempts p.1 p.2 (R.template item))).2

def calls (bag slot : Byte) : List (Byte × Byte) :=
  (bag, slot) :: (if slot ≠ nullSlot then [(bag, nullSlot)] else []) ++
    if bag ≠ nullBag then [(nullBag, nullSlot)] else []

/-- Before the first list with new space for the whole count, no list has new space. -/
def FirstFinds (count : Nat) : (seen : List Place) → (planned : Nat) → List (List (Place × Nat)) → Prop
  | _, _, [] => True
  | seen, planned, l :: ls =>
    if count ≤ room seen l then planned = 0
    else FirstFinds count (seen ++ l.map Prod.fst) (planned + room seen l) ls

/-- Nothing is planned twice for an item: no call finds space for some of the units only before a later one
finds space for all. -/
def PlannedOnce (bag slot : Byte) (item count : Nat) : Prop :=
  (L.canTakeMoreSimilarItems R v item count none).1 = .ok →
    FirstFinds count [] 0 ((calls bag slot).map (looksAt R v item))

def tryAll (item count : Nat) : List (Byte × Byte) → Placement → Placement
  | [], r => r
  | p :: ps, r => if r.result ≠ .ok then tryAll item count ps (L.canStoreNewItem R v p.1 p.2 r.dest item count) else r

end Definitions

variable {L : Limits} {R : Realm} {v : Vault} {bag slot : Byte} {dest : List (Place × Nat)} {item count : Nat}

variable {r : Placement}

theorem tryAll_of_ok (h : r.result = .ok) (ps : List (Byte × Byte)) : L.tryAll R v item count ps r = r := by
  cases ps with
  | nil => rfl
  | cons p ps => exact if_neg (not_not.2 h)

theorem placeNewItem_eq : L.placeNewItem R v bag slot item count =
    L.tryAll R v item count (calls bag slot) ⟨.inventoryFull, [], none⟩ := by
  have hnone : InventoryResult.inventoryFull ≠ .ok := InventoryResult.noConfusion
  have hstep : ∀ (c : Prop) [Decidable c] (p : Byte × Byte) ps (r : Placement),
      L.tryAll R v item count ((if c then [p] else []) ++ ps) r = L.tryAll R v item count ps
        (if r.result ≠ .ok ∧ c then L.canStoreNewItem R v p.1 p.2 r.dest item count else r) := by
    intro c _ p ps r
    by_cases hc : c
    · rw [if_pos hc]
      by_cases hr : r.result = .ok
      · rw [if_neg fun h => h.1 hr, tryAll_of_ok hr, tryAll_of_ok hr]
      · rw [if_pos ⟨hr, hc⟩]
        exact if_pos hr
    · rw [if_neg hc, if_neg fun h => hc h.2, nil_append]
  unfold calls placeNewItem
  rw [cons_append]
  unfold tryAll
  rw [hstep, ← append_nil (if bag ≠ nullBag then [(nullBag, nullSlot)] else []), hstep]
  rfl

/-! ## One call -/

theorem canTakeMoreSimilarItems_zero (h : (L.canTakeMoreSimilarItems R v item count none).2 = 0) :
    (L.canTakeMoreSimilarItems R v item count none).1 = .ok ∨ count = 0 := by
  unfold canTakeMoreSimilarItems at h ⊢
  dsimp only [Option.any_none] at h ⊢
  rw [if_neg Bool.false_ne_true] at h ⊢
  split_ifs at h ⊢ with hnone hmax hcategory
  · exact .inl rfl
  · unfold uint32 at h hmax
    omega
  · exact .inl rfl
  split at h
  · exact .inr h
  · split_ifs at h ⊢ with hmax
    · unfold uint32 at h hmax
      omega
    · exact .inl rfl

theorem canStoreNewItem_ok (h : (L.canStoreNewItem R v bag slot dest item count).result = .ok) :
    (L.canTakeMoreSimilarItems R v item count none).1 = .ok := by
  by_contra hcode
  unfold canStoreNewItem at h
  dsimp only at h
  by_cases heq : count = (L.canTakeMoreSimilarItems R v item count none).2
  · rw [if_pos ⟨hcode, heq⟩] at h
    exact hcode h
  rw [if_neg fun h => heq h.2] at h
  generalize (if (L.canTakeMoreSimilarItems R v item count none).1 ≠ .ok then
    uint32 (count - (L.canTakeMoreSimilarItems R v item count none).2) else count) = left at h
  cases hrun : (attempts bag slot (R.template item)).foldlM (v.attempt R bag slot (wanted v item none) false
      (L.canTakeMoreSimilarItems R v item count none).2) ⟨dest, left⟩ with
  | ok P =>
    rw [hrun] at h
    cases h
  | error r =>
    obtain ⟨res, P⟩ := r
    rw [hrun] at h
    cases (show res = .ok from h)
    have hzero := (run_ok hrun).1
    rcases canTakeMoreSimilarItems_zero hzero with hok | hnothing
    · exact hcode hok
    · exact heq (hnothing.trans hzero.symm)

theorem canStoreNewItem_eq (hok : (L.canTakeMoreSimilarItems R v item count none).1 = .ok) :
    L.canStoreNewItem R v bag slot dest item count =
      finish 0 (outcome ((attempts bag slot (R.template item)).foldlM
        (v.attempt R bag slot (wanted v item none) false 0) ⟨dest, count⟩)) := by
  unfold canStoreNewItem
  rw [if_neg fun h => h.1 hok, if_neg (not_not.2 hok), canTakeMoreSimilarItems_ok hok]
  exact finish_outcome _

/-- The slots of a `dest`, and the units that are planned there. -/
structure Planned (seen : List Place) (n : Nat) (dest : List (Place × Nat)) : Prop where
  slots : ∀ q, q ∈ dest.map Prod.fst ↔ q ∈ seen
  sum : (dest.map Prod.snd).sum = n

theorem Planned.call {seen : List Place} {n : Nat} (h : Planned seen n dest)
    (hok : (L.canTakeMoreSimilarItems R v item count none).1 = .ok) (hpos : 0 < count) (p : Byte × Byte) :
    (count ≤ room seen (looksAt R v item p) →
      (L.canStoreNewItem R v p.1 p.2 dest item count).result = .ok ∧
        ((L.canStoreNewItem R v p.1 p.2 dest item count).dest.map Prod.snd).sum = n + count) ∧
    (¬ count ≤ room seen (looksAt R v item p) →
      (L.canStoreNewItem R v p.1 p.2 dest item count).result ≠ .ok ∧
        Planned (seen ++ (looksAt R v item p).map Prod.fst) (n + room seen (looksAt R v item p))
          (L.canStoreNewItem R v p.1 p.2 dest item count).dest) := by
  have hleft : (Plan.fill (looksAt R v item p) ⟨dest, count⟩).left = count - room seen (looksAt R v item p) := by
    rw [fill_left (P := ⟨dest, count⟩) hpos]
    exact congrArg (count - ·) (room_congr h.slots)
  have htotal : ((Plan.fill (looksAt R v item p) ⟨dest, count⟩).dest.map Prod.snd).sum + _ = _ + count := fill_total
  rw [h.sum] at htotal
  rw [canStoreNewItem_eq hok, run_eq (P := ⟨dest, count⟩) hpos]
  change (_ → (if (Plan.fill (looksAt R v item p) ⟨dest, count⟩).left = 0 then _ else _) = _ ∧ _) ∧
    (_ → (if (Plan.fill (looksAt R v item p) ⟨dest, count⟩).left = 0 then _ else _) ≠ _ ∧ _)
  rw [hleft]
  constructor
  · intro hroom
    rw [if_pos (Nat.sub_eq_zero_of_le hroom)]
    refine ⟨rfl, ?_⟩
    change ((Plan.fill (looksAt R v item p) ⟨dest, count⟩).dest.map Prod.snd).sum = _
    omega
  · intro hroom
    have hmore : count - room seen (looksAt R v item p) ≠ 0 := by omega
    rw [if_neg hmore]
    refine ⟨gather_ne_ok, fun q => ?_, ?_⟩
    · refine (mem_fill (hleft.trans_ne hmore)).trans ?_
      rw [mem_append, ← h.slots q]
    · change ((Plan.fill (looksAt R v item p) ⟨dest, count⟩).dest.map Prod.snd).sum = _
      omega

/-! ## All the calls -/

theorem tryAll_ok (ps : List (Byte × Byte)) (hr : r.result ≠ .ok)
    (h : (L.tryAll R v item count ps r).result = .ok) :
    (L.canTakeMoreSimilarItems R v item count none).1 = .ok := by
  induction ps generalizing r with
  | nil => exact absurd h hr
  | cons p ps ih =>
    unfold tryAll at h
    rw [if_pos hr] at h
    by_cases hcall : (L.canStoreNewItem R v p.1 p.2 r.dest item count).result = .ok
    · exact canStoreNewItem_ok hcall
    · exact ih hcall h

theorem tryAll_zero (hok : (L.canTakeMoreSimilarItems R v item 0 none).1 = .ok) (ps : List (Byte × Byte))
    (hr : (r.dest.map Prod.snd).sum = 0) : ((L.tryAll R v item 0 ps r).dest.map Prod.snd).sum = 0 := by
  induction ps generalizing r with
  | nil => exact hr
  | cons p ps ih =>
    unfold tryAll
    split
    · refine ih ?_
      have htotal : ((outcome ((attempts p.1 p.2 (R.template item)).foldlM
          (v.attempt R p.1 p.2 (wanted v item none) false 0) ⟨r.dest, 0⟩)).2.dest.map Prod.snd).sum + _ = _ + 0 :=
        run_total _ _
      rw [canStoreNewItem_eq hok]
      dsimp only [finish] at htotal ⊢
      omega
    · exact hr

theorem tryAll_spec (hok : (L.canTakeMoreSimilarItems R v item count none).1 = .ok) (hpos : 0 < count)
    (ps : List (Byte × Byte)) {seen : List Place} {n : Nat} (hr : r.result ≠ .ok)
    (h : Planned seen n r.dest) (hbound : n + ps.length * count < 2 ^ 32) :
    ((L.tryAll R v item count ps r).result = .ok →
      uint32 (((L.tryAll R v item count ps r).dest.map Prod.snd).sum : Nat) = count) ↔
        FirstFinds count seen n (ps.map (looksAt R v item)) := by
  induction ps generalizing r seen n with
  | nil => exact iff_of_true (fun h => absurd h hr) trivial
  | cons p ps ih =>
    rw [length_cons, Nat.succ_mul] at hbound
    obtain ⟨hfound, hmissed⟩ := h.call (L := L) hok hpos p
    unfold tryAll
    rw [if_pos hr, map_cons]
    unfold FirstFinds
    by_cases hroom : count ≤ room seen (looksAt R v item p)
    · obtain ⟨hres, hsum⟩ := hfound hroom
      rw [if_pos hroom, tryAll_of_ok hres, uint32_of_lt (by omega)]
      exact ⟨fun heq => by have := heq hres; omega, fun hzero _ => by omega⟩
    · obtain ⟨hres, hplanned⟩ := hmissed hroom
      rw [if_neg hroom]
      exact ih hres hplanned (by omega)

theorem delivers_iff (hcount : count < 2 ^ 8) :
    ((L.placeNewItem R v bag slot item count).result = .ok →
      uint32 (((L.placeNewItem R v bag slot item count).dest.map Prod.snd).sum : Nat) = count) ↔
        L.PlannedOnce R v bag slot item count := by
  have hnone : InventoryResult.inventoryFull ≠ .ok := InventoryResult.noConfusion
  have hlength : (calls bag slot).length ≤ 3 := by
    unfold calls
    split_ifs <;> simp
  rw [placeNewItem_eq]
  unfold PlannedOnce
  by_cases hok : (L.canTakeMoreSimilarItems R v item count none).1 = .ok
  · rw [forall_prop_of_true hok]
    rcases eq_zero_or_pos count with rfl | hpos
    · refine iff_of_true (fun _ => ?_) ?_
      · rw [tryAll_zero hok _ rfl]
        rfl
      · unfold calls
        rw [cons_append, map_cons]
        unfold FirstFinds
        rw [if_pos (Nat.zero_le _)]
    · refine tryAll_spec hok hpos _ hnone ⟨fun _ => .rfl, rfl⟩ ?_
      have hmul := Nat.mul_le_mul_right count hlength
      omega
  · exact iff_of_true (fun h => absurd (tryAll_ok _ hnone h) hok) fun h => absurd h hok

theorem plannedOnce_anywhere : L.PlannedOnce R v nullBag nullSlot item count := by
  intro _
  unfold calls
  rw [if_neg (not_not.2 rfl), if_neg (not_not.2 rfl), append_nil, map_singleton]
  unfold FirstFinds
  split
  · rfl
  · trivial

end Limits

end Axium.Player
