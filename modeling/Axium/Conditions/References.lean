import Axium.Conditions.ConditionMgr

/-!
# References between templates

`LoadConditions` refuses a template that refers to itself and no longer cycles. A list is evaluated, in every order
of its conditions and of those of the templates, if and only if no chain of references from it goes on forever.
-/

namespace Axium.Conditions

open Filter List Option

/-! ## LoadConditions -/

/-- A row of `conditions`, with what `isConditionTypeValid` says about the values of its type. -/
structure Row where
  sourceTypeOrReferenceId : Int
  conditionTypeOrReference : Int
  values : Condition := {}
  valid : Bool := true

def Row.accepted (r : Row) : Bool :=
  if r.conditionTypeOrReference < 0 then r.conditionTypeOrReference ≠ r.sourceTypeOrReferenceId
  else CONDITION_NONE < r.conditionTypeOrReference && r.conditionTypeOrReference < CONDITION_MAX && r.valid

def Row.cond (r : Row) : Condition :=
  if r.conditionTypeOrReference < 0 then
    { r.values with conditionType := CONDITION_NONE, referenceId := r.conditionTypeOrReference.natAbs }
  else { r.values with conditionType := r.conditionTypeOrReference.toNat, referenceId := 0 }

theorem isLoaded_cond {r : Row} (h : r.accepted) : r.cond.isLoaded := by
  unfold Row.accepted at h
  unfold Row.cond Condition.isLoaded
  split_ifs at h ⊢ with hneg
  · have hne : r.conditionTypeOrReference.natAbs ≠ 0 := by omega
    simp [hne]
  · have hpos : CONDITION_NONE < r.conditionTypeOrReference.toNat := by
      simp only [Bool.and_eq_true, decide_eq_true_eq] at h
      omega
    simp [hpos]

def loadConditions (rows : List Row) : Templates where
  find id :=
    let l := (rows.filter fun r =>
      r.sourceTypeOrReferenceId < 0 && r.sourceTypeOrReferenceId.natAbs = id && r.accepted).map Row.cond
    if l = [] then none else some l
  nonempty id l h := by
    dsimp only at h
    split at h
    · cases h
    · next hne => exact some.inj h ▸ hne
  loaded id l h c hc := by
    dsimp only at h
    split at h
    · cases h
    · rw [← some.inj h] at hc
      obtain ⟨r, hr, rfl⟩ := mem_map.1 hc
      have htest := (mem_filter.1 hr).2
      rw [Bool.and_eq_true] at htest
      exact isLoaded_cond htest.2

/-! ## Orders -/

def Templates.SameUpToOrder (store store' : Templates) : Prop :=
  ∀ id, (store.find id).map Multiset.ofList = (store'.find id).map Multiset.ofList

def Evaluates (p : Player) (store : Templates) (l : List Condition) : Prop :=
  ∀ store' l', store.SameUpToOrder store' → l.Perm l' →
    ∃ depth b, isPlayerMeetToConditionList p store' depth l' = some b ∧ (b = true ↔ ListHolds p store l)

variable {p : Player} {store store' : Templates} {list : List Condition → Option Bool} {c d : Condition}
  {l l' : List Condition}

section

variable (h : store.SameUpToOrder store')
include h

theorem template_map (p : Player) (c : Condition) :
    (c.template p store).map Multiset.ofList = (c.template p store').map Multiset.ofList := by
  unfold Condition.template
  split_ifs
  · exact h _
  · exact h _
  · rfl

theorem exists_template (hl : c.template p store = some l) :
    ∃ l', c.template p store' = some l' ∧ l.Perm l' := by
  have hmap := template_map h p c
  rw [hl] at hmap
  obtain ⟨l', hl', heq⟩ := map_eq_some_iff.1 hmap.symm
  exact ⟨l', hl', Multiset.coe_eq_coe.1 heq.symm⟩

theorem Refers.reorder (hd : Refers p store d c) : Refers p store' d c := by
  obtain ⟨l, hl, hmem⟩ := hd
  obtain ⟨l', hl', hperm⟩ := exists_template h hl
  exact ⟨l', hl', hperm.mem_iff.1 hmem⟩

theorem Holds.reorder (hc : Holds p store c) : Holds p store' c := by
  induction hc with
  | @plain c hnone hown =>
    have hmap := template_map h p c
    rw [hnone] at hmap
    exact .plain (map_eq_none_iff.1 hmap.symm) hown
  | refers hl hown hne _ ih =>
    obtain ⟨l', hl', hperm⟩ := exists_template h hl
    obtain ⟨d, hd, hg⟩ := hne
    exact .refers hl' hown ⟨d, hperm.mem_iff.1 hd, hg⟩ fun d hd => ih d (hperm.mem_iff.2 hd)

theorem ListHolds.reorder (hperm : l.Perm l') (hl : ListHolds p store l) : ListHolds p store' l' := by
  obtain ⟨g, ⟨c, hc, hg⟩, hall⟩ := hl
  exact ⟨g, ⟨c, hperm.mem_iff.1 hc, hg⟩, fun d hd hdg => (hall d (hperm.mem_iff.2 hd) hdg).reorder h⟩

end

/-! ## Lists that are evaluated -/

theorem isSome_foldlM (h : ∀ c ∈ l, (c.value p store list).isSome) (m : OrdMap Nat Bool) :
    (l.foldlM (turn p store list) m).isSome := by
  induction l generalizing m with
  | nil => rfl
  | cons c l ih =>
    obtain ⟨hc, h⟩ := forall_mem_cons.1 h
    have hturn : (turn p store list m c).isSome := by
      unfold turn
      split
      · exact isSome_map.trans hc
      · rfl
    obtain ⟨m', hm'⟩ := isSome_iff_exists.1 hturn
    rw [foldlM_cons, hm']
    exact ih h m'

theorem eventually_evaluated (h : ∀ c ∈ l, ∀ᶠ depth in atTop,
      (c.value p store (isPlayerMeetToConditionList p store depth)).isSome) :
    ∀ᶠ depth in atTop, (isPlayerMeetToConditionList p store depth l).isSome := by
  obtain ⟨n, hn⟩ := eventually_atTop.1 ((eventually_all_finite l.finite_toSet).2 h)
  refine eventually_atTop.2 ⟨n + 1, fun depth hle => ?_⟩
  obtain ⟨depth, rfl⟩ := Nat.exists_eq_add_of_lt (lt_of_lt_of_le n.succ_pos hle)
  rw [zero_add]
  exact isSome_map.trans (isSome_foldlM (hn depth (by omega)) _)

theorem eventually_valued (h : Acc (Refers p store) c) :
    ∀ᶠ depth in atTop, (c.value p store (isPlayerMeetToConditionList p store depth)).isSome := by
  induction h with
  | intro c _ ih =>
    cases hc : c.template p store with
    | none => exact .of_forall fun depth => by rw [value_of_none hc]; rfl
    | some l =>
      refine (eventually_evaluated fun d hd => ih d ⟨l, hc, hd⟩).mono fun depth hl => ?_
      rw [value_of_template hc]
      exact isSome_map.trans hl

/-! ## Lists that are not -/

open Classical in
/-- The same conditions with one first from which a chain of references goes on forever. -/
noncomputable def front (p : Player) (store : Templates) (l : List Condition) : List Condition :=
  if h : ∃ c ∈ l, ¬ Acc (Refers p store) c then h.choose :: l.erase h.choose else l

theorem perm_front (p : Player) (store : Templates) (l : List Condition) : l.Perm (front p store l) := by
  unfold front
  split
  · next h => exact perm_cons_erase h.choose_spec.1
  · exact .refl _

noncomputable def Templates.front (p : Player) (store : Templates) : Templates where
  find id := (store.find id).map (Conditions.front p store)
  nonempty id l h := by
    obtain ⟨l, hl, rfl⟩ := map_eq_some_iff.1 h
    exact fun hnil => store.nonempty id l hl ((perm_front p store l).trans (.of_eq hnil)).eq_nil
  loaded id l h c hc := by
    obtain ⟨l, hl, rfl⟩ := map_eq_some_iff.1 h
    exact store.loaded id l hl c ((perm_front p store l).mem_iff.2 hc)

theorem sameUpToOrder_front (p : Player) (store : Templates) : store.SameUpToOrder (store.front p) := by
  intro id
  change _ = ((store.find id).map (front p store)).map _
  rw [Option.map_map]
  exact congrFun (congrArg _ (funext fun l => Multiset.coe_eq_coe.2 (perm_front p store l))) _

theorem front_not_evaluated (hloaded : ∀ c ∈ l, c.isLoaded) (h : ∃ c ∈ l, ¬ Acc (Refers p store) c)
    (depth : Nat) : isPlayerMeetToConditionList p (store.front p) depth (front p store l) = none := by
  induction depth generalizing l with
  | zero => rfl
  | succ depth ih =>
    have hfront : front p store l = h.choose :: l.erase h.choose := dif_pos h
    obtain ⟨hmem, hacc⟩ := h.choose_spec
    generalize h.choose = c at hfront hmem hacc
    -- the chain goes on in the template of the first condition
    have hnext : ∃ d, Refers p store d c ∧ ¬ Acc (Refers p store) d := by
      by_contra hnot
      push Not at hnot
      exact hacc ⟨c, hnot⟩
    obtain ⟨d, ⟨t, ht, hd⟩, hdacc⟩ := hnext
    have htloaded : ∀ c ∈ t, c.isLoaded := by
      unfold Condition.template at ht
      split_ifs at ht <;> exact store.loaded _ _ ht
    have htfront : c.template p (store.front p) = some (front p store t) := by
      unfold Condition.template at ht ⊢
      split_ifs at ht ⊢ <;> exact congrArg (Option.map _) ht
    have hturn : turn p (store.front p) (isPlayerMeetToConditionList p (store.front p) depth) OrdMap.empty c = none := by
      unfold turn
      rw [hloaded c hmem, value_of_template htfront, ih htloaded ⟨d, hd, hdacc⟩]
      rfl
    rw [isPlayerMeetToConditionList, hfront, foldlM_cons, hturn]
    rfl

/-- **Lists of conditions are evaluated**, and mean a disjunction of their else groups, if and only if no chain of
references from them goes on forever. -/
theorem evaluates_iff (p : Player) (store : Templates) (l : List Condition) (hloaded : ∀ c ∈ l, c.isLoaded) :
    Evaluates p store l ↔ ∀ c ∈ l, Acc (Refers p store) c := by
  constructor
  · intro heval
    by_contra hnot
    push Not at hnot
    obtain ⟨depth, b, hb, -⟩ := heval _ _ (sameUpToOrder_front p store) (perm_front p store l)
    rw [front_not_evaluated hloaded hnot] at hb
    cases hb
  · intro hacc store' l' hstore hperm
    have hacc' (c) (hc : c ∈ l') : Acc (Refers p store') c :=
      Subrelation.accessible (fun h => h.reorder (fun id => (hstore id).symm)) (hacc c (hperm.mem_iff.2 hc))
    obtain ⟨depth, hdepth⟩ := (eventually_evaluated fun c hc => eventually_valued (hacc' c hc)).exists
    obtain ⟨b, hb⟩ := isSome_iff_exists.1 hdepth
    refine ⟨depth, b, hb, (eq_true_iff_listHolds (fun c hc => hloaded c (hperm.mem_iff.2 hc)) hb).trans ?_⟩
    exact ⟨.reorder (fun id => (hstore id).symm) hperm.symm, .reorder hstore hperm⟩

def everyone : Player := ⟨fun _ => true, fun _ => true⟩

theorem evaluates_iff_class : Evaluates everyone (loadConditions [⟨-1, CONDITION_CLASS, {}, true⟩])
    [{ conditionType := CONDITION_CLASS, elseGroup := 1 }, { referenceId := 1 }] := by
  have hclass (g : Nat) : Acc (Refers everyone (loadConditions [⟨-1, CONDITION_CLASS, {}, true⟩]))
      { conditionType := CONDITION_CLASS, elseGroup := g } := ⟨_, fun d ⟨_, hl, _⟩ => nomatch hl⟩
  refine (evaluates_iff everyone _ _ (by decide)).2 (forall_mem_cons.2 ⟨hclass 1, forall_mem_singleton.2 ?_⟩)
  refine ⟨_, fun d ⟨l, hl, hd⟩ => ?_⟩
  cases some.inj hl
  obtain rfl := mem_singleton.1 hd
  exact hclass 0

/-- Two templates refer to each other. -/
theorem cycle_not_evaluated : let rows : List Row := [⟨-1, -2, {}, true⟩, ⟨-2, -1, {}, true⟩]
    rows.all Row.accepted = true ∧ ¬ Evaluates everyone (loadConditions rows) [{ referenceId := 1 }] := by
  intro rows
  refine ⟨by decide, fun heval => ?_⟩
  obtain ⟨depth, b, hb, -⟩ := heval _ _ (fun _ => rfl) (.refl _)
  have hboth (depth : Nat) :
      isPlayerMeetToConditionList everyone (loadConditions rows) depth [{ referenceId := 1 }] = none ∧
        isPlayerMeetToConditionList everyone (loadConditions rows) depth [{ referenceId := 2 }] = none := by
    induction depth with
    | zero => exact ⟨rfl, rfl⟩
    | succ depth ih =>
      obtain ⟨hone, htwo⟩ := ih
      have hvalue (list : List Condition → Option Bool) :
          Condition.value everyone (loadConditions rows) list { referenceId := 1 } = list [{ referenceId := 2 }] ∧
            Condition.value everyone (loadConditions rows) list { referenceId := 2 } = list [{ referenceId := 1 }] :=
        ⟨rfl, rfl⟩
      constructor <;> rw [isPlayerMeetToConditionList, foldlM_cons] <;> unfold turn
      · rw [(hvalue _).1, htwo]
        rfl
      · rw [(hvalue _).2, hone]
        rfl
  rw [(hboth depth).1] at hb
  cases hb

end Axium.Conditions
