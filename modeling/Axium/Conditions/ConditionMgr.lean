import Axium.Lib.OrdMap
import Mathlib.Order.Filter.AtTopBot.Finite

/-!
# Conditions

A list of conditions is evaluated as a disjunction of its else groups. A condition may refer to a template, a list
that is kept by id, and `LoadConditions` refuses a template only if it refers to itself by a reference. Templates
that refer to each other are evaluated without end.
-/

namespace Axium.Conditions

open Filter List

structure Condition where
  elseGroup : Nat := 0
  conditionType : Nat := 0
  conditionValue1 : Nat := 0
  conditionValue2 : Nat := 0
  conditionValue3 : Nat := 0
  referenceId : Nat := 0
  scriptId : Nat := 0
  deriving DecidableEq

def CONDITION_NONE : Nat := 0
def CONDITION_AURA : Nat := 1
def CONDITION_CLASS : Nat := 15
def CONDITION_SPELL_SCRIPT_TARGET : Nat := 18
def CONDITION_ITEM_TARGET : Nat := 24
def CONDITION_MAX : Nat := 31

def Condition.isLoaded (c : Condition) : Bool := CONDITION_NONE < c.conditionType || c.referenceId ≠ 0

/-- `refId`: value 3 can be a 'quick' reference. -/
def Condition.refId (c : Condition) : Nat :=
  if c.conditionType ∈ [CONDITION_AURA, CONDITION_SPELL_SCRIPT_TARGET, CONDITION_ITEM_TARGET] then 0
  else c.conditionValue3

/-- `ConditionReferenceStore`. -/
structure Templates where
  find : Nat → Option (List Condition)
  nonempty : ∀ id l, find id = some l → l ≠ []
  loaded : ∀ id l, find id = some l → ∀ c ∈ l, c.isLoaded

structure Player where
  condMeets : Condition → Bool
  onConditionCheck : Condition → Bool := fun _ => true

section Evaluation
variable (p : Player) (store : Templates) (list : List Condition → Option Bool)

/-! ## IsPlayerMeetToConditionList -/

/-- `IsPlayerMeetToConditions`, with `list` for the evaluation of a list. -/
def isPlayerMeetToConditions (conditions : List Condition) : Option Bool :=
  if conditions.isEmpty then some true else list conditions

def Condition.meets (c : Condition) : Option Bool :=
  let condMeets := p.condMeets c
  let refMeets := if condMeets && c.refId ≠ 0 then isPlayerMeetToConditions list ((store.find c.refId).getD [])
    else some true
  refMeets.map fun refMeets => condMeets && refMeets && p.onConditionCheck c

def Condition.value (c : Condition) : Option Bool :=
  if c.referenceId ≠ 0 then
    match store.find c.referenceId with
    | some l => list l
    | none => some true
  else c.meets p store list

/-- One turn of the loop, on `ElseGroupStore`. -/
def turn (elseGroups : OrdMap Nat Bool) (c : Condition) : Option (OrdMap Nat Bool) :=
  if c.isLoaded && elseGroups.find? c.elseGroup ≠ some false then
    (c.value p store list).map fun b => elseGroups.insert c.elseGroup b
  else some elseGroups

/-- `IsPlayerMeetToConditionList`, as far as the evaluation of templates is nested no deeper than given. -/
def isPlayerMeetToConditionList : Nat → List Condition → Option Bool
  | 0, _ => none
  | depth + 1, conditions =>
    (conditions.foldlM (turn p store (isPlayerMeetToConditionList depth)) OrdMap.empty).map fun elseGroups =>
      elseGroups.entries.any (·.2)

/-! ## What a list means -/

def Condition.template (c : Condition) : Option (List Condition) :=
  if c.referenceId ≠ 0 then store.find c.referenceId
  else if p.condMeets c && c.refId ≠ 0 then store.find c.refId
  else none

def Condition.own (c : Condition) : Bool := c.referenceId ≠ 0 || p.condMeets c && p.onConditionCheck c

def Refers (d c : Condition) : Prop := ∃ l, c.template p store = some l ∧ d ∈ l

/-- A condition holds if it is met by itself and its template, if there is one, has an else group all of whose
conditions hold. -/
inductive Holds : Condition → Prop
  | plain {c : Condition} : c.template p store = none → c.own p → Holds c
  | refers {c : Condition} {l : List Condition} {g : Nat} : c.template p store = some l → c.own p →
    (∃ d ∈ l, d.elseGroup = g) → (∀ d ∈ l, d.elseGroup = g → Holds d) → Holds c

def ListHolds (l : List Condition) : Prop :=
  ∃ g, (∃ c ∈ l, c.elseGroup = g) ∧ ∀ c ∈ l, c.elseGroup = g → Holds p store c

end Evaluation

section
variable {p : Player} {store : Templates} {list : List Condition → Option Bool} {c : Condition}
  {l : List Condition}

theorem value_of_template (h : c.template p store = some l) :
    c.value p store list = (list l).map (c.own p && ·) := by
  unfold Condition.template at h
  unfold Condition.value Condition.own
  split_ifs at h ⊢ with href hquick
  · rw [h, decide_eq_true href]
    dsimp only
    cases list l <;> rfl
  · have hne : l.isEmpty = false := by simpa using store.nonempty _ _ h
    have href : c.referenceId = 0 := by simpa using href
    unfold Condition.meets isPlayerMeetToConditions
    dsimp only
    rw [if_pos hquick, h, Option.getD_some, hne, href]
    rw [Bool.and_eq_true] at hquick
    rw [hquick.1]
    exact congrFun (congrArg _ (funext fun b => Bool.and_comm b _)) _

theorem value_of_none (h : c.template p store = none) : c.value p store list = some (c.own p) := by
  unfold Condition.template at h
  unfold Condition.value Condition.own
  split_ifs at h ⊢ with href hquick
  · rw [h, decide_eq_true href]
    rfl
  · have href : c.referenceId = 0 := by simpa using href
    unfold Condition.meets isPlayerMeetToConditions
    dsimp only
    rw [if_pos hquick, h, href]
    rw [Bool.and_eq_true] at hquick
    rw [hquick.1]
    rfl
  · have href : c.referenceId = 0 := by simpa using href
    unfold Condition.meets
    dsimp only
    rw [if_neg hquick, href, Option.map_some, Bool.and_true]
    rfl

theorem holds_iff_of_template (h : c.template p store = some l) :
    Holds p store c ↔ c.own p ∧ ListHolds p store l := by
  constructor
  · intro hholds
    cases hholds with
    | plain hnone => rw [hnone] at h; cases h
    | refers hl hown hne hall =>
      rw [h] at hl
      cases hl
      exact ⟨hown, _, hne, hall⟩
  · rintro ⟨hown, g, hne, hall⟩
    exact .refers h hown hne hall

theorem holds_iff_of_none (h : c.template p store = none) : Holds p store c ↔ c.own p := by
  refine ⟨fun hholds => ?_, .plain h⟩
  cases hholds with
  | plain _ hown => exact hown
  | refers hl => rw [h] at hl; cases hl

/-! ## A list that is evaluated to the end -/

/-- What is kept for the else groups of the conditions so far. -/
def Kept (p : Player) (store : Templates) (done : List Condition) (m : OrdMap Nat Bool) : Prop :=
  ∀ g b, m.find? g = some b ↔
    (∃ c ∈ done, c.elseGroup = g) ∧ (b = true ↔ ∀ c ∈ done, c.elseGroup = g → Holds p store c)

variable {done : List Condition} {m m' : OrdMap Nat Bool}

theorem Kept.turn (h : Kept p store done m) (hloaded : c.isLoaded)
    (hvalue : ∀ b, c.value p store list = some b → (b = true ↔ Holds p store c))
    (hm : turn p store list m c = some m') : Kept p store (done ++ [c]) m' := by
  intro g b
  have hmore (P : Condition → Prop) : (∀ d ∈ done ++ [c], d.elseGroup = g → P d) ↔
      (∀ d ∈ done, d.elseGroup = g → P d) ∧ (c.elseGroup = g → P c) := by
    simp only [mem_append, mem_singleton, or_imp, forall_and, forall_eq]
  have hex : (∃ d ∈ done ++ [c], d.elseGroup = g) ↔ (∃ d ∈ done, d.elseGroup = g) ∨ c.elseGroup = g := by
    simp only [mem_append, mem_singleton, or_and_right, exists_or, exists_eq_left]
  have hg := h g
  unfold Conditions.turn at hm
  rw [hloaded, Bool.true_and] at hm
  rw [hmore, hex]
  by_cases heq : c.elseGroup = g
  · subst heq
    split at hm
    · next hopen =>
      obtain ⟨v, hv, rfl⟩ := Option.map_eq_some_iff.1 hm
      have hall : ∀ d ∈ done, d.elseGroup = c.elseGroup → Holds p store d := by
        by_contra hnot
        have hfalse : m.find? c.elseGroup = some false := by
          push Not at hnot
          obtain ⟨d, hd, hdg, hdn⟩ := hnot
          exact (hg false).2 ⟨⟨d, hd, hdg⟩, by simpa using ⟨d, hd, hdg, hdn⟩⟩
        exact of_decide_eq_true hopen hfalse
      rw [OrdMap.find?_insert_self, Option.some.injEq, ← hvalue v hv, eq_true hall]
      cases v <;> cases b <;> simp
    · next hclosed =>
      obtain rfl := Option.some.inj hm
      have hfalse : m.find? c.elseGroup = some false := by simpa using hclosed
      obtain ⟨hne, hnot⟩ := (hg false).1 hfalse
      have hnot : ¬ ∀ d ∈ done, d.elseGroup = c.elseGroup → Holds p store d := fun hall => nomatch hnot.2 hall
      rw [hfalse, Option.some.injEq, eq_false hnot]
      cases b <;> simp
  · have hsame : m'.find? g = m.find? g := by
      split at hm
      · obtain ⟨v, -, rfl⟩ := Option.map_eq_some_iff.1 hm
        exact OrdMap.find?_insert_ne _ _ heq
      · rw [Option.some.inj hm]
    simp only [hsame, hg, heq, or_false, false_imp_iff, and_true]

theorem Kept.foldlM (hvalue : ∀ c b, c.value p store list = some b → (b = true ↔ Holds p store c))
    (hloaded : ∀ c ∈ l, c.isLoaded) (h : Kept p store done m)
    (hm : l.foldlM (Conditions.turn p store list) m = some m') : Kept p store (done ++ l) m' := by
  induction l generalizing done m with
  | nil =>
    rw [append_nil, ← Option.some.inj hm]
    exact h
  | cons c l ih =>
    obtain ⟨hc, hloaded⟩ := forall_mem_cons.1 hloaded
    obtain ⟨m₁, hm₁, hm⟩ := Option.bind_eq_some_iff.1 ((foldlM_cons ..).symm.trans hm)
    have hrest := ih hloaded (h.turn hc (hvalue c) hm₁) hm
    rwa [append_assoc] at hrest

theorem eq_true_iff_listHolds {depth : Nat} {b : Bool} (hloaded : ∀ c ∈ l, c.isLoaded)
    (h : isPlayerMeetToConditionList p store depth l = some b) : b = true ↔ ListHolds p store l := by
  induction depth generalizing l b with
  | zero => cases h
  | succ depth ih =>
    have hvalue (c : Condition) (b : Bool)
        (hc : c.value p store (isPlayerMeetToConditionList p store depth) = some b) : b = true ↔ Holds p store c := by
      cases ht : c.template p store with
      | none => rw [holds_iff_of_none ht, ← Option.some.inj ((value_of_none ht).symm.trans hc)]
      | some t =>
        rw [value_of_template ht] at hc
        obtain ⟨b', hb', rfl⟩ := Option.map_eq_some_iff.1 hc
        have hloaded : ∀ d ∈ t, d.isLoaded := by
          unfold Condition.template at ht
          split_ifs at ht <;> exact store.loaded _ _ ht
        rw [holds_iff_of_template ht, Bool.and_eq_true, ih hloaded hb']
    obtain ⟨m, hm, rfl⟩ := Option.map_eq_some_iff.1 h
    have hempty : Kept p store [] OrdMap.empty := fun g b => iff_of_false nofun nofun
    have hkept := Kept.foldlM hvalue hloaded hempty hm
    rw [any_eq_true]
    constructor
    · rintro ⟨⟨g, b⟩, hmem, rfl⟩
      obtain ⟨hne, hall⟩ := (hkept g true).1 (OrdMap.find?_eq_some.2 hmem)
      exact ⟨g, hne, hall.1 rfl⟩
    · rintro ⟨g, hne, hall⟩
      exact ⟨(g, true), OrdMap.find?_eq_some.1 ((hkept g true).2 ⟨hne, iff_of_true rfl hall⟩), rfl⟩

end

end Axium.Conditions
