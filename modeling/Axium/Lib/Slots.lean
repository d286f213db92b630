import Axium.Lib.Literals
import Mathlib.Data.Fintype.EquivFin
import Mathlib.Data.List.FinRange
import Mathlib.Data.List.Nodup

/-!
# Slots

Two ways to keep values in reusable slots. A fixed array `Fin n → Option α` is filled at the first free
slot; it has one for a new value as long as its values are apart and come from a family of `n` that the new
value is of too (`exists_free`). A vector with holes is a `List (Option β)` whose values have keys; a value
is found by its key and a new one goes to the first hole or to the end.
-/

namespace Axium.Slots

open List Function Option

/-! ## A fixed array -/

section Array

variable {n : Nat} {α : Type*} {s : Fin n → Option α} {a b : α}

def Holds (s : Fin n → Option α) (a : α) : Prop := ∃ z, s z = some a

instance [DecidableEq α] (s : Fin n → Option α) (a : α) : Decidable (Holds s a) :=
  inferInstanceAs (Decidable (∃ z, s z = some a))

def Apart (s : Fin n → Option α) : Prop := ∀ z z' a, s z = some a → s z' = some a → z = z'

def free? (s : Fin n → Option α) : Option (Fin n) := (List.finRange n).find? fun z => (s z).isNone

def slotOf? [DecidableEq α] (s : Fin n → Option α) (a : α) : Option (Fin n) := (List.finRange n).find? fun z => s z = some a

def place (s : Fin n → Option α) (a : α) : Fin n → Option α :=
  match free? s with
  | none => s
  | some z => update s z (some a)

def clear [DecidableEq α] (s : Fin n → Option α) (a : α) : Fin n → Option α :=
  match slotOf? s a with
  | none => s
  | some z => update s z none

theorem eq_none_of_free? {z : Fin n} (h : free? s = some z) : s z = none :=
  isNone_iff_eq_none.1 (find?_some (p := fun z => (s z).isNone) h)

theorem eq_some_of_slotOf? [DecidableEq α] {z : Fin n} (h : slotOf? s a = some z) : s z = some a :=
  of_decide_eq_true (find?_some (p := fun z => decide (s z = some a)) h)

theorem slotOf?_eq_none_iff [DecidableEq α] : slotOf? s a = none ↔ ¬ Holds s a := by
  unfold slotOf? Holds
  rw [find?_eq_none, not_exists]
  simp

theorem exists_free (happart : Apart s) (f : Fin n → α) (x : Fin n)
    (hfrom : ∀ a, Holds s a → ∃ x', x' ≠ x ∧ f x' = a) : ∃ z, free? s = some z := by
  by_contra hnone
  have hfull : ∀ z, ∃ a, s z = some a := by
    intro z
    by_contra hz
    have hsearch : free? s = none := eq_none_iff_forall_ne_some.2 fun z' h => hnone ⟨z', h⟩
    have hempty := find?_eq_none.1 hsearch z (mem_finRange z)
    exact hz (ne_none_iff_exists'.1 fun hnone => hempty (isNone_iff_eq_none.2 hnone))
  choose g hg using hfull
  choose index hne hindex using fun z => hfrom (g z) ⟨z, hg z⟩
  have hinj : Function.Injective index := by
    intro z z' h
    refine happart z z' (g z) (hg z) ?_
    rw [hg z', ← hindex z, ← hindex z', h]
  obtain ⟨z, hz⟩ := Finite.injective_iff_surjective.1 hinj x
  exact hne z hz

theorem holds_place {z : Fin n} (hfree : free? s = some z) : Holds (place s a) b ↔ b = a ∨ Holds s b := by
  have hnone := eq_none_of_free? hfree
  unfold place Holds
  rw [hfree]
  constructor
  · rintro ⟨z', hz'⟩
    dsimp only at hz'
    by_cases h : z' = z
    · subst h
      rw [update_self] at hz'
      exact .inl (Option.some.inj hz').symm
    · rw [update_of_ne h] at hz'
      exact .inr ⟨z', hz'⟩
  · rintro (rfl | ⟨z', hz'⟩)
    · exact ⟨z, update_self ..⟩
    · refine ⟨z', ?_⟩
      have h : z' ≠ z := by
        rintro rfl
        rw [hnone] at hz'
        cases hz'
      dsimp only
      rw [update_of_ne h, hz']

theorem Apart.place (h : Apart s) (hnew : ¬ Holds s a) : Apart (place s a) := by
  unfold Slots.place
  split
  · exact h
  · next z _ =>
    intro z₁ z₂ b h₁ h₂
    by_cases e₁ : z₁ = z <;> by_cases e₂ : z₂ = z
    · exact e₁.trans e₂.symm
    · subst e₁
      rw [update_self] at h₁
      rw [update_of_ne e₂] at h₂
      exact absurd ⟨z₂, h₂.trans h₁.symm⟩ hnew
    · subst e₂
      rw [update_self] at h₂
      rw [update_of_ne e₁] at h₁
      exact absurd ⟨z₁, h₁.trans h₂.symm⟩ hnew
    · rw [update_of_ne e₁] at h₁
      rw [update_of_ne e₂] at h₂
      exact h z₁ z₂ b h₁ h₂

theorem holds_clear [DecidableEq α] (h : Apart s) : Holds (clear s a) b ↔ Holds s b ∧ b ≠ a := by
  unfold clear
  split
  · next hnone =>
    have hnot := slotOf?_eq_none_iff.1 hnone
    exact ⟨fun hb => ⟨hb, fun hba => hnot (hba ▸ hb)⟩, And.left⟩
  · next z hz =>
    have hsome := eq_some_of_slotOf? hz
    constructor
    · rintro ⟨z', hz'⟩
      have hne : z' ≠ z := by
        rintro rfl
        rw [update_self] at hz'
        cases hz'
      rw [update_of_ne hne] at hz'
      refine ⟨⟨z', hz'⟩, ?_⟩
      rintro rfl
      exact hne (h z' z b hz' hsome)
    · rintro ⟨⟨z', hz'⟩, hba⟩
      refine ⟨z', ?_⟩
      have hne : z' ≠ z := by
        rintro rfl
        rw [hsome] at hz'
        exact hba (Option.some.inj hz').symm
      rw [update_of_ne hne, hz']

theorem Apart.clear [DecidableEq α] (h : Apart s) : Apart (clear s a) := by
  have hle : ∀ z b, Slots.clear s a z = some b → s z = some b := by
    intro z b hb
    unfold Slots.clear at hb
    cases hslot : slotOf? s a with
    | none => rwa [hslot] at hb
    | some z' =>
      rw [hslot] at hb
      dsimp only at hb
      by_cases hz : z = z'
      · rw [hz, update_self] at hb
        cases hb
      · rwa [update_of_ne hz] at hb
  exact fun z z' b hz hz' => h z z' b (hle z b hz) (hle z' b hz')

theorem not_holds_empty : ¬ Holds (fun _ : Fin n => none) a := fun ⟨_, h⟩ => by cases h

theorem apart_empty : Apart (fun _ : Fin n => (none : Option α)) := fun _ _ _ h => by cases h

end Array

/-! ## A vector with holes -/

section Vector

variable {β κ : Type*} (key : β → κ)

def keys (l : List (Option β)) : List κ := (l.filterMap id).map key

/-- The first value with the key. -/
def find [DecidableEq κ] (k : κ) : List (Option β) → Option β
  | [] => none
  | none :: l => find k l
  | some v :: l => if key v = k then some v else find k l

/-- The first value with the key is overwritten, or removed. -/
def write [DecidableEq κ] (k : κ) (new : Option β) : List (Option β) → List (Option β)
  | [] => []
  | none :: l => none :: write k new l
  | some v :: l => if key v = k then new :: l else some v :: write k new l

def insert (v : β) : List (Option β) → List (Option β)
  | [] => [some v]
  | none :: l => some v :: l
  | some v' :: l => some v' :: insert v l

variable {key} {l : List (Option β)} {k k' : κ} {v new : β}

@[simp] theorem keys_nil : keys key [] = [] := rfl

@[simp] theorem keys_none : keys key (none :: l) = keys key l := rfl

@[simp] theorem keys_some : keys key (some v :: l) = key v :: keys key l := rfl

section

variable [DecidableEq κ]

theorem find_eq_none_iff : find key k l = none ↔ k ∉ keys key l := by
  induction l with
  | nil => simp [find]
  | cons o l ih =>
    cases o with
    | none => rw [find, ih, keys_none]
    | some v =>
      rw [find, keys_some, mem_cons, not_or]
      by_cases h : key v = k
      · simp [h]
      · rw [if_neg h, ih]
        exact ⟨fun hl => ⟨Ne.symm h, hl⟩, And.right⟩

theorem find_write_ne (hne : k' ≠ k) {o : Option β} (ho : ∀ v, o = some v → key v = k) :
    find key k' (write key k o l) = find key k' l := by
  induction l with
  | nil => rfl
  | cons o' l ih =>
    cases o' with
    | none => exact ih
    | some v =>
      by_cases hv : key v = k
      · have hold : key v ≠ k' := fun h => hne (h.symm.trans hv)
        rw [write, if_pos hv, find, if_neg hold]
        cases o with
        | none => rfl
        | some new => rw [find, if_neg (fun h => hne (h.symm.trans (ho new rfl)))]
      · rw [write, if_neg hv, find, find, ih]

theorem find_write_some (h : find key k l = some v) (hnew : key new = k) :
    find key k (write key k (some new) l) = some new := by
  induction l with
  | nil => cases h
  | cons o l ih =>
    cases o with
    | none => exact ih h
    | some v' =>
      by_cases hv : key v' = k
      · rw [write, if_pos hv, find, if_pos hnew]
      · rw [find, if_neg hv] at h
        rw [write, if_neg hv, find, if_neg hv]
        exact ih h

theorem find_write_none (hnodup : (keys key l).Nodup) : find key k (write key k none l) = none := by
  induction l with
  | nil => rfl
  | cons o l ih =>
    cases o with
    | none => exact ih hnodup
    | some v =>
      rw [keys_some, nodup_cons] at hnodup
      by_cases hv : key v = k
      · rw [write, if_pos hv, find, find_eq_none_iff, ← hv]
        exact hnodup.1
      · rw [write, if_neg hv, find, if_neg hv]
        exact ih hnodup.2

theorem keys_write_some (hnew : key new = k) : keys key (write key k (some new) l) = keys key l := by
  induction l with
  | nil => rfl
  | cons o l ih =>
    cases o with
    | none => exact ih
    | some v =>
      by_cases hv : key v = k
      · rw [write, if_pos hv, keys_some, keys_some, hnew, hv]
      · rw [write, if_neg hv, keys_some, keys_some, ih]

theorem keys_write_none : (keys key (write key k none l)).Sublist (keys key l) := by
  induction l with
  | nil => exact List.Sublist.refl _
  | cons o l ih =>
    cases o with
    | none => exact ih
    | some v =>
      by_cases hv : key v = k
      · rw [write, if_pos hv]
        exact sublist_cons_self _ _
      · rw [write, if_neg hv, keys_some, keys_some]
        exact ih.cons_cons _

theorem find_insert (hnone : find key (key v) l = none) :
    find key k (insert v l) = if k = key v then some v else find key k l := by
  induction l with
  | nil => by_cases h : k = key v <;> simp [insert, find, h, eq_comm]
  | cons o l ih =>
    cases o with
    | none => by_cases h : k = key v <;> simp [insert, find, h, eq_comm]
    | some v' =>
      rw [find] at hnone
      split at hnone
      · cases hnone
      · next hv =>
        rw [insert, find, find, ih hnone]
        by_cases hk : key v' = k
        · rw [if_pos hk, if_pos hk, if_neg (fun h => hv (hk.trans h))]
        · rw [if_neg hk, if_neg hk]

end

theorem keys_insert : (keys key (insert v l)).Perm (key v :: keys key l) := by
  induction l with
  | nil => exact List.Perm.refl _
  | cons o l ih =>
    cases o with
    | none => exact List.Perm.refl _
    | some v' =>
      rw [insert, keys_some, keys_some]
      exact (ih.cons _).trans (List.Perm.swap _ _ _)

/-! A value is written over the one with its key, or inserted. -/

section

variable [DecidableEq κ]

theorem find_put (k' : κ) (hnew : key new = k) :
    find key k' (if (find key k l).isSome then write key k (some new) l else insert new l) =
      if k' = k then some new else find key k' l := by
  cases hfind : find key k l with
  | none => rw [if_neg (by simp), find_insert (hnew ▸ hfind), hnew]
  | some v =>
    rw [if_pos isSome_some]
    by_cases hk : k' = k
    · rw [if_pos hk, hk, find_write_some hfind hnew]
    · rw [if_neg hk, find_write_ne hk fun v' hv' => Option.some.inj hv' ▸ hnew]

theorem nodup_put (hnew : key new = k) (h : (keys key l).Nodup) :
    (keys key (if (find key k l).isSome then write key k (some new) l else insert new l)).Nodup := by
  cases hfind : find key k l with
  | none =>
    rw [if_neg (by simp), keys_insert.nodup_iff, nodup_cons, hnew]
    exact ⟨find_eq_none_iff.1 hfind, h⟩
  | some v =>
    rw [if_pos isSome_some, keys_write_some hnew]
    exact h

theorem nodup_write {o : Option β} (ho : ∀ v, o = some v → key v = k) (h : (keys key l).Nodup) :
    (keys key (write key k o l)).Nodup := by
  cases o with
  | none => exact h.sublist keys_write_none
  | some v =>
    rw [keys_write_some (ho v rfl)]
    exact h

end

end Vector

end Axium.Slots
