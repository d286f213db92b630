import Axium.Combat.Diminishing

/-!
# Diminishing returns follow the hits

A group's entry counts the auras applied since it exists, and its level is the hits since the last reset,
if four things do not happen (`Scene.Clean`): an entry is created while an aura of its group is on the
unit (the end of that aura is taken for the end of a counted one), the 16 bits of the stack run over, the
clock reads zero when the 15 seconds begin (the code takes that for "never"), or the difference of the
clock readings is wrong, as `getMSTimeDiff` is by one when the clock has overflowed
(**`diminishing_follows`**).
-/

namespace Axium.CrowdControl

open DiminishingLevel Run List Function Option
open Queue (getMSTimeDiff)

variable {d : Diminishing} {s : Scene} {g g' : DiminishingGroup} {time aura : Nat}

/-! ## Entries -/

namespace Diminishing

theorem entry_onEntry (f : DiminishingReturn → DiminishingReturn) (hf : ∀ i, (f i).group = i.group)
    (d : Diminishing) (g g' : DiminishingGroup) :
    (onEntry g f d).entry g' = if g' = g then (d.entry g).map f else d.entry g' := by
  unfold entry
  induction d with
  | nil => simp [onEntry]
  | cons i d ih =>
    unfold onEntry
    by_cases hi : i.group = g
    · rw [if_pos hi]
      by_cases hg : g' = g
      · subst hg
        rw [if_pos rfl, find?_cons_of_pos (by simpa [hf] using hi),
          find?_cons_of_pos (by simpa using hi), map_some]
      · have hne : ¬ i.group = g' := fun h => hg (h ▸ hi)
        rw [if_neg hg, find?_cons_of_neg (by simpa [hf] using hne), find?_cons_of_neg (by simpa using hne)]
    · rw [if_neg hi]
      by_cases hi' : i.group = g'
      · have hne : g' ≠ g := fun h => hi (hi'.trans h)
        rw [if_neg hne, find?_cons_of_pos (by simpa using hi'), find?_cons_of_pos (by simpa using hi')]
      · rw [find?_cons_of_neg (by simpa using hi'), ih]
        congr 1
        · rw [find?_cons_of_neg (by simpa using hi)]
        · rw [find?_cons_of_neg (by simpa using hi')]

theorem groups_onEntry (f : DiminishingReturn → DiminishingReturn) (hf : ∀ i, (f i).group = i.group)
    (d : Diminishing) (g : DiminishingGroup) : (onEntry g f d).map (·.group) = d.map (·.group) := by
  induction d with
  | nil => rfl
  | cons i d ih =>
    unfold onEntry
    split
    · rw [map_cons, map_cons, hf]
    · rw [map_cons, map_cons, ih]

theorem entry_of_mem (h : (d.map (·.group)).Nodup) {i : DiminishingReturn} (hi : i ∈ d) :
    d.entry i.group = some i := by
  unfold entry
  induction d with
  | nil => exact absurd hi not_mem_nil
  | cons j d ih =>
    obtain ⟨hj, hd⟩ := nodup_cons.1 h
    rcases mem_cons.1 hi with rfl | hmem
    · rw [find?_cons_of_pos (by simp)]
    · have hne : ¬ j.group = i.group := fun heq =>
        hj (mem_map.2 ⟨i, hmem, heq.symm⟩)
      rw [find?_cons_of_neg (by simpa using hne)]
      exact ih hd hmem

theorem entry_append_singleton (g' : DiminishingGroup) (h : d.entry g = none) {i : DiminishingReturn}
    (hi : i.group = g) : (d ++ [i]).entry g' = if g' = g then some i else d.entry g' := by
  have hfind : (d ++ [i]).entry g' = (d.entry g').or (if i.group = g' then some i else none) := by
    unfold entry
    rw [find?_append, find?_singleton]
    simp only [decide_eq_true_eq]
  rw [hfind, hi]
  by_cases hg : g' = g
  · subst hg
    rw [h]
    rfl
  · rw [if_neg hg, if_neg fun heq => hg heq.symm, or_none]

theorem notMem_of_entry (h : d.entry g = none) : g ∉ d.map (·.group) := by
  intro hmem
  obtain ⟨i, hi, heq⟩ := mem_map.1 hmem
  exact absurd (find?_eq_none.1 h i hi) (by simpa using heq)

end Diminishing

open Diminishing

theorem one_le_maxLevel (g : DiminishingGroup) : 1 ≤ getDiminishingReturnsMaxLevel g := by
  cases g <;> decide

@[simp] theorem group_applyAura (i : DiminishingReturn) (apply : Bool) (msTime : Nat) :
    (i.applyAura apply msTime).group = i.group := by
  unfold DiminishingReturn.applyAura
  split
  · rfl
  · split
    · split <;> rfl
    · rfl

/-! ## The law of a group -/

def Law (g : DiminishingGroup) (auras : List Aura) (track : Track) : Option DiminishingReturn → Prop
  | none => track = {}
  | some i => track.created.isSome = true ∧ i.stack = auras.length ∧ (∀ a ∈ auras, a.counted = true) ∧
      i.hitCount = min track.hits (getDiminishingReturnsMaxLevel g) ∧
      (auras = [] → ∀ since ∈ track.since, i.hitTime = since % 2 ^ 32)

/-- One entry for each group, which follows the hits since the last reset. -/
structure Kept (s : Scene) : Prop where
  once : (s.diminishing.map (·.group)).Nodup
  law : ∀ g, Law g (s.active g) (s.track g) (s.diminishing.entry g)
  ids : (s.auras.map (·.id)).Nodup

theorem kept_init : Kept {} where
  once := .nil
  law _ := rfl
  ids := .nil

/-! ## The condition -/

namespace Scene

variable (s)

def Clean : Nat × Call → Prop
  | (time, .get g) => ∀ i ∈ s.diminishing.entry g, i.hitCount ≠ 0 → i.hitTime ≠ 0 ∧
      ∀ since ∈ (s.track g).since,
        (15000 < getMSTimeDiff (since % 2 ^ 32) (time % 2 ^ 32) ↔ 15000 < time - since)
  | (_, .incr g) => s.diminishing.entry g = none → s.active g = []
  | (_, .apply _ g) => ∀ i ∈ s.diminishing.entry g, i.stack + 1 < 2 ^ 16
  | (_, .remove _ _) => True

instance (c : Nat × Call) : Decidable (s.Clean c) :=
  match c with
  | (time, .get g) => inferInstanceAs (Decidable (∀ i ∈ s.diminishing.entry g, i.hitCount ≠ 0 →
      i.hitTime ≠ 0 ∧ ∀ since ∈ (s.track g).since,
        (15000 < getMSTimeDiff (since % 2 ^ 32) (time % 2 ^ 32) ↔ 15000 < time - since)))
  | (_, .incr g) => inferInstanceAs (Decidable (s.diminishing.entry g = none → s.active g = []))
  | (_, .apply _ g) => inferInstanceAs (Decidable (∀ i ∈ s.diminishing.entry g, i.stack + 1 < 2 ^ 16))
  | (_, .remove _ _) => inferInstanceAs (Decidable True)

/-- `GetDiminishing` answers the level. -/
def Answers : Nat × Call → Prop
  | (time, .get g) => (s.diminishing.getDiminishing g (time % 2 ^ 32)).1 = s.level g time
  | _ => True

/-- One entry a group, whose stack is the auras applied since it exists, with a level in bounds. -/
structure Tracked : Prop where
  once : (s.diminishing.map (·.group)).Nodup
  stack : ∀ i ∈ s.diminishing, i.stack = ((s.active i.group).filter (·.counted)).length
  bounds : ∀ i ∈ s.diminishing, level1 ≤ i.hitCount ∧
    i.hitCount ≤ max level2 (getDiminishingReturnsMaxLevel i.group)

end Scene

theorem Kept.tracked (h : Kept s) : s.Tracked where
  once := h.once
  stack i hi := by
    have hlaw := h.law i.group
    rw [entry_of_mem h.once hi] at hlaw
    obtain ⟨-, hstack, hcounted, -⟩ := hlaw
    rw [filter_eq_self.2 hcounted, hstack]
  bounds i hi := by
    have hlaw := h.law i.group
    rw [entry_of_mem h.once hi] at hlaw
    refine ⟨Nat.zero_le _, ?_⟩
    rw [hlaw.2.2.2.1]
    exact (min_le_right _ _).trans (le_max_right _ _)

/-! ## The steps -/

theorem Kept.of_group {s' : Scene} (h : Kept s) (g : DiminishingGroup)
    (honce : (s'.diminishing.map (·.group)).Nodup) (hids : (s'.auras.map (·.id)).Nodup)
    (hlaw : Law g (s'.active g) (s'.track g) (s'.diminishing.entry g))
    (hother : ∀ g', g' ≠ g → s'.active g' = s.active g' ∧ s'.track g' = s.track g' ∧
      s'.diminishing.entry g' = s.diminishing.entry g') : Kept s' where
  once := honce
  ids := hids
  law g' := by
    by_cases hg : g' = g
    · rw [hg]
      exact hlaw
    · obtain ⟨hactive, htrack, hentry⟩ := hother g' hg
      rw [hactive, htrack, hentry]
      exact h.law g'

theorem Kept.expired_iff (h : Kept s) {i : DiminishingReturn} (hi : s.diminishing.entry g = some i)
    (hcount : i.hitCount ≠ 0) (hclean : s.Clean (time, .get g)) :
    (i.stack = 0 ∧ 15000 < getMSTimeDiff i.hitTime (time % 2 ^ 32)) ↔ s.Expired g time := by
  have hlaw := h.law g
  rw [hi] at hlaw
  obtain ⟨hcreated, hstack, -, -, htime⟩ := hlaw
  obtain ⟨-, hdiff⟩ := hclean i hi hcount
  obtain ⟨since, hsince⟩ : ∃ since, (s.track g).since = some since := by
    obtain ⟨created, hcreated⟩ := isSome_iff_exists.1 hcreated
    unfold Track.since
    rw [hcreated]
    cases (s.track g).ended with
    | none => exact ⟨created, rfl⟩
    | some ended => exact ⟨ended, rfl⟩
  have hactive : i.stack = 0 ↔ s.active g = [] := by rw [hstack, length_eq_zero_iff]
  unfold Scene.Expired
  rw [← hactive]
  refine and_congr_right fun hzero => ?_
  rw [htime (hactive.1 hzero) since hsince, hdiff since hsince]
  exact ⟨fun hlate => ⟨since, hsince, hlate⟩, fun ⟨since', hsince', hlate⟩ => by
    rwa [some.inj (hsince.symm.trans hsince')]⟩

theorem Kept.get (h : Kept s) (hclean : s.Clean (time, .get g)) :
    (s.diminishing.getDiminishing g (time % 2 ^ 32)).1 = s.level g time ∧
      Kept (s.step (time, .get g)) := by
  have hlaw := h.law g
  -- the new state, once the answer and the entries are known
  have hkept : ∀ d', (s.diminishing.getDiminishing g (time % 2 ^ 32)).2 = d' →
      d'.map (·.group) = s.diminishing.map (·.group) →
      (∀ g', g' ≠ g → d'.entry g' = s.diminishing.entry g') →
      Law g (s.active g) { s.track g with hits := if s.Expired g time then 0 else (s.track g).hits }
        (d'.entry g) → Kept (s.step (time, .get g)) := by
    rintro d' rfl hgroups hentry hlaw'
    refine h.of_group g (hgroups ▸ h.once) h.ids ?_ fun g' hg => ⟨rfl, update_of_ne hg .., hentry g' hg⟩
    have htrack : (s.step (time, .get g)).track g =
        { s.track g with hits := if s.Expired g time then 0 else (s.track g).hits } :=
      update_self ..
    rw [htrack]
    exact hlaw'
  unfold getDiminishing at hkept ⊢
  cases hi : s.diminishing.entry g with
  | none =>
    rw [hi] at hlaw hkept
    have hlaw : s.track g = {} := hlaw
    have hfresh : ¬ s.Expired g time := by
      rintro ⟨-, since, hsince, -⟩
      rw [hlaw] at hsince
      cases hsince
    refine ⟨?_, hkept _ rfl rfl (fun _ _ => rfl) ?_⟩
    · rw [Scene.level, if_neg hfresh, hlaw]
      exact (Nat.zero_min _).symm
    · rw [hi, if_neg hfresh]
      exact hlaw
  | some i =>
    rw [hi] at hlaw hkept
    obtain ⟨hcreated, hstack, hcounted, hcount, hsince⟩ := hlaw
    dsimp only at hkept ⊢
    by_cases hzero : i.hitCount = 0
    · rw [if_pos hzero] at hkept ⊢
      have hhits : (s.track g).hits = 0 := by
        have := one_le_maxLevel g
        omega
      have hsame : (if s.Expired g time then 0 else (s.track g).hits) = 0 := by rw [hhits, ite_self]
      refine ⟨?_, hkept _ rfl rfl (fun _ _ => rfl) ?_⟩
      · rw [Scene.level, hhits]
        exact (ite_self _).symm
      · rw [hi, hsame]
        exact ⟨hcreated, hstack, hcounted, hzero.trans (Nat.zero_min _).symm, hsince⟩
    · have hiff := h.expired_iff hi hzero hclean
      rw [if_neg hzero, if_neg (hclean i hi hzero).1] at hkept ⊢
      by_cases hexpired : s.Expired g time
      · rw [if_pos (by simpa using hiff.2 hexpired)] at hkept ⊢
        refine ⟨by rw [Scene.level, if_pos hexpired], hkept _ rfl (groups_onEntry .resetCount (fun _ => rfl) _ _)
          (fun g' hg => ?_) ?_⟩
        · rw [entry_onEntry .resetCount (fun _ => rfl), if_neg hg]
        · rw [entry_onEntry .resetCount (fun _ => rfl), if_pos rfl, hi, if_pos hexpired]
          exact ⟨hcreated, hstack, hcounted, (Nat.zero_min _).symm, hsince⟩
      · rw [if_neg (by simpa using mt hiff.1 hexpired)] at hkept ⊢
        refine ⟨by rw [Scene.level, if_neg hexpired, hcount], hkept _ rfl rfl (fun _ _ => rfl) ?_⟩
        rw [hi, if_neg hexpired]
        exact ⟨hcreated, hstack, hcounted, hcount, hsince⟩

theorem Kept.incr (h : Kept s) (hclean : s.Clean (time, .incr g)) : Kept (s.step (time, .incr g)) := by
  have hlaw := h.law g
  have hkept : ∀ d', s.diminishing.incrDiminishing g (time % 2 ^ 32) = d' →
      (d'.map (·.group)).Nodup → (∀ g', g' ≠ g → d'.entry g' = s.diminishing.entry g') →
      Law g (s.active g) { s.track g with
        created := (s.track g).created.or (some time), hits := (s.track g).hits + 1 } (d'.entry g) →
      Kept (s.step (time, .incr g)) := by
    rintro d' rfl honce hentry hlaw'
    refine h.of_group g honce h.ids ?_ fun g' hg => ⟨rfl, update_of_ne hg .., hentry g' hg⟩
    have htrack : (s.step (time, .incr g)).track g = { s.track g with
        created := (s.track g).created.or (some time), hits := (s.track g).hits + 1 } :=
      update_self ..
    rw [htrack]
    exact hlaw'
  unfold incrDiminishing at hkept
  cases hi : s.diminishing.entry g with
  | none =>
    rw [hi] at hlaw hkept
    have hlaw : s.track g = {} := hlaw
    have hactive := hclean hi
    have hentry := fun g' => entry_append_singleton g' hi
      (i := { group := g, hitTime := time % 2 ^ 32, hitCount := level2 }) rfl
    refine hkept _ rfl ?_ (fun g' hg => ?_) ?_
    · rw [map_append]
      exact (perm_append_singleton ..).nodup_iff.2 (nodup_cons.2 ⟨notMem_of_entry hi, h.once⟩)
    · rw [hentry, if_neg hg]
    · rw [hentry, if_pos rfl, hlaw, hactive]
      refine ⟨rfl, rfl, nofun, ?_, fun _ since hsince => ?_⟩
      · exact (min_eq_left (one_le_maxLevel g)).symm
      · rw [some.inj hsince]
  | some i =>
    rw [hi] at hlaw hkept
    obtain ⟨hcreated, hstack, hcounted, hcount, hsince⟩ := hlaw
    obtain ⟨created, hcreated'⟩ := isSome_iff_exists.1 hcreated
    have hor : (s.track g).created.or (some time) = (s.track g).created := by rw [hcreated']; rfl
    rw [hor] at hkept
    dsimp only at hkept
    by_cases hmore : i.hitCount < getDiminishingReturnsMaxLevel g
    · rw [if_pos hmore] at hkept
      have hgroups := groups_onEntry .addHit (fun _ => rfl) s.diminishing g
      refine hkept _ rfl (hgroups.symm ▸ h.once) (fun g' hg => ?_) ?_
      · rw [entry_onEntry .addHit (fun _ => rfl), if_neg hg]
      · rw [entry_onEntry .addHit (fun _ => rfl), if_pos rfl, hi]
        refine ⟨hcreated, hstack, hcounted, ?_, hsince⟩
        change i.hitCount + 1 = min ((s.track g).hits + 1) _
        omega
    · rw [if_neg hmore] at hkept
      refine hkept _ rfl h.once (fun _ _ => rfl) ?_
      rw [hi]
      refine ⟨hcreated, hstack, hcounted, ?_, hsince⟩
      dsimp only
      omega

theorem Kept.apply (h : Kept s) (hmay : s.May (time, .apply aura g))
    (hclean : s.Clean (time, .apply aura g)) : Kept (s.step (time, .apply aura g)) := by
  have hlaw := h.law g
  have hentry := entry_onEntry (·.applyAura true (time % 2 ^ 32)) (fun i => group_applyAura i _ _)
    s.diminishing g
  have hgroups := groups_onEntry (·.applyAura true (time % 2 ^ 32)) (fun i => group_applyAura i _ _)
    s.diminishing g
  have hactive : ∀ g', (s.step (time, .apply aura g)).active g' =
      if g = g' then ⟨aura, g, (s.track g).created.isSome⟩ :: s.active g' else s.active g' := by
    intro g'
    refine filter_cons.trans ?_
    simp only [decide_eq_true_eq]
    rfl
  refine h.of_group g (hgroups.symm ▸ h.once) (nodup_cons.2 ⟨?_, h.ids⟩) ?_ fun g' hg =>
    ⟨by rw [hactive, if_neg fun heq => hg heq.symm], rfl, (hentry g').trans (if_neg hg)⟩
  · intro hmem
    obtain ⟨a, ha, heq⟩ := mem_map.1 hmem
    exact hmay.2 a ha heq
  · rw [hactive, if_pos rfl]
    refine Eq.mpr (congrArg (Law g _ _) ((hentry g).trans (if_pos rfl))) ?_
    cases hi : s.diminishing.entry g with
    | none =>
      rw [hi] at hlaw
      exact hlaw
    | some i =>
      rw [hi] at hlaw
      obtain ⟨hcreated, hstack, hcounted, hcount, -⟩ := hlaw
      refine ⟨hcreated, ?_, ?_, hcount, nofun⟩
      · rw [length_cons, ← hstack]
        exact Nat.mod_eq_of_lt (hclean i hi)
      · exact forall_mem_cons.2 ⟨hcreated, hcounted⟩

theorem length_filter_id {auras : List Aura} (hids : (auras.map (·.id)).Nodup) {a : Aura}
    (ha : a ∈ auras) : (auras.filter fun b => b.id ≠ a.id).length + 1 = auras.length := by
  have hperm : (auras.filter fun b => b.id ≠ a.id) = auras.erase a := by
    rw [hids.of_map.erase_eq_filter]
    refine filter_congr fun b hb => ?_
    by_cases heq : b = a
    · rw [bne_eq_false_iff_eq.2 heq, decide_eq_false (not_not.2 (congrArg Aura.id heq))]
    · have hid : b.id ≠ a.id := fun hid => heq (inj_on_of_nodup_map hids hb ha hid)
      rw [bne_iff_ne.2 heq, decide_eq_true hid]
  rw [hperm]
  exact length_erase_add_one ha

theorem Kept.remove (h : Kept s) (hmay : s.May (time, .remove aura g)) :
    Kept (s.step (time, .remove aura g)) := by
  obtain ⟨-, a, ha, rfl, rfl⟩ := hmay
  have hlaw := h.law a.group
  have hentry := entry_onEntry (·.applyAura false (time % 2 ^ 32)) (fun i => group_applyAura i _ _)
    s.diminishing a.group
  have hgroups := groups_onEntry (·.applyAura false (time % 2 ^ 32)) (fun i => group_applyAura i _ _)
    s.diminishing a.group
  have hactive : ∀ g', (s.step (time, .remove a.id a.group)).active g' =
      (s.active g').filter fun b => b.id ≠ a.id := fun g' => filter_comm ..
  have htrack : (s.step (time, .remove a.id a.group)).track a.group = { s.track a.group with
      ended := (s.track a.group).created.bind fun _ => some time } := update_self ..
  refine h.of_group a.group (hgroups.symm ▸ h.once) (h.ids.sublist (filter_sublist.map _)) ?_
    fun g' hg => ⟨?_, update_of_ne hg .., (hentry g').trans (if_neg hg)⟩
  · rw [htrack, hactive]
    refine Eq.mpr (congrArg (Law a.group _ _) ((hentry a.group).trans (if_pos rfl))) ?_
    cases hi : s.diminishing.entry a.group with
    | none =>
      rw [hi] at hlaw
      have hlaw : s.track a.group = {} := hlaw
      rw [hlaw]
      exact rfl
    | some i =>
      rw [hi] at hlaw
      obtain ⟨hcreated, hstack, hcounted, hcount, -⟩ := hlaw
      obtain ⟨created, hcreated'⟩ := isSome_iff_exists.1 hcreated
      have hmem : a ∈ s.active a.group := mem_filter.2 ⟨ha, by simp⟩
      have hfewer : ((s.active a.group).filter fun b => b.id ≠ a.id).length + 1 = (s.active a.group).length :=
        length_filter_id (h.ids.sublist (filter_sublist.map _)) hmem
      have hrest : ∀ b ∈ (s.active a.group).filter fun b => b.id ≠ a.id, b.counted = true :=
        fun b hb => hcounted b (mem_of_mem_filter hb)
      have hpos : i.stack ≠ 0 := by omega
      have hresult : i.applyAura false (time % 2 ^ 32) =
          if i.stack - 1 = 0 then { i with stack := 0, hitTime := time % 2 ^ 32 }
          else { i with stack := i.stack - 1 } := if_pos hpos
      change Law a.group _ _ (some (i.applyAura false (time % 2 ^ 32)))
      rw [hresult]
      split
      · rename_i hlast
        refine ⟨hcreated, ?_, hrest, hcount, fun _ since hsince => ?_⟩
        · dsimp only
          omega
        · rw [hcreated'] at hsince
          rw [← some.inj hsince]
      · rename_i hlast
        refine ⟨hcreated, ?_, hrest, hcount, fun hnone => ?_⟩
        · dsimp only
          omega
        · rw [hnone, length_nil] at hfewer
          omega
  · rw [hactive]
    refine filter_eq_self.2 fun b hb => ?_
    have hgroup : b.group = g' := by simpa using (mem_filter.1 hb).2
    have hne : b.id ≠ a.id := fun hid =>
      hg (hgroup ▸ congrArg Aura.group (inj_on_of_nodup_map h.ids (mem_of_mem_filter hb) ha hid))
    simpa using hne

/-- The levels follow the hits over one call at a clean time. -/
theorem Kept.step (h : Kept s) {c : Nat × Call} (hmay : s.May c) (hclean : s.Clean c) : Kept (s.step c) := by
  obtain ⟨time, call⟩ := c
  cases call with
  | get g => exact (h.get hclean).2
  | incr g => exact h.incr hclean
  | apply aura g => exact h.apply hmay hclean
  | remove aura g => exact h.remove hmay

theorem Kept.answers (h : Kept s) {c : Nat × Call} (hclean : s.Clean c) : s.Answers c := by
  obtain ⟨time, call⟩ := c
  cases call with
  | get g => exact (h.get hclean).1
  | _ => trivial

/-! ## Every run -/

/-- **In a run in which the branches that go wrong are not taken**, the entries follow the auras in every
state and every answer is the number of hits since the last reset, up to the maximum. -/
theorem diminishing_follows {calls : List (Nat × Call)}
    (hrun : AllSteps Scene.step (fun s c => s.May c ∧ s.Clean c) {} calls) :
    (∀ pre, pre <+: calls → (run Scene.step {} pre).Tracked) ∧
      AllSteps Scene.step Scene.Answers {} calls := by
  have hstep : ∀ (s : Scene) c, Kept s → s.May c ∧ s.Clean c → Kept (s.step c) :=
    fun s c h hc => h.step hc.1 hc.2
  constructor
  · rintro pre ⟨post, rfl⟩
    exact (hrun.reaches hstep kept_init).tracked
  · exact (hrun.strengthen hstep kept_init).mono fun s c h => h.1.answers h.2.2

theorem diminishing_follows_fear : (∀ pre, pre <+: [(1000, .get .fear), (1000, .incr .fear),
    (1000, .apply 0 .fear), (6000, .remove 0 .fear), (9000, .get .fear), (9000, .incr .fear),
    (9000, .apply 1 .fear), (11000, .remove 1 .fear), (27000, .get .fear)] →
      (run Scene.step {} pre).Tracked) ∧
    AllSteps Scene.step Scene.Answers {} [(1000, .get .fear), (1000, .incr .fear),
      (1000, .apply 0 .fear), (6000, .remove 0 .fear), (9000, .get .fear), (9000, .incr .fear),
      (9000, .apply 1 .fear), (11000, .remove 1 .fear), (27000, .get .fear)] :=
  diminishing_follows (by decide +kernel)

/-- An aura that was on the unit before its group had an entry: its end is taken for the end of another. -/
theorem diminishing_earlierAura :
    AllSteps Scene.step Scene.May {} [(1, .apply 0 .fear), (2, .get .fear), (2, .incr .fear),
      (3, .apply 1 .fear), (4, .remove 0 .fear)] ∧
    ¬ (run Scene.step {} [(1, .apply 0 .fear), (2, .get .fear), (2, .incr .fear), (3, .apply 1 .fear),
      (4, .remove 0 .fear)]).Tracked := by
  refine ⟨by decide +kernel, fun h => ?_⟩
  have hstack := h.stack { group := .fear, stack := 0, hitTime := 4, hitCount := 1 } (by decide +kernel)
  revert hstack
  decide +kernel

end Axium.CrowdControl
