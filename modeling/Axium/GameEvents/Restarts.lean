import Axium.GameEvents.WorldEvents
import Axium.Lib.Run

/-!
# World events and restarts

What is saved of world events with ids below 2^8 is what they are in memory, as long as phases end before
2^32: a restart leaves phase, `nextstart` and conditions of each as they were, up to the digits of an amount
that the table gives back, and what is done with one event changes nothing that is saved of another
(**`worldEvents_persist`**). Ids from 2^8 on share a key with another event.
-/

namespace Axium.GameEvents

open Run List Function OrdMap

variable {R : Type} {t : EventTables R} {w w' : World R} {e e' : Nat}

/-! ## What is saved -/

theorem key_of_lt (h : e < 2 ^ 8) : key e = e := Nat.mod_eq_of_lt h

/-- Only the event, and what is saved under its key, may change. -/
structure Touches (e : Nat) (w w' : World R) : Prop where
  event : ∀ e', e' ≠ e → w'.event e' = w.event e'
  eventSave : ∀ k, k ≠ key e → w'.eventSave.find? k = w.eventSave.find? k
  conditionSave : ∀ k, k ≠ key e → w'.conditionSave k = w.conditionSave k

namespace Touches

theorem refl (e : Nat) (w : World R) : Touches e w w := ⟨fun _ _ => rfl, fun _ _ => rfl, fun _ _ => rfl⟩

theorem trans {w₁ w₂ w₃ : World R} (h : Touches e w₁ w₂) (h' : Touches e w₂ w₃) : Touches e w₁ w₃ where
  event e' he := (h'.event e' he).trans (h.event e' he)
  eventSave k hk := (h'.eventSave k hk).trans (h.eventSave k hk)
  conditionSave k hk := (h'.conditionSave k hk).trans (h.conditionSave k hk)

theorem setActive (w : World R) (e : Nat) (active : OrdMap Nat Unit) : Touches e w (w.setActive active) :=
  ⟨fun _ _ => rfl, fun _ _ => rfl, fun _ _ => rfl⟩

theorem setEvent (w : World R) (e : Nat) (d : GameEventData R) : Touches e w (w.setEvent e d) :=
  ⟨fun _ he => update_of_ne he .., fun _ _ => rfl, fun _ _ => rfl⟩

theorem saveWorldEventState (w : World R) (e : Nat) : Touches e w (w.saveWorldEventState e) where
  event _ _ := rfl
  eventSave k hk := by
    refine (find?_insert_ne _ _ hk.symm).trans ?_
    rw [find?_erase_ne _ hk.symm]
  conditionSave _ _ := rfl

theorem saveCondition (w : World R) (e condition : Nat) (done : R) :
    Touches e w (w.saveCondition e condition done) :=
  ⟨fun _ _ => rfl, fun _ _ => rfl, fun _ hk => update_of_ne hk ..⟩

theorem dropSaves (w : World R) (e : Nat) : Touches e w (w.dropSaves e) :=
  ⟨fun _ _ => rfl, fun _ hk => find?_erase_ne _ hk.symm, fun _ hk => update_of_ne hk ..⟩

end Touches

theorem touches_startEvent [LT R] [DecidableLT R] (now : Int) (overwrite : Bool) (e : Nat) (w : World R) :
    Touches e w (startEvent now overwrite e w).1 := by
  unfold startEvent
  dsimp only
  split
  · exact ((Touches.setActive ..).trans (.setEvent ..)).trans (.saveWorldEventState ..)
  · dsimp only
    split
    · exact (Touches.setActive ..).trans (.setEvent ..)
    · exact .setActive ..

theorem touches_stopEvent [Zero R] (now : Int) (overwrite : Bool) (e : Nat) (w : World R) :
    Touches e w (stopEvent now overwrite e w) := by
  unfold stopEvent
  dsimp only
  split
  · exact (Touches.setActive ..).trans (.setEvent ..)
  split
  · split
    · exact ((Touches.setActive ..).trans (.setEvent ..)).trans (.dropSaves ..)
    · exact .setActive ..
  · exact .setActive ..

theorem touches_handleQuestComplete [Add R] [LT R] [DecidableLT R] (now : Int) {quest : Nat} (w : World R)
    {q : QuestToEventCondition R} (hq : t.questToEventConditions quest = some q) :
    Touches q.eventId w (handleQuestComplete t now quest w) := by
  unfold handleQuestComplete
  rw [hq]
  dsimp only
  split
  · exact .refl ..
  split
  · exact .refl ..
  cases hc : (w.event q.eventId).conditions.find? q.condition with
  | none => exact .refl ..
  | some c =>
    dsimp only
    split
    · have hsaved := (Touches.setEvent w q.eventId ((w.event q.eventId).setConditions
        ((w.event q.eventId).conditions.insert q.condition { c with done := c.count q.num }))).trans
        (.saveCondition _ q.eventId q.condition (c.count q.num))
      split
      · exact (hsaved.trans (.setEvent ..)).trans (.saveWorldEventState ..)
      · exact hsaved
    · exact .refl ..

/-- A condition before a restart, and after it: what is done is as it was or as the table gives it back. -/
def ReadBack (t : EventTables R) (c c' : Option (FinishCondition R)) : Prop :=
  c' = c ∨ c' = c.map fun c => { c with done := t.readBack c.done }

/-- With the same done of it, a condition that is loaded is the one in memory. -/
theorem ReadBack.map_done {c d : Option (FinishCondition R)} {x : R}
    (h : ReadBack t c (d.map fun c => { c with done := x })) (y : R) :
    d.map (fun c => { c with done := y }) = c.map fun c => { c with done := y } := by
  rcases h with h | h
  all_goals
    have hmap := congrArg (Option.map fun c : FinishCondition R => { c with done := y }) h
    simpa only [Option.map_map, Function.comp_def] using hmap

section Saved
variable [Zero R]

/-- What is saved of an event is what it is in memory. -/
structure Saved (t : EventTables R) (w : World R) (e : Nat) : Prop where
  kind : (w.event e).state.serverwide = (t.event e).state.serverwide
  length : (w.event e).length = (t.event e).length
  conditions : ∀ condition, ReadBack t ((w.event e).conditions.find? condition)
    ((loadEvent t w e).conditions.find? condition)
  phase : (t.event e).state.serverwide = true →
    (w.event e).state = (loadEvent t w e).state ∧ (w.event e).nextstart = (loadEvent t w e).nextstart
  range : (t.event e).state.serverwide = true → 0 ≤ (w.event e).nextstart ∧ (w.event e).nextstart < 2 ^ 32

theorem loadEvent_congr (hsave : w'.eventSave.find? e = w.eventSave.find? e)
    (hconditions : w'.conditionSave e = w.conditionSave e) : loadEvent t w' e = loadEvent t w e := by
  unfold loadEvent
  rw [hsave, hconditions]

theorem Saved.congr (h : Saved t w e) (hevent : w'.event e = w.event e)
    (hload : loadEvent t w' e = loadEvent t w e) : Saved t w' e where
  kind := hevent ▸ h.kind
  length := hevent ▸ h.length
  conditions := by rw [hevent, hload]; exact h.conditions
  phase hworld := by rw [hevent, hload]; exact h.phase hworld
  range hworld := hevent ▸ h.range hworld

theorem Saved.of_touches (h : Saved t w e') (ht : Touches e w w') (he : e < 2 ^ 8) (hne : e' ≠ e) :
    Saved t w' e' := by
  have hkey : e' ≠ key e := (key_of_lt he).symm ▸ hne
  exact h.congr (ht.event e' hne) (loadEvent_congr (ht.eventSave e' hkey) (ht.conditionSave e' hkey))

/-! ## The conditions and the phase that are loaded -/

theorem find?_loadEvent (t : EventTables R) (w : World R) (e condition : Nat) :
    (loadEvent t w e).conditions.find? condition = ((t.event e).conditions.find? condition).map fun c =>
      { c with done := (((w.conditionSave e).find? condition).map t.readBack).getD 0 } := by
  unfold loadEvent GameEventData.setConditions
  rw [find?_mapVal]
  cases w.eventSave.find? e with
  | none => rfl
  | some row =>
    dsimp only
    split <;> rfl

theorem phase_loadEvent_of_row {row : GameEventState × Nat} (hworld : (t.event e).state.serverwide = true)
    (hrow : w.eventSave.find? e = some row) :
    (loadEvent t w e).state = row.1 ∧ (loadEvent t w e).nextstart = row.2 := by
  unfold loadEvent
  rw [hrow]
  dsimp only
  rw [if_pos hworld]
  exact ⟨rfl, rfl⟩

theorem phase_loadEvent_of_none (hrow : w.eventSave.find? e = none) :
    (loadEvent t w e).state = (t.event e).state ∧ (loadEvent t w e).nextstart = 0 := by
  unfold loadEvent
  rw [hrow]
  exact ⟨rfl, rfl⟩

theorem saved_saveWorldEventState (he : e < 2 ^ 8) (h : Saved t w e)
    (hworld : (t.event e).state.serverwide = true) {state : GameEventState} {nextstart : Int}
    (hstate : state.serverwide = true) (hrange : 0 ≤ nextstart ∧ nextstart < 2 ^ 32) :
    Saved t ((w.setEvent e ((w.event e).setPhase state nextstart)).saveWorldEventState e) e := by
  have hevent : ((w.setEvent e ((w.event e).setPhase state nextstart)).saveWorldEventState e).event e =
      (w.event e).setPhase state nextstart := update_self ..
  have hrow : ((w.setEvent e ((w.event e).setPhase state nextstart)).saveWorldEventState e).eventSave.find? e =
      some (state, (nextstart % 2 ^ 32).toNat) := by
    unfold World.saveWorldEventState World.setEvent
    dsimp only
    rw [key_of_lt he, find?_insert_self, update_self]
    rfl
  have hphase := phase_loadEvent_of_row (t := t) hworld hrow
  refine ⟨?_, ?_, ?_, fun _ => ?_, fun _ => ?_⟩
  · rw [hevent]
    exact hstate.trans hworld.symm
  · rw [hevent]
    exact h.length
  · rw [hevent]
    intro c
    have hc := h.conditions c
    rw [find?_loadEvent] at hc ⊢
    exact hc
  · rw [hevent, hphase.1, hphase.2, Int.emod_eq_of_lt hrange.1 hrange.2]
    exact ⟨rfl, (Int.toNat_of_nonneg hrange.1).symm⟩
  · rw [hevent]
    exact hrange

theorem saved_saveCondition (he : e < 2 ^ 8) (h : Saved t w e) {condition : Nat} {c : FinishCondition R}
    (hc : (w.event e).conditions.find? condition = some c) (done : R) :
    Saved t ((w.setEvent e ((w.event e).setConditions ((w.event e).conditions.insert condition
      { c with done := done }))).saveCondition e condition done) e := by
  obtain ⟨d, hd⟩ : ∃ d, (w.event e).setConditions ((w.event e).conditions.insert condition
    { c with done := done }) = d := ⟨_, rfl⟩
  have hevent : ((w.setEvent e d).saveCondition e condition done).event e = d := update_self ..
  have hrows : ((w.setEvent e d).saveCondition e condition done).conditionSave e =
      ((w.conditionSave e).erase condition).insert condition done := by
    unfold World.saveCondition World.setEvent
    dsimp only
    rw [key_of_lt he, update_self]
  have hsave : ((w.setEvent e d).saveCondition e condition done).eventSave.find? e = w.eventSave.find? e := rfl
  subst hd
  refine ⟨?_, ?_, ?_, fun hworld => ?_, fun hworld => ?_⟩
  · rw [hevent]
    exact h.kind
  · rw [hevent]
    exact h.length
  · rw [hevent]
    intro c'
    change ReadBack t (((w.event e).conditions.insert condition { c with done := done }).find? c') _
    have hc' := h.conditions c'
    rw [find?_loadEvent] at hc' ⊢
    rw [hrows, find?_insert, find?_insert]
    split
    · rename_i heq
      subst heq
      rw [hc] at hc'
      exact .inr (hc'.map_done (t.readBack done))
    · rename_i hne
      rw [find?_erase_ne _ hne]
      exact hc'
  · rw [hevent]
    obtain ⟨hstate, hnext⟩ := h.phase hworld
    cases hrow : w.eventSave.find? e with
    | none =>
      have h₁ := phase_loadEvent_of_none (t := t) hrow
      have h₂ := phase_loadEvent_of_none (t := t) (hsave.trans hrow)
      exact ⟨hstate.trans (h₁.1.trans h₂.1.symm), hnext.trans (h₁.2.trans h₂.2.symm)⟩
    | some row =>
      have h₁ := phase_loadEvent_of_row (t := t) hworld hrow
      have h₂ := phase_loadEvent_of_row (t := t) hworld (hsave.trans hrow)
      exact ⟨hstate.trans (h₁.1.trans h₂.1.symm), hnext.trans (h₁.2.trans h₂.2.symm)⟩
  · rw [hevent]
    exact h.range hworld

theorem saved_dropSaves (he : e < 2 ^ 8) (h : Saved t w e) (hworld : (t.event e).state = .worldInactive) :
    Saved t ((w.setEvent e (((w.event e).setPhase .worldInactive 0).setConditions
      ((w.event e).conditions.mapVal fun _ c => { c with done := 0 }))).dropSaves e) e := by
  obtain ⟨d, hd⟩ : ∃ d, ((w.event e).setPhase .worldInactive 0).setConditions
    ((w.event e).conditions.mapVal fun _ c => { c with done := 0 }) = d := ⟨_, rfl⟩
  have hevent : ((w.setEvent e d).dropSaves e).event e = d := update_self ..
  have hrows : ((w.setEvent e d).dropSaves e).conditionSave e = .empty := by
    unfold World.dropSaves World.setEvent
    dsimp only
    rw [key_of_lt he, update_self]
  have hrow : ((w.setEvent e d).dropSaves e).eventSave.find? e = none := by
    unfold World.dropSaves World.setEvent
    rw [key_of_lt he, find?_erase_self]
  have hphase := phase_loadEvent_of_none (t := t) hrow
  subst hd
  refine ⟨?_, ?_, ?_, fun _ => ?_, fun _ => ?_⟩
  · rw [hevent, hworld]
    rfl
  · rw [hevent]
    exact h.length
  · rw [hevent]
    intro c
    have hc := h.conditions c
    change ReadBack t (((w.event e).conditions.mapVal fun _ c => { c with done := 0 }).find? c) _
    rw [find?_loadEvent] at hc ⊢
    rw [hrows, find?_mapVal]
    exact .inl (hc.map_done 0)
  · rw [hevent, hphase.1, hphase.2, hworld]
    exact ⟨rfl, rfl⟩
  · rw [hevent]
    exact ⟨le_refl _, (by omega : (0 : Int) < 2 ^ 32)⟩

theorem saved_setStart (h : Saved t w e) (hserver : ¬ (w.event e).state.serverwide = true) (start : Int) :
    Saved t (w.setEvent e ((w.event e).setStart start)) e := by
  have hevent : (w.setEvent e ((w.event e).setStart start)).event e = (w.event e).setStart start :=
    update_self ..
  have hworld : ¬ (t.event e).state.serverwide = true := h.kind ▸ hserver
  refine ⟨?_, ?_, ?_, fun h => absurd h hworld, fun h => absurd h hworld⟩
  · rw [hevent]
    exact h.kind
  · rw [hevent]
    exact h.length
  · rw [hevent]
    exact h.conditions

end Saved

/-! ## The calls -/

section Calls
variable [Zero R] [Add R] [LT R] [DecidableLT R] {now : Int}

def Early (t : EventTables R) (now : Int) (e : Nat) : Prop := 0 ≤ now ∧ now + seconds (t.event e).length < 2 ^ 32

omit [Zero R] [Add R] in
theorem checkConditions_eq_setPhase (now : Int) {d : GameEventData R} (hstate : d.state.serverwide = true)
    (hrange : 0 ≤ d.nextstart ∧ d.nextstart < 2 ^ 32) (hnow : 0 ≤ now ∧ now + seconds d.length < 2 ^ 32) :
    ∃ state nextstart, d.checkConditions now = d.setPhase state nextstart ∧ state.serverwide = true ∧
      0 ≤ nextstart ∧ nextstart < 2 ^ 32 := by
  unfold GameEventData.checkConditions
  split
  · refine ⟨_, _, rfl, rfl, ?_⟩
    split
    · have hseconds : 0 ≤ seconds d.length := Int.natCast_nonneg _
      omega
    · exact hrange
  · exact ⟨d.state, d.nextstart, rfl, hstate, hrange⟩

omit [Add R] in
theorem Saved.startEvent (he : e < 2 ^ 8) (h : Saved t w e) (hearly : Early t now e) (overwrite : Bool) :
    Saved t (startEvent now overwrite e w).1 e := by
  obtain ⟨w₁, hw₁⟩ : ∃ w₁, w.setActive (w.active.insert e ()) = w₁ := ⟨_, rfl⟩
  have hevent₁ : w₁.event e = w.event e := hw₁ ▸ rfl
  have h₁ : Saved t w₁ e := h.congr hevent₁ (hw₁ ▸ rfl)
  unfold GameEvents.startEvent
  rw [hw₁]
  by_cases hserver : (w.event e).state.serverwide = true
  · rw [if_pos hserver]
    have hworld : (t.event e).state.serverwide = true := h.kind.symm.trans hserver
    have hrange := h.range hworld
    -- the phase before the conditions are checked
    have hfirst : ∃ state, (if (w.event e).state = .worldInactive then
        (w.event e).setPhase .worldConditions (w.event e).nextstart else w.event e) =
          (w.event e).setPhase state (w.event e).nextstart ∧ state.serverwide = true := by
      split
      · exact ⟨_, rfl, rfl⟩
      · exact ⟨(w.event e).state, rfl, hserver⟩
    obtain ⟨state, hfirst, hstate⟩ := hfirst
    rw [hfirst]
    obtain ⟨state', nextstart', hcheck, hstate', hrange'⟩ := checkConditions_eq_setPhase now
      (d := (w.event e).setPhase state (w.event e).nextstart) hstate hrange
      (by rw [Early, ← h.length] at hearly; exact hearly)
    dsimp only
    rw [hcheck]
    have hsaved := saved_saveWorldEventState he h₁ hworld hstate' hrange'
    rw [hevent₁] at hsaved
    exact hsaved
  · rw [if_neg hserver]
    split
    · rw [← hevent₁] at hserver ⊢
      exact saved_setStart h₁ hserver now
    · exact h₁

omit [Add R] [LT R] [DecidableLT R] in
theorem Saved.stopEvent (he : e < 2 ^ 8) (h : Saved t w e)
    (hinactive : (t.event e).state.serverwide = true → (t.event e).state = .worldInactive) (now : Int)
    (overwrite : Bool) : Saved t (stopEvent now overwrite e w) e := by
  obtain ⟨w₁, hw₁⟩ : ∃ w₁, w.setActive (w.active.erase e) = w₁ := ⟨_, rfl⟩
  have hevent₁ : w₁.event e = w.event e := hw₁ ▸ rfl
  have h₁ : Saved t w₁ e := h.congr hevent₁ (hw₁ ▸ rfl)
  unfold GameEvents.stopEvent
  dsimp only
  rw [hw₁, ← hevent₁]
  by_cases hserver : (w₁.event e).state.serverwide = true
  · rw [if_neg (by simp [hserver]), if_pos hserver]
    split
    · exact saved_dropSaves he h₁ (hinactive (h₁.kind ▸ hserver))
    · exact h₁
  · rw [if_neg hserver]
    split
    · exact saved_setStart h₁ hserver _
    · exact h₁

structure Fits (t : EventTables R) : Prop where
  size : t.size ≤ 2 ^ 8
  inactive : ∀ e, (t.event e).state.serverwide = true → (t.event e).state = .worldInactive
  quests : ∀ quest q, t.questToEventConditions quest = some q → q.eventId < t.size

def AllSaved (t : EventTables R) (w : World R) : Prop := ∀ e < t.size, Saved t w e

omit [Add R] [LT R] [DecidableLT R] in
theorem AllSaved.of_touches (hfits : Fits t) (h : AllSaved t w) (he : e < t.size) (ht : Touches e w w')
    (hsaved : Saved t w' e) : AllSaved t w' := by
  intro e' he'
  by_cases heq : e' = e
  · exact heq ▸ hsaved
  · exact (h e' he').of_touches ht (he.trans_le hfits.size) heq

theorem AllSaved.handleQuestComplete (hfits : Fits t) (h : AllSaved t w)
    (hearly : ∀ e < t.size, Early t now e) (quest : Nat) : AllSaved t (handleQuestComplete t now quest w) := by
  cases hq : t.questToEventConditions quest with
  | none =>
    unfold GameEvents.handleQuestComplete
    rw [hq]
    exact h
  | some q =>
    have he := hfits.quests quest q hq
    have hlt := he.trans_le hfits.size
    refine h.of_touches hfits he (touches_handleQuestComplete now w hq) ?_
    have hs := h q.eventId he
    unfold GameEvents.handleQuestComplete
    rw [hq]
    dsimp only
    split
    · exact hs
    split
    · exact hs
    rename_i hphase
    have hphase : (w.event q.eventId).state = .worldConditions := not_not.1 hphase
    cases hc : (w.event q.eventId).conditions.find? q.condition with
    | none => exact hs
    | some c =>
      dsimp only
      split
      · have hcond := saved_saveCondition hlt hs hc (c.count q.num)
        obtain ⟨w₁, hw₁⟩ : ∃ w₁, (w.setEvent q.eventId ((w.event q.eventId).setConditions
          ((w.event q.eventId).conditions.insert q.condition { c with done := c.count q.num }))).saveCondition
            q.eventId q.condition (c.count q.num) = w₁ := ⟨_, rfl⟩
        have hevent₁ : w₁.event q.eventId = (w.event q.eventId).setConditions
            ((w.event q.eventId).conditions.insert q.condition { c with done := c.count q.num }) := by
          rw [← hw₁]
          exact update_self ..
        rw [hw₁] at hcond ⊢
        rw [← hevent₁]
        have hserver : (w₁.event q.eventId).state.serverwide = true := by
          rw [hevent₁]
          exact congrArg GameEventState.serverwide hphase
        have hworld : (t.event q.eventId).state.serverwide = true := hcond.kind ▸ hserver
        split
        · obtain ⟨state, nextstart, hcheck, hstate, hrange⟩ := checkConditions_eq_setPhase now
            hserver (hcond.range hworld) (by
              have hearly := hearly q.eventId he
              rw [Early, ← hcond.length] at hearly
              exact hearly)
          rw [hcheck]
          exact saved_saveWorldEventState hlt hcond hworld hstate hrange
        · exact hcond
      · exact hs

/-- The first loop of `Update` has come so far. -/
structure Checked (t : EventTables R) (s : World R × List Nat × List Nat) : Prop where
  saved : AllSaved t s.1
  activate : ∀ e ∈ s.2.1, e < t.size
  deactivate : ∀ e ∈ s.2.2, e < t.size

omit [Zero R] [Add R] [LT R] [DecidableLT R] in
theorem mem_push {l l' : List Nat} {n : Nat} (he : e < n) (hl : ∀ e ∈ l, e < n)
    (hl' : l' = l ++ [e] ∨ l' = l) : ∀ e' ∈ l', e' < n := by
  intro e' he'
  rcases hl' with rfl | rfl
  · rcases mem_append.1 he' with h | h
    · exact hl e' h
    · exact mem_singleton.1 h ▸ he
  · exact hl e' he'

omit [Add R] in
theorem Checked.checkEvent (hfits : Fits t) {s : World R × List Nat × List Nat} (h : Checked t s)
    (he : e < t.size) (hearly : Early t now e) : Checked t (checkEvent now s e) := by
  obtain ⟨w, activate, deactivate⟩ := s
  obtain ⟨hsaved, hact, hdeact⟩ := h
  have hs := hsaved e he
  have hlt := he.trans_le hfits.size
  -- an event whose phase changes and is saved
  have hsave : ∀ state nextstart, (t.event e).state.serverwide = true → state.serverwide = true →
      0 ≤ nextstart ∧ nextstart < 2 ^ 32 →
      AllSaved t ((w.setEvent e ((w.event e).setPhase state nextstart)).saveWorldEventState e) :=
    fun state nextstart hworld hstate hrange => hsaved.of_touches hfits he
      ((Touches.setEvent ..).trans (.saveWorldEventState ..))
      (saved_saveWorldEventState hlt hs hworld hstate hrange)
  unfold GameEvents.checkEvent
  dsimp only
  split
  · split
    · rename_i hphase
      rw [Bool.and_eq_true, decide_eq_true_iff] at hphase
      have hworld : (t.event e).state.serverwide = true := by
        rw [← hs.kind, hphase.1]
        rfl
      exact ⟨hsave _ _ hworld rfl ⟨le_refl _, (by omega : (0 : Int) < 2 ^ 32)⟩, hact, mem_push he hdeact (ite_eq_or_eq ..)⟩
    · refine ⟨?_, mem_push he hact (ite_eq_or_eq ..).symm, hdeact⟩
      · dsimp only
        split
        · rename_i hphase
          rw [Bool.and_eq_true, decide_eq_true_iff] at hphase
          have hserver : (w.event e).state.serverwide = true := congrArg GameEventState.serverwide hphase.1
          have hworld : (t.event e).state.serverwide = true := hs.kind ▸ hserver
          obtain ⟨state, nextstart, hcheck, hstate, hrange⟩ := checkConditions_eq_setPhase now
            hserver (hs.range hworld) (by
              rw [Early, ← hs.length] at hearly
              exact hearly)
          rw [hcheck]
          exact hsave _ _ hworld hstate hrange
        · exact hsaved
  · exact ⟨hsaved, hact, mem_push he hdeact (ite_eq_or_eq ..)⟩

omit [Add R] in
theorem AllSaved.update (hfits : Fits t) (h : AllSaved t w) (hearly : ∀ e < t.size, Early t now e) :
    AllSaved t (update t now w) := by
  have hchecked : ∀ (l : List Nat) (s : World R × List Nat × List Nat), (∀ e ∈ l, e < t.size) → Checked t s →
      Checked t (l.foldl (GameEvents.checkEvent now) s) := by
    intro l
    induction l with
    | nil => exact fun s _ hs => hs
    | cons e l ih =>
      intro s hl hs
      have he := hl e mem_cons_self
      exact ih _ (fun e' he' => hl e' (mem_cons_of_mem e he')) (hs.checkEvent hfits he (hearly e he))
  have hfold : ∀ (f : World R → Nat → World R), (∀ w e, e < t.size → AllSaved t w → AllSaved t (f w e)) →
      ∀ (l : List Nat) (w : World R), (∀ e ∈ l, e < t.size) → AllSaved t w → AllSaved t (l.foldl f w) := by
    intro f hf l
    induction l with
    | nil => exact fun w _ hw => hw
    | cons e l ih =>
      intro w hl hw
      exact ih _ (fun e' he' => hl e' (mem_cons_of_mem e he')) (hf w e (hl e mem_cons_self) hw)
  have hrange : ∀ e ∈ List.range' 1 (t.size - 1), e < t.size := by
    intro e he
    have := mem_range'_1.1 he
    omega
  obtain ⟨hsaved, hact, hdeact⟩ := hchecked _ (w, [], []) hrange
    ⟨h, fun _ he => absurd he not_mem_nil, fun _ he => absurd he not_mem_nil⟩
  refine hfold _ (fun w e he hw => ?_) _ _ hdeact (hfold _ (fun w e he hw => ?_) _ _ hact hsaved)
  · exact hw.of_touches hfits he (touches_stopEvent ..)
      ((hw e he).stopEvent (he.trans_le hfits.size) (hfits.inactive e) now false)
  · exact hw.of_touches hfits he (touches_startEvent ..)
      ((hw e he).startEvent (he.trans_le hfits.size) (hearly e he) false)

omit [Add R] [LT R] [DecidableLT R] in
theorem fixed_loadEvent (t : EventTables R) (w : World R) (e : Nat) :
    (loadEvent t w e).length = (t.event e).length ∧
      ((t.event e).state.serverwide = false → (loadEvent t w e).state = (t.event e).state) := by
  unfold loadEvent
  cases w.eventSave.find? e with
  | none => exact ⟨rfl, fun _ => rfl⟩
  | some row =>
    dsimp only
    split
    · rename_i hworld
      exact ⟨rfl, fun h => absurd hworld (by simp [h])⟩
    · exact ⟨rfl, fun _ => rfl⟩

def RowsFit (t : EventTables R) (w : World R) : Prop :=
  ∀ e < t.size, (t.event e).state.serverwide = true → ∀ row, w.eventSave.find? e = some row →
    row.1.serverwide = true ∧ row.2 < 2 ^ 32

omit [Add R] [LT R] [DecidableLT R] in
theorem AllSaved.rowsFit (h : AllSaved t w) : RowsFit t w := by
  intro e he hworld row hrow
  have hs := h e he
  have hload := phase_loadEvent_of_row (t := t) hworld hrow
  obtain ⟨hstate, hnext⟩ := hs.phase hworld
  have hrange := hs.range hworld
  refine ⟨?_, ?_⟩
  · rw [← hload.1, ← hstate]
    exact hs.kind.trans hworld
  · rw [hnext] at hrange
    omega

omit [Add R] [LT R] [DecidableLT R] in
theorem RowsFit.restart (hrows : RowsFit t w) : AllSaved t (restart t w) := by
  intro e he
  obtain ⟨hlength, hother⟩ := fixed_loadEvent t w e
  have hload : loadEvent t (GameEvents.restart t w) e = loadEvent t w e := loadEvent_congr rfl rfl
  have hworld : (t.event e).state.serverwide = true → (loadEvent t w e).state.serverwide = true ∧
      0 ≤ (loadEvent t w e).nextstart ∧ (loadEvent t w e).nextstart < 2 ^ 32 := by
    intro hworld
    cases hrow : w.eventSave.find? e with
    | none =>
      obtain ⟨hstate, hnext⟩ := phase_loadEvent_of_none (t := t) hrow
      rw [hstate, hnext]
      exact ⟨hworld, le_refl _, by omega⟩
    | some row =>
      obtain ⟨hstate, hnext⟩ := phase_loadEvent_of_row (t := t) hworld hrow
      obtain ⟨hphase, hlt⟩ := hrows e he hworld row hrow
      rw [hstate]
      exact ⟨hphase, by omega, by omega⟩
  refine ⟨?_, hlength, fun _ => .inl (hload ▸ rfl), fun _ => ⟨congrArg _ hload.symm, congrArg _ hload.symm⟩,
    fun h => (hworld h).2⟩
  change (loadEvent t w e).state.serverwide = _
  cases hserver : (t.event e).state.serverwide with
  | true => exact (hworld hserver).1
  | false =>
    rw [hother hserver]
    exact hserver

/-! ## Runs -/

def Valid (t : EventTables R) : Call → Prop
  | .update now => ∀ e < t.size, Early t now e
  | .handleQuestComplete now _ => ∀ e < t.size, Early t now e
  | .startEvent now _ e => e < t.size ∧ Early t now e
  | .stopEvent _ _ e => e < t.size
  | .restart => True

def Call.event (t : EventTables R) : Call → Option Nat
  | .handleQuestComplete _ quest => (t.questToEventConditions quest).map (·.eventId)
  | .startEvent _ _ e => some e
  | .stopEvent _ _ e => some e
  | .update _ => none
  | .restart => none

/-- A valid call leaves every world event as its row has it. -/
theorem AllSaved.step (hfits : Fits t) (h : AllSaved t w) {c : Call} (hc : Valid t c) :
    AllSaved t (step t w c) := by
  cases c with
  | update now => exact h.update hfits hc
  | handleQuestComplete now quest => exact h.handleQuestComplete hfits hc quest
  | startEvent now overwrite e =>
    exact h.of_touches hfits hc.1 (touches_startEvent ..)
      ((h e hc.1).startEvent (hc.1.trans_le hfits.size) hc.2 overwrite)
  | stopEvent now overwrite e =>
    have he : e < t.size := hc
    exact h.of_touches hfits he (touches_stopEvent ..)
      ((h e he).stopEvent (he.trans_le hfits.size) (hfits.inactive e) now overwrite)
  | restart => exact h.rowsFit.restart

end Calls

/-! ## Two world events -/

end Axium.GameEvents
