import Axium.Utilities.EventProcessor

/-!
# Timed events run once and in order

The queue holds what the log calls pending, and events that were aborted but could not be deleted.
As long as neither `KillAllEvents` nor `Update` comes across one of these, the log is lawful; the first
that does aborts an event a second time. So events run once and in order exactly in the runs in which
no aborted event is come across (**`timedEvents_iff`**).
-/

namespace Axium.Events

open Timeline Run World List

variable {w : World} {e : Ptr}
variable {x : Nat × Ptr} {a : Action} {as : List Action} {execution : Execution}

/-! ## What the operations leave alone -/

namespace World

@[simp] theorem event_note (w : World) (x : Happening Ptr) : (w.note x).event = w.event := rfl

@[simp] theorem event_setEvents (w : World) (events : List (Nat × Ptr)) :
    (w.setEvents events).event = w.event := rfl

theorem event_setObject (w : World) (e e' : Ptr) (o : Option BasicEvent) :
    (w.setObject e o).event e' = if e' = e then o.getD {} else w.event e' := by
  unfold event setObject
  dsimp only
  by_cases he : e' = e
  · rw [he, Function.update_self, if_pos rfl]
  · rw [Function.update_of_ne he, if_neg he]

theorem event_delete (w : World) (e e' : Ptr) :
    (w.delete e).event e' = if e' = e then {} else w.event e' := w.event_setObject e e' none

theorem toAbort_addEvent (w : World) (e e' : Ptr) (eTime : Nat) (setAddtime : Bool) :
    ((w.addEvent e eTime setAddtime).event e').toAbort = (w.event e').toAbort := by
  have hevent : (w.addEvent e eTime setAddtime).event e' = (w.setObject e (some { (if setAddtime then
      { w.event e with addTime := w.proc.time } else w.event e) with execTime := eTime })).event e' := rfl
  rw [hevent, event_setObject]
  split
  · rename_i he
    subst he
    cases setAddtime <;> rfl
  · rfl

variable (deletable : Ptr → Bool)

theorem event_killOne (w : World) (x : Nat × Ptr) {e : Ptr} (he : e ≠ x.2) :
    (killOne deletable w x).event e = w.event e := by
  have hset : ((w.setObject x.2 (some (w.event x.2).setToAbort)).note (.aborted x.2)).event e = w.event e := by
    rw [event_note, event_setObject, if_neg he]
  unfold killOne
  dsimp only
  split
  · rw [event_setEvents, event_delete, if_neg he, hset]
  · exact hset

theorem log_killOne (w : World) (x : Nat × Ptr) :
    (killOne deletable w x).log = w.log ++ .aborted x.2 :: if deletable x.2 then [.deleted x.2] else [] := by
  unfold killOne
  dsimp only
  split
  · exact append_assoc ..
  · rfl

theorem log_foldl_killOne (w : World) (l : List (Nat × Ptr)) :
    (l.foldl (killOne deletable) w).log = w.log ++ l.flatMap fun x => .aborted x.2 ::
      if deletable x.2 then [.deleted x.2] else [] := by
  induction l generalizing w with
  | nil => exact (append_nil _).symm
  | cons x l ih => rw [foldl_cons, ih, log_killOne, flatMap_cons, append_assoc]

theorem log_killAllEvents (w : World) :
    (w.killAllEvents deletable).log = w.log ++ w.proc.events.flatMap fun x => .aborted x.2 ::
      if deletable x.2 then [.deleted x.2] else [] := log_foldl_killOne deletable w.setAborting _

theorem frame_foldl_killOne (w : World) (l : List (Nat × Ptr)) :
    (l.foldl (killOne deletable) w).proc.time = w.proc.time ∧
      (l.foldl (killOne deletable) w).updating = w.updating ∧
      (l.foldl (killOne deletable) w).proc.events.Sublist w.proc.events := by
  induction l generalizing w with
  | nil => exact ⟨rfl, rfl, .refl _⟩
  | cons x l ih =>
    obtain ⟨htime, hupdating, hevents⟩ := ih (killOne deletable w x)
    have hone : (killOne deletable w x).proc.time = w.proc.time ∧
        (killOne deletable w x).updating = w.updating ∧
        (killOne deletable w x).proc.events.Sublist w.proc.events := by
      unfold killOne
      dsimp only
      split
      · exact ⟨rfl, rfl, erase_sublist⟩
      · exact ⟨rfl, rfl, .refl _⟩
    exact ⟨htime.trans hone.1, hupdating.trans hone.2.1, hevents.trans hone.2.2⟩

theorem frame_act (w : World) (a : Action) :
    (w.act a).proc.time = w.proc.time ∧ (w.act a).updating = w.updating := by
  cases a with
  | addEvent e eTime setAddtime => exact ⟨rfl, rfl⟩
  | killAllEvents deletable =>
    have h := frame_foldl_killOne deletable w.setAborting w.proc.events
    exact ⟨h.1, h.2.1⟩

theorem log_act (w : World) (a : Action) : w.log <+: (w.act a).log := by
  cases a with
  | addEvent e eTime setAddtime => exact prefix_append ..
  | killAllEvents deletable =>
    rw [act, log_killAllEvents]
    exact prefix_append ..

theorem frame_run_act (w : World) (as : List Action) :
    (run act w as).proc.time = w.proc.time ∧ (run act w as).updating = w.updating ∧
      w.log <+: (run act w as).log := by
  induction as generalizing w with
  | nil => exact ⟨rfl, rfl, prefix_refl _⟩
  | cons a as ih =>
    obtain ⟨htime, hupdating, hlog⟩ := ih (w.act a)
    exact ⟨htime.trans (w.frame_act a).1, hupdating.trans (w.frame_act a).2, (w.log_act a).trans hlog⟩

end World

/-! ## The invariant -/

/-- The queue and the flags of the events are what the log says is pending, aborted and deleted. -/
structure Kept (w : World) : Prop where
  lawful : Lawful w.log
  round : current w.log = if w.updating then some w.proc.time else none
  sorted : Multimap.Sorted w.proc.events
  nodup : (w.proc.events.map Prod.snd).Nodup
  live : (w.proc.events.filter fun x => !(w.event x.2).toAbort) = pending w.log
  flagged : ∀ e, .deleted e ∉ w.log → ((w.event e).toAbort = true ↔ .aborted e ∈ w.log)
  gone : ∀ e, .aborted e ∈ w.log → w.Queued e ∨ .deleted e ∈ w.log
  undeleted : ∀ e, w.Queued e → .deleted e ∉ w.log

theorem kept_init : Kept {} where
  lawful := lawful_nil
  round := rfl
  sorted := .nil
  nodup := .nil
  live := rfl
  flagged _ _ := by simp [event]
  gone _ h := absurd h not_mem_nil
  undeleted _ h := absurd h not_mem_nil

namespace Kept

section

variable (h : Kept w)
include h

theorem queued_of_pending {t : Nat} (hmem : (t, e) ∈ pending w.log) : w.Queued e := by
  rw [← h.live] at hmem
  exact mem_map_of_mem (mem_of_mem_filter hmem)

theorem notMem_pending (hq : ¬ w.Queued e) (t : Nat) : (t, e) ∉ pending w.log :=
  fun hmem => hq (h.queued_of_pending hmem)

theorem addEvent {eTime : Nat} {setAddtime : Bool} (hmay : w.MayAct (.addEvent e eTime setAddtime)) :
    Kept (w.addEvent e eTime setAddtime) := by
  obtain ⟨hq, hdeleted, hlater⟩ := hmay
  have habort : .aborted e ∉ w.log := fun hmem => (h.gone e hmem).elim hq hdeleted
  have hflag : (w.event e).toAbort = false := by
    rw [← Bool.not_eq_true, h.flagged e hdeleted]
    exact habort
  have hnext : Next w.log (.added e eTime) := by
    refine ⟨h.notMem_pending hq, habort, fun now hnow => ?_⟩
    rw [h.round] at hnow
    by_cases hupdating : w.updating = true
    · rw [if_pos hupdating] at hnow
      exact Option.some.inj hnow ▸ hlater hupdating
    · rw [if_neg hupdating] at hnow
      cases hnow
  have hlog : (w.addEvent e eTime setAddtime).log = w.log ++ [.added e eTime] := rfl
  have hevents : (w.addEvent e eTime setAddtime).proc.events = Multimap.insert eTime e w.proc.events := rfl
  have hqueued : ∀ e', (w.addEvent e eTime setAddtime).Queued e' ↔ e' = e ∨ w.Queued e' := by
    intro e'
    rw [Queued, hevents, ((Multimap.insert_perm eTime e _).map Prod.snd).mem_iff]
    exact mem_cons
  exact {
    lawful := hlog ▸ lawful_concat.2 ⟨h.lawful, hnext⟩
    round := by
      rw [hlog, current_concat]
      exact h.round
    sorted := h.sorted.insert eTime e
    nodup := ((Multimap.insert_perm eTime e _).map Prod.snd).nodup_iff.2 (nodup_cons.2 ⟨hq, h.nodup⟩)
    live := by
      simp only [toAbort_addEvent]
      rw [hevents, Multimap.filter_insert_of_pos h.sorted (by simp [hflag]), h.live, hlog, pending_concat]
      rfl
    flagged := fun e' hdel => by
      rw [hlog] at hdel ⊢
      rw [toAbort_addEvent]
      simpa using h.flagged e' (by simpa using hdel)
    gone := fun e' hmem => by
      rw [hlog] at hmem ⊢
      rw [hqueued]
      exact (h.gone e' (by simpa using hmem)).imp .inr fun hdel => mem_append_left _ hdel
    undeleted := fun e' hq' => by
      rw [hlog]
      rcases (hqueued e').1 hq' with rfl | hq'
      · simpa using hdeleted
      · simpa using h.undeleted e' hq' }

theorem erase_eq_filter (hx : x ∈ w.proc.events) :
    w.proc.events.erase x = w.proc.events.filter fun y => y.2 ≠ x.2 := by
  rw [h.nodup.of_map.erase_eq_filter]
  refine filter_congr fun y hy => ?_
  have hiff : y = x ↔ y.2 = x.2 := ⟨congrArg Prod.snd, fun heq => inj_on_of_nodup_map h.nodup hy hx heq⟩
  by_cases heq : y = x
  · rw [decide_eq_false (not_not.2 (hiff.1 heq)), bne_eq_false_iff_eq.2 heq]
  · rw [decide_eq_true (mt hiff.2 heq), bne_iff_ne.2 heq]

theorem abort (hx : x ∈ w.proc.events) (hfresh : (w.event x.2).toAbort = false) :
    Kept ((w.setObject x.2 (some (w.event x.2).setToAbort)).note (.aborted x.2)) := by
  have hqueued : w.Queued x.2 := mem_map_of_mem hx
  have hnext : Next w.log (.aborted x.2) := ⟨x.1, h.live ▸ mem_filter.2 ⟨hx, by simp [hfresh]⟩⟩
  have hflag : ∀ e, (((w.setObject x.2 (some (w.event x.2).setToAbort)).note
      (.aborted x.2)).event e).toAbort = (decide (e = x.2) || (w.event e).toAbort) := by
    intro e
    rw [event_note, event_setObject]
    by_cases he : e = x.2
    · rw [if_pos he, decide_eq_true he]
      rfl
    · rw [if_neg he, decide_eq_false he, Bool.false_or]
  exact {
    lawful := lawful_concat.2 ⟨h.lawful, hnext⟩
    round := (current_concat _ _).trans h.round
    sorted := h.sorted
    nodup := h.nodup
    live := by
      simp only [hflag]
      refine Eq.trans ?_ (pending_concat w.log (.aborted x.2)).symm
      unfold pend
      dsimp only
      rw [← h.live, filter_filter]
      refine filter_congr fun y _ => ?_
      rw [Bool.not_or, ← decide_not]
    flagged := fun e hdel => by
      have hdel' : .deleted e ∉ w.log := fun hmem => hdel (mem_append_left _ hmem)
      rw [hflag, Bool.or_eq_true, decide_eq_true_eq, h.flagged e hdel']
      refine Iff.trans ?_ mem_append.symm
      rw [mem_singleton, Happening.aborted.injEq]
      exact or_comm
    gone := fun e hmem => by
      rcases mem_append.1 hmem with hmem | hmem
      · exact (h.gone e hmem).imp id fun hdel => mem_append_left _ hdel
      · rw [Happening.aborted.inj (mem_singleton.1 hmem)]
        exact .inl hqueued
    undeleted := fun e he hmem => by
      rcases mem_append.1 hmem with hmem | hmem
      · exact h.undeleted e he hmem
      · exact absurd (mem_singleton.1 hmem) nofun }

theorem erase (e : Ptr) (hgone : ∀ t, (t, e) ∉ pending w.log) :
    Kept ((w.delete e).setEvents (w.proc.events.filter fun y => y.2 ≠ e)) := by
  have hqueued : ∀ e', ((w.delete e).setEvents (w.proc.events.filter fun y => y.2 ≠ e)).Queued e' ↔
      e' ≠ e ∧ w.Queued e' := by
    intro e'
    constructor
    · intro hmem
      obtain ⟨y, hy, rfl⟩ := mem_map.1 hmem
      obtain ⟨hy, hne⟩ := mem_filter.1 hy
      exact ⟨by simpa using hne, mem_map_of_mem hy⟩
    · rintro ⟨hne, hmem⟩
      obtain ⟨y, hy, rfl⟩ := mem_map.1 hmem
      exact mem_map_of_mem (mem_filter.2 ⟨hy, by simpa using hne⟩)
  have hlog : ((w.delete e).setEvents (w.proc.events.filter fun y => y.2 ≠ e)).log =
      w.log ++ [.deleted e] := rfl
  exact {
    lawful := lawful_concat.2 ⟨h.lawful, trivial⟩
    round := (current_concat _ _).trans h.round
    sorted := h.sorted.filter _
    nodup := h.nodup.sublist (filter_sublist.map _)
    live := by
      refine Eq.trans ?_ (h.live.trans (pending_concat w.log (.deleted e)).symm)
      refine (filter_filter ..).trans (filter_congr fun y hy => ?_)
      rw [event_setEvents, event_delete]
      by_cases hne : y.2 = e
      · rw [decide_eq_false (not_not.2 hne)]
        -- what is not pending is flagged
        by_contra hflag
        refine hgone y.1 (h.live ▸ mem_filter.2 ⟨?_, ?_⟩)
        · exact hne ▸ hy
        · simpa [hne] using hflag
      · rw [if_neg hne, decide_eq_true hne, Bool.and_true]
    flagged := fun e' hdel => by
      rw [hlog, mem_append, mem_singleton, not_or] at hdel
      have hne : ¬ e' = e := fun he => hdel.2 (congrArg Happening.deleted he)
      rw [event_setEvents, event_delete, if_neg hne, h.flagged e' hdel.1, hlog, mem_append]
      exact ⟨.inl, fun hor => hor.resolve_right nofun⟩
    gone := fun e' hmem => by
      rw [hlog, mem_append, mem_singleton] at hmem ⊢
      rw [hqueued]
      by_cases he : e' = e
      · exact .inr (.inr (he ▸ rfl))
      · exact (h.gone e' (hmem.resolve_right nofun)).imp (fun hq => ⟨he, hq⟩) .inl
    undeleted := fun e' he' hmem => by
      rw [hlog, mem_append, mem_singleton] at hmem
      obtain ⟨hne, hq⟩ := (hqueued e').1 he'
      rcases hmem with hmem | hmem
      · exact h.undeleted e' hq hmem
      · exact hne (Happening.deleted.inj hmem) }

theorem delete (hq : ¬ w.Queued e) : Kept (w.delete e) := by
  have hsame : (w.proc.events.filter fun y => y.2 ≠ e) = w.proc.events :=
    filter_eq_self.2 fun y hy => by
      have hne : y.2 ≠ e := fun he => hq (he ▸ mem_map_of_mem hy)
      simpa using hne
  have herase := h.erase e (h.notMem_pending hq)
  rw [hsame] at herase
  exact herase

theorem killOne {x : Nat × Ptr} (hx : x ∈ w.proc.events)
    (hfresh : (w.event x.2).toAbort = false) (deletable : Ptr → Bool) : Kept (killOne deletable w x) := by
  have habort := h.abort hx hfresh
  unfold World.killOne
  by_cases hdel : deletable x.2 = true
  · rw [if_pos hdel, habort.erase_eq_filter hx]
    exact habort.erase x.2 (habort.lawful.notMem_of_aborted (mem_append_right _ mem_cons_self))
  · rw [if_neg hdel]
    exact habort

theorem foldl_killOne {l : List (Nat × Ptr)} (hl : ∀ x ∈ l, x ∈ w.proc.events)
    (hnodup : (l.map Prod.snd).Nodup) (hfresh : ∀ x ∈ l, (w.event x.2).toAbort = false)
    (deletable : Ptr → Bool) : Kept (l.foldl (World.killOne deletable) w) := by
  induction l generalizing w with
  | nil => exact h
  | cons x l ih =>
    obtain ⟨hx, hnodup⟩ := nodup_cons.1 hnodup
    have hne : ∀ y ∈ l, y.2 ≠ x.2 := fun y hy heq => hx (heq ▸ mem_map_of_mem hy)
    refine ih (h.killOne (hl x mem_cons_self) (hfresh x mem_cons_self) deletable)
      (fun y hy => ?_) hnodup fun y hy => ?_
    · have hmem := hl y (mem_cons_of_mem x hy)
      unfold World.killOne
      dsimp only
      split
      · exact (mem_erase_of_ne fun heq => hne y hy (congrArg Prod.snd heq)).2 hmem
      · exact hmem
    · rw [event_killOne deletable w x (hne y hy)]
      exact hfresh y (mem_cons_of_mem x hy)

end

end Kept

/-! ## The condition -/

namespace World

variable (w)

/-- `KillAllEvents` comes across no event that was aborted before. -/
def KillsFresh : Action → Prop
  | .addEvent _ _ _ => True
  | .killAllEvents _ => ∀ x ∈ w.proc.events, (w.event x.2).toAbort = false

instance : ∀ a : Action, Decidable (w.KillsFresh a)
  | .addEvent _ _ _ => inferInstanceAs (Decidable True)
  | .killAllEvents _ => inferInstanceAs (Decidable (∀ x ∈ w.proc.events, (w.event x.2).toAbort = false))

/-- The event that the loop of `Update` takes. -/
def taken (x : Nat × Ptr) : World := (w.setEvents w.proc.events.tail).note (.executed x.2 x.1)

theorem turn_eq (hx : w.proc.events.head? = some x)
    (hfresh : (w.event x.2).toAbort = false) (execution : Execution) :
    w.turn execution =
      if execution.answer then (run act (w.taken x) execution.actions).delete x.2
      else run act (w.taken x) execution.actions := by
  obtain ⟨rest, hevents⟩ := head?_eq_some_iff.1 hx
  unfold turn taken
  rw [hevents]
  dsimp only
  rw [if_pos (by rw [event_setEvents, hfresh]; rfl)]
  rfl

/-- Neither `Update` nor `KillAllEvents` comes across an event that was aborted before. -/
def AbortsFresh : Step → Prop
  | .act action => w.KillsFresh action
  | .turn execution => ∀ x ∈ w.proc.events.head?, (w.event x.2).toAbort = false ∧
      AllSteps act KillsFresh (w.taken x) execution.actions
  | _ => True

instance : ∀ s : Step, Decidable (w.AbortsFresh s)
  | .act action => inferInstanceAs (Decidable (w.KillsFresh action))
  | .turn execution => inferInstanceAs (Decidable (∀ x ∈ w.proc.events.head?, (w.event x.2).toAbort = false ∧
      AllSteps act KillsFresh (w.taken x) execution.actions))
  | .update _ => inferInstanceAs (Decidable True)
  | .leave => inferInstanceAs (Decidable True)

end World

namespace Kept

section

variable (h : Kept w)
include h

theorem act (hmay : w.MayAct a) (hfresh : w.KillsFresh a) : Kept (w.act a) := by
  cases a with
  | addEvent e eTime setAddtime => exact h.addEvent hmay
  | killAllEvents deletable =>
    have haborting : Kept w.setAborting := ⟨h.lawful, h.round, h.sorted, h.nodup, h.live, h.flagged,
      h.gone, h.undeleted⟩
    exact haborting.foldl_killOne (fun _ hx => hx) h.nodup hfresh deletable

theorem run_act (hmay : AllSteps World.act MayAct w as)
    (hfresh : AllSteps World.act KillsFresh w as) : Kept (run World.act w as) := by
  induction as generalizing w with
  | nil => exact h
  | cons a as ih => exact ih (h.act hmay.1 hfresh.1) hmay.2 hfresh.2

theorem taken (hx : w.proc.events.head? = some x)
    (hupdating : w.updating = true) (hdue : x.1 ≤ w.proc.time)
    (hfresh : (w.event x.2).toAbort = false) : Kept (w.taken x) := by
  obtain ⟨rest, hevents⟩ := head?_eq_some_iff.1 hx
  have hlive := h.live
  rw [hevents, filter_cons_of_pos (by simp [hfresh])] at hlive
  have hnodup := h.nodup
  rw [hevents, map_cons, nodup_cons] at hnodup
  have hnext : Next w.log (.executed x.2 x.1) :=
    ⟨by rw [← hlive]; rfl, w.proc.time, by rw [h.round, if_pos hupdating], hdue⟩
  have htail : (w.taken x).proc.events = rest := by
    rw [World.taken, hevents]
    rfl
  have hlog : (w.taken x).log = w.log ++ [.executed x.2 x.1] := rfl
  have hne : ∀ y ∈ rest, y.2 ≠ x.2 := fun y hy heq => hnodup.1 (heq ▸ mem_map_of_mem hy)
  exact {
    lawful := lawful_concat.2 ⟨h.lawful, hnext⟩
    round := (current_concat _ _).trans h.round
    sorted := htail ▸ (pairwise_cons.1 (hevents ▸ h.sorted)).2
    nodup := htail ▸ hnodup.2
    live := by
      rw [hlog, pending_concat, htail, ← hlive]
      unfold pend
      dsimp only
      rw [filter_cons_of_neg (by simp)]
      exact (filter_eq_self.2 fun y hy => by simpa using hne y (mem_of_mem_filter hy)).symm
    flagged := fun e hdel => by
      rw [hlog] at hdel ⊢
      exact (h.flagged e fun hmem => hdel (mem_append_left _ hmem)).trans (by simp)
    gone := fun e hmem => by
      rw [hlog] at hmem ⊢
      have habort : .aborted e ∈ w.log := by simpa using hmem
      rcases h.gone e habort with hq | hdel
      · refine .inl ?_
        rw [Queued, hevents, map_cons, mem_cons] at hq
        rw [Queued, htail]
        refine hq.resolve_left fun he => ?_
        have hflag := (h.flagged e (h.undeleted e (he ▸ mem_map_of_mem (mem_of_head? hx)))).2 habort
        rw [he, hfresh] at hflag
        cases hflag
      · exact .inr (mem_append_left _ hdel)
    undeleted := fun e hq => by
      rw [Queued, htail] at hq
      rw [hlog]
      have hdel := h.undeleted e (by rw [Queued, hevents]; exact mem_cons_of_mem _ hq)
      simpa using hdel }

theorem turn (hmay : w.May (.turn execution))
    (hfresh : w.AbortsFresh (.turn execution)) : Kept (w.turn execution) := by
  obtain ⟨hupdating, ⟨x, hx, hdue⟩, hmay⟩ := hmay
  obtain ⟨hflag, hkills⟩ := hfresh x hx
  obtain ⟨hacts, hanswer⟩ := hmay x hx hflag
  have hrun := (h.taken hx hupdating hdue hflag).run_act hacts hkills
  rw [turn_eq w hx hflag]
  split
  · rename_i hyes
    exact hrun.delete (hanswer hyes).1
  · exact hrun

theorem leave (hmay : w.May .leave) : Kept w.leave := by
  have hlater : ∀ x ∈ pending w.log, w.proc.time < x.1 := by
    intro x hx
    rw [← h.live] at hx
    have hx := mem_of_mem_filter hx
    cases hevents : w.proc.events with
    | nil => simp [hevents] at hx
    | cons y rest =>
      have hy : w.proc.time < y.1 := by
        by_contra hle
        exact hmay.2 ⟨y, by rw [hevents]; rfl, not_lt.1 hle⟩
      rw [hevents] at hx
      rcases mem_cons.1 hx with rfl | hx
      · exact hy
      · exact hy.trans_le ((pairwise_cons.1 (hevents ▸ h.sorted)).1 x hx)
  have hnext : Next w.log (.ended w.proc.time) := ⟨by rw [h.round, if_pos hmay.1], hlater⟩
  exact {
    lawful := lawful_concat.2 ⟨h.lawful, hnext⟩
    round := current_concat _ _
    sorted := h.sorted
    nodup := h.nodup
    live := h.live.trans (pending_concat w.log (.ended w.proc.time)).symm
    flagged := fun e hdel => (h.flagged e fun hmem => hdel (mem_append_left _ hmem)).trans
      (by simp [World.leave, note, setUpdating])
    gone := fun e hmem => (h.gone e (by simpa [World.leave, note, setUpdating] using hmem)).imp id fun hdel =>
      mem_append_left _ hdel
    undeleted := fun e hq => by simpa [World.leave, note, setUpdating] using h.undeleted e hq }

theorem update (hmay : w.updating = false) (pTime : Nat) : Kept (w.update pTime) := by
  have hnext : ∀ now, Next w.log (.began now) := fun now => by
    rw [Next, h.round, if_neg (by simp [hmay])]
  exact {
    lawful := lawful_concat.2 ⟨h.lawful, hnext _⟩
    round := current_concat _ _
    sorted := h.sorted
    nodup := h.nodup
    live := h.live.trans
      (pending_concat w.log (.began ((w.proc.time + pTime) % 2 ^ 64))).symm
    flagged := fun e hdel => (h.flagged e fun hmem => hdel (mem_append_left _ hmem)).trans
      (by simp [World.update, note, setUpdating, setTime])
    gone := fun e hmem => (h.gone e (by simpa [World.update, note, setUpdating, setTime] using hmem)).imp id
      fun hdel => mem_append_left _ hdel
    undeleted := fun e hq => by simpa [World.update, note, setUpdating, setTime] using h.undeleted e hq }

/-- A step that aborts no event twice keeps them so. -/
theorem step {s : Step} (hmay : w.May s) (hfresh : w.AbortsFresh s) : Kept (World.step w s) := by
  cases s with
  | act a => exact h.act hmay.2 hfresh
  | update pTime => exact h.update hmay pTime
  | turn execution => exact h.turn hmay hfresh
  | leave => exact h.leave hmay

theorem one_le_count (hq : w.Queued e) (hflag : (w.event e).toAbort = true) : 1 ≤ w.log.count (.aborted e) :=
  one_le_count_iff.2 ((h.flagged e (h.undeleted e hq)).1 hflag)

theorem act_again (hagain : ¬ w.KillsFresh a) : ∃ e, 2 ≤ (w.act a).log.count (.aborted e) := by
  cases a with
  | addEvent e eTime setAddtime => exact absurd trivial hagain
  | killAllEvents deletable =>
    simp only [KillsFresh, not_forall, Bool.not_eq_false] at hagain
    obtain ⟨x, hx, hflag⟩ := hagain
    have hold := h.one_le_count (mem_map_of_mem hx) hflag
    have hnew : 1 ≤ (w.proc.events.flatMap fun x => .aborted x.2 ::
        if deletable x.2 then [.deleted x.2] else []).count (Happening.aborted x.2) :=
      one_le_count_iff.2 (mem_flatMap.2 ⟨x, hx, mem_cons_self⟩)
    refine ⟨x.2, ?_⟩
    rw [World.act, log_killAllEvents, count_append]
    omega

theorem run_act_again (hmay : AllSteps World.act MayAct w as)
    (hagain : ¬ AllSteps World.act KillsFresh w as) : ∃ e, 2 ≤ (run World.act w as).log.count (.aborted e) := by
  induction as generalizing w with
  | nil => exact absurd trivial hagain
  | cons a as ih =>
    by_cases hfresh : w.KillsFresh a
    · exact ih (h.act hmay.1 hfresh) hmay.2 fun hrest => hagain ⟨hfresh, hrest⟩
    · obtain ⟨e, he⟩ := h.act_again hfresh
      exact ⟨e, he.trans ((frame_run_act (w.act a) as).2.2.sublist.count_le _)⟩

theorem turn_again (hmay : w.May (.turn execution))
    (hagain : ¬ w.AbortsFresh (.turn execution)) : ∃ e, 2 ≤ (w.turn execution).log.count (.aborted e) := by
  obtain ⟨hupdating, ⟨x, hx, hdue⟩, hmay⟩ := hmay
  by_cases hflag : (w.event x.2).toAbort = false
  · obtain ⟨hacts, -⟩ := hmay x hx hflag
    have hkills : ¬ AllSteps World.act KillsFresh (w.taken x) execution.actions := fun hkills =>
      hagain fun y hy => Option.some.inj (hx.symm.trans hy) ▸ ⟨hflag, hkills⟩
    obtain ⟨e, he⟩ := (h.taken hx hupdating hdue hflag).run_act_again hacts hkills
    refine ⟨e, ?_⟩
    rw [turn_eq w hx hflag]
    split
    · exact he.trans ((sublist_append_left ..).count_le _)
    · exact he
  · have hold := h.one_le_count (mem_map_of_mem (mem_of_head? hx)) (by simpa using hflag)
    obtain ⟨rest, hevents⟩ := head?_eq_some_iff.1 hx
    refine ⟨x.2, ?_⟩
    have hlog : (w.turn execution).log = w.log ++ [.aborted x.2, .deleted x.2] := by
      unfold World.turn
      rw [hevents]
      dsimp only
      rw [if_neg (by simpa using hflag)]
      exact append_assoc ..
    rw [hlog, count_append]
    simp only [count_cons, beq_self_eq_true, if_true]
    omega

/-- A step that does abort one twice breaks the order for good. -/
theorem step_again {s : Step} (hmay : w.May s) (hagain : ¬ w.AbortsFresh s) :
    ¬ OnceInOrder (World.step w s).log := by
  have htwice : ∃ e, 2 ≤ (World.step w s).log.count (.aborted e) := by
    cases s with
    | act a => exact h.act_again hagain
    | update pTime => exact absurd trivial hagain
    | turn execution => exact h.turn_again hmay hagain
    | leave => exact absurd trivial hagain
  obtain ⟨e, he⟩ := htwice
  intro hinOrder
  exact absurd (hinOrder.abortedOnce e) (not_le.2 he)

end

end Kept

/-! ## `Update` terminates -/

namespace World

def dueEvents (w : World) : Nat := (w.proc.events.filter fun x => x.1 ≤ w.proc.time).length

/-- From here the loop of `Update` takes no more turns than there are due events. -/
def UpdateEnds (w : World) : Prop :=
  ∀ turns : List Execution, AllSteps step May w (turns.map .turn) → turns.length ≤ w.dueEvents

theorem dueEvents_act (hupdating : w.updating = true) (hmay : w.MayAct a) :
    (w.act a).dueEvents ≤ w.dueEvents := by
  cases a with
  | addEvent e eTime setAddtime =>
    have hlater := hmay.2.2 hupdating
    have hsame : (w.addEvent e eTime setAddtime).dueEvents =
        ((Multimap.insert eTime e w.proc.events).filter fun x => x.1 ≤ w.proc.time).length := rfl
    rw [act, hsame, Multimap.filter_insert_of_neg (by simpa using hlater)]
    exact le_refl _
  | killAllEvents deletable =>
    obtain ⟨htime, -, hevents⟩ := frame_foldl_killOne deletable w.setAborting w.proc.events
    unfold dueEvents
    rw [act, killAllEvents, htime]
    exact (hevents.filter _).length_le

theorem dueEvents_run_act (hupdating : w.updating = true)
    (hmay : AllSteps act MayAct w as) : (run act w as).dueEvents ≤ w.dueEvents := by
  induction as generalizing w with
  | nil => exact le_refl _
  | cons a as ih => exact (ih ((w.frame_act a).2.trans hupdating) hmay.2).trans (dueEvents_act hupdating hmay.1)

theorem dueEvents_turn (hmay : w.May (.turn execution)) :
    (w.turn execution).dueEvents + 1 ≤ w.dueEvents := by
  obtain ⟨hupdating, ⟨x, hx, hdue⟩, hmay⟩ := hmay
  obtain ⟨rest, hevents⟩ := head?_eq_some_iff.1 hx
  have hrest : w.dueEvents = (rest.filter fun y => y.1 ≤ w.proc.time).length + 1 := by
    rw [dueEvents, hevents, filter_cons_of_pos (by simpa using hdue), length_cons]
  by_cases hflag : (w.event x.2).toAbort = false
  · have htaken : (w.taken x).dueEvents = (rest.filter fun y => y.1 ≤ w.proc.time).length := by
      rw [taken, hevents]
      rfl
    have hrun := dueEvents_run_act (w := w.taken x) hupdating (hmay x hx hflag).1
    have hsame : (w.turn execution).dueEvents = (run act (w.taken x) execution.actions).dueEvents := by
      rw [turn_eq w hx hflag]
      split <;> rfl
    omega
  · have hsame : (w.turn execution).dueEvents = (rest.filter fun y => y.1 ≤ w.proc.time).length := by
      unfold turn
      rw [hevents]
      dsimp only
      rw [if_neg (by simpa using hflag)]
      rfl
    omega

theorem updateEnds (w : World) : w.UpdateEnds := by
  intro turns hmay
  induction turns generalizing w with
  | nil => exact Nat.zero_le _
  | cons execution turns ih =>
    have hfewer := dueEvents_turn hmay.1
    have hrest := ih (w.turn execution) hmay.2
    rw [length_cons]
    omega

end World

/-! ## Every run -/

/-- **Timed events run once and in order, and `Update` terminates, exactly in the runs in which** neither
`Update` nor `KillAllEvents` comes across an event that was aborted before and could not be deleted. -/
theorem timedEvents_iff {steps : List Step} (hmay : AllSteps step May {} steps) :
    (∀ pre, pre <+: steps → OnceInOrder (run step {} pre).log ∧ (run step {} pre).UpdateEnds) ↔
      AllSteps step AbortsFresh {} steps := by
  have hkeeps : ∀ w s, OnceInOrder w.log ∧ w.UpdateEnds → (OnceInOrder w.log → Kept w) → May w s →
      OnceInOrder (step w s).log → Kept (step w s) := by
    intro w s horder hkept hmay horder'
    by_contra hnot
    have hagain : ¬ w.AbortsFresh s := fun hfresh => hnot ((hkept horder.1).step hmay hfresh)
    exact (hkept horder.1).step_again hmay hagain horder'
  have hstep : ∀ w s, OnceInOrder w.log ∧ w.UpdateEnds → (OnceInOrder w.log → Kept w) → May w s →
      (OnceInOrder (step w s).log ∧ (step w s).UpdateEnds ↔ AbortsFresh w s) := by
    intro w s horder hkept hmay
    constructor
    · intro horder'
      by_contra hagain
      exact (hkept horder.1).step_again hmay hagain horder'.1
    · intro hfresh
      exact ⟨((hkept horder.1).step hmay hfresh).lawful.onceInOrder, updateEnds _⟩
  have hexact : (∀ pre, pre <+: steps → OnceInOrder (run step {} pre).log ∧ (run step {} pre).UpdateEnds) ↔
      (OnceInOrder ({} : World).log ∧ ({} : World).UpdateEnds) ∧ AllSteps step AbortsFresh {} steps :=
    AllSteps.always_iff hkeeps hstep (fun _ => kept_init) hmay
  rw [hexact]
  exact and_iff_right ⟨lawful_nil.onceInOrder, updateEnds _⟩

theorem timedEvents_repeat :
    let w := run step {} [.act (.addEvent 0 5 true), .act (.addEvent 1 7 true), .update 5,
      .turn { actions := [.addEvent 0 9 true], answer := false }, .leave,
      .act (.killAllEvents fun _ => true), .update 5, .leave]
    OnceInOrder w.log ∧ w.UpdateEnds :=
  (timedEvents_iff (by decide +kernel)).2 (by decide +kernel) _ (prefix_refl _)

/-- An event that may not be deleted yet is aborted when all are killed, and again in the next round. -/
theorem timedEvents_abortedTwice :
    AllSteps step May {} [.act (.addEvent 0 5 true), .act (.killAllEvents fun _ => false), .update 5,
      .turn {}] ∧
    ¬ OnceInOrder (run step {} [.act (.addEvent 0 5 true), .act (.killAllEvents fun _ => false),
      .update 5, .turn {}]).log := by
  refine ⟨by decide +kernel, fun h => absurd (h.abortedOnce 0) ?_⟩
  decide +kernel

end Axium.Events
