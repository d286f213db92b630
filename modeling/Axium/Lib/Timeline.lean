import Axium.Lib.Multimap
import Mathlib.Data.List.Induction

/-!
# Timed jobs and their history

A history says when jobs were added, for what time, and when they were executed or aborted; executions
happen within rounds, each at a time of its own. A history is *lawful* when in a round always the first
pending job is executed, when it is due, and the round does not end before. Then every job is executed
in the first round that reaches its time, unless it was aborted, and in the order of the times
(**`Lawful.onceInOrder`**).
-/

namespace Axium.Timeline

open List

variable {ε : Type*}

inductive Happening (ε : Type*) where
  | added (e : ε) (time : ℕ)
  | began (now : ℕ)
  | executed (e : ε) (time : ℕ)
  | aborted (e : ε)
  | deleted (e : ε)
  | ended (now : ℕ)
  deriving DecidableEq

open Happening

abbrev History (ε : Type*) := List (Happening ε)

def Happening.Settles (e : ε) : Happening ε → Prop
  | executed e' _ => e' = e
  | aborted e' => e' = e
  | _ => False

def Untouched (e : ε) (h : History ε) : Prop := ∀ x ∈ h, ¬ x.Settles e

def current (h : History ε) : Option ℕ :=
  h.foldl (fun now x =>
    match x with
    | began now' => some now'
    | ended _ => none
    | _ => now) none

section Pending

variable [DecidableEq ε]

def pend (l : List (ℕ × ε)) : Happening ε → List (ℕ × ε)
  | added e t => Multimap.insert t e l
  | executed e _ => l.filter fun x => x.2 ≠ e
  | aborted e => l.filter fun x => x.2 ≠ e
  | _ => l

def pending (h : History ε) : List (ℕ × ε) := h.foldl pend []

def Next (h : History ε) : Happening ε → Prop
  | added e t => (∀ t', (t', e) ∉ pending h) ∧ aborted e ∉ h ∧ ∀ now, current h = some now → now < t
  | began _ => current h = none
  | executed e t => (pending h).head? = some (t, e) ∧ ∃ now, current h = some now ∧ t ≤ now
  | aborted e => ∃ t, (t, e) ∈ pending h
  | deleted _ => True
  | ended now => current h = some now ∧ ∀ x ∈ pending h, now < x.1

def Lawful (h : History ε) : Prop := ∀ past x later, h = past ++ x :: later → Next past x

end Pending

/-- The job `x` was added before the job `y`, and neither has been executed or aborted since. -/
def AddedBefore (h : History ε) (x y : ℕ × ε) : Prop :=
  ∃ a b c, h = a ++ added x.2 x.1 :: (b ++ added y.2 y.1 :: c) ∧ Untouched x.2 (b ++ c) ∧ Untouched y.2 c

structure OnceInOrder [DecidableEq ε] (h : History ε) : Prop where
  abortedOnce : ∀ e, h.count (aborted e) ≤ 1
  aborts : ∀ past e later, h = past ++ aborted e :: later → ∀ t, executed e t ∉ later
  reached : ∀ past now later, h = past ++ ended now :: later → ∀ a e t b,
    past = a ++ added e t :: b → t ≤ now →
    ∃ b₁ x b₂, b = b₁ ++ x :: b₂ ∧ Untouched e b₁ ∧ (x = executed e t ∨ x = aborted e)
  /-- A job is executed once, in a round that reaches its time, when no earlier one has. -/
  executes : ∀ past e t later, h = past ++ executed e t :: later →
    (∃ now, current past = some now ∧ t ≤ now) ∧
    ∃ a b, past = a ++ added e t :: b ∧ Untouched e b ∧ ∀ now, ended now ∈ b → now < t
  /-- In one round the jobs are executed by their times, those of one time as they were added. -/
  ordered : ∀ past e t between e' t' later,
    h = past ++ executed e t :: (between ++ executed e' t' :: later) → (∀ now, ended now ∉ between) →
    t < t' ∨ t = t' ∧ AddedBefore past (t, e) (t', e')

/-! ## Histories with one more entry -/

section Concat

variable {h : History ε} {e : ε}

theorem current_concat (h : History ε) (x : Happening ε) :
    current (h ++ [x]) = match x with
      | began now => some now
      | ended _ => none
      | _ => current h := by
  rw [current, foldl_append]
  rfl

theorem untouched_nil : Untouched e ([] : History ε) := by simp [Untouched]

theorem untouched_append {h' : History ε} :
    Untouched e (h ++ h') ↔ Untouched e h ∧ Untouched e h' := forall_mem_append

theorem untouched_concat {x : Happening ε} : Untouched e (h ++ [x]) ↔ Untouched e h ∧ ¬ x.Settles e := by
  rw [untouched_append]
  exact and_congr_right fun _ => forall_mem_singleton

theorem concat_eq_append_cons {α : Type*} {l a b : List α} {x y : α} :
    l ++ [x] = a ++ y :: b ↔ b = [] ∧ l = a ∧ x = y ∨ ∃ b', b = b' ++ [x] ∧ l = a ++ y :: b' := by
  constructor
  · intro heq
    rcases eq_nil_or_concat b with rfl | ⟨b', z, rfl⟩
    · obtain ⟨rfl, hxy⟩ := append_inj' heq rfl
      exact .inl ⟨rfl, rfl, singleton_inj.1 hxy⟩
    · rw [concat_eq_append, ← cons_append, ← append_assoc] at heq
      obtain ⟨rfl, hxz⟩ := append_inj' heq rfl
      rw [singleton_inj.1 hxz]
      exact .inr ⟨b', concat_eq_append, rfl⟩
  · rintro (⟨rfl, rfl, rfl⟩ | ⟨b', rfl, rfl⟩)
    · rfl
    · rw [append_assoc, cons_append]

theorem AddedBefore.concat {x y : ℕ × ε} (hxy : AddedBefore h x y) {z : Happening ε}
    (hx : ¬ z.Settles x.2) (hy : ¬ z.Settles y.2) : AddedBefore (h ++ [z]) x y := by
  obtain ⟨a, b, c, rfl, hb, hc⟩ := hxy
  refine ⟨a, b, c ++ [z], by simp, ?_, untouched_concat.2 ⟨hc, hy⟩⟩
  rw [← append_assoc]
  exact untouched_concat.2 ⟨hb, hx⟩

def Precedes (h : History ε) (x y : ℕ × ε) : Prop := x.1 < y.1 ∨ x.1 = y.1 ∧ AddedBefore h x y

theorem Precedes.concat {x y : ℕ × ε} (hxy : Precedes h x y) {z : Happening ε}
    (hx : ¬ z.Settles x.2) (hy : ¬ z.Settles y.2) : Precedes (h ++ [z]) x y :=
  hxy.imp_right fun ⟨htime, hadded⟩ => ⟨htime, hadded.concat hx hy⟩

end Concat

/-! ## The pending jobs -/

section Pending

variable [DecidableEq ε] {h : History ε} {e : ε} {t : ℕ}

theorem pending_concat (h : History ε) (x : Happening ε) : pending (h ++ [x]) = pend (pending h) x := by
  rw [pending, foldl_append]
  rfl

theorem pending_sorted (h : History ε) : Multimap.Sorted (pending h) := by
  induction h using List.reverseRecOn with
  | nil => exact .nil
  | append_singleton h x ih =>
    rw [pending_concat]
    cases x with
    | added e t => exact ih.insert t e
    | executed e t => exact ih.filter _
    | aborted e => exact ih.filter _
    | began _ => exact ih
    | deleted _ => exact ih
    | ended _ => exact ih

theorem mem_pending : (t, e) ∈ pending h ↔ ∃ a b, h = a ++ added e t :: b ∧ Untouched e b := by
  induction h using List.reverseRecOn with
  | nil => simp [pending]
  | append_singleton h x ih =>
    have hlater : (∃ a b, h ++ [x] = a ++ added e t :: b ∧ Untouched e b) ↔
        x = added e t ∨ ¬ x.Settles e ∧ (t, e) ∈ pending h := by
      simp only [concat_eq_append_cons]
      constructor
      · rintro ⟨a, b, ⟨rfl, rfl, rfl⟩ | ⟨b', rfl, rfl⟩, hb⟩
        · exact .inl rfl
        · obtain ⟨hb', hx⟩ := untouched_concat.1 hb
          exact .inr ⟨hx, ih.2 ⟨a, b', rfl, hb'⟩⟩
      · rintro (rfl | ⟨hx, hmem⟩)
        · exact ⟨h, [], .inl ⟨rfl, rfl, rfl⟩, untouched_nil⟩
        · obtain ⟨a, b, rfl, hb⟩ := ih.1 hmem
          exact ⟨a, b ++ [x], .inr ⟨b, rfl, rfl⟩, untouched_concat.2 ⟨hb, hx⟩⟩
    rw [hlater, pending_concat]
    cases x with
    | added e' t' => simp [pend, Settles, eq_comm, and_comm]
    | executed e' t' =>
      simp only [pend, Settles, mem_filter, decide_eq_true_eq, reduceCtorEq, false_or, ne_eq]
      rw [and_comm, eq_comm (a := e)]
    | aborted e' =>
      simp only [pend, Settles, mem_filter, decide_eq_true_eq, reduceCtorEq, false_or, ne_eq]
      rw [and_comm, eq_comm (a := e)]
    | began _ => simp [pend, Settles]
    | deleted _ => simp [pend, Settles]
    | ended _ => simp [pend, Settles]

theorem pending_precedes (h : History ε) : (pending h).Pairwise (Precedes h) := by
  induction h using List.reverseRecOn with
  | nil => exact .nil
  | append_singleton h x ih =>
    rw [pending_concat]
    have hsettled : ∀ e, (∀ e', x.Settles e' ↔ e = e') →
        ((pending h).filter fun y => y.2 ≠ e).Pairwise (Precedes (h ++ [x])) := by
      intro e hx
      refine (List.Pairwise.filter _ ih).imp_of_mem fun ha hb hab => hab.concat ?_ ?_
      · rw [hx]
        exact fun he => by simp [he] at ha
      · rw [hx]
        exact fun he => by simp [he] at hb
    cases x with
    | added e t =>
      have hkeep : (pending h).Pairwise (Precedes (h ++ [added e t])) := ih.imp fun hab => hab.concat id id
      refine Multimap.pairwise_insert (pending_sorted h) hkeep (fun y hy hle => ?_) fun y _ hlt => .inl hlt
      refine (lt_or_eq_of_le hle).imp id fun heq => ⟨heq, ?_⟩
      obtain ⟨a, b, rfl, hb⟩ := mem_pending.1 (show (y.1, y.2) ∈ pending h from hy)
      exact ⟨a, b, [], by simp, by simpa using hb, untouched_nil⟩
    | executed e t => exact hsettled e fun e' => by simp [Settles]
    | aborted e => exact hsettled e fun e' => by simp [Settles]
    | began _ => exact ih.imp fun hab => hab.concat id id
    | deleted _ => exact ih.imp fun hab => hab.concat id id
    | ended _ => exact ih.imp fun hab => hab.concat id id

/-! ## Lawful histories -/

theorem lawful_nil : Lawful ([] : History ε) := by simp [Lawful]

theorem lawful_concat {x : Happening ε} : Lawful (h ++ [x]) ↔ Lawful h ∧ Next h x := by
  constructor
  · intro hlawful
    exact ⟨fun past y later heq => hlawful past y (later ++ [x]) (by simp [heq]), hlawful h x [] rfl⟩
  · rintro ⟨hlawful, hnext⟩ past y later heq
    rcases concat_eq_append_cons.1 heq with ⟨rfl, rfl, rfl⟩ | ⟨later, rfl, rfl⟩
    · exact hnext
    · exact hlawful past y later rfl

theorem Lawful.past {later : History ε} (hlawful : Lawful (h ++ later)) : Lawful h := by
  intro a x b heq
  exact hlawful a x (b ++ later) (by simp [heq])

theorem mem_pending_of_head (hhead : (pending h).head? = some (t, e)) : (t, e) ∈ pending h :=
  mem_of_head? hhead

theorem snd_notMem_filter (l : List (ℕ × ε)) (e : ε) (t : ℕ) : (t, e) ∉ l.filter fun x => x.2 ≠ e := by
  simp

theorem Lawful.nodup (hlawful : Lawful h) : ((pending h).map Prod.snd).Nodup := by
  induction h using List.reverseRecOn with
  | nil => exact .nil
  | append_singleton h x ih =>
    obtain ⟨hh, hnext⟩ := lawful_concat.1 hlawful
    rw [pending_concat]
    cases x with
    | added e t =>
      refine (((Multimap.insert_perm t e _).map Prod.snd).nodup_iff).2 (nodup_cons.2 ⟨fun hmem => ?_, ih hh⟩)
      obtain ⟨⟨t', e'⟩, hx, rfl⟩ := mem_map.1 hmem
      exact hnext.1 t' hx
    | executed e t => exact (ih hh).sublist (filter_sublist.map _)
    | aborted e => exact (ih hh).sublist (filter_sublist.map _)
    | began _ => exact ih hh
    | deleted _ => exact ih hh
    | ended _ => exact ih hh

theorem Lawful.time_unique (hlawful : Lawful h) {t' : ℕ} (ht : (t, e) ∈ pending h)
    (ht' : (t', e) ∈ pending h) : t = t' :=
  congrArg Prod.fst (inj_on_of_nodup_map hlawful.nodup ht ht' rfl)

theorem Lawful.notMem_of_aborted (hlawful : Lawful h) (habort : aborted e ∈ h) (t : ℕ) :
    (t, e) ∉ pending h := by
  induction h using List.reverseRecOn with
  | nil => simp at habort
  | append_singleton h x ih =>
    obtain ⟨hh, hnext⟩ := lawful_concat.1 hlawful
    rw [pending_concat]
    rcases mem_append.1 habort with hpast | hx
    · have hout := ih hh hpast
      cases x with
      | added e' t' =>
        intro hmem
        rcases Multimap.mem_insert.1 hmem with heq | hmem
        · obtain ⟨-, rfl⟩ := Prod.mk.inj heq
          exact hnext.2.1 hpast
        · exact hout hmem
      | executed e' t' => exact fun hmem => hout (mem_of_mem_filter hmem)
      | aborted e' => exact fun hmem => hout (mem_of_mem_filter hmem)
      | began _ => exact hout
      | deleted _ => exact hout
      | ended _ => exact hout
    · rw [← mem_singleton.1 hx]
      exact snd_notMem_filter _ e t

theorem Lawful.current_append {later : History ε} (hlawful : Lawful (h ++ later)) {now : ℕ}
    (hnow : current h = some now) (hlater : ∀ now', ended now' ∉ later) : current (h ++ later) = some now := by
  induction later using List.reverseRecOn with
  | nil => rwa [append_nil]
  | append_singleton later x ih =>
    rw [← append_assoc] at hlawful ⊢
    obtain ⟨hpast, hnext⟩ := lawful_concat.1 hlawful
    have hcurrent := ih hpast fun now' hmem => hlater now' (mem_append_left _ hmem)
    rw [current_concat]
    cases x with
    | began now' => exact absurd (hnext.symm.trans hcurrent) nofun
    | ended now' => exact absurd (mem_append_right _ mem_cons_self) (hlater now')
    | added _ _ => exact hcurrent
    | executed _ _ => exact hcurrent
    | aborted _ => exact hcurrent
    | deleted _ => exact hcurrent

omit [DecidableEq ε] in
theorem exists_first_settled (htouched : ¬ Untouched e h) :
    ∃ a x b, h = a ++ x :: b ∧ Untouched e a ∧ x.Settles e := by
  induction h with
  | nil => exact absurd untouched_nil htouched
  | cons x h ih =>
    by_cases hx : x.Settles e
    · exact ⟨[], x, h, rfl, untouched_nil, hx⟩
    · have hrest : ¬ Untouched e h := fun hh => htouched (forall_mem_cons.2 ⟨hx, hh⟩)
      obtain ⟨a, y, b, rfl, ha, hy⟩ := ih hrest
      exact ⟨x :: a, y, b, rfl, forall_mem_cons.2 ⟨hx, ha⟩, hy⟩

/-- **In a lawful history every job is executed once and in order.** -/
theorem Lawful.onceInOrder (hlawful : Lawful h) : OnceInOrder h where
  abortedOnce e := by
    induction h using List.reverseRecOn with
    | nil => exact Nat.zero_le 1
    | append_singleton h x ih =>
      obtain ⟨hh, hnext⟩ := lawful_concat.1 hlawful
      rw [count_append, count_singleton]
      by_cases hx : x = aborted e
      · subst hx
        obtain ⟨t, hmem⟩ := hnext
        have hnone : h.count (aborted e) = 0 :=
          count_eq_zero.2 fun habort => hh.notMem_of_aborted habort t hmem
        rw [hnone]
        split <;> decide
      · rw [if_neg (by simpa using hx)]
        exact ih hh
  aborts past e later heq t hmem := by
    obtain ⟨b, c, rfl⟩ := append_of_mem hmem
    have hsplit : h = (past ++ aborted e :: b) ++ executed e t :: c := by simp [heq]
    have hpast : Lawful (past ++ aborted e :: b) := (hsplit ▸ hlawful).past
    exact hpast.notMem_of_aborted (mem_append_right _ mem_cons_self) t
      (mem_pending_of_head (hlawful _ _ _ hsplit).1)
  reached past now later heq a e t b hadd htime := by
    have hdue := (hlawful past _ later heq).2
    have htouched : ¬ Untouched e b := fun hb =>
      absurd (hdue (t, e) (mem_pending.2 ⟨a, b, hadd, hb⟩)) (not_lt.2 htime)
    obtain ⟨b₁, x, b₂, rfl, hb₁, hx⟩ := exists_first_settled htouched
    refine ⟨b₁, x, b₂, rfl, hb₁, ?_⟩
    have hsplit : h = (a ++ added e t :: b₁) ++ x :: (b₂ ++ ended now :: later) := by simp [heq, hadd]
    have hnext := hlawful _ _ _ hsplit
    have hlaw : Lawful (a ++ added e t :: b₁) := (hsplit ▸ hlawful).past
    cases x with
    | executed e' t' =>
      obtain rfl : e' = e := hx
      rw [hlaw.time_unique (mem_pending.2 ⟨a, b₁, rfl, hb₁⟩) (mem_pending_of_head hnext.1)]
      exact .inl rfl
    | aborted e' =>
      obtain rfl : e' = e := hx
      exact .inr rfl
    | added _ _ => exact hx.elim
    | began _ => exact hx.elim
    | deleted _ => exact hx.elim
    | ended _ => exact hx.elim
  executes past e t later heq := by
    obtain ⟨hhead, hnow⟩ := hlawful past _ later heq
    obtain ⟨a, b, hadd, hb⟩ := mem_pending.1 (mem_pending_of_head hhead)
    refine ⟨hnow, a, b, hadd, hb, fun now hmem => ?_⟩
    obtain ⟨b₁, b₂, rfl⟩ := append_of_mem hmem
    have hdue := (hlawful (a ++ added e t :: b₁) (ended now) (b₂ ++ executed e t :: later)
      (by simp [heq, hadd])).2
    exact hdue (t, e) (mem_pending.2 ⟨a, b₁, rfl, (untouched_append.1 hb).1⟩)
  ordered past e t between e' t' later heq hbetween := by
    obtain ⟨hhead, now, hnow, htime⟩ := hlawful past _ _ heq
    have hsplit : h = (past ++ executed e t :: between) ++ executed e' t' :: later := by simp [heq]
    obtain ⟨a, b, hadd, hb⟩ := mem_pending.1 (mem_pending_of_head (hlawful _ _ _ hsplit).1)
    rcases append_eq_append_iff.1 hadd with ⟨a', rfl, hrest⟩ | ⟨c', rfl, hrest⟩
    · -- added in this round, so for a later time
      cases a' with
      | nil => exact absurd (List.cons.inj hrest).1 nofun
      | cons y a' =>
        obtain ⟨rfl, rfl⟩ := List.cons.inj hrest
        have hadded : h = (past ++ executed e t :: a') ++ added e' t' ::
            (b ++ executed e' t' :: later) := by simp [heq]
        have hlaw : Lawful (past ++ executed e t :: a') := (hadded ▸ hlawful).past
        have hround := hlaw.current_append hnow fun now' hmem => by
          rcases mem_cons.1 hmem with hne | hmem
          · cases hne
          · exact hbetween now' (mem_append_left _ hmem)
        exact .inl (htime.trans_lt ((hlawful _ _ _ hadded).2.2 now hround))
    · -- pending already when the first was executed
      cases c' with
      | nil => exact absurd (List.cons.inj hrest).1 nofun
      | cons y c' =>
        obtain ⟨rfl, rfl⟩ := List.cons.inj hrest
        obtain ⟨hc', hb'⟩ := untouched_append.1 hb
        have hne : e ≠ e' := (forall_mem_cons.1 hb').1
        have hmem : (t', e') ∈ pending (a ++ added e' t' :: c') := mem_pending.2 ⟨a, c', rfl, hc'⟩
        have horder := pending_precedes (a ++ added e' t' :: c')
        cases hpending : pending (a ++ added e' t' :: c') with
        | nil => simp [hpending] at hmem
        | cons x rest =>
          rw [hpending] at hhead hmem horder
          obtain rfl : x = (t, e) := Option.some.inj hhead
          rcases mem_cons.1 hmem with heq | hmem
          · exact absurd (congrArg Prod.snd heq).symm hne
          · exact (pairwise_cons.1 horder).1 _ hmem

end Pending

end Axium.Timeline
