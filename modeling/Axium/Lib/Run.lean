import Axium.Lib.Literals
import Mathlib.Data.List.Basic

/-!
# Runs of a deterministic machine

A machine is a step function `step : σ → ε → σ` from a state and an event to the next state; a run
is a list of events. A condition on the steps of a run (`AllSteps P`) sees the state before the
step and the event. An invariant that the steps meeting the condition preserve holds in every
state that such a run reaches (`AllSteps.invariant`, `AllSteps.reaches`).
-/

namespace Axium.Run

open List

variable {σ ε : Type*} (step : σ → ε → σ)

/-- The state after the events `es`, from `s`. -/
def run (s : σ) (es : List ε) : σ := es.foldl step s

@[simp] theorem run_nil (s : σ) : run step s [] = s := rfl

@[simp] theorem run_cons (s : σ) (e : ε) (es : List ε) :
    run step s (e :: es) = run step (step s e) es := rfl

@[simp] theorem run_append (s : σ) (es fs : List ε) : run step s (es ++ fs) = run step (run step s es) fs :=
  foldl_append ..

/-- Every step of the run from `s` over `es` meets `P`. -/
def AllSteps (P : σ → ε → Prop) : σ → List ε → Prop
  | _, [] => True
  | s, e :: es => P s e ∧ AllSteps P (step s e) es

instance AllSteps.decidable {P : σ → ε → Prop} [∀ s e, Decidable (P s e)] :
    ∀ (s : σ) (es : List ε), Decidable (AllSteps step P s es)
  | _, [] => isTrue trivial
  | s, e :: es =>
    have := AllSteps.decidable (P := P) (step s e) es
    inferInstanceAs (Decidable (P s e ∧ AllSteps step P (step s e) es))

variable {step} {P Q : σ → ε → Prop}

theorem AllSteps.mono (hPQ : ∀ s e, P s e → Q s e) :
    ∀ {s : σ} {es : List ε}, AllSteps step P s es → AllSteps step Q s es
  | _, [], _ => trivial
  | _, _ :: _, h => ⟨hPQ _ _ h.1, h.2.mono hPQ⟩

theorem allSteps_append {s : σ} {es fs : List ε} :
    AllSteps step P s (es ++ fs) ↔ AllSteps step P s es ∧ AllSteps step P (run step s es) fs := by
  induction es generalizing s with
  | nil => simp [AllSteps]
  | cons e es ih => simp only [cons_append, AllSteps, ih, run_cons, and_assoc]

variable {I : σ → Prop} {s : σ}

/-- **The invariant rule.** What holds at first and is kept by every step meeting `P` holds at the
end of a run whose steps all meet `P`. -/
theorem AllSteps.invariant (hstep : ∀ s e, I s → P s e → I (step s e))
    {es : List ε} (hs : I s) (h : AllSteps step P s es) : I (run step s es) := by
  induction es generalizing s with
  | nil => exact hs
  | cons e es ih => exact ih (hstep s e hs h.1) h.2

theorem AllSteps.reaches (hstep : ∀ s e, I s → P s e → I (step s e))
    {pre post : List ε} (hs : I s) (h : AllSteps step P s (pre ++ post)) : I (run step s pre) :=
  (allSteps_append.1 h).1.invariant hstep hs

/-- **The exact rule.** Under a side condition `A` on the events and a side invariant `J`, which the steps that
meet `P` keep, a step from a state with `I` leads to one with `I` if and only if it meets `P`. Then `I` holds in
every state of the run if and only if it holds at first and every step meets `P`. -/
theorem AllSteps.always_iff_of_kept {I J : σ → Prop} {A : σ → ε → Prop}
    (hJ : ∀ s e, I s → J s → A s e → P s e → J (step s e))
    (hI : ∀ s e, I s → J s → A s e → (I (step s e) ↔ P s e))
    {es : List ε} (hs : J s) (hA : AllSteps step A s es) :
    (∀ pre, pre <+: es → I (run step s pre)) ↔ I s ∧ AllSteps step P s es := by
  induction es generalizing s with
  | nil => simp [AllSteps]
  | cons e es ih =>
    constructor
    · intro h
      have h₀ : I s := h [] nil_prefix
      have h₁ : P s e := (hI s e h₀ hs hA.1).1 (h [e] (prefix_append [e] es))
      have hrest := (ih (hJ s e h₀ hs hA.1 h₁) hA.2).1 fun pre hpre =>
        h (e :: pre) (cons_prefix_cons.2 ⟨rfl, hpre⟩)
      exact ⟨h₀, h₁, hrest.2⟩
    · rintro ⟨h₀, hP, hrest⟩ pre hpre
      cases pre with
      | nil => exact h₀
      | cons e' pre =>
        obtain ⟨rfl, htail⟩ := cons_prefix_cons.1 hpre
        have h₁ : I (step s e') := (hI s e' h₀ hs hA.1).2 hP
        exact (ih (hJ s e' h₀ hs hA.1 hP) hA.2).2 ⟨h₁, hrest⟩ pre htail

theorem AllSteps.always_iff {I J : σ → Prop} {A : σ → ε → Prop} (hJ : ∀ s e, I s → J s → A s e → J (step s e))
    (hI : ∀ s e, I s → J s → A s e → (I (step s e) ↔ P s e))
    {es : List ε} (hs : J s) (hA : AllSteps step A s es) :
    (∀ pre, pre <+: es → I (run step s pre)) ↔ I s ∧ AllSteps step P s es :=
  AllSteps.always_iff_of_kept (fun s e h₀ h₁ hA _ => hJ s e h₀ h₁ hA) hI hs hA

/-- **The agreement rule.** Two conditions that agree in every state with the invariant hold in the same
runs, when the steps that meet the first keep the invariant. -/
theorem AllSteps.congr_of_kept (hstep : ∀ s e, I s → P s e → I (step s e))
    (hPQ : ∀ s e, I s → (P s e ↔ Q s e)) (hs : I s) (es : List ε) :
    AllSteps step P s es ↔ AllSteps step Q s es := by
  induction es generalizing s with
  | nil => exact Iff.rfl
  | cons e es ih =>
    constructor
    · rintro ⟨hP, hrest⟩
      exact ⟨(hPQ s e hs).1 hP, (ih (hstep s e hs hP)).1 hrest⟩
    · rintro ⟨hQ, hrest⟩
      have hP : P s e := (hPQ s e hs).2 hQ
      exact ⟨hP, (ih (hstep s e hs hP)).2 hrest⟩

theorem AllSteps.congr_invariant (hstep : ∀ s e, I s → I (step s e))
    (hPQ : ∀ s e, I s → (P s e ↔ Q s e)) (hs : I s) (es : List ε) :
    AllSteps step P s es ↔ AllSteps step Q s es :=
  AllSteps.congr_of_kept (fun s e h _ => hstep s e h) hPQ hs es

theorem allSteps_true (step : σ → ε → σ) (s : σ) (es : List ε) : AllSteps step (fun _ _ => True) s es := by
  induction es generalizing s with
  | nil => trivial
  | cons e es ih => exact ⟨trivial, ih _⟩

/-- A condition that follows from the invariant may be added to the steps of the run. -/
theorem AllSteps.strengthen (hstep : ∀ s e, I s → P s e → I (step s e)) :
    ∀ {s : σ} {es : List ε}, I s → AllSteps step P s es → AllSteps step (fun s e => I s ∧ P s e) s es
  | _, [], _, _ => trivial
  | _, _ :: _, hs, h => ⟨⟨hs, h.1⟩, h.2.strengthen hstep (hstep _ _ hs h.1)⟩

theorem AllSteps.and_mem {C : ε → Prop} :
    ∀ {s : σ} {es : List ε}, AllSteps step P s es → (∀ e ∈ es, C e) →
      AllSteps step (fun s e => C e ∧ P s e) s es
  | _, [], _, _ => trivial
  | _, e :: _, h, hC => ⟨⟨hC e mem_cons_self, h.1⟩, h.2.and_mem fun e' he' => hC e' (mem_cons_of_mem e he')⟩

/-! ## History -/

section History

variable {α : Type*} (step) (f : σ → Option α)

/-- What `f` sees in the last state of the run in which it sees something. -/
def lastSeen : σ → List ε → Option α
  | s, [] => f s
  | s, e :: es => (lastSeen (step s e) es).or (f s)

variable {step f}

/-- **The history rule.** A relation between the state and what was seen last, kept by every step,
holds at the end of a run. -/
theorem lastSeen_invariant {I : σ → Option α → Prop}
    (hstep : ∀ s e o, I s o → I (step s e) ((f (step s e)).or o))
    {s : σ} {o : Option α} (hs : I s ((f s).or o)) (es : List ε) :
    I (run step s es) ((lastSeen step f s es).or o) := by
  induction es generalizing s o with
  | nil => exact hs
  | cons e es ih =>
    have h := ih (hstep s e _ hs)
    rw [lastSeen, Option.or_assoc]
    exact h

end History

/-! ## Counting -/

section Counting

variable (step) (Q) [∀ s e, Decidable (Q s e)]

/-- The number of steps of the run that meet `Q`. -/
def countSteps : σ → List ε → Nat
  | _, [] => 0
  | s, e :: es => (if Q s e then 1 else 0) + countSteps (step s e) es

variable {step Q}

/-- **The counting rule.** What grows by one with every step that meets `Q` and is kept by the others
counts these steps. -/
theorem AllSteps.counts {I : σ → Prop} {f : σ → Nat} (hstep : ∀ s e, I s → P s e → I (step s e))
    (hcount : ∀ s e, I s → P s e → f (step s e) = f s + if Q s e then 1 else 0)
    {s : σ} {es : List ε} (hs : I s) (h : AllSteps step P s es) :
    f (run step s es) = f s + countSteps step Q s es := by
  induction es generalizing s with
  | nil => rfl
  | cons e es ih => rw [run_cons, ih (hstep s e hs h.1) h.2, hcount s e hs h.1, countSteps, add_assoc]

end Counting

end Axium.Run
