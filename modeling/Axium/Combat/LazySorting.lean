import Axium.Combat.Taunts
import Mathlib.Data.List.Sort
import Mathlib.Tactic.Linarith

/-!
# Lazy sorting

`getHostilTarget` sorts the online list only when it is dirty, and `selectNextVictim` relies on the order ("list
sorted"). The flag is raised where somebody else gains or the victim loses. It is not raised where the victim
gains, where somebody else loses, and for most references that come online, which are put at the end: these can
leave a list out of order that is not sorted before the next victim is selected. Every other change keeps the list
dirty or in order (`Ready`).
-/

namespace Axium.Combat.ThreatManager

open List Run Function

variable {U : Type} {s : ThreatManager U ℚ} {r : Nat} {list : List Nat}

def threats (s : ThreatManager U ℚ) (r : Nat) : ℚ := (s.refs r).threat

def InOrder (threats : Nat → ℚ) (list : List Nat) : Prop := list.Pairwise fun r r' => threats r' ≤ threats r

/-- The list will be sorted before the next victim is selected, or is. -/
def Ready (s : ThreatManager U ℚ) : Prop := s.dirty = true ∨ InOrder s.threats s.online

/-! ## Selections -/

theorem le_iff (r r' : Nat) :
    (!exactArith.gt (s.refs r').threat (s.refs r).threat) = true ↔ s.threats r' ≤ s.threats r := by
  simp [exactArith, threats]

theorem mergeSort_inOrder (s : ThreatManager U ℚ) (list : List Nat) :
    InOrder s.threats (list.mergeSort fun r r' => !exactArith.gt (s.refs r').threat (s.refs r).threat) := by
  refine (pairwise_mergeSort (fun a b c hab hbc => ?_) (fun a b => ?_) list).imp (le_iff _ _).1
  · rw [le_iff] at hab hbc ⊢
    exact hbc.trans hab
  · rw [Bool.or_eq_true, le_iff, le_iff]
    exact le_total ..

theorem update_inOrder (h : InOrder s.threats s.online) : s.update exactArith = { s with dirty := false } := by
  unfold update
  split
  · rw [mergeSort_of_pairwise (h.imp (le_iff _ _).2)]
  · rfl

/-- Whatever the flag, the list is sorted after `update`. -/
theorem Ready.update (h : Ready s) : InOrder s.threats (s.update exactArith).online := by
  unfold ThreatManager.update
  split
  · exact s.mergeSort_inOrder s.online
  · next hnot =>
    rcases h with hdirty | horder
    · have hone : s.online.length ≤ 1 := not_lt.1 fun hlt => hnot ⟨hdirty, hlt⟩
      match hlist : s.online with
      | [] => exact .nil
      | [r] => exact pairwise_singleton ..
      | _ :: _ :: _ => simp [hlist] at hone
    · exact horder

/-! ## Changes -/

/-- What a history is made of: a unit is added to the list, a threat changes, a reference changes its container or
goes, a victim is forced or selected. -/
inductive Change (U : Type) where
  | newReference (u : U) (modThreat : ℚ)
  | changeThreat (r : Nat) (modThreat : ℚ)
  | setOnlineOfflineState (r : Nat) (isOnline : Bool)
  | updateOnlineStatus (r : Nat)
  | removeReference (r : Nat)
  | forceVictim (r : Nat)
  | getHostilTarget
  | clearReferences

def change (s : ThreatManager U ℚ) (e : Surroundings U ℚ exactArith × Change U) : ThreatManager U ℚ :=
  match e.2 with
  | .newReference u modThreat => (s.newReference exactArith u).changeThreat e.1 s.nextRef modThreat
  | .changeThreat r modThreat => s.changeThreat e.1 r modThreat
  | .setOnlineOfflineState r isOnline => s.setOnlineOfflineState exactArith r isOnline
  | .updateOnlineStatus r => s.updateOnlineStatus e.1 r
  | .removeReference r => s.removeReference exactArith r
  | .forceVictim r => s.setCurrentVictim (some r)
  | .getHostilTarget => s.getHostilTarget e.1
  | .clearReferences => s.clearReferences

/-- `change`, where the list is sorted before every selection. -/
def sortedChange (s : ThreatManager U ℚ) (e : Surroundings U ℚ exactArith × Change U) : ThreatManager U ℚ :=
  match e.2 with
  | .getHostilTarget => { s with dirty := true }.getHostilTarget e.1
  | _ => s.change e

/-- A unit without a reference is added, and the others are references of the creature. -/
def Legal (s : ThreatManager U ℚ) (e : Surroundings U ℚ exactArith × Change U) : Prop :=
  match e.2 with
  | .newReference u _ => ∀ r, Live s r → (s.refs r).unitGuid ≠ u
  | .changeThreat r _ | .setOnlineOfflineState r _ | .updateOnlineStatus r | .removeReference r => Live s r
  | .forceVictim r => r ∈ s.online
  | .getHostilTarget | .clearReferences => True

/-- A unit with this threat may be put at the end of the list: the flag is raised, or nobody has less. -/
def MayBeLast (s : ThreatManager U ℚ) (threat : ℚ) : Prop :=
  (∃ v ∈ s.currentVictim, 11 / 10 * s.threats v < threat) ∨ ∀ q ∈ s.online, threat ≤ s.threats q

/-- The event of a change of threat raises the flag. -/
def Raises (s : ThreatManager U ℚ) (r : Nat) (modThreat : ℚ) : Prop :=
  s.currentVictim = some r ∧ modThreat < 0 ∨ s.currentVictim ≠ some r ∧ 0 < modThreat

/-- The flag is up or is raised, or the unit that the change is about keeps its place in the list. -/
def Orderly (s : ThreatManager U ℚ) (e : Surroundings U ℚ exactArith × Change U) : Prop :=
  s.dirty = true ∨
    match e.2 with
    | .newReference _ modThreat => 0 < modThreat ∨ ∀ q ∈ s.online, modThreat ≤ s.threats q
    | .changeThreat r modThreat => s.Raises r modThreat ∨
      if (s.refs r).online then ∀ q, ([q, r] <+ s.online → s.threats r + modThreat ≤ s.threats q) ∧
        ([r, q] <+ s.online → s.threats q ≤ s.threats r + modThreat)
      else s.MayBeLast (s.threats r + modThreat)
    | .setOnlineOfflineState r true | .updateOnlineStatus r => (s.refs r).online = false → s.MayBeLast (s.threats r)
    | _ => True

/-! ## What a change keeps -/

section Changes

theorem threats_modifyRef (s : ThreatManager U ℚ) (r : Nat) {f : HostileReference U ℚ → HostileReference U ℚ}
    (hf : ∀ ref, (f ref).threat = ref.threat) : (s.modifyRef r f).threats = s.threats := by
  funext k
  unfold threats
  by_cases hk : k = r
  · rw [hk, modifyRef_refs_self, hf]
  · rw [modifyRef_refs_of_ne s hk]

theorem threats_add (s : ThreatManager U ℚ) (r : Nat) (x : ℚ) (q : Nat) :
    (s.modifyRef r fun ref => { ref with threat := exactArith.add ref.threat x }).threats q =
      if q = r then s.threats r + x else s.threats q := by
  unfold threats
  by_cases hq : q = r
  · rw [hq, if_pos rfl, modifyRef_refs_self]
    rfl
  · rw [if_neg hq, modifyRef_refs_of_ne s hq]

theorem Ready.modifyRef (h : Ready s) (r : Nat) {f : HostileReference U ℚ → HostileReference U ℚ}
    (hf : ∀ ref, (f ref).threat = ref.threat) : Ready (s.modifyRef r f) := by
  unfold Ready
  rw [threats_modifyRef s r hf]
  exact h

/-- Whoever leaves the list, the others stay in order. -/
theorem Ready.dropVictim (h : Ready s) (r : Nat) {online offline : List Nat} (hsub : online <+ s.online) :
    Ready { s.dropVictim r with online := online, offline := offline } := by
  unfold ThreatManager.dropVictim
  split
  · exact .inl rfl
  · exact h.imp_right (·.sublist hsub)

theorem InOrder.append {threats : Nat → ℚ} (h : InOrder threats list) (hlast : ∀ q ∈ list, threats r ≤ threats q) :
    InOrder threats (list ++ [r]) :=
  pairwise_append.2 ⟨h, pairwise_singleton .., fun q hq _ hr => mem_singleton.1 hr ▸ hlast q hq⟩

theorem Ready.onlineStatus (h : Ready s) (r : Nat)
    (hlast : s.dirty = true ∨ ((s.refs r).online = true → s.MayBeLast (s.threats r))) :
    Ready (s.processThreatEvent exactArith (.onlineStatus r)) := by
  unfold processThreatEvent
  dsimp only
  split
  · next hon =>
    rcases hlast with hdirty | hlast
    · left
      rw [hdirty]
      cases s.currentVictim <;> rfl
    rcases hlast hon with ⟨v, hv, habove⟩ | hleast
    · left
      rw [show s.currentVictim = some v from hv]
      change (s.dirty || decide (11 / 10 * s.threats v < s.threats r)) = true
      rw [decide_eq_true habove, Bool.or_true]
    · refine h.imp (fun hdirty => ?_) (·.append hleast)
      rw [hdirty]
      cases s.currentVictim <;> rfl
  · rw [dropVictim_online]
    exact h.dropVictim r filter_sublist

theorem Ready.setOnlineOfflineState (h : Ready s) (r : Nat) (b : Bool) (hlast : b = true →
    s.dirty = true ∨ ((s.refs r).online = false → s.MayBeLast (s.threats r))) :
    Ready (s.setOnlineOfflineState exactArith r b) := by
  unfold ThreatManager.setOnlineOfflineState
  split
  · exact h
  · next hne =>
    have hthreats := threats_modifyRef s r (f := fun ref => { ref with online := b }) fun _ => rfl
    have hready := h.modifyRef r (f := fun ref => { ref with online := b }) fun _ => rfl
    cases b with
    | true =>
      refine hready.onlineStatus r ?_
      unfold MayBeLast
      rw [hthreats]
      exact (hlast rfl).imp_right fun h _ => h (by simpa using hne)
    | false =>
      refine Ready.onlineStatus (hready.modifyRef r (f := fun ref => { ref with accessible := false })
        fun _ => rfl) r (.inr fun hon => ?_)
      change (((s.modifyRef r _).modifyRef r _).refs r).online = true at hon
      rw [modifyRef_refs_self, modifyRef_refs_self] at hon
      cases hon

variable (W : Surroundings U ℚ exactArith)

theorem Ready.updateOnlineStatus (h : Ready s) (r : Nat)
    (hlast : s.dirty = true ∨ ((s.refs r).online = false → s.MayBeLast (s.threats r))) :
    Ready (s.updateOnlineStatus W r) := by
  have hvalid := h.modifyRef r (f := fun ref => { ref with valid := ref.valid || W.getUnit ref.unitGuid }) fun _ => rfl
  have hthreats := threats_modifyRef s r
    (f := fun ref => { ref with valid := ref.valid || W.getUnit ref.unitGuid }) fun _ => rfl
  unfold ThreatManager.updateOnlineStatus setAccessibleState
  dsimp only
  generalize (if ((s.modifyRef r _).refs r).valid = true then _ else _ : Bool × Bool) = state
  have haccessible := hvalid.modifyRef r (f := fun ref => { ref with accessible := state.2 }) fun _ => rfl
  refine haccessible.setOnlineOfflineState r state.1 fun _ => ?_
  unfold MayBeLast
  rw [threats_modifyRef _ r (f := fun ref => { ref with accessible := state.2 }) (fun _ => rfl), hthreats,
    modifyRef_refs_self, modifyRef_refs_self]
  exact hlast

/-- Coming online does not make anybody the victim. -/
theorem victim_ne {r' : Nat} (h : s.currentVictim ≠ some r') (b : Bool) :
    (s.setOnlineOfflineState exactArith r b).currentVictim ≠ some r' := by
  have hevent (t : ThreatManager U ℚ) (ht : t.currentVictim ≠ some r') :
      (t.processThreatEvent exactArith (.onlineStatus r)).currentVictim ≠ some r' := by
    unfold processThreatEvent
    dsimp only
    split
    · exact ht
    · exact fun heq => ht (dropVictim_currentVictim heq).1
  unfold ThreatManager.setOnlineOfflineState
  split
  · exact h
  · refine hevent _ ?_
    cases b <;> exact h

theorem Ready.threatChange {x : ℚ} (h : s.Raises r x ∨ Ready s) :
    Ready (s.processThreatEvent exactArith (.threatChange r x)) := by
  unfold processThreatEvent
  dsimp only
  split
  · exact .inl rfl
  · next hnot => exact h.resolve_left fun hraises => hnot (by simpa [exactArith, Raises] using hraises)

/-- The second half of `addThreat`: the reference may come online, and the event follows. -/
theorem Ready.threatAdded {x : ℚ} (honline : s.currentVictim = some r → (s.refs r).online = true)
    (h : s.Raises r x ∨ Ready s ∧ (s.dirty = true ∨ ((s.refs r).online = false → s.MayBeLast (s.threats r)))) :
    Ready (let t := if (s.refs r).online then s else s.updateOnlineStatus W r
      if exactArith.isZero x then t else t.processThreatEvent exactArith (.threatChange r x)) := by
  have hchanged : (if (s.refs r).online then s else s.updateOnlineStatus W r).Raises r x ∨
      Ready (if (s.refs r).online then s else s.updateOnlineStatus W r) := by
    split
    · exact h.imp_right And.left
    · next hoff =>
      refine h.imp (fun hraises => ?_) fun h => h.1.updateOnlineStatus W r h.2
      rcases hraises with hloss | hgain
      · exact absurd (honline hloss.1) hoff
      · exact .inr ⟨victim_ne (by exact hgain.1) _, hgain.2⟩
  dsimp only
  split
  · next hzero =>
    have hzero : x = 0 := of_decide_eq_true hzero
    refine hchanged.resolve_left ?_
    rintro (⟨-, hx⟩ | ⟨-, hx⟩) <;> exact absurd hzero (by linarith)
  · exact .threatChange hchanged

theorem Ready.newReference [DecidableEq U] (hs : Consistent s) (h : Ready s) (u : U) (x : ℚ)
    (he : Orderly s (W, .newReference u x)) : Ready (s.change (W, .newReference u x)) := by
  have hnew : s.nextRef ∉ s.online := fun hmem => lt_irrefl _ (hs.allocated _ (mem_append_left _ hmem))
  have hself : ((s.newReference exactArith u).refs s.nextRef).online = true := by simp [ThreatManager.newReference]
  refine Ready.threatAdded W (r := s.nextRef) (fun hv => absurd (hs.victim _ hv) hnew) ?_
  by_cases hgain : 0 < x
  · exact .inl (.inr ⟨fun hv => hnew (hs.victim _ hv), hgain⟩)
  · have hthreats (q : Nat) : ((s.newReference exactArith u).modifyRef s.nextRef
        fun ref => { ref with threat := exactArith.add ref.threat x }).threats q =
          if q = s.nextRef then x else s.threats q := by
      rw [threats_add]
      unfold threats ThreatManager.newReference
      dsimp only
      by_cases hq : q = s.nextRef
      · rw [if_pos hq, if_pos hq, Function.update_self]
        exact zero_add x
      · rw [if_neg hq, if_neg hq, Function.update_of_ne hq]
    have hother {q : Nat} (hq : q ∈ s.online) : q ≠ s.nextRef := ne_of_mem_of_not_mem hq hnew
    refine .inr ⟨?_, .inr fun hoff => ?_⟩
    · by_cases hdirty : s.dirty = true
      · exact .inl hdirty
      refine .inr (.append ((h.resolve_left hdirty).imp_of_mem fun hq hq' hle => ?_) fun q hq => ?_)
      · rwa [hthreats, hthreats, if_neg (hother hq), if_neg (hother hq')]
      · rw [hthreats, hthreats, if_pos rfl, if_neg (hother hq)]
        exact (he.resolve_left hdirty).resolve_left hgain q hq
    · rw [modifyRef_refs_self, hself] at hoff
      cases hoff

/-- The threats of the list after a change in it that raises no flag. -/
theorem Ready.moved (hs : Consistent s) (h : Ready s) {x : ℚ}
    (he : s.dirty = true ∨ ∀ q, ([q, r] <+ s.online → s.threats r + x ≤ s.threats q) ∧
      ([r, q] <+ s.online → s.threats q ≤ s.threats r + x)) :
    Ready (s.modifyRef r fun ref => { ref with threat := exactArith.add ref.threat x }) := by
  by_cases hdirty : s.dirty = true
  · exact .inl hdirty
  refine .inr (pairwise_iff_forall_sublist.2 fun {a b} hsub => ?_)
  have hne : a ≠ b := by simpa using (List.Nodup.of_append_left hs.nodup).sublist hsub
  have hold := pairwise_iff_forall_sublist.1 (h.resolve_left hdirty) hsub
  rw [threats_add, threats_add]
  by_cases hb : b = r
  · rw [if_pos hb, if_neg (hb ▸ hne)]
    exact (he.resolve_left hdirty a).1 (hb ▸ hsub)
  · rw [if_neg hb]
    split
    · next ha => exact (he.resolve_left hdirty b).2 (ha ▸ hsub)
    · exact hold

theorem Ready.changeThreat (hs : Consistent s) (h : Ready s) (hr : Live s r) (x : ℚ)
    (he : Orderly s (W, .changeThreat r x)) : Ready (s.changeThreat W r x) := by
  have honline := hs.online_iff r hr
  refine Ready.threatAdded W (fun hv => ?_) ?_
  · rw [modifyRef_refs_self]
    exact honline.1 (hs.victim r hv)
  by_cases hraises : s.Raises r x
  · exact .inl hraises
  have he := he.imp_right (·.resolve_left hraises)
  rw [modifyRef_refs_self]
  right
  by_cases hon : (s.refs r).online = true
  · rw [if_pos hon] at he
    exact ⟨h.moved hs he, .inr fun hoff => absurd (hon.symm.trans hoff) Bool.false_ne_true.symm⟩
  · rw [if_neg hon] at he
    have hnot : r ∉ s.online := fun hmem => hon (honline.1 hmem)
    refine ⟨h.moved hs (.inr fun q => ⟨fun hsub => ?_, fun hsub => ?_⟩), he.imp_right fun hlast _ => ?_⟩
    · exact absurd (hsub.subset (by simp)) hnot
    · exact absurd (hsub.subset (by simp)) hnot
    · have hother {q : Nat} (hq : q ∈ s.online) : q ≠ r := ne_of_mem_of_not_mem hq hnot
      unfold MayBeLast
      rw [threats_add, if_pos rfl]
      refine hlast.imp ?_ fun hleast q hq => by rw [threats_add, if_neg (hother hq)]; exact hleast q hq
      rintro ⟨v, hv, habove⟩
      exact ⟨v, hv, by rwa [threats_add, if_neg (hother (hs.victim v hv))]⟩

variable {W}

theorem Ready.getHostilTarget (h : Ready s) : Ready (s.getHostilTarget W) := by
  right
  have hrefs : (s.update exactArith).refs = s.refs := by
    unfold ThreatManager.update
    split <;> rfl
  have hupdate := h.update
  unfold threats at hupdate
  rwa [← hrefs] at hupdate

theorem Ready.removeReference (h : Ready s) (r : Nat) : Ready (s.removeReference exactArith r) := by
  have hoff := (h.setOnlineOfflineState r false nofun).modifyRef r
    (f := fun ref => { ref with valid := false }) fun _ => rfl
  unfold ThreatManager.removeReference processThreatEvent
  dsimp only
  rw [dropVictim_online]
  split
  · exact hoff.dropVictim r filter_sublist
  · exact hoff.dropVictim r (.refl _)

end Changes

/-! ## Histories -/

theorem sortedChange_eq (h : Ready s) (e : Surroundings U ℚ exactArith × Change U) :
    sortedChange s e = s.change e := by
  obtain ⟨W, c⟩ := e
  cases c with
  | getHostilTarget =>
    change { s with dirty := true }.getHostilTarget W = s.getHostilTarget W
    have hupdate : { s with dirty := true }.update exactArith = s.update exactArith := by
      rcases h with hdirty | horder
      · congr
        exact hdirty.symm
      · rw [update_inOrder horder, update_inOrder (s := { s with dirty := true }) horder]
    unfold getHostilTarget
    rw [hupdate]
  | _ => rfl

theorem Consistent.change (hs : Consistent s) {e : Surroundings U ℚ exactArith × Change U} (he : Legal s e) :
    Consistent (s.change e) := by
  obtain ⟨W, c⟩ := e
  cases c with
  | newReference u x =>
    obtain ⟨hnew, hlive, -⟩ := hs.newReference (A := exactArith) he
    exact (hnew.consistent.changeThreat W hlive x).consistent
  | changeThreat r x => exact (hs.changeThreat W he x).consistent
  | setOnlineOfflineState r b => exact (hs.setOnlineOfflineState he b).consistent
  | updateOnlineStatus r => exact (hs.updateOnlineStatus W he).consistent
  | removeReference r => exact (hs.removeReference he).1
  | forceVictim r => exact ⟨hs.distinct, hs.online_iff, fun _ hv => Option.some.inj hv ▸ he, hs.allocated⟩
  | getHostilTarget => exact hs.getHostilTarget W
  | clearReferences => exact .clearReferences s

/-- An orderly change keeps the list dirty or in order. -/
theorem Ready.change [DecidableEq U] (hs : Consistent s) (h : Ready s) {e : Surroundings U ℚ exactArith × Change U}
    (hlegal : Legal s e) (he : Orderly s e) : Ready (s.change e) := by
  obtain ⟨W, c⟩ := e
  cases c with
  | newReference u x => exact h.newReference W hs u x he
  | changeThreat r x => exact h.changeThreat W hs hlegal x he
  | setOnlineOfflineState r b =>
    refine h.setOnlineOfflineState r b fun hb => ?_
    subst hb
    exact he
  | updateOnlineStatus r => exact h.updateOnlineStatus W r he
  | removeReference r => exact h.removeReference r
  | forceVictim r => exact h
  | getHostilTarget => exact h.getHostilTarget
  | clearReferences => exact .inr .nil

/-- **Lazy sorting does not matter** as long as every change raises the flag or keeps the order: the lists and the
victims are those of a version that sorts before every selection. -/
theorem lazy_sorting [DecidableEq U] (s₀ : ThreatManager U ℚ) (hs : Consistent s₀) (h : Ready s₀)
    (es : List (Surroundings U ℚ exactArith × Change U))
    (hes : AllSteps change (fun s e => Legal s e ∧ Orderly s e) s₀ es) :
    ∀ pre, pre <+: es → run sortedChange s₀ pre = run change s₀ pre := by
  rintro pre ⟨post, rfl⟩
  induction pre generalizing s₀ with
  | nil => rfl
  | cons e pre ih =>
    rw [run_cons, run_cons, sortedChange_eq h]
    exact ih (s₀.change e) (hs.change hes.1.1) (h.change hs hes.1.1 hes.1.2) hes.2

/-! ## Two units -/

/-- One of two units goes and the other one is selected. -/
def alone : List (Surroundings Bool ℚ exactArith × Change Bool) :=
  [(nearby, .changeThreat 0 95), (nearby, .changeThreat 1 100), (nearby, .setOnlineOfflineState 1 false),
    (nearby, .getHostilTarget)]

/-- The victim gains before the other one comes back, behind it. -/
def overtaken : List (Surroundings Bool ℚ exactArith × Change Bool) :=
  alone ++ [(nearby, .changeThreat 0 10), (nearby, .setOnlineOfflineState 1 true), (nearby, .getHostilTarget)]

theorem lazy_sorting_overtaken : run sortedChange twoReferences overtaken = run change twoReferences overtaken := by
  have hready : Ready twoReferences := .inr (by simp [InOrder, threats, twoReferences])
  have hsteps : AllSteps change (fun s e => Legal s e ∧ Orderly s e) twoReferences overtaken := by
    refine ⟨⟨?_, .inr (.inl (.inr ?_))⟩, ⟨?_, .inl ?_⟩, ⟨?_, .inl ?_⟩, ⟨trivial, .inl ?_⟩, ⟨?_, .inr (.inr ?_)⟩,
      ⟨?_, .inr fun _ => .inr ?_⟩, ⟨trivial, .inr trivial⟩, trivial⟩
    rotate_left 8
    · rw [if_pos (by decide +kernel)]
      -- the victim is alone in the list
      have hlist : (run change twoReferences alone).online = [0] := by decide +kernel
      refine fun q => ⟨fun hsub => ?_, fun hsub => ?_⟩ <;>
      · change _ <+ (run change twoReferences alone).online at hsub
        rw [hlist] at hsub
        exact absurd hsub.length_le (Nat.not_succ_le_self 1)
    all_goals
      first
        | decide +kernel
        | exact mem_append_left _ (by decide +kernel)
        | exact mem_append_right _ (by decide +kernel)
  exact lazy_sorting twoReferences twoReferences_consistent hready overtaken hsteps overtaken (prefix_refl _)

def comeback : List (Surroundings Bool ℚ exactArith × Change Bool) :=
  alone ++ [(nearby, .setOnlineOfflineState 1 true)]

theorem sortedChange_pair (W : Surroundings U ℚ exactArith) {r r' : Nat} (h : s.online = [r, r']) :
    s.sortedChange (W, .getHostilTarget) =
      let s := { s with
        online := if exactArith.gt (s.refs r').threat (s.refs r).threat then [r', r] else [r, r']
        dirty := false }
      s.setCurrentVictim (s.selectPreferred W s.currentVictim s.online) := by
  have hsort : s.online.mergeSort (fun a b => !exactArith.gt (s.refs b).threat (s.refs a).threat) =
      if exactArith.gt (s.refs r').threat (s.refs r).threat then [r', r] else [r, r'] := by
    rw [h]
    cases hgt : exactArith.gt (s.refs r').threat (s.refs r).threat <;> simp [mergeSort, hgt]
  unfold sortedChange getHostilTarget update
  rw [if_pos ⟨rfl, by simp [h]⟩, hsort]

/-- When the victim is of second choice, the other unit is taken; in order, it comes first and gives way to the
victim. -/
theorem comeback_out_of_order :
    let es := comeback ++ [({ nearby with isSecondChoice := fun u => !u }, .getHostilTarget)]
    (run change twoReferences es).currentVictim = some 1 ∧
      (run sortedChange twoReferences es).currentVictim = some 0 := by
  refine ⟨by decide +kernel, ?_⟩
  rw [run_append, run_cons, sortedChange_pair _ (by decide +kernel : _ = [0, 1])]
  decide +kernel

end Axium.Combat.ThreatManager
