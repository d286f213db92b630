import Axium.Combat.ThreatList
import Mathlib.Algebra.Field.Rat
import Mathlib.Tactic.Ring

/-!
# Taunts

A taunt lifts the threat of a unit to that of the victim and keeps the difference in the reference; when the
taunt fades the difference is taken away again. The threat is at any time the sum of what was added and this
modifier (`Balanced`). `tauntFadeOut` looks for the reference in the online container only.
-/

namespace Axium.Combat

open List

variable {sum : ℚ}

def exactArith : Arith ℚ where
  zero := 0
  add := (· + ·)
  sub := (· - ·)
  neg := (- ·)
  addPct x pct := x + x * pct / 100
  share x percent := x * percent / 100
  isZero x := x = 0
  isPos x := 0 < x
  isNeg x := x < 0
  isNonneg x := 0 ≤ x
  gt x y := y < x
  le11 x y := x ≤ 11 / 10 * y
  gt11 x y := 11 / 10 * y < x
  gt13 x y := 13 / 10 * y < x

namespace ThreatManager

variable {U : Type} {s t u : ThreatManager U ℚ} {r : Nat}

/-- The references that `s` has made keep their threats and modifiers. -/
structure Untouched (s t : ThreatManager U ℚ) : Prop where
  next : s.nextRef ≤ t.nextRef
  threat : ∀ k < s.nextRef, (t.refs k).threat = (s.refs k).threat
  temp : ∀ k < s.nextRef, (t.refs k).tempThreatModifier = (s.refs k).tempThreatModifier

theorem Untouched.refl (s : ThreatManager U ℚ) : Untouched s s := ⟨le_refl _, fun _ _ => rfl, fun _ _ => rfl⟩

theorem Untouched.trans (h : Untouched s t) (h' : Untouched t u) : Untouched s u :=
  ⟨h.next.trans h'.next, fun k hk => (h'.threat k (hk.trans_le h.next)).trans (h.threat k hk),
    fun k hk => (h'.temp k (hk.trans_le h.next)).trans (h.temp k hk)⟩

theorem untouched_of_refs (hrefs : t.refs = s.refs) (hnext : t.nextRef = s.nextRef) : Untouched s t :=
  ⟨hnext.ge, fun _ _ => by rw [hrefs], fun _ _ => by rw [hrefs]⟩

theorem untouched_modifyRef (s : ThreatManager U ℚ) (r : Nat) {f : HostileReference U ℚ → HostileReference U ℚ}
    (hthreat : ∀ ref, (f ref).threat = ref.threat)
    (htemp : ∀ ref, (f ref).tempThreatModifier = ref.tempThreatModifier) : Untouched s (s.modifyRef r f) := by
  refine ⟨le_refl _, fun k _ => ?_, fun k _ => ?_⟩ <;> by_cases hk : k = r
  · rw [hk, modifyRef_refs_self, hthreat]
  · rw [modifyRef_refs_of_ne s hk]
  · rw [hk, modifyRef_refs_self, htemp]
  · rw [modifyRef_refs_of_ne s hk]

theorem untouched_processThreatEvent (s : ThreatManager U ℚ) (e : ThreatEvent ℚ) :
    Untouched s (s.processThreatEvent exactArith e) := by
  cases e with
  | threatChange r value =>
    unfold processThreatEvent
    dsimp only
    split
    · exact untouched_of_refs rfl rfl
    · exact .refl s
  | onlineStatus r =>
    unfold processThreatEvent
    dsimp only
    split
    · exact untouched_of_refs rfl rfl
    · exact untouched_of_refs (dropVictim_refs s r) (dropVictim_nextRef s r)
  | removeFromList r =>
    unfold processThreatEvent
    dsimp only
    split <;> exact untouched_of_refs (dropVictim_refs s r) (dropVictim_nextRef s r)

theorem untouched_setOnlineOfflineState (s : ThreatManager U ℚ) (r : Nat) (b : Bool) :
    Untouched s (s.setOnlineOfflineState exactArith r b) := by
  unfold setOnlineOfflineState
  split
  · exact .refl s
  · have hstate := untouched_modifyRef s r (f := fun ref => { ref with online := b }) (fun _ => rfl) fun _ => rfl
    refine hstate.trans (.trans ?_ (untouched_processThreatEvent _ _))
    split
    · exact .refl _
    · exact untouched_modifyRef _ r (fun _ => rfl) fun _ => rfl

section Frame

variable (W : Surroundings U ℚ exactArith)

theorem untouched_updateOnlineStatus (s : ThreatManager U ℚ) (r : Nat) :
    Untouched s (s.updateOnlineStatus W r) := by
  have hvalid := untouched_modifyRef s r
    (f := fun ref => { ref with valid := ref.valid || W.getUnit ref.unitGuid }) (fun _ => rfl) fun _ => rfl
  refine hvalid.trans (.trans ?_ (untouched_setOnlineOfflineState _ _ _))
  exact untouched_modifyRef _ r (fun _ => rfl) fun _ => rfl

def addTo (s : ThreatManager U ℚ) (r : Nat) (amount : ℚ) : ThreatManager U ℚ :=
  s.modifyRef r fun ref => { ref with threat := ref.threat + amount }

theorem untouched_addTo_zero (s : ThreatManager U ℚ) (r : Nat) : Untouched s (s.addTo r 0) :=
  untouched_modifyRef s r (fun ref => add_zero ref.threat) fun _ => rfl

theorem untouched_changeThreat (s : ThreatManager U ℚ) (r : Nat) (amount : ℚ) :
    Untouched (s.addTo r amount) (s.changeThreat W r amount) := by
  have honline : Untouched (s.addTo r amount) (if ((s.addTo r amount).refs r).online = true then s.addTo r amount
      else (s.addTo r amount).updateOnlineStatus W r) := by
    split
    · exact .refl _
    · exact untouched_updateOnlineStatus W _ r
  have hevent (t : ThreatManager U ℚ) : Untouched t
      (if exactArith.isZero amount = true then t else t.processThreatEvent exactArith (.threatChange r amount)) := by
    split
    · exact .refl _
    · exact untouched_processThreatEvent _ _
  exact honline.trans (hevent _)

theorem untouched_newReference [DecidableEq U] (s : ThreatManager U ℚ) (o : U) :
    Untouched s (s.newReference exactArith o) := by
  have hrefs {k : Nat} (hk : k < s.nextRef) : (s.newReference exactArith o).refs k = s.refs k :=
    Function.update_of_ne (ne_of_lt hk) _ _
  exact ⟨Nat.le_succ _, fun k hk => by rw [hrefs hk], fun k hk => by rw [hrefs hk]⟩

/-- The threat of the reference, which is one of the creature's, is `sum` and its modifier. -/
structure Balanced (r : Nat) (sum : ℚ) (s : ThreatManager U ℚ) : Prop where
  consistent : Consistent s
  live : Live s r
  threat : (s.refs r).threat = sum + (s.refs r).tempThreatModifier

theorem Balanced.untouched (h : Balanced r sum s) (ht : Evolves s t) (hsame : Untouched s t) :
    Balanced r sum t := by
  have hlt := h.consistent.allocated r h.live
  exact ⟨ht.consistent, ht.live r h.live, by rw [hsame.threat r hlt, hsame.temp r hlt, h.threat]⟩

theorem addTo_threat (s : ThreatManager U ℚ) (r k : Nat) (amount : ℚ) :
    ((s.addTo r amount).refs k).threat = (s.refs k).threat + (if r = k then amount else 0) ∧
      ((s.addTo r amount).refs k).tempThreatModifier = (s.refs k).tempThreatModifier := by
  unfold addTo
  by_cases h : r = k
  · rw [if_pos h, h, modifyRef_refs_self]
    exact ⟨rfl, rfl⟩
  · rw [if_neg h, modifyRef_refs_of_ne s (Ne.symm h), add_zero]
    exact ⟨rfl, rfl⟩

def setTemp (s : ThreatManager U ℚ) (r : Nat) (temp : ℚ) : ThreatManager U ℚ :=
  s.modifyRef r fun ref => { ref with tempThreatModifier := temp }

theorem Balanced.setTemp (h : Balanced r sum s) (k : Nat) (temp : ℚ) :
    Balanced r (sum + if k = r then (s.refs r).tempThreatModifier - temp else 0) (s.setTemp k temp) ∧
      ((s.setTemp r temp).refs r).tempThreatModifier = temp := by
  have hsame : SameLists s (s.setTemp k temp) := sameLists_modifyRef s k (fun _ => rfl) fun _ => rfl
  have hevolves := hsame.evolves h.consistent
  refine ⟨⟨hevolves.consistent, hevolves.live r h.live, ?_⟩, by rw [ThreatManager.setTemp, modifyRef_refs_self]⟩
  unfold ThreatManager.setTemp
  by_cases hk : k = r
  · rw [if_pos hk, hk, modifyRef_refs_self]
    exact h.threat.trans (by ring)
  · rw [if_neg hk, modifyRef_refs_of_ne s (Ne.symm hk), add_zero]
    exact h.threat

variable [DecidableEq U] (hzero : ∀ o, W.totalThreatModifier o 0 = 0)
include hzero

theorem untouched_refAddThreat_of (hs : Consistent s) (hr : Live s r) (amount : ℚ)
    (howner : ∀ o, W.charmerOrOwner (s.refs r).unitGuid = some o → ∀ t, Consistent t →
      Untouched t (addThreatTo W o 0 t)) : Untouched (s.addTo r amount) (s.refAddThreat W r amount) := by
  have hunit := (hs.changeThreat W hr amount).unit_eq hr
  have hconsistent := (hs.changeThreat W hr amount).consistent
  refine (untouched_changeThreat W s r amount).trans ?_
  unfold refAddThreat
  dsimp only
  rw [hunit]
  split
  · cases ho : W.charmerOrOwner (s.refs r).unitGuid with
    | none => exact .refl _
    | some o =>
      dsimp only
      rw [ownerThreat_eq]
      split
      · have hmodifier : W.totalThreatModifier o exactArith.zero = 0 := hzero o
        rw [hmodifier]
        exact howner o ho _ hconsistent
      · exact .refl _
  · exact .refl _

theorem untouched_addThreatTo (hs : Consistent s) (o : U) : Untouched s (addThreatTo W o 0 s) := by
  induction hn : W.rank o using Nat.strongRecOn generalizing o s with
  | _ n ih =>
    have howner (o' : U) (ho : W.charmerOrOwner o = some o') (t : ThreatManager U ℚ) (ht : Consistent t) :
        Untouched t (addThreatTo W o' 0 t) := ih (W.rank o') (hn ▸ W.acyclic ho) ht o' rfl
    rw [addThreatTo_eq W o 0 hs]
    cases hf : (s.getReferenceByTarget s.online o).or (s.getReferenceByTarget s.offline o) with
    | some r =>
      obtain ⟨hr, ho⟩ := found_some hf
      exact (untouched_addTo_zero s r).trans (untouched_refAddThreat_of W hzero hs hr 0 (ho ▸ howner))
    | none =>
      obtain ⟨hnew, hr, ho⟩ := hs.newReference (A := exactArith) (found_none hf)
      have hadd := untouched_refAddThreat_of W hzero hnew.consistent hr 0 fun o' ho' => howner o' (by rw [← ho', ho])
      refine (untouched_newReference s o).trans ((untouched_addTo_zero _ _).trans (hadd.trans ?_))
      dsimp only
      split
      · exact untouched_setOnlineOfflineState _ _ _
      · exact .refl _

theorem untouched_refAddThreat (hs : Consistent s) (hr : Live s r) (amount : ℚ) :
    Untouched (s.addTo r amount) (s.refAddThreat W r amount) :=
  untouched_refAddThreat_of W hzero hs hr amount fun o _ _ ht => untouched_addThreatTo W hzero ht o

end Frame

/-! ## Runs -/

variable [DecidableEq U]

/-- What happens to the references: an amount is added by `HostileReference::addThreat`, a taunt comes or fades,
a reference changes its container, and a victim is selected. -/
inductive TauntEvent (U : Type) where
  | addThreat (r : Nat) (amount : ℚ)
  | tauntApply (u : U)
  | tauntFadeOut (u : U)
  | setOnlineOfflineState (r : Nat) (isOnline : Bool)
  | updateOnlineStatus (r : Nat)
  | getHostilTarget

def tauntStep (s : ThreatManager U ℚ) (e : Surroundings U ℚ exactArith × TauntEvent U) : ThreatManager U ℚ :=
  match e.2 with
  | .addThreat r amount => s.refAddThreat e.1 r amount
  | .tauntApply u => s.tauntApply e.1 u
  | .tauntFadeOut u => s.tauntFadeOut e.1 u
  | .setOnlineOfflineState r isOnline => s.setOnlineOfflineState exactArith r isOnline
  | .updateOnlineStatus r => s.updateOnlineStatus e.1 r
  | .getHostilTarget => s.getHostilTarget e.1

def Sensible (s : ThreatManager U ℚ) (e : Surroundings U ℚ exactArith × TauntEvent U) : Prop :=
  (∀ o, e.1.totalThreatModifier o 0 = 0) ∧
    match e.2 with
    | .addThreat r _ | .setOnlineOfflineState r _ | .updateOnlineStatus r => Live s r
    | _ => True

def TauntEvent.amount (r : Nat) : TauntEvent U → ℚ
  | .addThreat r' amount => if r' = r then amount else 0
  | _ => 0

/-- What `addThreat` has added to the threat of the reference. -/
def added (r : Nat) (es : List (Surroundings U ℚ exactArith × TauntEvent U)) : ℚ :=
  (es.map fun e => e.2.amount r).sum

theorem Balanced.refAddThreat (h : Balanced r sum s) {W : Surroundings U ℚ exactArith}
    (hzero : ∀ o, W.totalThreatModifier o 0 = 0) {r' : Nat} (hr : Live s r') (amount : ℚ) :
    Balanced r (sum + if r' = r then amount else 0) (s.refAddThreat W r' amount) ∧
      ((s.refAddThreat W r' amount).refs r).tempThreatModifier = (s.refs r).tempThreatModifier := by
  have hlt := h.consistent.allocated r h.live
  have hsame := untouched_refAddThreat W hzero h.consistent hr amount
  have hevolves := h.consistent.refAddThreat W hr amount
  obtain ⟨hthreat, htemp⟩ := addTo_threat s r' r amount
  refine ⟨⟨hevolves.consistent, hevolves.live r h.live, ?_⟩, (hsame.temp r hlt).trans htemp⟩
  rw [hsame.threat r hlt, hsame.temp r hlt, hthreat, htemp, h.threat]
  ring

section Step

variable {sum : ℚ} {W : Surroundings U ℚ exactArith} (hzero : ∀ o, W.totalThreatModifier o 0 = 0)
include hzero

theorem Balanced.addTempThreat (h : Balanced r sum s) {k : Nat} (hk : Live s k)
    (htemp : (s.refs k).tempThreatModifier = 0) (threat : ℚ) : Balanced r sum (s.addTempThreat W k threat) := by
  have hset := (h.setTemp k threat).1
  have hlive : Live (s.setTemp k threat) k := hk
  unfold ThreatManager.addTempThreat
  split
  · next hthreat =>
    have hthreat : threat = 0 := of_decide_eq_true hthreat
    have hsum : sum + (if k = r then (s.refs r).tempThreatModifier - threat else 0) = sum := by
      split
      · next heq => rw [← heq, htemp, hthreat, sub_zero, add_zero]
      · exact add_zero sum
    rwa [hsum] at hset
  · have hadd := (hset.refAddThreat hzero hlive threat).1
    have hsum : sum + (if k = r then (s.refs r).tempThreatModifier - threat else 0) +
        (if k = r then threat else 0) = sum := by
      split
      · next heq =>
        rw [← heq, htemp]
        ring
      · ring
    rwa [hsum] at hadd

theorem Balanced.resetTempThreat (h : Balanced r sum s) {k : Nat} (hk : Live s k) :
    Balanced r sum (s.resetTempThreat W k) ∧
      ((s.resetTempThreat W r).refs r).tempThreatModifier = 0 := by
  unfold ThreatManager.resetTempThreat
  constructor
  · split
    · exact h
    · obtain ⟨hadd, htemp⟩ := h.refAddThreat hzero hk (-(s.refs k).tempThreatModifier)
      have hset := (hadd.setTemp k 0).1
      rw [htemp] at hset
      have hsum : sum + (if k = r then -(s.refs k).tempThreatModifier else 0) +
          (if k = r then (s.refs r).tempThreatModifier - 0 else 0) = sum := by
        split
        · next heq =>
          rw [heq]
          ring
        · ring
      rwa [hsum] at hset
  · split
    · next hzero' => exact of_decide_eq_true hzero'
    · exact ((h.refAddThreat hzero h.live (-(s.refs r).tempThreatModifier)).1.setTemp r 0).2

theorem Balanced.tauntApply (h : Balanced r sum s) (u : U) : Balanced r sum (s.tauntApply W u) := by
  unfold ThreatManager.tauntApply
  cases hf : s.getReferenceByTarget s.online u with
  | none => exact h
  | some k =>
    cases s.currentVictim with
    | none => exact h
    | some v =>
      dsimp only
      split
      · next hcond =>
        exact h.addTempThreat hzero (mem_append_left _ (getReferenceByTarget_some hf).1)
          (of_decide_eq_true hcond.2) _
      · exact h

theorem Balanced.tauntFadeOut (h : Balanced r sum s) (u : U) : Balanced r sum (s.tauntFadeOut W u) := by
  unfold ThreatManager.tauntFadeOut
  cases hf : s.getReferenceByTarget s.online u with
  | none => exact h
  | some k => exact (h.resetTempThreat hzero (mem_append_left _ (getReferenceByTarget_some hf).1)).1

end Step

omit [DecidableEq U] in
theorem Balanced.getHostilTarget (h : Balanced r sum s) (W : Surroundings U ℚ exactArith) :
    Balanced r sum (s.getHostilTarget W) := by
  have hrefs : (s.getHostilTarget W).refs = s.refs := by
    change (s.update exactArith).refs = s.refs
    unfold update
    split <;> rfl
  refine ⟨h.consistent.getHostilTarget W, (h.consistent.update (A := exactArith)).live r h.live, ?_⟩
  rw [hrefs]
  exact h.threat

theorem Balanced.tauntStep (h : Balanced r sum s) {e : Surroundings U ℚ exactArith × TauntEvent U}
    (he : Sensible s e) : Balanced r (sum + e.2.amount r) (s.tauntStep e) := by
  obtain ⟨W, e⟩ := e
  obtain ⟨hzero, hlive⟩ := he
  have hsum : sum + 0 = sum := add_zero sum
  cases e with
  | addThreat k amount => exact (h.refAddThreat hzero hlive amount).1
  | tauntApply u => exact hsum.symm ▸ h.tauntApply hzero u
  | tauntFadeOut u => exact hsum.symm ▸ h.tauntFadeOut hzero u
  | setOnlineOfflineState k isOnline =>
    exact hsum.symm ▸ h.untouched (h.consistent.setOnlineOfflineState hlive isOnline)
      (untouched_setOnlineOfflineState s k isOnline)
  | updateOnlineStatus k =>
    exact hsum.symm ▸ h.untouched (h.consistent.updateOnlineStatus W hlive) (untouched_updateOnlineStatus W s k)
  | getHostilTarget => exact hsum.symm ▸ h.getHostilTarget W

/-- Over a run the threat grows by what was added, taunts apart. -/
theorem balanced_run (h : Balanced r sum s) {es : List (Surroundings U ℚ exactArith × TauntEvent U)}
    (hes : Run.AllSteps tauntStep Sensible s es) : Balanced r (sum + added r es) (Run.run tauntStep s es) := by
  induction es generalizing s sum with
  | nil => simpa [added] using h
  | cons e es ih =>
    have hsum : added r (e :: es) = e.2.amount r + added r es := sum_cons
    rw [hsum, ← add_assoc]
    exact ih (h.tauntStep hes.1) hes.2

theorem getReferenceByTarget_eq (hs : Consistent s) (hr : Live s r) :
    s.getReferenceByTarget s.online (s.refs r).unitGuid = if r ∈ s.online then some r else none := by
  cases hf : s.getReferenceByTarget s.online (s.refs r).unitGuid with
  | some k =>
    obtain ⟨hk, hunit⟩ := getReferenceByTarget_some hf
    obtain rfl := inj_on_of_nodup_map hs.distinct (mem_append_left _ hk) hr hunit
    rw [if_pos hk]
  | none =>
    have hnot : r ∉ s.online := fun hmem => by simpa using find?_eq_none.1 hf r hmem
    rw [if_neg hnot]

/-- **Taunts are neutral.** A reference has, after any events and a fading of the taunt of its unit, the threat
that was added to it and no modifier, if and only if it is in the online container when the taunt fades or has no
modifier then. -/
theorem taunt_neutral_iff (s₀ : ThreatManager U ℚ) (hs : Consistent s₀) (r : Nat) (hr : Live s₀ r)
    (hthreat : (s₀.refs r).threat = 0) (htemp : (s₀.refs r).tempThreatModifier = 0)
    (es : List (Surroundings U ℚ exactArith × TauntEvent U)) (hes : Run.AllSteps tauntStep Sensible s₀ es)
    (W : Surroundings U ℚ exactArith) (hzero : ∀ o, W.totalThreatModifier o 0 = 0) :
    let s := Run.run tauntStep s₀ es
    let t := s.tauntFadeOut W (s.refs r).unitGuid
    ((t.refs r).threat = added r es ∧ (t.refs r).tempThreatModifier = 0) ↔
      r ∈ s.online ∨ (s.refs r).tempThreatModifier = 0 := by
  intro s t
  have hstart : Balanced r 0 s₀ := ⟨hs, hr, by rw [hthreat, htemp, add_zero]⟩
  have h : Balanced r (added r es) s := by simpa using balanced_run hstart hes
  have ht : Balanced r (added r es) t := h.tauntFadeOut hzero _
  have hsettled : (t.refs r).threat = added r es ↔ (t.refs r).tempThreatModifier = 0 := by
    rw [ht.threat, add_eq_left]
  rw [hsettled, and_self]
  have hfound := getReferenceByTarget_eq h.consistent h.live
  by_cases hon : r ∈ s.online
  · rw [if_pos hon] at hfound
    have hreset : t = s.resetTempThreat W r := by
      change s.tauntFadeOut W (s.refs r).unitGuid = _
      rw [ThreatManager.tauntFadeOut, hfound]
    rw [hreset]
    exact iff_of_true (h.resetTempThreat hzero h.live).2 (.inl hon)
  · rw [if_neg hon] at hfound
    have hsame : t = s := by
      change s.tauntFadeOut W (s.refs r).unitGuid = _
      rw [ThreatManager.tauntFadeOut, hfound]
    rw [hsame, or_iff_right hon]

def nearby : Surroundings Bool ℚ exactArith where
  self := true
  isGameMaster _ := false
  isAlive _ := true
  isInMap _ := true
  inSamePhase _ := true
  inFlight _ := false
  isInAccessiblePlace _ := true
  isWithinCombatRange _ := true
  getUnit _ := true
  isSecondChoice _ := false
  canCreatureAttack _ := true
  isWithinMeleeRange _ := true
  reducedThreatPercent _ := 0
  misdirectionTarget _ := none
  glyphOfVigilance _ := 0
  charmerOrOwner _ := none
  rank _ := 0
  acyclic h := by cases h
  totalThreatModifier _ x := x
  modifier_zero _ := rfl

def twoReferences : ThreatManager Bool ℚ where
  refs k :=
    { unitGuid := k = 1
      threat := 0
      tempThreatModifier := 0
      online := true
      accessible := true
      valid := true }
  nextRef := 2
  online := [0, 1]
  offline := []
  dirty := false
  currentVictim := some 1

theorem twoReferences_consistent : Consistent twoReferences where
  distinct := by decide
  online_iff r hr := iff_of_true (by rwa [Live, twoReferences, append_nil] at hr) rfl
  victim r hr := by
    obtain rfl : 1 = r := Option.some.inj hr
    decide
  allocated := (by decide : ∀ r ∈ [0, 1], r < 2)

def taunted : List (Surroundings Bool ℚ exactArith × TauntEvent Bool) :=
  [(nearby, .addThreat 0 10), (nearby, .addThreat 1 100), (nearby, .tauntApply false)]

theorem taunt_neutral_iff_online :
    let s := Run.run tauntStep twoReferences taunted
    let t := s.tauntFadeOut nearby (s.refs 0).unitGuid
    (t.refs 0).threat = added 0 taunted ∧ (t.refs 0).tempThreatModifier = 0 := by
  have hlive : Live twoReferences 0 := mem_cons_self
  have hsteps : Run.AllSteps tauntStep Sensible twoReferences taunted := by
    refine ⟨⟨fun _ => rfl, hlive⟩, ⟨fun _ => rfl, ?_⟩, ⟨fun _ => rfl, trivial⟩, trivial⟩
    have hmem : 1 ∈ (tauntStep twoReferences (nearby, .addThreat 0 10)).online := by decide +kernel
    exact mem_append_left _ hmem
  have hon : 0 ∈ (Run.run tauntStep twoReferences taunted).online := by decide +kernel
  exact (taunt_neutral_iff twoReferences twoReferences_consistent 0 hlive rfl rfl taunted hsteps nearby
    fun _ => rfl).2 (.inl hon)

/-- The reference of the taunter is offline when the taunt fades, and keeps what the taunt gave. -/
theorem not_neutral_offline :
    let es := taunted ++ [(nearby, .setOnlineOfflineState 0 false)]
    let t := (Run.run tauntStep twoReferences es).tauntFadeOut nearby false
    added 0 es = 10 ∧ (t.refs 0).threat = 100 ∧ (t.refs 0).tempThreatModifier = 90 := by
  decide +kernel

end ThreatManager

end Axium.Combat
