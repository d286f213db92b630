import Axium.Lib.Tally
import Axium.Reputation.ReputationMgr

/-!
# The bookkeeping of reputations

The counters of a `ReputationMgr` are the numbers of visible, honored, revered and exalted factions modulo 256,
and every reputation is within its bounds, in every state of every run (`Tallied`): a call replaces the state of
one faction, and the counters move by the difference (`Tallied.replace`).

That a hostile faction is at war, and that an incremental change is the clamp of the sum, needs more. A player
can switch the war off whatever his rank is, `Initialize` takes the war flag of a hostile faction from its
entry, and the sum of an incremental change is formed in 32 bits before it is clamped.
-/

namespace Axium.Reputation

open List FactionStore Option

variable {e : FactionEntry}

/-! ## Flags -/

theorem hasFlag_or (f : BitVec 8) (a b : Nat) :
    hasFlag (f ||| BitVec.ofNat 8 a) b = (hasFlag f b || hasFlag (BitVec.ofNat 8 a) b) := by
  unfold hasFlag
  rw [BitVec.and_or_distrib_right]
  generalize f &&& BitVec.ofNat 8 b = x
  generalize BitVec.ofNat 8 a &&& BitVec.ofNat 8 b = y
  rw [Bool.eq_iff_iff]
  simp only [bne_iff_ne, Bool.or_eq_true, ne_eq]
  rw [← Decidable.not_and_iff_not_or_not]
  exact not_congr BitVec.or_eq_zero_iff

theorem hasFlag_atWar_off : ∀ f : BitVec 8,
    hasFlag (f &&& ~~~BitVec.ofNat 8 flagAtWar) flagVisible = hasFlag f flagVisible ∧
      hasFlag (f &&& ~~~BitVec.ofNat 8 flagAtWar) flagPeaceForced = hasFlag f flagPeaceForced := by
  decide

theorem hasFlag_inactive_off : ∀ f : BitVec 8,
    hasFlag (f &&& ~~~BitVec.ofNat 8 flagInactive) flagVisible = hasFlag f flagVisible ∧
      hasFlag (f &&& ~~~BitVec.ofNat 8 flagInactive) flagPeaceForced = hasFlag f flagPeaceForced ∧
      hasFlag (f &&& ~~~BitVec.ofNat 8 flagInactive) flagAtWar = hasFlag f flagAtWar := by
  decide

namespace FactionState

variable (f : FactionState) (on : Bool)

structure SameStanding (f g : FactionState) : Prop where
  id : g.id = f.id
  standing : g.standing = f.standing
  peaceForced : hasFlag g.flags flagPeaceForced = hasFlag f.flags flagPeaceForced

theorem SameStanding.refl : SameStanding f f := ⟨rfl, rfl, rfl⟩

theorem SameStanding.trans {f g h : FactionState} (hfg : SameStanding f g) (hgh : SameStanding g h) :
    SameStanding f h :=
  ⟨hgh.id.trans hfg.id, hgh.standing.trans hfg.standing, hgh.peaceForced.trans hfg.peaceForced⟩

theorem setAtWar_spec : SameStanding f (f.setAtWar on) ∧
    hasFlag (f.setAtWar on).flags flagVisible = hasFlag f.flags flagVisible := by
  unfold setAtWar
  split
  · exact ⟨.refl f, rfl⟩
  split
  · exact ⟨.refl f, rfl⟩
  split
  · refine ⟨⟨rfl, rfl, ?_⟩, ?_⟩
    · rw [hasFlag_or, show hasFlag (BitVec.ofNat 8 flagAtWar) flagPeaceForced = false by decide, Bool.or_false]
    · rw [hasFlag_or, show hasFlag (BitVec.ofNat 8 flagAtWar) flagVisible = false by decide, Bool.or_false]
  · exact ⟨⟨rfl, rfl, (hasFlag_atWar_off f.flags).2⟩, (hasFlag_atWar_off f.flags).1⟩

theorem atWar_setAtWar_true (hpeace : hasFlag f.flags flagPeaceForced = false) :
    hasFlag (f.setAtWar true).flags flagAtWar = true := by
  unfold setAtWar
  rw [if_neg (by simp [hpeace])]
  split
  · rename_i h
    exact h
  · rw [if_pos rfl, hasFlag_or, show hasFlag (BitVec.ofNat 8 flagAtWar) flagAtWar = true by decide,
      Bool.or_true]

theorem setInactive_spec : SameStanding f (f.setInactive on) ∧
    hasFlag (f.setInactive on).flags flagVisible = hasFlag f.flags flagVisible ∧
    hasFlag (f.setInactive on).flags flagAtWar = hasFlag f.flags flagAtWar := by
  unfold setInactive
  split
  · exact ⟨.refl f, rfl, rfl⟩
  split
  · exact ⟨.refl f, rfl, rfl⟩
  split
  · refine ⟨⟨rfl, rfl, ?_⟩, ?_, ?_⟩
    · rw [hasFlag_or, show hasFlag (BitVec.ofNat 8 flagInactive) flagPeaceForced = false by decide,
        Bool.or_false]
    · rw [hasFlag_or, show hasFlag (BitVec.ofNat 8 flagInactive) flagVisible = false by decide, Bool.or_false]
    · rw [hasFlag_or, show hasFlag (BitVec.ofNat 8 flagInactive) flagAtWar = false by decide, Bool.or_false]
  · obtain ⟨hvisible, hpeace, hwar⟩ := hasFlag_inactive_off f.flags
    exact ⟨⟨rfl, rfl, hpeace⟩, hvisible, hwar⟩

end FactionState

/-! ## Counters -/

/-- A counter after one faction has changed from `p` to `q`. -/
def bump (p q : Bool) (c : UInt8) : UInt8 :=
  if q then (if p then c - 1 else c) + 1 else if p then c - 1 else c

@[simp] theorem bump_self (p : Bool) (c : UInt8) : bump p p c = c := by
  cases p with
  | false => rfl
  | true => exact UInt8.sub_add_cancel c 1

theorem bump_bump (p q r : Bool) (c : UInt8) : bump q r (bump p q c) = bump p r c := by
  cases p <;> cases q <;> cases r <;> simp [bump]

theorem ofNat_bump {a a' : Nat} {p q : Bool} (h : a' + (if p then 1 else 0) = a + if q then 1 else 0) :
    UInt8.ofNat a' = bump p q (UInt8.ofNat a) := by
  have hofNat := congrArg UInt8.ofNat h
  cases p <;> cases q <;> simp [bump] at hofNat ⊢
  · exact hofNat
  · exact hofNat
  · rw [← hofNat, UInt8.add_sub_cancel]
  · exact hofNat

section Tally

variable (P : Player)

def seen (p : FactionEntry → FactionState → Bool) (s : ReputationMgr) (e : FactionEntry) : Bool :=
  match s.factions e.reputationListID with
  | none => false
  | some f => p e f

/-- The rank of a faction is at least `r`. -/
def ranked (r : ReputationRank) (e : FactionEntry) (f : FactionState) : Bool :=
  (reputationToRank (getBaseReputation P e + f.standing)).atLeast r

def isVisible (_ : FactionEntry) (f : FactionState) : Bool := hasFlag f.flags flagVisible

def Bounded (e : FactionEntry) (f : FactionState) : Prop :=
  reputationBottom ≤ getBaseReputation P e + f.standing ∧ getBaseReputation P e + f.standing ≤ reputationCap

/-- The manager keeps factions of the list `l`, with reputations within the bounds, and its counters count
them modulo 256. -/
structure Tallied (l : List FactionEntry) (s : ReputationMgr) : Prop where
  keys : ∀ list f, s.factions list = some f → ∃ e ∈ l, e.reputationListID = list
  bounded : ∀ e ∈ l, ∀ f, s.factions e.reputationListID = some f → Bounded P e f
  visible : s.visibleFactionCount = UInt8.ofNat (l.countP (seen isVisible s))
  honored : s.honoredFactionCount = UInt8.ofNat (l.countP (seen (ranked P .honored) s))
  revered : s.reveredFactionCount = UInt8.ofNat (l.countP (seen (ranked P .revered) s))
  exalted : s.exaltedFactionCount = UInt8.ofNat (l.countP (seen (ranked P .exalted) s))

variable {P} {l : List FactionEntry} {s t : ReputationMgr} {e : FactionEntry} {f f' : FactionState}

theorem count_replace (hl : (l.map (·.reputationListID)).Nodup) (he : e ∈ l)
    (hf : s.factions e.reputationListID = some f)
    (hfactions : t.factions = Function.update s.factions e.reputationListID (some f'))
    (p : FactionEntry → FactionState → Bool) :
    UInt8.ofNat (l.countP (seen p t)) = bump (p e f) (p e f') (UInt8.ofNat (l.countP (seen p s))) := by
  have hself : seen p s e = p e f ∧ seen p t e = p e f' := by
    rw [seen, seen, hf, hfactions, Function.update_self]
    exact ⟨rfl, rfl⟩
  have hother (b : FactionEntry) (_ : b ∈ l) (hne : b.reputationListID ≠ e.reputationListID) :
      seen p t b = seen p s b := by
    rw [seen, seen, hfactions, Function.update_of_ne hne]
  have hcount := Tally.countP_change hl he hother
  rw [hself.1, hself.2] at hcount
  exact ofNat_bump hcount

theorem Tallied.replace (hl : (l.map (·.reputationListID)).Nodup) (h : Tallied P l s) (he : e ∈ l)
    (hf : s.factions e.reputationListID = some f) (hbounded : Bounded P e f')
    (hfactions : t.factions = Function.update s.factions e.reputationListID (some f'))
    (hvisible : t.visibleFactionCount = bump (isVisible e f) (isVisible e f') s.visibleFactionCount)
    (hhonored : t.honoredFactionCount =
      bump (ranked P .honored e f) (ranked P .honored e f') s.honoredFactionCount)
    (hrevered : t.reveredFactionCount =
      bump (ranked P .revered e f) (ranked P .revered e f') s.reveredFactionCount)
    (hexalted : t.exaltedFactionCount =
      bump (ranked P .exalted e f) (ranked P .exalted e f') s.exaltedFactionCount) : Tallied P l t where
  keys list g hg := by
    by_cases hlist : list = e.reputationListID
    · exact ⟨e, he, hlist.symm⟩
    · rw [hfactions, Function.update_of_ne hlist] at hg
      exact h.keys list g hg
  bounded b hb g hg := by
    by_cases hlist : b.reputationListID = e.reputationListID
    · rw [hfactions, hlist, Function.update_self] at hg
      have hbe : b = e := inj_on_of_nodup_map hl hb he hlist
      rw [hbe, ← some.inj hg]
      exact hbounded
    · rw [hfactions, Function.update_of_ne hlist] at hg
      exact h.bounded b hb g hg
  visible := by rw [count_replace hl he hf hfactions, ← h.visible, hvisible]
  honored := by rw [count_replace hl he hf hfactions, ← h.honored, hhonored]
  revered := by rw [count_replace hl he hf hfactions, ← h.revered, hrevered]
  exalted := by rw [count_replace hl he hf hfactions, ← h.exalted, hexalted]

theorem Tallied.insert (h : Tallied P l s)
    (hfresh : ∀ b ∈ l, b.reputationListID ≠ e.reputationListID) (hbounded : Bounded P e f')
    (hfactions : t.factions = Function.update s.factions e.reputationListID (some f'))
    (hvisible : t.visibleFactionCount = bump false (isVisible e f') s.visibleFactionCount)
    (hhonored : t.honoredFactionCount = bump false (ranked P .honored e f') s.honoredFactionCount)
    (hrevered : t.reveredFactionCount = bump false (ranked P .revered e f') s.reveredFactionCount)
    (hexalted : t.exaltedFactionCount = bump false (ranked P .exalted e f') s.exaltedFactionCount) :
    Tallied P (l ++ [e]) t := by
  have hcount (p : FactionEntry → FactionState → Bool) :
      UInt8.ofNat ((l ++ [e]).countP (seen p t)) = bump false (p e f') (UInt8.ofNat (l.countP (seen p s))) := by
    have hself : seen p t e = p e f' := by
      rw [seen, hfactions, Function.update_self]
    have hother : l.countP (seen p t) = l.countP (seen p s) := by
      apply countP_congr
      intro b hb
      rw [seen, seen, hfactions, Function.update_of_ne (hfresh b hb)]
    apply ofNat_bump
    rw [countP_append, hother, countP_singleton, hself]
    rfl
  exact
    { keys := fun list g hg => by
        by_cases hlist : list = e.reputationListID
        · exact ⟨e, mem_append_right _ mem_cons_self, hlist.symm⟩
        · rw [hfactions, Function.update_of_ne hlist] at hg
          obtain ⟨b, hb, heq⟩ := h.keys list g hg
          exact ⟨b, mem_append_left _ hb, heq⟩
      bounded := fun b hb g hg => by
        rcases mem_append.1 hb with hb | hb
        · rw [hfactions, Function.update_of_ne (hfresh b hb)] at hg
          exact h.bounded b hb g hg
        · rw [mem_singleton.1 hb, hfactions, Function.update_self] at hg
          rw [mem_singleton.1 hb, ← some.inj hg]
          exact hbounded
      visible := by rw [hcount, ← h.visible, hvisible]
      honored := by rw [hcount, ← h.honored, hhonored]
      revered := by rw [hcount, ← h.revered, hrevered]
      exalted := by rw [hcount, ← h.exalted, hexalted] }

end Tally

/-! ## The operations -/

namespace ReputationMgr

variable {P : Player} {s t u : ReputationMgr} {list : Int} {f g h : FactionState}

theorem setState_factions (s : ReputationMgr) (list : Int) (f : FactionState) :
    (s.setState list f).factions = Function.update s.factions list (some f) := rfl

structure Flagged (s t : ReputationMgr) (list : Int) (f g : FactionState) : Prop where
  factions : t.factions = Function.update s.factions list (some g)
  same : FactionState.SameStanding f g
  visible : t.visibleFactionCount =
    bump (hasFlag f.flags flagVisible) (hasFlag g.flags flagVisible) s.visibleFactionCount
  honored : t.honoredFactionCount = s.honoredFactionCount
  revered : t.reveredFactionCount = s.reveredFactionCount
  exalted : t.exaltedFactionCount = s.exaltedFactionCount

theorem Flagged.refl (hf : s.factions list = some f) : Flagged s s list f f where
  factions := by rw [← hf, Function.update_eq_self]
  same := .refl f
  visible := (bump_self _ _).symm
  honored := rfl
  revered := rfl
  exalted := rfl

theorem Flagged.trans (hst : Flagged s t list f g) (htu : Flagged t u list g h) : Flagged s u list f h where
  factions := by rw [htu.factions, hst.factions, Function.update_idem]
  same := hst.same.trans htu.same
  visible := by rw [htu.visible, hst.visible, bump_bump]
  honored := htu.honored.trans hst.honored
  revered := htu.revered.trans hst.revered
  exalted := htu.exalted.trans hst.exalted

theorem Flagged.state (hst : Flagged s t list f g) : t.factions list = some g := by
  rw [hst.factions, Function.update_self]

section

variable (hf : s.factions list = some f)
include hf

theorem modifyState_eq (k : FactionState → FactionState) : s.modifyState list k = s.setState list (k f) := by
  rw [modifyState, hf]

theorem flagged_modifyState {k : FactionState → FactionState} (hsame : FactionState.SameStanding f (k f))
    (hvisible : hasFlag (k f).flags flagVisible = hasFlag f.flags flagVisible) :
    Flagged s (s.modifyState list k) list f (k f) := by
  rw [modifyState_eq hf]
  exact
    { factions := rfl
      same := hsame
      visible := by rw [hvisible, bump_self]; rfl
      honored := rfl
      revered := rfl
      exalted := rfl }

theorem flagged_setAtWar (on : Bool) : Flagged s (s.modifyState list (·.setAtWar on)) list f (f.setAtWar on) :=
  flagged_modifyState hf (f.setAtWar_spec on).1 (f.setAtWar_spec on).2

theorem flagged_setInactive (on : Bool) :
    Flagged s (s.modifyState list (·.setInactive on)) list f (f.setInactive on) :=
  flagged_modifyState hf (f.setInactive_spec on).1 (f.setInactive_spec on).2.1

theorem flagged_setVisible :
    ∃ g, Flagged s (s.setVisible list) list f g ∧
      hasFlag g.flags flagAtWar = hasFlag f.flags flagAtWar := by
  unfold setVisible
  rw [hf]
  dsimp only
  split
  · exact ⟨f, .refl hf, rfl⟩
  split
  · exact ⟨f, .refl hf, rfl⟩
  · rename_i hvisible
    have hvisible : hasFlag f.flags flagVisible = false := by simpa using hvisible
    have hor (b : Nat) := hasFlag_or f.flags flagVisible b
    refine ⟨{ f with flags := f.flags ||| BitVec.ofNat 8 flagVisible }, ?_, ?_⟩
    · exact
        { factions := rfl
          same := ⟨rfl, rfl, by
            rw [hor, show hasFlag (BitVec.ofNat 8 flagVisible) flagPeaceForced = false by decide,
              Bool.or_false]⟩
          visible := by
            rw [hor, show hasFlag (BitVec.ofNat 8 flagVisible) flagVisible = true by decide, hvisible]
            rfl
          honored := rfl
          revered := rfl
          exalted := rfl }
    · rw [hor, show hasFlag (BitVec.ofNat 8 flagVisible) flagAtWar = false by decide, Bool.or_false]

end

theorem updateRankCounters_spec (s : ReputationMgr) (old new : ReputationRank) :
    (s.updateRankCounters old new).factions = s.factions ∧
      (s.updateRankCounters old new).visibleFactionCount = s.visibleFactionCount ∧
      (s.updateRankCounters old new).honoredFactionCount =
        bump (old.atLeast .honored) (new.atLeast .honored) s.honoredFactionCount ∧
      (s.updateRankCounters old new).reveredFactionCount =
        bump (old.atLeast .revered) (new.atLeast .revered) s.reveredFactionCount ∧
      (s.updateRankCounters old new).exaltedFactionCount =
        bump (old.atLeast .exalted) (new.atLeast .exalted) s.exaltedFactionCount := by
  unfold updateRankCounters bump
  cases old.atLeast .exalted <;> cases old.atLeast .revered <;> cases old.atLeast .honored <;>
    cases new.atLeast .exalted <;> cases new.atLeast .revered <;> cases new.atLeast .honored <;>
    exact ⟨rfl, rfl, rfl, rfl, rfl⟩

end ReputationMgr

/-! ## Arithmetic -/

theorem add32_eq {a b : Int} (h₁ : -2 ^ 31 ≤ a + b) (h₂ : a + b < 2 ^ 31) : add32 a b = a + b := by
  exact Int.bmod_eq_of_le_mul_two (by omega) (by omega)

theorem sub32_eq {a b : Int} (h₁ : -2 ^ 31 ≤ a - b) (h₂ : a - b < 2 ^ 31) : sub32 a b = a - b := by
  exact Int.bmod_eq_of_le_mul_two (by omega) (by omega)

theorem clampReputation_bounds (a : Int) :
    reputationBottom ≤ clampReputation a ∧ clampReputation a ≤ reputationCap := by
  unfold clampReputation reputationBottom reputationCap
  split
  · omega
  split <;> omega

theorem FactionStore.base_bounds (store : FactionStore) (P : Player)
    (he : e ∈ store.entries) :
    reputationBottom ≤ getBaseReputation P e ∧ getBaseReputation P e ≤ reputationCap := by
  unfold getBaseReputation
  cases hb : baseRep P e with
  | none => exact ⟨by decide, by decide⟩
  | some b =>
    obtain ⟨i, -, hi⟩ := mem_map.1 (mem_of_find?_eq_some hb)
    rw [← hi]
    exact store.bounded e he i

/-! ## A change of reputation -/

/-- A hostile faction is at war, unless peace is forced. -/
def War (P : Player) (e : FactionEntry) (f : FactionState) : Prop :=
  (reputationToRank (getBaseReputation P e + f.standing)).isHostile = true →
    hasFlag f.flags flagPeaceForced = false → hasFlag f.flags flagAtWar = true

section Operations

open ReputationMgr

variable {P : Player} {store : FactionStore} {s t : ReputationMgr} {e : FactionEntry}
  {f f₁ g : FactionState}

/-- The sum that `SetOneFactionReputation` clamps. -/
def newStanding (P : Player) (e : FactionEntry) (f : FactionState) (standing : Int32)
    (incremental : Bool) : Int :=
  if incremental then add32 standing.toInt (add32 f.standing (getBaseReputation P e)) else standing.toInt

/-- A new standing, then changes of flags, then the rank counters: all the changes that one faction goes
through. -/
theorem Tallied.restand (hl : (store.listed.map (·.reputationListID)).Nodup)
    (h : Tallied P store.listed s) (he : e ∈ store.listed)
    (hf : s.factions e.reputationListID = some f) {standing : Int} {new : Int}
    (hnew : getBaseReputation P e + standing = new)
    (hbounds : reputationBottom ≤ new ∧ new ≤ reputationCap)
    (hflags : Flagged (s.setState e.reputationListID { f with standing := standing }) t
      e.reputationListID { f with standing := standing } g)
    {u : ReputationMgr}
    (hu : u.factions = t.factions ∧ u.visibleFactionCount = t.visibleFactionCount ∧
      u.honoredFactionCount = bump (ranked P .honored e f) ((reputationToRank new).atLeast .honored)
        t.honoredFactionCount ∧
      u.reveredFactionCount = bump (ranked P .revered e f) ((reputationToRank new).atLeast .revered)
        t.reveredFactionCount ∧
      u.exaltedFactionCount = bump (ranked P .exalted e f) ((reputationToRank new).atLeast .exalted)
        t.exaltedFactionCount) :
    Tallied P store.listed u ∧ u.factions = Function.update s.factions e.reputationListID (some g) := by
  obtain ⟨hfactions, hvisible, hhonored, hrevered, hexalted⟩ := hu
  have hstanding : getBaseReputation P e + g.standing = new := by
    rw [hflags.same.standing]
    exact hnew
  have hranked (r : ReputationRank) : ranked P r e g = (reputationToRank new).atLeast r := by
    rw [ranked, hstanding]
  have hu : u.factions = Function.update s.factions e.reputationListID (some g) := by
    rw [hfactions, hflags.factions, setState_factions, Function.update_idem]
  refine ⟨h.replace hl he hf ?_ hu ?_ ?_ ?_ ?_, hu⟩
  · rw [Bounded, hstanding]
    exact hbounds
  · rw [hvisible, hflags.visible]
    rfl
  · rw [hhonored, hflags.honored, hranked]
    rfl
  · rw [hrevered, hflags.revered, hranked]
    rfl
  · rw [hexalted, hflags.exalted, hranked]
    rfl

theorem FactionStore.mem_entries_of_listed (he : e ∈ store.listed) : e ∈ store.entries :=
  mem_of_mem_filter he

theorem Tallied.setOneFactionReputation (h : Tallied P store.listed s) (he : e ∈ store.listed)
    (hf : s.factions e.reputationListID = some f) (standing : Int32) (incremental : Bool) :
    Tallied P store.listed (s.setOneFactionReputation P e standing incremental) ∧
      ∃ g, (s.setOneFactionReputation P e standing incremental).factions =
          Function.update s.factions e.reputationListID (some g) ∧
        getBaseReputation P e + g.standing =
          clampReputation (newStanding P e f standing incremental) ∧ War P e g := by
  have hbase := store.base_bounds P (mem_entries_of_listed he)
  have hold := h.bounded e he f hf
  unfold Bounded at hold
  unfold reputationBottom reputationCap at hbase hold
  have hsum : add32 f.standing (getBaseReputation P e) = getBaseReputation P e + f.standing := by
    rw [add32_eq (by omega) (by omega), add_comm]
  unfold ReputationMgr.setOneFactionReputation
  rw [hf]
  dsimp only
  have hnew := clampReputation_bounds (newStanding P e f standing incremental)
  rw [show (if incremental = true then add32 standing.toInt (add32 f.standing (getBaseReputation P e))
    else standing.toInt) = newStanding P e f standing incremental from rfl]
  generalize clampReputation (newStanding P e f standing incremental) = new at hnew ⊢
  have hsub : sub32 new (getBaseReputation P e) = new - getBaseReputation P e := by
    unfold reputationBottom reputationCap at hnew
    exact sub32_eq (by omega) (by omega)
  rw [hsum, hsub]
  -- visible, and at war if the new rank is hostile
  have hf₁ : (s.setState e.reputationListID { f with standing := new - getBaseReputation P e }).factions
      e.reputationListID = some { f with standing := new - getBaseReputation P e } :=
    Function.update_self ..
  obtain ⟨g₁, hvisible, -⟩ := flagged_setVisible hf₁
  generalize hs₁ : (s.setState e.reputationListID
    { f with standing := new - getBaseReputation P e }).setVisible e.reputationListID = s₁ at hvisible ⊢
  obtain ⟨s₂, g, hs₂, hflags, hwar⟩ : ∃ s₂ g, (if (reputationToRank new).isHostile = true then
        s₁.modifyState e.reputationListID (·.setAtWar true) else s₁) = s₂ ∧
      Flagged (s.setState e.reputationListID { f with standing := new - getBaseReputation P e }) s₂
        e.reputationListID { f with standing := new - getBaseReputation P e } g ∧
      ((reputationToRank new).isHostile = true → hasFlag g.flags flagPeaceForced = false →
        hasFlag g.flags flagAtWar = true) := by
    by_cases hhostile : (reputationToRank new).isHostile = true
    · rw [if_pos hhostile]
      refine ⟨_, _, rfl, hvisible.trans (flagged_setAtWar hvisible.state true), fun _ hpeace => ?_⟩
      refine FactionState.atWar_setAtWar_true g₁ ?_
      rw [← hpeace, (g₁.setAtWar_spec true).1.peaceForced]
    · rw [if_neg hhostile]
      exact ⟨_, _, rfl, hvisible, fun hh => absurd hh hhostile⟩
  rw [hs₂]
  have hreputation : getBaseReputation P e + (new - getBaseReputation P e) = new := by omega
  obtain ⟨htallied, hfactions⟩ := h.restand store.distinct_lists he hf hreputation hnew hflags
    (updateRankCounters_spec s₂ (reputationToRank (getBaseReputation P e + f.standing))
      (reputationToRank new))
  have hstanding : getBaseReputation P e + g.standing = new := by
    rw [hflags.same.standing]
    exact hreputation
  refine ⟨htallied, g, hfactions, hstanding, ?_⟩
  rw [War, hstanding]
  exact hwar

theorem Tallied.flagged (h : Tallied P store.listed s) (he : e ∈ store.listed)
    (hf : s.factions e.reputationListID = some f) (hflags : Flagged s t e.reputationListID f g) :
    Tallied P store.listed t := by
  have hranked (r : ReputationRank) : ranked P r e g = ranked P r e f := by
    rw [ranked, ranked, hflags.same.standing]
  refine h.replace store.distinct_lists he hf ?_ hflags.factions hflags.visible ?_ ?_ ?_
  · rw [Bounded, hflags.same.standing]
    exact h.bounded e he f hf
  · rw [hranked, bump_self, hflags.honored]
  · rw [hranked, bump_self, hflags.revered]
  · rw [hranked, bump_self, hflags.exalted]

/-! ## Initialisation and loading -/

/-- The state that `Initialize` gives a faction. -/
def defaultState (P : Player) (e : FactionEntry) : FactionState := ⟨e.id, getDefaultStateFlags P e, 0⟩

theorem Tallied.initFaction {l : List FactionEntry} (h : Tallied P l s)
    (hbase : reputationBottom ≤ getBaseReputation P e ∧ getBaseReputation P e ≤ reputationCap)
    (hfresh : ∀ b ∈ l, b.reputationListID ≠ e.reputationListID) :
    Tallied P (l ++ [e]) (initFaction P s e) ∧
      (initFaction P s e).factions =
        Function.update s.factions e.reputationListID (some (defaultState P e)) := by
  unfold ReputationMgr.initFaction
  dsimp only
  generalize hs₁ : (if hasFlag (getDefaultStateFlags P e) flagVisible = true then
    { s with visibleFactionCount := s.visibleFactionCount + 1 } else s) = s₁
  obtain ⟨hfactions₁, hvisible₁, hhonored₁, hrevered₁, hexalted₁⟩ : s₁.factions = s.factions ∧
      s₁.visibleFactionCount = bump false (isVisible e (defaultState P e)) s.visibleFactionCount ∧
      s₁.honoredFactionCount = s.honoredFactionCount ∧
      s₁.reveredFactionCount = s.reveredFactionCount ∧
      s₁.exaltedFactionCount = s.exaltedFactionCount := by
    rw [← hs₁, isVisible, defaultState]
    cases hasFlag (getDefaultStateFlags P e) flagVisible <;> exact ⟨rfl, rfl, rfl, rfl, rfl⟩
  have hranked (r : ReputationRank) :
      ranked P r e (defaultState P e) = (reputationToRank (getBaseReputation P e)).atLeast r := by
    rw [ranked, defaultState, add_zero]
  obtain ⟨hfactions, hvisible, hhonored, hrevered, hexalted⟩ :=
    updateRankCounters_spec s₁ .hostile (reputationToRank (getBaseReputation P e))
  have hupdate : ((s₁.updateRankCounters .hostile (reputationToRank (getBaseReputation P e))).setState
      e.reputationListID (defaultState P e)).factions =
        Function.update s.factions e.reputationListID (some (defaultState P e)) := by
    rw [setState_factions, hfactions, hfactions₁]
  refine ⟨h.insert hfresh ?_ hupdate ?_ ?_ ?_ ?_, hupdate⟩
  · rw [Bounded, defaultState, add_zero]
    exact hbase
  · exact hvisible.trans hvisible₁
  · rw [hranked, ← hhonored₁]
    exact hhonored
  · rw [hranked, ← hrevered₁]
    exact hrevered
  · rw [hranked, ← hexalted₁]
    exact hexalted

theorem Tallied.initLoop {done todo : List FactionEntry} (h : Tallied P done s)
    (hstate : ∀ e ∈ done, s.factions e.reputationListID = some (defaultState P e))
    (hbase : ∀ e ∈ todo, reputationBottom ≤ getBaseReputation P e ∧ getBaseReputation P e ≤ reputationCap)
    (hnodup : ((done ++ todo).map (·.reputationListID)).Nodup) :
    Tallied P (done ++ todo) (todo.foldl (ReputationMgr.initFaction P) s) ∧
      ∀ e ∈ done ++ todo, (todo.foldl (ReputationMgr.initFaction P) s).factions e.reputationListID =
        some (defaultState P e) := by
  induction todo generalizing s done with
  | nil => simpa using ⟨h, hstate⟩
  | cons e todo ih =>
    have hfresh : ∀ b ∈ done, b.reputationListID ≠ e.reputationListID := by
      intro b hb heq
      rw [map_append] at hnodup
      exact (nodup_append.1 hnodup).2.2 _ (mem_map_of_mem hb) _ mem_cons_self heq
    obtain ⟨htallied, hfactions⟩ := h.initFaction (hbase e mem_cons_self) hfresh
    have hsplit : done ++ e :: todo = (done ++ [e]) ++ todo := by rw [append_assoc]; rfl
    rw [hsplit] at hnodup ⊢
    refine ih htallied ?_ (fun b hb => hbase b (mem_cons_of_mem e hb)) hnodup
    intro b hb
    rw [hfactions]
    rcases mem_append.1 hb with hb | hb
    · rw [Function.update_of_ne (hfresh b hb), hstate b hb]
    · rw [mem_singleton.1 hb, Function.update_self]

theorem tallied_initializeFactions (P : Player) (store : FactionStore) :
    Tallied P store.listed (initializeFactions P store) ∧
      ∀ e ∈ store.listed, (initializeFactions P store).factions e.reputationListID =
        some (defaultState P e) := by
  have hnew : Tallied P [] ReputationMgr.new :=
    { keys := fun _ _ h => nomatch h
      bounded := fun _ h => absurd h not_mem_nil
      visible := rfl
      honored := rfl
      revered := rfl
      exalted := rfl }
  exact hnew.initLoop (fun _ h => absurd h not_mem_nil)
    (fun e he => store.base_bounds P (mem_entries_of_listed he)) store.distinct_lists

theorem flagged_loadFlags (row : Row) (hf : s.factions e.reputationListID = some f) (hbounded : Bounded P e f) :
    ∃ g, Flagged s (s.loadFlags P e row) e.reputationListID f g ∧ War P e g := by
  unfold loadFlags
  dsimp only
  -- the three changes before the last test
  obtain ⟨s₁, g₁, hs₁, h₁⟩ : ∃ s₁ g₁, (if hasFlag row.flags flagVisible = true then
      s.setVisible e.reputationListID else s) = s₁ ∧ Flagged s s₁ e.reputationListID f g₁ := by
    split
    · obtain ⟨g₁, h₁, -⟩ := flagged_setVisible hf
      exact ⟨_, g₁, rfl, h₁⟩
    · exact ⟨_, f, rfl, .refl hf⟩
  rw [hs₁]
  obtain ⟨s₂, g₂, hs₂, h₂⟩ : ∃ s₂ g₂, (if hasFlag row.flags flagInactive = true then
      s₁.modifyState e.reputationListID (·.setInactive true) else s₁) = s₂ ∧
      Flagged s s₂ e.reputationListID f g₂ := by
    split
    · exact ⟨_, _, rfl, h₁.trans (flagged_setInactive h₁.state true)⟩
    · exact ⟨_, g₁, rfl, h₁⟩
  rw [hs₂]
  generalize hk : (fun f : FactionState =>
    if hasFlag row.flags flagAtWar = true then f.setAtWar true
    else if hasFlag f.flags flagVisible = true then f.setAtWar false else f) = k
  have hkspec : FactionState.SameStanding g₂ (k g₂) ∧
      hasFlag (k g₂).flags flagVisible = hasFlag g₂.flags flagVisible := by
    rw [← hk]
    dsimp only
    split
    · exact g₂.setAtWar_spec true
    · split
      · exact g₂.setAtWar_spec false
      · exact ⟨.refl g₂, rfl⟩
  have h₃ := h₂.trans (flagged_modifyState h₂.state hkspec.1 hkspec.2)
  generalize s₂.modifyState e.reputationListID k = s₃ at h₃ ⊢
  generalize k g₂ = g₃ at h₃
  have hreputation : s₃.getReputation P e = getBaseReputation P e + g₃.standing := by
    rw [getReputation, h₃.state]
    dsimp only
    rw [h₃.same.standing]
    unfold Bounded at hbounded
    unfold reputationBottom reputationCap at hbounded
    refine add32_eq ?_ ?_ <;> omega
  rw [hreputation]
  by_cases hhostile : (reputationToRank (getBaseReputation P e + g₃.standing)).isHostile = true
  · rw [if_pos hhostile]
    refine ⟨_, h₃.trans (flagged_setAtWar h₃.state true), fun _ hpeace => ?_⟩
    refine FactionState.atWar_setAtWar_true g₃ ?_
    rw [← hpeace, (g₃.setAtWar_spec true).1.peaceForced]
  · rw [if_neg hhostile]
    exact ⟨_, h₃, fun hh => absurd hh hhostile⟩

/-- The loop of `LoadFromDB` while the rows of the factions `pending` are still to come: these have their
default standing, and the others are at war if they are hostile. -/
structure Loading (P : Player) (store : FactionStore) (pending : List Nat) (s : ReputationMgr) : Prop where
  tallied : Tallied P store.listed s
  present : ∀ e ∈ store.listed, ∃ f, s.factions e.reputationListID = some f
  fresh : ∀ e ∈ store.listed, e.id ∈ pending → ∀ f, s.factions e.reputationListID = some f → f.standing = 0
  war : ∀ e ∈ store.listed, e.id ∉ pending → ∀ f, s.factions e.reputationListID = some f → War P e f

def Row.Valid (P : Player) (store : FactionStore) (row : Row) : Prop :=
  ∀ e, store.lookupEntry row.faction = some e → 0 ≤ e.reputationListID →
    reputationBottom ≤ getBaseReputation P e + row.standing.toInt ∧
      getBaseReputation P e + row.standing.toInt ≤ reputationCap

theorem FactionStore.lookupEntry_some {id : Nat} (h : store.lookupEntry id = some e) :
    e ∈ store.entries ∧ e.id = id :=
  ⟨mem_of_find?_eq_some h, by simpa using find?_some h⟩

variable {pending : List Nat}

theorem Loading.of_update {row : Row} (h : Loading P store (row.faction :: pending) s)
    (hnot : row.faction ∉ pending) (he : e ∈ store.listed) (hid : e.id = row.faction)
    (htallied : Tallied P store.listed t)
    (hfactions : t.factions = Function.update s.factions e.reputationListID (some g))
    (hwar : War P e g) : Loading P store pending t := by
  have hother {b : FactionEntry} (hb : b ∈ store.listed) (hne : b.id ≠ row.faction) :
      b.reputationListID ≠ e.reputationListID := by
    intro heq
    have hbe : b = e := inj_on_of_nodup_map store.distinct_lists hb he heq
    exact hne (hbe ▸ hid)
  constructor
  · exact htallied
  · intro b hb
    rw [hfactions]
    by_cases heq : b.reputationListID = e.reputationListID
    · exact ⟨g, by rw [heq, Function.update_self]⟩
    · rw [Function.update_of_ne heq]
      exact h.present b hb
  · intro b hb hpending f hf
    have hne : b.id ≠ row.faction := fun heq => hnot (heq ▸ hpending)
    rw [hfactions, Function.update_of_ne (hother hb hne)] at hf
    exact h.fresh b hb (mem_cons_of_mem _ hpending) f hf
  · intro b hb hpending f hf
    by_cases hbid : b.id = row.faction
    · have hbe : b = e :=
        inj_on_of_nodup_map store.distinct_ids (mem_entries_of_listed hb)
          (mem_entries_of_listed he) (hbid.trans hid.symm)
      rw [hbe, hfactions, Function.update_self] at hf
      rw [hbe, ← some.inj hf]
      exact hwar
    · rw [hfactions, Function.update_of_ne (hother hb hbid)] at hf
      exact h.war b hb (fun hmem => (mem_cons.1 hmem).elim hbid hpending) f hf

theorem Loading.skip {row : Row} (h : Loading P store (row.faction :: pending) s)
    (hnone : ∀ b ∈ store.listed, b.id ≠ row.faction) : Loading P store pending s where
  tallied := h.tallied
  present := h.present
  fresh b hb hpending := h.fresh b hb (mem_cons_of_mem _ hpending)
  war b hb hpending := h.war b hb fun hmem => (mem_cons.1 hmem).elim (hnone b hb) hpending

theorem Loading.loadRow {row : Row} (h : Loading P store (row.faction :: pending) s)
    (hnot : row.faction ∉ pending) (hvalid : row.Valid P store) :
    Loading P store pending (loadRow P store s row) := by
  unfold ReputationMgr.loadRow
  cases hlookup : store.lookupEntry row.faction with
  | none =>
    refine h.skip fun b hb hid => ?_
    have := find?_eq_none.1 hlookup b (mem_entries_of_listed hb)
    exact this (by simpa using hid)
  | some e =>
    obtain ⟨hmem, hid⟩ := lookupEntry_some hlookup
    dsimp only
    by_cases hlist : 0 ≤ e.reputationListID
    · rw [if_pos hlist]
      have he : e ∈ store.listed := mem_filter.2 ⟨hmem, by simpa using hlist⟩
      have hbounds := hvalid e hlookup hlist
      obtain ⟨f, hf⟩ := h.present e he
      have hzero := h.fresh e he (hid ▸ mem_cons_self) f hf
      have hsum : add32 (getBaseReputation P e) row.standing.toInt =
          getBaseReputation P e + row.standing.toInt := by
        unfold reputationBottom reputationCap at hbounds
        refine add32_eq ?_ ?_ <;> omega
      rw [modifyState_eq hf, hsum]
      -- the rank counters, then the flags
      obtain ⟨hfactions, hvisible, hhonored, hrevered, hexalted⟩ := updateRankCounters_spec
        (s.setState e.reputationListID { f with standing := row.standing.toInt })
        (reputationToRank (getBaseReputation P e))
        (reputationToRank (getBaseReputation P e + row.standing.toInt))
      generalize ReputationMgr.updateRankCounters _ _ _ = s₁ at hfactions hvisible hhonored hrevered hexalted ⊢
      have hstate : s₁.factions e.reputationListID = some { f with standing := row.standing.toInt } := by
        rw [hfactions, setState_factions, Function.update_self]
      obtain ⟨g, hflags, hwar⟩ := flagged_loadFlags row hstate hbounds
      have hold (r : ReputationRank) :
          ranked P r e f = (reputationToRank (getBaseReputation P e)).atLeast r := by
        rw [ranked, hzero, add_zero]
      have hnew (r : ReputationRank) : ranked P r e g =
          (reputationToRank (getBaseReputation P e + row.standing.toInt)).atLeast r := by
        rw [ranked, hflags.same.standing]
      have hupdate : (s₁.loadFlags P e row).factions =
          Function.update s.factions e.reputationListID (some g) := by
        rw [hflags.factions, hfactions, setState_factions, Function.update_idem]
      refine h.of_update hnot he hid (h.tallied.replace store.distinct_lists he hf ?_ hupdate ?_ ?_ ?_ ?_)
        hupdate hwar
      · rw [Bounded, hflags.same.standing]
        exact hbounds
      · rw [hflags.visible, hvisible]
        rfl
      · rw [hflags.honored, hhonored, hold, hnew]
        rfl
      · rw [hflags.revered, hrevered, hold, hnew]
        rfl
      · rw [hflags.exalted, hexalted, hold, hnew]
        rfl
    · rw [if_neg hlist]
      refine h.skip fun b hb hbid => hlist ?_
      have hbe : b = e := inj_on_of_nodup_map store.distinct_ids
        (mem_entries_of_listed hb) hmem (hbid.trans hid.symm)
      rw [← hbe]
      simpa using (mem_filter.1 hb).2

theorem Loading.loadRows {rows : List Row} (h : Loading P store (rows.map (·.faction)) s)
    (hnodup : (rows.map (·.faction)).Nodup) (hvalid : ∀ row ∈ rows, row.Valid P store) :
    Loading P store [] (rows.foldl (ReputationMgr.loadRow P store) s) := by
  induction rows generalizing s with
  | nil => exact h
  | cons row rows ih =>
    obtain ⟨hnot, hrest⟩ := nodup_cons.1 hnodup
    have hrow := h.loadRow hnot (hvalid row mem_cons_self)
    exact ih hrow hrest fun r hr => hvalid r (mem_cons_of_mem row hr)

end Operations

/-! ## Runs -/

namespace ReputationMgr

variable {P : Player} {store : FactionStore} {s : ReputationMgr}

structure Bookkept (P : Player) (store : FactionStore) (s : ReputationMgr) : Prop where
  bounded : ∀ e ∈ store.listed, ∀ f, s.factions e.reputationListID = some f → Bounded P e f
  visible : s.visibleFactionCount.toNat = store.listed.countP (seen isVisible s)
  honored : s.honoredFactionCount.toNat = store.listed.countP (seen (ranked P .honored) s)
  revered : s.reveredFactionCount.toNat = store.listed.countP (seen (ranked P .revered) s)
  exalted : s.exaltedFactionCount.toNat = store.listed.countP (seen (ranked P .exalted) s)
  war : ∀ e ∈ store.listed, ∀ f, s.factions e.reputationListID = some f → War P e f

def ValidRows (P : Player) (store : FactionStore) : Event → Prop
  | .loadFromDB rows => (rows.map (·.faction)).Nodup ∧ ∀ row ∈ rows, row.Valid P store
  | _ => True

/-- The step does not reach one of the three slips: an incremental sum that leaves `int32`, a war with a hostile
faction that the player switches off, and a hostile faction that starts at peace. -/
def Sound (P : Player) (store : FactionStore) (s : ReputationMgr) : Event → Prop
  | .loadFromDB rows => ∀ e ∈ store.listed, e.id ∉ rows.map (·.faction) → War P e (defaultState P e)
  | .setOneFactionReputation faction standing true =>
    ∀ e f, store.lookupEntry faction = some e → s.factions e.reputationListID = some f →
      -2 ^ 31 ≤ standing.toInt + (getBaseReputation P e + f.standing) ∧
        standing.toInt + (getBaseReputation P e + f.standing) < 2 ^ 31
  | .setAtWar list false =>
    ∀ e ∈ store.listed, ∀ f, e.reputationListID = list → s.factions list = some f →
      (reputationToRank (getBaseReputation P e + f.standing)).isHostile = true →
        hasFlag f.flags (flagInvisibleForced ||| flagHidden) = true ∨ hasFlag f.flags flagPeaceForced = true
  | _ => True

/-- The four counters are what the states say, and the war flags fit the standings. -/
structure Kept (P : Player) (store : FactionStore) (s : ReputationMgr) : Prop where
  tallied : Tallied P store.listed s
  war : ∀ e ∈ store.listed, ∀ f, s.factions e.reputationListID = some f → War P e f

theorem countP_seen_new (p : FactionEntry → FactionState → Bool) (l : List FactionEntry) :
    l.countP (seen p new) = 0 := by
  refine countP_eq_zero.2 fun e _ h => ?_
  exact absurd h Bool.false_ne_true

theorem kept_new (P : Player) (store : FactionStore) : Kept P store new where
  tallied :=
    { keys := fun _ _ h => nomatch h
      bounded := fun _ _ _ h => nomatch h
      visible := by rw [countP_seen_new]; rfl
      honored := by rw [countP_seen_new]; rfl
      revered := by rw [countP_seen_new]; rfl
      exalted := by rw [countP_seen_new]; rfl }
  war _ _ _ h := nomatch h

theorem Kept.of_update {t : ReputationMgr} {g : FactionState} (h : Kept P store s)
    (he : e ∈ store.listed) (htallied : Tallied P store.listed t)
    (hfactions : t.factions = Function.update s.factions e.reputationListID (some g))
    (hwar : War P e g) : Kept P store t where
  tallied := htallied
  war b hb f hf := by
    by_cases heq : b.reputationListID = e.reputationListID
    · have hbe : b = e := inj_on_of_nodup_map store.distinct_lists hb he heq
      rw [hbe, hfactions, Function.update_self] at hf
      rw [hbe, ← some.inj hf]
      exact hwar
    · rw [hfactions, Function.update_of_ne heq] at hf
      exact h.war b hb f hf

theorem Kept.flagged {t : ReputationMgr} {f g : FactionState} (h : Kept P store s)
    (he : e ∈ store.listed) (hf : s.factions e.reputationListID = some f)
    (hflags : Flagged s t e.reputationListID f g) (hwar : War P e g) : Kept P store t :=
  h.of_update he (h.tallied.flagged he hf hflags) hflags.factions hwar

theorem War.of_same {f g : FactionState} (h : War P e f)
    (hsame : FactionState.SameStanding f g)
    (hwar : hasFlag g.flags flagAtWar = hasFlag f.flags flagAtWar) : War P e g := by
  intro hhostile hpeace
  rw [hwar]
  rw [hsame.standing] at hhostile
  exact h hhostile (hsame.peaceForced ▸ hpeace)

theorem Kept.loadFromDB (P : Player) (store : FactionStore) {rows : List Row}
    (hnodup : (rows.map (·.faction)).Nodup) (hvalid : ∀ row ∈ rows, row.Valid P store)
    (hwar : ∀ e ∈ store.listed, e.id ∉ rows.map (·.faction) → War P e (defaultState P e)) :
    Kept P store (ReputationMgr.loadFromDB P store rows) := by
  obtain ⟨htallied, hstate⟩ := tallied_initializeFactions P store
  have hstart : Loading P store (rows.map (·.faction)) (initializeFactions P store) :=
    { tallied := htallied
      present := fun e he => ⟨_, hstate e he⟩
      fresh := fun e he _ f hf => by
        rw [hstate e he] at hf
        rw [← some.inj hf]
        rfl
      war := fun e he hnot f hf => by
        rw [hstate e he] at hf
        rw [← some.inj hf]
        exact hwar e he hnot }
  have hend := hstart.loadRows hnodup hvalid
  exact ⟨hend.tallied, fun e he => hend.war e he not_mem_nil⟩

theorem Kept.setAtWar (h : Kept P store s) {list : Int} {on : Bool}
    (hsound : Sound P store s (.setAtWar list on)) : Kept P store (s.setAtWar list on) := by
  unfold ReputationMgr.setAtWar
  cases hf : s.factions list with
  | none => exact h
  | some f =>
    obtain ⟨e, he, rfl⟩ := h.tallied.keys list f hf
    dsimp only
    split
    · exact h
    · rename_i hhidden
      rw [← modifyState_eq hf (·.setAtWar on)]
      refine h.flagged he hf (flagged_setAtWar hf on) fun hhostile hpeace => ?_
      have hsame := (f.setAtWar_spec on).1
      rw [hsame.peaceForced] at hpeace
      cases on with
      | true => exact f.atWar_setAtWar_true hpeace
      | false =>
        rw [hsame.standing] at hhostile
        rcases hsound e he f rfl hf hhostile with hh | hp
        · exact absurd hh hhidden
        · rw [hpeace] at hp
          exact absurd hp Bool.false_ne_true

theorem Kept.listed (h : Kept P store s) {f : FactionState} (he : e ∈ store.entries)
    (hf : s.factions e.reputationListID = some f) : e ∈ store.listed := by
  obtain ⟨b, hb, heq⟩ := h.tallied.keys _ f hf
  have hlist := (mem_filter.1 hb).2
  rw [heq] at hlist
  exact mem_filter.2 ⟨he, hlist⟩

/-- An event of sound data keeps the counters. -/
theorem Kept.step (h : Kept P store s) {event : Event} (hrows : ValidRows P store event)
    (hsound : Sound P store s event) : Kept P store (step P store s event) := by
  cases event with
  | loadFromDB rows => exact .loadFromDB P store hrows.1 hrows.2 hsound
  | setOneFactionReputation faction standing incremental =>
    dsimp only [ReputationMgr.step]
    cases hlookup : store.lookupEntry faction with
    | none => exact h
    | some e =>
      dsimp only
      cases hf : s.factions e.reputationListID with
      | none =>
        unfold ReputationMgr.setOneFactionReputation
        rw [hf]
        exact h
      | some f =>
        have he := h.listed (lookupEntry_some hlookup).1 hf
        obtain ⟨htallied, g, hfactions, -, hwar⟩ :=
          h.tallied.setOneFactionReputation he hf standing incremental
        exact h.of_update he htallied hfactions hwar
  | setVisible faction =>
    dsimp only [ReputationMgr.step]
    cases hlookup : store.lookupEntry faction with
    | none => exact h
    | some e =>
      dsimp only
      split
      · exact h
      · cases hf : s.factions e.reputationListID with
        | none =>
          unfold ReputationMgr.setVisible
          rw [hf]
          exact h
        | some f =>
          have he := h.listed (lookupEntry_some hlookup).1 hf
          obtain ⟨g, hflags, hwar⟩ := flagged_setVisible hf
          exact h.flagged he hf hflags (War.of_same (h.war e he f hf) hflags.same hwar)
  | setAtWar list on => exact h.setAtWar hsound
  | setInactive list on =>
    dsimp only [ReputationMgr.step, ReputationMgr.setInactive]
    cases hf : s.factions list with
    | none =>
      unfold modifyState
      rw [hf]
      exact h
    | some f =>
      obtain ⟨e, he, rfl⟩ := h.tallied.keys list f hf
      have hspec := f.setInactive_spec on
      exact h.flagged he hf (flagged_setInactive hf on) (War.of_same (h.war e he f hf) hspec.1 hspec.2.2)

def ClampExact (P : Player) (store : FactionStore) (s : ReputationMgr) : Event → Prop
  | .setOneFactionReputation faction standing true =>
    ∀ e f, store.lookupEntry faction = some e → s.factions e.reputationListID = some f →
      getReputation P (step P store s (.setOneFactionReputation faction standing true)) e =
        clampReputation (getReputation P s e + standing.toInt)
  | _ => True

theorem Kept.getReputation_eq (h : Kept P store s) {f : FactionState}
    (he : e ∈ store.listed) (hf : s.factions e.reputationListID = some f) :
    getReputation P s e = getBaseReputation P e + f.standing := by
  have hbounded := h.tallied.bounded e he f hf
  unfold Bounded reputationBottom reputationCap at hbounded
  rw [getReputation, hf]
  refine add32_eq ?_ ?_ <;> omega

theorem Kept.clampExact (h : Kept P store s) {event : Event} (hsound : Sound P store s event) :
    ClampExact P store s event := by
  cases event with
  | setOneFactionReputation faction standing incremental =>
    cases incremental with
    | false => trivial
    | true =>
      intro e f hlookup hf
      have he := h.listed (lookupEntry_some hlookup).1 hf
      obtain ⟨hmin, hmax⟩ := hsound e f hlookup hf
      have hkept : Kept P store (ReputationMgr.step P store s (.setOneFactionReputation faction standing true)) :=
        h.step trivial hsound
      obtain ⟨-, g, hfactions, hclamp, -⟩ := h.tallied.setOneFactionReputation he hf standing true
      have hg : (ReputationMgr.step P store s (.setOneFactionReputation faction standing true)).factions
          e.reputationListID = some g := by
        dsimp only [ReputationMgr.step]
        rw [hlookup]
        rw [hfactions, Function.update_self]
      have hsum : newStanding P e f standing true = getReputation P s e + standing.toInt := by
        rw [h.getReputation_eq he hf, newStanding, if_pos rfl]
        have hbounded := h.tallied.bounded e he f hf
        unfold Bounded reputationBottom reputationCap at hbounded
        rw [add32_eq (a := f.standing) (by omega) (by omega), add32_eq (by omega) (by omega)]
        omega
      rw [hkept.getReputation_eq he hg, hclamp, hsum]
  | loadFromDB rows => trivial
  | setVisible faction => trivial
  | setAtWar list on => trivial
  | setInactive list on => trivial

theorem Kept.bookkept (h : Kept P store s) (hfew : store.listed.length < 256) : Bookkept P store s := by
  have htoNat (p : FactionEntry → Bool) :
      (UInt8.ofNat (store.listed.countP p)).toNat = store.listed.countP p := by
    have hle := countP_le_length (p := p) (l := store.listed)
    exact UInt8.toNat_ofNat_of_lt' (show _ < 256 by omega)
  exact
    { bounded := h.tallied.bounded
      visible := by rw [h.tallied.visible, htoNat]
      honored := by rw [h.tallied.honored, htoNat]
      revered := by rw [h.tallied.revered, htoNat]
      exalted := by rw [h.tallied.exalted, htoNat]
      war := h.war }

/-- **The bookkeeping of reputations.** In a run whose steps reach none of the slips, with fewer than 256 listed
factions, every state has its reputations within the bounds, right counters and wars with the hostile factions,
and every incremental change is the clamp of the sum. -/
theorem reputations_bookkept (P : Player) (store : FactionStore) (hfew : store.listed.length < 256)
    (events : List Event) (hrows : ∀ event ∈ events, ValidRows P store event)
    (hsound : Run.AllSteps (step P store) (Sound P store) new events) :
    (∀ pre, pre <+: events → Bookkept P store (Run.run (step P store) new pre)) ∧
      Run.AllSteps (step P store) (ClampExact P store) new events := by
  have hboth := hsound.and_mem hrows
  have hstep (s : ReputationMgr) (event : Event) (h : Kept P store s)
      (hs : ValidRows P store event ∧ Sound P store s event) :
      Kept P store (ReputationMgr.step P store s event) := h.step hs.1 hs.2
  constructor
  · rintro pre ⟨post, rfl⟩
    exact (hboth.reaches hstep (kept_new P store)).bookkept hfew
  · exact (hboth.strengthen hstep (kept_new P store)).mono fun s event h => h.1.clampExact h.2.2

def demonicEntry : FactionEntry :=
  ⟨1, 0, fun _ => ⟨1, 0, -3500, BitVec.ofNat 8 (flagVisible ||| flagAtWar)⟩⟩

def demonicStore : FactionStore where
  entries := [demonicEntry]
  distinct_ids := by decide
  distinct_lists := by decide
  bounded := by
    intro e he i
    obtain rfl := mem_singleton.1 he
    exact ⟨by decide +revert, by decide +revert⟩

theorem listed_demonicStore : demonicStore.listed = [demonicEntry] := by rfl

theorem reputations_bookkept_three :
    let events := [.loadFromDB [], .setOneFactionReputation 1 500 true, .setInactive 0 true]
    (∀ pre, pre <+: events → Bookkept ⟨1, 1⟩ demonicStore (Run.run (step ⟨1, 1⟩ demonicStore) new pre)) ∧
      Run.AllSteps (step ⟨1, 1⟩ demonicStore) (ClampExact ⟨1, 1⟩ demonicStore) new events := by
  refine reputations_bookkept ⟨1, 1⟩ demonicStore (by decide) _ ?_ ⟨?_, ?_, trivial, trivial⟩
  · intro event hmem
    simp only [mem_cons, not_mem_nil, or_false] at hmem
    obtain rfl | rfl | rfl := hmem
    · exact ⟨by decide, fun row hrow => absurd hrow not_mem_nil⟩
    · trivial
    · trivial
  · intro e he _
    obtain rfl := mem_singleton.1 he
    exact fun _ _ => by decide
  · intro e f hlookup hf
    obtain rfl : demonicEntry = e := some.inj hlookup
    obtain rfl : defaultState ⟨1, 1⟩ demonicEntry = f := some.inj hf
    decide

/-- The player switches the war with a hostile faction off, and a gain of `2 ^ 31 - 1` at a reputation of 1
leads to the bottom. -/
theorem war_ends_and_gain_wraps :
    ¬ Bookkept ⟨1, 1⟩ demonicStore
        (Run.run (step ⟨1, 1⟩ demonicStore) new [.loadFromDB [], .setAtWar 0 false]) ∧
      ¬ Run.AllSteps (step ⟨1, 1⟩ demonicStore) (ClampExact ⟨1, 1⟩ demonicStore) new
        [.loadFromDB [], .setOneFactionReputation 1 1 false, .setOneFactionReputation 1 2147483647 true] := by
  constructor
  · intro h
    have hwar := h.war demonicEntry (by rw [listed_demonicStore]; exact mem_singleton_self _) ⟨1, 1, 0⟩ (by rfl)
    exact absurd (hwar (by decide) (by decide)) (by decide)
  · rintro ⟨-, -, hclamp, -⟩
    have h := hclamp demonicEntry _ (by rfl) (by rfl)
    exact absurd h (by decide)

end ReputationMgr

end Axium.Reputation
