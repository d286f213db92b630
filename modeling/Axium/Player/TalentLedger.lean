import Axium.Lib.Run
import Axium.Player.RankLearning

/-!
# The two ledgers of the talent points

Free points are kept by `LearnTalent`, used points by `addSpell` and `removeSpell`. `LearnTalent` takes the
price whatever became of the spell, so a rank that `addSpell` refuses costs a point and is not learned
(`learnTalent_charges_refused`).
-/

namespace Axium.Talents

open Run List TalentEntry

variable (stores : Stores) (mgr : SpellMgr) {p q : Player} {t : TalentEntry} {r : TalentRequest}

/-- Free and used points are the total, and the used ones are the ranks that are known. -/
structure TalentTotals (total : Nat) (p : Player) : Prop where
  sum : p.freeTalentPoints + p.usedTalentCount = total
  oneRank : ∀ id t, stores.talents.find? id = some t → (t.knownRanks p).length ≤ 1
  used : p.usedTalentCount = stores.talents.sum fun _ t => t.maxRank p

def TalentEntry.RowMet (t : TalentEntry) (p : Player) : Prop :=
  t.row * maxTalentRank ≤ stores.pointsIn t.talentTab p

/-- The talent that another one depends on is known, at `DependsOnRank` or higher. -/
def TalentEntry.DependencyMet (t : TalentEntry) (p : Player) : Prop :=
  t.dependsOn > 0 → ∀ depTalentInfo, stores.talents.find? t.dependsOn = some depTalentInfo →
    ∃ rank, t.dependsOnRank ≤ rank ∧ depTalentInfo.rank rank ≠ 0 ∧
      p.hasSpell (depTalentInfo.rank rank) = true

/-- What one request may do: what is newly learned was allowed, and what is not learned is not paid. -/
structure Keeps (p q : Player) (r : TalentRequest) : Prop where
  learned : ∀ id t rank, stores.talents.find? id = some t → t.rank rank ≠ 0 →
    q.hasSpell (t.rank rank) = true → p.hasSpell (t.rank rank) = false →
    t.RowMet stores p ∧ t.DependencyMet stores p
  refused : rankKnown stores q r = false →
    q.freeTalentPoints = p.freeTalentPoints ∧ q.usedTalentCount = p.usedTalentCount

/-- The request is refused by the checks, or its numbers fit their types and its rank is orderly. -/
def Allowed (p : Player) (e : Event) : Prop :=
  checkTalent stores p e.request = none ∨
    ∃ t, stores.talents.find? e.request.talentId = some t ∧ e.request.talentId < 65536 ∧
      t.row * maxTalentRank < 4294967296 ∧ t.dependsOnRank < 256 ∧
      Orderly stores mgr e.env t (t.rank e.request.talentRank) p

/-- What the checks of `LearnTalent` found. -/
structure Granted (t : TalentEntry) (p : Player) (r : TalentRequest) : Prop where
  found : stores.talents.find? r.talentId = some t
  rank : t.rank r.talentRank ≠ 0
  unknown : p.hasSpell (t.rank r.talentRank) = false
  below : t.maxRank p ≤ r.talentRank
  enough : r.talentRank - t.maxRank p + 1 ≤ p.freeTalentPoints
  depends : ¬(t.dependsOn > 0 ∧ (stores.talents.find? t.dependsOn).any
    fun depTalentInfo => !depTalentInfo.hasRankFrom p t.dependsOnRank)
  row : t.row * maxTalentRank % 4294967296 ≤ stores.spentPoints t p

variable {stores} {mgr}

theorem checkTalent_spec {x : Nat × Nat} (h : checkTalent stores p r = some x) :
    ∃ t, Granted stores t p r ∧ x = (t.rank r.talentRank, t.maxRank p) := by
  unfold checkTalent at h
  split at h
  · cases h
  split at h
  · cases h
  rename_i t hfound
  split at h
  · cases h
  split at h
  · cases h
  dsimp only at h
  split at h
  · cases h
  rename_i hbelow
  split at h
  · cases h
  rename_i henough
  split at h
  · cases h
  rename_i hdepends
  split at h
  · cases h
  rename_i hrow
  split at h
  · cases h
  rename_i hrank
  split at h
  · cases h
  rename_i hunknown
  cases h
  exact ⟨t, ⟨hfound, hrank, Bool.eq_false_of_not_eq_true hunknown, by omega, by omega, hdepends, by omega⟩, rfl⟩

theorem TalentEntry.hasRankFrom_iff {rank : Nat} (hrank : rank < 256) :
    t.hasRankFrom p rank = true ↔ ∃ r, rank ≤ r ∧ t.rank r ≠ 0 ∧ p.hasSpell (t.rank r) = true := by
  unfold hasRankFrom
  rw [any_eq_true]
  simp only [mem_knownRanks, Nat.mod_eq_of_lt hrank, decide_eq_true_eq]
  exact ⟨fun ⟨r, hr, hle⟩ => ⟨r, hle, hr⟩, fun ⟨r, hle, hr⟩ => ⟨r, hr, hle⟩⟩

theorem Granted.dependencyMet (h : Granted stores t p r) (hrank : t.dependsOnRank < 256) :
    t.DependencyMet stores p := by
  intro hdepends depTalentInfo hfound
  rw [← hasRankFrom_iff hrank]
  by_contra hno
  refine h.depends ⟨hdepends, ?_⟩
  rw [hfound, Option.any_some, Bool.eq_false_of_not_eq_true hno]
  rfl

theorem Granted.rowMet (h : Granted stores t p r) (hrow : t.row * maxTalentRank < 4294967296) :
    t.RowMet stores p := by
  have hle := h.row
  rw [Nat.mod_eq_of_lt hrow] at hle
  unfold Stores.spentPoints at hle
  unfold TalentEntry.RowMet
  split at hle
  · exact hle.trans (Nat.mod_le _ _)
  · rename_i hzero
    rw [show t.row = 0 by omega]
    exact Nat.zero_le _

theorem TalentEntry.points_eq_maxRank (h : (t.knownRanks p).length ≤ 1) : t.points p = t.maxRank p := by
  have hfind : ((range maxTalentRank).reverse.find? fun rank =>
      t.rank rank ≠ 0 && p.hasSpell (t.rank rank)) = (t.knownRanks p).getLast? := by
    unfold knownRanks
    rw [← head?_filter, filter_reverse, head?_reverse]
  unfold points maxRank
  rw [hfind]
  match hknown : t.knownRanks p, h with
  | [], _ => rfl
  | [rank], _ => rfl

/-! ## One request -/

section
variable {id rank : Nat} (hdata : stores.OneOwner) (ht : stores.talents.find? id = some t)
  (hrank : t.rank rank ≠ 0) (h : Replaces stores t (t.rank rank) p q)
include hdata ht h

theorem Replaces.hasSpell_other {id' rank' : Nat} {t' : TalentEntry} (hne : id' ≠ id)
    (ht' : stores.talents.find? id' = some t') (hrank' : t'.rank rank' ≠ 0) :
    q.hasSpell (t'.rank rank') = p.hasSpell (t'.rank rank') := by
  refine (h.spells _ (hdata.getTalentSpellPos_ne_none ht' hrank') fun other hother => ?_).hasSpell
  exact hne (hdata id' t' rank' id t other ht' ht hrank' hother).1.symm

include hrank

theorem Replaces.knownRanks_eq : t.knownRanks q = [rank] := by
  have hnodup : (t.knownRanks q).Nodup := nodup_range.filter _
  rw [← perm_singleton, perm_ext_iff_of_nodup hnodup (nodup_singleton rank)]
  intro other
  rw [mem_knownRanks, mem_singleton]
  constructor
  · rintro ⟨hother, hknown⟩
    by_contra hne
    have hspell : t.rank other ≠ t.rank rank := fun hsame =>
      hne (hdata id t rank id t other ht ht hrank hsame).2
    have hgone := h.gone _ (mem_otherRanks.2 ⟨other, rfl, hother, hspell⟩)
    rw [hknown] at hgone
    cases hgone
  · rintro rfl
    have hsettled := h.settled
    unfold Player.settled at hsettled
    rw [Bool.and_eq_true] at hsettled
    exact ⟨hrank, hsettled.2⟩

theorem Replaces.sum_maxRank :
    (stores.talents.sum fun _ t => t.maxRank q) + t.maxRank p =
      (stores.talents.sum fun _ t => t.maxRank p) + (rank + 1) := by
  have hnew : t.maxRank q = rank + 1 := by
    have hknown := h.knownRanks_eq hdata ht hrank
    have hpoints := points_eq_maxRank (t := t) (p := q) (by rw [hknown]; exact le_refl 1)
    rw [← hpoints]
    unfold points
    rw [hknown]
    rfl
  rw [← hnew]
  refine OrdMap.sum_exchange (f := fun _ t => t.maxRank q) (g := fun _ t => t.maxRank p) ht
    fun id' t' hne ht' => ?_
  refine maxRank_congr fun rank' hrank' => ?_
  exact h.hasSpell_other hdata ht hne ht' hrank'

end

variable {total fuel : Nat} {e : Event}

theorem TalentTotals.replaces (hp : TalentTotals stores total p) (hg : Granted stores t p r)
    (hdata : stores.OneOwner) (hq : Replaces stores t (t.rank r.talentRank) p q) :
    TalentTotals stores total
      { q with freeTalentPoints := p.freeTalentPoints - (r.talentRank - t.maxRank p + 1) } := by
  have hbelow := hg.below
  have henough := hg.enough
  have hsum := hp.sum
  have hold : t.maxRank p ≤ p.usedTalentCount := by
    rw [hp.used]
    exact OrdMap.le_sum (fun _ t => t.maxRank p) hg.found
  have hused : q.usedTalentCount = p.usedTalentCount - t.maxRank p + (r.talentRank + 1) := by
    rw [hq.used, points_eq_maxRank (hp.oneRank _ t hg.found), hdata.getTalentSpellCost_eq hg.found hg.rank]
  have hranks := hq.sum_maxRank hdata hg.found hg.rank
  refine ⟨?_, fun id t' ht' => ?_, ?_⟩
  · dsimp only
    omega
  · change (t'.knownRanks q).length ≤ 1
    by_cases hid : id = r.talentId
    · subst hid
      cases hg.found.symm.trans ht'
      rw [hq.knownRanks_eq hdata hg.found hg.rank]
      exact le_refl 1
    · rw [knownRanks_congr fun rank hrank => hq.hasSpell_other hdata hg.found hid ht' hrank]
      exact hp.oneRank id t' ht'
  · change q.usedTalentCount = stores.talents.sum fun _ t => t.maxRank q
    have hpused := hp.used
    omega

theorem Granted.keeps (hg : Granted stores t p r) (hdata : stores.OneOwner)
    (hrow : t.row * maxTalentRank < 4294967296) (hdepends : t.dependsOnRank < 256)
    (hq : Replaces stores t (t.rank r.talentRank) p q) (free : Nat) :
    Keeps stores p { q with freeTalentPoints := free } r := by
  have hknown : rankKnown stores { q with freeTalentPoints := free } r = true := by
    have hsettled := hq.settled
    unfold Player.settled at hsettled
    rw [Bool.and_eq_true] at hsettled
    unfold rankKnown
    rw [hg.found, Option.any_some, Bool.and_eq_true, decide_eq_true_eq]
    exact ⟨hg.rank, hsettled.2⟩
  refine ⟨fun id t' rank ht' hrank hlearned hunknown => ?_, fun hno => ?_⟩
  · change q.hasSpell (t'.rank rank) = true at hlearned
    by_cases hid : id = r.talentId
    · subst hid
      cases hg.found.symm.trans ht'
      exact ⟨hg.rowMet hrow, hg.dependencyMet hdepends⟩
    · rw [hq.hasSpell_other hdata hg.found hid ht' hrank, hunknown] at hlearned
      cases hlearned
  · rw [hknown] at hno
    cases hno

theorem Keeps.refl (p : Player) (r : TalentRequest) : Keeps stores p p r where
  learned _ _ _ _ _ hknown hunknown := by
    rw [hknown] at hunknown
    cases hunknown
  refused _ := ⟨rfl, rfl⟩

theorem learnTalent_keeps (hdata : stores.OneOwner) (htotal : total < 4294967296)
    (hp : TalentTotals stores total p) (hfuel : 3 ≤ fuel) (hallowed : Allowed stores mgr p e) :
    TalentTotals stores total (learnTalent stores mgr fuel p e) ∧
      Keeps stores p (learnTalent stores mgr fuel p e) e.request := by
  unfold learnTalent
  cases hcheck : checkTalent stores p e.request with
  | none => exact ⟨hp, .refl p e.request⟩
  | some x =>
    obtain ⟨t, hg, rfl⟩ := checkTalent_spec hcheck
    obtain hnone | ⟨t', ht', hid, hrow, hdepends, horderly⟩ := hallowed
    · rw [hcheck] at hnone
      cases hnone
    cases hg.found.symm.trans ht'
    obtain ⟨fuel, rfl⟩ := Nat.exists_eq_add_of_le' hfuel
    have hbounded : p.usedTalentCount < 4294967296 := by
      have hsum := hp.sum
      omega
    have hsum : p.usedTalentCount - t.points p +
        stores.getTalentSpellCost (t.rank e.request.talentRank) < 4294967296 := by
      have hsum := hp.sum
      have henough := hg.enough
      have hused : t.maxRank p ≤ p.usedTalentCount := by
        rw [hp.used]
        exact OrdMap.le_sum (fun _ t => t.maxRank p) hg.found
      rw [points_eq_maxRank (hp.oneRank _ t hg.found), hdata.getTalentSpellCost_eq hg.found hg.rank]
      omega
    have hq := replaces_learnSpell hdata hg.found hid hg.rank hg.unknown hbounded hsum horderly fuel
    exact ⟨hp.replaces hg hdata hq, hg.keeps hdata hrow hdepends hq _⟩

/-- **The talent points are conserved**, and the rules of the tree kept, in every run of allowed requests. -/
theorem talentPoints_conserved (hdata : stores.OneOwner) (htotal : total < 4294967296) (hfuel : 3 ≤ fuel)
    (hp : TalentTotals stores total p) {es : List Event}
    (hrun : AllSteps (learnTalent stores mgr fuel) (Allowed stores mgr) p es) :
    TalentTotals stores total (run (learnTalent stores mgr fuel) p es) ∧
      AllSteps (learnTalent stores mgr fuel) (fun p e => TalentTotals stores total p ∧
        Keeps stores p (learnTalent stores mgr fuel p e) e.request) p es := by
  have hstep : ∀ p e, TalentTotals stores total p → Allowed stores mgr p e →
      TalentTotals stores total (learnTalent stores mgr fuel p e) := fun p e hp hallowed =>
    (learnTalent_keeps hdata htotal hp hfuel hallowed).1
  refine ⟨hrun.invariant hstep hp, (hrun.strengthen hstep hp).mono fun p e h => ?_⟩
  exact ⟨h.1, (learnTalent_keeps hdata htotal h.1 hfuel h.2).2⟩

/-! ## Two trees -/

theorem Stores.oneOwner_iff : stores.OneOwner ↔
    stores.talents.All fun id t => stores.talents.All fun id' t' =>
      ∀ rank < maxTalentRank, ∀ rank' < maxTalentRank, t.rank rank ≠ 0 → t'.rank rank' = t.rank rank →
        id' = id ∧ rank' = rank :=
  ⟨fun h id t ht id' t' ht' rank _ rank' _ hrank hsame => h id t rank id' t' rank' ht ht' hrank hsame,
    fun h id t rank id' t' rank' ht ht' hrank hsame => h id t ht id' t' ht' rank
      (rank_lt hrank) rank' (rank_lt (hsame ▸ hrank)) hrank hsame⟩

instance : Decidable stores.OneOwner := decidable_of_iff _ Stores.oneOwner_iff.symm

theorem talentTotals_iff : TalentTotals stores total p ↔ p.freeTalentPoints + p.usedTalentCount = total ∧
    (stores.talents.All fun _ t => (t.knownRanks p).length ≤ 1) ∧
      p.usedTalentCount = stores.talents.sum fun _ t => t.maxRank p :=
  ⟨fun h => ⟨h.sum, h.oneRank, h.used⟩, fun h => ⟨h.1, h.2.1, h.2.2⟩⟩

instance : Decidable (TalentTotals stores total p) := decidable_of_iff _ talentTotals_iff.symm

def novice (points : Nat) : Player := { spells := .empty, usedTalentCount := 0, freeTalentPoints := points }

def smallTree : Stores where
  talents := (OrdMap.empty.insert 1 { talentTab := 1, rankID := #v[101, 102, 103, 104, 105] }).insert 2
    { talentTab := 1, row := 1, rankID := #v[201, 202, 0, 0, 0], dependsOn := 1, dependsOnRank := 4 }
  tabs := OrdMap.empty.insert 1 1

def plainSpells : SpellMgr := { getSpellInfo := fun _ => some {} }

theorem orderly_plainSpells {spell : Nat}
    (hpermanent : ∀ x ∈ t.otherRanks spell, p.hasSpell x = true → p.holds x = true)
    (hdisabled : p.holds spell = true → t.knownRanks p = []) : Orderly stores plainSpells {} t spell p where
  info := ⟨{}, rfl, rfl, .inr (.inr rfl)⟩
  permanent := hpermanent
  disabled := hdisabled
  accompanied := by
    have hnone : ∀ {α : Type} {x : α} {P : Prop}, x ∈ ([] : List α) → P := fun h => nomatch h
    refine ⟨fun _ => False, fun _ => False, ⟨fun _ h => h.elim, fun _ h => h.elim, fun _ h => h.elim,
      fun _ h => h.elim, fun _ h => h.elim, fun _ h => h.elim, fun _ h => h.elim⟩,
      ⟨fun _ _ => hnone, fun _ _ => hnone, fun _ => hnone⟩,
      fun _ _ _ => ⟨fun _ _ => hnone, fun h => absurd rfl h, fun _ => hnone, fun _ => hnone⟩,
      fun _ h => h.elim, fun _ x hx => ?_⟩
    obtain ⟨hne, rfl⟩ | hx := hx
    · exact absurd rfl hne
    · exact hnone hx

def climb : List Event := [⟨⟨1, 0⟩, {}⟩, ⟨⟨1, 2⟩, {}⟩, ⟨⟨2, 0⟩, {}⟩, ⟨⟨1, 4⟩, {}⟩, ⟨⟨2, 1⟩, {}⟩]

theorem climb_allowed :
    AllSteps (learnTalent smallTree plainSpells 3) (Allowed smallTree plainSpells) (novice 8) climb := by
  refine ⟨.inr ⟨_, rfl, by decide, by decide, by decide, orderly_plainSpells ?_ ?_⟩,
    .inr ⟨_, rfl, by decide, by decide, by decide, orderly_plainSpells ?_ ?_⟩, .inl ?_,
    .inr ⟨_, rfl, by decide, by decide, by decide, orderly_plainSpells ?_ ?_⟩,
    .inr ⟨_, rfl, by decide, by decide, by decide, orderly_plainSpells ?_ ?_⟩, trivial⟩
  all_goals decide

theorem talentPoints_conserved_climb :
    (TalentTotals smallTree 8 (run (learnTalent smallTree plainSpells 3) (novice 8) climb) ∧
      AllSteps (learnTalent smallTree plainSpells 3) (fun p e => TalentTotals smallTree 8 p ∧
        Keeps smallTree p (learnTalent smallTree plainSpells 3 p e) e.request) (novice 8) climb) ∧
      (run (learnTalent smallTree plainSpells 3) (novice 8) climb).usedTalentCount = 7 :=
  ⟨talentPoints_conserved (by decide) (by decide) (by decide) (by decide) climb_allowed, by decide⟩

/-- A rank that is not in the spell store is not learned, however deep the calls may nest, and costs a point
all the same. -/
theorem learnTalent_charges_refused : smallTree.OneOwner ∧ TalentTotals smallTree 1 (novice 1) ∧
    ∀ fuel, ∃ q, learnTalent smallTree { getSpellInfo := fun _ => none } fuel (novice 1) ⟨⟨1, 0⟩, {}⟩ = q ∧
      rankKnown smallTree q ⟨1, 0⟩ = false ∧ q.freeTalentPoints = 0 ∧ q.usedTalentCount = 0 ∧
      ¬TalentTotals smallTree 1 q := by
  have hcheck : checkTalent smallTree (novice 1) ⟨1, 0⟩ = some (101, 0) := by decide
  refine ⟨by decide, by decide, fun fuel => ⟨novice 0, ?_, by decide, rfl, rfl, by decide⟩⟩
  have hspells : (nestedCalls smallTree { getSpellInfo := fun _ => none } {} fuel).learnSpell (novice 1) 101
      false = novice 1 := by
    match fuel with
    | 0 => rfl
    | 1 => rfl
    | _ + 2 => rfl
  unfold learnTalent
  rw [hcheck]
  dsimp only
  rw [hspells]
  rfl

end Axium.Talents
