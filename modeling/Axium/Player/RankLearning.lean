import Axium.Player.SpellFrame

/-!
# Learning a rank of a talent

What `learnSpell` does to the ranks and to `m_usedTalentCount` when the spell is a rank: `addSpell` first
removes the other ranks (`Forgets`), then enters the new one and adds its price (`complete_rank`). What comes
along with these spells stays within companions (`Teachable`, `Removable`), so that the two ledgers see the
ranks of this talent only.
-/

namespace Axium.Talents

open List TalentEntry Talents.Player

variable (stores : Stores) (mgr : SpellMgr) (env : Circumstances) (calls : Calls)
variable {t : TalentEntry} {state : PlayerSpellState}

def Stores.OneOwner : Prop :=
  ∀ id t rank id' t' rank', stores.talents.find? id = some t → stores.talents.find? id' = some t' →
    t.rank rank ≠ 0 → t'.rank rank' = t.rank rank → id' = id ∧ rank' = rank

variable {stores} {mgr} {env} {calls} {C L : Nat → Prop} {p q r : Player} {s : Nat}

theorem TalentEntry.rank_lt {rank : Nat} (h : t.rank rank ≠ 0) : rank < maxTalentRank := by
  by_contra hge
  refine h ?_
  unfold TalentEntry.rank
  rw [Vector.getElem?_eq_none (by omega), Option.getD_none]

theorem Stores.mem_rankSpells {spell : Nat} {pos : TalentSpellPos} :
    (spell, pos) ∈ stores.rankSpells ↔
      ∃ id t rank, stores.talents.find? id = some t ∧ t.rank rank ≠ 0 ∧ spell = t.rank rank ∧
        pos = ⟨id % 65536, rank⟩ := by
  unfold Stores.rankSpells
  simp only [mem_flatMap, mem_filterMap, mem_range]
  constructor
  · rintro ⟨e, he, rank, -, hsome⟩
    split at hsome
    · cases hsome
    · rename_i hrank
      cases hsome
      exact ⟨e.1, e.2, rank, OrdMap.find?_eq_some.2 he, hrank, rfl, rfl⟩
  · rintro ⟨id, t, rank, ht, hrank, rfl, rfl⟩
    exact ⟨(id, t), OrdMap.find?_eq_some.1 ht, rank, rank_lt hrank, if_neg hrank⟩

theorem Stores.OneOwner.getTalentSpellPos_eq (h : stores.OneOwner) {id rank : Nat}
    (ht : stores.talents.find? id = some t) (hrank : t.rank rank ≠ 0) :
    stores.getTalentSpellPos (t.rank rank) = some ⟨id % 65536, rank⟩ := by
  unfold Stores.getTalentSpellPos
  cases hfind : stores.rankSpells.reverse.find? fun e => e.1 = t.rank rank with
  | none =>
    have hmem : (t.rank rank, (⟨id % 65536, rank⟩ : TalentSpellPos)) ∈ stores.rankSpells :=
      Stores.mem_rankSpells.2 ⟨id, t, rank, ht, hrank, rfl, rfl⟩
    exact absurd (decide_eq_true rfl) (find?_eq_none.1 hfind _ (mem_reverse.2 hmem))
  | some e =>
    obtain ⟨id', t', rank', ht', hrank', hspell, hpos⟩ :=
      Stores.mem_rankSpells.1 (mem_reverse.1 (mem_of_find?_eq_some hfind))
    have hsame : e.1 = t.rank rank := by
      simpa only [decide_eq_true_eq] using find?_some hfind
    obtain ⟨rfl, rfl⟩ := h id t rank id' t' rank' ht ht' hrank (hspell.symm.trans hsame)
    rw [Option.map_some, hpos]

theorem Stores.OneOwner.getTalentSpellCost_eq (h : stores.OneOwner) {id rank : Nat}
    (ht : stores.talents.find? id = some t) (hrank : t.rank rank ≠ 0) :
    stores.getTalentSpellCost (t.rank rank) = rank + 1 := by
  unfold Stores.getTalentSpellCost
  rw [h.getTalentSpellPos_eq ht hrank]

theorem Stores.OneOwner.getTalentSpellPos_ne_none (h : stores.OneOwner) {id rank : Nat}
    (ht : stores.talents.find? id = some t) (hrank : t.rank rank ≠ 0) :
    stores.getTalentSpellPos (t.rank rank) ≠ none := by
  rw [h.getTalentSpellPos_eq ht hrank]
  exact Option.some_ne_none _

/-! ## The other ranks are unlearned -/

variable (stores) in
/-- `q` is `p` without the ranks among `lost`: their price is given back, the other ranks keep. -/
structure Forgets (lost : List Nat) (p q : Player) : Prop where
  free : q.freeTalentPoints = p.freeTalentPoints
  used : q.usedTalentCount =
    p.usedTalentCount - ((lost.filter p.hasSpell).map stores.getTalentSpellCost).sum
  spells : ∀ x, stores.getTalentSpellPos x ≠ none → x ∉ lost → Kept (p.spells.find? x) (q.spells.find? x)
  gone : ∀ x ∈ lost, q.hasSpell x = false
  enabled : ∀ x ∈ lost, p.isDisabled x = false → q.isDisabled x = false

theorem Forgets.nil (p : Player) : Forgets stores [] p p :=
  ⟨rfl, rfl, fun _ _ _ => .refl _, fun _ h => absurd h not_mem_nil,
    fun _ h => absurd h not_mem_nil⟩

theorem Forgets.cons {lost : List Nat} (hs : stores.getTalentSpellPos s ≠ none)
    (hlost : ∀ x ∈ lost, stores.getTalentSpellPos x ≠ none) (hnew : s ∉ lost)
    (h : Forgets stores [s] p q) (h' : Forgets stores lost q r) : Forgets stores (s :: lost) p r where
  free := h'.free.trans h.free
  used := by
    have hsame : lost.filter q.hasSpell = lost.filter p.hasSpell := by
      refine filter_congr fun x hx => (h.spells x (hlost x hx) ?_).hasSpell
      rintro hmem
      rw [mem_singleton.1 hmem] at hx
      exact hnew hx
    rw [h'.used, h.used, hsame, Nat.sub_sub, ← sum_append, ← map_append, ← filter_append, singleton_append]
  spells x hx hmem := by
    rw [mem_cons, not_or] at hmem
    exact (h.spells x hx fun hs => hmem.1 (mem_singleton.1 hs)).trans (h'.spells x hx hmem.2)
  gone x hx := by
    obtain rfl | hx := mem_cons.1 hx
    · rw [(h'.spells x hs hnew).hasSpell]
      exact h.gone x (mem_singleton.2 rfl)
    · exact h'.gone x hx
  enabled x hx hno := by
    by_cases hsame : x = s
    · subst hsame
      rw [(h'.spells x hs hnew).isDisabled]
      exact h.enabled x (mem_singleton.2 rfl) hno
    · have hkept := h.spells x ((mem_cons.1 hx).elim (fun h => absurd h hsame) (hlost x))
        fun hmem => hsame (mem_singleton.1 hmem)
      exact h'.enabled x ((mem_cons.1 hx).resolve_left hsame) (hkept.isDisabled.trans hno)

theorem dropSpell_free (p : Player) (s : Nat) (entry : PlayerSpell) (disabled : Bool) :
    (dropSpell p s entry disabled).freeTalentPoints = p.freeTalentPoints := by
  unfold dropSpell
  split
  · rfl
  · split <;> rfl

theorem find?_dropSpell_ne {x : Nat} (h : x ≠ s) (p : Player) (entry : PlayerSpell) (disabled : Bool) :
    (dropSpell p s entry disabled).spells.find? x = p.spells.find? x := by
  unfold dropSpell
  split
  · rw [find?_setSpell, if_neg h]
  · split
    · rw [find?_eraseSpell, if_neg h]
    · rw [find?_setSpell, if_neg h]

theorem hasSpell_dropSpell (p : Player) (s : Nat) (entry : PlayerSpell) :
    (dropSpell p s entry false).hasSpell s = false := by
  unfold dropSpell hasSpell
  split
  · rename_i hfalse
    exact absurd hfalse Bool.false_ne_true
  · split
    · rw [find?_eraseSpell, if_pos rfl]
      rfl
    · rw [find?_setSpell, if_pos rfl]
      rfl

variable {entry : PlayerSpell}

theorem isDisabled_dropSpell (hentry : entry.disabled = false) (p : Player) (s : Nat) :
    (dropSpell p s entry false).isDisabled s = false := by
  unfold dropSpell isDisabled
  split
  · rename_i hfalse
    exact absurd hfalse Bool.false_ne_true
  · split
    · rw [find?_eraseSpell, if_pos rfl]
      rfl
    · rw [find?_setSpell, if_pos rfl]
      exact hentry

theorem getTalentSpellCost_pos (hs : stores.getTalentSpellPos s ≠ none) : 0 < stores.getTalentSpellCost s := by
  unfold Stores.getTalentSpellCost
  cases hpos : stores.getTalentSpellPos s with
  | none => exact absurd hpos hs
  | some pos => exact Nat.succ_pos pos.rank

theorem forgets_removeListed (hstay : calls.Stay stores C fun _ => False)
    (hremovable : Removable stores mgr env C s) (hs : stores.getTalentSpellPos s ≠ none)
    (hbounded : p.usedTalentCount < 4294967296)
    (hfind : p.spells.find? s = some entry) (hlisted : entry.state ≠ .removed) (learnLowRank : Bool) :
    Forgets stores [s] p (removeListed stores mgr env calls p s entry false learnLowRank) := by
  have hcost := getTalentSpellCost_pos hs
  have hused : (takeSpell stores p s entry false).usedTalentCount =
      p.usedTalentCount - (([s].filter p.hasSpell).map stores.getTalentSpellCost).sum := by
    have hknown : p.hasSpell s = !entry.disabled := by
      unfold hasSpell
      rw [hfind, Option.any_some, decide_eq_true hlisted, Bool.true_and]
    unfold takeSpell
    rw [filter_singleton, hknown]
    cases entry.disabled <;> rfl
  have hframe : Frame stores (takeSpell stores p s entry false)
      (unlearnTaught mgr env calls (takeSpell stores p s entry false) s false) :=
    safe_unlearnTaught hstay hremovable _ false ⟨by omega, fun _ h => h.elim⟩
  rw [removeListed_eq, if_neg fun h => by omega]
  refine ⟨hframe.free.trans (dropSpell_free p s entry false), hframe.used.trans hused, ?_, ?_, ?_⟩
  · intro x hx hne
    have hkept := hframe.spells x hx
    rw [mem_singleton] at hne
    rwa [show (takeSpell stores p s entry false).spells.find? x = p.spells.find? x from
      find?_dropSpell_ne hne p entry false] at hkept
  · intro x hx
    rw [mem_singleton.1 hx, (hframe.spells s hs).hasSpell]
    exact hasSpell_dropSpell p s entry
  · intro x hx hno
    rw [mem_singleton.1 hx] at hno ⊢
    unfold isDisabled at hno
    rw [hfind] at hno
    rw [(hframe.spells s hs).isDisabled]
    exact isDisabled_dropSpell hno p s

theorem Forgets.idle (hno : p.hasSpell s = false) : Forgets stores [s] p p := by
  refine ⟨rfl, ?_, fun _ _ _ => .refl _, fun x hx => mem_singleton.1 hx ▸ hno, fun _ _ h => h⟩
  rw [filter_singleton, hno]
  rfl

theorem Forgets.after (hs : stores.getTalentSpellPos s ≠ none) (hframe : Frame stores p q)
    (h : Forgets stores [s] q r) : Forgets stores [s] p r where
  free := h.free.trans hframe.free
  used := by
    rw [h.used, hframe.used, filter_singleton, filter_singleton, (hframe.spells s hs).hasSpell]
  spells x hx hmem := (hframe.spells x hx).trans (h.spells x hx hmem)
  gone := h.gone
  enabled x hx hno := by
    refine h.enabled x hx ?_
    rw [mem_singleton.1 hx] at hno ⊢
    exact (hframe.spells s hs).isDisabled.trans hno

theorem forgets_removeSpell (hstay : calls.Stay stores C fun _ => False)
    (hremovable : p.listed s = true → Removable stores mgr env C s)
    (hs : stores.getTalentSpellPos s ≠ none) (hbounded : p.usedTalentCount < 4294967296)
    (htemp : p.hasSpell s = true → p.holds s = true) (learnLowRank : Bool) :
    Forgets stores [s] p (removeSpell stores mgr env calls p s false learnLowRank) := by
  rw [removeSpell_eq]
  unfold hasSpell holds at htemp
  unfold listed at hremovable
  cases hfind : p.spells.find? s with
  | none =>
    refine .idle ?_
    unfold hasSpell
    rw [hfind]
    rfl
  | some entry =>
    rw [hfind, Option.any_some, Option.any_some] at htemp
    rw [hfind] at hremovable
    dsimp only
    split
    · rename_i hstays
      refine .idle ?_
      unfold hasSpell
      rw [hfind]
      by_contra hknown
      have hholds := htemp (Bool.of_not_eq_false hknown)
      rw [Bool.and_eq_true, decide_eq_true_eq, decide_eq_true_eq] at hholds
      obtain hremoved | ⟨hfalse, -⟩ | htemporary := hstays
      · exact hholds.1 hremoved
      · exact Bool.false_ne_true hfalse
      · exact hholds.2 htemporary
    · rename_i hgoes
      rw [not_or] at hgoes
      have hremovable := hremovable (decide_eq_true hgoes.1)
      have hframe := safe_unlearnDependents hstay hremovable p false ⟨hbounded, fun _ h => h.elim⟩
      have hkept := hframe.spells s hs
      rw [hfind] at hkept
      obtain ⟨entry₁, hfind₁, hremoved, -⟩ := entry_of_kept hkept
      rw [hfind₁]
      exact .after hs hframe (forgets_removeListed hstay hremovable hs (hframe.used ▸ hbounded) hfind₁
        (fun h => hgoes.1 (hremoved.1 h)) learnLowRank)

def TalentEntry.otherRanks (t : TalentEntry) (spellId : Nat) : List Nat :=
  ((range maxTalentRank).filter fun rank => t.rank rank ≠ 0 && t.rank rank ≠ spellId).map t.rank

theorem unlearnOtherRanks_eq (p : Player) (spellId : Nat) (t : TalentEntry) :
    unlearnOtherRanks calls p spellId t =
      (t.otherRanks spellId).foldl (fun p s => calls.removeSpell p s false false) p := by
  unfold unlearnOtherRanks otherRanks
  rw [foldl_map, foldl_filter]
  congr 1
  funext p rank
  by_cases h : t.rank rank = 0 ∨ t.rank rank = spellId
  · rw [if_pos h, if_neg]
    rw [Bool.and_eq_true, decide_eq_true_eq, decide_eq_true_eq]
    exact fun hne => h.elim hne.1 hne.2
  · rw [if_neg h, if_pos]
    rw [Bool.and_eq_true, decide_eq_true_eq, decide_eq_true_eq]
    exact not_or.1 h

theorem TalentEntry.mem_otherRanks {spellId x : Nat} :
    x ∈ t.otherRanks spellId ↔ ∃ rank, t.rank rank = x ∧ x ≠ 0 ∧ x ≠ spellId := by
  unfold otherRanks
  simp only [mem_map, mem_filter, mem_range, ne_eq, Bool.and_eq_true, decide_eq_true_eq]
  constructor
  · rintro ⟨rank, ⟨-, hzero, hne⟩, rfl⟩
    exact ⟨rank, rfl, hzero, hne⟩
  · rintro ⟨rank, rfl, hzero, hne⟩
    exact ⟨rank, ⟨rank_lt hzero, hzero, hne⟩, rfl⟩

theorem Stores.OneOwner.nodup_otherRanks (h : stores.OneOwner) {id : Nat}
    (ht : stores.talents.find? id = some t) (spellId : Nat) : (t.otherRanks spellId).Nodup := by
  refine List.Nodup.map_on ?_ (nodup_range.filter _)
  intro rank hrank rank' _ hsame
  have hzero : t.rank rank ≠ 0 := by
    have hkeep := (mem_filter.1 hrank).2
    rw [Bool.and_eq_true] at hkeep
    exact of_decide_eq_true hkeep.1
  exact (h id t rank id t rank' ht ht hzero hsame.symm).2.symm

theorem Stores.OneOwner.sum_otherRanks (h : stores.OneOwner) {id : Nat}
    (ht : stores.talents.find? id = some t) {spellId : Nat} (hno : p.hasSpell spellId = false) :
    (((t.otherRanks spellId).filter p.hasSpell).map stores.getTalentSpellCost).sum = t.points p := by
  unfold otherRanks points knownRanks
  rw [filter_map, filter_filter, map_map]
  have hfilter : ((range maxTalentRank).filter fun rank =>
        (p.hasSpell ∘ t.rank) rank && (t.rank rank ≠ 0 && t.rank rank ≠ spellId)) =
      (range maxTalentRank).filter fun rank => t.rank rank ≠ 0 && p.hasSpell (t.rank rank) := by
    refine filter_congr fun rank _ => ?_
    by_cases hspell : t.rank rank = spellId
    · simp [hspell, hno]
    · simp [hspell, Bool.and_comm]
  rw [hfilter]
  congr 1
  refine map_congr_left fun rank hrank => h.getTalentSpellCost_eq ht ?_
  have hkeep := (mem_filter.1 hrank).2
  rw [Bool.and_eq_true] at hkeep
  exact of_decide_eq_true hkeep.1

theorem Companions.toRemove (h : Companions stores mgr env C L) : Companions stores mgr env C fun _ => False :=
  ⟨h.plain, h.closed, h.removes, h.changes, fun _ h => h.elim, fun _ h => h.elim, fun _ h => h.elim⟩

theorem forgets_foldl (h : Companions stores mgr env C fun _ => False) (fuel : Nat) {lost : List Nat}
    (hnodup : lost.Nodup) (hlost : ∀ x ∈ lost, stores.getTalentSpellPos x ≠ none)
    (hremovable : ∀ x ∈ lost, p.listed x = true → Removable stores mgr env C x)
    (hbounded : p.usedTalentCount < 4294967296) (htemp : ∀ x ∈ lost, p.hasSpell x = true → p.holds x = true) :
    Forgets stores lost p (lost.foldl (fun p s =>
      (nestedCalls stores mgr env (fuel + 1)).removeSpell p s false false) p) := by
  induction lost generalizing p with
  | nil => exact .nil p
  | cons s lost ih =>
    rw [nodup_cons] at hnodup
    have hs := hlost s mem_cons_self
    have hrest : ∀ x ∈ lost, stores.getTalentSpellPos x ≠ none := fun x hx => hlost x (mem_cons_of_mem s hx)
    have hone : Forgets stores [s] p ((nestedCalls stores mgr env (fuel + 1)).removeSpell p s false false) :=
      forgets_removeSpell (nestedCalls_stay h fuel) (hremovable s mem_cons_self) hs hbounded
        (htemp s mem_cons_self) false
    have hkept : ∀ x ∈ lost, Kept (p.spells.find? x)
        (((nestedCalls stores mgr env (fuel + 1)).removeSpell p s false false).spells.find? x) := by
      intro x hx
      refine hone.spells x (hrest x hx) fun hmem => hnodup.1 ?_
      rwa [← mem_singleton.1 hmem]
    refine hone.cons hs hrest hnodup.1 (ih hnodup.2 hrest
      (fun x hx hlisted => hremovable x (mem_cons_of_mem s hx) ((hkept x hx).listed ▸ hlisted)) ?_
      fun x hx hknown => ?_)
    · rw [hone.used]
      omega
    · rw [(hkept x hx).hasSpell] at hknown
      exact (hkept x hx).holds (htemp x (mem_cons_of_mem s hx) hknown)

/-! ## The rank is entered and paid -/

variable (mgr env C L) in
/-- What comes along with `s` when it is learned is among `C` and `L`. -/
structure Teachable (s : Nat) : Prop where
  casts : ∀ p, ∀ c ∈ env.castChanges p s, c.Within C L
  skills : ∀ p, ∀ c ∈ env.skillsLearned p s, c.Within C L
  learns : ∀ node ∈ mgr.spellLearnSpells s, C node.spell ∨ L node.spell

/-- `addSpell` does not leave at the skill step, before the price is counted. -/
def SpellInfo.Counted (info : SpellInfo) : Prop :=
  info.hasLearnSpell = true ∨ info.isPassive = true ∨ info.hasSkillStep = false

def Player.pay (p : Player) (cost : Nat) : Player := { p with usedTalentCount := p.usedTalentCount + cost }

theorem frame_completeSpell (hstay : calls.Stay stores C L) (h : Teachable mgr env C L s)
    (hs : stores.getTalentSpellPos s ≠ none) (hp : Ready stores L p)
    (hsum : p.usedTalentCount + stores.getTalentSpellCost s < 4294967296) {info : SpellInfo}
    (hcounted : info.Counted) (shown : Bool) :
    Frame stores (p.pay (stores.getTalentSpellCost s))
      (completeSpell stores mgr env calls p s info shown false).1 := by
  have hpos := getTalentSpellCost_pos hs
  have hcount : ∀ q, Frame stores p q → Frame stores (p.pay (stores.getTalentSpellCost s))
      (bringAlong mgr env calls { q with
        usedTalentCount := (q.usedTalentCount + stores.getTalentSpellCost s) % 4294967296 } s) := by
    intro q hq
    have hpaid : Frame stores (p.pay (stores.getTalentSpellCost s)) { q with
        usedTalentCount := (q.usedTalentCount + stores.getTalentSpellCost s) % 4294967296 } := by
      refine ⟨?_, hq.free, hq.spells⟩
      unfold pay
      rw [hq.used, Nat.mod_eq_of_lt hsum]
    exact hpaid.trans (safe_bringAlong hstay h.skills h.learns _ (hpaid.ready ⟨hsum, hp.settled⟩))
  have hcast : Frame stores p (castSpell env calls p s) := safe_castSpell hstay h.casts p hp
  unfold completeSpell
  dsimp only
  split
  · exact hcount _ hcast
  · rename_i hlearn
    split
    · split
      · exact hcount _ hcast
      · exact hcount p (.refl p)
    · rename_i hpassive
      split
      · rename_i hstep
        obtain hteaches | hpassive' | hstep' := hcounted
        · exact absurd ⟨rfl, hpos, hteaches⟩ hlearn
        · exact absurd hpassive' hpassive
        · rw [hstep'] at hstep
          exact absurd hstep Bool.false_ne_true
      · exact hcount p (.refl p)

variable (stores) in
/-- `q` is `p` with the spell, a rank of the talent, in place of the other ranks. -/
structure Replaces (t : TalentEntry) (spell : Nat) (p q : Player) : Prop where
  free : q.freeTalentPoints = p.freeTalentPoints
  used : q.usedTalentCount = p.usedTalentCount - t.points p + stores.getTalentSpellCost spell
  settled : q.settled spell = true
  gone : ∀ x ∈ t.otherRanks spell, q.hasSpell x = false
  spells : ∀ x, stores.getTalentSpellPos x ≠ none → (∀ rank, t.rank rank ≠ x) →
    Kept (p.spells.find? x) (q.spells.find? x)
  enabled : ∀ x, stores.getTalentSpellPos x ≠ none → p.isDisabled x = false → q.isDisabled x = false

theorem TalentEntry.mem_knownRanks {rank : Nat} :
    rank ∈ t.knownRanks p ↔ t.rank rank ≠ 0 ∧ p.hasSpell (t.rank rank) = true := by
  unfold knownRanks
  rw [mem_filter, mem_range, Bool.and_eq_true, decide_eq_true_eq]
  exact ⟨And.right, fun h => ⟨rank_lt h.1, h⟩⟩

theorem TalentEntry.knownRanks_congr
    (h : ∀ rank, t.rank rank ≠ 0 → q.hasSpell (t.rank rank) = p.hasSpell (t.rank rank)) :
    t.knownRanks q = t.knownRanks p := by
  refine filter_congr fun rank _ => ?_
  by_cases hzero : t.rank rank = 0
  · simp [hzero]
  · rw [h rank hzero]

theorem TalentEntry.points_congr
    (h : ∀ rank, t.rank rank ≠ 0 → q.hasSpell (t.rank rank) = p.hasSpell (t.rank rank)) :
    t.points q = t.points p := by
  unfold points
  rw [knownRanks_congr h]

theorem TalentEntry.maxRank_congr
    (h : ∀ rank, t.rank rank ≠ 0 → q.hasSpell (t.rank rank) = p.hasSpell (t.rank rank)) :
    t.maxRank q = t.maxRank p := by
  unfold maxRank
  congr 2
  funext rank
  by_cases hzero : t.rank rank = 0
  · simp [hzero]
  · rw [h rank hzero]

theorem isDisabled_of_settled (h : p.settled s = true) : p.isDisabled s = false := by
  obtain ⟨entry, hfind, hentry⟩ := settled_iff.1 h
  unfold isDisabled
  rw [hfind]
  exact hentry.disabled

variable {t : TalentEntry} {id rank : Nat}

theorem Replaces.frame (hdata : stores.OneOwner) (ht : stores.talents.find? id = some t)
    (hrank : t.rank rank ≠ 0) (h : Replaces stores t (t.rank rank) p q) (hframe : Frame stores q r) :
    Replaces stores t (t.rank rank) p r where
  free := hframe.free.trans h.free
  used := hframe.used.trans h.used
  settled := (hframe.spells _ (hdata.getTalentSpellPos_ne_none ht hrank)).settled h.settled
  gone x hx := by
    obtain ⟨other, rfl, hzero, -⟩ := mem_otherRanks.1 hx
    rw [(hframe.spells _ (hdata.getTalentSpellPos_ne_none ht hzero)).hasSpell]
    exact h.gone _ hx
  spells x hx hother := (h.spells x hx hother).trans (hframe.spells x hx)
  enabled x hx hno := (hframe.spells x hx).isDisabled.trans (h.enabled x hx hno)

theorem Replaces.ready (h : Replaces stores t s p q) (hbounded : q.usedTalentCount < 4294967296)
    (hL : ∀ x, L x → stores.getTalentSpellPos x ≠ none →
      x = s ∨ p.settled x = true ∧ ∀ rank, t.rank rank ≠ x) : Ready stores L q := by
  refine ⟨hbounded, fun x hx hpos => ?_⟩
  obtain rfl | ⟨hsettled, hother⟩ := hL x hx hpos
  · exact h.settled
  · exact (h.spells x hpos hother).settled hsettled

variable (stores mgr env C L) in
/-- What the learning of a rank brings along stays among `C` and `L`, and the ranks among `L` are known for
good, or are the rank itself. -/
structure Accompanied (t : TalentEntry) (spell : Nat) (p : Player) : Prop where
  companions : Companions stores mgr env C L
  teachable : Teachable mgr env C L spell
  removable : ∀ x ∈ t.otherRanks spell, p.listed x = true → Removable stores mgr env C x
  settled : ∀ x, L x → stores.getTalentSpellPos x ≠ none →
    x = spell ∨ p.settled x = true ∧ ∀ rank, t.rank rank ≠ x
  relearned : p.isDisabled spell = true →
    ∀ x, (x ≠ 0 ∧ x = mgr.nextSpellInChain spell ∨ x ∈ mgr.spellsRequiringSpell spell) →
      C x ∨ L x ∨ stores.getTalentSpellPos x ≠ none ∧ p.isDisabled x = false

theorem hasSpell_eraseSpell (hno : p.hasSpell s = false) (x : Nat) :
    (p.eraseSpell s).hasSpell x = p.hasSpell x := by
  by_cases hx : x = s
  · rw [hx, hno]
    unfold hasSpell
    rw [find?_eraseSpell, if_pos rfl]
    rfl
  · unfold hasSpell
    rw [find?_eraseSpell, if_neg hx]

theorem replaces_setSpell (hnone : t.knownRanks p = []) (hentry : entry.Settled) :
    Replaces stores t (t.rank rank) p ((p.setSpell (t.rank rank) entry).pay
      (stores.getTalentSpellCost (t.rank rank))) := by
  have hsettled : (p.setSpell (t.rank rank) entry).settled (t.rank rank) = true := by
    rw [settled_iff]
    exact ⟨entry, by rw [find?_setSpell, if_pos rfl], hentry⟩
  have hpoints : t.points p = 0 := by
    unfold points
    rw [hnone]
    rfl
  refine ⟨rfl, ?_, hsettled, fun x hx => ?_, fun x hpos hother => ?_, fun x hpos hfalse => ?_⟩
  · rw [hpoints]
    rfl
  · obtain ⟨other, rfl, hzero, hne⟩ := mem_otherRanks.1 hx
    have hno : p.hasSpell (t.rank other) = false := by
      by_contra hknown
      have hmem : other ∈ t.knownRanks p := mem_knownRanks.2 ⟨hzero, Bool.of_not_eq_false hknown⟩
      rw [hnone] at hmem
      exact absurd hmem not_mem_nil
    unfold hasSpell pay at *
    rwa [find?_setSpell, if_neg hne]
  · unfold pay
    dsimp only
    rw [find?_setSpell, if_neg (hother rank).symm]
    exact .refl _
  · by_cases hx : x = t.rank rank
    · rw [hx]
      exact isDisabled_of_settled hsettled
    · unfold isDisabled pay at *
      rwa [find?_setSpell, if_neg hx]

theorem addListed_removed (hremoved : entry.state = .removed) (info : SpellInfo)
    (active learning dependent disabled : Bool) :
    addListed mgr env calls p s info entry active learning dependent disabled =
      .add (p.eraseSpell s) (active && !nextActive mgr p s info) := by
  have hset : entry.dependentSet dependent = false := by
    unfold PlayerSpell.dependentSet
    rw [hremoved]
    rfl
  unfold addListed updateListed
  rw [if_neg fun h => h.1 hremoved, hset, if_neg Bool.false_ne_true, if_neg fun h => h.2.1 hremoved,
    if_neg fun h => h.2 hremoved, hremoved]

theorem addListed_disabled (hremoved : entry.state ≠ .removed)
    (hdisabled : entry.disabled = true) (info : SpellInfo) (active learning : Bool) :
    addListed mgr env calls p s info entry active learning false false =
      .enabled (p.setSpell s { entry.touch with disabled := false })
        (active && !nextActive mgr p s info) := by
  have hset : entry.dependentSet false = false := by
    unfold PlayerSpell.dependentSet
    rw [Bool.and_false]
  have hdiffers : entry.disabled ≠ false := by
    rw [hdisabled]
    exact Bool.noConfusion
  unfold addListed updateListed
  rw [if_neg fun h => hdiffers h.2.2.2, hset, if_neg Bool.false_ne_true, if_neg fun h => hdiffers h.2.2,
    if_pos ⟨hdiffers, hremoved⟩, if_neg Bool.false_ne_true]

variable (mgr) in
theorem settled_enterSpell (p : Player) (s : Nat) (info : SpellInfo)
    (hstate : state = .new ∨ state = .changed) (active : Bool) :
    (enterSpell mgr p s info ⟨state, active, false, false⟩).1.settled s = true := by
  obtain ⟨-, -, -, entry, hfind, hdisabled, hentry⟩ :=
    enterSpell_spec mgr p s info ⟨state, active, false, false⟩
  have hstates : entry.state = .new ∨ entry.state = .changed := by
    obtain hsame | htouched := hentry
    · exact hsame ▸ hstate
    · rw [htouched]
      unfold PlayerSpell.touch
      split
      · exact .inl rfl
      · exact .inr rfl
  rw [settled_iff]
  refine ⟨entry, hfind, ?_, ?_, hdisabled⟩
  · obtain h | h := hstates <;> rw [h] <;> decide
  · obtain h | h := hstates <;> rw [h] <;> decide

section
variable (hdata : stores.OneOwner) (ht : stores.talents.find? id = some t)
include hdata ht

theorem Stores.OneOwner.otherRanks_spec {spellId x : Nat} (hx : x ∈ t.otherRanks spellId) :
    x ≠ spellId ∧ stores.getTalentSpellPos x ≠ none := by
  obtain ⟨other, rfl, hzero, hne⟩ := mem_otherRanks.1 hx
  exact ⟨hne, hdata.getTalentSpellPos_ne_none ht hzero⟩

theorem forgets_otherRanks (hno : p.hasSpell s = false) (hbounded : p.usedTalentCount < 4294967296)
    (htemp : ∀ x ∈ t.otherRanks s, p.hasSpell x = true → p.holds x = true)
    (h : Accompanied stores mgr env C L t s p) (fuel : Nat) :
    Forgets stores (t.otherRanks s) (p.eraseSpell s)
      (unlearnOtherRanks (nestedCalls stores mgr env (fuel + 1)) (p.eraseSpell s) s t) := by
  rw [unlearnOtherRanks_eq]
  refine forgets_foldl h.companions.toRemove fuel (hdata.nodup_otherRanks ht s)
    (fun x hx => (hdata.otherRanks_spec ht hx).2) (fun x hx hlisted => h.removable x hx ?_) hbounded
    fun x hx hknown => ?_
  · unfold listed at hlisted ⊢
    rwa [find?_eraseSpell, if_neg (hdata.otherRanks_spec ht hx).1] at hlisted
  · rw [hasSpell_eraseSpell hno] at hknown
    have hholds := htemp x hx hknown
    unfold holds at hholds ⊢
    rwa [find?_eraseSpell, if_neg (hdata.otherRanks_spec ht hx).1]

theorem replaces_enterSpell (hno : p.hasSpell (t.rank rank) = false) (hbounded : p.usedTalentCount < 4294967296)
    (htemp : ∀ x ∈ t.otherRanks (t.rank rank), p.hasSpell x = true → p.holds x = true)
    (h : Accompanied stores mgr env C L t (t.rank rank) p) (fuel : Nat) (info : SpellInfo) (hstate : state = .new ∨ state = .changed) (active : Bool) :
    Replaces stores t (t.rank rank) p ((enterSpell mgr
      (unlearnOtherRanks (nestedCalls stores mgr env (fuel + 1)) (p.eraseSpell (t.rank rank)) (t.rank rank) t)
      (t.rank rank) info ⟨state, active, false, false⟩).1.pay (stores.getTalentSpellCost (t.rank rank))) := by
  have hforgets := forgets_otherRanks hdata ht hno hbounded htemp h fuel
  generalize unlearnOtherRanks (nestedCalls stores mgr env (fuel + 1)) (p.eraseSpell (t.rank rank))
    (t.rank rank) t = p₁ at hforgets ⊢
  obtain ⟨hused, hfree, hkept, -⟩ := enterSpell_spec mgr p₁ (t.rank rank) info ⟨state, active, false, false⟩
  have hsettled := settled_enterSpell mgr p₁ (t.rank rank) info hstate active
  have herased : ∀ x, x ≠ t.rank rank →
      (p.eraseSpell (t.rank rank)).spells.find? x = p.spells.find? x := fun x hx => by
    rw [find?_eraseSpell, if_neg hx]
  refine ⟨hfree.trans hforgets.free, ?_, hsettled, ?_, ?_, ?_⟩
  · have hpoints : t.points (p.eraseSpell (t.rank rank)) = t.points p :=
      points_congr fun other _ => hasSpell_eraseSpell hno _
    unfold pay
    rw [hused, hforgets.used, hdata.sum_otherRanks ht ((hasSpell_eraseSpell hno _).trans hno), hpoints]
    rfl
  · intro x hx
    exact (hkept x (hdata.otherRanks_spec ht hx).1).hasSpell.trans (hforgets.gone x hx)
  · intro x hpos hother
    have hne : x ≠ t.rank rank := (hother rank).symm
    have hkeeps := hforgets.spells x hpos fun hmem => by
      obtain ⟨other, hrank', -⟩ := mem_otherRanks.1 hmem
      exact hother other hrank'
    rw [herased x hne] at hkeeps
    exact hkeeps.trans (hkept x hne)
  · intro x hpos hfalse
    by_cases hx : x = t.rank rank
    · rw [hx]
      exact isDisabled_of_settled hsettled
    · refine (hkept x hx).isDisabled.trans ?_
      have hfalse₀ : (p.eraseSpell (t.rank rank)).isDisabled x = false := by
        unfold isDisabled at hfalse ⊢
        rwa [herased x hx]
      by_cases hmem : x ∈ t.otherRanks (t.rank rank)
      · exact hforgets.enabled x hmem hfalse₀
      · exact (hforgets.spells x hpos hmem).isDisabled.trans hfalse₀

variable (stores mgr env) in
/-- The rank can be learned as the ledger expects: `addSpell` takes it and counts its price, no rank is held
for a while only, a disabled rank is the only one, and what comes along stays among companions. -/
structure Orderly (t : TalentEntry) (spell : Nat) (p : Player) : Prop where
  info : ∃ info, mgr.getSpellInfo spell = some info ∧ info.isValid = true ∧ info.Counted
  permanent : ∀ x ∈ t.otherRanks spell, p.hasSpell x = true → p.holds x = true
  disabled : p.holds spell = true → t.knownRanks p = []
  accompanied : ∃ C L, Accompanied stores mgr env C L t spell p

variable (hid : id < 65536) (hrank : t.rank rank ≠ 0) (hno : p.hasSpell (t.rank rank) = false)
  (hbounded : p.usedTalentCount < 4294967296)
  (hsum : p.usedTalentCount - t.points p + stores.getTalentSpellCost (t.rank rank) < 4294967296)
  (htemp : ∀ x ∈ t.otherRanks (t.rank rank), p.hasSpell x = true → p.holds x = true)
  (h : Accompanied stores mgr env C L t (t.rank rank) p)
include hrank hsum h

theorem replaces_completeSpell {info : SpellInfo} (hcounted : info.Counted) {fuel : Nat}
    (hq : Replaces stores t (t.rank rank) p (q.pay (stores.getTalentSpellCost (t.rank rank)))) (shown : Bool) :
    Replaces stores t (t.rank rank) p (completeSpell stores mgr env (nestedCalls stores mgr env fuel) q
      (t.rank rank) info shown false).1 := by
  have hbound : (q.pay (stores.getTalentSpellCost (t.rank rank))).usedTalentCount < 4294967296 :=
    hq.used ▸ hsum
  have hpaid := hq.ready hbound h.settled
  have hready : Ready stores L q := ⟨lt_of_le_of_lt (Nat.le_add_right _ _) hbound, hpaid.settled⟩
  exact hq.frame hdata ht hrank (frame_completeSpell (nestedCalls_stay h.companions fuel) h.teachable
    (hdata.getTalentSpellPos_ne_none ht hrank) hready hbound hcounted shown)

include hid hno hbounded htemp

theorem replaces_addUnlisted {info : SpellInfo} (hcounted : info.Counted) (fuel : Nat) (hstate : state = .new ∨ state = .changed) (active : Bool) :
    Replaces stores t (t.rank rank) p (addUnlisted stores mgr env (nestedCalls stores mgr env (fuel + 1))
      (p.eraseSpell (t.rank rank)) (t.rank rank) info state active false false false false).1 := by
  have hsettle : settleRanks stores mgr env (nestedCalls stores mgr env (fuel + 1))
        (p.eraseSpell (t.rank rank)) (t.rank rank) active false false =
      unlearnOtherRanks (nestedCalls stores mgr env (fuel + 1)) (p.eraseSpell (t.rank rank)) (t.rank rank)
        t := by
    unfold settleRanks
    rw [hdata.getTalentSpellPos_eq ht hrank]
    dsimp only
    rw [Nat.mod_eq_of_lt hid, ht]
  unfold addUnlisted
  rw [hsettle]
  exact replaces_completeSpell hdata ht hrank hsum h hcounted
    (replaces_enterSpell hdata ht hno hbounded htemp h fuel info hstate active) _

theorem replaces_addSpell (hinfo : ∃ info, mgr.getSpellInfo (t.rank rank) = some info ∧
      info.isValid = true ∧ info.Counted)
    (hdisabled : p.holds (t.rank rank) = true → t.knownRanks p = []) (fuel : Nat) (active : Bool) :
    Replaces stores t (t.rank rank) p (addSpell stores mgr env (nestedCalls stores mgr env (fuel + 1)) p
      (t.rank rank) active true false false false false).1 := by
  obtain ⟨info, hfound, hvalid, hcounted⟩ := hinfo
  have hunlisted : ∀ state, (state = .new ∨ state = .changed) → ∀ active,
      Replaces stores t (t.rank rank) p (addUnlisted stores mgr env (nestedCalls stores mgr env (fuel + 1))
        (p.eraseSpell (t.rank rank)) (t.rank rank) info state active false false false false).1 :=
    fun _ hstate active =>
      replaces_addUnlisted hdata ht hid hrank hno hbounded hsum htemp h hcounted fuel hstate active
  unfold addSpell
  rw [hfound]
  dsimp only
  rw [if_neg (by rw [hvalid]; exact Bool.noConfusion)]
  cases hfind : p.spells.find? (t.rank rank) with
  | none =>
    have herase : p.eraseSpell (t.rank rank) = p := by
      unfold eraseSpell
      rw [OrdMap.erase_of_find?_none hfind]
    have hnew := hunlisted .new (.inl rfl) active
    rw [herase] at hnew
    exact hnew
  | some entry =>
    dsimp only
    split
    · exact hunlisted .new (.inl rfl) active
    · rename_i htemporary
      by_cases hremoved : entry.state = .removed
      · rw [addListed_removed hremoved]
        exact hunlisted .changed (.inr rfl) _
      · have hentry : entry.disabled = true := by
          unfold hasSpell at hno
          rw [hfind, Option.any_some, decide_eq_true hremoved] at hno
          exact Bool.not_eq_false' .. ▸ hno
        have hholds : p.holds (t.rank rank) = true := by
          unfold holds
          rw [hfind, Option.any_some, decide_eq_true hremoved, decide_eq_true htemporary]
          rfl
        rw [addListed_disabled hremoved hentry]
        have henabled : PlayerSpell.Settled { entry.touch with disabled := false } :=
          ⟨(touch_state_ne entry).1, (touch_state_ne entry).2, rfl⟩
        exact replaces_completeSpell hdata ht hrank hsum h hcounted
          (replaces_setSpell (hdisabled hholds) henabled) _

omit h htemp in
/-- **A rank that is learned takes the place of the other ranks of its talent**, and the used count follows. -/
theorem replaces_learnSpell (h : Orderly stores mgr env t (t.rank rank) p) (fuel : Nat) :
    Replaces stores t (t.rank rank) p
      ((nestedCalls stores mgr env (fuel + 3)).learnSpell p (t.rank rank) false) := by
  obtain ⟨C, L, hwith⟩ := h.accompanied
  have hadd : ∀ active, Replaces stores t (t.rank rank) p
      ((nestedCalls stores mgr env (fuel + 2)).addSpell p (t.rank rank) active true false false).1 :=
    fun active => replaces_addSpell hdata ht hid hrank hno hbounded hsum h.permanent hwith h.info h.disabled
      fuel active
  change Replaces stores t (t.rank rank) p
    (learnSpell mgr (nestedCalls stores mgr env (fuel + 2)) p (t.rank rank) false)
  rw [learnSpell_eq]
  have hadd := hadd (!p.isDisabled (t.rank rank) || (p.spells.find? (t.rank rank)).any (·.active))
  split
  · rename_i hdisabled
    have hready := hadd.ready (hadd.used ▸ hsum) hwith.settled
    refine hadd.frame hdata ht hrank
      (frame_relearn (nestedCalls_stay hwith.companions (fuel + 2)) hready fun x hx => ?_)
    refine (hwith.relearned hdisabled x hx).imp_right (Or.imp_right fun hx => ?_)
    exact ⟨hx.1, hadd.enabled x hx.1 hx.2⟩
  · exact hadd

end

end Axium.Talents
