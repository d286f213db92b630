import Axium.Player.Talents

/-!
# What the learning of other spells leaves alone

`addSpell`, `learnSpell` and `removeSpell` follow the chains and the taught spells of a spell. As long as
they stay within spells that are no talent ranks (`Companions.plain`), or only learn again a rank that is
known already, the ranks and the two ledgers keep (`Frame`), however deep the calls nest
(`nestedCalls_stay`).
-/

namespace Axium.Talents

open OrdMap PlayerSpell

/-- What a rank keeps: whether it is listed, removed, disabled, and that it does not become temporary. -/
inductive Kept : Option PlayerSpell → Option PlayerSpell → Prop where
  | none : Kept none none
  | some {e e' : PlayerSpell} (removed : e'.state = .removed ↔ e.state = .removed)
      (disabled : e'.disabled = e.disabled) (temporary : e'.state = .temporary → e.state = .temporary) :
      Kept (some e) (some e')

theorem Kept.refl : ∀ e : Option PlayerSpell, Kept e e
  | .none => .none
  | .some _ => .some Iff.rfl rfl id

theorem Kept.trans {e e' e'' : Option PlayerSpell} (h : Kept e e') (h' : Kept e' e'') : Kept e e'' := by
  cases h with
  | none => exact h'
  | some removed disabled temporary =>
    cases h' with
    | some removed' disabled' temporary' =>
      exact .some (removed'.trans removed) (disabled'.trans disabled) fun ht => temporary (temporary' ht)

theorem entry_of_kept {e : PlayerSpell} {o : Option PlayerSpell} (h : Kept (some e) o) :
    ∃ e', o = some e' ∧ (e'.state = .removed ↔ e.state = .removed) ∧ e'.disabled = e.disabled := by
  cases h with
  | some removed disabled temporary => exact ⟨_, rfl, removed, disabled⟩

/-- The entry is one that `removeSpell` takes. -/
def Player.holds (p : Player) (spell : Nat) : Bool :=
  (p.spells.find? spell).any fun entry => entry.state ≠ .removed && entry.state ≠ .temporary

def Player.listed (p : Player) (spell : Nat) : Bool := (p.spells.find? spell).any (·.state ≠ .removed)

def Player.settled (p : Player) (spell : Nat) : Bool := p.holds spell && p.hasSpell spell

structure PlayerSpell.Settled (entry : PlayerSpell) : Prop where
  removed : entry.state ≠ .removed
  temporary : entry.state ≠ .temporary
  disabled : entry.disabled = false

theorem PlayerSpell.Settled.kept {entry entry' : PlayerSpell} (h : entry.Settled) (h' : entry'.Settled) :
    Kept (some entry) (some entry') :=
  .some (iff_of_false h'.removed h.removed) (h'.disabled.trans h.disabled.symm) fun ht =>
    absurd ht h'.temporary

theorem Player.settled_iff {p : Player} {s : Nat} :
    p.settled s = true ↔ ∃ entry, p.spells.find? s = some entry ∧ entry.Settled := by
  unfold Player.settled Player.holds Player.hasSpell
  cases p.spells.find? s with
  | none => simp
  | some entry =>
    simp only [Option.any_some, Bool.and_eq_true, decide_eq_true_eq, Bool.not_eq_true',
      Option.some.injEq, exists_eq_left']
    exact ⟨fun h => ⟨h.1.1, h.1.2, h.2.2⟩, fun h => ⟨⟨h.removed, h.temporary⟩, h.removed, h.disabled⟩⟩

theorem Kept.hasSpell {p q : Player} {s : Nat} (h : Kept (p.spells.find? s) (q.spells.find? s)) :
    q.hasSpell s = p.hasSpell s := by
  unfold Player.hasSpell
  generalize p.spells.find? s = e at h
  generalize q.spells.find? s = e' at h
  cases h with
  | none => rfl
  | some removed disabled temporary => simp [removed, disabled]

theorem Kept.isDisabled {p q : Player} {s : Nat} (h : Kept (p.spells.find? s) (q.spells.find? s)) :
    q.isDisabled s = p.isDisabled s := by
  unfold Player.isDisabled
  generalize p.spells.find? s = e at h
  generalize q.spells.find? s = e' at h
  cases h with
  | none => rfl
  | some removed disabled temporary => simp [disabled]

theorem Kept.listed {p q : Player} {s : Nat} (h : Kept (p.spells.find? s) (q.spells.find? s)) :
    q.listed s = p.listed s := by
  unfold Player.listed
  generalize p.spells.find? s = e at h
  generalize q.spells.find? s = e' at h
  cases h with
  | none => rfl
  | some removed disabled temporary => simp [removed]

theorem Kept.holds {p q : Player} {s : Nat} (h : Kept (p.spells.find? s) (q.spells.find? s))
    (hp : p.holds s = true) : q.holds s = true := by
  unfold Player.holds at hp ⊢
  generalize p.spells.find? s = e at h hp
  generalize q.spells.find? s = e' at h
  cases h with
  | none => exact hp
  | some removed disabled temporary =>
    simp only [Option.any_some, Bool.and_eq_true, decide_eq_true_eq] at hp ⊢
    exact ⟨fun hr => hp.1 (removed.1 hr), fun ht => hp.2 (temporary ht)⟩

theorem Kept.settled {p q : Player} {s : Nat} (h : Kept (p.spells.find? s) (q.spells.find? s))
    (hp : p.settled s = true) : q.settled s = true := by
  unfold Player.settled at hp ⊢
  rw [Bool.and_eq_true] at hp ⊢
  exact ⟨h.holds hp.1, h.hasSpell ▸ hp.2⟩

variable (stores : Stores) (mgr : SpellMgr) (env : Circumstances) (calls : Calls)

/-- The ledgers are the same, and every talent rank keeps. -/
structure Frame (p q : Player) : Prop where
  used : q.usedTalentCount = p.usedTalentCount
  free : q.freeTalentPoints = p.freeTalentPoints
  spells : ∀ s, stores.getTalentSpellPos s ≠ none → Kept (p.spells.find? s) (q.spells.find? s)

/-- The count fits its type, and the ranks among `L` are known for good. -/
structure Ready (L : Nat → Prop) (p : Player) : Prop where
  bounded : p.usedTalentCount < 4294967296
  settled : ∀ s, L s → stores.getTalentSpellPos s ≠ none → p.settled s = true

/-- From a player who is ready, `q` is within the frame. -/
def Safe (L : Nat → Prop) (p q : Player) : Prop := Ready stores L p → Frame stores p q

variable {stores} {mgr} {env} {calls} {C L : Nat → Prop} {p q r : Player} {s : Nat}

theorem Frame.refl (p : Player) : Frame stores p p := ⟨rfl, rfl, fun _ _ => .refl _⟩

theorem Frame.trans (h : Frame stores p q) (h' : Frame stores q r) : Frame stores p r :=
  ⟨h'.used.trans h.used, h'.free.trans h.free, fun s hs => (h.spells s hs).trans (h'.spells s hs)⟩

theorem Frame.ready (h : Frame stores p q) (hp : Ready stores L p) : Ready stores L q :=
  ⟨h.used ▸ hp.bounded, fun s hL hs => (h.spells s hs).settled (hp.settled s hL hs)⟩

theorem Safe.refl (p : Player) : Safe stores L p p := fun _ => .refl p

theorem Safe.trans (h : Safe stores L p q) (h' : Safe stores L q r) : Safe stores L p r :=
  fun hp => (h hp).trans (h' ((h hp).ready hp))

theorem Safe.foldl {α : Type} {f : Player → α → Player} :
    ∀ {l : List α} (_ : ∀ x ∈ l, ∀ p, Safe stores L p (f p x)) (p : Player),
      Safe stores L p (l.foldl f p)
  | [], _, p => .refl p
  | x :: _, h, p =>
    (h x List.mem_cons_self p).trans (foldl (fun y hy => h y (List.mem_cons_of_mem x hy)) (f p x))

theorem Frame.foldl {α : Type} {f : Player → α → Player} {l : List α}
    (h : ∀ x ∈ l, ∀ r, Frame stores p r → Frame stores r (f r x)) (hq : Frame stores p q) :
    Frame stores p (l.foldl f q) := by
  induction l generalizing q with
  | nil => exact hq
  | cons x l ih =>
    have hx := h x List.mem_cons_self q hq
    exact ih (fun y hy => h y (List.mem_cons_of_mem x hy)) (hq.trans hx)

/-! ## One entry changes -/

theorem find?_setSpell (p : Player) (s : Nat) (entry : PlayerSpell) (x : Nat) :
    (p.setSpell s entry).spells.find? x = if x = s then some entry else p.spells.find? x := by
  unfold Player.setSpell
  rw [find?_insert]
  simp only [eq_comm]

theorem find?_eraseSpell (p : Player) (s : Nat) (x : Nat) :
    (p.eraseSpell s).spells.find? x = if x = s then none else p.spells.find? x := by
  unfold Player.eraseSpell
  rw [find?_erase]
  simp only [eq_comm]

theorem safe_setSpell (hs : stores.getTalentSpellPos s = none) (p : Player) (entry : PlayerSpell) :
    Safe stores L p (p.setSpell s entry) := by
  refine fun _ => ⟨rfl, rfl, fun x hx => ?_⟩
  have hne : x ≠ s := by
    rintro rfl
    exact hx hs
  rw [find?_setSpell, if_neg hne]
  exact .refl _

theorem safe_eraseSpell (hs : stores.getTalentSpellPos s = none) (p : Player) :
    Safe stores L p (p.eraseSpell s) := by
  refine fun _ => ⟨rfl, rfl, fun x hx => ?_⟩
  have hne : x ≠ s := by
    rintro rfl
    exact hx hs
  rw [find?_eraseSpell, if_neg hne]
  exact .refl _

theorem frame_setSpell {entry entry' : PlayerSpell} (h : p.spells.find? s = some entry)
    (hkept : Kept (some entry) (some entry')) : Frame stores p (p.setSpell s entry') := by
  refine ⟨rfl, rfl, fun x _ => ?_⟩
  rw [find?_setSpell]
  split
  · rename_i hx
    rw [hx, h]
    exact hkept
  · exact .refl _

theorem touch_state_ne (entry : PlayerSpell) :
    entry.touch.state ≠ .removed ∧ entry.touch.state ≠ .temporary := by
  unfold touch
  split <;> simp

/-! ## What a spell brings along -/

variable (mgr) in
/-- `x` is next to `s`: in the chain of ranks, as a requirement, or taught with it. -/
def Brings (s x : Nat) : Prop :=
  (x ≠ 0 ∧ (x = mgr.prevSpellInChain s ∨ x = mgr.nextSpellInChain s)) ∨
    x ∈ mgr.spellsRequiringSpell s ∨ ∃ node ∈ mgr.spellLearnSpells s, x = node.spell

variable (C L) in
/-- The change learns a spell of `C` or `L`, or removes one of `C`. -/
def SpellChange.Within : SpellChange → Prop
  | .learn spell _ => C spell ∨ L spell
  | .remove spell => C spell

variable (stores mgr env) in
/-- `C` and `L` hold the spells that come along: those of `C` may be learned and removed, those of `L` only
learned. The ranks among `L` are known already, so only a cast can follow on them. -/
structure Companions (C L : Nat → Prop) : Prop where
  plain : ∀ s, C s → stores.getTalentSpellPos s = none
  closed : ∀ s, C s → ∀ x, Brings mgr s x → C x
  removes : ∀ s, C s → ∀ p, ∀ c ∈ env.skillsRemoved p s, c.Within C C
  changes : ∀ s, C s → ∀ p, ∀ c ∈ env.castChanges p s ++ env.skillsLearned p s, c.Within C C
  casts : ∀ s, L s → ∀ p, ∀ c ∈ env.castChanges p s, c.Within C L
  skills : ∀ s, L s → stores.getTalentSpellPos s = none → ∀ p, ∀ c ∈ env.skillsLearned p s, c.Within C L
  reaches : ∀ s, L s → stores.getTalentSpellPos s = none → ∀ x, Brings mgr s x → C x ∨ L x

variable (stores) in
/-- The calls that stay within `C` and `L` are safe. A disabled entry is asked for only within `C`. -/
structure Calls.Stay (calls : Calls) (C L : Nat → Prop) : Prop where
  add : ∀ p s active learning dependent disabled, (C s ∨ L s ∧ disabled = false) →
    Safe stores L p (calls.addSpell p s active learning dependent disabled).1
  learn : ∀ p s dependent, C s ∨ L s → Safe stores L p (calls.learnSpell p s dependent)
  remove : ∀ p s disabled learnLowRank, C s → Safe stores L p (calls.removeSpell p s disabled learnLowRank)

section
variable (hstay : calls.Stay stores C L)
include hstay

theorem safe_changes {cs : List SpellChange} (h : ∀ c ∈ cs, c.Within C L) (p : Player) :
    Safe stores L p (calls.changes p cs) := by
  refine Safe.foldl (fun c hc p => ?_) p
  have hc := h c hc
  cases c with
  | learn spell dependent => exact hstay.learn p spell dependent hc
  | remove spell => exact hstay.remove p spell false true hc

theorem safe_castSpell (h : ∀ p, ∀ c ∈ env.castChanges p s, c.Within C L) (p : Player) :
    Safe stores L p (castSpell env calls p s) :=
  safe_changes hstay (h p) p

end

theorem SpellChange.Within.mono {c : SpellChange} (h : c.Within C C) : c.Within C L := by
  cases c with
  | learn spell dependent => exact .inl (h.elim id id)
  | remove spell => exact h

/-! ## The functions, one call deep -/

variable (mgr calls) in
/-- The end of `learnSpell`: "learn all disabled higher ranks and required spells (recursive)". -/
def relearn (p : Player) (spellId : Nat) : Player :=
  (mgr.spellsRequiringSpell spellId).foldl
    (fun p spell => if p.isDisabled spell then calls.learnSpell p spell false else p)
    (if mgr.nextSpellInChain spellId ≠ 0 ∧ p.isDisabled (mgr.nextSpellInChain spellId) then
      calls.learnSpell p (mgr.nextSpellInChain spellId) false
    else p)

variable (stores mgr calls) in
/-- The start of `removeSpell`: "unlearn non talent higher ranks (recursive)", and the spells that need the
spell. -/
def unlearnDependents (p : Player) (spellId : Nat) (disabled : Bool) : Player :=
  (mgr.spellsRequiringSpell spellId).foldl (fun p spell => calls.removeSpell p spell disabled true)
    (if mgr.nextSpellInChain spellId ≠ 0 ∧ p.hasSpell (mgr.nextSpellInChain spellId) ∧
        stores.getTalentSpellPos (mgr.nextSpellInChain spellId) = none then
      calls.removeSpell p (mgr.nextSpellInChain spellId) disabled false
    else p)

variable (mgr env calls) in
/-- `removeSpell` once the price is given back: the skills and the spells that were taught go. -/
def unlearnTaught (p : Player) (spellId : Nat) (disabled : Bool) : Player :=
  (mgr.spellLearnSpells spellId).foldl (fun p node => calls.removeSpell p node.spell disabled true)
    (calls.changes p (env.skillsRemoved p spellId))

theorem learnSpell_eq (p : Player) (s : Nat) (dependent : Bool) :
    learnSpell mgr calls p s dependent =
      if p.isDisabled s then
        relearn mgr calls (calls.addSpell p s (!p.isDisabled s || (p.spells.find? s).any (·.active)) true
          dependent false).1 s
      else (calls.addSpell p s (!p.isDisabled s || (p.spells.find? s).any (·.active)) true dependent
        false).1 := rfl

theorem removeSpell_eq (p : Player) (s : Nat) (disabled learnLowRank : Bool) :
    removeSpell stores mgr env calls p s disabled learnLowRank =
      match p.spells.find? s with
      | none => p
      | some entry =>
        if entry.state = .removed ∨ (disabled ∧ entry.disabled) ∨ entry.state = .temporary then p
        else
          match (unlearnDependents stores mgr calls p s disabled).spells.find? s with
          | none => unlearnDependents stores mgr calls p s disabled
          | some entry => removeListed stores mgr env calls (unlearnDependents stores mgr calls p s disabled)
              s entry disabled learnLowRank := rfl

variable (stores) in
def takeSpell (p : Player) (spellId : Nat) (entry : PlayerSpell) (disabled : Bool) : Player :=
  { dropSpell p spellId entry disabled with
    usedTalentCount := p.usedTalentCount -
      if disabled || !entry.disabled then stores.getTalentSpellCost spellId else 0 }

theorem removeListed_eq (p : Player) (s : Nat) (entry : PlayerSpell) (disabled learnLowRank : Bool) :
    removeListed stores mgr env calls p s entry disabled learnLowRank =
      if mgr.prevSpellInChain s ≠ 0 ∧ stores.getTalentSpellCost s = 0 ∧ entry.active ∧
          (mgr.getSpellInfo s).any (fun info => !info.isStackableWithRanks && info.isRanked) then
        activateLesserRank calls (unlearnTaught mgr env calls (takeSpell stores p s entry disabled) s disabled)
          (mgr.prevSpellInChain s) entry.dependent learnLowRank
      else unlearnTaught mgr env calls (takeSpell stores p s entry disabled) s disabled := by
  have hused : (dropSpell p s entry disabled).usedTalentCount = p.usedTalentCount := by
    unfold dropSpell
    split
    · rfl
    · split <;> rfl
  have htake : (if (disabled || !entry.disabled) = true then
        { dropSpell p s entry disabled with usedTalentCount :=
          (dropSpell p s entry disabled).usedTalentCount - stores.getTalentSpellCost s }
      else dropSpell p s entry disabled) = takeSpell stores p s entry disabled := by
    unfold takeSpell
    rw [← hused]
    split <;> rfl
  unfold removeListed unlearnTaught
  dsimp only
  rw [htake]

def Listed.player : Listed → Player
  | .done p _ => p
  | .enabled p _ => p
  | .add p _ => p

variable (stores mgr env C L) in
/-- `s` is no rank, and what comes along with it is among `C` and `L`. -/
structure Harmless (s : Nat) : Prop where
  plain : stores.getTalentSpellPos s = none
  casts : ∀ p, ∀ c ∈ env.castChanges p s, c.Within C L
  skills : ∀ p, ∀ c ∈ env.skillsLearned p s, c.Within C L
  brings : ∀ x, Brings mgr s x → C x ∨ L x

theorem Companions.harmless_of_removable (h : Companions stores mgr env C L) (hs : C s) :
    Harmless stores mgr env C L s where
  plain := h.plain s hs
  casts p c hc := (h.changes s hs p c (List.mem_append_left _ hc)).mono
  skills p c hc := (h.changes s hs p c (List.mem_append_right _ hc)).mono
  brings x hx := .inl (h.closed s hs x hx)

theorem Companions.harmless_of_plain (h : Companions stores mgr env C L) (hs : L s)
    (hpos : stores.getTalentSpellPos s = none) : Harmless stores mgr env C L s where
  plain := hpos
  casts := h.casts s hs
  skills := h.skills s hs hpos
  brings := h.reaches s hs hpos

variable (stores mgr env C) in
/-- What goes with `s` when it is removed is among `C`. -/
structure Removable (s : Nat) : Prop where
  skills : ∀ p, ∀ c ∈ env.skillsRemoved p s, c.Within C C
  next : mgr.nextSpellInChain s ≠ 0 → stores.getTalentSpellPos (mgr.nextSpellInChain s) = none →
    C (mgr.nextSpellInChain s)
  requires : ∀ x ∈ mgr.spellsRequiringSpell s, C x
  learns : ∀ node ∈ mgr.spellLearnSpells s, C node.spell

theorem Companions.removable (h : Companions stores mgr env C L) (hs : C s) : Removable stores mgr env C s where
  skills := h.removes s hs
  next hne _ := h.closed s hs _ (.inl ⟨hne, .inr rfl⟩)
  requires x hx := h.closed s hs x (.inr (.inl hx))
  learns node hnode := h.closed s hs node.spell (.inr (.inr ⟨node, hnode, rfl⟩))

theorem kept_supersede (spells : OrdMap Nat PlayerSpell) (s x : Nat) :
    Kept (spells.find? x) ((supersede mgr spells s).find? x) := by
  unfold supersede
  rw [find?_mapVal]
  cases spells.find? x with
  | none => exact .none
  | some entry =>
    rw [Option.map_some]
    split
    · rename_i hactive
      simp only [activeRank, Bool.and_eq_true, decide_eq_true_eq] at hactive
      obtain ⟨hremoved, htemporary⟩ := touch_state_ne entry
      exact .some (iff_of_false hremoved hactive.1.1.1.1) rfl fun ht => absurd ht htemporary
    · exact .refl _

variable (mgr) in
theorem enterSpell_spec (p : Player) (s : Nat) (info : SpellInfo) (entry : PlayerSpell) :
    (enterSpell mgr p s info entry).1.usedTalentCount = p.usedTalentCount ∧
      (enterSpell mgr p s info entry).1.freeTalentPoints = p.freeTalentPoints ∧
      (∀ x, x ≠ s → Kept (p.spells.find? x) ((enterSpell mgr p s info entry).1.spells.find? x)) ∧
      ∃ entry', (enterSpell mgr p s info entry).1.spells.find? s = some entry' ∧
        entry'.disabled = entry.disabled ∧
        (entry'.state = entry.state ∨ entry'.state = entry.touch.state) := by
  unfold enterSpell
  split
  · refine ⟨rfl, rfl, fun x hx => ?_, ?_⟩
    · dsimp only
      rw [find?_insert_ne _ _ (Ne.symm hx)]
      exact kept_supersede p.spells s x
    · dsimp only
      rw [find?_insert_self]
      split
      · exact ⟨_, rfl, rfl, .inr rfl⟩
      · exact ⟨_, rfl, rfl, .inl rfl⟩
  · refine ⟨rfl, rfl, fun x hx => ?_, entry, ?_, rfl, .inl rfl⟩
    · rw [find?_setSpell, if_neg hx]
      exact .refl _
    · rw [find?_setSpell, if_pos rfl]

theorem safe_takeSpell (hplain : stores.getTalentSpellPos s = none) (p : Player) (entry : PlayerSpell)
    (disabled : Bool) : Safe stores L p (takeSpell stores p s entry disabled) := by
  have hdrop : Safe stores L p (dropSpell p s entry disabled) := by
    unfold dropSpell
    split
    · exact safe_setSpell hplain p _
    · split
      · exact safe_eraseSpell hplain p
      · exact safe_setSpell hplain p _
  intro hp
  refine ⟨?_, (hdrop hp).free, (hdrop hp).spells⟩
  simp only [takeSpell, Stores.getTalentSpellCost, hplain, ite_self, Nat.sub_zero]

section
variable (hstay : calls.Stay stores C L)
include hstay

theorem safe_updateListed (h : Harmless stores mgr env C L s) (p : Player) (info : SpellInfo)
    (entry : PlayerSpell) (active disabled loaded : Bool) :
    Safe stores L p (updateListed env calls p s info entry active disabled loaded).player := by
  unfold updateListed
  split
  · have hset := safe_setSpell (L := L) h.plain p (entry.setActive active loaded)
    dsimp only [Listed.player]
    split
    · exact hset.trans (safe_castSpell hstay h.casts _)
    · exact hset
  · split
    · dsimp only
      split
      · exact safe_setSpell h.plain p _
      · exact safe_setSpell h.plain p _
    · split
      · exact safe_setSpell h.plain p _
      · exact safe_eraseSpell h.plain p
      · exact safe_setSpell h.plain p _

theorem safe_addListed (h : Harmless stores mgr env C L s) (p : Player) (info : SpellInfo)
    (entry : PlayerSpell) (active learning dependent disabled : Bool) :
    Safe stores L p (addListed mgr env calls p s info entry active learning dependent disabled).player := by
  unfold addListed
  dsimp only
  split
  · dsimp only [Listed.player]
    split
    · exact safe_setSpell h.plain p _
    · exact .refl p
  · split
    · exact safe_updateListed hstay h p info _ _ _ _
    · exact safe_updateListed hstay h p info _ _ _ _

theorem safe_bringAlong (hskills : ∀ p, ∀ c ∈ env.skillsLearned p s, c.Within C L)
    (hlearns : ∀ node ∈ mgr.spellLearnSpells s, C node.spell ∨ L node.spell) (p : Player) :
    Safe stores L p (bringAlong mgr env calls p s) := by
  refine (safe_changes hstay (hskills p) p).trans (Safe.foldl (fun node hnode p => ?_) _)
  split
  · exact .refl p
  · split
    · exact hstay.add p node.spell _ true true false ((hlearns node hnode).imp_right fun h => ⟨h, rfl⟩)
    · exact hstay.learn p node.spell true (hlearns node hnode)

theorem safe_completeSpell (h : Harmless stores mgr env C L s) (p : Player) (info : SpellInfo)
    (shown loading : Bool) : Safe stores L p (completeSpell stores mgr env calls p s info shown loading).1 := by
  have hcost : stores.getTalentSpellCost s = 0 := by
    simp only [Stores.getTalentSpellCost, h.plain]
  have hcount : ∀ p, Safe stores L p (bringAlong mgr env calls { p with
      usedTalentCount := (p.usedTalentCount + stores.getTalentSpellCost s) % 4294967296 } s) := by
    intro p
    have hsame : Safe stores L p { p with
        usedTalentCount := (p.usedTalentCount + stores.getTalentSpellCost s) % 4294967296 } := by
      intro hp
      refine ⟨?_, rfl, fun _ _ => .refl _⟩
      rw [hcost]
      exact Nat.mod_eq_of_lt hp.bounded
    exact hsame.trans (safe_bringAlong hstay h.skills (fun node hnode =>
      h.brings node.spell (.inr (.inr ⟨node, hnode, rfl⟩))) _)
  have hcast : ∀ p, Safe stores L p (castSpell env calls p s) := safe_castSpell hstay h.casts
  unfold completeSpell
  dsimp only
  split
  · exact (hcast p).trans (hcount _)
  · split
    · split
      · exact (hcast p).trans (hcount _)
      · exact hcount p
    · split
      · exact hcast p
      · exact hcount p

theorem safe_settleRanks (hs : stores.getTalentSpellPos s = none) (p : Player)
    (active disabled singleSpell : Bool) (hprev : mgr.prevSpellInChain s ≠ 0 →
      C (mgr.prevSpellInChain s) ∨ L (mgr.prevSpellInChain s) ∧ disabled = false) :
    Safe stores L p (settleRanks stores mgr env calls p s active disabled singleSpell) := by
  unfold settleRanks
  rw [hs]
  dsimp only
  split
  · rename_i hchain
    have hprev := hprev hchain.2
    split
    · exact hstay.add p _ active true true disabled hprev
    · exact hstay.learn p _ true (hprev.imp_right And.left)
  · exact .refl p

theorem safe_addUnlisted (h : Harmless stores mgr env C L s) (p : Player) (info : SpellInfo)
    (state : PlayerSpellState) (active dependent disabled loading singleSpell : Bool)
    (hprev : mgr.prevSpellInChain s ≠ 0 →
      C (mgr.prevSpellInChain s) ∨ L (mgr.prevSpellInChain s) ∧ disabled = false) :
    Safe stores L p (addUnlisted stores mgr env calls p s info state active dependent disabled loading
      singleSpell).1 := by
  have hsettle : Safe stores L p (settleRanks stores mgr env calls p s active disabled singleSpell) :=
    safe_settleRanks hstay h.plain p active disabled singleSpell hprev
  have henter : ∀ p, Safe stores L p (enterSpell mgr p s info ⟨state, active, dependent, disabled⟩).1 := by
    intro p _
    obtain ⟨hused, hfree, hothers, -⟩ := enterSpell_spec mgr p s info ⟨state, active, dependent, disabled⟩
    refine ⟨hused, hfree, fun x hx => hothers x ?_⟩
    rintro rfl
    exact hx h.plain
  unfold addUnlisted
  split
  · exact hsettle.trans (henter _)
  · exact (hsettle.trans (henter _)).trans (safe_completeSpell hstay h _ info _ loading)

theorem safe_addSpell (h : Harmless stores mgr env C L s) (p : Player)
    (active learning dependent disabled loading singleSpell : Bool) (hprev : mgr.prevSpellInChain s ≠ 0 →
      C (mgr.prevSpellInChain s) ∨ L (mgr.prevSpellInChain s) ∧ disabled = false) :
    Safe stores L p
      (addSpell stores mgr env calls p s active learning dependent disabled loading singleSpell).1 := by
  unfold addSpell
  split
  · exact .refl p
  · rename_i info _
    split
    · exact .refl p
    · dsimp only
      split
      · exact safe_addUnlisted hstay h p info _ _ _ _ _ _ hprev
      · rename_i entry _
        split
        · exact (safe_eraseSpell h.plain p).trans (safe_addUnlisted hstay h _ info _ _ _ _ _ _ hprev)
        · have hlisted := safe_addListed hstay h p info entry active learning dependent disabled
          split
          · rename_i heq
            rwa [heq] at hlisted
          · rename_i heq
            rw [heq] at hlisted
            exact hlisted.trans (safe_completeSpell hstay h _ info _ loading)
          · rename_i heq
            rw [heq] at hlisted
            exact hlisted.trans (safe_addUnlisted hstay h _ info _ _ _ _ _ _ hprev)

theorem frame_relearn (hp : Ready stores L p)
    (h : ∀ x, (x ≠ 0 ∧ x = mgr.nextSpellInChain s ∨ x ∈ mgr.spellsRequiringSpell s) →
      C x ∨ L x ∨ stores.getTalentSpellPos x ≠ none ∧ p.isDisabled x = false) :
    Frame stores p (relearn mgr calls p s) := by
  have hone : ∀ x, (x ≠ 0 ∧ x = mgr.nextSpellInChain s ∨ x ∈ mgr.spellsRequiringSpell s) →
      ∀ q, Frame stores p q →
        Frame stores q (if q.isDisabled x then calls.learnSpell q x false else q) := by
    intro x hx q hq
    split
    · rename_i hdisabled
      obtain hC | hL | ⟨hpos, hno⟩ := h x hx
      · exact hstay.learn q x false (.inl hC) (hq.ready hp)
      · exact hstay.learn q x false (.inr hL) (hq.ready hp)
      · rw [(hq.spells x hpos).isDisabled, hno] at hdisabled
        exact absurd hdisabled Bool.false_ne_true
    · exact .refl q
  have hnext : Frame stores p (if mgr.nextSpellInChain s ≠ 0 ∧ p.isDisabled (mgr.nextSpellInChain s) then
      calls.learnSpell p (mgr.nextSpellInChain s) false else p) := by
    by_cases hzero : mgr.nextSpellInChain s = 0
    · rw [if_neg fun h => h.1 hzero]
      exact .refl p
    · simpa only [ne_eq, hzero, not_false_eq_true, true_and] using
        hone (mgr.nextSpellInChain s) (.inl ⟨hzero, rfl⟩) p (.refl p)
  exact Frame.foldl (fun x hx q hq => hone x (.inr hx) q hq) hnext

theorem safe_learnSpell (h : Harmless stores mgr env C L s) (p : Player) (dependent : Bool)
    (hadd : ∀ active, Safe stores L p (calls.addSpell p s active true dependent false).1) :
    Safe stores L p (learnSpell mgr calls p s dependent) := by
  intro hp
  rw [learnSpell_eq]
  have hadd := hadd (!p.isDisabled s || (p.spells.find? s).any (·.active)) hp
  split
  · refine hadd.trans (frame_relearn hstay (hadd.ready hp) fun x hx => ?_)
    obtain ⟨hne, rfl⟩ | hx := hx
    · exact (h.brings _ (.inl ⟨hne, .inr rfl⟩)).imp_right .inl
    · exact (h.brings x (.inr (.inl hx))).imp_right .inl
  · exact hadd

theorem frame_updateListed_settled (hcasts : ∀ p, ∀ c ∈ env.castChanges p s, c.Within C L)
    (hp : Ready stores L p) {entry entry' : PlayerSpell} (hfind : p.spells.find? s = some entry)
    (hentry : entry.Settled) (hentry' : entry'.Settled) (info : SpellInfo) (active loaded : Bool) :
    ∃ q shown, updateListed env calls p s info entry' active false loaded = .done q shown ∧
      Frame stores p q := by
  have hset : ∀ e : PlayerSpell, e.Settled → Frame stores p (p.setSpell s e) := fun e he =>
    frame_setSpell hfind (hentry.kept he)
  have hactive : (entry'.setActive active loaded).Settled := by
    unfold setActive
    split
    · exact ⟨by simp [saved], by simp [saved], hentry'.disabled⟩
    · exact ⟨(touch_state_ne entry').1, (touch_state_ne entry').2, hentry'.disabled⟩
  unfold updateListed
  split
  · refine ⟨_, _, rfl, ?_⟩
    split
    · exact (hset _ hactive).trans (safe_castSpell hstay hcasts _ ((hset _ hactive).ready hp))
    · exact hset _ hactive
  · rw [if_neg fun h => h.1 hentry'.disabled]
    split
    · exact ⟨_, _, rfl, hset _ hentry'⟩
    · rename_i hremoved
      exact absurd hremoved hentry'.removed
    · refine ⟨_, _, rfl, ?_⟩
      split
      · exact hset _ ⟨by simp [saved], by simp [saved], hentry'.disabled⟩
      · exact hset _ hentry'

theorem safe_addSpell_settled (hcasts : ∀ p, ∀ c ∈ env.castChanges p s, c.Within C L) (hL : L s)
    (hpos : stores.getTalentSpellPos s ≠ none) (p : Player) (active learning dependent loading : Bool) :
    Safe stores L p (addSpell stores mgr env calls p s active learning dependent false loading false).1 := by
  intro hp
  obtain ⟨entry, hfind, hentry⟩ := Player.settled_iff.1 (hp.settled s hL hpos)
  have hlisted : ∀ info, ∃ q shown,
      addListed mgr env calls p s info entry active learning dependent false = .done q shown ∧
        Frame stores p q := by
    intro info
    have htouched : PlayerSpell.Settled { entry.touch with dependent := true } :=
      ⟨(touch_state_ne entry).1, (touch_state_ne entry).2, hentry.disabled⟩
    unfold addListed
    dsimp only
    split
    · refine ⟨_, _, rfl, ?_⟩
      split
      · exact frame_setSpell hfind (hentry.kept ⟨by simp [saved], by simp [saved], hentry.disabled⟩)
      · exact .refl p
    · split
      · exact frame_updateListed_settled hstay hcasts hp hfind hentry htouched info _ _
      · exact frame_updateListed_settled hstay hcasts hp hfind hentry hentry info _ _
  unfold addSpell
  split
  · exact .refl p
  · rename_i info _
    obtain ⟨q, shown, hq, hframe⟩ := hlisted info
    split
    · exact .refl p
    · rw [hfind]
      dsimp only
      rw [if_neg hentry.temporary, hq]
      exact hframe

theorem safe_unlearnDependents (h : Removable stores mgr env C s) (p : Player) (disabled : Bool) :
    Safe stores L p (unlearnDependents stores mgr calls p s disabled) := by
  refine Safe.trans ?_ (Safe.foldl (fun x hx p => hstay.remove p x disabled true (h.requires x hx)) _)
  split
  · rename_i hnext
    exact hstay.remove p _ disabled false (h.next hnext.1 hnext.2.2)
  · exact .refl p

theorem safe_unlearnTaught (h : Removable stores mgr env C s) (p : Player) (disabled : Bool) :
    Safe stores L p (unlearnTaught mgr env calls p s disabled) := by
  refine (safe_changes hstay (fun c hc => (h.skills p c hc).mono) p).trans ?_
  exact Safe.foldl (fun node hnode p => hstay.remove p node.spell disabled true (h.learns node hnode)) _

theorem safe_activateLesserRank (hplain : stores.getTalentSpellPos s = none) (hs : C s) (p : Player)
    (dependent learnLowRank : Bool) :
    Safe stores L p (activateLesserRank calls p s dependent learnLowRank) := by
  unfold activateLesserRank
  split
  · exact .refl p
  · rename_i entry _
    dsimp only
    generalize (if entry.dependent ≠ dependent then _ else entry : PlayerSpell) = entry'
    split
    · exact (safe_setSpell hplain p entry').trans (hstay.add _ s true false _ _ (.inl hs))
    · exact safe_setSpell hplain p entry'

theorem safe_removeSpell (h : Companions stores mgr env C L) (hs : C s) (p : Player)
    (disabled learnLowRank : Bool) :
    Safe stores L p (removeSpell stores mgr env calls p s disabled learnLowRank) := by
  rw [removeSpell_eq]
  split
  · exact .refl p
  · split
    · exact .refl p
    · refine (safe_unlearnDependents hstay (h.removable hs) p disabled).trans ?_
      split
      · exact .refl _
      · rename_i entry _
        have htaught : Safe stores L (unlearnDependents stores mgr calls p s disabled)
            (unlearnTaught mgr env calls
              (takeSpell stores (unlearnDependents stores mgr calls p s disabled) s entry disabled) s
              disabled) :=
          (safe_takeSpell (h.plain s hs) _ entry disabled).trans
            (safe_unlearnTaught hstay (h.removable hs) _ disabled)
        rw [removeListed_eq]
        split
        · rename_i hprev
          have hC := h.closed s hs _ (.inl ⟨hprev.1, .inl rfl⟩)
          exact htaught.trans (safe_activateLesserRank hstay (h.plain _ hC) hC _ _ learnLowRank)
        · exact htaught

end

/-! ## However deep the calls nest -/

theorem nestedCalls_stay (h : Companions stores mgr env C L) :
    ∀ fuel, (nestedCalls stores mgr env fuel).Stay stores C L := by
  intro fuel
  induction fuel with
  | zero => exact ⟨fun p _ _ _ _ _ _ => .refl p, fun p _ _ _ => .refl p, fun p _ _ _ _ => .refl p⟩
  | succ fuel ih =>
    have hadd : ∀ p s active learning dependent disabled, (C s ∨ L s ∧ disabled = false) →
        Safe stores L p (addSpell stores mgr env (nestedCalls stores mgr env fuel) p s active learning
          dependent disabled false false).1 := by
      intro p s active learning dependent disabled hs
      obtain hC | ⟨hL, rfl⟩ := hs
      · exact safe_addSpell ih (h.harmless_of_removable hC) p active learning dependent disabled false false
          fun hne => .inl (h.closed s hC _ (.inl ⟨hne, .inl rfl⟩))
      · by_cases hpos : stores.getTalentSpellPos s = none
        · exact safe_addSpell ih (h.harmless_of_plain hL hpos) p active learning dependent false false false
            fun hne => (h.reaches s hL hpos _ (.inl ⟨hne, .inl rfl⟩)).imp_right fun hL => ⟨hL, rfl⟩
        · exact safe_addSpell_settled ih (h.casts s hL) hL hpos p active learning dependent false
    refine ⟨hadd, fun p s dependent hs => ?_, fun p s disabled learnLowRank hs =>
      safe_removeSpell ih h hs p disabled learnLowRank⟩
    have hnested : ∀ active, Safe stores L p
        ((nestedCalls stores mgr env fuel).addSpell p s active true dependent false).1 := fun active =>
      ih.add p s active true dependent false (hs.imp_right fun hL => ⟨hL, rfl⟩)
    obtain hC | hL := hs
    · exact safe_learnSpell ih (h.harmless_of_removable hC) p dependent hnested
    · by_cases hpos : stores.getTalentSpellPos s = none
      · exact safe_learnSpell ih (h.harmless_of_plain hL hpos) p dependent hnested
      · -- a rank that is known is not disabled, so nothing is learned again after it
        intro hp
        have hknown : p.isDisabled s = false := by
          obtain ⟨entry, hfind, hentry⟩ := Player.settled_iff.1 (hp.settled s hL hpos)
          unfold Player.isDisabled
          rw [hfind]
          exact hentry.disabled
        change Frame stores p (learnSpell mgr (nestedCalls stores mgr env fuel) p s dependent)
        rw [learnSpell_eq, hknown]
        exact hnested _ hp

end Axium.Talents
