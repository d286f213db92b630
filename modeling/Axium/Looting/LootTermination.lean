import Axium.Looting.DropLimits

/-!
# Whether processing ends

`LootTemplate::Process`, `HasQuestDrop` and `HasQuestDropForPlayer` go into the templates that a template
refers to. The loader reports a reference to nothing; a reference to the template itself, or to one that leads
back to it, it does not look for. Each of the three ends if and only if no chain of references that it follows
goes on for ever: `terminates_iff` for the first, for every outcome of the dice, and `hasDrop_terminates_iff`
for the others, which stop at the first quest drop.
-/

namespace Axium.LootStore

open Looting List Option LootTemplate

variable {C : Config} {dice : Dice} {refs : LootTemplateMap} {rate : Bool} {lootMode : BitVec 16}

/-! ## References that are followed -/

def LootStoreItem.CanDrop (C : Config) (rate : Bool) (lootMode : BitVec 16) (i : LootStoreItem) : Prop :=
  i.lootmode &&& ~~~lootMode = 0 ∧
    (100 ≤ i.chance ∨ 0 < C.float (i.chance * if rate then C.rateReferenced else 1))

/-- `Process` of `t` goes into `t'`: some entry of `t` is a reference to it, not to one of its groups, and can
drop. -/
def Follows (C : Config) (refs : LootTemplateMap) (rate : Bool) (lootMode : BitVec 16) (t' t : LootTemplate) :
    Prop :=
  ∃ i ∈ t.entries, i.mincountOrRef < 0 ∧ i.group = 0 ∧ i.referenced refs = some t' ∧
    0 < C.referencedAmount i.maxcount ∧ i.CanDrop C rate lootMode

/-- `Process` of `t` returns, whatever the dice. -/
def Terminates (C : Config) (refs : LootTemplateMap) (rate : Bool) (lootMode : BitVec 16) (t : LootTemplate) :
    Prop :=
  ∀ dice st, ∃ fuel, (t.process C dice refs rate lootMode fuel 0 st).isSome = true

/-! ### More fuel -/

theorem repeatCall_mono {σ : Type} {call call' : σ → Option σ}
    (h : ∀ s r, call s = some r → call' s = some r) {n : Nat} {s r : σ} (hr : repeatCall call n s = some r) :
    repeatCall call' n s = some r := by
  induction n generalizing s with
  | zero => exact hr
  | succ n ih =>
    obtain ⟨s₁, h₁, h₂⟩ := bind_eq_some_iff.1 hr
    exact bind_eq_some_iff.2 ⟨s₁, h s s₁ h₁, ih h₂⟩

variable {is : List LootStoreItem} {st : Rolling}

theorem processEntries_mono {call call' : LootTemplate → Nat → Rolling → Option Rolling}
    (h : ∀ t g st r, call t g st = some r → call' t g st = some r) {r : Rolling}
    (hr : processEntries C dice refs rate lootMode call is st = some r) :
    processEntries C dice refs rate lootMode call' is st = some r := by
  induction is generalizing st with
  | nil => exact hr
  | cons i is ih =>
    rcases processEntries_cons C dice refs rate lootMode i is st with ⟨-, st₁, -, heq⟩ | ⟨Referenced, -, heq⟩
    · rw [heq] at hr ⊢
      exact ih hr
    · rw [heq] at hr ⊢
      obtain ⟨st₁, hrepeat, hrest⟩ := bind_eq_some_iff.1 hr
      exact bind_eq_some_iff.2 ⟨st₁, repeatCall_mono (h _ _) hrepeat, ih hrest⟩

variable {t : LootTemplate}

theorem process_mono {fuel fuel' : Nat} (hle : fuel ≤ fuel') {groupId : Nat} {r : Rolling}
    (hr : process C dice refs rate lootMode fuel t groupId st = some r) :
    process C dice refs rate lootMode fuel' t groupId st = some r := by
  induction fuel generalizing fuel' t groupId st r with
  | zero => cases hr
  | succ fuel ih =>
    obtain ⟨fuel', rfl⟩ := Nat.exists_eq_add_one.2 (Nat.zero_lt_of_lt hle)
    have hle := Nat.le_of_succ_le_succ hle
    cases groupId with
    | zero =>
      obtain ⟨st₁, hentries, hgroups⟩ := map_eq_some_iff.1 hr
      exact map_eq_some_iff.2 ⟨st₁, processEntries_mono (fun _ _ _ _ => ih hle) hentries, hgroups⟩
    | succ groupId => exact hr

/-! ### An end to every chain -/

theorem repeatCall_terminates {groupId : Nat}
    (h : ∀ st, ∃ fuel, (t.process C dice refs rate lootMode fuel groupId st).isSome = true) (n : Nat)
    (st : Rolling) : ∃ fuel st',
      repeatCall (t.process C dice refs rate lootMode fuel groupId) n st = some st' := by
  induction n generalizing st with
  | zero => exact ⟨0, st, rfl⟩
  | succ n ih =>
    obtain ⟨fuel₁, h₁⟩ := h st
    obtain ⟨st₁, h₁⟩ := isSome_iff_exists.1 h₁
    obtain ⟨fuel₂, st₂, h₂⟩ := ih st₁
    refine ⟨max fuel₁ fuel₂, st₂, bind_eq_some_iff.2 ⟨st₁, process_mono (le_max_left _ _) h₁, ?_⟩⟩
    exact repeatCall_mono (fun _ _ => process_mono (le_max_right _ _)) h₂

theorem processEntries_terminates
    (h : ∀ i ∈ is, ∀ st t, Followed C dice refs rate lootMode i st t → 0 < C.referencedAmount i.maxcount →
      ∀ st, ∃ fuel, (t.process C dice refs rate lootMode fuel i.group st).isSome = true) (st : Rolling) :
    ∃ fuel st', processEntries C dice refs rate lootMode
      (process C dice refs rate lootMode fuel) is st = some st' := by
  induction is generalizing st with
  | nil => exact ⟨0, st, rfl⟩
  | cons i is ih =>
    have ih := ih fun j hj => h j (mem_cons_of_mem i hj)
    rcases processEntries_cons C dice refs rate lootMode i is st with
      ⟨-, st₁, -, heq⟩ | ⟨Referenced, hfollowed, heq⟩
    · obtain ⟨fuel, st', hrest⟩ := ih st₁
      exact ⟨fuel, st', by rw [heq, hrest]⟩
    · have hrepeat : ∃ fuel st', repeatCall (Referenced.process C dice refs rate lootMode fuel i.group)
          (C.referencedAmount i.maxcount) (i.roll C dice rate st).2 = some st' := by
        rcases eq_zero_or_pos (C.referencedAmount i.maxcount) with hzero | hpos
        · rw [hzero]
          exact ⟨0, _, rfl⟩
        · exact repeatCall_terminates (h i mem_cons_self st Referenced hfollowed hpos) _ _
      obtain ⟨fuel₁, st₁, h₁⟩ := hrepeat
      obtain ⟨fuel₂, st₂, h₂⟩ := ih st₁
      refine ⟨max fuel₁ fuel₂, st₂, ?_⟩
      rw [heq, bind_eq_some_iff]
      exact ⟨st₁, repeatCall_mono (fun _ _ => process_mono (le_max_left _ _)) h₁,
        processEntries_mono (fun _ _ _ _ => process_mono (le_max_right _ _)) h₂⟩

variable {i : LootStoreItem}

theorem Followed.canDrop (h : Followed C dice refs rate lootMode i st t) : i.CanDrop C rate lootMode := by
  refine ⟨h.mode, ?_⟩
  by_cases hchance : 100 ≤ i.chance
  · exact .inl hchance
  · right
    have hhit := h.hit
    unfold LootStoreItem.roll at hhit
    rw [if_neg hchance] at hhit
    rw [if_pos h.reference] at hhit
    exact lt_of_le_of_lt (dice.randChance st.draws).2.1 (of_decide_eq_true hhit)

theorem terminates_of_acc (h : Acc (Follows C refs rate lootMode) t) : Terminates C refs rate lootMode t := by
  induction h with
  | intro t _ ih =>
    intro dice st
    have hcalls : ∀ i ∈ t.entries, ∀ st t', Followed C dice refs rate lootMode i st t' →
        0 < C.referencedAmount i.maxcount →
          ∀ st, ∃ fuel, (t'.process C dice refs rate lootMode fuel i.group st).isSome = true := by
      intro i hi st t' hfollowed hpos st'
      cases hgroup : i.group with
      | zero =>
        exact ih t' ⟨i, hi, hfollowed.reference, hgroup, hfollowed.referenced, hpos, hfollowed.canDrop⟩ dice st'
      | succ groupId =>
        refine ⟨1, ?_⟩
        unfold process
        split
        · rfl
        · rfl
    obtain ⟨fuel, st', hentries⟩ := processEntries_terminates hcalls st
    refine ⟨fuel + 1, ?_⟩
    rw [process, hentries]
    rfl

/-! ### A chain without end -/

theorem processEntries_calls {call : LootTemplate → Nat → Rolling → Option Rolling} (hi : i ∈ is)
    (hfollowed : ∀ st, Followed C dice refs rate lootMode i st t) (hpos : 0 < C.referencedAmount i.maxcount)
    {st' : Rolling} (h : processEntries C dice refs rate lootMode call is st = some st') :
    ∃ st₀, (call t i.group st₀).isSome = true := by
  induction is generalizing st with
  | nil => cases hi
  | cons j is ih =>
    rcases processEntries_cons C dice refs rate lootMode j is st with
      ⟨hnot, st₁, -, heq⟩ | ⟨Referenced, hj, heq⟩
    · rcases mem_cons.1 hi with rfl | hi
      · exact absurd (hfollowed st) (hnot t)
      · rw [heq] at h
        exact ih hi h
    · rw [heq] at h
      obtain ⟨st₁, hrepeat, hrest⟩ := bind_eq_some_iff.1 h
      rcases mem_cons.1 hi with rfl | hi
      · obtain ⟨n, hn⟩ := Nat.exists_eq_add_one.2 hpos
        rw [hn] at hrepeat
        obtain ⟨st₂, hcall, -⟩ := bind_eq_some_iff.1 hrepeat
        have hsame : Referenced = t := some.inj (hj.referenced.symm.trans (hfollowed st).referenced)
        exact ⟨_, isSome_iff_exists.2 ⟨st₂, hsame ▸ hcall⟩⟩
      · exact ih hi hrest

theorem followed_zeroDice (hcan : i.CanDrop C rate lootMode)
    (href : i.mincountOrRef < 0) (ht : i.referenced refs = some t) (st : Rolling) :
    Followed C zeroDice refs rate lootMode i st t := by
  refine ⟨hcan.1, ?_, href, ht⟩
  unfold LootStoreItem.roll
  by_cases hchance : 100 ≤ i.chance
  · rw [if_pos hchance]
  · rw [if_neg hchance]
    rw [if_pos href]
    exact decide_eq_true (hcan.2.resolve_left hchance)

theorem acc_of_process {fuel : Nat} (h : (t.process C zeroDice refs rate lootMode fuel 0 st).isSome = true) :
    Acc (Follows C refs rate lootMode) t := by
  induction fuel generalizing t st with
  | zero => cases h
  | succ fuel ih =>
    refine Acc.intro t fun t' ⟨i, hi, href, hgroup, ht, hpos, hcan⟩ => ?_
    rw [process, isSome_map] at h
    obtain ⟨st', hentries⟩ := isSome_iff_exists.1 h
    obtain ⟨st₀, hcall⟩ := processEntries_calls hi (followed_zeroDice hcan href ht) hpos hentries
    rw [hgroup] at hcall
    exact ih hcall

theorem terminates_iff : Terminates C refs rate lootMode t ↔ Acc (Follows C refs rate lootMode) t := by
  constructor
  · intro h
    obtain ⟨fuel, hfuel⟩ := h zeroDice {}
    exact acc_of_process hfuel
  · exact terminates_of_acc

/-! ## Quest drops -/

section QuestDrops

variable {store : LootTemplateMap} {p : LootStoreItem → Bool}

inductive HasDrop (store : LootTemplateMap) (p : LootStoreItem → Bool) : LootTemplate → Nat → Prop where
  | entry {t : LootTemplate} {i : LootStoreItem} (hi : i ∈ t.entries) (hitem : ¬ i.mincountOrRef < 0)
      (hp : p i = true) : HasDrop store p t 0
  | reference {t t' : LootTemplate} {i : LootStoreItem} (hi : i ∈ t.entries) (href : i.mincountOrRef < 0)
      (ht : i.referenced store = some t') (h : HasDrop store p t' i.group) : HasDrop store p t 0
  | inGroup {t : LootTemplate} {g : LootGroup} (hg : g ∈ t.groups) (h : g.hasDrop p = true) :
      HasDrop store p t 0
  | group {t : LootTemplate} {g : LootGroup} {k : Nat} (hg : t.groups[k]? = some g) (h : g.hasDrop p = true) :
      HasDrop store p t (k + 1)

def EntryDrop (store : LootTemplateMap) (p : LootStoreItem → Bool) (i : LootStoreItem) : Prop :=
  (¬ i.mincountOrRef < 0 ∧ p i = true) ∨
    (i.mincountOrRef < 0 ∧ ∃ t, i.referenced store = some t ∧ HasDrop store p t i.group)

/-- The search in `t` goes into `t'`: an entry is a reference to it, and no entry before has a drop. -/
def Visits (store : LootTemplateMap) (p : LootStoreItem → Bool) (t' t : LootTemplate) : Prop :=
  ∃ pre i post, t.entries = pre ++ i :: post ∧ i.mincountOrRef < 0 ∧ i.group = 0 ∧
    i.referenced store = some t' ∧ ∀ j ∈ pre, ¬ EntryDrop store p j

variable {t : LootTemplate}

theorem hasDrop_zero_iff : HasDrop store p t 0 ↔
    (∃ i ∈ t.entries, EntryDrop store p i) ∨ t.groups.any (·.hasDrop p) = true := by
  constructor
  · intro h
    cases h with
    | entry hi hitem hp => exact .inl ⟨_, hi, .inl ⟨hitem, hp⟩⟩
    | reference hi href ht h => exact .inl ⟨_, hi, .inr ⟨href, _, ht, h⟩⟩
    | inGroup hg h => exact .inr (any_eq_true.2 ⟨_, hg, h⟩)
  · rintro (⟨i, hi, ⟨hitem, hp⟩ | ⟨href, t', ht, h⟩⟩ | hany)
    · exact .entry hi hitem hp
    · exact .reference hi href ht h
    · obtain ⟨g, hg, h⟩ := any_eq_true.1 hany
      exact .inGroup hg h

theorem hasDrop_succ_iff {k : Nat} : HasDrop store p t (k + 1) ↔ (t.groups[k]?).any (·.hasDrop p) = true := by
  constructor
  · intro h
    cases h with
    | group hg h =>
      rw [hg]
      exact h
  · intro h
    cases hg : t.groups[k]? with
    | none =>
      rw [hg] at h
      cases h
    | some g =>
      rw [hg] at h
      exact .group hg h

theorem hasDropEntries_cons (store : LootTemplateMap) (p : LootStoreItem → Bool) (i : LootStoreItem)
    (is : List LootStoreItem) :
    (¬ EntryDrop store p i ∧ (∀ t, i.mincountOrRef < 0 → i.referenced store ≠ some t) ∧
      ∀ call, hasDropEntries store p call (i :: is) = hasDropEntries store p call is) ∨
    (EntryDrop store p i ∧ ¬ i.mincountOrRef < 0 ∧
      ∀ call, hasDropEntries store p call (i :: is) = some true) ∨
    ∃ t, i.mincountOrRef < 0 ∧ i.referenced store = some t ∧
      (EntryDrop store p i ↔ HasDrop store p t i.group) ∧
      ∀ call, hasDropEntries store p call (i :: is) = (call t i.group).bind fun found =>
        if found then some true else hasDropEntries store p call is := by
  unfold EntryDrop
  by_cases href : i.mincountOrRef < 0
  · cases ht : i.referenced store with
    | none =>
      left
      refine ⟨?_, fun t _ => nofun, fun call => ?_⟩
      · rintro (⟨hitem, -⟩ | ⟨-, t, hsome, -⟩)
        · exact hitem href
        · cases hsome
      · rw [hasDropEntries, if_pos href, ht]
    | some t =>
      refine .inr (.inr ⟨t, href, rfl, ?_, fun call => ?_⟩)
      · simp only [href, not_true_eq_false, false_and, true_and, false_or, some.injEq, exists_eq_left']
      · rw [hasDropEntries, if_pos href, ht]
  · cases hp : p i with
    | true =>
      refine .inr (.inl ⟨.inl ⟨href, rfl⟩, href, fun call => ?_⟩)
      rw [hasDropEntries, if_neg href, if_pos hp]
    | false =>
      left
      refine ⟨?_, fun t h => absurd h href, fun call => ?_⟩
      · rintro (⟨-, hdrop⟩ | ⟨h, -⟩)
        · cases hdrop
        · exact href h
      · rw [hasDropEntries, if_neg href, hp, if_neg Bool.false_ne_true]

variable {call : LootTemplate → Nat → Option Bool} {b : Bool}

theorem hasDropEntries_iff
    (hcall : ∀ t g b, call t g = some b → (b = true ↔ HasDrop store p t g)) {is : List LootStoreItem}
    (h : hasDropEntries store p call is = some b) : b = true ↔ ∃ i ∈ is, EntryDrop store p i := by
  induction is generalizing b with
  | nil =>
    cases h
    exact iff_of_false Bool.false_ne_true fun ⟨_, hi, _⟩ => nomatch hi
  | cons i is ih =>
    rw [exists_mem_cons_iff]
    rcases hasDropEntries_cons store p i is with ⟨hno, -, heq⟩ | ⟨hyes, -, heq⟩ | ⟨t, -, -, hiff, heq⟩
    · rw [heq] at h
      rw [ih h, or_iff_right hno]
    · rw [heq] at h
      cases h
      exact iff_of_true rfl (.inl hyes)
    · rw [heq] at h
      obtain ⟨found, hfound, hrest⟩ := bind_eq_some_iff.1 h
      rw [hiff, ← hcall t i.group found hfound]
      cases found with
      | true =>
        cases hrest
        exact iff_of_true rfl (.inl rfl)
      | false => rw [ih hrest, or_iff_right Bool.false_ne_true]

theorem hasDrop_iff {fuel : Nat} {groupId : Nat}
    (h : t.hasDrop store p fuel groupId = some b) : b = true ↔ HasDrop store p t groupId := by
  induction fuel generalizing t groupId b with
  | zero => cases h
  | succ fuel ih =>
    cases groupId with
    | zero =>
      obtain ⟨found, hentries, heq⟩ := map_eq_some_iff.1 h
      rw [hasDrop_zero_iff, ← hasDropEntries_iff (fun _ _ _ => ih) hentries, ← heq, Bool.or_eq_true]
    | succ k =>
      cases h
      exact hasDrop_succ_iff.symm

theorem hasDropEntries_mono {call' : LootTemplate → Nat → Option Bool}
    (h : ∀ t g b, call t g = some b → call' t g = some b) {is : List LootStoreItem}
    (hb : hasDropEntries store p call is = some b) : hasDropEntries store p call' is = some b := by
  induction is generalizing b with
  | nil => exact hb
  | cons i is ih =>
    rcases hasDropEntries_cons store p i is with ⟨-, -, heq⟩ | ⟨-, -, heq⟩ | ⟨t, -, -, -, heq⟩
    · rw [heq] at hb ⊢
      exact ih hb
    · rw [heq] at hb ⊢
      exact hb
    · rw [heq] at hb ⊢
      obtain ⟨found, hfound, hrest⟩ := bind_eq_some_iff.1 hb
      refine bind_eq_some_iff.2 ⟨found, h t i.group found hfound, ?_⟩
      cases found with
      | true => exact hrest
      | false => exact ih hrest

theorem hasDrop_mono {fuel fuel' : Nat} (hle : fuel ≤ fuel') {groupId : Nat}
    (hb : t.hasDrop store p fuel groupId = some b) : t.hasDrop store p fuel' groupId = some b := by
  induction fuel generalizing fuel' t groupId b with
  | zero => cases hb
  | succ fuel ih =>
    obtain ⟨fuel', rfl⟩ := Nat.exists_eq_add_one.2 (Nat.zero_lt_of_lt hle)
    cases groupId with
    | zero =>
      obtain ⟨found, hentries, heq⟩ := map_eq_some_iff.1 hb
      exact map_eq_some_iff.2
        ⟨found, hasDropEntries_mono (fun _ _ _ => ih (Nat.le_of_succ_le_succ hle)) hentries, heq⟩
    | succ k => exact hb

theorem hasDropEntries_terminates
    (h : ∀ t', Visits store p t' t → ∃ fuel, (t'.hasDrop store p fuel 0).isSome = true)
    (is pre : List LootStoreItem) (hentries : t.entries = pre ++ is) (hpre : ∀ j ∈ pre, ¬ EntryDrop store p j) :
    ∃ fuel b, hasDropEntries store p (hasDrop store p fuel) is = some b := by
  induction is generalizing pre with
  | nil => exact ⟨0, false, rfl⟩
  | cons i is ih =>
    have hnext : ¬ EntryDrop store p i → ∃ fuel b,
        hasDropEntries store p (hasDrop store p fuel) is = some b := fun hno =>
      ih (pre ++ [i]) (by rw [hentries, append_assoc]; rfl) fun j hj => by
        rcases mem_append.1 hj with hj | hj
        · exact hpre j hj
        · exact mem_singleton.1 hj ▸ hno
    rcases hasDropEntries_cons store p i is with ⟨hno, -, heq⟩ | ⟨-, -, heq⟩ | ⟨t', href, ht, hiff, heq⟩
    · obtain ⟨fuel, b, hrest⟩ := hnext hno
      exact ⟨fuel, b, by rw [heq, hrest]⟩
    · exact ⟨0, true, heq _⟩
    · have hcall : ∃ fuel found, t'.hasDrop store p fuel i.group = some found := by
        cases hgroup : i.group with
        | zero =>
          obtain ⟨fuel, hfuel⟩ := h t' ⟨pre, i, is, hentries, href, hgroup, ht, hpre⟩
          exact ⟨fuel, isSome_iff_exists.1 hfuel⟩
        | succ k => exact ⟨1, _, rfl⟩
      obtain ⟨fuel₁, found, hfound⟩ := hcall
      cases found with
      | true =>
        refine ⟨fuel₁, true, ?_⟩
        rw [heq, hfound]
        rfl
      | false =>
        have hno : ¬ EntryDrop store p i := fun hdrop =>
          Bool.false_ne_true ((hasDrop_iff hfound).2 (hiff.1 hdrop))
        obtain ⟨fuel₂, b, hrest⟩ := hnext hno
        refine ⟨max fuel₁ fuel₂, b, ?_⟩
        rw [heq, hasDrop_mono (le_max_left _ _) hfound]
        exact hasDropEntries_mono (fun _ _ _ => hasDrop_mono (le_max_right _ _)) hrest

theorem hasDropEntries_calls
    (hcall : ∀ t g b, call t g = some b → (b = true ↔ HasDrop store p t g)) {i : LootStoreItem}
    (href : i.mincountOrRef < 0) (ht : i.referenced store = some t)
    {pre post : List LootStoreItem} (hpre : ∀ j ∈ pre, ¬ EntryDrop store p j)
    (h : hasDropEntries store p call (pre ++ i :: post) = some b) : (call t i.group).isSome = true := by
  induction pre with
  | nil =>
    rcases hasDropEntries_cons store p i post with ⟨-, hno, -⟩ | ⟨-, hitem, -⟩ | ⟨t', -, ht', -, heq⟩
    · exact absurd ht (hno t href)
    · exact absurd href hitem
    · rw [nil_append, heq] at h
      obtain ⟨found, hfound, -⟩ := bind_eq_some_iff.1 h
      have hsame : t' = t := some.inj (ht'.symm.trans ht)
      rw [← hsame, hfound]
      rfl
  | cons j pre ih =>
    have hno := hpre j mem_cons_self
    have ih := ih fun k hk => hpre k (mem_cons_of_mem j hk)
    rw [cons_append] at h
    rcases hasDropEntries_cons store p j (pre ++ i :: post) with ⟨-, -, heq⟩ | ⟨hyes, -⟩ | ⟨t', -, -, hiff, heq⟩
    · rw [heq] at h
      exact ih h
    · exact absurd hyes hno
    · rw [heq] at h
      obtain ⟨found, hfound, hrest⟩ := bind_eq_some_iff.1 h
      cases found with
      | true => exact absurd (hiff.2 ((hcall _ _ _ hfound).1 rfl)) hno
      | false => exact ih hrest

theorem hasDrop_terminates_iff :
    (∃ fuel, (t.hasDrop store p fuel 0).isSome = true) ↔ Acc (Visits store p) t := by
  constructor
  · rintro ⟨fuel, h⟩
    induction fuel generalizing t with
    | zero => cases h
    | succ fuel ih =>
      refine Acc.intro t fun t' ⟨pre, i, post, hentries, href, hgroup, ht, hpre⟩ => ?_
      rw [hasDrop, isSome_map, hentries] at h
      obtain ⟨b, hb⟩ := isSome_iff_exists.1 h
      have hcall := hasDropEntries_calls (fun _ _ _ => hasDrop_iff) href ht hpre hb
      rw [hgroup] at hcall
      exact ih hcall
  · intro h
    induction h with
    | intro t _ ih =>
      obtain ⟨fuel, b, hb⟩ := hasDropEntries_terminates ih t.entries [] rfl nofun
      refine ⟨fuel + 1, ?_⟩
      rw [hasDrop, hb]
      rfl

end QuestDrops

/-! ## Groups -/

def LootGroup.all (g : LootGroup) : List LootStoreItem := g.explicitlyChanced ++ g.equalChanced

def HasRoom (loot : Loot) (item : LootStoreItem) : Prop :=
  if item.needsQuest then loot.questItems.length < maxNrQuestItems else loot.items.length < maxNrLootItems

def lootSize (loot : Loot) : Nat := loot.items.length + loot.questItems.length

theorem draws_le_of_steps {st' : Rolling} (h : Steps C dice lootMode st st') : st.draws ≤ st'.draws := by
  induction h with
  | refl => exact le_refl _
  | tail _ hstep ih =>
    cases hstep with
    | draw => exact ih.trans (Nat.le_succ _)
    | plain i hmode => exact ih.trans (Nat.le_add_right _ 2)
    | grouped i hmode hbelow => exact ih.trans (Nat.le_add_right _ 2)

variable {g : LootGroup}

theorem maxAttempts_ne_zero : g.maxAttempts ≠ 0 ↔ g.all.length % 256 ≠ 0 := by
  unfold LootGroup.maxAttempts LootGroup.all
  rw [length_append]

theorem rollExplicit_suffix (Roll : ℚ) (is : List LootStoreItem) : LootGroup.rollExplicit C Roll is <:+ is := by
  induction is generalizing Roll with
  | nil => exact suffix_refl _
  | cons i is ih =>
    unfold LootGroup.rollExplicit
    dsimp only
    split
    · exact suffix_refl _
    · split
      · exact suffix_refl _
      · exact (ih _).trans (suffix_cons i is)

theorem processLoop_first (lootMode : BitVec 16) (hne : g.all ≠ []) (left : Nat) (st : Rolling) :
    st.draws < (LootGroup.processLoop C dice lootMode (left + 1) g.explicitlyChanced g.equalChanced st).draws ∧
    ∀ item, g.roll C dice st = some item → item ∈ g.all ∧
      (LootGroup.modeMatches lootMode item = true → LootGroup.duplicate C st.loot item = false →
        ∃ st₁ : Rolling, st₁.loot = st.loot ∧
          LootGroup.processLoop C dice lootMode (left + 1) g.explicitlyChanced g.equalChanced st =
            st₁.addItem C dice false item) := by
  have hnot : ¬ (g.explicitlyChanced = [] ∧ g.equalChanced = []) := fun h =>
    hne (by unfold LootGroup.all; rw [h.1, h.2]; rfl)
  unfold LootGroup.roll
  rw [LootGroup.processLoop, if_neg hnot]
  generalize hrolled : (if g.explicitlyChanced = [] then ([], st)
    else (LootGroup.rollExplicit C (C.float (dice.randChance st.draws).val) g.explicitlyChanced, st.drawn)) = rolled
  have hmem : ∀ item ∈ rolled.1, item ∈ g.explicitlyChanced := by
    subst hrolled
    split
    · exact nofun
    · exact fun item hitem => (rollExplicit_suffix _ _).subset hitem
  have hdraws : rolled.2.loot = st.loot ∧
      (st.draws < rolled.2.draws ∨ rolled.2.draws = st.draws ∧ rolled.1 = [] ∧ g.equalChanced ≠ []) := by
    subst hrolled
    split
    · next hexplicit => exact ⟨rfl, .inr ⟨rfl, rfl, fun hequal => hnot ⟨hexplicit, hequal⟩⟩⟩
    · exact ⟨rfl, .inl (Nat.lt_succ_self _)⟩
  have hloop : ∀ (st₁ : Rolling) (ex eq : List LootStoreItem),
      st₁.draws ≤ (LootGroup.processLoop C dice lootMode left ex eq st₁).draws := fun st₁ ex eq =>
    draws_le_of_steps (processLoop_steps left ex eq st₁)
  obtain ⟨explicit, st₁⟩ := rolled
  obtain ⟨hloot, hdraws⟩ := hdraws
  dsimp only at hmem hloot hdraws ⊢
  cases explicit with
  | cons item rest =>
    dsimp only
    refine ⟨(hdraws.resolve_right fun h => cons_ne_nil _ _ h.2.1).trans_le ?_, ?_⟩
    · split
      · split
        · exact hloop st₁ _ _
        · exact Nat.le_add_right _ 2
      · exact hloop st₁ _ _
    · rintro item' ⟨⟩
      refine ⟨mem_append_left _ (hmem item mem_cons_self), fun hmode hdup => ⟨st₁, hloot, ?_⟩⟩
      rw [if_pos hmode, hloot, hdup, if_neg Bool.false_ne_true]
  | nil =>
    cases hpick : g.equalChanced[dice.irand st₁.draws % g.equalChanced.length]? with
    | none =>
      -- an entry is picked unless there is none
      refine ⟨(hdraws.resolve_right fun h => ?_).trans_le (hloop st₁ _ _), nofun⟩
      rw [getElem?_eq_none_iff] at hpick
      exact absurd (Nat.mod_lt _ (length_pos_of_ne_nil h.2.2)) (not_lt.2 hpick)
    | some item =>
      dsimp only
      have hlt : st.draws < st₁.drawn.draws := by
        change st.draws < st₁.draws + 1
        omega
      refine ⟨hlt.trans_le ?_, ?_⟩
      · split
        · split
          · exact hloop st₁.drawn _ _
          · exact Nat.le_add_right _ 2
        · exact hloop st₁.drawn _ _
      · rintro item' ⟨⟩
        refine ⟨mem_append_right _ (mem_of_getElem? hpick), fun hmode hdup => ⟨st₁.drawn, hloot, ?_⟩⟩
        rw [if_pos hmode, show st₁.drawn.loot = st.loot from hloot, hdup, if_neg Bool.false_ne_true]

theorem rolls_iff (hne : g.all ≠ []) (st : Rolling) :
    st.draws < (g.process C dice lootMode st).draws ↔ g.all.length % 256 ≠ 0 := by
  rw [← maxAttempts_ne_zero]
  unfold LootGroup.process
  cases hattempts : g.maxAttempts with
  | zero => exact iff_of_false (lt_irrefl _) (fun h => h rfl)
  | succ left => exact iff_of_true (processLoop_first _ hne left st).1 (Nat.succ_ne_zero left)

theorem isSome_roll (C : Config) (dice : Dice) (hequal : g.equalChanced ≠ []) (st : Rolling) :
    ∃ item, g.roll C dice st = some item := by
  unfold LootGroup.roll
  generalize (if g.explicitlyChanced = [] then ([], st)
    else (LootGroup.rollExplicit C (C.float (dice.randChance st.draws).val) g.explicitlyChanced, st.drawn)) = rolled
  obtain ⟨explicit, st₁⟩ := rolled
  cases explicit with
  | cons item rest => exact ⟨item, rfl⟩
  | nil => exact ⟨_, getElem?_eq_getElem (Nat.mod_lt _ (length_pos_of_ne_nil hequal))⟩

theorem lootSize_addItem (plain : Bool) (st : Rolling) (item : LootStoreItem) :
    lootSize (st.addItem C dice plain item).loot = lootSize st.loot + 1 ↔ HasRoom st.loot item := by
  unfold HasRoom lootSize Rolling.addItem Loot.addItem
  dsimp only
  cases item.needsQuest with
  | true =>
    rw [if_pos rfl]
    by_cases hlt : st.loot.questItems.length < maxNrQuestItems
    · rw [if_pos hlt]
      refine iff_of_true ?_ hlt
      rw [length_append]
      rfl
    · rw [if_neg hlt]
      exact iff_of_false (Nat.succ_ne_self _).symm hlt
  | false =>
    rw [if_neg Bool.false_ne_true]
    by_cases hlt : st.loot.items.length < maxNrLootItems
    · rw [if_pos hlt]
      refine iff_of_true ?_ hlt
      rw [length_append, length_singleton, add_right_comm]
    · rw [if_neg hlt]
      exact iff_of_false (Nat.succ_ne_self _).symm hlt

/-- Where nothing is against an entry of the group, one item is added if and only if the entry that is drawn
finds room, except with a multiple of 256 entries. -/
theorem adds_one_iff (hequal : g.equalChanced ≠ []) (st : Rolling)
    (hmode : ∀ i ∈ g.all, i.lootmode &&& lootMode ≠ 0) (hbelow : ∀ i ∈ g.all, Below C st.loot i.itemid) :
    lootSize (g.process C dice lootMode st).loot = lootSize st.loot + 1 ↔
      g.all.length % 256 ≠ 0 ∧ ∀ item, g.roll C dice st = some item → HasRoom st.loot item := by
  have hne : g.all ≠ [] := fun h => hequal (append_eq_nil_iff.1 h).2
  rw [← maxAttempts_ne_zero]
  unfold LootGroup.process
  cases hattempts : g.maxAttempts with
  | zero => exact iff_of_false (Nat.succ_ne_self _).symm fun h => h.1 rfl
  | succ left =>
    rw [and_iff_right (Nat.succ_ne_zero left)]
    obtain ⟨item, hitem⟩ := isSome_roll C dice hequal st
    obtain ⟨hmem, hadd⟩ := (processLoop_first lootMode hne left st).2 item hitem
    obtain ⟨st₁, hloot, heq⟩ := hadd (decide_eq_true (hmode item hmem)) (duplicate_eq_false.2 (hbelow item hmem))
    rw [heq, ← hloot, lootSize_addItem, hitem]
    exact ⟨fun h _ hsome => some.inj hsome ▸ h, fun h => h item rfl⟩

/-- **What ends, and what a group does.** Processing a template and looking for a quest drop in it end if and only
if every chain of references that they follow ends. A group is rolled, and adds one item where nothing is against
its entries and there is room for the one drawn, if and only if the number of its entries is no multiple of 256. -/
theorem generation_iff (C : Config) (dice : Dice) (refs store : LootTemplateMap) (rate : Bool)
    (lootMode : BitVec 16) (hasQuestForItem : Nat → Bool) (t : LootTemplate) (st : Rolling) {g : LootGroup}
    (hne : g.all ≠ []) :
    (Terminates C refs rate lootMode t ↔ Acc (Follows C refs rate lootMode) t) ∧
    ((∃ fuel, (t.hasQuestDrop store fuel 0).isSome = true) ↔ Acc (Visits store (·.needsQuest)) t) ∧
    ((∃ fuel, (t.hasQuestDropForPlayer store hasQuestForItem fuel 0).isSome = true) ↔
      Acc (Visits store fun i => hasQuestForItem i.itemid) t) ∧
    (st.draws < (g.process C dice lootMode st).draws ↔ g.all.length % 256 ≠ 0) ∧
    (g.equalChanced ≠ [] → (∀ i ∈ g.all, i.lootmode &&& lootMode ≠ 0) →
      (∀ i ∈ g.all, Below C st.loot i.itemid) →
        (lootSize (g.process C dice lootMode st).loot = lootSize st.loot + 1 ↔
          g.all.length % 256 ≠ 0 ∧ ∀ item, g.roll C dice st = some item → HasRoom st.loot item)) :=
  ⟨terminates_iff, hasDrop_terminates_iff, hasDrop_terminates_iff, rolls_iff hne st, fun hequal =>
    adds_one_iff hequal st⟩

def loopRows : List Row :=
  [{ entry := 1, item := 1, chanceOrQuestChance := 100, lootmode := 1, groupid := 0, mincountOrRef := -1,
     maxcount := 1 }]

def trinketEntry : LootStoreItem := { itemid := 100, chance := 0, mincountOrRef := 1, lootmode := 1, group := 1 }

theorem generation_iff_trinket :
    ({ equalChanced := [trinketEntry] } : LootGroup).process trinketConfig zeroDice 1 {} ≠ {} := by
  intro h
  have hlt := (generation_iff trinketConfig zeroDice .empty .empty false 1 (fun _ => false) {} {}
    (g := { equalChanced := [trinketEntry] }) (by decide)).2.2.2.1.2 (by decide)
  rw [h] at hlt
  exact lt_irrefl 0 hlt

theorem not_acc_of_self {α : Type} {r : α → α → Prop} {a : α} (h : r a a) : ¬ Acc r a := by
  intro hacc
  induction hacc with
  | intro a _ ih => exact ih a h h

def loopEntry : LootStoreItem := { itemid := 1, chance := 100, mincountOrRef := -1, lootmode := 1 }

theorem find_loopRows :
    (loadReferences trinketConfig loopRows).1.find? 1 = some { entries := [loopEntry] } := by
  decide +kernel

/-- The table of the reference is loaded without a complaint. Processing it and looking for a quest drop in it go
on for ever, and 256 equal chanced trinkets are not rolled. -/
theorem not_generation :
    (loadReferences trinketConfig loopRows).2 = [] ∧
    (∃ t, (loadReferences trinketConfig loopRows).1.find? 1 = some t ∧
      ¬ Terminates trinketConfig (loadReferences trinketConfig loopRows).1 false 1 t ∧
      ∀ fuel, t.hasQuestDrop (loadReferences trinketConfig loopRows).1 fuel 0 = none) ∧
    (({ equalChanced := replicate 256 trinketEntry } : LootGroup).process trinketConfig zeroDice 1 {}).draws =
      0 := by
  refine ⟨by decide +kernel, ⟨_, find_loopRows, fun h => ?_, fun fuel => ?_⟩, ?_⟩
  · have hself : Follows trinketConfig (loadReferences trinketConfig loopRows).1 false 1
        { entries := [loopEntry] } { entries := [loopEntry] } :=
      ⟨loopEntry, mem_cons_self, by decide, rfl, find_loopRows, by decide, by decide, .inl (le_refl _)⟩
    exact not_acc_of_self hself (terminates_iff.1 h)
  · have hself : Visits (loadReferences trinketConfig loopRows).1 (·.needsQuest)
        { entries := [loopEntry] } { entries := [loopEntry] } :=
      ⟨[], loopEntry, [], rfl, by decide, rfl, find_loopRows, nofun⟩
    by_contra hsome
    exact not_acc_of_self hself (hasDrop_terminates_iff.1 ⟨fuel, isSome_iff_ne_none.2 hsome⟩)
  · have hattempts : LootGroup.maxAttempts { equalChanced := replicate 256 trinketEntry } = 0 := by
      unfold LootGroup.maxAttempts
      rw [length_replicate]
      rfl
    unfold LootGroup.process
    rw [hattempts]
    rfl

end Axium.LootStore
