import Axium.Looting.LootTemplates

/-!
# Drop limits

What `LootTemplate::Process` does to a loot is a sequence of steps: a draw, an entry that is added by a
template, or an entry that is added by a group (`process_steps`). A group adds an entry only where the loot
is below the limit of the item and the mode of the entry matches. A template makes the same search for
duplicates, but its `continue` belongs to the search and not to the loop over the entries, so the search
refuses nothing; and its test of the mode passes an entry without any mode.
-/

namespace Axium.LootStore

open Looting Relation List Option

variable {C : Config} {dice : Dice} {lootMode : BitVec 16}

/-- How often an item may drop: once if it can be equipped, else three times. -/
def Config.limit (C : Config) (itemid : Nat) : Option Nat :=
  (C.inventoryType itemid).map fun InventoryType => if InventoryType = 0 then 3 else 1

def dropped (loot : Loot) (itemid : Nat) : Nat := loot.items.countP (·.itemid = itemid)

/-- No entry drops too often, the loot is not too long, and what dropped suits the mode. -/
structure Limited (C : Config) (lootMode : BitVec 16) (st : Rolling) : Prop where
  duplicates : ∀ itemid n, C.limit itemid = some n → dropped st.loot itemid ≤ n
  length : st.loot.items.length ≤ maxNrLootItems
  mode : ∀ d ∈ st.log, d.entry.lootmode &&& lootMode ≠ 0

def Below (C : Config) (loot : Loot) (itemid : Nat) : Prop :=
  ∀ n, C.limit itemid = some n → dropped loot itemid < n

instance (loot : Loot) (itemid : Nat) : Decidable (Below C loot itemid) :=
  inferInstanceAs (Decidable (∀ n ∈ C.limit itemid, dropped loot itemid < n))

/-- An entry with a mode that goes to the quest items, meets a full loot, or meets one below the limit. -/
def Drop.Within (C : Config) (d : Drop) : Prop :=
  d.entry.lootmode ≠ 0 ∧
    (d.entry.needsQuest = true ∨ maxNrLootItems ≤ d.before.items.length ∨ Below C d.before d.entry.itemid)

instance (d : Drop) : Decidable (d.Within C) := inferInstanceAs (Decidable (_ ∧ _))

inductive Step (C : Config) (dice : Dice) (lootMode : BitVec 16) : Rolling → Rolling → Prop where
  | draw (st : Rolling) : Step C dice lootMode st st.drawn
  | plain (st : Rolling) (i : LootStoreItem) (hmode : i.lootmode &&& ~~~lootMode = 0) :
      Step C dice lootMode st (st.addItem C dice true i)
  | grouped (st : Rolling) (i : LootStoreItem) (hmode : i.lootmode &&& lootMode ≠ 0)
      (hbelow : Below C st.loot i.itemid) : Step C dice lootMode st (st.addItem C dice false i)

abbrev Steps (C : Config) (dice : Dice) (lootMode : BitVec 16) : Rolling → Rolling → Prop :=
  ReflTransGen (Step C dice lootMode)

/-! ## The search for duplicates -/

theorem isDuplicate_iff {InventoryType itemid n : Nat} (hn : n = if InventoryType = 0 then 3 else 1)
    (items : List LootItem) (itemCounter : Nat) (duplicate : Bool) :
    isDuplicate InventoryType itemid items itemCounter duplicate = true ↔
      duplicate = true ∨ itemCounter < n ∧ n ≤ itemCounter + items.countP (·.itemid = itemid) := by
  induction items generalizing itemCounter duplicate with
  | nil =>
    rw [countP_nil]
    exact (or_iff_left (by omega)).symm
  | cons item items ih =>
    unfold isDuplicate
    rw [countP_cons]
    by_cases hid : item.itemid = itemid
    · rw [if_pos hid, if_pos (decide_eq_true hid)]
      by_cases htype : InventoryType = 0
      · rw [if_pos htype] at hn
        by_cases hcount : itemCounter + 1 = 3
        · rw [if_pos ⟨htype, hcount⟩, ih]
          exact iff_of_true (.inl rfl) (.inr (by omega))
        · rw [if_neg fun h => hcount h.2, if_neg fun h => h.1 htype, ih]
          exact or_congr_right (by omega)
      · rw [if_neg htype] at hn
        rw [if_neg fun h => htype h.1]
        by_cases hcount : itemCounter + 1 = 1
        · rw [if_pos ⟨htype, hcount⟩, ih]
          exact iff_of_true (.inl rfl) (.inr (by omega))
        · rw [if_neg fun h => hcount h.2, ih]
          exact or_congr_right (by omega)
    · rw [if_neg hid, if_neg (by rw [decide_eq_false hid]; exact Bool.false_ne_true), ih, add_zero]

theorem duplicate_eq_false {loot : Loot} {item : LootStoreItem} :
    LootGroup.duplicate C loot item = false ↔ Below C loot item.itemid := by
  unfold LootGroup.duplicate Below Config.limit dropped
  cases htype : C.inventoryType item.itemid with
  | none => simp
  | some InventoryType =>
    simp only [map_some, some.injEq, forall_eq']
    rw [← Bool.not_eq_true, isDuplicate_iff rfl, or_iff_right Bool.false_ne_true]
    split
    · omega
    · omega

/-! ## Processing takes steps -/

theorem roll_steps (i : LootStoreItem) (rate : Bool) (st : Rolling) :
    Steps C dice lootMode st (i.roll C dice rate st).2 := by
  unfold LootStoreItem.roll
  by_cases hchance : 100 ≤ i.chance
  · rw [if_pos hchance]
  · rw [if_neg hchance]
    exact .single (.draw st)

variable {i : LootStoreItem} {rate : Bool} {st st' : Rolling}

theorem passed_steps (h : Passed C dice rate lootMode i st st') : Steps C dice lootMode st st' := by
  cases h with
  | mode => exact .refl
  | rolled => exact roll_steps i rate st
  | added hmode => exact (roll_steps i rate st).tail (.plain _ i hmode)

theorem grouped_steps {item : LootStoreItem}
    (hmode : LootGroup.modeMatches lootMode item = true) (hbelow : LootGroup.duplicate C st.loot item = false) :
    Steps C dice lootMode st (st.addItem C dice false item) :=
  .single (.grouped st item (of_decide_eq_true hmode) (duplicate_eq_false.1 hbelow))

theorem processLoop_steps (left : Nat) (explicitPossibleDrops equalPossibleDrops : List LootStoreItem)
    (st : Rolling) : Steps C dice lootMode st
      (LootGroup.processLoop C dice lootMode left explicitPossibleDrops equalPossibleDrops st) := by
  induction left generalizing explicitPossibleDrops equalPossibleDrops st with
  | zero => exact .refl
  | succ left ih =>
    unfold LootGroup.processLoop
    by_cases hempty : explicitPossibleDrops = [] ∧ equalPossibleDrops = []
    · rw [if_pos hempty]
    rw [if_neg hempty]
    -- the draw for the explicitly chanced entries
    generalize hrolled : (if explicitPossibleDrops = [] then ([], st)
      else (LootGroup.rollExplicit C (C.float (dice.randChance st.draws).val) explicitPossibleDrops,
        st.drawn)) = rolled
    have hdraw : Steps C dice lootMode st rolled.2 := by
      subst hrolled
      split
      · exact .refl
      · exact .single (.draw st)
    obtain ⟨explicit, st₁⟩ := rolled
    refine hdraw.trans ?_
    cases explicit with
    | cons item rest =>
      dsimp only
      split
      · next hmode =>
        split
        · exact ih _ _ _
        · next hbelow => exact grouped_steps hmode (Bool.eq_false_iff.2 hbelow)
      · exact ih _ _ _
    | nil =>
      dsimp only
      split
      · exact ih _ _ _
      · refine .trans (.single (.draw st₁)) ?_
        split
        · next hmode =>
          split
          · exact ih _ _ _
          · next hbelow => exact grouped_steps hmode (Bool.eq_false_iff.2 hbelow)
        · exact ih _ _ _

theorem groups_steps (groups : List LootGroup) (st : Rolling) :
    Steps C dice lootMode st (groups.foldl (fun st g => g.process C dice lootMode st) st) := by
  induction groups generalizing st with
  | nil => exact .refl
  | cons g groups ih => exact (processLoop_steps _ _ _ st).trans (ih _)

theorem repeatCall_steps {call : Rolling → Option Rolling}
    (hcall : ∀ st st', call st = some st' → Steps C dice lootMode st st') {n : Nat}
    (h : repeatCall call n st = some st') : Steps C dice lootMode st st' := by
  induction n generalizing st with
  | zero =>
    cases h
    exact .refl
  | succ n ih =>
    obtain ⟨st₁, h₁, h₂⟩ := bind_eq_some_iff.1 h
    exact (hcall st st₁ h₁).trans (ih h₂)

theorem processEntries_steps {refs : LootTemplateMap} {call : LootTemplate → Nat → Rolling → Option Rolling}
    (hcall : ∀ t g st st', call t g st = some st' → Steps C dice lootMode st st') {is : List LootStoreItem}
    (h : LootTemplate.processEntries C dice refs rate lootMode call is st = some st') :
    Steps C dice lootMode st st' := by
  induction is generalizing st with
  | nil =>
    cases h
    exact .refl
  | cons i is ih =>
    rcases processEntries_cons C dice refs rate lootMode i is st with
      ⟨-, st₁, hpassed, heq⟩ | ⟨Referenced, -, heq⟩
    · rw [heq] at h
      exact (passed_steps hpassed).trans (ih h)
    · rw [heq] at h
      obtain ⟨st₁, hrepeat, hrest⟩ := bind_eq_some_iff.1 h
      exact ((roll_steps i rate st).trans (repeatCall_steps (hcall _ _) hrepeat)).trans (ih hrest)

/-- Whatever a template refers to, processing it is a sequence of additions. -/
theorem process_steps {refs : LootTemplateMap} {fuel : Nat} {t : LootTemplate} {groupId : Nat}
    (h : LootTemplate.process C dice refs rate lootMode fuel t groupId st = some st') :
    Steps C dice lootMode st st' := by
  induction fuel generalizing t groupId st st' with
  | zero => cases h
  | succ fuel ih =>
    cases groupId with
    | zero =>
      obtain ⟨st₁, hentries, hgroups⟩ := map_eq_some_iff.1 h
      subst hgroups
      exact (processEntries_steps (fun _ _ _ _ => ih) hentries).trans (groups_steps _ _)
    | succ groupId =>
      unfold LootTemplate.process at h
      split at h
      · cases h
        exact .refl
      · cases h
        exact processLoop_steps _ _ _ _

/-! ## What a step does to the limits -/

theorem items_addItem (C : Config) (dice : Dice) (plain : Bool) (st : Rolling) (i : LootStoreItem) :
    (st.addItem C dice plain i).loot.items = st.loot.items ∨
      i.needsQuest = false ∧ st.loot.items.length < maxNrLootItems ∧
        ∃ item : LootItem, item.itemid = i.itemid ∧
          (st.addItem C dice plain i).loot.items = st.loot.items ++ [item] := by
  unfold Rolling.addItem Loot.addItem
  dsimp only
  cases hq : i.needsQuest with
  | true =>
    left
    rw [if_pos rfl]
    split
    · rfl
    · rfl
  | false =>
    by_cases hlt : st.loot.items.length < maxNrLootItems
    · rw [if_pos hlt]
      exact .inr ⟨rfl, hlt, _, rfl, rfl⟩
    · rw [if_neg hlt]
      exact .inl rfl

theorem items_addItem_of_room (C : Config) (dice : Dice) (plain : Bool) (hq : i.needsQuest = false)
    (hlt : st.loot.items.length < maxNrLootItems) : ∃ item : LootItem, item.itemid = i.itemid ∧
      (st.addItem C dice plain i).loot.items = st.loot.items ++ [item] := by
  unfold Rolling.addItem Loot.addItem
  dsimp only
  rw [hq, if_pos hlt]
  exact ⟨_, rfl, rfl⟩

theorem dropped_append {loot loot' : Loot} {item : LootItem} (h : loot'.items = loot.items ++ [item])
    (itemid : Nat) : dropped loot' itemid = dropped loot itemid + if item.itemid = itemid then 1 else 0 := by
  unfold dropped
  rw [h, countP_append, countP_singleton]
  congr 1
  by_cases hid : item.itemid = itemid
  · rw [if_pos hid, if_pos (decide_eq_true hid)]
  · rw [if_neg hid, if_neg (by rw [decide_eq_false hid]; exact Bool.false_ne_true)]

/-- An entry is added within the limits if and only if it has a mode in common, and the loot was below the limit
unless nothing was added to the items. -/
theorem limited_addItem {plain : Bool} :
    Limited C lootMode (st.addItem C dice plain i) ↔ Limited C lootMode st ∧ i.lootmode &&& lootMode ≠ 0 ∧
      (i.needsQuest = true ∨ maxNrLootItems ≤ st.loot.items.length ∨ Below C st.loot i.itemid) := by
  have hlog : (st.addItem C dice plain i).log = st.log ++ [⟨st.loot, i, plain⟩] := rfl
  constructor
  · intro h
    have hmode := h.mode
    have hmono : ∀ itemid, dropped st.loot itemid ≤ dropped (st.addItem C dice plain i).loot itemid := by
      intro itemid
      rcases items_addItem C dice plain st i with heq | ⟨-, -, item, -, heq⟩
      · unfold dropped
        rw [heq]
      · rw [dropped_append heq]
        exact Nat.le_add_right _ _
    refine ⟨⟨fun itemid n hn => (hmono itemid).trans (h.duplicates itemid n hn), ?_, fun d hd =>
      hmode d (mem_append_left _ hd)⟩,
      hmode ⟨st.loot, i, plain⟩ (mem_append_right _ mem_cons_self), ?_⟩
    · have hlength := h.length
      rcases items_addItem C dice plain st i with heq | ⟨-, hlt, -⟩
      · rwa [heq] at hlength
      · exact hlt.le
    · by_contra hover
      rw [not_or, not_or, not_le, Bool.not_eq_true] at hover
      obtain ⟨hq, hlt, hbelow⟩ := hover
      obtain ⟨item, hid, heq⟩ := items_addItem_of_room C dice plain hq hlt
      refine hbelow fun n hn => ?_
      have hle := h.duplicates i.itemid n hn
      rw [dropped_append heq, if_pos hid] at hle
      exact hle
  · rintro ⟨h, hmode, hwithin⟩
    have hmodes : ∀ d ∈ (st.addItem C dice plain i).log, d.entry.lootmode &&& lootMode ≠ 0 := by
      intro d hd
      rcases mem_append.1 hd with hold | hnew
      · exact h.mode d hold
      · rw [mem_singleton.1 hnew]
        exact hmode
    rcases items_addItem C dice plain st i with heq | ⟨hq, hlt, item, hid, heq⟩
    · refine ⟨fun itemid n hn => ?_, by rw [heq]; exact h.length, hmodes⟩
      unfold dropped
      rw [heq]
      exact h.duplicates itemid n hn
    · refine ⟨fun itemid n hn => ?_, ?_, hmodes⟩
      · rw [dropped_append heq]
        by_cases hsame : item.itemid = itemid
        · subst hsame
          rw [if_pos rfl, hid]
          have hbelow : Below C st.loot i.itemid := by
            rcases hwithin with hquest | hfull | hbelow
            · rw [hq] at hquest
              cases hquest
            · omega
            · exact hbelow
          exact hbelow n (hid ▸ hn)
        · rw [if_neg hsame]
          exact h.duplicates itemid n hn
      · rw [heq, length_append]
        exact hlt

theorem and_ne_zero_iff {m lootMode : BitVec 16} (h : m &&& ~~~lootMode = 0) : m &&& lootMode ≠ 0 ↔ m ≠ 0 := by
  have hand : m &&& lootMode = m := by
    refine BitVec.eq_of_getLsbD_eq fun k hk => ?_
    have hbit := congrArg (·.getLsbD k) h
    simp only [BitVec.getLsbD_and, BitVec.getLsbD_not, hk, decide_true, Bool.true_and] at hbit
    rw [BitVec.getLsbD_and]
    revert hbit
    cases m.getLsbD k <;> cases lootMode.getLsbD k <;> simp
  rw [hand]

theorem limited_of_steps (h : Steps C dice lootMode {} st) :
    Limited C lootMode st ↔ ∀ d ∈ st.log, d.plain = true → d.Within C := by
  induction h with
  | refl => exact iff_of_true ⟨fun _ _ _ => Nat.zero_le _, Nat.zero_le _, nofun⟩ nofun
  | @tail st st' _ hstep ih =>
    cases hstep with
    | draw =>
      refine Iff.trans ?_ ih
      exact ⟨fun h => ⟨h.duplicates, h.length, h.mode⟩, fun h => ⟨h.duplicates, h.length, h.mode⟩⟩
    | plain i hmode =>
      rw [limited_addItem, ih, and_ne_zero_iff hmode]
      change _ ↔ ∀ d ∈ st.log ++ [⟨st.loot, i, true⟩], _
      rw [forall_mem_append, forall_mem_singleton]
      exact and_congr_right fun _ => ⟨fun h _ => h, fun h => h rfl⟩
    | grouped i hmode hbelow =>
      rw [limited_addItem, ih]
      change _ ↔ ∀ d ∈ st.log ++ [⟨st.loot, i, false⟩], _
      rw [forall_mem_append, forall_mem_singleton]
      exact and_congr_right fun _ => iff_of_true ⟨hmode, .inr (.inr hbelow)⟩ nofun

/-- **The limits hold if and only if every entry that a template adds meets a loot below the limit and has a
mode.** What the groups add is always within the limits. -/
theorem limited_iff {refs : LootTemplateMap} {rate : Bool} {fuel : Nat} {t : LootTemplate} {groupId : Nat}
    {st : Rolling} (h : LootTemplate.process C dice refs rate lootMode fuel t groupId {} = some st) :
    Limited C lootMode st ↔ ∀ d ∈ st.log, d.plain = true → d.Within C :=
  limited_of_steps (process_steps h)

def trinketConfig : Config where
  partyLoot _ := false
  currencyToken _ := false
  allowedForPlayer _ _ _ _ := true
  inventoryType _ := some 12

def zeroDice : Dice where
  randChance _ := ⟨0, by norm_num, by norm_num⟩
  irand _ := 0

def trinketRows : List Row :=
  [{ entry := 1, item := 100, chanceOrQuestChance := 100, lootmode := 1, groupid := 0, mincountOrRef := 1,
     maxcount := 1 }]

/-- A template that follows the reference `n` times. -/
def trinketTemplate (n : Nat) : LootTemplate :=
  { entries := [{ itemid := 1, chance := 100, mincountOrRef := -1, lootmode := 1, maxcount := n }] }

def trinkets (n : Nat) : Option Rolling :=
  LootTemplate.process trinketConfig zeroDice (loadReferences trinketConfig trinketRows).1 false 1 2
    (trinketTemplate n) 0 {}

theorem limited_trinket : ∃ st, trinkets 1 = some st ∧ Limited trinketConfig 1 st := by
  obtain ⟨st, hst⟩ := isSome_iff_exists.1 (show (trinkets 1).isSome = true by decide +kernel)
  have hall : (trinkets 1).all (fun st =>
      decide (∀ d ∈ st.log, d.plain = true → d.Within trinketConfig)) = true := by
    decide +kernel
  rw [hst] at hall
  exact ⟨st, hst, (limited_iff hst).2 (of_decide_eq_true hall)⟩

/-- A trinket drops twice, once for each processing of the reference. -/
theorem not_limited_trinkets : (loadReferences trinketConfig trinketRows).2 = [] ∧
    ∃ st, trinkets 2 = some st ∧ ¬ Limited trinketConfig 1 st := by
  obtain ⟨st, hst⟩ := isSome_iff_exists.1 (show (trinkets 2).isSome = true by decide +kernel)
  have htwo : (trinkets 2).all (fun st => decide (dropped st.loot 100 = 2)) = true := by decide +kernel
  rw [hst] at htwo
  refine ⟨by decide +kernel, st, hst, fun h => ?_⟩
  have hle := h.duplicates 100 1 rfl
  rw [of_decide_eq_true htwo] at hle
  exact absurd hle (by decide)

end Axium.LootStore
