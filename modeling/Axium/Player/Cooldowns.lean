import Axium.Guilds.Bank

/-!
# Spell cooldowns

`Player::AddSpellAndCategoryCooldowns` and `Player::AddSpellCooldown`. A cast writes the cooldown of the
spell, and the category cooldown over every other spell of the category.

The modifiers of spells compute with floats and lose charges as they are used. They are a parameter that
is told how many of its calls the cast has made before.
-/

namespace Axium.Cooldowns

open Guilds (int32 uint32)

def inMilliseconds : Int := 1000

def infinityCooldownDelay : Int := 60 * 60 * 24 * 30

/-- `SpellCooldown`. The field `end` is named as the argument it is written from. -/
structure SpellCooldown where
  endTime : Int
  itemid : Nat
  deriving DecidableEq, Repr

abbrev SpellCooldowns := OrdMap Nat SpellCooldown

/-- `_Spell`, one of the `Spells` of an item template. -/
structure ItemSpell where
  spellId : Int
  spellCooldown : Int
  spellCategory : Nat
  spellCategoryCooldown : Int

structure SpellInfo where
  id : Nat
  category : Nat := 0
  recoveryTime : Nat := 0
  categoryRecoveryTime : Nat := 0
  isAutoRepeatRangedSpell : Bool := false

structure World where
  /-- `Spells` of the template of an item -/
  itemTemplate : Nat → Option (List ItemSpell) := fun _ => none
  /-- `sSpellCategoryStore` -/
  spellCategoryStore : OrdMap Nat (List Nat) := .empty
  /-- `GetAttackTime(RANGED_ATTACK)` -/
  attackTime : Nat := 2000
  /-- `ApplySpellMod` for `SPELLMOD_COOLDOWN`, after a number of calls -/
  applySpellMod : Nat → Nat → Int → Int := fun _ _ basevalue => basevalue

/-- The values `cat`, `rec` and `catrec`. The times are in milliseconds. -/
structure Recovery where
  cat : Nat
  recovery : Int
  categoryRecovery : Int

def Recovery.unset : Recovery := ⟨0, -1, -1⟩

def addSpellCooldown (spellId itemId : Nat) (endTime : Int) (m : SpellCooldowns) : SpellCooldowns :=
  m.insert spellId ⟨endTime, itemId % 65536⟩

namespace World

variable (W : World) (spellInfo : SpellInfo) (itemId : Nat)

/-- The cooldown data of the first entry of the item that is for the spell. -/
def itemRecovery : Recovery :=
  if itemId = 0 then .unset
  else match W.itemTemplate itemId with
    | none => .unset
    | some spells =>
      match spells.find? fun s => uint32 s.spellId = spellInfo.id with
      | none => .unset
      | some s => ⟨s.spellCategory, s.spellCooldown, s.spellCategoryCooldown⟩

/-- The cooldown data of the cast: that of the item, or else that of the spell. -/
def recoveryOf : Recovery :=
  let r := W.itemRecovery spellInfo itemId
  if r.recovery < 0 ∧ r.categoryRecovery < 0 then
    ⟨spellInfo.category, int32 spellInfo.recoveryTime, int32 spellInfo.categoryRecoveryTime⟩
  else r

def withAttackTime (r : Recovery) : Recovery :=
  if r.recovery ≤ 0 ∧ r.categoryRecovery ≤ 0 ∧
      (r.cat = 76 ∨ spellInfo.isAutoRepeatRangedSpell ∧ spellInfo.id ≠ 75) then
    { r with recovery := int32 W.attackTime }
  else r

/-- The modifiers, applied to what is positive, and negative times replaced by `0`. -/
def modified (r : Recovery) : Recovery :=
  let recovery := if 0 < r.recovery then W.applySpellMod 0 spellInfo.id r.recovery else r.recovery
  let categoryRecovery :=
    if 0 < r.categoryRecovery then
      W.applySpellMod (if 0 < r.recovery then 1 else 0) spellInfo.id r.categoryRecovery
    else r.categoryRecovery
  ⟨r.cat, max recovery 0, max categoryRecovery 0⟩

/-- What is written: `recTime`, `catrecTime`, and the last value of `catrec`. -/
structure Ends where
  recTime : Int
  catrecTime : Int
  catrec : Int

def ends (clock : Int) (infinityCooldown : Bool) : Option Ends :=
  let r := W.recoveryOf spellInfo itemId
  if infinityCooldown then
    let catrecTime := if 0 < r.categoryRecovery then clock + infinityCooldownDelay else 0
    some ⟨if 0 < r.recovery then clock + infinityCooldownDelay else catrecTime, catrecTime, r.categoryRecovery⟩
  else
    let r := W.modified spellInfo (W.withAttackTime spellInfo r)
    if r.recovery = 0 ∧ r.categoryRecovery = 0 then none
    else
      let catrecTime := if r.categoryRecovery ≠ 0 then clock + r.categoryRecovery.tdiv inMilliseconds else 0
      some ⟨if r.recovery ≠ 0 then clock + r.recovery.tdiv inMilliseconds else catrecTime, catrecTime,
        r.categoryRecovery⟩

def categorySpells (cat : Nat) : List Nat := (W.spellCategoryStore.find? cat).getD []

def addSpellAndCategoryCooldowns (clock : Int) (infinityCooldown : Bool) (m : SpellCooldowns) :
    SpellCooldowns :=
  match W.ends spellInfo itemId clock infinityCooldown with
  | none => m
  | some e =>
    -- self spell cooldown
    let m := if 0 < e.recTime then addSpellCooldown spellInfo.id itemId e.recTime m else m
    -- category spells
    let cat := (W.recoveryOf spellInfo itemId).cat
    if cat ≠ 0 ∧ 0 < e.catrec then
      (W.categorySpells cat).foldl
        (fun m s => if s = spellInfo.id then m else addSpellCooldown s itemId e.catrecTime m) m
    else m

/-! ## The category cooldown -/

/-- The category recovery time of the cast in milliseconds: with the modifiers, unless it is infinite. -/
def categoryRecoveryOf (infinityCooldown : Bool) : Int :=
  let r := W.recoveryOf spellInfo itemId
  if infinityCooldown then r.categoryRecovery
  else (W.modified spellInfo (W.withAttackTime spellInfo r)).categoryRecovery

def categorySeconds (infinityCooldown : Bool) : Int :=
  if infinityCooldown then infinityCooldownDelay
  else W.categoryRecoveryOf spellInfo itemId infinityCooldown / inMilliseconds

def Shares (infinityCooldown : Bool) (s : Nat) : Prop :=
  (W.recoveryOf spellInfo itemId).cat ≠ 0 ∧ 0 < W.categoryRecoveryOf spellInfo itemId infinityCooldown ∧
    s ∈ W.categorySpells (W.recoveryOf spellInfo itemId).cat

instance (infinityCooldown : Bool) (s : Nat) : Decidable (W.Shares spellInfo itemId infinityCooldown s) :=
  inferInstanceAs (Decidable (_ ∧ _ ∧ _))

variable {W spellInfo itemId} {clock : Int} {infinityCooldown : Bool} {m : SpellCooldowns} {s : Nat}

theorem ends_none (h : W.ends spellInfo itemId clock infinityCooldown = none) :
    W.categoryRecoveryOf spellInfo itemId infinityCooldown = 0 := by
  unfold ends at h
  cases infinityCooldown with
  | true => simp at h
  | false =>
    dsimp only at h
    rw [if_neg Bool.false_ne_true] at h
    split at h
    · next hzero => exact hzero.2
    · cases h

theorem ends_some {e : Ends} (h : W.ends spellInfo itemId clock infinityCooldown = some e) :
    e.catrec = W.categoryRecoveryOf spellInfo itemId infinityCooldown ∧
      (0 < e.catrec → e.catrecTime = clock + W.categorySeconds spellInfo itemId infinityCooldown) := by
  unfold ends at h
  cases infinityCooldown with
  | true =>
    simp only [if_true, Option.some.injEq] at h
    subst h
    exact ⟨rfl, fun hpos => if_pos hpos⟩
  | false =>
    dsimp only at h
    rw [if_neg Bool.false_ne_true] at h
    split at h
    · cases h
    · cases h
      refine ⟨rfl, fun hpos => ?_⟩
      have hdiv := Int.tdiv_eq_ediv_of_nonneg (b := inMilliseconds) (le_of_lt hpos)
      rw [if_pos (ne_of_gt hpos), hdiv]
      rfl

theorem find?_foldl_category (endTime : Int) (ids : List Nat) (hs : s ≠ spellInfo.id) (m : SpellCooldowns) :
    (ids.foldl (fun m s => if s = spellInfo.id then m else addSpellCooldown s itemId endTime m) m).find? s =
      if s ∈ ids then some ⟨endTime, itemId % 65536⟩ else m.find? s := by
  induction ids generalizing m with
  | nil => simp
  | cons t ids ih =>
    rw [List.foldl_cons, ih]
    by_cases ht : t = spellInfo.id
    · have hst : s ≠ t := fun h => hs (h.trans ht)
      rw [if_pos ht]
      simp only [List.mem_cons, hst, false_or]
    · rw [if_neg ht, addSpellCooldown, OrdMap.find?_insert]
      by_cases hts : t = s
      · simp [hts]
      · simp [hts, Ne.symm hts]

theorem find?_self_other (hs : s ≠ spellInfo.id) (e : Ends) :
    (if 0 < e.recTime then addSpellCooldown spellInfo.id itemId e.recTime m else m).find? s = m.find? s := by
  split
  · exact OrdMap.find?_insert_ne m _ (Ne.symm hs)
  · rfl

theorem find?_addSpellAndCategoryCooldowns (hs : s ≠ spellInfo.id) :
    (W.addSpellAndCategoryCooldowns spellInfo itemId clock infinityCooldown m).find? s =
      if W.Shares spellInfo itemId infinityCooldown s then
        some ⟨clock + W.categorySeconds spellInfo itemId infinityCooldown, itemId % 65536⟩ else m.find? s := by
  unfold addSpellAndCategoryCooldowns
  cases he : W.ends spellInfo itemId clock infinityCooldown with
  | none =>
    have hzero := ends_none he
    refine (if_neg fun hshares => ?_).symm
    exact absurd hshares.2.1 (by omega)
  | some e =>
    obtain ⟨hcatrec, htime⟩ := ends_some he
    dsimp only
    split
    · next hwrite =>
      rw [find?_foldl_category _ _ hs, find?_self_other hs, htime hwrite.2]
      exact if_congr ⟨fun hmem => ⟨hwrite.1, hcatrec ▸ hwrite.2, hmem⟩, fun hshares => hshares.2.2⟩ rfl rfl
    · next hskip =>
      rw [find?_self_other hs]
      refine (if_neg fun hshares => hskip ⟨hshares.1, ?_⟩).symm
      exact hcatrec ▸ hshares.2.1

variable (W spellInfo itemId clock infinityCooldown m)

/-- No cooldown that runs at the time of the cast ends earlier for it, that of the spell apart. -/
def NeverShortens : Prop :=
  ∀ s c, s ≠ spellInfo.id → m.find? s = some c → clock < c.endTime →
    ∃ c', (W.addSpellAndCategoryCooldowns spellInfo itemId clock infinityCooldown m).find? s = some c' ∧
      c.endTime ≤ c'.endTime

/-- **A cast shortens no other cooldown** if and only if no other spell of the category has a cooldown
that outlasts the category cooldown of the cast. -/
theorem neverShortens_iff :
    W.NeverShortens spellInfo itemId clock infinityCooldown m ↔
      ∀ s c, s ≠ spellInfo.id → W.Shares spellInfo itemId infinityCooldown s → m.find? s = some c →
        clock < c.endTime → c.endTime ≤ clock + W.categorySeconds spellInfo itemId infinityCooldown := by
  constructor
  · intro h s c hs hshares hc hruns
    obtain ⟨c', hc', hle⟩ := h s c hs hc hruns
    rw [find?_addSpellAndCategoryCooldowns hs, if_pos hshares] at hc'
    cases hc'
    exact hle
  · intro h s c hs hc hruns
    rw [find?_addSpellAndCategoryCooldowns hs]
    by_cases hshares : W.Shares spellInfo itemId infinityCooldown s
    · exact ⟨_, if_pos hshares, h s c hs hshares hc hruns⟩
    · exact ⟨c, (if_neg hshares).trans hc, le_rfl⟩

def twoSpells : World := { spellCategoryStore := OrdMap.empty.insert 5 [1, 2] }

/-- The spell 2 is on a cooldown of five minutes, and the spell 1 of the same category has a category
cooldown of two seconds. -/
theorem cast_shortens_other :
    (OrdMap.empty.insert 2 ⟨1300, 0⟩ : SpellCooldowns).find? 2 = some ⟨1300, 0⟩ ∧
    (twoSpells.addSpellAndCategoryCooldowns { id := 1, category := 5, categoryRecoveryTime := 2000 } 0 1000 false
      (OrdMap.empty.insert 2 ⟨1300, 0⟩)).find? 2 = some ⟨1002, 0⟩ := by
  decide

end World

end Axium.Cooldowns
