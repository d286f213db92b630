import Axium.Lib.OrdMap

/-!
# The spells of a player

`addSpell`, `learnSpell` and `removeSpell` of `Player.cpp`, with the talent positions of `DBCStores.cpp`.
The three call each other along the chains of ranks, the requirements and the spells a spell teaches. Here
each takes the calls it makes as an argument, and `nestedCalls` closes the loop by fuel.
-/

namespace Axium.Talents

inductive PlayerSpellState where
  | unchanged
  | changed
  | new
  | removed
  | temporary
deriving DecidableEq, Repr

structure PlayerSpell where
  state : PlayerSpellState
  active : Bool
  dependent : Bool
  disabled : Bool
deriving DecidableEq, Repr

def PlayerSpell.touch (entry : PlayerSpell) : PlayerSpell :=
  { entry with state := if entry.state = .new then .new else .changed }

/-- What the functions read of a `SpellInfo`. -/
structure SpellInfo where
  /-- `SpellMgr::IsSpellValid` -/
  isValid : Bool := true
  isPassive : Bool := false
  /-- `HasEffect(SPELL_EFFECT_LEARN_SPELL)` -/
  hasLearnSpell : Bool := false
  /-- `HasEffect(SPELL_EFFECT_SKILL_STEP)` -/
  hasSkillStep : Bool := false
  isStackableWithRanks : Bool := false
  isRanked : Bool := false

structure SpellLearnSpellNode where
  spell : Nat
  active : Bool
  autoLearned : Bool

/-- `SpellMgr`. Spell `0` is no spell. -/
structure SpellMgr where
  getSpellInfo : Nat → Option SpellInfo
  nextSpellInChain : Nat → Nat := fun _ => 0
  prevSpellInChain : Nat → Nat := fun _ => 0
  spellsRequiringSpell : Nat → List Nat := fun _ => []
  spellLearnSpells : Nat → List SpellLearnSpellNode := fun _ => []
  isDifferentRankOf : Nat → Nat → Bool := fun _ _ => false
  isHighRankOf : Nat → Nat → Bool := fun _ _ => false

def maxTalentRank : Nat := 5

structure TalentEntry where
  talentTab : Nat
  row : Nat := 0
  rankID : Vector Nat maxTalentRank
  dependsOn : Nat := 0
  dependsOnRank : Nat := 0
deriving DecidableEq

/-- `RankID[rank]`, or no spell. -/
def TalentEntry.rank (talentInfo : TalentEntry) (rank : Nat) : Nat := talentInfo.rankID[rank]?.getD 0

/-- `sTalentStore`, and the class masks of `sTalentTabStore`. -/
structure Stores where
  talents : OrdMap Nat TalentEntry
  tabs : OrdMap Nat Nat

structure TalentSpellPos where
  talentId : Nat
  rank : Nat
deriving DecidableEq, Repr

/-- The ranks of all talents, in the order in which `LoadDBCStores` enters them. -/
def Stores.rankSpells (stores : Stores) : List (Nat × TalentSpellPos) :=
  stores.talents.entries.flatMap fun e =>
    (List.range maxTalentRank).filterMap fun j =>
      if e.2.rank j = 0 then none else some (e.2.rank j, ⟨e.1 % 65536, j⟩)

/-- A later rank replaces an earlier one of the same spell. -/
def Stores.getTalentSpellPos (stores : Stores) (spellId : Nat) : Option TalentSpellPos :=
  (stores.rankSpells.reverse.find? fun e => e.1 = spellId).map Prod.snd

def Stores.getTalentSpellCost (stores : Stores) (spellId : Nat) : Nat :=
  match stores.getTalentSpellPos spellId with
  | some pos => pos.rank + 1
  | none => 0

structure Player where
  spells : OrdMap Nat PlayerSpell
  usedTalentCount : Nat
  freeTalentPoints : Nat
  classMask : Nat := 1

def Player.hasSpell (p : Player) (spell : Nat) : Bool :=
  (p.spells.find? spell).any fun entry => entry.state ≠ .removed && !entry.disabled

/-- `itr->second->disabled` of the entry, whatever its state. -/
def Player.isDisabled (p : Player) (spell : Nat) : Bool := (p.spells.find? spell).any (·.disabled)

def Player.setSpell (p : Player) (spell : Nat) (entry : PlayerSpell) : Player :=
  { p with spells := p.spells.insert spell entry }

def Player.eraseSpell (p : Player) (spell : Nat) : Player := { p with spells := p.spells.erase spell }

/-- A spell that something else makes the player learn or unlearn. -/
inductive SpellChange where
  | learn (spell : Nat) (dependent : Bool)
  | remove (spell : Nat)

/-- What else decides on the spells of a player: where he is, and what the casts and the skills do. -/
structure Circumstances where
  inWorld : Bool := true
  /-- `IsNeedCastPassiveSpellAtLearn` -/
  needCastAtLearn : Player → Nat → Bool := fun _ _ => true
  /-- The spells that `CastSpell` teaches. -/
  castChanges : Player → Nat → List SpellChange := fun _ _ => []
  skillsLearned : Player → Nat → List SpellChange := fun _ _ => []
  skillsRemoved : Player → Nat → List SpellChange := fun _ _ => []

structure Calls where
  addSpell : Player → Nat → (active learning dependent disabled : Bool) → Player × Bool
  learnSpell : Player → Nat → (dependent : Bool) → Player
  removeSpell : Player → Nat → (disabled learnLowRank : Bool) → Player

variable (stores : Stores) (mgr : SpellMgr) (env : Circumstances) (calls : Calls)

def Calls.change (p : Player) : SpellChange → Player
  | .learn spell dependent => calls.learnSpell p spell dependent
  | .remove spell => calls.removeSpell p spell false true

def Calls.changes (p : Player) (cs : List SpellChange) : Player := cs.foldl calls.change p

def castSpell (p : Player) (spellId : Nat) : Player := calls.changes p (env.castChanges p spellId)

inductive Listed where
  /-- `addSpell` returns. -/
  | done (p : Player) (shown : Bool)
  /-- The `disabled_case`. -/
  | enabled (p : Player) (active : Bool)
  /-- The entry was a removed one. -/
  | add (p : Player) (active : Bool)

def nextActive (p : Player) (spellId : Nat) (info : SpellInfo) : Bool :=
  !info.isStackableWithRanks && info.isRanked && mgr.nextSpellInChain spellId ≠ 0 &&
    p.hasSpell (mgr.nextSpellInChain spellId)

/-- `dependent_set`: a spell known as not dependent becomes dependent. -/
def PlayerSpell.dependentSet (entry : PlayerSpell) (dependent : Bool) : Bool :=
  entry.state ≠ .removed && !entry.dependent && dependent

def PlayerSpell.saved (entry : PlayerSpell) : PlayerSpell := { entry with state := .unchanged }

def PlayerSpell.setActive (entry : PlayerSpell) (active loaded : Bool) : PlayerSpell :=
  { (if loaded then entry.saved else entry.touch) with active }

/-- `addSpell` of an entry that is not in the expected state. Where the spell is `loaded`, it is saved. -/
def updateListed (p : Player) (spellId : Nat) (info : SpellInfo) (entry : PlayerSpell)
    (active disabled loaded : Bool) : Listed :=
  if entry.active ≠ active ∧ entry.state ≠ .removed ∧ entry.disabled = false then
    let p := p.setSpell spellId (entry.setActive active loaded)
    .done (if active && info.isPassive && env.needCastAtLearn p spellId then castSpell env calls p spellId
      else p) active
  else if entry.disabled ≠ disabled ∧ entry.state ≠ .removed then
    let p := p.setSpell spellId { entry.touch with disabled }
    if disabled then .done p false else .enabled p active
  else match entry.state with
    | .unchanged => .done (p.setSpell spellId entry) false
    | .removed => .add (p.eraseSpell spellId) active
    | _ => .done (p.setSpell spellId (if loaded then entry.saved else entry)) false

/-- The part of `addSpell` about an entry that is not a temporary one. -/
def addListed (p : Player) (spellId : Nat) (info : SpellInfo) (entry : PlayerSpell)
    (wantActive learning dependent disabled : Bool) : Listed :=
  let active := wantActive && !nextActive mgr p spellId info
  let loaded := !env.inWorld && !learning
  if entry.state ≠ .removed ∧ entry.active = active ∧ entry.dependent = dependent ∧
      entry.disabled = disabled then
    .done (if loaded then p.setSpell spellId entry.saved else p) false
  else if entry.dependentSet dependent then
    updateListed env calls p spellId info { entry.touch with dependent := true } active disabled false
  else updateListed env calls p spellId info entry active disabled loaded

def unlearnOtherRanks (p : Player) (spellId : Nat) (talentInfo : TalentEntry) : Player :=
  (List.range maxTalentRank).foldl (fun p rank =>
    if talentInfo.rank rank = 0 ∨ talentInfo.rank rank = spellId then p
    else calls.removeSpell p (talentInfo.rank rank) false false) p

def settleRanks (p : Player) (spellId : Nat) (active disabled singleSpell : Bool) : Player :=
  match stores.getTalentSpellPos spellId with
  | some pos =>
    match stores.talents.find? pos.talentId with
    | some talentInfo => unlearnOtherRanks calls p spellId talentInfo
    | none => p
  | none =>
    if singleSpell = false ∧ mgr.prevSpellInChain spellId ≠ 0 then
      if !env.inWorld || disabled then
        (calls.addSpell p (mgr.prevSpellInChain spellId) active true true disabled).1
      else calls.learnSpell p (mgr.prevSpellInChain spellId) true
    else p

def activeRank (spellId other : Nat) (entry : PlayerSpell) : Bool :=
  entry.state ≠ .removed && (mgr.getSpellInfo other).isSome && mgr.isDifferentRankOf spellId other &&
    entry.active

/-- The loop over the other ranks when the new entry is active: lower ranks give way to it, and it gives way
to a higher one. -/
def supersede (spells : OrdMap Nat PlayerSpell) (spellId : Nat) : OrdMap Nat PlayerSpell :=
  spells.mapVal fun other entry =>
    if activeRank mgr spellId other entry && mgr.isHighRankOf spellId other then
      { entry.touch with active := false }
    else entry

def enterSpell (p : Player) (spellId : Nat) (info : SpellInfo) (entry : PlayerSpell) : Player × Bool :=
  if entry.active && !entry.disabled && !info.isStackableWithRanks && info.isRanked then
    let superseded := p.spells.entries.any fun e =>
      activeRank mgr spellId e.1 e.2 && mgr.isHighRankOf spellId e.1
    let outranked := p.spells.entries.any fun e =>
      activeRank mgr spellId e.1 e.2 && !mgr.isHighRankOf spellId e.1
    ({ p with
        spells := (supersede mgr p.spells spellId).insert spellId
          (if outranked then { entry.touch with active := false } else entry) }, superseded)
  else (p.setSpell spellId entry, false)

/-- What `addSpell` does once the price is counted: the skills and the spells that go with the spell. -/
def bringAlong (p : Player) (spellId : Nat) : Player :=
  let p := calls.changes p (env.skillsLearned p spellId)
  (mgr.spellLearnSpells spellId).foldl (fun p node =>
    if node.autoLearned then p
    else if !env.inWorld || !node.active then (calls.addSpell p node.spell node.active true true false).1
    else calls.learnSpell p node.spell true) p

/-- The end of `addSpell`. The cast of a skill step leaves it before the price is counted. -/
def completeSpell (p : Player) (spellId : Nat) (info : SpellInfo) (shown loading : Bool) : Player × Bool :=
  let talentCost := stores.getTalentSpellCost spellId
  let count (p : Player) : Player × Bool :=
    (bringAlong mgr env calls { p with
      usedTalentCount := (p.usedTalentCount + talentCost) % 4294967296 } spellId, shown)
  if loading = false ∧ talentCost > 0 ∧ info.hasLearnSpell then count (castSpell env calls p spellId)
  else if info.isPassive then
    count (if env.needCastAtLearn p spellId then castSpell env calls p spellId else p)
  else if info.hasSkillStep then (castSpell env calls p spellId, false)
  else count p

def addUnlisted (p : Player) (spellId : Nat) (info : SpellInfo) (state : PlayerSpellState)
    (active dependent disabled loading singleSpell : Bool) : Player × Bool :=
  let p := settleRanks stores mgr env calls p spellId active disabled singleSpell
  let (p, superseded) := enterSpell mgr p spellId info ⟨state, active, dependent, disabled⟩
  if disabled && !singleSpell then (p, false)
  else completeSpell stores mgr env calls p spellId info (active && !disabled && !superseded) loading

def addSpell (p : Player) (spellId : Nat) (active learning dependent disabled loading singleSpell : Bool) :
    Player × Bool :=
  match mgr.getSpellInfo spellId with
  | none => (p, false)
  | some info =>
    if info.isValid = false then (p, false)
    else
      let state := if learning then PlayerSpellState.new else .unchanged
      match p.spells.find? spellId with
      | none =>
        addUnlisted stores mgr env calls p spellId info state active dependent disabled loading singleSpell
      | some entry =>
        if entry.state = .temporary then
          addUnlisted stores mgr env calls (p.eraseSpell spellId) spellId info state active dependent disabled
            loading singleSpell
        else
          match addListed mgr env calls p spellId info entry active learning dependent disabled with
          | .done p shown => (p, shown)
          | .enabled p active => completeSpell stores mgr env calls p spellId info (active && !disabled) loading
          | .add p active =>
            addUnlisted stores mgr env calls p spellId info .changed active dependent disabled loading
              singleSpell

def learnSpell (p : Player) (spellId : Nat) (dependent : Bool) : Player :=
  let disabled := p.isDisabled spellId
  let active := !disabled || (p.spells.find? spellId).any (·.active)
  let p := (calls.addSpell p spellId active true dependent false).1
  -- "learn all disabled higher ranks and required spells (recursive)"
  if disabled then
    let nextSpell := mgr.nextSpellInChain spellId
    let p := if nextSpell ≠ 0 ∧ p.isDisabled nextSpell then calls.learnSpell p nextSpell false else p
    (mgr.spellsRequiringSpell spellId).foldl (fun p spell =>
      if p.isDisabled spell then calls.learnSpell p spell false else p) p
  else p

def dropSpell (p : Player) (spellId : Nat) (entry : PlayerSpell) (disabled : Bool) : Player :=
  if disabled then p.setSpell spellId { entry.touch with disabled := true }
  else if entry.state = .new then p.eraseSpell spellId
  else p.setSpell spellId { entry with state := .removed }

def activateLesserRank (p : Player) (prev : Nat) (dependent learnLowRank : Bool) : Player :=
  match p.spells.find? prev with
  | none => p
  | some entry =>
    let entry := if entry.dependent ≠ dependent then { entry.touch with dependent } else entry
    let p := p.setSpell prev entry
    if entry.active = false ∧ learnLowRank then
      (calls.addSpell p prev true false entry.dependent entry.disabled).1
    else p

/-- `removeSpell` after the spells that need the spell are gone. -/
def removeListed (p : Player) (spellId : Nat) (entry : PlayerSpell) (disabled learnLowRank : Bool) : Player :=
  let talentCosts := stores.getTalentSpellCost spellId
  let giveTalentPoints := disabled || !entry.disabled
  let p := dropSpell p spellId entry disabled
  let p := if giveTalentPoints then { p with usedTalentCount := p.usedTalentCount - talentCosts } else p
  let p := calls.changes p (env.skillsRemoved p spellId)
  let p := (mgr.spellLearnSpells spellId).foldl (fun p node => calls.removeSpell p node.spell disabled true) p
  let prev := mgr.prevSpellInChain spellId
  let ranked := (mgr.getSpellInfo spellId).any fun info => !info.isStackableWithRanks && info.isRanked
  if prev ≠ 0 ∧ talentCosts = 0 ∧ entry.active ∧ ranked then
    activateLesserRank calls p prev entry.dependent learnLowRank
  else p

def removeSpell (p : Player) (spellId : Nat) (disabled learnLowRank : Bool) : Player :=
  match p.spells.find? spellId with
  | none => p
  | some entry =>
    if entry.state = .removed ∨ (disabled ∧ entry.disabled) ∨ entry.state = .temporary then p
    else
      let nextSpell := mgr.nextSpellInChain spellId
      let p :=
        if nextSpell ≠ 0 ∧ p.hasSpell nextSpell ∧ stores.getTalentSpellPos nextSpell = none then
          calls.removeSpell p nextSpell disabled false
        else p
      let p := (mgr.spellsRequiringSpell spellId).foldl
        (fun p spell => calls.removeSpell p spell disabled true) p
      -- "re-search, it can be corrupted in prev loop"
      match p.spells.find? spellId with
      | none => p
      | some entry => removeListed stores mgr env calls p spellId entry disabled learnLowRank

/-- The functions, nested `fuel` deep. -/
def nestedCalls : Nat → Calls
  | 0 => ⟨fun p _ _ _ _ _ => (p, false), fun p _ _ => p, fun p _ _ _ => p⟩
  | fuel + 1 =>
    { addSpell := fun p spellId active learning dependent disabled =>
        addSpell stores mgr env (nestedCalls fuel) p spellId active learning dependent disabled false false
      learnSpell := learnSpell mgr (nestedCalls fuel)
      removeSpell := removeSpell stores mgr env (nestedCalls fuel) }

end Axium.Talents
