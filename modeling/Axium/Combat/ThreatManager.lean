import Axium.Lib.Run

/-!
# The threat lists of a creature

`ThreatManager` with its two containers of `HostileReference`s, one for the units that the creature can fight
now and one for those that it cannot, from `ThreatManager.cpp` and `HostileRefManager.cpp`. A container holds
pointers: a reference is a number here, and `refs` is the memory it points to.

Nothing depends on the values of a threat, so the `float`s and their operations are any type `T` with the
operations of `Arith`. What the code asks of the world around the creature is `Surroundings`; the owner
relation between units is acyclic there.
-/

namespace Axium.Combat

/-- The operations of `float` that the code uses, comparisons with a constant or with a multiple included. -/
structure Arith (T : Type) where
  zero : T
  add : T → T → T
  sub : T → T → T
  neg : T → T
  addPct : T → Int → T
  share : T → Nat → T
  isZero : T → Bool
  isPos : T → Bool
  isNeg : T → Bool
  isNonneg : T → Bool
  gt : T → T → Bool
  le11 : T → T → Bool
  gt11 : T → T → Bool
  gt13 : T → T → Bool

/-- The units around the creature `self`, at the moment of a call. -/
structure Surroundings (U T : Type) (A : Arith T) where
  self : U
  isGameMaster : U → Bool
  isAlive : U → Bool
  isInMap : U → Bool
  inSamePhase : U → Bool
  inFlight : U → Bool
  isInAccessiblePlace : U → Bool
  isWithinCombatRange : U → Bool
  getUnit : U → Bool
  isSecondChoice : U → Bool
  canCreatureAttack : U → Bool
  isWithinMeleeRange : U → Bool
  reducedThreatPercent : U → Nat
  misdirectionTarget : U → Option U
  glyphOfVigilance : U → Nat
  charmerOrOwner : U → Option U
  /-- The number of owners above a unit. -/
  rank : U → Nat
  acyclic : ∀ {u o}, charmerOrOwner u = some o → rank o < rank u
  /-- `ApplyTotalThreatModifier` for the normal school: a multiplication. -/
  totalThreatModifier : U → T → T
  modifier_zero : ∀ u, A.isPos (totalThreatModifier u A.zero) = false

/-- `HostileReference`; `valid` says that the link to its target is not cut. -/
structure HostileReference (U T : Type) where
  unitGuid : U
  threat : T
  tempThreatModifier : T
  online : Bool
  accessible : Bool
  valid : Bool

/-- `ThreatManager`: the memory of the references, the online and the offline container. -/
structure ThreatManager (U T : Type) where
  refs : Nat → HostileReference U T
  nextRef : Nat
  online : List Nat
  offline : List Nat
  dirty : Bool
  currentVictim : Option Nat

/-- `ThreatRefStatusChangeEvent`, as far as `processThreatEvent` has a case for it. -/
inductive ThreatEvent (T : Type) where
  | threatChange (r : Nat) (value : T)
  | onlineStatus (r : Nat)
  | removeFromList (r : Nat)

namespace ThreatManager

variable {U T : Type} [DecidableEq U] {A : Arith T} (W : Surroundings U T A)

def modifyRef (s : ThreatManager U T) (r : Nat) (f : HostileReference U T → HostileReference U T) :
    ThreatManager U T :=
  { s with refs := Function.update s.refs r (f (s.refs r)) }

def setCurrentVictim (s : ThreatManager U T) (r : Option Nat) : ThreatManager U T :=
  { s with currentVictim := r }

/-- The victim is dropped if it is `r`, and the list then has to be sorted again. -/
def dropVictim (s : ThreatManager U T) (r : Nat) : ThreatManager U T :=
  if s.currentVictim = some r then { s with currentVictim := none, dirty := true } else s

def processThreatEvent (A : Arith T) (s : ThreatManager U T) : ThreatEvent T → ThreatManager U T
  | .threatChange r value =>
    if (s.currentVictim = some r ∧ A.isNeg value = true) ∨
        (s.currentVictim ≠ some r ∧ A.isPos value = true) then { s with dirty := true }
    else s
  | .onlineStatus r =>
    if (s.refs r).online then
      let dirty := match s.currentVictim with
        | none => s.dirty
        | some v => s.dirty || A.gt11 (s.refs r).threat (s.refs v).threat
      { s with dirty := dirty, online := s.online ++ [r], offline := s.offline.filter (· ≠ r) }
    else
      let s := s.dropVictim r
      { s with online := s.online.filter (· ≠ r), offline := s.offline ++ [r] }
  | .removeFromList r =>
    let s := s.dropVictim r
    if (s.refs r).online then { s with online := s.online.filter (· ≠ r) }
    else { s with offline := s.offline.filter (· ≠ r) }

/-! ## References -/

/-- `HostileReference::setAccessibleState`; its event changes nothing. -/
def setAccessibleState (s : ThreatManager U T) (r : Nat) (isAccessible : Bool) : ThreatManager U T :=
  s.modifyRef r fun ref => { ref with accessible := isAccessible }

def setOnlineOfflineState (A : Arith T) (s : ThreatManager U T) (r : Nat) (isOnline : Bool) :
    ThreatManager U T :=
  if (s.refs r).online = isOnline then s
  else
    let s := s.modifyRef r fun ref => { ref with online := isOnline }
    let s := if isOnline then s else s.setAccessibleState r false
    s.processThreatEvent A (.onlineStatus r)

/-- The online and the accessible state that `updateOnlineStatus` computes for a valid reference. -/
def reachable (u : U) : Bool × Bool :=
  if !W.isGameMaster u && !W.inFlight u && W.isInMap u && W.inSamePhase u then
    if W.isInAccessiblePlace u then (true, true) else (W.isWithinCombatRange u, false)
  else (false, false)

def updateOnlineStatus (s : ThreatManager U T) (r : Nat) : ThreatManager U T :=
  let s := s.modifyRef r fun ref => { ref with valid := ref.valid || W.getUnit ref.unitGuid }
  let state := if (s.refs r).valid then reachable W (s.refs r).unitGuid else (false, false)
  (s.setAccessibleState r state.2).setOnlineOfflineState A r state.1

/-- `HostileReference::removeReference`, and the deletion of the reference. -/
def removeReference (A : Arith T) (s : ThreatManager U T) (r : Nat) : ThreatManager U T :=
  let s := s.setOnlineOfflineState A r false
  let s := s.modifyRef r fun ref => { ref with valid := false }
  s.processThreatEvent A (.removeFromList r)

def getReferenceByTarget (s : ThreatManager U T) (container : List Nat) (u : U) : Option Nat :=
  container.find? fun r => (s.refs r).unitGuid = u

def newReference (A : Arith T) (s : ThreatManager U T) (u : U) : ThreatManager U T :=
  { s with
    refs := Function.update s.refs s.nextRef
      { unitGuid := u
        threat := A.zero
        tempThreatModifier := A.zero
        online := true
        accessible := true
        valid := true }
    nextRef := s.nextRef + 1
    online := s.online ++ [s.nextRef] }

/-! ## Adding threat -/

/-- `ThreatCalcHelper::isValidProcess`; `noThreat` is the attribute of the spell. -/
def isValidProcess (u : U) (noThreat : Bool) : Bool :=
  u ≠ W.self && !W.isGameMaster u && W.isAlive u && W.isAlive W.self && W.isInMap u &&
    W.inSamePhase u && !noThreat

/-- `HostileReference::addThreat` up to the owner of the target. -/
def changeThreat (s : ThreatManager U T) (r : Nat) (modThreat : T) : ThreatManager U T :=
  let s := s.modifyRef r fun ref => { ref with threat := A.add ref.threat modThreat }
  let s := if (s.refs r).online then s else s.updateOnlineStatus W r
  if A.isZero modThreat then s else s.processThreatEvent A (.threatChange r modThreat)

/-- `ThreatManager::_addThreat`. The threat to the owner of a pet is `addThreat` with a threat of 0, which is
not redirected ("must check > 0.0f, otherwise dead loop"). -/
def addThreatTo (u : U) (threat : T) (s : ThreatManager U T) : ThreatManager U T :=
  let found := (s.getReferenceByTarget s.online u).or (s.getReferenceByTarget s.offline u)
  let r := found.getD s.nextRef
  let s := if found = none then s.newReference A u else s
  let s := s.changeThreat W r threat
  let s :=
    if (s.refs r).valid && A.isNonneg threat then
      match _h : W.charmerOrOwner u with
      | none => s
      | some o =>
        if W.isAlive o && isValidProcess W o false then
          addThreatTo o (W.totalThreatModifier o A.zero) s
        else s
    else s
  -- "GM is always offline"
  if found = none ∧ W.isGameMaster u = true then s.setOnlineOfflineState A r false else s
termination_by W.rank u
decreasing_by exact W.acyclic _h

def doAddThreat (s : ThreatManager U T) (u : U) (threat : T) : ThreatManager U T :=
  if A.isPos threat = true ∧ W.reducedThreatPercent u ≠ 0 then
    match W.misdirectionTarget u with
    | none => addThreatTo W u (A.sub threat (A.share threat (W.reducedThreatPercent u))) s
    | some v =>
      let reduced := A.share threat (W.reducedThreatPercent u + W.glyphOfVigilance v)
      addThreatTo W u (A.sub threat reduced) (addThreatTo W v reduced s)
  else addThreatTo W u threat s

/-- `ThreatManager::addThreat`; `calcThreat` is what `ThreatCalcHelper::calcThreat` does to the threat. -/
def addThreat (s : ThreatManager U T) (u : U) (threat : T) (calcThreat : T → T) (noThreat : Bool) :
    ThreatManager U T :=
  if isValidProcess W u noThreat then s.doAddThreat W u (calcThreat threat) else s

/-- `HostileReference::addThreat`. -/
def refAddThreat (s : ThreatManager U T) (r : Nat) (modThreat : T) : ThreatManager U T :=
  let s := s.changeThreat W r modThreat
  if (s.refs r).valid && A.isNonneg modThreat then
    match W.charmerOrOwner (s.refs r).unitGuid with
    | none => s
    | some o => if W.isAlive o then s.addThreat W o A.zero (W.totalThreatModifier o) false else s
  else s

def addThreatPercent (s : ThreatManager U T) (r : Nat) (percent : Int) : ThreatManager U T :=
  s.refAddThreat W r (A.sub (A.addPct (s.refs r).threat percent) (s.refs r).threat)

def modifyThreatPercent (s : ThreatManager U T) (u : U) (percent : Int) : ThreatManager U T :=
  match s.getReferenceByTarget s.online u with
  | none => s
  | some r => if percent < -100 then s.removeReference A r else s.addThreatPercent W r percent

/-! ## Taunts -/

def addTempThreat (s : ThreatManager U T) (r : Nat) (threat : T) : ThreatManager U T :=
  let s := s.modifyRef r fun ref => { ref with tempThreatModifier := threat }
  if A.isZero threat then s else s.refAddThreat W r threat

def resetTempThreat (s : ThreatManager U T) (r : Nat) : ThreatManager U T :=
  if A.isZero (s.refs r).tempThreatModifier then s
  else
    (s.refAddThreat W r (A.neg (s.refs r).tempThreatModifier)).modifyRef r
      fun ref => { ref with tempThreatModifier := A.zero }

def tauntApply (s : ThreatManager U T) (taunter : U) : ThreatManager U T :=
  match s.getReferenceByTarget s.online taunter, s.currentVictim with
  | some r, some v =>
    if A.gt (s.refs v).threat (s.refs r).threat = true ∧
        A.isZero (s.refs r).tempThreatModifier = true then
      s.addTempThreat W r (A.sub (s.refs v).threat (s.refs r).threat)
    else s
  | _, _ => s

def tauntFadeOut (s : ThreatManager U T) (taunter : U) : ThreatManager U T :=
  match s.getReferenceByTarget s.online taunter with
  | none => s
  | some r => s.resetTempThreat W r

/-! ## Choosing a victim -/

def update (A : Arith T) (s : ThreatManager U T) : ThreatManager U T :=
  if s.dirty = true ∧ 1 < s.online.length then
    { s with
      online := s.online.mergeSort fun a b => !A.gt (s.refs b).threat (s.refs a).threat
      dirty := false }
  else { s with dirty := false }

def prefer (s : ThreatManager U T) (r : Nat) (victim : Option Nat) : Option Nat :=
  if W.canCreatureAttack (s.refs r).unitGuid then
    match victim with
    | none => some r
    | some v =>
      if v = r ∨ A.le11 (s.refs r).threat (s.refs v).threat = true then some v
      else if A.gt13 (s.refs r).threat (s.refs v).threat = true ∨
          (A.gt11 (s.refs r).threat (s.refs v).threat = true ∧
            W.isWithinMeleeRange (s.refs r).unitGuid = true) then some r
      else none
  else none

/-- The loop of `selectNextVictim` after `noPriorityTargetFound`. -/
def selectAny (s : ThreatManager U T) (victim : Option Nat) : List Nat → Option Nat
  | [] => none
  | r :: rest => (s.prefer W r victim).or (s.selectAny victim rest)

/-- The loop of `selectNextVictim`: a unit of second choice is passed over, and when the last one of the list is
of second choice the loop starts again. -/
def selectPreferred (s : ThreatManager U T) : Option Nat → List Nat → Option Nat
  | _, [] => none
  | victim, r :: rest =>
    if W.isSecondChoice (s.refs r).unitGuid then
      if rest = [] then s.selectAny W victim s.online
      else s.selectPreferred (if victim = some r then none else victim) rest
    else (s.prefer W r victim).or (s.selectPreferred victim rest)

def getHostilTarget (s : ThreatManager U T) : ThreatManager U T :=
  let s := s.update A
  s.setCurrentVictim (s.selectPreferred W s.currentVictim s.online)

def clearReferences (s : ThreatManager U T) : ThreatManager U T :=
  { s with online := [], offline := [], currentVictim := none }

/-! ## Calls from the target -/

/-- The references to this creature's list that the `HostileRefManager` of `u` holds. -/
def linked (s : ThreatManager U T) (u : U) : List Nat :=
  (s.online ++ s.offline).filter fun r => (s.refs r).valid ∧ (s.refs r).unitGuid = u

def forLinked (s : ThreatManager U T) (u : U) (f : ThreatManager U T → Nat → ThreatManager U T) :
    ThreatManager U T :=
  (s.linked u).foldl f s

inductive Event (U T : Type) where
  | addThreat (u : U) (threat : T) (calcThreat : T → T) (noThreat : Bool)
  | doAddThreat (u : U) (threat : T)
  | modifyThreatPercent (u : U) (percent : Int)
  | setOnlineOfflineState (u : U) (isOnline : Bool)
  | updateThreatTables (u : U)
  | deleteReferences (u : U)
  | addTempThreat (u : U) (threat : T)
  | resetTempThreat (u : U)
  | addThreatPercent (u : U) (percent : Int)
  | tauntApply (u : U)
  | tauntFadeOut (u : U)
  | forceVictim (u : U)
  | getHostilTarget
  | clearReferences

def step (s : ThreatManager U T) (e : Surroundings U T A × Event U T) : ThreatManager U T :=
  match e.2 with
  | .addThreat u threat calcThreat noThreat => s.addThreat e.1 u threat calcThreat noThreat
  -- `threatAssist` checks the process itself
  | .doAddThreat u threat => s.doAddThreat e.1 u threat
  | .modifyThreatPercent u percent => s.modifyThreatPercent e.1 u percent
  | .setOnlineOfflineState u isOnline => s.forLinked u fun s r => s.setOnlineOfflineState A r isOnline
  | .updateThreatTables u => s.forLinked u fun s r => s.updateOnlineStatus e.1 r
  | .deleteReferences u => s.forLinked u fun s r => s.removeReference A r
  | .addTempThreat u threat => s.forLinked u fun s r =>
      if A.isZero (s.refs r).tempThreatModifier then s.addTempThreat e.1 r threat else s
  | .resetTempThreat u => s.forLinked u fun s r => s.resetTempThreat e.1 r
  | .addThreatPercent u percent => s.forLinked u fun s r => s.addThreatPercent e.1 r percent
  | .tauntApply u => s.tauntApply e.1 u
  | .tauntFadeOut u => s.tauntFadeOut e.1 u
  -- the taunt effect makes the caster the victim if he is in the online container
  | .forceVictim u =>
    match s.getReferenceByTarget s.online u with
    | none => s
    | some r => s.setCurrentVictim (some r)
  | .getHostilTarget => s.getHostilTarget e.1
  | .clearReferences => s.clearReferences

def start (refs : Nat → HostileReference U T) : ThreatManager U T where
  refs := refs
  nextRef := 0
  online := []
  offline := []
  dirty := false
  currentVictim := none

end ThreatManager

end Axium.Combat
