import Axium.Lib.Run
import Mathlib.Data.List.FinRange

/-!
# Reputations

`ReputationMgr` of a player: his standing with every faction that has a place in the reputation list, the flags
of these factions and four counters, from `ReputationMgr.cpp`. `SetReputation` is a sequence of
`SetOneFactionReputation` calls, one for each spill-over and one for the faction itself; the amount of an
incremental call is the one after the multiplication with the rate and the rounding.
-/

namespace Axium.Reputation

/-! ## Ranks -/

inductive ReputationRank where
  | hated | hostile | unfriendly | neutral | friendly | honored | revered | exalted
deriving DecidableEq, Repr

namespace ReputationRank

def value : ReputationRank → Nat
  | hated => 0 | hostile => 1 | unfriendly => 2 | neutral => 3
  | friendly => 4 | honored => 5 | revered => 6 | exalted => 7

def atLeast (rank r : ReputationRank) : Bool := r.value ≤ rank.value

def isHostile (rank : ReputationRank) : Bool := rank.value ≤ hostile.value

end ReputationRank

def reputationCap : Int := 42999

def reputationBottom : Int := -42000

def pointsInRank : List (ReputationRank × Int) :=
  [(.exalted, 1000), (.revered, 21000), (.honored, 12000), (.friendly, 6000), (.neutral, 3000),
    (.unfriendly, 3000), (.hostile, 3000), (.hated, 36000)]

def rankBelow (standing : Int) : Int → List (ReputationRank × Int) → ReputationRank
  | _, [] => .hated
  | limit, (rank, points) :: rest =>
    if limit - points ≤ standing then rank else rankBelow standing (limit - points) rest

def reputationToRank (standing : Int) : ReputationRank :=
  rankBelow standing (reputationCap + 1) pointsInRank

def add32 (a b : Int) : Int := (a + b).bmod (2 ^ 32)

def sub32 (a b : Int) : Int := (a - b).bmod (2 ^ 32)

def clampReputation (standing : Int) : Int :=
  if reputationCap < standing then reputationCap
  else if standing < reputationBottom then reputationBottom
  else standing

/-! ## Flags -/

def hasFlag {w : Nat} (flags : BitVec w) (mask : Nat) : Bool := flags &&& BitVec.ofNat w mask != 0

def flagVisible : Nat := 0x01
def flagAtWar : Nat := 0x02
def flagHidden : Nat := 0x04
def flagInvisibleForced : Nat := 0x08
def flagPeaceForced : Nat := 0x10
def flagInactive : Nat := 0x20
def flagSpecial : Nat := 0x80

/-! ## Factions -/

structure BaseRep where
  raceMask : Nat
  classMask : Nat
  value : Int
  flags : BitVec 8
deriving DecidableEq, Repr

/-- `FactionEntry`, as far as it is used here. -/
structure FactionEntry where
  id : Nat
  reputationListID : Int
  base : Fin 4 → BaseRep

structure Player where
  raceMask : Nat
  classMask : Nat
deriving DecidableEq, Repr

def BaseRep.Applies (P : Player) (b : BaseRep) : Prop :=
  (b.raceMask &&& P.raceMask ≠ 0 ∨ (b.raceMask = 0 ∧ b.classMask ≠ 0)) ∧
    (b.classMask &&& P.classMask ≠ 0 ∨ b.classMask = 0)

instance (P : Player) (b : BaseRep) : Decidable (b.Applies P) :=
  inferInstanceAs (Decidable ((_ ∨ _) ∧ (_ ∨ _)))

/-- The loop of `GetBaseReputation` and `GetDefaultStateFlags`. -/
def baseRep (P : Player) (e : FactionEntry) : Option BaseRep :=
  ((List.finRange 4).map e.base).find? fun b => b.Applies P

def getBaseReputation (P : Player) (e : FactionEntry) : Int := ((baseRep P e).map (·.value)).getD 0

/-- `GetDefaultStateFlags`, as an `uint8`. -/
def getDefaultStateFlags (P : Player) (e : FactionEntry) : BitVec 8 := ((baseRep P e).map (·.flags)).getD 0

/-- `sFactionStore`. The places in the reputation list are distinct, and the base values are within the
bounds. -/
structure FactionStore where
  entries : List FactionEntry
  distinct_ids : (entries.map (·.id)).Nodup
  distinct_lists : ((entries.filter (0 ≤ ·.reputationListID)).map (·.reputationListID)).Nodup
  bounded : ∀ e ∈ entries, ∀ i, reputationBottom ≤ (e.base i).value ∧ (e.base i).value ≤ reputationCap

def FactionStore.lookupEntry (store : FactionStore) (id : Nat) : Option FactionEntry :=
  store.entries.find? (·.id = id)

def FactionStore.listed (store : FactionStore) : List FactionEntry :=
  store.entries.filter (0 ≤ ·.reputationListID)

/-- `FactionState`, less the marks for sending and saving. -/
structure FactionState where
  id : Nat
  flags : BitVec 8
  standing : Int
deriving DecidableEq, Repr

structure ReputationMgr where
  factions : Int → Option FactionState
  visibleFactionCount : UInt8
  honoredFactionCount : UInt8
  reveredFactionCount : UInt8
  exaltedFactionCount : UInt8

def ReputationMgr.new : ReputationMgr := ⟨fun _ => none, 0, 0, 0, 0⟩

/-- A row of `character_reputation`. -/
structure Row where
  faction : Nat
  standing : Int32
  flags : BitVec 16
deriving DecidableEq

namespace FactionState

/-- `SetAtWar(FactionState*, bool)`. -/
def setAtWar (f : FactionState) (atWar : Bool) : FactionState :=
  if atWar && hasFlag f.flags flagPeaceForced then f
  else if hasFlag f.flags flagAtWar = atWar then f
  else if atWar then { f with flags := f.flags ||| BitVec.ofNat 8 flagAtWar }
  else { f with flags := f.flags &&& ~~~BitVec.ofNat 8 flagAtWar }

/-- `SetInactive(FactionState*, bool)`. -/
def setInactive (f : FactionState) (inactive : Bool) : FactionState :=
  if inactive && (hasFlag f.flags (flagInvisibleForced ||| flagHidden) || !hasFlag f.flags flagVisible)
  then f
  else if hasFlag f.flags flagInactive = inactive then f
  else if inactive then { f with flags := f.flags ||| BitVec.ofNat 8 flagInactive }
  else { f with flags := f.flags &&& ~~~BitVec.ofNat 8 flagInactive }

end FactionState

namespace ReputationMgr

variable (P : Player)

/-- A write through an iterator of `m_factions`. -/
def setState (s : ReputationMgr) (list : Int) (f : FactionState) : ReputationMgr :=
  { s with factions := Function.update s.factions list (some f) }

def modifyState (s : ReputationMgr) (list : Int) (g : FactionState → FactionState) : ReputationMgr :=
  match s.factions list with
  | none => s
  | some f => s.setState list (g f)

def updateRankCounters (s : ReputationMgr) (old new : ReputationRank) : ReputationMgr :=
  let s := if old.atLeast .exalted then { s with exaltedFactionCount := s.exaltedFactionCount - 1 } else s
  let s := if old.atLeast .revered then { s with reveredFactionCount := s.reveredFactionCount - 1 } else s
  let s := if old.atLeast .honored then { s with honoredFactionCount := s.honoredFactionCount - 1 } else s
  let s := if new.atLeast .exalted then { s with exaltedFactionCount := s.exaltedFactionCount + 1 } else s
  let s := if new.atLeast .revered then { s with reveredFactionCount := s.reveredFactionCount + 1 } else s
  if new.atLeast .honored then { s with honoredFactionCount := s.honoredFactionCount + 1 } else s

def setVisible (s : ReputationMgr) (list : Int) : ReputationMgr :=
  match s.factions list with
  | none => s
  | some f =>
    if hasFlag f.flags (flagInvisibleForced ||| flagHidden) && !hasFlag f.flags flagSpecial then s
    else if hasFlag f.flags flagVisible then s
    else
      { s.setState list { f with flags := f.flags ||| BitVec.ofNat 8 flagVisible } with
        visibleFactionCount := s.visibleFactionCount + 1 }

/-- `SetAtWar(RepListID, bool)`. -/
def setAtWar (s : ReputationMgr) (list : Int) (on : Bool) : ReputationMgr :=
  match s.factions list with
  | none => s
  | some f =>
    if hasFlag f.flags (flagInvisibleForced ||| flagHidden) then s
    else s.setState list (f.setAtWar on)

/-- `SetInactive(RepListID, bool)`. -/
def setInactive (s : ReputationMgr) (list : Int) (on : Bool) : ReputationMgr :=
  s.modifyState list (·.setInactive on)

def getReputation (s : ReputationMgr) (e : FactionEntry) : Int :=
  match s.factions e.reputationListID with
  | none => 0
  | some f => add32 (getBaseReputation P e) f.standing

def setOneFactionReputation (s : ReputationMgr) (e : FactionEntry) (standing : Int32)
    (incremental : Bool) : ReputationMgr :=
  match s.factions e.reputationListID with
  | none => s
  | some f =>
    let base := getBaseReputation P e
    let sum := if incremental then add32 standing.toInt (add32 f.standing base) else standing.toInt
    let new := clampReputation sum
    let oldRank := reputationToRank (add32 f.standing base)
    let newRank := reputationToRank new
    let s := s.setState e.reputationListID { f with standing := sub32 new base }
    let s := s.setVisible e.reputationListID
    let s := if newRank.isHostile then s.modifyState e.reputationListID (·.setAtWar true) else s
    s.updateRankCounters oldRank newRank

def initFaction (s : ReputationMgr) (e : FactionEntry) : ReputationMgr :=
  let flags := getDefaultStateFlags P e
  let s := if hasFlag flags flagVisible then { s with visibleFactionCount := s.visibleFactionCount + 1 } else s
  let s := s.updateRankCounters .hostile (reputationToRank (getBaseReputation P e))
  s.setState e.reputationListID ⟨e.id, flags, 0⟩

/-- `Initialize`. -/
def initializeFactions (store : FactionStore) : ReputationMgr := store.listed.foldl (initFaction P) new

/-- What `LoadFromDB` does with the flags of a row, after its standing was read. -/
def loadFlags (s : ReputationMgr) (e : FactionEntry) (row : Row) : ReputationMgr :=
  let list := e.reputationListID
  let s := if hasFlag row.flags flagVisible then s.setVisible list else s
  let s := if hasFlag row.flags flagInactive then s.modifyState list (·.setInactive true) else s
  let s := s.modifyState list fun f =>
    if hasFlag row.flags flagAtWar then f.setAtWar true
    else if hasFlag f.flags flagVisible then f.setAtWar false
    else f
  if (reputationToRank (s.getReputation P e)).isHostile then s.modifyState list (·.setAtWar true) else s

def loadRow (store : FactionStore) (s : ReputationMgr) (row : Row) : ReputationMgr :=
  match store.lookupEntry row.faction with
  | none => s
  | some e =>
    if 0 ≤ e.reputationListID then
      let base := getBaseReputation P e
      let s := s.modifyState e.reputationListID fun f => { f with standing := row.standing.toInt }
      let s := s.updateRankCounters (reputationToRank base)
        (reputationToRank (add32 base row.standing.toInt))
      s.loadFlags P e row
    else s

def loadFromDB (store : FactionStore) (rows : List Row) : ReputationMgr :=
  rows.foldl (loadRow P store) (initializeFactions P store)

inductive Event where
  | loadFromDB (rows : List Row)
  | setOneFactionReputation (faction : Nat) (standing : Int32) (incremental : Bool)
  | setVisible (faction : Nat)
  | setAtWar (list : Int) (on : Bool)
  | setInactive (list : Int) (on : Bool)

def step (store : FactionStore) (s : ReputationMgr) : Event → ReputationMgr
  | .loadFromDB rows => loadFromDB P store rows
  | .setOneFactionReputation faction standing incremental =>
    match store.lookupEntry faction with
    | none => s
    | some e => s.setOneFactionReputation P e standing incremental
  | .setVisible faction =>
    match store.lookupEntry faction with
    | none => s
    | some e => if e.reputationListID < 0 then s else s.setVisible e.reputationListID
  | .setAtWar list on => s.setAtWar list on
  | .setInactive list on => s.setInactive list on

end ReputationMgr

end Axium.Reputation
