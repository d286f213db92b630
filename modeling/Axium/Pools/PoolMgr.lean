import Axium.Battleground.Basic
import Axium.Lib.OrdMap

/-!
# Spawn pools

A pool holds creatures, gameobjects, other pools and quests, of which at most `MaxLimit` are to be active at
a time. `PoolMgr` spawns a pool, despawns it, and updates it when one of its objects is to respawn (the
trigger). What is active is in `ActivePoolData`: three sets, and the active pools with the number of their
active objects.

The functions that follow sub-pools take how deep the pools below are nested. Chances and rolls are of a
type with subtraction and an order; what the dice show is given.
-/

namespace Axium.Pools

inductive Kind where
  | creature
  | gameobject
  | pool
  | quest
  deriving DecidableEq

abbrev Object := Kind × Nat

structure PoolObject (R : Type*) where
  guid : Nat
  chance : R

/-- `PoolGroup`: the objects of one kind in a pool. -/
structure PoolGroup (R : Type*) where
  explicitlyChanced : List (PoolObject R) := []
  equalChanced : List (PoolObject R) := []

def PoolGroup.isEmpty {R : Type*} (g : PoolGroup R) : Bool := g.explicitlyChanced.isEmpty && g.equalChanced.isEmpty

/-- What `PoolMgr` has loaded. `nesting` is how deep its pools are nested. -/
structure PoolMgr (R : Type*) where
  maxLimit : Nat → Nat
  group : Kind → Nat → PoolGroup R
  poolSearchMap : Nat → Option Nat
  questSearchMap : OrdMap Nat Nat
  nesting : Nat

/-- What the dice show: the `n`-th roll as a chance or as an index. -/
structure Dice (R : Type*) where
  chance : Nat → R
  index : Nat → Nat

/-- `ActivePoolData`, the table `pool_quest_save`, and the number of rolls made. -/
structure State where
  spawnedCreatures : OrdMap Nat Unit := .empty
  spawnedGameobjects : OrdMap Nat Unit := .empty
  activeQuests : OrdMap Nat Unit := .empty
  spawnedPools : OrdMap Nat Nat := .empty
  questSave : Nat → List Nat := fun _ => []
  rolls : Nat := 0

namespace State

variable (s : State)

def isActive : Object → Bool
  | (.creature, g) => s.spawnedCreatures.contains g
  | (.gameobject, g) => s.spawnedGameobjects.contains g
  | (.pool, p) => s.spawnedPools.contains p
  | (.quest, q) => s.activeQuests.contains q

def count (p : Nat) : Nat := (s.spawnedPools.find? p).getD 0

def setCount (p n : Nat) : State := { s with spawnedPools := s.spawnedPools.insert p n }

def mark : Object → State
  | (.creature, g) => { s with spawnedCreatures := s.spawnedCreatures.insert g () }
  | (.gameobject, g) => { s with spawnedGameobjects := s.spawnedGameobjects.insert g () }
  | (.pool, p) => s.setCount p 0
  | (.quest, q) => { s with activeQuests := s.activeQuests.insert q () }

def unmark : Object → State
  | (.creature, g) => { s with spawnedCreatures := s.spawnedCreatures.erase g }
  | (.gameobject, g) => { s with spawnedGameobjects := s.spawnedGameobjects.erase g }
  | (.pool, p) => { s with spawnedPools := s.spawnedPools.erase p }
  | (.quest, q) => { s with activeQuests := s.activeQuests.erase q }

def activateObject (o : Object) (p : Nat) : State :=
  let s := s.mark o
  s.setCount p (s.count p + 1)

def removeObject (o : Object) (p : Nat) : State :=
  let s := s.unmark o
  s.setCount p (s.count p - 1)

def rolled : State := { s with rolls := s.rolls + 1 }

def setQuestSave (rows : Nat → List Nat) : State := { s with questSave := rows }

end State

section
variable {R : Type*} [Zero R] [Sub R] [LT R] [DecidableLT R] (m : PoolMgr R) (dice : Dice R)

/-! ## `PoolGroup` -/

def rollExplicit (s : State) (k : Kind) (triggerFrom : Nat) : R → List (PoolObject R) → Option Nat
  | _, [] => none
  | roll, o :: rest =>
    let roll := roll - o.chance
    if roll < 0 ∧ (o.guid = triggerFrom ∨ s.isActive (k, o.guid) = false) then some o.guid
    else rollExplicit s k triggerFrom roll rest

def rollEqual (s : State) (k : Kind) (triggerFrom : Nat) (objects : List (PoolObject R)) : Option Nat :=
  match objects[dice.index s.rolls % objects.length]? with
  | none => none
  | some o => if o.guid = triggerFrom ∨ s.isActive (k, o.guid) = false then some o.guid else none

def rollOne (k : Kind) (p triggerFrom : Nat) (s : State) : Option Nat × State :=
  let g := m.group k p
  let (obj, s) :=
    if g.explicitlyChanced.isEmpty then (none, s)
    else (rollExplicit s k triggerFrom (dice.chance s.rolls) g.explicitlyChanced, s.rolled)
  match obj with
  | some guid => (some guid, s)
  | none =>
    if g.equalChanced.isEmpty then (none, s)
    else (rollEqual dice s k triggerFrom g.equalChanced, s.rolled)

/-- `Despawn1Object` and `RemoveObject` for one object of a group, if it is active and asked for. -/
def despawnOne (despawn1 : Object → State → State) (k : Kind) (p guid : Nat) (s : State) (o : PoolObject R) :
    State :=
  if s.isActive (k, o.guid) && (guid = 0 || o.guid = guid) then
    (despawn1 (k, o.guid) s).removeObject (k, o.guid) p
  else s

def despawnObject (despawn1 : Object → State → State) (k : Kind) (p guid : Nat) (s : State) : State :=
  let s := (m.group k p).equalChanced.foldl (despawnOne despawn1 k p guid) s
  (m.group k p).explicitlyChanced.foldl (despawnOne despawn1 k p guid) s

/-- The loop of `PoolGroup::SpawnObject`, with the iterations that are left. -/
def spawnLoop (spawn1 despawn1 : Object → State → State) (k : Kind) (p : Nat) :
    Nat → (triggerFrom lastDespawned : Nat) → State → State
  | 0, _, _, s => s
  | i + 1, triggerFrom, lastDespawned, s =>
    match rollOne m dice k p triggerFrom s with
    | (none, s) => spawnLoop spawn1 despawn1 k p i triggerFrom lastDespawned s
    | (some guid, s) =>
      if guid = lastDespawned then spawnLoop spawn1 despawn1 k p i triggerFrom lastDespawned s
      else if guid = triggerFrom then spawnLoop spawn1 despawn1 k p i 0 lastDespawned s
      else
        let s := spawn1 (k, guid) (s.activateObject (k, guid) p)
        if triggerFrom ≠ 0 then
          spawnLoop spawn1 despawn1 k p i 0 triggerFrom (despawnObject m despawn1 k p triggerFrom s)
        else spawnLoop spawn1 despawn1 k p i triggerFrom lastDespawned s

/-- The number of iterations in `PoolGroup::SpawnObject`, which is an `int`. -/
def spawnCount (s : State) (p triggerFrom : Nat) : Nat :=
  let count := Int.bmod ((m.maxLimit p : Int) - s.count p) (2 ^ 32)
  (if triggerFrom ≠ 0 then count + 1 else count).toNat

/-! ## `PoolGroup<Quest>` -/

def activateSaved (p : Nat) : Nat → List Nat → State → State
  | _, [], s => s
  | limit, quest :: rows, s =>
    let s := s.activateObject (.quest, quest) p
    let limit := decr32 limit
    if limit = 0 then s else activateSaved p limit rows s

def select (s : State) (set : OrdMap Nat Unit) : Nat := (set.keys[dice.index s.rolls % set.size]?).getD 0

def recycle (limit : Nat) : Nat → (currentQuests newQuests : OrdMap Nat Unit) → State →
    OrdMap Nat Unit × State
  | 0, _, newQuests, s => (newQuests, s)
  | i + 1, currentQuests, newQuests, s =>
    let questId := select dice s currentQuests
    let newQuests := newQuests.insert questId ()
    let currentQuests := currentQuests.erase questId
    if newQuests.size < limit && !currentQuests.isEmpty then recycle limit i currentQuests newQuests s.rolled
    else (newQuests, s.rolled)

def activateNew (p : Nat) : Nat → (limit : Nat) → (newQuests : OrdMap Nat Unit) → State → State
  | 0, _, _, s => s
  | i + 1, limit, newQuests, s =>
    let questId := select dice s newQuests
    let s := s.rolled.activateObject (.quest, questId) p
    let newQuests := newQuests.erase questId
    let limit := decr32 limit
    if limit ≠ 0 && !newQuests.isEmpty then activateNew p i limit newQuests s else s

def newQuests (p : Nat) (s : State) : OrdMap Nat Unit :=
  (m.group .quest p).equalChanced.foldl
    (fun set o => if s.isActive (.quest, o.guid) then set else set.insert o.guid ()) .empty

def saveQuestsToDB (s : State) : State :=
  s.setQuestSave fun p =>
    (if (m.group .quest p).isEmpty then s.questSave p else []) ++
      m.questSearchMap.keys.filter fun quest =>
        m.questSearchMap.find? quest = some p && s.isActive (.quest, quest)

/-- `PoolGroup<Quest>::SpawnObject`. -/
def spawnQuests (p triggerFrom : Nat) (s : State) : State :=
  let limit := m.maxLimit p
  if triggerFrom = 0 && !(s.questSave p).isEmpty then activateSaved p limit (s.questSave p) s
  else
    let currentQuests := s.activeQuests
    let newQuests := newQuests m p s
    let s := despawnObject m (fun _ s => s) .quest p 0 s
    let (newQuests, s) :=
      if newQuests.size < limit && !currentQuests.isEmpty then
        recycle dice limit currentQuests.size currentQuests newQuests s
      else (newQuests, s)
    if newQuests.isEmpty then s
    else
      let s := activateNew dice p newQuests.size limit newQuests s
      if triggerFrom = 0 then saveQuestsToDB m s else s

/-! ## `PoolMgr` -/

/-- `Spawn1Object` and `Despawn1Object`, which only change other pools. -/
def onPool (f : Nat → State → State) : Object → State → State
  | (.pool, p), s => f p s
  | _, s => s

def despawnPool : Nat → Nat → State → State
  | 0, _, s => s
  | n + 1, p, s =>
    let despawn (k : Kind) (s : State) : State :=
      if (m.group k p).isEmpty then s else despawnObject m (onPool (despawnPool n)) k p 0 s
    despawn .quest (despawn .pool (despawn .gameobject (despawn .creature s)))

/-- `PoolMgr::SpawnPool<T>`, with what spawns and despawns its sub-pools. -/
def spawnGroup (spawn despawn : Nat → State → State) (k : Kind) (p dbGuid : Nat) (s : State) : State :=
  if (m.group k p).isEmpty then s
  else if k = .quest then spawnQuests m dice p dbGuid s
  else spawnLoop m dice (onPool spawn) (onPool despawn) k p (spawnCount m s p dbGuid) dbGuid 0 s

def spawnPool : Nat → Nat → State → State
  | 0, _, s => s
  | n + 1, p, s =>
    let spawn (k : Kind) (s : State) : State := spawnGroup m dice (spawnPool n) (despawnPool m n) k p 0 s
    spawn .quest (spawn .creature (spawn .gameobject (spawn .pool s)))

def PoolMgr.isPartOfAPool (p : Nat) : Nat := (m.poolSearchMap p).getD 0

/-- The calls to `PoolMgr`. -/
inductive Call where
  | spawnPool (p : Nat)
  | despawnPool (p : Nat)
  | updatePool (k : Kind) (p dbGuid : Nat)

/-- A call to `PoolMgr`. -/
def step (s : State) : Call → State
  | .spawnPool p => spawnPool m dice m.nesting p s
  | .despawnPool p => despawnPool m m.nesting p s
  | .updatePool k p dbGuid =>
    let spawn := spawnGroup m dice (spawnPool m dice m.nesting) (despawnPool m m.nesting)
    let mother := m.isPartOfAPool p
    if mother ≠ 0 then spawn .pool mother p s else spawn k p dbGuid s

end

end Axium.Pools
