import Axium.Lib.OrdMap

/-!
# What game events do to the world

`StartEvent` and `StopEvent` spawn and unspawn creatures and gameobjects, add quests to creatures and
gameobjects and remove them, and change the models and equipments that are stored for creatures. A list for a
negative event holds what is spawned while the event is not active.

Which creatures are in the world, what the dice show, and what the pool manager makes of the pools of an event, is
given with each call. Npc flags, vendors, world states and scripts are not here.
-/

namespace Axium.GameEvents

structure ModelEquip where
  modelid : Nat
  equipmentId : Nat
  modelidPrev : Nat := 0
  equipmentIdPrev : Nat := 0
  deriving DecidableEq

/-- What `CreatureData` stores. -/
structure CreatureData where
  id : Nat
  displayid : Nat
  equipmentId : Int
  deriving DecidableEq

structure LiveCreature where
  displayId : Nat
  currentEquipmentId : Nat

/-- What `GameEventMgr` has loaded for its events, by their ids, and the data it looks up: gameobjects, the
equipment of creature templates, existing equipments, and models with the model of the other gender. -/
structure EffectTables where
  creatureGuids : Int → List Nat
  gameobjectGuids : Int → List Nat
  poolIds : Int → List Nat
  creatureQuests : Nat → List (Nat × Nat)
  gameObjectQuests : Nat → List (Nat × Nat)
  goData : Nat → Bool
  templateEquipment : Nat → Nat
  equipmentInfo : Nat → Bool
  modelInfo : Nat → Option Nat

/-- The creatures and the gameobjects in the grids. -/
abbrev Grids := OrdMap Nat Unit × OrdMap Nat Unit

/-- `spawnPool` and `despawnPool` are `SpawnPool` and `DespawnPool` of `PoolMgr` during the call: what they leave in the
grids. -/
structure Surroundings where
  live : Nat → Option LiveCreature := fun _ => none
  randomModel : Nat → Nat := fun _ => 0
  otherGender : Nat → Bool := fun _ => false
  spawnPool : Nat → Grids → Grids := fun _ grids => grids
  despawnPool : Nat → Grids → Grids := fun _ grids => grids

structure Scene where
  active : Finset Nat := ∅
  creatures : OrdMap Nat Unit := .empty
  gameobjects : OrdMap Nat Unit := .empty
  creatureQuestRelation : Multiset (Nat × Nat) := 0
  goQuestRelation : Multiset (Nat × Nat) := 0
  creatureData : OrdMap Nat CreatureData := .empty
  modelEquip : Nat → List (Nat × ModelEquip) := fun _ => []

def int16 (id : Int) : Int := Int.bmod id (2 ^ 16)

/-! ## Spawns -/

variable (t : EffectTables) (env : Surroundings)

/-- `hasCreatureActiveEventExcept` and `hasGameObjectActiveEventExcept`. -/
def hasActiveEventExcept (guids : Int → List Nat) (active : Finset Nat) (guid : Nat) (e : Int) : Bool :=
  decide (∃ e' ∈ active, (e' : Int) ≠ e ∧ guid ∈ guids e')

/-- A loop of `GameEventSpawn`: guids with data are added to the grid. -/
def spawnAll (hasData : Nat → Bool) (guids : List Nat) (grid : OrdMap Nat Unit) : OrdMap Nat Unit :=
  guids.foldl (fun grid guid => if hasData guid then grid.insert guid () else grid) grid

/-- A loop of `GameEventUnspawn`: guids that another event needs stay. -/
def unspawnAll (hasData needed : Nat → Bool) (guids : List Nat) (grid : OrdMap Nat Unit) : OrdMap Nat Unit :=
  guids.foldl (fun grid guid => if !needed guid && hasData guid then grid.erase guid else grid) grid

namespace Scene

variable (s : Scene)

def hasCreature (guid : Nat) : Bool := s.creatureData.contains guid

def setActive (active : Finset Nat) : Scene := { s with active := active }

def setGrids (grids : Grids) : Scene := { s with creatures := grids.1, gameobjects := grids.2 }

def setQuestRelations (creatureQuests goQuests : Multiset (Nat × Nat)) : Scene :=
  { s with creatureQuestRelation := creatureQuests, goQuestRelation := goQuests }

def setDressed (creatureData : OrdMap Nat CreatureData) (modelEquip : Nat → List (Nat × ModelEquip)) : Scene :=
  { s with creatureData := creatureData, modelEquip := modelEquip }

def gameEventSpawn (e : Int) : Scene :=
  s.setGrids ((t.poolIds e).foldl (fun grids pool => env.spawnPool pool grids)
    (spawnAll s.hasCreature (t.creatureGuids e) s.creatures, spawnAll t.goData (t.gameobjectGuids e) s.gameobjects))

def gameEventUnspawn (e : Int) : Scene :=
  s.setGrids ((t.poolIds e).foldl (fun grids pool => env.despawnPool pool grids)
    (unspawnAll s.hasCreature (fun guid => 0 < e && hasActiveEventExcept t.creatureGuids s.active guid e)
      (t.creatureGuids e) s.creatures,
    unspawnAll t.goData (fun guid => 0 < e && hasActiveEventExcept t.gameobjectGuids s.active guid e)
      (t.gameobjectGuids e) s.gameobjects))

end Scene

/-! ## Quests -/

/-- `hasCreatureQuestActiveEventExcept` and `hasGameObjectQuestActiveEventExcept`. -/
def hasQuestActiveEventExcept (quests : Nat → List (Nat × Nat)) (active : Finset Nat) (quest e : Nat) : Bool :=
  decide (∃ e' ∈ active, e' ≠ e ∧ ∃ pair ∈ quests e', pair.2 = quest)

def updateQuests (quests : Nat → List (Nat × Nat)) (active : Finset Nat) (e : Nat) (activate : Bool)
    (relation : Multiset (Nat × Nat)) : Multiset (Nat × Nat) :=
  (quests e).foldl (fun relation pair =>
    if activate then pair ::ₘ relation
    else if hasQuestActiveEventExcept quests active pair.2 e then relation
    else relation.erase pair) relation

def Scene.updateEventQuests (s : Scene) (e : Nat) (activate : Bool) : Scene :=
  s.setQuestRelations (updateQuests t.creatureQuests s.active e activate s.creatureQuestRelation)
    (updateQuests t.gameObjectQuests s.active e activate s.goQuestRelation)

/-! ## Models and equipment -/

def chooseDisplay (guid : Nat) (data : CreatureData) : Nat :=
  let displayID := if data.displayid = 0 then env.randomModel guid else data.displayid
  match t.modelInfo displayID with
  | none => displayID
  | some other => if other ≠ 0 && env.otherGender guid && (t.modelInfo other).isSome then other else displayID

/-- The previous model and equipment that `ChangeEquipOrModel` saves. -/
def savePrevious (live : Option LiveCreature) (guid : Nat) (data : CreatureData) (m : ModelEquip) : ModelEquip :=
  match live with
  | some c => { m with modelidPrev := c.displayId, equipmentIdPrev := c.currentEquipmentId }
  | none =>
    { m with
      modelidPrev := chooseDisplay t env guid data
      equipmentIdPrev :=
        if data.equipmentId = 0 then t.templateEquipment data.id
        else if data.equipmentId ≠ -1 then (data.equipmentId % 2 ^ 32).toNat
        else m.equipmentIdPrev }

def loadEquipment (c : LiveCreature) (equipment : Nat) : LiveCreature :=
  if equipment = 0 ∨ t.equipmentInfo equipment then { c with currentEquipmentId := equipment } else c

/-- `SetDisplayId`, if the model is another than the one that it replaces and exists. -/
def setDisplay (c : LiveCreature) (modelid replaced : Nat) : LiveCreature :=
  if 0 < modelid ∧ modelid ≠ replaced ∧ (t.modelInfo modelid).isSome then { c with displayId := modelid } else c

/-- What a creature in the world looks like after `ChangeEquipOrModel`. -/
def changeLive (activate : Bool) (c : LiveCreature) (m : ModelEquip) : LiveCreature :=
  if activate then setDisplay t (loadEquipment t c m.equipmentId) m.modelid m.modelidPrev
  else setDisplay t (loadEquipment t c m.equipmentIdPrev) m.modelidPrev m.modelid

def dress (activate : Bool) (data : CreatureData) (m : ModelEquip) : CreatureData :=
  if activate then { data with displayid := m.modelid, equipmentId := Int.bmod m.equipmentId (2 ^ 32) }
  else { data with displayid := m.modelidPrev, equipmentId := Int.bmod m.equipmentIdPrev (2 ^ 32) }

/-- The loop of `ChangeEquipOrModel`. -/
def changeList (activate : Bool) : List (Nat × ModelEquip) → (Nat → Option LiveCreature) →
    OrdMap Nat CreatureData → List (Nat × ModelEquip) × OrdMap Nat CreatureData
  | [], _, store => ([], store)
  | (guid, m) :: rest, live, store =>
    match store.find? guid with
    | none =>
      let (rest, store) := changeList activate rest live store
      ((guid, m) :: rest, store)
    | some data =>
      let m := if activate then savePrevious t env (live guid) guid data m else m
      let live := Function.update live guid ((live guid).map fun c => changeLive t activate c m)
      let (rest, store) := changeList activate rest live (store.insert guid (dress activate data m))
      ((guid, m) :: rest, store)

def Scene.changeEquipOrModel (s : Scene) (e : Nat) (activate : Bool) : Scene :=
  let (list, store) := changeList t env activate (s.modelEquip e) env.live s.creatureData
  s.setDressed store (Function.update s.modelEquip e list)

/-! ## Events -/

def Scene.startEvent (s : Scene) (e : Nat) : Scene :=
  let s := s.setActive (insert e s.active)
  let s := (s.gameEventSpawn t env (int16 e)).gameEventUnspawn t env (int16 (-e))
  (s.changeEquipOrModel t env e true).updateEventQuests t e true

def Scene.stopEvent (s : Scene) (e : Nat) : Scene :=
  let s := s.setActive (s.active.erase e)
  let s := (s.gameEventUnspawn t env (int16 e)).gameEventSpawn t env (int16 (-e))
  (s.changeEquipOrModel t env e false).updateEventQuests t e false

inductive Switch where
  | start (e : Nat)
  | stop (e : Nat)

def Scene.switch (s : Scene) (c : Surroundings × Switch) : Scene :=
  match c.2 with
  | .start e => s.startEvent t c.1 e
  | .stop e => s.stopEvent t c.1 e

end Axium.GameEvents
