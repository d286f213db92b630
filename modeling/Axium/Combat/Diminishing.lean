import Axium.Battleground.Queue

/-!
# Diminishing returns

`m_Diminishing` of a unit: for each group of crowd control how often the unit was hit, how many auras of
the group are on it and when the last one ended. `GetDiminishing` reads the level and forgets it after a
while, `IncrDiminishing` counts a hit, and `ApplyDiminishingAura` follows the auras.

Beside it stands what the levels are meant to be (`Track`): the hits of each group since the last reset,
by the true times of the calls. The clock that the code reads is 32 bits wide.
-/

namespace Axium.CrowdControl

open Queue (getMSTimeDiff)

inductive DiminishingGroup where
  | none | banish | charge | openingStun | controlledStun | controlledRoot | cyclone | disarm
  | disorient | entrapment | fear | horror | mindControl | randomRoot | randomStun | scatter | silence
  | sleep | taunt | limitOnly
  deriving DecidableEq, Repr

/-! ## `DiminishingLevels`

The enumerators are used as numbers. -/

namespace DiminishingLevel

def level1 : Nat := 0
def level2 : Nat := 1
def immune : Nat := 3
def tauntImmune : Nat := 4

end DiminishingLevel

open DiminishingLevel

def getDiminishingReturnsMaxLevel : DiminishingGroup → Nat
  | .taunt => tauntImmune
  | _ => immune

/-- `DiminishingReturn`. The stack has 16 bits. -/
structure DiminishingReturn where
  group : DiminishingGroup
  stack : Nat := 0
  hitTime : Nat
  hitCount : Nat
  deriving DecidableEq

namespace DiminishingReturn

def resetCount (i : DiminishingReturn) : DiminishingReturn := { i with hitCount := level1 }

def addHit (i : DiminishingReturn) : DiminishingReturn := { i with hitCount := i.hitCount + 1 }

/-- What `ApplyDiminishingAura` does with the entry of the group. -/
def applyAura (i : DiminishingReturn) (apply : Bool) (msTime : Nat) : DiminishingReturn :=
  if apply then { i with stack := (i.stack + 1) % 2 ^ 16 }
  else if i.stack ≠ 0 then
    if i.stack - 1 = 0 then { i with stack := 0, hitTime := msTime } else { i with stack := i.stack - 1 }
  else i

end DiminishingReturn

abbrev Diminishing := List DiminishingReturn

namespace Diminishing

variable (d : Diminishing) (g : DiminishingGroup)

def entry : Option DiminishingReturn := d.find? fun i => i.group = g

def onEntry (f : DiminishingReturn → DiminishingReturn) : Diminishing → Diminishing
  | [] => []
  | i :: rest => if i.group = g then f i :: rest else i :: onEntry f rest

/-- `GetDiminishing` at the clock reading `msTime`. -/
def getDiminishing (msTime : Nat) : Nat × Diminishing :=
  match d.entry g with
  | none => (level1, d)
  | some i =>
    if i.hitCount = 0 then (level1, d)
    else if i.hitTime = 0 then (level1, d)
    else if i.stack = 0 && 15000 < getMSTimeDiff i.hitTime msTime then
      (level1, onEntry g .resetCount d)
    else (i.hitCount, d)

def incrDiminishing (msTime : Nat) : Diminishing :=
  match d.entry g with
  | some i => if i.hitCount < getDiminishingReturnsMaxLevel g then onEntry g .addHit d else d
  | none => d ++ [{ group := g, hitTime := msTime, hitCount := level2 }]

def applyDiminishingAura (apply : Bool) (msTime : Nat) : Diminishing :=
  onEntry g (·.applyAura apply msTime) d

end Diminishing

/-! ## The calls, and what the levels are meant to be -/

/-- An aura on the unit; `counted` if its group had an entry when it was applied. -/
structure Aura where
  id : Nat
  group : DiminishingGroup
  counted : Bool
  deriving DecidableEq

/-- When the entry of a group was created, when an aura of the group last ended since, and the hits since
the last reset. -/
structure Track where
  created : Option Nat := none
  ended : Option Nat := none
  hits : Nat := 0
  deriving DecidableEq

def Track.since (track : Track) : Option Nat := track.ended.or track.created

/-- A unit with its auras, and the true time of the last call. -/
structure Scene where
  diminishing : Diminishing := []
  clock : Nat := 0
  auras : List Aura := []
  track : DiminishingGroup → Track := fun _ => {}

inductive Call where
  | get (g : DiminishingGroup)
  | incr (g : DiminishingGroup)
  | apply (aura : Nat) (g : DiminishingGroup)
  | remove (aura : Nat) (g : DiminishingGroup)
  deriving DecidableEq

namespace Scene

variable (s : Scene)

def active (g : DiminishingGroup) : List Aura := s.auras.filter fun a => a.group = g

def Expired (g : DiminishingGroup) (time : Nat) : Prop :=
  s.active g = [] ∧ ∃ since ∈ (s.track g).since, 15000 < time - since

instance (g : DiminishingGroup) (time : Nat) : Decidable (s.Expired g time) :=
  inferInstanceAs (Decidable (_ ∧ ∃ since ∈ _, _))

/-- The level: one more for each hit since the last reset. -/
def level (g : DiminishingGroup) (time : Nat) : Nat :=
  if s.Expired g time then level1 else min (s.track g).hits (getDiminishingReturnsMaxLevel g)

def setTrack (g : DiminishingGroup) (track : Track) : Scene :=
  { s with track := Function.update s.track g track }

def setDiminishing (d : Diminishing) : Scene := { s with diminishing := d }

def setAuras (auras : List Aura) : Scene := { s with auras := auras }

def setClock (time : Nat) : Scene := { s with clock := time }

/-- The calls, at true times; the clock shows them modulo `2 ^ 32`. -/
def step (s : Scene) : Nat × Call → Scene
  | (time, .get g) =>
    let track := s.track g
    ((s.setDiminishing (s.diminishing.getDiminishing g (time % 2 ^ 32)).2).setTrack g
      { track with hits := if s.Expired g time then 0 else track.hits }).setClock time
  | (time, .incr g) =>
    let track := s.track g
    ((s.setDiminishing (s.diminishing.incrDiminishing g (time % 2 ^ 32))).setTrack g
      { track with created := track.created.or (some time), hits := track.hits + 1 }).setClock time
  | (time, .apply aura g) =>
    ((s.setDiminishing (s.diminishing.applyDiminishingAura g true (time % 2 ^ 32))).setAuras
      ({ id := aura, group := g, counted := (s.track g).created.isSome } :: s.auras)).setClock time
  | (time, .remove aura g) =>
    let track := s.track g
    (((s.setDiminishing (s.diminishing.applyDiminishingAura g false (time % 2 ^ 32))).setAuras
      (s.auras.filter fun a => a.id ≠ aura)).setTrack g
      { track with ended := track.created.bind fun _ => some time }).setClock time

def May : Nat × Call → Prop
  | (time, .apply aura _) => s.clock ≤ time ∧ ∀ a ∈ s.auras, a.id ≠ aura
  | (time, .remove aura g) => s.clock ≤ time ∧ ∃ a ∈ s.auras, a.id = aura ∧ a.group = g
  | (time, _) => s.clock ≤ time

instance (c : Nat × Call) : Decidable (s.May c) :=
  match c with
  | (time, .get _) | (time, .incr _) => inferInstanceAs (Decidable (s.clock ≤ time))
  | (time, .apply aura _) => inferInstanceAs (Decidable (s.clock ≤ time ∧ ∀ a ∈ s.auras, a.id ≠ aura))
  | (time, .remove aura g) =>
    inferInstanceAs (Decidable (s.clock ≤ time ∧ ∃ a ∈ s.auras, a.id = aura ∧ a.group = g))

end Scene

end Axium.CrowdControl
