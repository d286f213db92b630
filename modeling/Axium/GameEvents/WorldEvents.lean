import Axium.Lib.OrdMap

/-!
# World events

`GameEventMgr` with the phases of its events and the conditions of world events, and the two tables in which
it saves them, whose key is the event's id as `uint8`. A restart loads the events anew from what the world
database holds, and their phases and conditions from these tables. What events do to the world is not here.
-/

namespace Axium.GameEvents

inductive GameEventState where
  | normal
  | worldInactive
  | worldConditions
  | worldNextphase
  | worldFinished
  | internal
  deriving DecidableEq

/-- `state != GAMEEVENT_NORMAL && state != GAMEEVENT_INTERNAL`. -/
def GameEventState.serverwide (s : GameEventState) : Bool := s ≠ .normal && s ≠ .internal

structure FinishCondition (R : Type) where
  reqNum : R
  done : R
  deriving DecidableEq

structure GameEventData (R : Type) where
  start : Int := 1
  endTime : Int := 0
  nextstart : Int := 0
  occurence : Nat := 0
  length : Nat := 0
  state : GameEventState := .normal
  conditions : OrdMap Nat (FinishCondition R) := .empty
  prerequisiteEvents : List Nat := []

/-- `GameEventQuestToEventConditionNum`. -/
structure QuestToEventCondition (R : Type) where
  eventId : Nat
  condition : Nat
  num : R

structure EventTables (R : Type) where
  size : Nat
  event : Nat → GameEventData R
  questToEventConditions : Nat → Option (QuestToEventCondition R)
  /-- What `GetFloat` gives for an amount in the column `done`: its text has six digits. -/
  readBack : R → R

/-- The events and the active ones, and the tables `game_event_save` and `game_event_condition_save`. -/
structure World (R : Type) where
  event : Nat → GameEventData R
  active : OrdMap Nat Unit := .empty
  eventSave : OrdMap Nat (GameEventState × Nat) := .empty
  conditionSave : Nat → OrdMap Nat R := fun _ => .empty

def key (eventId : Nat) : Nat := eventId % 2 ^ 8

/-- A number of minutes in seconds, as `uint32`. -/
def seconds (minutes : Nat) : Int := (minutes * 60 % 2 ^ 32 : Nat)

namespace GameEventData

variable {R : Type} (d : GameEventData R)

def setPhase (state : GameEventState) (nextstart : Int) : GameEventData R :=
  { d with state := state, nextstart := nextstart }

def setConditions (conditions : OrdMap Nat (FinishCondition R)) : GameEventData R :=
  { d with conditions := conditions }

def setStart (start : Int) : GameEventData R :=
  { d with start := start, endTime := if d.endTime ≤ start then start + d.length else d.endTime }

end GameEventData

namespace World

variable {R : Type} (w : World R)

def setEvent (e : Nat) (d : GameEventData R) : World R := { w with event := Function.update w.event e d }

def setActive (active : OrdMap Nat Unit) : World R := { w with active := active }

def isActiveEvent (e : Nat) : Bool := w.active.contains e

def saveWorldEventState (e : Nat) : World R :=
  let row := ((w.event e).state, ((w.event e).nextstart % 2 ^ 32).toNat)
  { w with eventSave := (w.eventSave.erase (key e)).insert (key e) row }

def saveCondition (e condition : Nat) (done : R) : World R :=
  let rows := ((w.conditionSave (key e)).erase condition).insert condition done
  { w with conditionSave := Function.update w.conditionSave (key e) rows }

def dropSaves (e : Nat) : World R :=
  { w with
    conditionSave := Function.update w.conditionSave (key e) .empty
    eventSave := w.eventSave.erase (key e) }

end World

section
variable {R : Type} [Zero R] [Add R] [LT R] [DecidableLT R] (t : EventTables R)

def checkOneGameEvent (w : World R) (now : Int) (e : Nat) : Bool :=
  let d := w.event e
  match d.state with
  | .normal => d.start < now && now < d.endTime && Int.tmod (now - d.start) (seconds d.occurence) < seconds d.length
  | .worldConditions | .worldNextphase => true
  | .worldFinished | .internal => false
  | .worldInactive =>
    d.prerequisiteEvents.all (fun p =>
      ((w.event p).state = .worldNextphase || (w.event p).state = .worldFinished) &&
        (w.event p).nextstart ≤ now) && !d.prerequisiteEvents.isEmpty

/-- `CheckOneGameEventConditions` on the data of an event: whether its conditions are met. -/
def GameEventData.conditionsMet (d : GameEventData R) : Bool :=
  d.conditions.entries.all fun c => !decide (c.2.done < c.2.reqNum)

/-- The phase after `CheckOneGameEventConditions`. -/
def GameEventData.checkConditions (d : GameEventData R) (now : Int) : GameEventData R :=
  if d.conditionsMet then
    d.setPhase .worldNextphase (if d.nextstart = 0 then now + seconds d.length else d.nextstart)
  else d

/-- `StartEvent`, and whether the event is completed. -/
def startEvent (now : Int) (overwrite : Bool) (e : Nat) (w : World R) : World R × Bool :=
  let d := w.event e
  let w := w.setActive (w.active.insert e ())
  if d.state.serverwide then
    let d := if d.state = .worldInactive then d.setPhase .worldConditions d.nextstart else d
    ((w.setEvent e (d.checkConditions now)).saveWorldEventState e, d.conditionsMet)
  else (if overwrite then w.setEvent e (d.setStart now) else w, false)

def stopEvent (now : Int) (overwrite : Bool) (e : Nat) (w : World R) : World R :=
  let d := w.event e
  let w := w.setActive (w.active.erase e)
  if overwrite && !d.state.serverwide then w.setEvent e (d.setStart (now - seconds d.length))
  else if d.state.serverwide then
    if overwrite || d.state ≠ .worldFinished then
      let d := (d.setPhase .worldInactive 0).setConditions (d.conditions.mapVal fun _ c => { c with done := 0 })
      (w.setEvent e d).dropSaves e
    else w
  else w

/-- What is done of a condition once a quest counts `num` for it. -/
def FinishCondition.count (c : FinishCondition R) (num : R) : R :=
  if c.reqNum < c.done + num then c.reqNum else c.done + num

def handleQuestComplete (now : Int) (quest : Nat) (w : World R) : World R :=
  match t.questToEventConditions quest with
  | none => w
  | some q =>
    let e := q.eventId
    let d := w.event e
    if w.isActiveEvent e = false then w
    else if d.state ≠ .worldConditions then w
    else
      match d.conditions.find? q.condition with
      | none => w
      | some c =>
        if c.done < c.reqNum then
          let d := d.setConditions (d.conditions.insert q.condition { c with done := c.count q.num })
          let w := (w.setEvent e d).saveCondition e q.condition (c.count q.num)
          if d.conditionsMet then (w.setEvent e (d.checkConditions now)).saveWorldEventState e else w
        else w

/-- The first loop of `Update` at one event: the events to activate and to deactivate are collected. -/
def checkEvent (now : Int) (s : World R × List Nat × List Nat) (e : Nat) : World R × List Nat × List Nat :=
  let (w, activate, deactivate) := s
  let d := w.event e
  if checkOneGameEvent w now e then
    if d.state = .worldNextphase && d.nextstart ≤ now then
      ((w.setEvent e (d.setPhase .worldFinished 0)).saveWorldEventState e, activate,
        if w.isActiveEvent e then deactivate ++ [e] else deactivate)
    else
      let w :=
        if d.state = .worldConditions && d.conditionsMet then
          (w.setEvent e (d.checkConditions now)).saveWorldEventState e
        else w
      (w, if w.isActiveEvent e then activate else activate ++ [e], deactivate)
  else (w, activate, if w.isActiveEvent e then deactivate ++ [e] else deactivate)

def update (now : Int) (w : World R) : World R :=
  let (w, activate, deactivate) := (List.range' 1 (t.size - 1)).foldl (checkEvent now) (w, [], [])
  let w := activate.foldl (fun w e => (startEvent now false e w).1) w
  deactivate.foldl (fun w e => stopEvent now false e w) w

/-- `LoadFromDB`: the event as loaded, with the rows saved for it. -/
def loadEvent (w : World R) (e : Nat) : GameEventData R :=
  let d := t.event e
  let d :=
    match w.eventSave.find? e with
    | some row => if d.state.serverwide then d.setPhase row.1 row.2 else d.setPhase d.state 0
    | none => d.setPhase d.state 0
  d.setConditions (d.conditions.mapVal fun condition c =>
    { c with done := (((w.conditionSave e).find? condition).map t.readBack).getD 0 })

def restart (w : World R) : World R := { w with event := loadEvent t w, active := .empty }

inductive Call where
  | update (now : Int)
  | handleQuestComplete (now : Int) (quest : Nat)
  | startEvent (now : Int) (overwrite : Bool) (e : Nat)
  | stopEvent (now : Int) (overwrite : Bool) (e : Nat)
  | restart

def step (w : World R) : Call → World R
  | .update now => update t now w
  | .handleQuestComplete now quest => handleQuestComplete t now quest w
  | .startEvent now overwrite e => (startEvent now overwrite e w).1
  | .stopEvent now overwrite e => stopEvent now overwrite e w
  | .restart => restart t w

end

end Axium.GameEvents
