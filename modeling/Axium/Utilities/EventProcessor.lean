import Axium.Lib.Timeline
import Axium.Lib.Run

/-!
# The event processor

An `EventProcessor` with the events it holds. Its queue is a multimap from execution times to events;
the loop of `Update` runs whatever is due and deletes it, and `KillAllEvents` aborts what is queued.
What an event does when it is executed is not the processor's: `Execute` may add events and kill all,
and answers whether the event may be deleted.

`Update` is modelled by its parts, the call (`update`), a turn of the loop (`turn`) and the end of the
loop, so that a run may be observed in the middle of it. A log of what happens is kept beside the
state; the code has none.
-/

namespace Axium.Events

open Timeline Run

abbrev Ptr := Nat

structure BasicEvent where
  toAbort : Bool := false
  addTime : Nat := 0
  execTime : Nat := 0
  deriving DecidableEq

def BasicEvent.setToAbort (event : BasicEvent) : BasicEvent := { event with toAbort := true }

structure EventProcessor where
  time : Nat := 0
  events : List (Nat × Ptr) := []
  aborting : Bool := false

/-- The processor and its events, deleted ones excepted. `updating` says that `Update` is running. -/
structure World where
  proc : EventProcessor := {}
  object : Ptr → Option BasicEvent := fun _ => none
  updating : Bool := false
  log : History Ptr := []

namespace World

variable (w : World)

def note (x : Happening Ptr) : World := { w with log := w.log ++ [x] }

def setTime (time : Nat) : World := { w with proc := { w.proc with time := time } }

def setEvents (events : List (Nat × Ptr)) : World := { w with proc := { w.proc with events := events } }

def setAborting : World := { w with proc := { w.proc with aborting := true } }

def setUpdating (updating : Bool) : World := { w with updating := updating }

def setObject (e : Ptr) (o : Option BasicEvent) : World := { w with object := Function.update w.object e o }

def event (e : Ptr) : BasicEvent := (w.object e).getD {}

def delete (e : Ptr) : World := (w.setObject e none).note (.deleted e)

def addEvent (e : Ptr) (eTime : Nat) (setAddtime : Bool) : World :=
  let event := w.event e
  let event := if setAddtime then { event with addTime := w.proc.time } else event
  let w := w.setObject e (some { event with execTime := eTime })
  (w.setEvents (Multimap.insert eTime e w.proc.events)).note (.added e eTime)

/-- One turn of the loop of `KillAllEvents(false)`. Whether an event is deletable is its own answer. -/
def killOne (deletable : Ptr → Bool) (w : World) (entry : Nat × Ptr) : World :=
  let e := entry.2
  let w := (w.setObject e (some (w.event e).setToAbort)).note (.aborted e)
  if deletable e then (w.delete e).setEvents (w.proc.events.erase entry) else w

def killAllEvents (deletable : Ptr → Bool) : World := w.proc.events.foldl (killOne deletable) w.setAborting

/-- What code may ask of the processor, also from inside `Execute`. -/
inductive Action where
  | addEvent (e : Ptr) (eTime : Nat) (setAddtime : Bool)
  | killAllEvents (deletable : Ptr → Bool)

def act : Action → World
  | .addEvent e eTime setAddtime => w.addEvent e eTime setAddtime
  | .killAllEvents deletable => w.killAllEvents deletable

/-- A call of `Execute`: what it asks of the processor and what it answers. -/
structure Execution where
  actions : List Action := []
  answer : Bool := true

/-- `i != m_events.end() && i->first <= m_time`. -/
def Due : Prop := ∃ x ∈ w.proc.events.head?, x.1 ≤ w.proc.time

instance : Decidable w.Due := inferInstanceAs (Decidable (∃ x ∈ _, _))

/-- The beginning of `Update`. -/
def update (pTime : Nat) : World :=
  let time := (w.proc.time + pTime) % 2 ^ 64
  ((w.setTime time).setUpdating true).note (.began time)

/-- The body of the loop of `Update`, with the call of `Execute` that it makes. -/
def turn (execution : Execution) : World :=
  match w.proc.events with
  | [] => w
  | (time, e) :: rest =>
    let w := w.setEvents rest
    if !(w.event e).toAbort then
      let w := run act (w.note (.executed e time)) execution.actions
      if execution.answer then w.delete e else w
    else (w.note (.aborted e)).delete e

/-- The end of `Update`. -/
def leave : World := (w.setUpdating false).note (.ended w.proc.time)

inductive Step where
  | act (action : Action)
  | update (pTime : Nat)
  | turn (execution : Execution)
  | leave

def step : World → Step → World
  | w, .act action => w.act action
  | w, .update pTime => w.update pTime
  | w, .turn execution => w.turn execution
  | w, .leave => w.leave

/-! ## What the caller owes -/

def Queued (e : Ptr) : Prop := e ∈ w.proc.events.map Prod.snd

instance (e : Ptr) : Decidable (w.Queued e) := inferInstanceAs (Decidable (_ ∈ _))

/-- An event is not added while it is queued or after it was deleted; from inside `Execute` it is added
for a time after the current one. -/
def MayAct : Action → Prop
  | .addEvent e eTime _ => ¬ w.Queued e ∧ .deleted e ∉ w.log ∧ (w.updating = true → w.proc.time < eTime)
  | .killAllEvents _ => True

instance (a : Action) : Decidable (w.MayAct a) := by
  unfold MayAct
  cases a <;> infer_instance

/-- `Execute` keeps to `MayAct`, and answers that the event may be deleted only if it has not added it
again. -/
def MayExecute (e : Ptr) (execution : Execution) : Prop :=
  AllSteps act MayAct w execution.actions ∧
    (execution.answer = true → ¬ (run act w execution.actions).Queued e ∧
      .deleted e ∉ (run act w execution.actions).log)

instance (e : Ptr) (execution : Execution) : Decidable (w.MayExecute e execution) :=
  inferInstanceAs (Decidable (_ ∧ _))

def May : Step → Prop
  | .act action => w.updating = false ∧ w.MayAct action
  | .update _ => w.updating = false
  | .turn execution => w.updating = true ∧ w.Due ∧
      ∀ x ∈ w.proc.events.head?, (w.event x.2).toAbort = false →
        ((w.setEvents w.proc.events.tail).note (.executed x.2 x.1)).MayExecute x.2 execution
  | .leave => w.updating = true ∧ ¬ w.Due

instance (s : Step) : Decidable (w.May s) := by
  unfold May
  cases s <;> infer_instance

end World

end Axium.Events
