import Axium.Lib.Multimap

/-!
# Resets of instances

`InstanceSaveManager` holds one queue, ordered by time, with the resets of single instances and, for each map
and difficulty with a reset period, the next warning or reset of all its instances. `LoadResetTimes` fills the
queue, and `Update` works off what is due.

The log says what the manager does: times are seconds, as `time_t`. What `Update` finds (the clock, and the
instanced maps when an event is processed) is given. Saves, binds and database rows that are only written are
not here.
-/

namespace Axium.Instances

def MINUTE : Int := 60
def HOUR : Int := 3600
def DAY : Int := 86400

structure MapDiff where
  mapid : Fin (2 ^ 16)
  difficulty : Fin (2 ^ 8)
  deriving DecidableEq

/-- `MapDifficulty`. What the reset time gives with the rate, `uint32(((resetTime * rate) / DAY) * DAY)`, is a
computation with floats and is given as `scaled`. -/
structure MapDifficulty where
  resetTime : Nat
  scaled : Nat
  deriving DecidableEq

def MapDifficulty.period (d : MapDifficulty) : Int := if (d.scaled : Int) < DAY then DAY else d.scaled

/-- `sMapDifficultyMap` in the order of its iteration, the maps, and `CONFIG_INSTANCE_RESET_TIME_HOUR`. -/
structure Tables where
  difficulties : List (MapDiff × MapDifficulty)
  nodup : (difficulties.map Prod.fst).Nodup
  instanceable : Fin (2 ^ 16) → Bool
  resetTimeHour : Nat

def Tables.mapDifficulty (t : Tables) (mapDiff : MapDiff) : Option MapDifficulty :=
  (t.difficulties.find? (·.1 = mapDiff)).map Prod.snd

/-- `diff`: the time of day of resets. -/
def Tables.diff (t : Tables) : Int := t.resetTimeHour * HOUR % 2 ^ 32

structure InstResetEvent where
  type : Nat
  mapDiff : MapDiff
  instanceId : Nat
  deriving DecidableEq

def resetTimeDelay : Nat → Int
  | 1 => 3600
  | 2 => 900
  | 3 => 300
  | 4 => 60
  | _ => 0

/-- What the manager does: a warning with its lead, the clock and the times that are sent to the instanced maps,
the reset of a map and difficulty with its next reset time, and the reset of one instance. -/
inductive Happening where
  | warned (mapDiff : MapDiff) (lead resetTime clock : Int) (sent : List Nat)
  | reset (mapDiff : MapDiff) (resetTime next : Int)
  | resetInstance (mapid : Fin (2 ^ 16)) (instanceId : Nat)
  deriving DecidableEq

/-- `InstanceSaveManager`. The reset time of a map and difficulty that has none is 0. -/
structure InstanceSaveManager where
  resetTime : MapDiff → Int := fun _ => 0
  queue : List (Int × InstResetEvent) := []
  log : List Happening := []

namespace InstanceSaveManager

variable (s : InstanceSaveManager)

def setResetTimeFor (mapDiff : MapDiff) (time : Int) : InstanceSaveManager :=
  { s with resetTime := Function.update s.resetTime mapDiff time }

def setQueue (queue : List (Int × InstResetEvent)) : InstanceSaveManager := { s with queue := queue }

def produce (happening : Happening) : InstanceSaveManager := { s with log := s.log ++ [happening] }

/-- `ScheduleReset`. Events are equal if their instance ids are. -/
def scheduleReset (add : Bool) (time : Int) (event : InstResetEvent) : InstanceSaveManager :=
  if add then s.setQueue (Multimap.insert time event s.queue)
  else if s.queue.any fun x => x.1 = time && x.2.instanceId = event.instanceId then
    s.setQueue (s.queue.eraseP fun x => x.1 = time && x.2.instanceId = event.instanceId)
  else s.setQueue (s.queue.eraseP fun x => x.2.instanceId = event.instanceId)

/-- `m_resetTimeQueue.erase(m_resetTimeQueue.begin())`. -/
def eraseFront : InstanceSaveManager := s.setQueue s.queue.tail

def setFront (event : InstResetEvent) : InstanceSaveManager :=
  s.setQueue (s.queue.modifyHead fun x => (x.1, event))

end InstanceSaveManager

/-! ## Update -/

/-- What is found when an event is processed: the clock, and for each instanced map of the event's map whether it
is a dungeon. -/
structure Moment where
  clock : Int
  instMaps : List Bool := []

def timeLeft (now resetTime : Int) : Nat :=
  if now ≤ resetTime then 0 else ((now - resetTime) % 2 ^ 32).toNat

section Update
variable (t : Tables) (s : InstanceSaveManager)

/-- The next reset time, as `uint32`. -/
def nextReset (d : MapDifficulty) (resetTime : Int) : Int :=
  ((resetTime + MINUTE) / DAY * DAY + d.period + t.diff) % 2 ^ 32

/-- `_ResetOrWarnAll`. The lead is for the log. -/
def InstanceSaveManager.resetOrWarnAll (m : Moment) (mapDiff : MapDiff) (lead : Int) (warn : Bool)
    (resetTime : Int) : InstanceSaveManager :=
  if !t.instanceable mapDiff.mapid then s
  else if warn then
    s.produce (.warned mapDiff lead resetTime m.clock
      ((m.instMaps.filter id).map fun _ => timeLeft m.clock resetTime))
  else
    match t.mapDifficulty mapDiff with
    | none => s
    | some d =>
      if d.resetTime = 0 then s
      else
        let next := nextReset t d resetTime
        ((s.setResetTimeFor mapDiff next).scheduleReset true ((next - 3600) % 2 ^ 32) ⟨1, mapDiff, 0⟩).produce
          (.reset mapDiff resetTime next)

/-- One turn of the loop of `Update` at a time. -/
def InstanceSaveManager.turn (c : Int × Moment) : InstanceSaveManager :=
  match s.queue with
  | [] => s
  | (time, event) :: _ =>
    if c.1 ≤ time then s
    else if event.type = 0 then
      (s.produce (.resetInstance event.mapDiff.mapid event.instanceId)).eraseFront
    else
      let resetTime := s.resetTime event.mapDiff
      let s := s.resetOrWarnAll t c.2 event.mapDiff (resetTimeDelay event.type) (event.type ≠ 4) resetTime
      if event.type ≠ 4 then
        let event := { event with type := (event.type + 1) % 2 ^ 8 }
        ((s.setFront event).scheduleReset true (resetTime - resetTimeDelay event.type) event).eraseFront
      else s.eraseFront

/-- `Update`, with what is found in each turn of the loop. A turn in which nothing is due changes nothing. -/
def InstanceSaveManager.update (now : Int) (ms : List Moment) : InstanceSaveManager :=
  (ms.map fun m => (now, m)).foldl (turn t) s

end Update

/-! ## LoadResetTimes -/

/-- A row of `instance`. -/
structure InstanceRow where
  id : Nat
  mapDiff : MapDiff
  resettime : Nat

/-- What `LoadResetTimes` reads: the rows of `instance` by id, the latest respawn time for instances, and the
rows of `instance_reset`. -/
structure Rows where
  instances : List InstanceRow := []
  respawns : List (Nat × Nat) := []
  resets : List (MapDiff × Nat) := []

def Rows.timed (rows : Rows) : List InstanceRow := rows.instances.filter (·.resettime ≠ 0)

/-- `instResetTime`: the reset times of instances, put off to two hours after the latest respawn. The loop over the
respawns advances the result of the instances, which is at its end, and so reads one row. -/
def Rows.instResetTime (rows : Rows) : List InstanceRow :=
  (rows.respawns.take 1).foldl (fun l respawn => l.map fun r =>
    if r.id = respawn.1 then { r with resettime := (respawn.2 + 2 * 3600) % 2 ^ 32 } else r) rows.timed

/-- The type of the first event: a warning whose time has not passed, or the reset. -/
def firstType (time now : Int) : Nat :=
  if now < time - resetTimeDelay 1 then 1
  else if now < time - resetTimeDelay 2 then 2
  else if now < time - resetTimeDelay 3 then 3
  else 4

section Load
variable (t : Tables) (rows : Rows) (now : Int) (s : InstanceSaveManager)

def today : Int := now / DAY * DAY

/-- A row of `instance_reset`, with the time of day that is configured now. -/
def InstanceSaveManager.loadReset (row : MapDiff × Nat) : InstanceSaveManager :=
  match t.mapDifficulty row.1 with
  | none => s
  | some _ => s.setResetTimeFor row.1 (row.2 / DAY * DAY + t.diff)

def loadedTime (d : MapDifficulty) (loaded : Int) : Int :=
  let time := if loaded = 0 then today now + d.period + t.diff else loaded
  if time < now then
    let time := time / DAY * DAY
    time + (((today now - time) / d.period + 1) * d.period + t.diff)
  else time

/-- A map and difficulty of `sMapDifficultyMap`: the next warning or reset is scheduled, also for its instances
with a reset time. -/
def InstanceSaveManager.loadGlobal (x : MapDiff × MapDifficulty) : InstanceSaveManager :=
  if x.2.resetTime = 0 then s
  else
    let time := loadedTime t now x.2 (s.resetTime x.1)
    let type := firstType time now
    let s := (s.setResetTimeFor x.1 time).scheduleReset true (time - resetTimeDelay type) ⟨type, x.1, 0⟩
    (rows.timed.filter (·.mapDiff = x.1)).foldl (fun s r =>
      s.scheduleReset true (time - resetTimeDelay type) ⟨type, x.1, r.id % 2 ^ 16⟩) s

def InstanceSaveManager.loadInstances : InstanceSaveManager :=
  rows.instResetTime.foldl (fun s r =>
    if now < r.resettime then s.scheduleReset true r.resettime ⟨0, r.mapDiff, r.id % 2 ^ 16⟩ else s) s

def loadResetTimes : InstanceSaveManager :=
  t.difficulties.foldl (InstanceSaveManager.loadGlobal t rows now)
    (rows.resets.foldl (InstanceSaveManager.loadReset t) (InstanceSaveManager.loadInstances rows now {}))

end Load

end Axium.Instances
