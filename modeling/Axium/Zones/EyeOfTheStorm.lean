import Axium.Zones.Zone
import Mathlib.Data.List.FinRange

/-!
# Eye of the Storm

`BattlegroundEY`: four points that the teams own by standing near them, and a flag that is carried to
an owned point. Translated from `BattlegroundEY.cpp`, with the lists of the players near each point as
the class keeps them.

Objects, spirit guides, auras, messages and honor are left out. The index of the loops over
`m_PlayersNearPoint` is a `uint8`; the lists hold participants, of whom there are far fewer than 256.
-/

namespace Axium.Zones.EY

open Bg Run Function

def maxTeamScore : Nat := 1600

def fpointsTickTime : Int := 2000

def flagRespawnTime : Int := 8000

def tickPoints : List Nat := [1, 2, 5, 10]

def flagPoints : List Nat := [75, 85, 100, 500]

inductive FlagState where
  | onBase | waitRespawn | onPlayer | onGround
  deriving DecidableEq, Repr

/-- `EYBattlegroundPointState`. `EY_POINT_NO_OWNER`, which `EventTeamLostPoint` writes, has the value
of `EY_POINT_STATE_UNCONTROLLED`. -/
inductive PointState where
  | uncontrolled | underControl
  deriving DecidableEq, Repr

abbrev Point := Fin 4

def felReaver : Point := 0

/-- `EY_POINTS_MAX`, as the index of the list of the players out of points. -/
def outOfPoints : Fin 5 := Fin.last 4

/-- The data of the class. The scores are `int32`s that start at zero and only grow. -/
structure EyeOfTheStorm where
  teamScores : PerTeam Nat := ⟨0, 0⟩
  teamPointsCount : PerTeam Nat := ⟨0, 0⟩
  honorScoreTics : PerTeam Nat := ⟨0, 0⟩
  honorTics : Nat := 260
  flagKeeper : Guid := 0
  flagState : FlagState := .onBase
  flagsTimer : Int := 0
  pointAddingTimer : Int := 0
  towerCapCheckTimer : Int := 0
  pointOwnedByTeam : Point → Option Team := fun _ => none
  pointState : Point → PointState := fun _ => .uncontrolled
  pointBarStatus : Point → Int := fun _ => 50
  playersNearPoint : Fin 5 → List Guid := fun _ => []
  currentPointPlayersCount : Point → PerTeam Nat := fun _ => ⟨0, 0⟩

/-- What `PostUpdateImpl` asks of the map: which tower caps exist, who stands near them and may capture
them, and who stands on the spot of the flag at the Fel Reaver ruins. -/
structure Scene where
  towerCap : Point → Bool := fun _ => true
  nearPoint : Point → Guid → Bool
  atFelReaverFlag : Guid → Bool := fun _ => false

/-! ## The flag -/

def eventPlayerDroppedFlag (status : Status) (guid : Guid) (z : EyeOfTheStorm) : EyeOfTheStorm :=
  if z.flagKeeper ≠ 0 ∧ z.flagKeeper = guid then
    if status = .inProgress then
      { z with flagKeeper := 0, flagState := .onGround, flagsTimer := flagRespawnTime }
    else { z with flagKeeper := 0 }
  else z

def eventPlayerClickedOnFlag (status : Status) (guid : Guid) (within : Bool) (z : EyeOfTheStorm) :
    EyeOfTheStorm :=
  if status = .inProgress ∧ z.flagKeeper = 0 ∧ within then
    { z with flagState := .onPlayer, flagKeeper := guid }
  else z

/-- The flag's part of `PostUpdateImpl`, with `RespawnFlag` and `RespawnFlagAfterDrop`. -/
def tickFlag (diff : Nat) (z : EyeOfTheStorm) : EyeOfTheStorm :=
  if z.flagState = .waitRespawn ∨ z.flagState = .onGround then
    let flagsTimer := sub32 z.flagsTimer diff
    if flagsTimer < 0 then { z with flagsTimer := 0, flagState := .onBase }
    else { z with flagsTimer := flagsTimer }
  else z

/-! ## Scores -/

/-- The score and the honor counter after `points` more. -/
def addScore (t : Team) (points : Nat) (z : EyeOfTheStorm) : EyeOfTheStorm :=
  let honor := z.honorScoreTics.get t + points
  { z with
    teamScores := z.teamScores.set t (z.teamScores.get t + points)
    honorScoreTics := z.honorScoreTics.set t
      (if z.honorTics ≤ honor then honor - z.honorTics else honor) }

def updateTeamScore (t : Team) (s : Zone EyeOfTheStorm) : Zone EyeOfTheStorm :=
  if maxTeamScore ≤ s.own.teamScores.get t then s.endBattleground t.id else s

def addPoints (t : Team) (points : Nat) (s : Zone EyeOfTheStorm) : Zone EyeOfTheStorm :=
  updateTeamScore t { s with own := addScore t points s.own }

def addPointsFor (table : List Nat) (t : Team) (s : Zone EyeOfTheStorm) : Zone EyeOfTheStorm :=
  if 0 < s.own.teamPointsCount.get t then
    addPoints t (table.getD (s.own.teamPointsCount.get t - 1) 0) s
  else s

/-- `EventPlayerCapturedFlag`, by a player of the team. -/
def eventPlayerCapturedFlag (guid : Guid) (t : Team) (s : Zone EyeOfTheStorm) : Zone EyeOfTheStorm :=
  if s.bg.status = .inProgress ∧ s.own.flagKeeper = guid then
    addPointsFor flagPoints t { s with own := { s.own with
      flagKeeper := 0, flagState := .waitRespawn, flagsTimer := flagRespawnTime } }
  else s

def tickScores (diff : Nat) (s : Zone EyeOfTheStorm) : Zone EyeOfTheStorm :=
  let timer := sub32 s.own.pointAddingTimer diff
  if timer ≤ 0 then
    addPointsFor tickPoints .horde (addPointsFor tickPoints .alliance
      { s with own := { s.own with pointAddingTimer := fpointsTickTime } })
  else { s with own := { s.own with pointAddingTimer := timer } }

/-! ## The players near the points -/

/-- The loops that scan a list, and take out and append to another list whoever satisfies `moves`: the
rest of the first list, and the second. -/
def moveOut (moves : Guid → Bool) : List Guid → List Guid → List Guid × List Guid
  | [], dst => ([], dst)
  | guid :: src, dst =>
    if moves guid then moveOut moves src (dst ++ [guid])
    else
      let r := moveOut moves src dst
      (guid :: r.1, r.2)

/-- Move whoever satisfies `moves` from one list to another. -/
def movePlayers (moves : Guid → Bool) (src dst : Fin 5) (near : Fin 5 → List Guid) : Fin 5 → List Guid :=
  let r := moveOut moves (near src) (near dst)
  update (update near src r.1) dst r.2

variable (scene : Scene)

def someoneJoined (bg : Battleground) (z : EyeOfTheStorm) (i : Point) : EyeOfTheStorm :=
  if scene.towerCap i then
    let joins (guid : Guid) := (findPlayer bg guid).isSome && scene.nearPoint i guid
    { z with playersNearPoint := movePlayers joins outOfPoints i.castSucc z.playersNearPoint }
  else z

/-- The turn of a point in `CheckSomeoneLeftPoint`: a player who is not found or not near goes to the
list of those out of points, the others are counted. -/
def someoneLeft (bg : Battleground) (z : EyeOfTheStorm) (i : Point) : EyeOfTheStorm :=
  if scene.towerCap i then
    let leaves (guid : Guid) := !((findPlayer bg guid).isSome && scene.nearPoint i guid)
    let near := movePlayers leaves i.castSucc outOfPoints z.playersNearPoint
    let count (t : Team) := (near i.castSucc).countP (fun guid => findPlayer bg guid = some t) % 256
    { z with
      playersNearPoint := near
      currentPointPlayersCount := update z.currentPointPlayersCount i
        ⟨count .alliance, count .horde⟩ }
  else z

def checkSomeoneJoinedPoint (s : Zone EyeOfTheStorm) : Zone EyeOfTheStorm :=
  { s with own := (List.finRange 4).foldl (someoneJoined scene s.bg) s.own }

def checkSomeoneLeftPoint (s : Zone EyeOfTheStorm) : Zone EyeOfTheStorm :=
  let z := { s.own with currentPointPlayersCount := fun _ => ⟨0, 0⟩ }
  { s with own := (List.finRange 4).foldl (someoneLeft scene s.bg) z }

def eventTeamCapturedPoint (status : Status) (i : Point) (t : Team) (z : EyeOfTheStorm) : EyeOfTheStorm :=
  if status = .inProgress then
    { z with
      teamPointsCount := z.teamPointsCount.set t (incr32 (z.teamPointsCount.get t))
      pointOwnedByTeam := update z.pointOwnedByTeam i (some t)
      pointState := update z.pointState i .underControl }
  else z

def eventTeamLostPoint (status : Status) (i : Point) (z : EyeOfTheStorm) : EyeOfTheStorm :=
  match z.pointOwnedByTeam i with
  | some t =>
    if status = .inProgress then
      { z with
        teamPointsCount := z.teamPointsCount.set t (decr32 (z.teamPointsCount.get t))
        pointOwnedByTeam := update z.pointOwnedByTeam i none
        pointState := update z.pointState i .uncontrolled }
    else z
  | none => z

/-- The change of the owner that a player of team `t` near the point brings about. -/
def changeOwner (status : Status) (i : Point) (owner : Option Team) (t : Team) (z : EyeOfTheStorm) :
    EyeOfTheStorm :=
  if owner ≠ z.pointOwnedByTeam i then
    let z :=
      if z.pointState i = .uncontrolled ∧ some t = owner then eventTeamCapturedPoint status i t z
      else z
    if z.pointState i = .underControl ∧ some t ≠ z.pointOwnedByTeam i then
      eventTeamLostPoint status i z
    else z
  else z

/-- The turn of a player near the point in `UpdatePointStatuses`. -/
def visitPlayer (i : Point) (owner : Option Team) (s : Zone EyeOfTheStorm) (guid : Guid) : Zone EyeOfTheStorm :=
  match findPlayer s.bg guid with
  | some t =>
    let s := { s with own := changeOwner s.bg.status i owner t s.own }
    -- the flag of the Fel Reaver ruins is captured without an area trigger
    if i = felReaver ∧ s.own.pointOwnedByTeam i = some t ∧ s.own.flagState ≠ .onBase ∧
        s.own.flagKeeper = guid ∧ scene.atFelReaverFlag guid then
      eventPlayerCapturedFlag guid t s
    else s
  | none => s

/-- The new bar of a point: at most five towards the alliance in one update, within its bounds. -/
def barStatus (bar : Int) (count : PerTeam Nat) : Int :=
  let change : Int := count.alliance - count.horde
  let bar := bar + if change < 5 then change else 5
  let bar := if 100 < bar then 100 else bar
  if bar < 0 then 0 else bar

def pointOwner (bar : Int) : Option Team :=
  if bar ≤ 30 then some .horde else if 70 ≤ bar then some .alliance else none

def updatePointStatus (s : Zone EyeOfTheStorm) (i : Point) : Zone EyeOfTheStorm :=
  if s.own.playersNearPoint i.castSucc = [] then s
  else
    let bar := barStatus (s.own.pointBarStatus i) (s.own.currentPointPlayersCount i)
    (s.own.playersNearPoint i.castSucc).foldl (visitPlayer scene i (pointOwner bar))
      { s with own := { s.own with
        pointBarStatus := update s.own.pointBarStatus i bar } }

def updatePointStatuses (s : Zone EyeOfTheStorm) : Zone EyeOfTheStorm :=
  (List.finRange 4).foldl (updatePointStatus scene) s

/-- The last part of `PostUpdateImpl`. -/
def tickPointsCheck (diff : Nat) (s : Zone EyeOfTheStorm) : Zone EyeOfTheStorm :=
  let timer := sub32 s.own.towerCapCheckTimer diff
  if timer ≤ 0 then
    let s := updatePointStatuses scene (checkSomeoneLeftPoint scene (checkSomeoneJoinedPoint scene s))
    { s with own := { s.own with towerCapCheckTimer := fpointsTickTime } }
  else { s with own := { s.own with towerCapCheckTimer := timer } }

/-- `PostUpdateImpl`. The status is read once, at the start. -/
def postUpdateImpl (diff : Nat) (s : Zone EyeOfTheStorm) : Zone EyeOfTheStorm :=
  if s.bg.status = .inProgress then
    let s := tickScores diff s
    tickPointsCheck scene diff { s with own := tickFlag diff s.own }
  else s

/-! ## The other handlers -/

/-- The loop of `RemovePlayer` over a list. After an erasure the index moves on, past the entry that
has taken the place of the erased one. -/
def eraseScan (guid : Guid) : List Guid → List Guid
  | [] => []
  | [g] => if g = guid then [] else [g]
  | g :: h :: rest => if g = guid then h :: eraseScan guid rest else g :: eraseScan guid (h :: rest)

def removePlayer (status : Status) (player : Option Team) (guid : Guid) (z : EyeOfTheStorm) : EyeOfTheStorm :=
  let z := { z with playersNearPoint := fun j => eraseScan guid (z.playersNearPoint j) }
  if z.flagKeeper ≠ 0 ∧ z.flagKeeper = guid then
    if player.isSome then eventPlayerDroppedFlag status guid z
    else { z with flagKeeper := 0, flagState := .onBase }
  else z

def addPlayer (guid : Guid) (z : EyeOfTheStorm) : EyeOfTheStorm :=
  let free := z.playersNearPoint outOfPoints ++ [guid]
  { z with playersNearPoint := update z.playersNearPoint outOfPoints free }

def handleAreaTrigger (guid : Guid) (i : Point) (s : Zone EyeOfTheStorm) : Zone EyeOfTheStorm :=
  let p := s.bg.world.player guid
  if s.bg.status = .inProgress ∧ p.alive ∧ s.own.pointState i = .underControl ∧
      s.own.pointOwnedByTeam i = some p.team ∧ s.own.flagState ≠ .onBase ∧
      s.own.flagKeeper = guid then
    eventPlayerCapturedFlag guid p.team s
  else s

/-- The handlers of the class. A killed player drops the flag (`HandleKillPlayer`) only while the match
is on; other code calls `EventPlayerDroppedFlag` at any time. -/
inductive Handler where
  | eventPlayerClickedOnFlag (guid : Guid) (within : Bool)
  | eventPlayerDroppedFlag (guid : Guid)
  | handleKillPlayer (guid : Guid)
  | handleAreaTrigger (guid : Guid) (i : Point)
  deriving DecidableEq, Repr

def handle (s : Zone EyeOfTheStorm) : Handler → Zone EyeOfTheStorm
  | .eventPlayerClickedOnFlag guid within =>
    { s with own := eventPlayerClickedOnFlag s.bg.status guid within s.own }
  | .eventPlayerDroppedFlag guid => { s with own := eventPlayerDroppedFlag s.bg.status guid s.own }
  | .handleKillPlayer guid =>
    if s.bg.status = .inProgress then
      { s with own := eventPlayerDroppedFlag s.bg.status guid s.own }
    else s
  | .handleAreaTrigger guid i => handleAreaTrigger guid i s

def overrides : Overrides EyeOfTheStorm Scene Handler where
  addPlayer := addPlayer
  removePlayer := removePlayer
  postUpdateImpl := postUpdateImpl
  handle e s := handle s e

def step (s : Zone EyeOfTheStorm) (we : World × Event Scene Handler) : Zone EyeOfTheStorm :=
  s.step overrides we

def create (config : Config) (world : World) (isBGWeekend : Bool) : Zone EyeOfTheStorm where
  bg := Bg.create config world
  own := { honorTics := if isBGWeekend then 160 else 260 }

/-! ## The base object -/

-- What the capture of a flag does to the base object, its callers do as well.
section Base

variable {R : Battleground → Battleground → Prop} (hrefl : ∀ bg, R bg bg)
  (hcapture : ∀ {s : Zone EyeOfTheStorm} {bg} guid t, s.bg = bg → R bg (eventPlayerCapturedFlag guid t s).bg)
include hrefl hcapture

theorem handle_bg (s : Zone EyeOfTheStorm) (e : Handler) : R s.bg (handle s e).bg := by
  cases e with
  | eventPlayerClickedOnFlag guid within => exact hrefl _
  | eventPlayerDroppedFlag guid => exact hrefl _
  | handleKillPlayer guid =>
    change R s.bg (if s.bg.status = .inProgress then _ else s).bg
    split
    · exact hrefl _
    · exact hrefl _
  | handleAreaTrigger guid i =>
    change R s.bg (handleAreaTrigger guid i s).bg
    unfold handleAreaTrigger
    simp only
    split
    · exact hcapture guid _ rfl
    · exact hrefl _

theorem visitPlayer_bg (scene : Scene) (i : Point) (owner : Option Team) (s : Zone EyeOfTheStorm)
    (guid : Guid) : R s.bg (visitPlayer scene i owner s guid).bg := by
  unfold visitPlayer
  split
  · simp only
    split
    · exact hcapture guid _ rfl
    · exact hrefl _
  · exact hrefl _

variable (htrans : ∀ {bg bg' bg''}, R bg bg' → R bg' bg'' → R bg bg'')
include htrans

omit hcapture in
theorem foldl_bg {β : Type} {f : Zone EyeOfTheStorm → β → Zone EyeOfTheStorm} (h : ∀ s b, R s.bg (f s b).bg)
    (bs : List β) {s : Zone EyeOfTheStorm} {bg : Battleground} (hs : s.bg = bg) : R bg (bs.foldl f s).bg := by
  induction bs generalizing s bg with
  | nil => exact hs ▸ hrefl _
  | cons b bs ih => exact htrans (hs ▸ h s b) (ih rfl)

theorem updatePointStatus_bg (scene : Scene) (s : Zone EyeOfTheStorm) (i : Point) :
    R s.bg (updatePointStatus scene s i).bg := by
  unfold updatePointStatus
  split
  · exact hrefl _
  · exact foldl_bg hrefl htrans (visitPlayer_bg hrefl hcapture scene i _) _ rfl

theorem tickPointsCheck_bg (scene : Scene) (diff : Nat) (s : Zone EyeOfTheStorm) :
    R s.bg (tickPointsCheck scene diff s).bg := by
  unfold tickPointsCheck
  simp only
  split
  · exact foldl_bg hrefl htrans (updatePointStatus_bg hrefl hcapture htrans scene) _ rfl
  · exact hrefl _

end Base

end Axium.Zones.EY
