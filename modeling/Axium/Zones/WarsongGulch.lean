import Axium.Zones.Zone

/-!
# Warsong Gulch

`BattlegroundWS`: each team has a flag in its base, and the players of the other team carry it to their
own. Translated from `BattlegroundWS.cpp`. The source writes the code for the two flags twice; the two
halves differ in nothing but the team, so here they are one definition, applied to the flag of the
alliance first.

Objects, auras, messages, the scoreboard and honor are left out. The aura of a flag that is taken from its
keeper calls `EventPlayerDroppedFlag` again, after the keeper has been cleared, and that call does nothing.
-/

namespace Axium.Zones.WS

open Bg Run

def maxTeamScore : Nat := 3

def flagRespawnTime : Int := 23000

def flagDropTime : Int := 10000

inductive FlagState where
  | onBase | waitRespawn | onPlayer | onGround
  deriving DecidableEq, Repr

structure WarsongGulch where
  teamScores : PerTeam Nat
  flagKeepers : PerTeam Guid
  flagState : PerTeam FlagState
  flagsTimer : PerTeam Int
  flagsDropTimer : PerTeam Int
  lastFlagCaptureTeam : Nat
  flagSpellForceTimer : Int
  bothFlagsKept : Bool
  flagDebuffState : Nat
  minutesElapsed : Nat

namespace WarsongGulch

variable (z : WarsongGulch)

/-- `Reset`. The timers and the state of the debuff keep what was in the memory. -/
def reset : WarsongGulch :=
  { z with
    teamScores := ⟨0, 0⟩
    flagKeepers := ⟨0, 0⟩
    flagState := ⟨.onBase, .onBase⟩
    lastFlagCaptureTeam := 0
    minutesElapsed := 0 }

def respawnFlag (flag : Team) : WarsongGulch :=
  { z with flagState := z.flagState.set flag .onBase, bothFlagsKept := false }

def respawnFlagAfterDrop (status : Status) (flag : Team) : WarsongGulch :=
  if status = .inProgress then z.respawnFlag flag else z

/-- `EventPlayerDroppedFlag`, by a player of the team. -/
def eventPlayerDroppedFlag (status : Status) (team : Team) (guid : Guid) : WarsongGulch :=
  let flag := team.other
  if z.flagKeepers.get flag ≠ 0 ∧ z.flagKeepers.get flag = guid then
    if status = .inProgress then
      { z with
        flagKeepers := z.flagKeepers.set flag 0
        flagState := z.flagState.set flag .onGround
        flagsDropTimer := z.flagsDropTimer.set flag flagDropTime }
    else { z with flagKeepers := z.flagKeepers.set flag 0 }
  else z

/-! ## Clicks -/

def pickUp (flag : Team) (guid : Guid) : WarsongGulch :=
  { z with
    flagKeepers := z.flagKeepers.set flag guid
    flagState := z.flagState.set flag .onPlayer }

/-- A click on the flag in its base. `object` is the flag whose object in the base was clicked. -/
def clickBase (team : Team) (guid : Guid) (object : Option Team) (flag : Team) : WarsongGulch :=
  if team = flag.other ∧ z.flagState.get flag = .onBase ∧ object = some flag then
    { z.pickUp flag guid with
      bothFlagsKept := z.bothFlagsKept || z.flagState.get flag.other = .onPlayer }
  else z

def clickGround (team : Team) (guid : Guid) (within : Bool) (flag : Team) : WarsongGulch :=
  if z.flagState.get flag = .onGround ∧ within then
    if team = flag then z.respawnFlag flag else z.pickUp flag guid
  else z

/-- `EventPlayerClickedOnFlag`. One click may do several of these. -/
def eventPlayerClickedOnFlag (status : Status) (team : Team) (guid : Guid) (object : Option Team)
    (within : Bool) : WarsongGulch :=
  if status = .inProgress then
    let z := (z.clickBase team guid object .alliance).clickBase team guid object .horde
    (z.clickGround team guid within .alliance).clickGround team guid within .horde
  else z

/-! ## Timers -/

def tickRespawn (diff : Nat) (flag : Team) : WarsongGulch :=
  if z.flagState.get flag = .waitRespawn then
    let timer := sub32 (z.flagsTimer.get flag) diff
    if timer < 0 then { z with flagsTimer := z.flagsTimer.set flag 0 }.respawnFlag flag
    else { z with flagsTimer := z.flagsTimer.set flag timer }
  else z

def tickDrop (status : Status) (diff : Nat) (flag : Team) : WarsongGulch :=
  if z.flagState.get flag = .onGround then
    let timer := sub32 (z.flagsDropTimer.get flag) diff
    if timer < 0 then
      let z := { z with flagsDropTimer := z.flagsDropTimer.set flag 0 }
      { z.respawnFlagAfterDrop status flag with bothFlagsKept := false }
    else { z with flagsDropTimer := z.flagsDropTimer.set flag timer }
  else z

def tickDebuff (diff : Nat) : WarsongGulch :=
  if z.bothFlagsKept then
    let timer := (z.flagSpellForceTimer + diff).bmod (2 ^ 32)
    let debuff :=
      if z.flagDebuffState = 0 ∧ 600000 ≤ timer then 1
      else if z.flagDebuffState = 1 ∧ 900000 ≤ timer then 2
      else z.flagDebuffState
    { z with flagSpellForceTimer := timer, flagDebuffState := debuff }
  else { z with flagSpellForceTimer := 0, flagDebuffState := 0 }

def tickFlag (status : Status) (diff : Nat) (flag : Team) : WarsongGulch :=
  (z.tickRespawn diff flag).tickDrop status diff flag

/-- The part of `PostUpdateImpl` after the time limit. -/
def tick (status : Status) (diff : Nat) : WarsongGulch :=
  ((z.tickFlag status diff .alliance).tickFlag status diff .horde).tickDebuff diff

def winnerAtTimeLimit : Nat :=
  let alliance := z.teamScores.get .alliance
  let horde := z.teamScores.get .horde
  if alliance = 0 then if horde = 0 then 0 else Team.horde.id
  else if horde = 0 then Team.alliance.id
  else if horde = alliance then z.lastFlagCaptureTeam
  else if alliance < horde then Team.horde.id
  else Team.alliance.id

/-! ## Leaving -/

/-- The part of `RemovePlayer` for one flag. -/
def takeFlag (status : Status) (player : Option Team) (guid : Guid) (flag : Team) : WarsongGulch :=
  if z.flagKeepers.get flag ≠ 0 ∧ z.flagKeepers.get flag = guid then
    match player with
    | none => { z with flagKeepers := z.flagKeepers.set flag 0 }.respawnFlag flag
    | some team => z.eventPlayerDroppedFlag status team guid
  else z

def capture (team : Team) : WarsongGulch :=
  { z with
    flagKeepers := z.flagKeepers.set team.other 0
    flagState := z.flagState.set team.other .waitRespawn
    teamScores :=
      if z.teamScores.get team < maxTeamScore then
        z.teamScores.set team (z.teamScores.get team + 1)
      else z.teamScores
    lastFlagCaptureTeam := team.id }

def winner? : Option Team :=
  if z.teamScores.get .horde = maxTeamScore then some .horde
  else if z.teamScores.get .alliance = maxTeamScore then some .alliance
  else none

end WarsongGulch

def removePlayer (status : Status) (player : Option Team) (guid : Guid) (z : WarsongGulch) : WarsongGulch :=
  (z.takeFlag status player guid .alliance).takeFlag status player guid .horde

/-- The time limit of 25 minutes, and the minutes that the players see. -/
def tickTime (s : Zone WarsongGulch) : Zone WarsongGulch :=
  if 25 * 60 * 1000 ≤ s.bg.duration then s.endBattleground s.own.winnerAtTimeLimit
  else if s.own.minutesElapsed * 60 * 1000 < s.bg.duration then
    { s with own := { s.own with minutesElapsed := (s.own.minutesElapsed + 1) % 256 } }
  else s

/-- `PostUpdateImpl`. After the time limit has ended the match the timers still run in this update. -/
def postUpdateImpl (diff : Nat) (s : Zone WarsongGulch) : Zone WarsongGulch :=
  if s.bg.status = .inProgress then
    let s := tickTime s
    { s with own := s.own.tick s.bg.status diff }
  else s

/-- `EventPlayerCapturedFlag`, by a player of the team. -/
def eventPlayerCapturedFlag (team : Team) (s : Zone WarsongGulch) : Zone WarsongGulch :=
  if s.bg.status = .inProgress ∧ s.own.flagKeepers.get team.other ≠ 0 then
    let z := s.own.capture team
    match z.winner? with
    | some t => { s with own := z }.endBattleground t.id
    | none => { s with own := { z with flagsTimer := z.flagsTimer.set team.other flagRespawnTime } }
  else s

def triggerFlag : Nat → Option Team
  | 3646 => some .alliance
  | 3647 => some .horde
  | _ => none

def handleAreaTrigger (guid : Guid) (trigger : Nat) (s : Zone WarsongGulch) : Zone WarsongGulch :=
  match triggerFlag trigger with
  | some base =>
    if s.bg.status = .inProgress ∧ s.own.flagState.get base.other ≠ .onBase ∧
        s.own.flagState.get base = .onBase ∧ s.own.flagKeepers.get base.other = guid then
      eventPlayerCapturedFlag (s.bg.world.player guid).team s
    else s
  | none => s

/-- The handlers of the class. A killed player drops the flag (`HandleKillPlayer`) only while the match
is on; other code calls `EventPlayerDroppedFlag` at any time. -/
inductive Handler where
  | eventPlayerClickedOnFlag (guid : Guid) (object : Option Team) (within : Bool)
  | eventPlayerDroppedFlag (guid : Guid)
  | handleKillPlayer (guid : Guid)
  | handleAreaTrigger (guid : Guid) (trigger : Nat)
  deriving DecidableEq, Repr

def handle (s : Zone WarsongGulch) : Handler → Zone WarsongGulch
  | .eventPlayerClickedOnFlag guid object within =>
    let team := (s.bg.world.player guid).team
    { s with own := s.own.eventPlayerClickedOnFlag s.bg.status team guid object within }
  | .eventPlayerDroppedFlag guid =>
    let team := (s.bg.world.player guid).team
    { s with own := s.own.eventPlayerDroppedFlag s.bg.status team guid }
  | .handleKillPlayer guid =>
    let team := (s.bg.world.player guid).team
    if s.bg.status = .inProgress then
      { s with own := s.own.eventPlayerDroppedFlag s.bg.status team guid }
    else s
  | .handleAreaTrigger guid trigger => handleAreaTrigger guid trigger s

def overrides : Overrides WarsongGulch Unit Handler where
  removePlayer := removePlayer
  postUpdateImpl _ := postUpdateImpl
  handle e s := handle s e

def step (s : Zone WarsongGulch) (we : World × Event Unit Handler) : Zone WarsongGulch :=
  s.step overrides we

def create (config : Config) (world : World) (z : WarsongGulch) : Zone WarsongGulch where
  bg := Bg.create config world
  own := z.reset

end Axium.Zones.WS
