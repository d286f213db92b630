import Axium.Battleground.Basic
import Axium.Lib.OrdMap
import Axium.Lib.Run

/-!
# Custom chat channels

A custom `Channel` with its players, its banned players and its owner, and the requests that change
them. Player entries are reached through `operator[]`, which makes an entry where there is none. The
owner is kept twice, as `m_ownerGUID` and as a flag of the player's entry.

A custom channel has no flag of a built-in one, so the check for the LFG channel in `Join` is not made.
Beside the channel stands who is meant to be on it: who joined and has not left or been kicked since.
-/

namespace Axium.Chat

/-- The flags of a `PlayerInfo` that the code sets. -/
structure MemberFlags where
  owner : Bool := false
  moderator : Bool := false
  muted : Bool := false
  deriving DecidableEq

/-- `PlayerInfo`; a new entry is zero. -/
structure PlayerInfo where
  player : Guid := 0
  flags : MemberFlags := {}
  deriving DecidableEq

namespace PlayerInfo

def setOwner (state : Bool) (i : PlayerInfo) : PlayerInfo := { i with flags := { i.flags with owner := state } }

def setModerator (state : Bool) (i : PlayerInfo) : PlayerInfo :=
  { i with flags := { i.flags with moderator := state } }

def setMuted (state : Bool) (i : PlayerInfo) : PlayerInfo := { i with flags := { i.flags with muted := state } }

end PlayerInfo

structure Channel where
  players : OrdMap Guid PlayerInfo := .empty
  banned : OrdMap Guid Unit := .empty
  ownership : Bool := true
  password : String := ""
  ownerGUID : Guid := 0
  deriving DecidableEq

/-- The server at the time of a request: who is online, the accounts, the names and the teams. -/
structure Env where
  online : Guid → Bool := fun _ => true
  isGMAccount : Guid → Bool := fun _ => false
  findPlayerByName : String → Option Guid := fun _ => none
  team : Guid → Nat := fun _ => 0
  allowTwoSide : Bool := false

/-- `IsGMAccount(sec)`, where `sec` is a player's security if he is online. -/
def Env.isGM (env : Env) (p : Guid) : Bool := env.online p && env.isGMAccount p

namespace Channel

variable (c : Channel)

def isOn (who : Guid) : Bool := (c.players.find? who).isSome

def isBanned (guid : Guid) : Bool := (c.banned.find? guid).isSome

def entryAt (p : Guid) : PlayerInfo := (c.players.find? p).getD {}

def setPlayers (players : OrdMap Guid PlayerInfo) : Channel := { c with players := players }

def setBanned (banned : OrdMap Guid Unit) : Channel := { c with banned := banned }

def setOwnerGUID (guid : Guid) : Channel := { c with ownerGUID := guid }

def modifyAt (p : Guid) (f : PlayerInfo → PlayerInfo) : Channel :=
  c.setPlayers (c.players.insert p (f (c.entryAt p)))

def setModerator (p : Guid) (set : Bool) : Channel :=
  if (c.entryAt p).flags.moderator ≠ set then c.modifyAt p (.setModerator set) else c.modifyAt p id

def setMute (p : Guid) (set : Bool) : Channel :=
  if (c.entryAt p).flags.muted ≠ set then c.modifyAt p (.setMuted set) else c.modifyAt p id

def setOwner (guid : Guid) : Channel :=
  let c := if c.ownerGUID ≠ 0 then c.setPlayers (c.players.modify c.ownerGUID (.setOwner false)) else c
  let c := c.setOwnerGUID guid
  if guid ≠ 0 then (c.modifyAt guid (.setModerator true)).modifyAt guid (.setOwner true) else c

/-- `Join` goes on to add the player. -/
def Admits (p : Guid) (pass : String) : Prop :=
  c.isOn p = false ∧ c.isBanned p = false ∧ (c.password = "" ∨ pass = c.password)

instance (p : Guid) (pass : String) : Decidable (c.Admits p pass) := inferInstanceAs (Decidable (_ ∧ _))

def join (p : Guid) (pass : String) : Channel :=
  if c.Admits p pass then
    let c := c.setPlayers (c.players.insert p { player := p })
    if c.ownerGUID = 0 && c.ownership then (c.setOwner p).modifyAt p (.setModerator true) else c
  else c

def leave (p : Guid) : Channel :=
  if c.isOn p then
    let changeowner := (c.entryAt p).flags.owner
    let c := c.setPlayers (c.players.erase p)
    match c.players.first? with
    | some first =>
      if changeowner && c.ownership then
        let newowner := (c.entryAt first).player
        (c.modifyAt newowner (.setModerator true)).setOwner newowner
      else c
    | none => c
  else c

/-- `KickOrBan` goes on to remove the player that it names. -/
def kicks (env : Env) (good : Guid) (badname : String) : Option Guid :=
  if c.isOn good = false then none
  else if !(c.entryAt good).flags.moderator && !env.isGM good then none
  else
    match env.findPlayerByName badname with
    | none => none
    | some bad =>
      if c.isOn bad = false then none
      else if !env.isGM good && bad = c.ownerGUID && good ≠ c.ownerGUID then none
      else some bad

def kickOrBan (env : Env) (good : Guid) (badname : String) (ban : Bool) : Channel :=
  match c.kicks env good badname with
  | none => c
  | some bad =>
    let changeowner := c.ownerGUID = bad
    let c := if ban && !c.isBanned bad then c.setBanned (c.banned.insert bad ()) else c
    let c := c.setPlayers (c.players.erase bad)
    if changeowner && c.ownership && !c.players.isEmpty then
      (c.modifyAt good (.setModerator true)).setOwner good
    else c

def unBan (env : Env) (good : Guid) (badname : String) : Channel :=
  if c.isOn good = false then c
  else if !(c.entryAt good).flags.moderator && !env.isGM good then c
  else
    match env.findPlayerByName badname with
    | none => c
    | some bad => if c.isBanned bad = false then c else c.setBanned (c.banned.erase bad)

def setMode (env : Env) (p : Guid) (p2n : String) (mod set : Bool) : Channel :=
  if env.online p = false then c
  else if c.isOn p = false then c
  else if !(c.entryAt p).flags.moderator && !env.isGM p then c
  else
    match env.findPlayerByName p2n with
    | none => c
    | some newp =>
      if p = c.ownerGUID && newp = c.ownerGUID && mod then c
      else if c.isOn newp = false then c
      else if (!env.isGMAccount p || !env.isGMAccount newp) && env.team p ≠ env.team newp &&
          !env.allowTwoSide then c
      else if c.ownerGUID = newp && c.ownerGUID ≠ p then c
      else if mod then c.setModerator newp set
      else c.setMute newp set

def setOwnerByName (env : Env) (p : Guid) (newname : String) : Channel :=
  if env.online p = false then c
  else if c.isOn p = false then c
  else if !env.isGM p && p ≠ c.ownerGUID then c
  else
    match env.findPlayerByName newname with
    | none => c
    | some newp =>
      if c.isOn newp = false then c
      else if env.team newp ≠ env.team p && !env.allowTwoSide then c
      else (c.modifyAt newp (.setModerator true)).setOwner newp

end Channel

/-! ## The requests -/

/-- A channel, and who is meant to be on it. -/
structure World where
  channel : Channel := {}
  joined : Guid → Bool := fun _ => false

inductive Request where
  | join (p : Guid) (pass : String)
  | leave (p : Guid)
  | kickOrBan (good : Guid) (badname : String) (ban : Bool)
  | unBan (good : Guid) (badname : String)
  | setMode (p : Guid) (p2n : String) (mod set : Bool)
  | setOwner (p : Guid) (newname : String)

namespace World

variable (w : World)

def nowJoined (env : Env) : Request → Guid → Bool
  | .join p pass => if w.channel.Admits p pass then Function.update w.joined p true else w.joined
  | .leave p => Function.update w.joined p false
  | .kickOrBan good badname _ =>
    match w.channel.kicks env good badname with
    | none => w.joined
    | some bad => Function.update w.joined bad false
  | _ => w.joined

def request (env : Env) : Request → Channel
  | .join p pass => w.channel.join p pass
  | .leave p => w.channel.leave p
  | .kickOrBan good badname ban => w.channel.kickOrBan env good badname ban
  | .unBan good badname => w.channel.unBan env good badname
  | .setMode p p2n mod set => w.channel.setMode env p p2n mod set
  | .setOwner p newname => w.channel.setOwnerByName env p newname

def step (w : World) (e : Env × Request) : World where
  channel := w.request e.1 e.2
  joined := w.nowJoined e.1 e.2

end World

end Axium.Chat
