import Axium.Lib.Run
import Axium.Battleground.Basic

/-!
# Arena teams and their members' statistics

The member records of an `ArenaTeam`, the statistics that `PvPMgr` keeps for a player, and the
functions of `ArenaTeam.cpp` that write them: the four ways a match is recorded (`MemberWon`,
`MemberLost` and their `Offline` variants), `FinishWeek` and `SaveToDB`.

The statistics of a player who is online are fields of his `Player` object, else columns of the
database. Every setter of `PvPMgr` writes both and a log-in loads the columns into the fields, so
the model keeps one record a player, and none for a player who is offline and has no row. Rating
changes come from floating-point formulas (`GetRatingMod`) and are inputs of an event.
-/

namespace Axium.ArenaTeam

open Function

inductive ArenaTeamType where
  | t2v2 | t3v3 | t5v5
  deriving DecidableEq, Repr

/-- `ArenaTeamMember`, less the name and the class. -/
structure ArenaTeamMember where
  guid : Guid
  weekGames : UInt16 := 0
  weekWins : UInt16 := 0
  seasonGames : UInt16 := 0
  seasonWins : UInt16 := 0
  personalRating : UInt16 := 0
  matchMakerRating : UInt16 := 1500
  deriving DecidableEq, Repr

/-- `ArenaTeamMember`. -/
structure NamedMember extends ArenaTeamMember where
  name : String
  playerClass : UInt8
  deriving DecidableEq, Repr

/-- The lifetime columns of one bracket in `character_pvp_stats`. -/
structure BracketStats where
  rating : UInt16 := 0
  mmr : UInt16 := 0
  wins : UInt16 := 0
  games : UInt16 := 0
  deriving DecidableEq, Repr

/-- A player's row of `character_pvp_stats`. -/
structure PvPStats where
  v2 : BracketStats := {}
  v3 : BracketStats := {}
  v5 : BracketStats := {}
  deriving DecidableEq, Repr

def PvPStats.get (p : PvPStats) : ArenaTeamType → BracketStats
  | .t2v2 => p.v2
  | .t3v3 => p.v3
  | .t5v5 => p.v5

def PvPStats.set (p : PvPStats) : ArenaTeamType → BracketStats → PvPStats
  | .t2v2, b => { p with v2 := b }
  | .t3v3, b => { p with v3 := b }
  | .t5v5, b => { p with v5 := b }

@[simp] theorem PvPStats.get_set (p : PvPStats) (t : ArenaTeamType) (b : BracketStats) :
    (p.set t b).get t = b := by
  cases t <;> rfl

/-- The arena point columns of `characters`. -/
structure ArenaPoints where
  cap : UInt32 := 0
  weekly : UInt32 := 0
  total : UInt32 := 0
  deriving DecidableEq, Repr

structure Config where
  minimumCap : UInt32 := 2000
  requiredGames : UInt32 := 100
  maxArenaPoints : UInt32 := 10000
  deriving DecidableEq, Repr

structure State where
  type : ArenaTeamType
  config : Config
  members : List ArenaTeamMember
  pvpStats : Guid → Option PvPStats
  arenaPoints : Guid → Option ArenaPoints

/-! ## `PvPMgr` -/

/-- `GetLifetime...`: zero without a row. -/
def State.lifetime (s : State) (guid : Guid) : BracketStats :=
  ((s.pvpStats guid).map (·.get s.type)).getD {}

/-- The largest of the three lifetime ratings, times its thousands. The conversion to `float` is
exact here: the product of two values below `2 ^ 16` and 66 is below `2 ^ 24`. -/
def calculateArenaPointsCap (p : PvPStats) : UInt32 :=
  let highest := max p.v2.rating.toNat (max p.v3.rating.toNat p.v5.rating.toNat)
  .ofNat (highest * (highest / 1000))

/-- `n` rounded to a 24-bit significand, ties to even: the conversion of a `uint32` to `float`. -/
def toFloat (n : Nat) : Nat :=
  let e := Nat.log2 n - 23
  let q := n / 2 ^ e
  let r := n % 2 ^ e
  let up := 2 ^ e < 2 * r ∨ (2 ^ e = 2 * r ∧ 0 < e ∧ q % 2 = 1)
  if up then (q + 1) * 2 ^ e else q * 2 ^ e

/-- `(float)(n + 0.5f)` converted to `uint32`: below `2 ^ 23` the sum is exact and is truncated,
below `2 ^ 24` it is a tie and goes to the even neighbour, above it is absorbed. -/
def addHalf (n : Nat) : Nat :=
  let x := toFloat n
  if 2 ^ 23 ≤ x ∧ x < 2 ^ 24 then x + x % 2 else x

def arenaPointsGain (c : Config) (cap : UInt32) : UInt32 :=
  .ofNat (addHalf (cap.toNat / c.requiredGames.toNat))

def winnerCap (s : State) (guid : Guid) (recorded : UInt32) : UInt32 :=
  if recorded = 0 then
    max (calculateArenaPointsCap ((s.pvpStats guid).getD {})) s.config.minimumCap
  else recorded

def clippedWeekly (c : Config) (cap weekly : UInt32) : UInt32 := min (weekly + arenaPointsGain c cap) cap

/-- `ModifyArenaPoints`: a sum that is negative as an `int32` is stored as zero, one above the
maximum as the maximum. -/
def modifyArenaPoints (c : Config) (total value : UInt32) : UInt32 :=
  let newValue := total + value
  if newValue.toNat < 2 ^ 31 then min newValue c.maxArenaPoints else 0

/-! ## The members -/

/-- `ModifyPersonalRating` and `ModifyMatchmakerRating`: a sum below zero is stored as zero. -/
def modifyRating (rating : UInt16) (mod : Int) : UInt16 := .ofNat ((rating.toNat : Int) + mod).toNat

/-- Apply `f` to the first member with the guid: the loops over `Members` return at it. -/
def updateMember (guid : Guid) (f : ArenaTeamMember → ArenaTeamMember) :
    List ArenaTeamMember → List ArenaTeamMember
  | [] => []
  | m :: ms => if m.guid = guid then f m :: ms else m :: updateMember guid f ms

def State.getMember (s : State) (guid : Guid) : Option ArenaTeamMember := s.members.find? (·.guid = guid)

/-- `personalRatingMod` is the value of `GetRatingMod` for this member. -/
structure RatingChange where
  personalRatingMod : Int := 0
  matchmakerRatingChange : Int := 0
  deriving DecidableEq, Repr

def ArenaTeamMember.won (c : RatingChange) (m : ArenaTeamMember) : ArenaTeamMember :=
  { m with
    personalRating := modifyRating m.personalRating c.personalRatingMod
    matchMakerRating := modifyRating m.matchMakerRating c.matchmakerRatingChange
    weekGames := m.weekGames + 1
    seasonGames := m.seasonGames + 1
    seasonWins := m.seasonWins + 1
    weekWins := m.weekWins + 1 }

def ArenaTeamMember.lost (c : RatingChange) (m : ArenaTeamMember) : ArenaTeamMember :=
  { m with
    personalRating := modifyRating m.personalRating c.personalRatingMod
    matchMakerRating := modifyRating m.matchMakerRating c.matchmakerRatingChange
    weekGames := m.weekGames + 1
    seasonGames := m.seasonGames + 1 }

/-- The arena points of an online winner. The whole gain is credited (`ModifyArenaPoints`), up to
the maximum a player may hold. -/
def awardOnline (s : State) (guid : Guid) : State :=
  let p := (s.arenaPoints guid).getD {}
  let cap := winnerCap s guid p.cap
  let p := { p with cap := cap }
  let p :=
    if p.weekly < cap then
      { p with
        weekly := clippedWeekly s.config cap p.weekly
        total := modifyArenaPoints s.config p.total (arenaPointsGain s.config cap) }
    else p
  { s with arenaPoints := update s.arenaPoints guid (some p) }

def memberWon (s : State) (guid : Guid) (c : RatingChange) : State :=
  if (s.getMember guid).isSome then
    { awardOnline s guid with members := updateMember guid (·.won c) s.members }
  else s

def memberLost (s : State) (guid : Guid) (c : RatingChange) : State :=
  { s with members := updateMember guid (·.lost c) s.members }

/-- `OfflineMemberWon`. A winner under his cap without a `characters` row is left as he is: the
function returns before it has recorded the match. -/
def offlineMemberWon (s : State) (guid : Guid) (c : RatingChange) : State :=
  if (s.getMember guid).isSome then
    let row := s.arenaPoints guid
    let p := row.getD {}
    let cap := winnerCap s guid p.cap
    let capped := { s with
      arenaPoints := update s.arenaPoints guid (row.map ({ · with cap := cap })) }
    let record (s : State) : State := { s with members := updateMember guid (·.won c) s.members }
    if p.weekly < cap then
      match row with
      | none => capped
      | some p =>
        record { s with arenaPoints := update s.arenaPoints guid (some
          { cap := cap
            weekly := clippedWeekly s.config cap p.weekly
            total := p.total + arenaPointsGain s.config cap }) }
    else record capped
  else s

def offlineMemberLost (s : State) (guid : Guid) (c : RatingChange) : State :=
  { s with members := updateMember guid (·.lost c) s.members }

def finishWeek (s : State) : State :=
  { s with members := s.members.map fun m => { m with weekGames := 0, weekWins := 0 } }

/-! ## `SaveToDB` -/

/-- The bracket's columns after a member is saved. The lifetime rating takes the larger of the
personal and the matchmaker rating; the season's wins and games are added to the lifetime ones. -/
def saveBracket (m : ArenaTeamMember) (b : BracketStats) : BracketStats :=
  let b := if b.mmr < m.matchMakerRating then { b with mmr := m.matchMakerRating } else b
  let b := if b.rating < m.personalRating then { b with rating := m.personalRating } else b
  let b := if b.rating < m.matchMakerRating then { b with rating := m.matchMakerRating } else b
  { b with wins := b.wins + m.seasonWins, games := b.games + m.seasonGames }

def saveMember (t : ArenaTeamType) (stats : Guid → Option PvPStats) (m : ArenaTeamMember) :
    Guid → Option PvPStats :=
  update stats m.guid
    ((stats m.guid).map fun p => p.set t (saveBracket m (p.get t)))

def saveToDB (s : State) : State := { s with pvpStats := s.members.foldl (saveMember s.type) s.pvpStats }

/-! ## Runs -/

/-- What happens to a team between two loads of the database. `ResetWeeklyCap` is `finishWeek`
followed by `saveToDB`. -/
inductive Event where
  | memberWon (guid : Guid) (c : RatingChange)
  | memberLost (guid : Guid) (c : RatingChange)
  | offlineMemberWon (guid : Guid) (c : RatingChange)
  | offlineMemberLost (guid : Guid) (c : RatingChange)
  | finishWeek
  | saveToDB
  deriving DecidableEq, Repr

def step (s : State) : Event → State
  | .memberWon guid c => memberWon s guid c
  | .memberLost guid c => memberLost s guid c
  | .offlineMemberWon guid c => offlineMemberWon s guid c
  | .offlineMemberLost guid c => offlineMemberLost s guid c
  | .finishWeek => finishWeek s
  | .saveToDB => saveToDB s

def Event.isGameOf (guid : Guid) : Event → Bool
  | .memberWon g _ | .memberLost g _ | .offlineMemberWon g _ | .offlineMemberLost g _ => g = guid
  | .finishWeek | .saveToDB => false

def Event.isWinOf (guid : Guid) : Event → Bool
  | .memberWon g _ | .offlineMemberWon g _ => g = guid
  | .memberLost _ _ | .offlineMemberLost _ _ | .finishWeek | .saveToDB => false

def games (guid : Guid) (es : List Event) : Nat := es.countP (·.isGameOf guid)

def wins (guid : Guid) (es : List Event) : Nat := es.countP (·.isWinOf guid)

end Axium.ArenaTeam
