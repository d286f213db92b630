import Axium.Arena.ArenaTeam

/-!
# Adding a member

`AddMember` makes the member's record from the `Player` object of who is online and from the database
for who is not, and the next `SaveToDB` writes the matchmaker rating of the record back. For a player
who is offline the rating found goes into a variable of the inner block, and the record gets the outer
one, which is 0. So his stored rating is overwritten by 0 (`offline_signer_loses_rating`), while who is
online keeps his: the log-in and `SaveToDB` keep the field of the object equal to the row
(`Synced`, `addMember_keeps_rating_iff`).
-/

namespace Axium.ArenaMembers

open Function Option
open ArenaTeam (ArenaTeamType NamedMember PvPStats)
open Run

def size : ArenaTeamType → Nat
  | .t2v2 => 2
  | .t3v3 => 3
  | .t5v5 => 5

/-- What a `Player` object holds of the player's teams. `mmr` is `m_2v2MMR`, `m_3v3MMR` and
`m_5v5MMR`, `arenaTeamId` the `ARENA_TEAM_ID` field of the slot of a type. -/
structure Player where
  name : String
  playerClass : UInt8
  mmr : ArenaTeamType → UInt16
  arenaTeamId : ArenaTeamType → Nat

/-- `ArenaTeam`. -/
structure Team where
  type : ArenaTeamType
  rating : UInt16 := 0
  members : List NamedMember := []
  deriving DecidableEq, Repr

/-- `CONFIG_ARENA_START_PERSONAL_RATING` and `CONFIG_ARENA_START_MATCHMAKER_RATING`. -/
structure Config where
  startPersonalRating : Nat := 0
  startMatchmakerRating : Nat := 1500

/-- The players who are online, the teams by their ids, and the tables: `characters` (name and class),
`character_arena_stats` (the matchmaker rating in the slot of a type), `arena_team_member` (the team
of a type, or 0) and `character_pvp_stats`. -/
structure Server where
  config : Config := {}
  online : Guid → Option Player := fun _ => none
  teams : Nat → Option Team := fun _ => none
  characters : Guid → Option (String × UInt8) := fun _ => none
  characterArenaStats : Guid → ArenaTeamType → Option UInt16 := fun _ _ => none
  arenaTeamMember : Guid → ArenaTeamType → Nat := fun _ _ => 0
  pvpStats : Guid → Option PvPStats := fun _ => none

namespace Server

variable (s : Server)

/-! ## `AddMember` -/

def nameAndClass (guid : Guid) : Option (String × UInt8) :=
  match s.online guid with
  | some player => some (player.name, player.playerClass)
  | none => s.characters guid

def hasSimilarTeam (guid : Guid) (t : ArenaTeamType) : Bool :=
  (s.online guid).any (·.arenaTeamId t ≠ 0) || s.arenaTeamMember guid t ≠ 0

def startRating (team : Team) : UInt16 :=
  if 0 < s.config.startPersonalRating then .ofNat s.config.startPersonalRating
  else if 1000 ≤ team.rating then 1000
  else 0

def ratingFromDB (guid : Guid) (t : ArenaTeamType) : UInt16 :=
  (s.characterArenaStats guid t).getD (.ofNat s.config.startMatchmakerRating)

def matchMakerRating (guid : Guid) (t : ArenaTeamType) : UInt16 :=
  let matchMakerRating := 0
  match s.online guid with
  | some player => player.mmr t
  | none =>
    -- the rating found is assigned to a variable of the inner block
    let _inner := s.ratingFromDB guid t
    matchMakerRating

/-- The record of a new member, when `AddMember` gets so far. -/
def newMember (team : Team) (guid : Guid) : Option NamedMember :=
  if size team.type * 2 ≤ team.members.length then none
  else
    match s.nameAndClass guid with
    | none => none
    | some (name, playerClass) =>
      if s.hasSimilarTeam guid team.type then none
      else some {
        name := name
        guid := guid
        playerClass := playerClass
        seasonGames := 0
        weekGames := 0
        seasonWins := 0
        weekWins := 0
        personalRating := s.startRating team
        matchMakerRating := s.matchMakerRating guid team.type }

def setInArenaTeam (guid : Guid) (t : ArenaTeamType) (teamId : Nat) : Server :=
  { s with
    online := update s.online guid ((s.online guid).map fun player =>
      { player with arenaTeamId := update player.arenaTeamId t teamId }) }

def setMembership (guid : Guid) (t : ArenaTeamType) (teamId : Nat) : Server :=
  { s with
    arenaTeamMember := update s.arenaTeamMember guid
      (update (s.arenaTeamMember guid) t teamId) }

def setTeam (teamId : Nat) (team : Option Team) : Server := { s with teams := update s.teams teamId team }

/-- `AddMember`: nothing when it returns false. -/
def addMember (teamId : Nat) (guid : Guid) : Option Server :=
  (s.teams teamId).bind fun team =>
    (s.newMember team guid).map fun member =>
      ((s.setTeam teamId (some { team with members := team.members ++ [member] })).setMembership
        guid team.type teamId).setInArenaTeam guid team.type teamId

def delMember (teamId : Nat) (guid : Guid) : Server :=
  match s.teams teamId with
  | some team =>
    ((s.setTeam teamId (some { team with members := team.members.eraseP (·.guid = guid) })).setMembership
      guid team.type 0).setInArenaTeam guid team.type 0
  | none => s

/-! ## `SaveToDB` -/

/-- One turn of the loop: the row of `character_arena_stats`, the field of the object, and the lifetime
columns. -/
def saveMember (t : ArenaTeamType) (member : NamedMember) : Server :=
  { s with
    characterArenaStats := update s.characterArenaStats member.guid
      (update (s.characterArenaStats member.guid) t (some member.matchMakerRating))
    online := update s.online member.guid ((s.online member.guid).map fun player =>
      { player with mmr := update player.mmr t member.matchMakerRating })
    pvpStats := ArenaTeam.saveMember t s.pvpStats member.toArenaTeamMember }

def saveToDB (teamId : Nat) : Server :=
  match s.teams teamId with
  | some team => team.members.foldl (fun s member => s.saveMember team.type member) s
  | none => s

/-! ## Log-in and log-out -/

/-- The object of a player who logs in: the configured ratings, overwritten by the stored ones, and the
teams that exist. -/
def load (guid : Guid) (name : String) (playerClass : UInt8) : Player where
  name := name
  playerClass := playerClass
  mmr := s.ratingFromDB guid
  arenaTeamId := fun t =>
    if (s.teams (s.arenaTeamMember guid t)).isSome then s.arenaTeamMember guid t else 0

def login (guid : Guid) : Server :=
  match s.online guid, s.characters guid with
  | none, some (name, playerClass) =>
    { s with online := update s.online guid (some (s.load guid name playerClass)) }
  | _, _ => s

def logout (guid : Guid) : Server := { s with online := update s.online guid none }

def setCharacter (guid : Guid) (row : Option (String × UInt8)) : Server :=
  if (s.online guid).isSome then s
  else { s with characters := update s.characters guid row }

end Server

/-- What happens. `setTeam` is whatever the rest of the server makes of a team: its creation, its
matches, its disbanding. -/
inductive Event where
  | login (guid : Guid)
  | logout (guid : Guid)
  | setCharacter (guid : Guid) (row : Option (String × UInt8))
  | addMember (teamId : Nat) (guid : Guid)
  | delMember (teamId : Nat) (guid : Guid)
  | saveToDB (teamId : Nat)
  | setTeam (teamId : Nat) (team : Option Team)

def step (s : Server) : Event → Server
  | .login guid => s.login guid
  | .logout guid => s.logout guid
  | .setCharacter guid row => s.setCharacter guid row
  | .addMember teamId guid => (s.addMember teamId guid).getD s
  | .delMember teamId guid => s.delMember teamId guid
  | .saveToDB teamId => s.saveToDB teamId
  | .setTeam teamId team => s.setTeam teamId team

/-! ## The object and the rows -/

/-- The invariant: the object of a player who is online has his name, his class and his stored
ratings. -/
structure Synced (s : Server) : Prop where
  character : ∀ guid player, s.online guid = some player →
    s.characters guid = some (player.name, player.playerClass)
  mmr : ∀ guid player t r, s.online guid = some player →
    s.characterArenaStats guid t = some r → player.mmr t = r

namespace Synced

variable {s : Server}

theorem start (h : ∀ guid, s.online guid = none) : Synced s where
  character guid player hp := by
    rw [h guid] at hp
    cases hp
  mmr guid player t r hp := by
    rw [h guid] at hp
    cases hp

section

variable (h : Synced s)
include h

theorem setTeam (teamId : Nat) (team : Option Team) : Synced (s.setTeam teamId team) := ⟨h.character, h.mmr⟩

theorem setMembership (guid : Guid) (t : ArenaTeamType) (teamId : Nat) :
    Synced (s.setMembership guid t teamId) := ⟨h.character, h.mmr⟩

theorem setInArenaTeam (guid : Guid) (t : ArenaTeamType) (teamId : Nat) :
    Synced (s.setInArenaTeam guid t teamId) := by
  have hback : ∀ guid' player', (s.setInArenaTeam guid t teamId).online guid' = some player' →
      ∃ player, s.online guid' = some player ∧ player'.name = player.name ∧
        player'.playerClass = player.playerClass ∧ player'.mmr = player.mmr := by
    intro guid' player' hp
    simp only [Server.setInArenaTeam, update_apply] at hp
    split at hp
    · rename_i heq
      subst heq
      obtain ⟨player, hplayer, rfl⟩ := map_eq_some_iff.1 hp
      exact ⟨player, hplayer, rfl, rfl, rfl⟩
    · exact ⟨player', hp, rfl, rfl, rfl⟩
  constructor
  · intro guid' player' hp
    obtain ⟨player, hplayer, hname, hclass, -⟩ := hback guid' player' hp
    rw [hname, hclass]
    exact h.character guid' player hplayer
  · intro guid' player' t' r hp hr
    obtain ⟨player, hplayer, -, -, hmmr⟩ := hback guid' player' hp
    rw [hmmr]
    exact h.mmr guid' player t' r hplayer hr

theorem saveMember (t : ArenaTeamType) (member : NamedMember) : Synced (s.saveMember t member) := by
  constructor
  · intro guid player hp
    simp only [Server.saveMember, update_apply] at hp ⊢
    split at hp
    · rename_i heq
      subst heq
      obtain ⟨old, hold, rfl⟩ := map_eq_some_iff.1 hp
      exact h.character _ old hold
    · exact h.character guid player hp
  · intro guid player t' r hp hr
    simp only [Server.saveMember, update_apply] at hp hr
    split at hp
    · rename_i heq
      subst heq
      obtain ⟨old, hold, rfl⟩ := map_eq_some_iff.1 hp
      rw [if_pos rfl] at hr
      by_cases ht : t' = t
      · subst ht
        simpa using hr
      · rw [update_of_ne ht] at hr
        exact (update_of_ne ht ..).trans (h.mmr _ old t' r hold hr)
    · rename_i hne
      rw [if_neg hne] at hr
      exact h.mmr guid player t' r hp hr

theorem saveMembers (t : ArenaTeamType) (members : List NamedMember) :
    Synced (members.foldl (fun s member => s.saveMember t member) s) := by
  induction members generalizing s with
  | nil => exact h
  | cons member members ih => exact ih (h.saveMember t member)

theorem saveToDB (teamId : Nat) : Synced (s.saveToDB teamId) := by
  unfold Server.saveToDB
  split
  · rename_i team _
    exact h.saveMembers team.type team.members
  · exact h

theorem login (guid : Guid) : Synced (s.login guid) := by
  unfold Server.login
  split
  · rename_i name playerClass hoff hrow
    constructor
    · intro guid' player hp
      simp only [update_apply] at hp
      split at hp
      · rename_i heq
        cases hp
        exact heq ▸ hrow
      · exact h.character guid' player hp
    · intro guid' player t r hp hr
      simp only [update_apply] at hp
      split at hp
      · rename_i heq
        subst heq
        cases hp
        simp [Server.load, Server.ratingFromDB, show s.characterArenaStats guid' t = some r from hr]
      · exact h.mmr guid' player t r hp hr
  · exact h

theorem logout (guid : Guid) : Synced (s.logout guid) := by
  have hback : ∀ guid' player, (s.logout guid).online guid' = some player → s.online guid' = some player := by
    intro guid' player hp
    simp only [Server.logout, update_apply] at hp
    split at hp
    · cases hp
    · exact hp
  exact ⟨fun guid' player hp => h.character guid' player (hback guid' player hp),
    fun guid' player t r hp => h.mmr guid' player t r (hback guid' player hp)⟩

theorem setCharacter (guid : Guid) (row : Option (String × UInt8)) : Synced (s.setCharacter guid row) := by
  unfold Server.setCharacter
  split
  · exact h
  · rename_i hoff
    refine ⟨fun guid' player hp => ?_, h.mmr⟩
    have hne : guid' ≠ guid := by
      rintro rfl
      exact hoff (isSome_of_eq_some hp)
    change update s.characters guid row guid' = _
    rw [update_of_ne hne]
    exact h.character guid' player hp

/-- After every event whoever is online has the rating of his row in his object. -/
theorem step (e : Event) : Synced (step s e) := by
  cases e with
  | login guid => exact h.login guid
  | logout guid => exact h.logout guid
  | setCharacter guid row => exact h.setCharacter guid row
  | addMember teamId guid =>
    simp only [ArenaMembers.step, Server.addMember]
    cases s.teams teamId with
    | none => exact h
    | some team =>
      rw [bind_some]
      cases s.newMember team guid with
      | none => exact h
      | some member => exact ((h.setTeam _ _).setMembership _ _ _).setInArenaTeam _ _ _
  | delMember teamId guid =>
    simp only [ArenaMembers.step, Server.delMember]
    split
    · exact ((h.setTeam _ _).setMembership _ _ _).setInArenaTeam _ _ _
    · exact h
  | saveToDB teamId => exact h.saveToDB teamId
  | setTeam teamId team => exact h.setTeam teamId team

theorem run (es : List Event) : Synced (run ArenaMembers.step s es) := by
  induction es generalizing s with
  | nil => exact h
  | cons e es ih => exact ih (h.step e)

end

end Synced

/-! ## The record of a new member -/

section Record

variable {s : Server} {team : Team} {guid : Guid} {member : NamedMember} {r : UInt16}

theorem newMember_eq_some : s.newMember team guid = some member ↔
    team.members.length < size team.type * 2 ∧ s.hasSimilarTeam guid team.type = false ∧
      ∃ name playerClass, s.nameAndClass guid = some (name, playerClass) ∧
        member = {
          name := name, guid := guid, playerClass := playerClass
          personalRating := s.startRating team
          matchMakerRating := s.matchMakerRating guid team.type } := by
  unfold Server.newMember
  split
  · rename_i hfull
    simp [not_lt.2 hfull]
  · rename_i hroom
    cases hname : s.nameAndClass guid with
    | none => simp
    | some nc =>
      cases hteam : s.hasSimilarTeam guid team.type with
      | true => simp
      | false =>
        simp only [Bool.false_eq_true, if_false, some.injEq, true_and]
        constructor
        · rintro rfl
          exact ⟨not_le.1 hroom, nc.1, nc.2, rfl, rfl⟩
        · rintro ⟨-, name, playerClass, rfl, rfl⟩
          rfl

theorem newMember_guid (h : s.newMember team guid = some member) : member.guid = guid := by
  obtain ⟨-, -, name, playerClass, -, rfl⟩ := newMember_eq_some.1 h
  rfl

theorem newMember_matchMakerRating (hs : Synced s) (hr : s.characterArenaStats guid team.type = some r)
    (h : s.newMember team guid = some member) :
    member.matchMakerRating = if (s.online guid).isSome then r else 0 := by
  obtain ⟨-, -, name, playerClass, -, rfl⟩ := newMember_eq_some.1 h
  simp only [Server.matchMakerRating]
  cases hp : s.online guid with
  | none => rfl
  | some player => simp [hs.mmr guid player team.type r hp hr]

theorem newMember_logout (hs : Synced s) (hon : (s.online guid).isSome)
    (h : s.newMember team guid = some member) :
    (s.logout guid).newMember team guid = some { member with matchMakerRating := 0 } := by
  obtain ⟨hroom, hteam, name, playerClass, hname, rfl⟩ := newMember_eq_some.1 h
  obtain ⟨player, hp⟩ := isSome_iff_exists.1 hon
  refine newMember_eq_some.2 ⟨hroom, ?_, name, playerClass, ?_, ?_⟩
  · simp only [Server.hasSimilarTeam, Bool.or_eq_false_iff] at hteam ⊢
    refine ⟨?_, hteam.2⟩
    simp [Server.logout]
  · simp only [Server.nameAndClass, hp] at hname
    simp only [Server.nameAndClass, Server.logout, update_self]
    rw [hs.character guid player hp]
    exact hname
  · simp only [Server.matchMakerRating, Server.logout, update_self]
    rfl

end Record

/-! ## Adding and saving -/

section Save

variable {s s' : Server} {teamId : Nat} {team : Team} {guid : Guid} {r : UInt16}

theorem addMember_eq_some (hteam : s.teams teamId = some team)
    (h : s.addMember teamId guid = some s') :
    ∃ member, s.newMember team guid = some member ∧
      s'.teams teamId = some { team with members := team.members ++ [member] } := by
  unfold Server.addMember at h
  rw [hteam] at h
  obtain ⟨member, hmember, rfl⟩ := map_eq_some_iff.1 h
  exact ⟨member, hmember, by simp [Server.setInArenaTeam, Server.setMembership, Server.setTeam]⟩

theorem saveToDB_last {members : List NamedMember} {member : NamedMember} (hguid : member.guid = guid)
    (hteam : s.teams teamId = some { team with members := members ++ [member] }) :
    (s.saveToDB teamId).characterArenaStats guid team.type = some member.matchMakerRating := by
  subst hguid
  unfold Server.saveToDB
  rw [hteam]
  simp [Server.saveMember]

/-- **Adding a member and saving keeps his stored rating exactly when he is online or it is 0, and the
offline path makes the same record of a player who is online exactly when it is 0.** -/
theorem addMember_keeps_rating_iff (start : Server) (hstart : ∀ guid, start.online guid = none)
    (es : List Event) (hs : s = run step start es) (hteam : s.teams teamId = some team)
    (hr : s.characterArenaStats guid team.type = some r) (hadd : s.addMember teamId guid = some s') :
    ((s'.saveToDB teamId).characterArenaStats guid team.type = some r ↔
        (s.online guid).isSome ∨ r = 0) ∧
      ((s.online guid).isSome →
        ∃ online offline, s.newMember team guid = some online ∧
          (s.logout guid).newMember team guid = some offline ∧ (offline = online ↔ r = 0)) := by
  have hsynced : Synced s := hs ▸ (Synced.start hstart).run es
  obtain ⟨member, hmember, hteam'⟩ := addMember_eq_some hteam hadd
  have hrating := newMember_matchMakerRating hsynced hr hmember
  constructor
  · rw [saveToDB_last (newMember_guid hmember) hteam', hrating]
    by_cases hon : (s.online guid).isSome
    · simp [hon]
    · simp [hon, eq_comm]
  · intro hon
    refine ⟨member, _, hmember, newMember_logout hsynced hon hmember, ?_⟩
    rw [if_pos hon] at hrating
    constructor
    · intro heq
      rw [← hrating, ← heq]
    · intro hzero
      rw [← hrating.trans hzero]

end Save

/-! ## Two signers of a charter -/

def charter : Server where
  teams := fun teamId => if teamId = 7 then some { type := .t2v2 } else none
  characters := fun _ => some ("Name", 1)
  characterArenaStats := fun _ _ => some 1800

theorem online_signer_keeps_rating :
    ∃ s', (run step charter [.login 1]).addMember 7 1 = some s' ∧
      (s'.saveToDB 7).characterArenaStats 1 .t2v2 = some 1800 := by
  refine ⟨_, rfl, ?_⟩
  have hteam : (run step charter [.login 1]).teams 7 = some { type := .t2v2 } := rfl
  have hr : (run step charter [.login 1]).characterArenaStats 1 .t2v2 = some 1800 := rfl
  have hiff := addMember_keeps_rating_iff charter (fun _ => rfl) [.login 1] rfl hteam hr rfl
  exact hiff.1.2 (.inl rfl)

/-- Who signed a charter and is offline loses the rating of his row. -/
theorem offline_signer_loses_rating :
    charter.characterArenaStats 2 .t2v2 = some 1800 ∧
      (charter.addMember 7 2).isSome ∧
      ((run step charter [.addMember 7 2, .saveToDB 7]).characterArenaStats 2 .t2v2) = some 0 := by
  decide

end Axium.ArenaMembers
