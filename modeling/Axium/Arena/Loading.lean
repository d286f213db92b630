import Axium.Arena.ArenaTeam
import Axium.Lib.MergeJoin

/-!
# Loading the arena teams

At the start of the server `LoadArenaTeams` makes one query for the teams and one for the members of
all teams, both ordered by the team id. Every team reads its members from the one result of the
second query: `LoadMembersFromDB` goes on while the current row is not of a later team. Together the
teams make a merge join (`Axium.MergeJoin`): each gets exactly its own rows
(`loadArenaTeams_gives_own_rows`).
-/

namespace Axium.ArenaTeam

open MergeJoin List

/-! ## The tables -/

/-- A row of `arena_team`: what the loading of the members reads. -/
structure TeamRow where
  arenaTeamId : Nat
  captainGuid : Guid
  type : Nat
  deriving DecidableEq, Repr

/-- A row of `arena_team_member`. -/
structure MemberRow where
  arenaTeamId : Nat
  guid : Guid
  weekGames : UInt16 := 0
  weekWins : UInt16 := 0
  seasonGames : UInt16 := 0
  seasonWins : UInt16 := 0
  personalRating : UInt16 := 0
  deriving DecidableEq, Repr

/-- The tables that the second query looks a member up in, by their keys: `characters` (the name and
the class) and `character_arena_stats`. -/
structure Tables where
  characters : Guid → Option (String × UInt8) := fun _ => none
  characterArenaStats : Guid → Nat → Option UInt16 := fun _ _ => none

/-- A row of the second query. What the `LEFT JOIN`s do not find is `NULL`. -/
structure MemberFields extends MemberRow where
  name : Option String
  playerClass : Option UInt8
  matchMakerRating : Option UInt16
  deriving DecidableEq, Repr

def slotOfType : Nat → Option Nat
  | 2 => some 0
  | 3 => some 1
  | 5 => some 2
  | _ => none

/-- The `LEFT JOIN`s, for a member of a team of the type. -/
def Tables.lookUp (db : Tables) (type : Nat) (row : MemberRow) : MemberFields :=
  let c := db.characters row.guid
  { row with
    name := c.map (·.1)
    playerClass := c.map (·.2)
    matchMakerRating := c.bind fun _ => (slotOfType type).bind (db.characterArenaStats row.guid) }

/-- The rows of the second query. The `INNER JOIN` drops a row without a team. -/
def Tables.memberFields (db : Tables) (teams : List TeamRow) (rows : List MemberRow) : List MemberFields :=
  rows.filterMap fun row =>
    (teams.find? (·.arenaTeamId = row.arenaTeamId)).map fun team => db.lookUp team.type row

/-! ## The cursor -/

/-- `ResultSet`: the current row and the rows that `mysql_fetch_row` has yet to give, or the state that
`CleanUp` leaves. -/
inductive ResultSet where
  | closed
  | row (fields : MemberFields) (unread : List MemberFields)

namespace ResultSet

def rows : ResultSet → List MemberFields
  | closed => []
  | row fields unread => fields :: unread

end ResultSet

/-- `DatabaseWorkerPool::Query`: no result without a row, else the first row is the current one. -/
def query : List MemberFields → Option ResultSet
  | [] => none
  | fields :: unread => some (.row fields unread)

/-! ## The loading -/

def newMember (f : MemberFields) : NamedMember where
  guid := f.guid
  weekGames := f.weekGames
  weekWins := f.weekWins
  seasonGames := f.seasonGames
  seasonWins := f.seasonWins
  name := f.name.getD ""
  playerClass := f.playerClass.getD 0
  personalRating := f.personalRating
  matchMakerRating := if 0 < f.matchMakerRating.getD 0 then f.matchMakerRating.getD 0 else 1500

/-- What `LoadMembersFromDB` has made of the rows: the members, whether the captain is one of them,
and the rows of `arena_team_member` that it deletes. -/
structure Loaded where
  members : List NamedMember := []
  captainPresentInTeam : Bool := false
  deleted : List (Nat × Guid) := []
  deriving DecidableEq, Repr

/-- `DelMember` with `cleanDb`: the first member with the guid, and the row. -/
def Loaded.delMember (l : Loaded) (team : TeamRow) (guid : Guid) : Loaded :=
  { l with
    members := l.members.eraseP (·.guid = guid)
    deleted := l.deleted ++ [(team.arenaTeamId, guid)] }

def Loaded.addRow (team : TeamRow) (l : Loaded) (f : MemberFields) : Loaded :=
  let member := newMember f
  if member.name = "" then l.delMember team member.guid
  else { l with
    captainPresentInTeam := l.captainPresentInTeam || member.guid = team.captainGuid
    members := l.members ++ [member] }

/-- The loop, from a current row on: it ends at a row of a later team, or when `NextRow` finds no more
rows. -/
def loadLoop (team : TeamRow) : MemberFields → List MemberFields → Loaded → Loaded × ResultSet
  | f, unread, l =>
    if team.arenaTeamId < f.arenaTeamId then (l, .row f unread)
    else
      match unread with
      | [] => (l.addRow team f, .closed)
      | next :: unread => loadLoop team next unread (l.addRow team f)

/-- `LoadMembersFromDB`: what has been loaded, the cursor, and the result. -/
def loadMembersFromDB (team : TeamRow) : Option ResultSet → Loaded × Option ResultSet × Bool
  | none => ({}, none, false)
  | some result =>
    let (l, result) :=
      match result with
      | .closed => ({}, .closed)
      | .row f unread => loadLoop team f unread {}
    (l, some result, !l.members.isEmpty && l.captainPresentInTeam)

/-- A team after its turn. Without a result it is disbanded, else it goes into the store. -/
structure TeamLoad where
  team : TeamRow
  loaded : Loaded
  result : Bool
  deriving DecidableEq, Repr

/-- `LoadArenaTeams`: the teams in turn, on one cursor. -/
def loadArenaTeams : List TeamRow → Option ResultSet → List TeamLoad
  | [], _ => []
  | team :: teams, result2 =>
    let (l, result2, ok) := loadMembersFromDB team result2
    ⟨team, l, ok⟩ :: loadArenaTeams teams result2

/-! ## One team -/

def MemberFields.isNamed (f : MemberFields) : Bool := f.name.getD "" ≠ ""

@[simp] theorem newMember_guid (f : MemberFields) : (newMember f).guid = f.guid := rfl

theorem isNamed_iff {f : MemberFields} : f.isNamed = true ↔ (newMember f).name ≠ "" := by
  simp [MemberFields.isNamed, newMember]

abbrev teamKey (f : MemberFields) : Nat := f.arenaTeamId

def Loaded.ofRows (team : TeamRow) (fs : List MemberFields) : Loaded where
  members := (fs.filter (·.isNamed)).map newMember
  captainPresentInTeam := (fs.filter (·.isNamed)).any (·.guid = team.captainGuid)
  deleted := (fs.filter (!·.isNamed)).map fun f => (team.arenaTeamId, f.guid)

theorem addRow_of_isNamed {team : TeamRow} {read : List MemberFields} {f : MemberFields}
    (h : f.isNamed) : (Loaded.ofRows team read).addRow team f = .ofRows team (read ++ [f]) := by
  unfold Loaded.addRow
  rw [if_neg (isNamed_iff.1 h)]
  simp [Loaded.ofRows, filter_append, h]
  rfl

theorem addRow_of_not_isNamed {team : TeamRow} {read : List MemberFields} {f : MemberFields}
    (h : f.isNamed = false) (hread : ∀ f' ∈ read, f'.guid = f.guid → f'.isNamed = false) :
    (Loaded.ofRows team read).addRow team f = .ofRows team (read ++ [f]) := by
  have hname : (newMember f).name = "" := by
    by_contra hne
    rw [isNamed_iff.2 hne] at h
    cases h
  have hkept : (Loaded.ofRows team read).members.eraseP (·.guid = f.guid) =
      (Loaded.ofRows team read).members := by
    refine eraseP_of_forall_not fun m hm hguid => ?_
    obtain ⟨f', hf', rfl⟩ := mem_map.1 hm
    obtain ⟨hmem, hnamed⟩ := mem_filter.1 hf'
    rw [hread f' hmem (of_decide_eq_true hguid)] at hnamed
    cases hnamed
  unfold Loaded.addRow Loaded.delMember
  rw [if_pos hname, newMember_guid, hkept]
  simp [Loaded.ofRows, filter_append, h]

variable (team : TeamRow)

theorem foldl_addRow {nameOf : Guid → String} {read fs : List MemberFields}
    (hnames : ∀ f ∈ read ++ fs, f.name.getD "" = nameOf f.guid) :
    fs.foldl (Loaded.addRow team) (.ofRows team read) = .ofRows team (read ++ fs) := by
  induction fs generalizing read with
  | nil => simp
  | cons f fs ih =>
    have hstep : (Loaded.ofRows team read).addRow team f = .ofRows team (read ++ [f]) := by
      cases h : f.isNamed with
      | true => exact addRow_of_isNamed h
      | false =>
        refine addRow_of_not_isNamed h fun f' hf' hguid => ?_
        have hsame : f'.name.getD "" = f.name.getD "" := by
          rw [hnames f' (by simp [hf']), hguid, hnames f (by simp)]
        rwa [MemberFields.isNamed, hsame]
    rw [foldl_cons, hstep, ih (by simpa using hnames), append_assoc, singleton_append]

theorem loadLoop_eq (f : MemberFields) (unread : List MemberFields) (l : Loaded) :
    (loadLoop team f unread l).1 =
        (taken teamKey team.arenaTeamId (f :: unread)).foldl (Loaded.addRow team) l ∧
      (loadLoop team f unread l).2.rows = left teamKey team.arenaTeamId (f :: unread) := by
  induction unread generalizing f l with
  | nil =>
    unfold loadLoop taken left
    by_cases hlt : team.arenaTeamId < f.arenaTeamId
    · simp [hlt, ResultSet.rows]
    · simp [hlt, not_lt.1 hlt, ResultSet.rows]
  | cons next unread ih =>
    unfold loadLoop
    by_cases hlt : team.arenaTeamId < f.arenaTeamId
    · simp [hlt, taken, left, ResultSet.rows]
    · have hle : teamKey f ≤ team.arenaTeamId := not_lt.1 hlt
      simp only [if_neg hlt]
      obtain ⟨hloaded, hrows⟩ := ih next (l.addRow team f)
      rw [hloaded, hrows]
      simp [taken, left, hle]

theorem filter_own (p : MemberFields → Bool) (id : Nat) (fs : List MemberFields) :
    (own teamKey id fs).filter p = fs.filter fun f => f.arenaTeamId = id && p f := by
  simp [own, filter_filter, Bool.and_comm]

theorem ofRows_deleted (fs : List MemberFields) :
    (Loaded.ofRows team (own teamKey team.arenaTeamId fs)).deleted =
      ((own teamKey team.arenaTeamId fs).filter (!·.isNamed)).map fun f => (f.arenaTeamId, f.guid) := by
  refine map_congr_left fun f hf => ?_
  have hown : f.arenaTeamId = team.arenaTeamId := of_decide_eq_true (mem_filter.1 (mem_of_mem_filter hf)).2
  rw [hown]

def TeamLoad.ofRows (team : TeamRow) (fs : List MemberFields) : TeamLoad where
  team := team
  loaded := .ofRows team fs
  result := (fs.filter (·.isNamed)).any (·.guid = team.captainGuid)

theorem captain_and_not_isEmpty (fs : List MemberFields) :
    (!(Loaded.ofRows team fs).members.isEmpty && (Loaded.ofRows team fs).captainPresentInTeam) =
      (fs.filter (·.isNamed)).any (·.guid = team.captainGuid) := by
  unfold Loaded.ofRows
  cases fs.filter (·.isNamed) with
  | nil => rfl
  | cons f fs => rfl

theorem loadMembersFromDB_eq {nameOf : Guid → String} (result : ResultSet)
    (hnames : ∀ f ∈ result.rows, f.name.getD "" = nameOf f.guid) :
    ∃ result', loadMembersFromDB team (some result) =
        (.ofRows team (taken teamKey team.arenaTeamId result.rows), some result',
          (TeamLoad.ofRows team (taken teamKey team.arenaTeamId result.rows)).result) ∧
      result'.rows = left teamKey team.arenaTeamId result.rows := by
  cases result with
  | closed => exact ⟨.closed, rfl, rfl⟩
  | row f unread =>
    obtain ⟨hloaded, hrows⟩ := loadLoop_eq team f unread {}
    have htaken : ∀ f' ∈ [] ++ taken teamKey team.arenaTeamId (f :: unread),
        f'.name.getD "" = nameOf f'.guid := by
      intro f' hf'
      rw [nil_append] at hf'
      exact hnames f' (takeWhile_subset _ hf')
    have hfold := foldl_addRow team htaken
    refine ⟨(loadLoop team f unread {}).2, ?_, hrows⟩
    have hofRows : (loadLoop team f unread {}).1 =
        .ofRows team (taken teamKey team.arenaTeamId (f :: unread)) := hloaded.trans hfold
    rw [loadMembersFromDB]
    simp only [hofRows, captain_and_not_isEmpty]
    rfl

/-! ## All teams -/

theorem loadArenaTeams_eq_join {nameOf : Guid → String} (teams : List TeamRow) (result : ResultSet)
    (hnames : ∀ f ∈ result.rows, f.name.getD "" = nameOf f.guid) :
    loadArenaTeams teams (some result) =
      List.zipWith TeamLoad.ofRows teams (join teamKey (teams.map (·.arenaTeamId)) result.rows) := by
  induction teams generalizing result with
  | nil => rfl
  | cons team teams ih =>
    obtain ⟨result', hload, hrows⟩ := loadMembersFromDB_eq team result hnames
    have hrest := ih result' fun f hf => by
      rw [hrows] at hf
      exact hnames f (dropWhile_subset _ hf)
    rw [loadArenaTeams, hload]
    simp only [map_cons, join, zipWith_cons_cons, hrest, hrows]
    rfl

theorem loadArenaTeams_none (teams : List TeamRow) :
    loadArenaTeams teams none = teams.map (TeamLoad.ofRows · []) := by
  induction teams with
  | nil => rfl
  | cons team teams ih =>
    rw [map_cons, ← ih]
    rfl

theorem loadArenaTeams_eq {nameOf : Guid → String} {teams : List TeamRow} {fs : List MemberFields}
    (hteams : (teams.map (·.arenaTeamId)).Pairwise (· < ·)) (hsorted : Sorted teamKey fs)
    (hmem : ∀ f ∈ fs, teamKey f ∈ teams.map (·.arenaTeamId))
    (hnames : ∀ f ∈ fs, f.name.getD "" = nameOf f.guid) :
    loadArenaTeams teams (query fs) = teams.map fun team => .ofRows team (own teamKey team.arenaTeamId fs) := by
  cases fs with
  | nil => exact loadArenaTeams_none teams
  | cons f unread =>
    rw [query, loadArenaTeams_eq_join teams (.row f unread) hnames]
    simp only [ResultSet.rows]
    rw [join_eq hteams hsorted hmem, map_map, zipWith_map_right, zipWith_self]
    rfl

/-! ## The second query -/

section Query

variable (db : Tables) {teams : List TeamRow} {rows : List MemberRow} {f : MemberFields}

def Tables.nameOf (guid : Guid) : String := ((db.characters guid).map (·.1)).getD ""

theorem mem_memberFields : f ∈ db.memberFields teams rows ↔
    ∃ row ∈ rows, ∃ team, teams.find? (·.arenaTeamId = row.arenaTeamId) = some team ∧
      db.lookUp team.type row = f := by
  simp [Tables.memberFields, mem_filterMap, Option.map_eq_some_iff]

theorem memberFields_name (hf : f ∈ db.memberFields teams rows) : f.name.getD "" = db.nameOf f.guid := by
  obtain ⟨row, -, team, -, rfl⟩ := (mem_memberFields db).1 hf
  rfl

theorem memberFields_team (hf : f ∈ db.memberFields teams rows) : teamKey f ∈ teams.map (·.arenaTeamId) := by
  obtain ⟨row, -, team, hteam, rfl⟩ := (mem_memberFields db).1 hf
  have hid : team.arenaTeamId = row.arenaTeamId := by simpa using find?_some hteam
  exact mem_map.2 ⟨team, mem_of_find?_eq_some hteam, hid⟩

theorem memberFields_sorted (hrows : rows.Pairwise fun r r' => r.arenaTeamId ≤ r'.arenaTeamId) :
    Sorted teamKey (db.memberFields teams rows) := by
  refine List.Pairwise.filterMap _ (fun r r' hle f hf f' hf' => ?_) hrows
  obtain ⟨team, -, rfl⟩ := Option.map_eq_some_iff.1 hf
  obtain ⟨team', -, rfl⟩ := Option.map_eq_some_iff.1 hf'
  exact hle

end Query

/-- **The loading gives each team exactly the rows with its own id.** The ids of the teams ascend, and
those of the member rows do not descend. Every team then gets its own named rows as members, in order,
and has its own nameless ones deleted; it is kept exactly when its captain is a member; and over all
teams no row is lost or taken twice. -/
theorem loadArenaTeams_gives_own_rows (db : Tables) (teams : List TeamRow) (rows : List MemberRow)
    (hteams : (teams.map (·.arenaTeamId)).Pairwise (· < ·))
    (hrows : rows.Pairwise fun r r' => r.arenaTeamId ≤ r'.arenaTeamId) :
    ∀ fs loads, fs = db.memberFields teams rows → loads = loadArenaTeams teams (query fs) →
      loads.map (·.team) = teams ∧
      (∀ load ∈ loads, load.loaded.members = (fs.filter fun f =>
            f.arenaTeamId = load.team.arenaTeamId && f.isNamed).map newMember ∧
        load.loaded.deleted = (fs.filter fun f => f.arenaTeamId = load.team.arenaTeamId && !f.isNamed).map
              (fun f => (f.arenaTeamId, f.guid)) ∧
        (load.result ↔ load.team.captainGuid ∈ load.loaded.members.map (·.guid))) ∧
      loads.flatMap (·.loaded.members) = (fs.filter (·.isNamed)).map newMember ∧
      loads.flatMap (·.loaded.deleted) = (fs.filter (!·.isNamed)).map (fun f => (f.arenaTeamId, f.guid)) := by
  rintro fs _ hfs rfl
  have hmem : ∀ f ∈ fs, teamKey f ∈ teams.map (·.arenaTeamId) := fun f hf => memberFields_team db (hfs ▸ hf)
  have hsorted : Sorted teamKey fs := hfs ▸ memberFields_sorted db hrows
  have hnames : ∀ f ∈ fs, f.name.getD "" = db.nameOf f.guid := fun f hf => memberFields_name db (hfs ▸ hf)
  have hall : teams.flatMap (fun team => own teamKey team.arenaTeamId fs) = fs := by
    have hjoin := flatten_join hsorted hmem
    rw [join_eq hteams hsorted hmem, map_map] at hjoin
    exact hjoin
  rw [loadArenaTeams_eq hteams hsorted hmem hnames]
  refine ⟨?_, ?_, ?_, ?_⟩
  · rw [map_map]
    exact map_id teams
  · intro load hload
    obtain ⟨team, -, rfl⟩ := mem_map.1 hload
    refine ⟨?_, ?_, ?_⟩
    · exact congrArg (List.map newMember) (filter_own _ _ _)
    · exact (ofRows_deleted team fs).trans (congrArg _ (filter_own _ _ _))
    · simp [TeamLoad.ofRows, Loaded.ofRows, and_assoc]
  · rw [flatMap_map]
    conv_rhs => rw [← hall, filter_flatMap, map_flatMap]
    rfl
  · rw [flatMap_map]
    conv_rhs => rw [← hall, filter_flatMap, map_flatMap]
    exact flatMap_congr fun team _ => ofRows_deleted team fs

/-! ## Four teams -/

def sampleTeams : List TeamRow := [⟨1, 10, 2⟩, ⟨2, 20, 3⟩, ⟨3, 30, 2⟩, ⟨4, 40, 5⟩]

def sampleRows : List MemberRow :=
  [{ arenaTeamId := 1, guid := 10 }, { arenaTeamId := 1, guid := 30 },
    { arenaTeamId := 1, guid := 11 }, { arenaTeamId := 3, guid := 30 },
    { arenaTeamId := 4, guid := 41 }]

def sampleTables : Tables where
  characters := fun guid => if guid = 30 then none else some ("Name", 1)
  characterArenaStats := fun _ _ => some 1800

def sampleLoads : List TeamLoad :=
  loadArenaTeams sampleTeams (query (sampleTables.memberFields sampleTeams sampleRows))

theorem sampleTeams_loaded :
    sampleLoads.map (·.team) = sampleTeams ∧
      sampleLoads.map (·.result) = [true, false, false, false] ∧
      sampleLoads.map (fun load => load.loaded.members.map (·.guid)) = [[10, 11], [], [], [41]] := by
  obtain ⟨hteams, -⟩ := loadArenaTeams_gives_own_rows sampleTables sampleTeams sampleRows
    (by decide) (by decide) _ sampleLoads rfl rfl
  exact ⟨hteams, by decide⟩

end Axium.ArenaTeam
