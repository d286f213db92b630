import Axium.PvP.ChallengeMgr

/-!
# What a refused challenge leaves behind

`HandleChallenge` writes the arena type, the participants and the map into the manager while it is
still checking, and cleans the manager only after a match has been made. A refusal by the checks of
the two players, or because of the sizes of their groups, comes before the first write
(`TurnedDown`). Every later one, for a busy member, a missing template or a missing bracket, leaves
what was written for the next challenge (`refusal_keeps_participants`).

The constructor of the manager sets neither the arena type nor the battleground type. Until the first
match has been made, groups of four pass the check of the bracket with whatever the field holds.
-/

namespace Axium.Challenge

open Server ChallengeMgr

open Queue (Env State InstanceId)
open Run

/-- What the constructor of the manager finds in the fields that it does not set. -/
structure Uninitialised where
  arenaType : Nat := 0
  bgTypeId : BattlegroundTypeId := .typeNone
  bg : Option InstanceId := none

/-- `ChallengeMgr()`. -/
def Uninitialised.mgr (u : Uninitialised) : ChallengeMgr := ⟨.empty, u.arenaType, u.bgTypeId, u.bg⟩

/-- A call of `HandleChallenge`, with the server at its time. `restart` is for a server that is started
again because the call has followed a null pointer. -/
structure Call where
  env : Env
  lobby : Lobby := {}
  challenger : Guid
  challenged : Guid
  map : Nat
  restart : Uninitialised := {}

/-- The call returns before a battleground is created. Following a null pointer is no return. -/
def Outcome.isRefusal : Outcome → Bool
  | .stopped .undefined => false
  | .stopped _ => true
  | .accepted _ => false

def Outcome.isAccepted : Outcome → Bool
  | .stopped _ => false
  | .accepted _ => true

/-- The arena types that a group of two, three or five has. -/
def hasBracket (size : Nat) : Prop := size ∈ [2, 3, 5]

instance (size : Nat) : Decidable (hasBracket size) := inferInstanceAs (Decidable (_ ∈ _))

def Lobby.isBusy (lobby : Lobby) (guid : Guid) : Bool :=
  (lobby.player guid).inBattlegroundQueue || (lobby.player guid).inBattleground

namespace Call

variable (c : Call) (mgr : ChallengeMgr)

/-- The two players are in two groups, with these members. -/
def Groups (membersA membersB : List Guid) : Prop :=
  ∃ groupA ∈ (c.lobby.player c.challenger).group, ∃ groupB ∈ (c.lobby.player c.challenged).group,
    groupA ≠ groupB ∧ membersA = c.lobby.members groupA ∧ membersB = c.lobby.members groupB

def bracket (size : Nat) : Nat := if hasBracket size then size else mgr.arenaType

/-- A refusal that comes when a bracket was found writes no participant. -/
def FirstTurnsDown : List Guid → Prop
  | [] => arenaOfMap c.map = mgr.bgTypeId
  | first :: _ => c.lobby.isBusy first

/-- A refusal comes before the first member is written: by the sizes of the groups or by their first
member, and with the arena type that the manager has already. -/
def SizesTurnDown (membersA membersB : List Guid) : Prop :=
  membersA.length ≠ membersB.length ∨ bracket mgr membersA.length = 0 ∨
    bracket mgr membersA.length = mgr.arenaType ∧ c.FirstTurnsDown mgr membersA

/-- The call does not get past the checks of the two players, or past the sizes of their groups. -/
def TurnedDown : Prop :=
  (check c.env c.lobby c.challenger c.challenged).isSome ∨
    ∃ membersA membersB, c.Groups membersA membersB ∧ c.SizesTurnDown mgr membersA membersB

/-- The groups have a size without an arena type. -/
def Unbracketed : Prop := ∃ membersA membersB, c.Groups membersA membersB ∧ ¬ hasBracket membersA.length

end Call

section Server

variable (own : BattlegroundQueueTypeId) (s : Server) (c : Call)

/-- `HandleChallenge`. -/
def Server.call : Server × Outcome := s.handleChallenge own c.env c.lobby c.challenger c.challenged c.map

def Server.callStep : Server :=
  match s.call own c with
  | (_, .stopped .undefined) => { mgr := c.restart.mgr }
  | (s, _) => s

/-- A refusal leaves the manager as it was. -/
def NoTrace : Prop := (s.call own c).2.isRefusal → (s.call own c).1.mgr = s.mgr

/-- The match has the participants and the queue that a clean manager gives it. -/
def OwnMatch : Prop := ∀ m, (s.call own c).2 = .accepted m →
  ∃ mgr b, cleanupChallenge.prepare c.env c.lobby c.challenger c.challenged c.map = (mgr, .ok b) ∧
    m.players = mgr.players ∧ m.queueTypeId = bgQueueTypeId mgr.bgTypeId mgr.arenaType

/-- A refused call is turned down before the first write, an accepted one is of a size that has an arena
type. -/
def Unspoiled : Prop :=
  ((s.call own c).2.isRefusal → c.TurnedDown s.mgr) ∧ ((s.call own c).2.isAccepted → ¬ c.Unbracketed)

end Server

/-! ## What is written before a refusal -/

section Prepare

variable {mgr : ChallengeMgr} {c : Call}

theorem find?_addMembers {env : Env} {lobby : Lobby} {team : PlayerTeam} {queued entered : Refusal}
    {guid : Guid} (guids : List Guid) {players : OrdMap Guid PlayerTeam} (h : (players.find? guid).isSome) :
    ((addMembers env lobby team queued entered guids players).1.find? guid).isSome := by
  induction guids generalizing players with
  | nil => exact h
  | cons first guids ih =>
    unfold addMembers
    split
    · exact h
    split
    · exact h
    split
    · exact h
    · apply ih
      rw [OrdMap.find?_insert]
      split
      · rfl
      · exact h

theorem ne_empty_of_find? {players : OrdMap Guid PlayerTeam} {guid : Guid} (h : (players.find? guid).isSome) :
    players ≠ .empty := by
  rintro rfl
  rw [OrdMap.find?_empty] at h
  cases h

/-- The first member is written unless he is busy. -/
theorem addMembers_first {env : Env} {lobby : Lobby} {team : PlayerTeam} {queued entered : Refusal}
    {first : Guid} {guids : List Guid} {players : OrdMap Guid PlayerTeam} (honline : env.online first = true) :
    (lobby.isBusy first = true ∧ ∃ r, addMembers env lobby team queued entered (first :: guids) players =
        (players, some (.refused r))) ∨
      lobby.isBusy first = false ∧
        ((addMembers env lobby team queued entered (first :: guids) players).1.find? first).isSome := by
  unfold Lobby.isBusy addMembers
  rw [if_neg (by rw [honline]; exact Bool.false_ne_true)]
  cases hqueue : (lobby.player first).inBattlegroundQueue with
  | true => exact .inl ⟨rfl, _, if_pos rfl⟩
  | false =>
    cases hbg : (lobby.player first).inBattleground with
    | true => exact .inl ⟨rfl, _, rfl⟩
    | false =>
      refine .inr ⟨rfl, ?_⟩
      rw [if_neg Bool.false_ne_true, if_neg Bool.false_ne_true]
      apply find?_addMembers
      rw [OrdMap.find?_insert_self]
      rfl

theorem Call.Groups.unique {membersA membersB membersA' membersB' : List Guid} (h : c.Groups membersA membersB)
    (h' : c.Groups membersA' membersB') : membersA = membersA' ∧ membersB = membersB' := by
  obtain ⟨groupA, hA, groupB, hB, -, rfl, rfl⟩ := h
  obtain ⟨groupA', hA', groupB', hB', -, rfl, rfl⟩ := h'
  cases hA.symm.trans hA'
  cases hB.symm.trans hB'
  exact ⟨rfl, rfl⟩

theorem gather_cases (mgr : ChallengeMgr) (c : Call) :
    (∃ membersA membersB, c.Groups membersA membersB ∧
      mgr.gather c.env c.lobby c.challenger c.challenged =
        mgr.gatherGroups c.env c.lobby membersA membersB (c.lobby.player c.challenged).name) ∨
      (∀ membersA membersB, ¬ c.Groups membersA membersB) ∧
        mgr.gather c.env c.lobby c.challenger c.challenged =
          ({ mgr with
            arenaType := 2
            players := (mgr.players.insert c.challenger .teamA).insert c.challenged .teamB }, none) := by
  unfold gather
  cases hA : (c.lobby.player c.challenger).group with
  | none =>
    refine .inr ⟨?_, rfl⟩
    rintro _ _ ⟨groupA, hA', -⟩
    cases hA.symm.trans hA'
  | some groupA =>
    cases hB : (c.lobby.player c.challenged).group with
    | none =>
      refine .inr ⟨?_, rfl⟩
      rintro _ _ ⟨-, -, groupB, hB', -⟩
      cases hB.symm.trans hB'
    | some groupB =>
      by_cases hne : groupA = groupB
      · refine .inr ⟨?_, if_neg (not_not.2 hne)⟩
        rintro _ _ ⟨groupA', hA', groupB', hB', hne', -⟩
        cases hA.symm.trans hA'
        cases hB.symm.trans hB'
        exact hne' hne
      · exact .inl ⟨_, _, ⟨groupA, hA, groupB, hB, hne, rfl, rfl⟩, if_pos hne⟩

/-- What two groups leave in the manager: they are refused by their sizes, they have no
members, their first member is busy, or participants are written. -/
theorem gatherGroups_cases (env : Env) (lobby : Lobby)
    (membersA membersB : List Guid) (name : String) {mgr' : ChallengeMgr} {stop : Option Stop}
    (h : mgr.gatherGroups env lobby membersA membersB name = (mgr', stop)) :
    (membersA.length ≠ membersB.length ∨ Call.bracket mgr membersA.length = 0) ∧ mgr' = mgr ∧
        (∃ r, stop = some (.refused r)) ∨
      (membersA.length = membersB.length ∧ Call.bracket mgr membersA.length ≠ 0) ∧
        (membersA = [] ∧ stop = none ∧ mgr' = mgr ∨
          ∃ first rest, membersA = first :: rest ∧ (stop = some .undefined ∨
            lobby.isBusy first = true ∧ (∃ r, stop = some (.refused r)) ∧
              mgr' = { mgr with arenaType := Call.bracket mgr membersA.length } ∨
            lobby.isBusy first = false ∧ mgr'.players ≠ .empty)) := by
  unfold gatherGroups at h
  by_cases hlen : membersA.length = membersB.length
  · rw [if_neg (not_not.2 hlen)] at h
    change (if Call.bracket mgr membersA.length = 0 then _ else _) = _ at h
    by_cases hzero : Call.bracket mgr membersA.length = 0
    · rw [if_pos hzero] at h
      have hstale : Call.bracket mgr membersA.length = mgr.arenaType := by
        unfold Call.bracket at hzero ⊢
        split at hzero
        · next hb =>
          rw [hzero] at hb
          exact absurd hb (by decide)
        · next hb => rw [if_neg hb]
      change ({ mgr with arenaType := Call.bracket mgr membersA.length }, _) = _ at h
      rw [hstale] at h
      cases h
      exact .inl ⟨.inr hzero, rfl, _, rfl⟩
    · rw [if_neg hzero] at h
      refine .inr ⟨⟨hlen, hzero⟩, ?_⟩
      cases membersA with
      | nil =>
        rw [List.length_eq_zero_iff.1 hlen.symm] at h
        cases h
        exact .inl ⟨rfl, rfl, rfl⟩
      | cons first rest =>
        refine .inr ⟨first, rest, rfl, ?_⟩
        cases honline : env.online first with
        | false =>
          left
          dsimp only at h
          unfold addMembers at h
          rw [honline, Bool.not_false, if_pos rfl] at h
          cases h
          rfl
        | true =>
          right
          rcases @addMembers_first env lobby .teamA .memberInQueue .memberInBattleground first rest mgr.players
            honline with ⟨hbusy, r, hadd⟩ | ⟨hfree, hwritten⟩
          · dsimp only at h
            rw [hadd] at h
            cases h
            exact .inl ⟨hbusy, ⟨r, rfl⟩, rfl⟩
          · refine .inr ⟨hfree, ?_⟩
            dsimp only at h
            rcases hadd : addMembers env lobby .teamA .memberInQueue .memberInBattleground (first :: rest)
              mgr.players with ⟨players, _ | stop'⟩
            · rw [hadd] at h hwritten
              cases h
              exact ne_empty_of_find? (find?_addMembers membersB hwritten)
            · rw [hadd] at h hwritten
              cases h
              exact ne_empty_of_find? hwritten
  · rw [if_pos hlen] at h
    cases h
    exact .inl ⟨.inl hlen, rfl, _, rfl⟩

section Checked

variable (hcheck : check c.env c.lobby c.challenger c.challenged = none) {mgr₁ : ChallengeMgr}
include hcheck

theorem prepare_of_stopped {stop : Stop}
    (hgather : mgr.gather c.env c.lobby c.challenger c.challenged = (mgr₁, some stop)) :
    mgr.prepare c.env c.lobby c.challenger c.challenged c.map = (mgr₁, .error stop) := by
  unfold prepare
  rw [hcheck, hgather]

theorem prepare_of_gathered
    (hgather : mgr.gather c.env c.lobby c.challenger c.challenged = (mgr₁, none)) :
    (mgr.prepare c.env c.lobby c.challenger c.challenged c.map).1 =
      { mgr₁ with bgTypeId := arenaOfMap c.map } := by
  unfold prepare
  rw [hcheck, hgather]
  dsimp only
  split
  · rfl
  · split <;> rfl

end Checked

/-- A refusal leaves a manager without participants as it was exactly when it comes before the first write. -/
theorem prepare_eq_self_iff (hempty : mgr.players = .empty) {mgr' : ChallengeMgr} {stop : Stop}
    (h : mgr.prepare c.env c.lobby c.challenger c.challenged c.map = (mgr', .error stop))
    (hstop : stop ≠ .undefined) : mgr' = mgr ↔ c.TurnedDown mgr := by
  cases hcheck : check c.env c.lobby c.challenger c.challenged with
  | some stop' =>
    unfold prepare at h
    rw [hcheck] at h
    cases h
    exact iff_of_true rfl (.inl (by rw [hcheck]; rfl))
  | none =>
    have hwritten : mgr'.players ≠ .empty → mgr' ≠ mgr := by
      rintro hne rfl
      exact hne hempty
    have hturned {membersA membersB : List Guid} (hgroups : c.Groups membersA membersB) :
        c.TurnedDown mgr ↔ c.SizesTurnDown mgr membersA membersB := by
      unfold Call.TurnedDown
      rw [hcheck]
      constructor
      · rintro (hsome | ⟨A, B, hgroups', hsizes⟩)
        · cases hsome
        · obtain ⟨rfl, rfl⟩ := hgroups.unique hgroups'
          exact hsizes
      · exact fun hsizes => .inr ⟨_, _, hgroups, hsizes⟩
    rcases gather_cases mgr c with ⟨membersA, membersB, hgroups, hgather⟩ | ⟨hno, hgather⟩
    · rw [hturned hgroups]
      rcases hres : mgr.gatherGroups c.env c.lobby membersA membersB (c.lobby.player c.challenged).name with
        ⟨mgr₁, stop₁⟩
      rw [hres] at hgather
      rcases gatherGroups_cases _ _ _ _ _ hres with ⟨hsizes, rfl, r, rfl⟩ | ⟨⟨hlen, hbracket⟩, hmembers⟩
      · rw [prepare_of_stopped hcheck hgather] at h
        cases h
        exact iff_of_true rfl (or_assoc.1 (.inl hsizes))
      · unfold Call.SizesTurnDown
        rw [or_iff_right (not_not.2 hlen), or_iff_right hbracket]
        rcases hmembers with ⟨rfl, rfl, rfl⟩ | ⟨first, rest, rfl, rfl | ⟨hbusy, ⟨r, rfl⟩, rfl⟩ | ⟨hfree, hne⟩⟩
        · have hmgr := prepare_of_gathered hcheck hgather
          rw [h] at hmgr
          dsimp only at hmgr
          rw [hmgr]
          constructor
          · intro heq
            exact ⟨rfl, congrArg bgTypeId heq⟩
          · rintro ⟨-, heq⟩
            rw [heq]
        · rw [prepare_of_stopped hcheck hgather] at h
          cases h
          exact absurd rfl hstop
        · rw [prepare_of_stopped hcheck hgather] at h
          cases h
          constructor
          · intro heq
            exact ⟨congrArg arenaType heq, hbusy⟩
          · rintro ⟨heq, -⟩
            rw [heq]
        · refine iff_of_false (hwritten ?_) ?_
          · cases stop₁ with
            | some stop₁ =>
              rw [prepare_of_stopped hcheck hgather] at h
              cases h
              exact hne
            | none =>
              have hmgr := prepare_of_gathered hcheck hgather
              rw [h] at hmgr
              dsimp only at hmgr
              rw [hmgr]
              exact hne
          · rintro ⟨-, hbusy⟩
            exact absurd (hfree.symm.trans hbusy) Bool.false_ne_true
    · have hmgr := prepare_of_gathered hcheck hgather
      rw [h] at hmgr
      dsimp only at hmgr
      refine iff_of_false (hwritten ?_) ?_
      · rw [hmgr]
        apply ne_empty_of_find?
        dsimp only
        rw [OrdMap.find?_insert_self]
        rfl
      · rintro (hsome | ⟨A, B, hgroups, -⟩)
        · rw [hcheck] at hsome
          cases hsome
        · exact hno A B hgroups

/-- A size that has an arena type gives a manager without participants the bracket of a clean one. -/
theorem gather_clean (hempty : mgr.players = .empty) (hsize : ¬ c.Unbracketed) {mgr₁ : ChallengeMgr}
    (hgather : mgr.gather c.env c.lobby c.challenger c.challenged = (mgr₁, none)) :
    cleanupChallenge.gather c.env c.lobby c.challenger c.challenged =
      ({ mgr₁ with bgTypeId := .typeNone, bg := none }, none) := by
  rcases gather_cases mgr c with ⟨membersA, membersB, hgroups, heq⟩ | ⟨hno, heq⟩
  · rcases gather_cases cleanupChallenge c with ⟨A, B, hgroups', heq'⟩ | ⟨hno, -⟩
    · obtain ⟨rfl, rfl⟩ := hgroups.unique hgroups'
      have hsize : membersA.length ∈ [2, 3, 5] := by
        by_contra hsize'
        exact hsize ⟨_, _, hgroups, hsize'⟩
      rw [heq] at hgather
      rw [heq']
      unfold gatherGroups at hgather ⊢
      by_cases hlen : membersA.length = membersB.length
      · have hpos : membersA.length ≠ 0 := by
          intro hzero
          rw [hzero] at hsize
          exact absurd hsize (by decide)
        rw [if_neg (not_not.2 hlen)] at hgather ⊢
        simp only [if_pos hsize, if_neg hpos, hempty] at hgather ⊢
        rcases hA : addMembers c.env c.lobby .teamA .memberInQueue .memberInBattleground membersA .empty with
          ⟨players, _ | stop⟩
        · rw [hA] at hgather
          rw [show cleanupChallenge.players = .empty from rfl, hA]
          dsimp only at hgather ⊢
          rcases hB : addMembers c.env c.lobby .teamB .otherMemberInQueue .otherMemberInBattleground membersB
            players with ⟨players', stop⟩
          rw [hB] at hgather
          cases hgather
          rfl
        · rw [hA] at hgather
          cases hgather
      · rw [if_pos hlen] at hgather
        cases hgather
    · exact absurd hgroups (hno _ _)
  · rcases gather_cases cleanupChallenge c with ⟨A, B, hgroups, -⟩ | ⟨-, heq'⟩
    · exact absurd hgroups (hno _ _)
    · rw [heq, hempty] at hgather
      cases hgather
      rw [heq']
      rfl

/-- A call that a manager without participants accepts has the match of a clean one exactly when an arena type
belongs to its size. -/
theorem prepare_clean_iff (hempty : mgr.players = .empty) {mgr' : ChallengeMgr} {b : BattlegroundBracketId}
    (h : mgr.prepare c.env c.lobby c.challenger c.challenged c.map = (mgr', .ok b)) :
    (∃ mgr₂ b₂, cleanupChallenge.prepare c.env c.lobby c.challenger c.challenged c.map = (mgr₂, .ok b₂) ∧
        mgr'.players = mgr₂.players ∧
        bgQueueTypeId mgr'.bgTypeId mgr'.arenaType = bgQueueTypeId mgr₂.bgTypeId mgr₂.arenaType) ↔
      ¬ c.Unbracketed := by
  constructor
  · rintro ⟨mgr₂, b₂, hclean, -, -⟩ ⟨membersA, membersB, hgroups, hsize⟩
    rcases gather_cases cleanupChallenge c with ⟨A, B, hgroups', hgather⟩ | ⟨hno, -⟩
    · obtain ⟨rfl, rfl⟩ := hgroups.unique hgroups'
      rcases hres : cleanupChallenge.gatherGroups c.env c.lobby membersA membersB
        (c.lobby.player c.challenged).name with ⟨mgr₁, stop⟩
      rw [hres] at hgather
      have hzero : Call.bracket cleanupChallenge membersA.length = 0 := if_neg hsize
      rcases gatherGroups_cases _ _ _ _ _ hres with ⟨-, -, r, rfl⟩ | ⟨⟨-, hbracket⟩, -⟩
      · unfold prepare at hclean
        rw [hgather] at hclean
        split at hclean <;> cases hclean
      · exact hbracket hzero
    · exact hno _ _ hgroups
  · intro hsize
    unfold prepare at h ⊢
    cases hcheck : check c.env c.lobby c.challenger c.challenged with
    | some stop =>
      rw [hcheck] at h
      cases h
    | none =>
      rcases hgather : mgr.gather c.env c.lobby c.challenger c.challenged with ⟨mgr₁, _ | stop⟩
      · rw [hcheck, hgather] at h
        rw [gather_clean hempty hsize hgather]
        dsimp only at h ⊢
        split at h
        · cases h
        next htemplate =>
        rw [if_neg htemplate]
        split at h
        · cases h
        cases h
        exact ⟨_, _, rfl, rfl, rfl⟩
      · rw [hcheck, hgather] at h
        cases h

end Prepare

/-! ## One call -/

section Step

variable {own : BattlegroundQueueTypeId} {s : Server} {c : Call}

theorem call_cases (own : BattlegroundQueueTypeId) (s : Server) (c : Call) :
    (∃ mgr stop, s.mgr.prepare c.env c.lobby c.challenger c.challenged c.map =
        (mgr, .error stop) ∧ s.call own c = ({ s with mgr := mgr }, .stopped stop)) ∨
      (∃ mgr b, s.mgr.prepare c.env c.lobby c.challenger c.challenged c.map = (mgr, .ok b) ∧
        ((s.call own c).2 = .stopped .undefined ∨
          (s.call own c).1.mgr = cleanupChallenge ∧ ∃ i, (s.call own c).2 =
            .accepted ⟨i, bgQueueTypeId mgr.bgTypeId mgr.arenaType, mgr.players⟩)) := by
  unfold call handleChallenge
  rcases s.mgr.prepare c.env c.lobby c.challenger c.challenged c.map with ⟨mgr, stop | b⟩
  · exact .inl ⟨mgr, stop, rfl, rfl⟩
  · refine .inr ⟨mgr, b, rfl, ?_⟩
    cases c.env.newMatch with
    | none => exact .inl rfl
    | some new => exact .inr ⟨rfl, new.1, rfl⟩

/-- **A call to a manager without participants** leaves no trace and makes a match of its own exactly when it
is unspoiled. -/
theorem unspoiled_iff (hempty : s.mgr.players = .empty) :
    NoTrace own s c ∧ OwnMatch own s c ↔ Unspoiled own s c := by
  unfold NoTrace OwnMatch Unspoiled
  rcases call_cases own s c with ⟨mgr, stop, hprep, hcall⟩ | ⟨mgr, b, hprep, hcall | ⟨-, i, hcall⟩⟩
  · rw [hcall]
    refine and_congr (forall_congr' fun hrefused => prepare_eq_self_iff hempty hprep ?_) (iff_of_true ?_ ?_)
    · rintro rfl
      cases hrefused
    · intro m hm
      cases hm
    · intro haccepted
      cases haccepted
  · rw [hcall]
    exact and_congr (iff_of_true (nomatch ·) (nomatch ·)) (iff_of_true (fun m hm => nomatch hm) (nomatch ·))
  · rw [hcall]
    refine and_congr (iff_of_true (nomatch ·) (nomatch ·)) ?_
    rw [← prepare_clean_iff hempty hprep]
    constructor
    · exact fun h _ => h _ rfl
    · rintro h m hm
      cases hm
      exact h rfl

theorem callStep_empty (hempty : s.mgr.players = .empty) (h : NoTrace own s c) :
    (s.callStep own c).mgr.players = .empty := by
  unfold NoTrace at h
  unfold callStep
  rcases call_cases own s c with ⟨mgr, stop, -, hcall⟩ | ⟨mgr, b, -, hcall | ⟨hmgr, i, hcall⟩⟩
  · rw [hcall] at h ⊢
    cases stop with
    | undefined => rfl
    | notFound => exact (congrArg players (h rfl)).trans hempty
    | refused r => exact (congrArg players (h rfl)).trans hempty
  · rcases hout : s.call own c with ⟨s', out⟩
    rw [hout] at hcall
    subst hcall
    rfl
  · rcases hout : s.call own c with ⟨s', out⟩
    rw [hout] at hcall hmgr
    subst hcall
    exact congrArg players hmgr

end Step

/-! ## Runs -/

/-- **No refused call of a run leaves a trace, and every accepted one makes the match that a manager without
a past would make, if and only if every call is unspoiled**: whatever the manager was constructed with. -/
theorem refusals_leave_no_trace_iff (own : BattlegroundQueueTypeId) (u : Uninitialised) (queue : State)
    (cs : List Call) :
    AllSteps (callStep own) (fun s c => NoTrace own s c ∧ OwnMatch own s c) { mgr := u.mgr, queue := queue } cs ↔
      AllSteps (callStep own) (Unspoiled own) { mgr := u.mgr, queue := queue } cs :=
  -- up to the first trace the manager has no participants
  AllSteps.congr_of_kept (I := fun s : Server => s.mgr.players = .empty)
    (fun _ _ hempty hc => callStep_empty hempty hc.1) (fun _ _ hempty => unspoiled_iff hempty) rfl cs

/-! ## Two groups and two players -/

def sampleLobby : Lobby where
  player := fun guid =>
    { inBattlegroundQueue := guid = 4
      group := if guid ≤ 2 then some 1 else if guid ≤ 4 then some 2 else none }
  members := fun group => if group = 1 then [1, 2] else [3, 4]

def sampleCall : Call where
  env := Queue.sampleEnv
  lobby := sampleLobby
  challenger := 1
  challenged := 3
  map := 1

/-- A challenge of the two groups is refused because player 4 is in a queue. The participants seen
before him stay, and are in the match of players 5 and 6. -/
theorem refusal_keeps_participants :
    ¬ NoTrace .arena2v2 {} sampleCall ∧
      (call .arena2v2 {} sampleCall).2 = .stopped (.refused .otherMemberInQueue) ∧
      (call .arena2v2 {} sampleCall).1.mgr.arenaType = 2 ∧
      ∃ m, (call .arena2v2 (callStep .arena2v2 {} sampleCall)
          { sampleCall with challenger := 5, challenged := 6 }).2 = .accepted m ∧
        m.players.keys = [1, 2, 3, 5, 6] := by
  refine ⟨fun h => ?_, rfl, by decide, _, rfl, by decide⟩
  have hsame := congrArg arenaType (h rfl)
  revert hsame
  decide

end Axium.Challenge
