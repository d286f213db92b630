import Axium.Battleground.Battleground

/-!
# Battleground classes

What Arathi Basin, Eye of the Storm and Warsong Gulch share. A class derived from `Battleground` adds
data of its own, overrides `AddPlayer`, `RemovePlayer` and `PostUpdateImpl`, and has handlers of its
own; here it is a record of these functions (`Overrides`), and a `Zone` is the base object with the
derived class's data.

`RemovePlayer` is called in the middle of `RemovePlayerAtLeave`. An override reads nothing that the
rest of that function writes, so the model runs the two one beside the other. `EndBattleground` is not
virtual: the premature end in `Battleground::Update` calls the base function, the derived classes
their own, which adds honor to it.
-/

namespace Axium.Zones

open Bg Run List OrdMap Battleground

structure Zone (ζ : Type) where
  bg : Battleground
  own : ζ

/-- What a derived class overrides. `ι` is what its `PostUpdateImpl` asks of the server, `ε` its own
events. The second argument of `removePlayer` is the `Player*`, of which only `GetTeam` is read. -/
structure Overrides (ζ ι ε : Type) where
  addPlayer : Guid → ζ → ζ := fun _ z => z
  removePlayer : Status → Option Team → Guid → ζ → ζ := fun _ _ _ z => z
  postUpdateImpl : ι → Nat → Zone ζ → Zone ζ
  handle : ε → Zone ζ → Zone ζ

def findPlayer (s : Battleground) (guid : Guid) : Option Team :=
  if (s.world.player guid).online then some (s.world.player guid).team else none

/-- The players whom `Battleground::Update` removes: one of the offline queue while the match is on,
and everybody when the time after the match is over. -/
def removedBy (s : Battleground) (diff : Nat) : List Guid :=
  match s.status with
  | .inProgress => (s.roster.offlineQueue.head?.filter s.roster.players.contains).toList
  | .waitLeave => if sub32 s.endTime diff ≤ 0 then s.roster.players.keys else []
  | _ => []

inductive Event (ι ε : Type) where
  | addPlayer (guid : Guid)
  | increaseInvitedCount (t : Team)
  | decreaseInvitedCount (t : Team)
  | removePlayerAtLeave (guid : Guid)
  | eventPlayerLoggedOut (guid : Guid)
  | eventPlayerLoggedIn (guid : Guid)
  | update (input : ι) (diff : Nat)
  | handle (e : ε)

namespace Zone

variable {ζ ι ε : Type} (o : Overrides ζ ι ε) (s : Zone ζ)

def addPlayer (guid : Guid) : Zone ζ where
  bg := s.bg.addPlayer guid
  own := o.addPlayer guid s.own

def removePlayerAtLeave (guid : Guid) : Zone ζ where
  bg := s.bg.removePlayerAtLeave guid
  own := o.removePlayer s.bg.status (findPlayer s.bg guid) guid s.own

/-- `EventPlayerLoggedOut`, where the `Player*` is still valid. -/
def eventPlayerLoggedOut (guid : Guid) : Zone ζ where
  bg := s.bg.eventPlayerLoggedOut guid
  own :=
    if s.bg.roster.players.contains guid ∧ s.bg.status = .inProgress then
      o.removePlayer s.bg.status (some (s.bg.world.player guid).team) guid s.own
    else s.own

/-- `Update` up to `PostUpdateImpl`. -/
def updateBase (diff : Nat) : Zone ζ where
  bg := s.bg.update diff
  own := (removedBy s.bg diff).foldl
    (fun z guid => o.removePlayer s.bg.status (findPlayer s.bg guid) guid z) s.own

/-- `Update`. An empty battleground returns before `PostUpdateImpl`. -/
def update (input : ι) (diff : Nat) : Zone ζ :=
  if s.bg.roster.players.isEmpty then { s with bg := s.bg.update diff }
  else o.postUpdateImpl input diff (s.updateBase o diff)

/-- An `Update` that calls `PostUpdateImpl`, which finds the match in progress. -/
def Ticks (diff : Nat) : Prop :=
  s.bg.roster.players.isEmpty = false ∧ (s.bg.update diff).status = .inProgress

instance (diff : Nat) : Decidable (s.Ticks diff) := inferInstanceAs (Decidable (_ ∧ _))

def inWorld (world : World) : Zone ζ := { s with bg := { s.bg with world := world } }

def event : Event ι ε → Zone ζ
  | .addPlayer guid => s.addPlayer o guid
  | .increaseInvitedCount t => { s with bg := s.bg.increaseInvitedCount t.id }
  | .decreaseInvitedCount t => { s with bg := s.bg.decreaseInvitedCount t.id }
  | .removePlayerAtLeave guid => s.removePlayerAtLeave o guid
  | .eventPlayerLoggedOut guid => s.eventPlayerLoggedOut o guid
  | .eventPlayerLoggedIn guid => { s with bg := s.bg.eventPlayerLoggedIn guid }
  | .update input diff => s.update o input diff
  | .handle e => o.handle e s

def step (we : World × Event ι ε) : Zone ζ := (s.inWorld we.1).event o we.2

/-- `EndBattleground` of a derived class, less the honor. -/
def endBattleground (winner : Nat) : Zone ζ := { s with bg := s.bg.endBattleground winner }

end Zone

/-! ## Who is inside -/

/-- `r'` is `r` without the entries of `guids`. -/
def Removes (guids : List Guid) (r r' : Roster) : Prop :=
  ∀ guid, (guid ∈ guids → r'.players.find? guid = none) ∧
    (guid ∉ guids → r'.players.find? guid = r.players.find? guid)

theorem Removes.nil {r r' : Roster} (h : r'.players = r.players) : Removes [] r r' := by
  intro guid
  rw [h]
  exact ⟨fun hmem => absurd hmem not_mem_nil, fun _ => rfl⟩

theorem Removes.entries {guids : List Guid} {r r' : Roster} (h : Removes guids r r')
    {P : Guid → BattlegroundPlayer → Prop}
    (hr : ∀ guid p, r.players.find? guid = some p → P guid p) (guid : Guid) (p : BattlegroundPlayer)
    (hp : r'.players.find? guid = some p) : P guid p := by
  by_cases hmem : guid ∈ guids
  · rw [(h guid).1 hmem] at hp
    cases hp
  · rw [(h guid).2 hmem] at hp
    exact hr guid p hp

theorem Removes.keys {guids : List Guid} {r r' : Roster} (h : Removes guids r r') (guid : Guid)
    (hin : guid ∈ r.players.keys) (hmem : guid ∉ guids) : guid ∈ r'.players.keys := by
  rw [OrdMap.mem_keys] at hin ⊢
  rw [(h guid).2 hmem]
  exact hin

theorem find?_remove (r : Roster) (guid guid' : Guid) :
    (r.remove guid).players.find? guid' = if guid = guid' then none else r.players.find? guid' := by
  cases hp : r.players.find? guid with
  | none =>
    have hsame : r.remove guid = r := by rw [Roster.remove, hp]
    rw [hsame]
    split
    · rename_i heq
      rw [← heq]
      exact hp
    · rfl
  | some p =>
    have hplayers : (r.remove guid).players = r.players.erase guid := by rw [Roster.remove, hp]
    rw [hplayers, find?_erase]

theorem removes_foldl (guids : List Guid) (s : Battleground) :
    Removes guids s.roster (guids.foldl Battleground.removePlayerAtLeave s).roster := by
  induction guids generalizing s with
  | nil => exact .nil rfl
  | cons g guids ih =>
    intro guid
    obtain ⟨hmem, hnot⟩ := ih (s.removePlayerAtLeave g) guid
    rw [removePlayerAtLeave_roster, find?_remove] at hnot
    rw [foldl_cons]
    constructor
    · intro h
      by_cases hin : guid ∈ guids
      · exact hmem hin
      · rw [hnot hin, if_pos]
        exact ((mem_cons.1 h).resolve_right hin).symm
    · intro h
      rw [mem_cons, not_or] at h
      rw [hnot h.2, if_neg (fun heq => h.1 heq.symm)]

theorem removes_processOfflineQueue (s : Battleground) :
    Removes (s.roster.offlineQueue.head?.filter s.roster.players.contains).toList s.roster
      s.processOfflineQueue.roster := by
  unfold Battleground.processOfflineQueue
  cases s.roster.offlineQueue with
  | nil => exact .nil rfl
  | cons g rest =>
    by_cases hg : s.roster.players.contains g = true
    · have hone := removes_foldl [g] s
      simp only [head?_cons]
      rw [Option.filter_some_pos hg, if_pos hg]
      exact hone
    · simp only [head?_cons]
      rw [Option.filter_some_neg (Bool.not_eq_true _ ▸ hg), if_neg hg]
      exact .nil rfl

theorem removes_processLeave (s : Battleground) (diff : Nat) :
    Removes (if sub32 s.endTime diff ≤ 0 then s.roster.players.keys else []) s.roster
      (s.processLeave diff).roster := by
  unfold Battleground.processLeave
  simp only
  split
  · exact removes_foldl s.roster.players.keys { s with endTime := 0 }
  · exact .nil rfl

theorem update_roster_of_isEmpty {s : Battleground} (h : s.roster.players.isEmpty = true) (diff : Nat) :
    (s.update diff).roster = s.roster := by
  rw [Battleground.update, if_pos h]
  split
  · rfl
  · rfl

theorem removes_update (s : Battleground) (diff : Nat) :
    Removes (removedBy s diff) s.roster (s.update diff).roster := by
  cases hempty : s.roster.players.isEmpty with
  | true =>
    intro guid
    rw [update_roster_of_isEmpty hempty, isEmpty_iff.1 hempty guid]
    exact ⟨fun _ => rfl, fun _ => rfl⟩
  | false =>
    have hne : ¬ s.roster.players.isEmpty = true := by
      rw [hempty]
      exact Bool.false_ne_true
    rw [Battleground.update, if_neg hne, removedBy]
    cases hst : s.status with
    | waitJoin =>
      apply Removes.nil
      change (s.processJoin diff).roster.players = _
      rw [processJoin_roster]
    | inProgress =>
      have hoff := removes_processOfflineQueue s
      simp only
      split
      · split
        · exact hoff
        · exact hoff
      · change Removes _ s.roster ((s.processOfflineQueue).updateProgress diff).roster
        rw [updateProgress_roster]
        exact hoff
    | waitLeave => exact removes_processLeave s diff
    | none => exact .nil rfl
    | waitQueue => exact .nil rfl

/-! ## The end of a match -/

/-- The `m_Winner` that `EndBattleground` stores. -/
def winnerOf (winner : Nat) : Nat :=
  if winner = Team.alliance.id then 1 else if winner = Team.horde.id then 0 else 3

/-- What a part of the code does to the result of the match: nothing, and a match that is over stays
over, or it ends a match that was not over. -/
structure EndsOnce (s s' : Battleground) : Prop where
  config : s'.config = s.config
  result :
    (s'.endings = s.endings ∧ s'.winner = s.winner ∧ (s.status = .waitLeave → s'.status = .waitLeave)) ∨
    (s.status ≠ .waitLeave ∧ s'.status = .waitLeave ∧
      ∃ w, s'.endings = s.endings ++ [w] ∧ s'.winner = winnerOf w)

namespace EndsOnce

variable {s s' s'' : Battleground}

theorem of_frame (hc : s'.config = s.config) (he : s'.endings = s.endings)
    (hw : s'.winner = s.winner) (hst : s'.status = s.status) : EndsOnce s s' :=
  ⟨hc, .inl ⟨he, hw, fun h => hst.trans h⟩⟩

theorem refl (s : Battleground) : EndsOnce s s := of_frame rfl rfl rfl rfl

theorem endBattleground (hst : s.status ≠ .waitLeave) (w : Nat) : EndsOnce s (s.endBattleground w) :=
  ⟨rfl, .inr ⟨hst, rfl, w, rfl, rfl⟩⟩

theorem trans (h : EndsOnce s s') (h' : EndsOnce s' s'') : EndsOnce s s'' := by
  refine ⟨h'.config.trans h.config, ?_⟩
  rcases h.result with ⟨he, hw, hst⟩ | ⟨hst, hst', w, he, hw⟩
  · rcases h'.result with ⟨he', hw', hst'⟩ | ⟨hne, hst'', w, he', hw'⟩
    · exact .inl ⟨he'.trans he, hw'.trans hw, fun h => hst' (hst h)⟩
    · refine .inr ⟨fun h => hne (hst h), hst'', w, ?_, hw'⟩
      rw [he', he]
  · rcases h'.result with ⟨he', hw', hst''⟩ | ⟨hne, -⟩
    · refine .inr ⟨hst, hst'' hst', w, ?_, ?_⟩
      · rw [he', he]
      · rw [hw', hw]
    · exact absurd hst' hne

theorem length_le (h : EndsOnce s s') : s.endings.length ≤ s'.endings.length := by
  rcases h.result with ⟨he, -⟩ | ⟨-, -, w, he, -⟩
  · rw [he]
  · rw [he, length_append]
    exact Nat.le_add_right ..

theorem twice (h : EndsOnce s s') (w w' : Nat) :
    ((s'.endBattleground w).endBattleground w').config = s.config ∧
      s.endings.length + 2 ≤ ((s'.endBattleground w).endBattleground w').endings.length := by
  have hlen := h.length_le
  refine ⟨h.config, ?_⟩
  simp only [Battleground.endBattleground, List.length_append, List.length_cons, List.length_nil]
  omega

end EndsOnce

structure SameResult (s s' : Battleground) : Prop where
  endings : s'.endings = s.endings
  winner : s'.winner = s.winner
  status : s'.status = s.status
  config : s'.config = s.config

namespace SameResult

variable {s s' s'' : Battleground}

theorem refl (s : Battleground) : SameResult s s := ⟨rfl, rfl, rfl, rfl⟩

theorem trans (h : SameResult s s') (h' : SameResult s' s'') : SameResult s s'' :=
  ⟨h'.endings.trans h.endings, h'.winner.trans h.winner, h'.status.trans h.status,
    h'.config.trans h.config⟩

theorem endsOnce (h : SameResult s s') : EndsOnce s s' := .of_frame h.config h.endings h.winner h.status

theorem decreaseInvitedCount (ha : s.config.isArena = false) (teamId : Nat) :
    SameResult s (s.decreaseInvitedCount teamId) := by
  have hdecr : SameResult s (s.decrInvited teamId) := ⟨rfl, rfl, rfl, rfl⟩
  have ha' : ¬ (s.decrInvited teamId).config.isArena = true := by
    rw [hdecr.config, ha]
    exact Bool.false_ne_true
  unfold Battleground.decreaseInvitedCount checkEndConditions
  rw [if_neg ha', ite_self]
  exact hdecr

theorem removePlayer (ha : s.config.isArena = false) : s.removePlayer = s := by
  unfold Battleground.removePlayer
  rw [if_neg]
  intro h
  rw [ha] at h
  exact Bool.false_ne_true h.1

theorem addToBGFreeSlotQueue (s : Battleground) : SameResult s s.addToBGFreeSlotQueue := by
  unfold Battleground.addToBGFreeSlotQueue
  split
  · exact ⟨rfl, rfl, rfl, rfl⟩
  · exact refl s

section

variable (ha : s.config.isArena = false)
include ha

theorem removePlayerAtLeave (guid : Guid) : SameResult s (s.removePlayerAtLeave guid) := by
  have htake : SameResult s (s.takeOff guid) := ⟨rfl, rfl, rfl, rfl⟩
  have ha' : (s.takeOff guid).config.isArena = false := ha
  have hdecr := htake.trans (decreaseInvitedCount ha' (s.leaverTeam guid))
  unfold Battleground.removePlayerAtLeave
  rw [removePlayer ha']
  simp only
  split
  · split
    · exact hdecr.trans (addToBGFreeSlotQueue _)
    · exact hdecr
  · exact htake

theorem checkLastStanding (guid : Guid) : s.checkLastStanding guid = s := by
  unfold Battleground.checkLastStanding
  simp only
  rw [if_neg]
  intro h
  exact absurd (ha.symm.trans h.1) Bool.false_ne_true

theorem eventPlayerLoggedOut (guid : Guid) : SameResult s (s.eventPlayerLoggedOut guid) := by
  have ha' : { s with roster := s.roster.logOut guid (s.world.gameTime + maxOfflineTime) }.config.isArena
      = false := ha
  unfold Battleground.eventPlayerLoggedOut
  split
  · simp only
    split
    · rw [removePlayer ha', checkLastStanding ha']
      exact ⟨rfl, rfl, rfl, rfl⟩
    · exact ⟨rfl, rfl, rfl, rfl⟩
  · exact refl s

theorem processOfflineQueue : SameResult s s.processOfflineQueue := by
  unfold Battleground.processOfflineQueue
  split
  · exact refl s
  · split
    · have h := removePlayerAtLeave ha ‹Guid›
      exact ⟨h.endings, h.winner, h.status, h.config⟩
    · exact refl s

end

theorem foldl_removePlayerAtLeave (guids : List Guid) (ha : s.config.isArena = false) :
    SameResult s (guids.foldl Battleground.removePlayerAtLeave s) := by
  induction guids generalizing s with
  | nil => exact refl s
  | cons guid guids ih =>
    have h := removePlayerAtLeave ha guid
    exact h.trans (ih (by rw [h.config, ha]))

theorem processLeave (ha : s.config.isArena = false) (diff : Nat) : SameResult s (s.processLeave diff) := by
  unfold Battleground.processLeave
  simp only
  split
  · have h := foldl_removePlayerAtLeave (s := { s with endTime := 0 }) s.roster.players.keys ha
    exact ⟨h.endings, h.winner, h.status, h.config⟩
  · exact ⟨rfl, rfl, rfl, rfl⟩

end SameResult

namespace EndsOnce

variable {s : Battleground}

theorem updateProgress (hst : s.status = .inProgress) (diff : Nat) : EndsOnce s (s.updateProgress diff) := by
  unfold Battleground.updateProgress processProgress
  split
  · split
    · exact .of_frame rfl rfl rfl rfl
    · split
      · refine ⟨rfl, .inr ⟨?_, rfl, _, rfl, rfl⟩⟩
        rw [hst]
        decide
      · split
        · exact .of_frame rfl rfl rfl rfl
        · exact refl s
  · exact .of_frame rfl rfl rfl rfl

theorem processJoin (ha : s.config.isArena = false) (hst : s.status = .waitJoin) (diff : Nat) :
    EndsOnce s (s.processJoin diff) := by
  have hne : ¬ s.status = .waitLeave := by
    rw [hst]
    decide
  unfold Battleground.processJoin
  simp only
  split
  · split
    · exact .of_frame rfl rfl rfl rfl
    · exact ⟨rfl, .inl ⟨rfl, rfl, fun h => absurd h hne⟩⟩
  · split
    · exact .of_frame rfl rfl rfl rfl
    · split
      · exact .of_frame rfl rfl rfl rfl
      · split
        · rw [if_neg (by rw [ha]; exact Bool.false_ne_true)]
          exact ⟨rfl, .inl ⟨rfl, rfl, fun h => absurd h hne⟩⟩
        · exact .of_frame rfl rfl rfl rfl

theorem addDuration (s : Battleground) (diff : Nat) : EndsOnce s (s.addDuration diff) :=
  .of_frame rfl rfl rfl rfl

theorem update (ha : s.config.isArena = false) (diff : Nat) : EndsOnce s (s.update diff) := by
  unfold Battleground.update
  split
  · split
    · exact .of_frame rfl rfl rfl rfl
    · exact refl s
  · split
    · rename_i hst
      exact (processJoin ha hst diff).trans (addDuration ..)
    · rename_i hst
      have hoff := SameResult.processOfflineQueue ha
      have ha' : ¬ s.processOfflineQueue.config.isArena = true := by
        rw [hoff.config, ha]
        exact Bool.false_ne_true
      simp only
      rw [if_neg ha']
      exact hoff.endsOnce.trans ((updateProgress (hoff.status.trans hst) diff).trans (addDuration ..))
    · exact (SameResult.processLeave ha diff).endsOnce.trans (addDuration ..)
    · exact addDuration ..

end EndsOnce

section Steps

variable {ζ ι ε : Type} {o : Overrides ζ ι ε}

theorem update_of_nonempty {s : Zone ζ} (h : s.bg.roster.players.isEmpty = false) (input : ι) (diff : Nat) :
    s.update o input diff = o.postUpdateImpl input diff (s.updateBase o diff) := by
  rw [Zone.update, if_neg]
  rw [h]
  exact Bool.false_ne_true

theorem update_endsOnce {s : Zone ζ} {input : ι} {diff : Nat} (ha : s.bg.config.isArena = false)
    (hpost : s.bg.roster.players.isEmpty = false →
      EndsOnce (s.updateBase o diff).bg (o.postUpdateImpl input diff (s.updateBase o diff)).bg) :
    EndsOnce s.bg (s.update o input diff).bg := by
  have hbase : EndsOnce s.bg (s.bg.update diff) := .update ha diff
  cases hempty : s.bg.roster.players.isEmpty with
  | true =>
    rw [Zone.update, if_pos hempty]
    exact hbase
  | false =>
    rw [update_of_nonempty hempty]
    exact hbase.trans (hpost hempty)

theorem event_endsOnce {s : Zone ζ} {e : Event ι ε} (ha : s.bg.config.isArena = false)
    (hhandle : ∀ e, EndsOnce s.bg (o.handle e s).bg)
    (hpost : ∀ input diff, e = .update input diff → s.bg.roster.players.isEmpty = false →
      EndsOnce (s.updateBase o diff).bg (o.postUpdateImpl input diff (s.updateBase o diff)).bg) :
    EndsOnce s.bg (s.event o e).bg := by
  cases e with
  | addPlayer guid => exact .of_frame rfl rfl rfl rfl
  | increaseInvitedCount t => exact .of_frame rfl rfl rfl rfl
  | decreaseInvitedCount t => exact (SameResult.decreaseInvitedCount ha t.id).endsOnce
  | removePlayerAtLeave guid => exact (SameResult.removePlayerAtLeave ha guid).endsOnce
  | eventPlayerLoggedOut guid => exact (SameResult.eventPlayerLoggedOut ha guid).endsOnce
  | eventPlayerLoggedIn guid => exact .of_frame rfl rfl rfl rfl
  | update input diff => exact update_endsOnce ha (hpost input diff rfl)
  | handle e => exact hhandle e

end Steps

/-! ## The course of a match -/

/-- What the callers of the base class see to: only somebody who is not inside is added, and only a
participant of a match that is not over logs in. -/
def Admissible {ζ ι ε : Type} (s : Zone ζ) : Event ι ε → Prop
  | .addPlayer guid => guid ∉ s.bg.roster.players.keys
  | .eventPlayerLoggedIn guid => guid ∈ s.bg.roster.players.keys ∧ s.bg.status ≠ .waitLeave
  | _ => True

instance {ζ ι ε : Type} (s : Zone ζ) : ∀ e : Event ι ε, Decidable (Admissible s e)
  | .addPlayer _ => inferInstanceAs (Decidable (¬ _))
  | .eventPlayerLoggedIn _ => inferInstanceAs (Decidable (_ ∧ _))
  | .increaseInvitedCount _ | .decreaseInvitedCount _ | .removePlayerAtLeave _
  | .eventPlayerLoggedOut _ | .update _ _ | .handle _ => isTrue trivial

def Began (s : Battleground) : Prop := s.status = .inProgress ∨ s.status = .waitLeave

structure OnlyEnds (s s' : Battleground) : Prop where
  roster : s'.roster = s.roster
  config : s'.config = s.config
  status : s'.status = s.status ∨ s'.status = .waitLeave

namespace OnlyEnds

variable {s s' s'' : Battleground}

theorem refl (s : Battleground) : OnlyEnds s s := ⟨rfl, rfl, .inl rfl⟩

theorem endBattleground (s : Battleground) (w : Nat) : OnlyEnds s (s.endBattleground w) :=
  ⟨rfl, rfl, .inr rfl⟩

theorem trans (h : OnlyEnds s s') (h' : OnlyEnds s' s'') : OnlyEnds s s'' := by
  refine ⟨h'.roster.trans h.roster, h'.config.trans h.config, ?_⟩
  rcases h'.status with heq | hover
  · rw [heq]
    exact h.status
  · exact .inr hover

theorem began (h : OnlyEnds s s') (hs : Began s) : Began s' := by
  rcases h.status with heq | hover
  · rw [Began, heq]
    exact hs
  · exact .inr hover

theorem inProgress (h : OnlyEnds s s') (hs' : s'.status = .inProgress) : s.status = .inProgress := by
  rcases h.status with heq | hover
  · exact heq.symm.trans hs'
  · rw [hs'] at hover
    cases hover

end OnlyEnds

theorem updateProgress_onlyEnds (s : Battleground) (diff : Nat) : OnlyEnds s (s.updateProgress diff) := by
  unfold Battleground.updateProgress processProgress
  split
  · split
    · exact ⟨rfl, rfl, .inl rfl⟩
    · split
      · exact ⟨rfl, rfl, .inr rfl⟩
      · split
        · exact ⟨rfl, rfl, .inl rfl⟩
        · exact .refl s
  · exact ⟨rfl, rfl, .inl rfl⟩

theorem update_status {s : Battleground} (ha : s.config.isArena = false)
    (hst : s.status = .inProgress) (diff : Nat) :
    (s.update diff).status = .inProgress ∨ (s.update diff).status = .waitLeave := by
  unfold Battleground.update
  split
  · split
    · exact .inl hst
    · exact .inl hst
  · have hoff := SameResult.processOfflineQueue ha
    have ha' : ¬ s.processOfflineQueue.config.isArena = true := by
      rw [hoff.config, ha]
      exact Bool.false_ne_true
    simp only [hst]
    rw [if_neg ha']
    change (s.processOfflineQueue.updateProgress diff).status = _ ∨
      (s.processOfflineQueue.updateProgress diff).status = _
    rcases (updateProgress_onlyEnds s.processOfflineQueue diff).status with heq | hover
    · exact .inl (heq.trans (hoff.status.trans hst))
    · exact .inr hover

structure Advances (s s' : Battleground) : Prop where
  config : s'.config = s.config
  began : Began s → Began s'
  ended : s.status = .waitLeave → s'.status = .waitLeave

theorem OnlyEnds.advances {s s' : Battleground} (h : OnlyEnds s s') : Advances s s' where
  config := h.config
  began := h.began
  ended hs := by
    rcases h.status with heq | hover
    · exact heq.trans hs
    · exact hover

theorem SameResult.advances {s s' : Battleground} (h : SameResult s s') : Advances s s' where
  config := h.config
  began hs := by
    rw [Began, h.status]
    exact hs
  ended hs := h.status.trans hs

theorem Advances.refl (s : Battleground) : Advances s s := (OnlyEnds.refl s).advances

theorem advances_update {s : Battleground} (ha : s.config.isArena = false) (diff : Nat) :
    Advances s (s.update diff) := by
  have hover (hst : s.status = .waitLeave) : (s.update diff).status = .waitLeave := by
    rcases (EndsOnce.update ha diff).result with ⟨-, -, hover⟩ | ⟨hne, -⟩
    · exact hover hst
    · exact absurd hst hne
  refine ⟨(EndsOnce.update ha diff).config, fun hs => ?_, hover⟩
  rcases hs with hst | hst
  · exact update_status ha hst diff
  · exact .inr (hover hst)

theorem find?_loggedOut (s : Battleground) (guid guid' : Guid) :
    (s.eventPlayerLoggedOut guid).roster.players.find? guid' =
      (s.roster.players.find? guid').map (fun p =>
        if guid = guid' then { p with offlineRemoveTime := s.world.gameTime + maxOfflineTime }
        else p) := by
  have hroster : (s.eventPlayerLoggedOut guid).roster = if s.roster.players.contains guid then
        s.roster.logOut guid (s.world.gameTime + maxOfflineTime)
      else s.roster := by
    unfold Battleground.eventPlayerLoggedOut
    split
    · simp only
      split
      · rw [checkLastStanding_roster, removePlayer_roster]
      · rfl
    · rfl
  rw [hroster]
  by_cases hg : guid = guid'
  · subst hg
    simp only [if_pos]
    split
    · change (s.roster.players.modify guid _).find? guid = _
      rw [find?_modify, if_pos rfl]
    · rename_i hmem
      have hnone : s.roster.players.find? guid = none :=
        find?_eq_none.2 (fun hin => hmem (contains_iff.2 hin))
      rw [hnone, Option.map_none]
  · simp only [if_neg hg, Option.map_id']
    split
    · change (s.roster.players.modify guid _).find? guid' = _
      rw [find?_modify, if_neg hg]
    · rfl

theorem find?_loggedIn (s : Battleground) (guid guid' : Guid) :
    (s.eventPlayerLoggedIn guid).roster.players.find? guid' =
      if guid = guid' then some { (s.roster.players.find? guid).getD {} with offlineRemoveTime := 0 }
      else s.roster.players.find? guid' :=
  find?_insert ..

/-! ## Whole runs -/

section Runs

variable {ζ η : Type} (step : Zone ζ → η → Zone ζ)

/-- In the run, `EndBattleground` is executed at most once, at most one team is rewarded as the winner,
and the stored winner does not change once the match has ended. -/
def EndedAtMostOnce (s : Zone ζ) (es : List η) : Prop :=
  (run step s es).bg.endings.length ≤ 1 ∧
  (∀ t t' : Team, t.id ∈ (run step s es).bg.endings → t'.id ∈ (run step s es).bg.endings → t = t') ∧
  ∀ before after, es = before ++ after → (run step s before).bg.endings ≠ [] →
    (run step s es).bg.winner = (run step s before).bg.winner

variable {step} {P : Zone ζ → η → Prop}

theorem run_endsOnce (hstep : ∀ s e, s.bg.config.isArena = false → P s e → EndsOnce s.bg (step s e).bg)
    {s : Zone ζ} {es : List η} (ha : s.bg.config.isArena = false) (h : AllSteps step P s es) :
    EndsOnce s.bg (run step s es).bg := by
  induction es generalizing s with
  | nil => exact .refl _
  | cons e es ih =>
    have hone := hstep s e ha h.1
    exact hone.trans (ih (by rw [hone.config, ha]) h.2)

theorem EndsOnce.waitLeave {s s' : Battleground} (h : EndsOnce s s') (hs : s.endings = [])
    (hs' : s'.endings ≠ []) : s'.status = .waitLeave := by
  rcases h.result with ⟨he, -⟩ | ⟨-, hst, -⟩
  · exact absurd (he.trans hs) hs'
  · exact hst

theorem EndsOnce.winner_eq {s s' : Battleground} (h : EndsOnce s s') (hs : s.status = .waitLeave) :
    s'.winner = s.winner := by
  rcases h.result with ⟨-, hw, -⟩ | ⟨hne, -⟩
  · exact hw
  · exact absurd hs hne

theorem EndsOnce.endings_le_one {s s' : Battleground} (h : EndsOnce s s') (hs : s.endings = []) :
    s'.endings.length ≤ 1 := by
  rcases h.result with ⟨he, -⟩ | ⟨-, -, w, he, -⟩
  · rw [he, hs]
    exact Nat.zero_le _
  · rw [he, hs]
    exact le_refl _

theorem endedAtMostOnce_of_allSteps
    (hstep : ∀ s e, s.bg.config.isArena = false → P s e → EndsOnce s.bg (step s e).bg)
    {s : Zone ζ} {es : List η} (ha : s.bg.config.isArena = false) (hs : s.bg.endings = [])
    (h : AllSteps step P s es) : EndedAtMostOnce step s es := by
  have hrun := run_endsOnce hstep ha h
  refine ⟨hrun.endings_le_one hs, ?_, ?_⟩
  · intro t t' ht ht'
    obtain ⟨w, hw⟩ : ∃ w, ∀ x ∈ (run step s es).bg.endings, x = w := by
      rcases hrun.result with ⟨he, -⟩ | ⟨-, -, w, he, -⟩
      · refine ⟨0, fun x hx => ?_⟩
        rw [he, hs] at hx
        cases hx
      · refine ⟨w, fun x hx => ?_⟩
        rw [he, hs] at hx
        exact mem_singleton.1 hx
    exact Team.id_injective ((hw _ ht).trans (hw _ ht').symm)
  · rintro before after rfl hne
    obtain ⟨hbefore, hafter⟩ := allSteps_append.1 h
    have hfirst := run_endsOnce hstep ha hbefore
    have hover := hfirst.waitLeave hs hne
    rw [run_append]
    exact (run_endsOnce hstep (by rw [hfirst.config, ha]) hafter).winner_eq hover

theorem endedAtMostOnce_iff (hstep : ∀ s e, s.bg.config.isArena = false → P s e → EndsOnce s.bg (step s e).bg)
    (htwice : ∀ s e, s.bg.config.isArena = false → ¬ P s e →
      (step s e).bg.config = s.bg.config ∧ s.bg.endings.length + 2 ≤ (step s e).bg.endings.length)
    {s : Zone ζ} (ha : s.bg.config.isArena = false) (hs : s.bg.endings = []) (es : List η) :
    EndedAtMostOnce step s es ↔ AllSteps step P s es := by
  have hmono : ∀ (es : List η) (s : Zone ζ), s.bg.config.isArena = false →
      s.bg.endings.length ≤ (run step s es).bg.endings.length := by
    intro es
    induction es with
    | nil => exact fun s _ => le_refl _
    | cons e es ih =>
      intro s ha
      by_cases hP : P s e
      · have hone := hstep s e ha hP
        exact hone.length_le.trans (ih _ (by rw [hone.config, ha]))
      · obtain ⟨hc, htwo⟩ := htwice s e ha hP
        have hrest := ih (step s e) (by rw [hc, ha])
        rw [run_cons]
        omega
  constructor
  · intro h
    have hlen := h.1
    clear h hs
    induction es generalizing s with
    | nil => trivial
    | cons e es ih =>
      by_cases hP : P s e
      · exact ⟨hP, ih (by rw [(hstep s e ha hP).config, ha]) hlen⟩
      · obtain ⟨hc, htwo⟩ := htwice s e ha hP
        have hrest := hmono es (step s e) (by rw [hc, ha])
        rw [run_cons] at hlen
        omega
  · exact endedAtMostOnce_of_allSteps hstep ha hs

end Runs

end Axium.Zones
