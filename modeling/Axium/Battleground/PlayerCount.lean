import Axium.Battleground.Battleground

/-!
# The player count of a side

`m_PlayersCount` is updated beside `m_Players`, and `m_OfflineQueue` beside both. The three agree
(`Consistent`) after every run in which a player's departure, log-in and log-out find the offline
queue as they expect it (`RosterSafe`, `roster_consistent`). They do not in general:
`RemovePlayerAtLeave` does not take the player out of the offline queue, a second log-out queues
him twice, and a log-in of a player who is not inside creates an entry without a team.
-/

namespace Axium.Bg

open Run List OrdMap Battleground

/-- The count of a side is the number of its entries, a player who can be removed has a count to be
taken from, and whoever is in the offline queue is inside. -/
structure Consistent (s : Battleground) : Prop where
  count_eq : ∀ t : Team, s.getPlayersCountByTeam t.id = s.roster.players.count fun _ p => p.team = t.id
  count_pos : ∀ guid p, s.roster.players.find? guid = some p → 0 < s.getPlayersCountByTeam p.team
  offline_mem : ∀ guid ∈ s.roster.offlineQueue, guid ∈ s.roster.players.keys

/-- What the callers promise: `AddPlayer` is called for a player who is not inside, and his guid is
one that `GenerateLowGuid` gave out. -/
def Admissible (s : Battleground) : Event → Prop
  | .addPlayer guid => guid ∉ s.roster.players.keys ∧ guid < maxPlayerGuid
  | _ => True

/-- The step finds the offline queue as it expects it: nobody leaves or logs out who is queued, only
a player inside logs in, and the match is not cleared while somebody is queued. -/
def RosterSafe (s : Battleground) : Event → Prop
  | .removePlayerAtLeave guid => guid ∉ s.roster.offlineQueue
  | .eventPlayerLoggedOut guid => guid ∉ s.roster.offlineQueue
  | .eventPlayerLoggedIn guid => guid ∈ s.roster.players.keys
  | .update diff => s.status = .waitLeave → sub32 s.endTime diff ≤ 0 → s.roster.offlineQueue = []
  | _ => True

/-! ## The roster -/

theorem count_setTime (q : Guid → Nat → Bool) {players : OrdMap Guid BattlegroundPlayer}
    {guid : Guid} {p : BattlegroundPlayer} (hp : players.find? guid = some p) (time : Nat) :
    (players.insert guid { p with offlineRemoveTime := time }).count (fun g p => q g p.team) =
      players.count fun g p => q g p.team := by
  have := count_insert_old { p with offlineRemoveTime := time }
    (fun g (p : BattlegroundPlayer) => q g p.team) hp
  exact add_right_cancel this

theorem count_logOut (q : Guid → Nat → Bool) (r : Roster) (guid : Guid) (time : Nat) :
    (r.logOut guid time).players.count (fun g p => q g p.team) = r.players.count fun g p => q g p.team := by
  unfold Roster.logOut OrdMap.modify
  cases hp : r.players.find? guid with
  | none => rfl
  | some p => exact count_setTime q hp time

/-- The invariant: entries with a team, counts that match, and a queue without repetition of
players inside. -/
structure Roster.WF (r : Roster) : Prop where
  team : ∀ guid p, r.players.find? guid = some p → ∃ t : Team, p.team = t.id
  bound : ∀ guid ∈ r.players.keys, guid < maxPlayerGuid
  count_eq : ∀ t : Team, r.playersCount.get t = r.players.count fun _ p => p.team = t.id
  nodup : r.offlineQueue.Nodup
  offline_mem : ∀ guid ∈ r.offlineQueue, guid ∈ r.players.keys

namespace Roster.WF

variable {r : Roster} {guid : Guid}

theorem empty : WF {} where
  team := by simp
  bound := by simp [OrdMap.keys, OrdMap.empty]
  count_eq t := by cases t <;> rfl
  nodup := nodup_nil
  offline_mem := by simp

section

variable (h : r.WF)
include h

theorem size_lt : r.players.size ≤ maxPlayerGuid := by
  have hsub : r.players.keys ⊆ range maxPlayerGuid := fun k hk => mem_range.2 (h.bound k hk)
  have hlen := (subperm_of_subset r.players.keys_nodup hsub).length_le
  simpa [OrdMap.keys, OrdMap.size] using hlen

theorem count_le (t : Team) : r.playersCount.get t ≤ maxPlayerGuid := by
  rw [h.count_eq]
  exact (count_le_size _ _).trans h.size_lt

theorem add (hnew : guid ∉ r.players.keys) (hlt : guid < maxPlayerGuid) (t : Team) : (r.add guid t).WF where
  team g p hg := by
    rw [Roster.add, find?_insert] at hg
    split at hg
    · cases hg
      exact ⟨t, rfl⟩
    · exact h.team g p hg
  bound g hg := by
    rcases mem_keys_insert.1 hg with rfl | hg
    · exact hlt
    · exact h.bound g hg
  count_eq t' := by
    have hfind : r.players.find? guid = none := find?_eq_none.2 hnew
    have hle := h.count_le t
    simp only [Roster.add, PerTeam.get_set]
    rw [count_insert_new _ hfind, ← h.count_eq t']
    split
    · rename_i heq
      subst heq
      rw [incr32_of_lt (by unfold maxPlayerGuid at hle; omega)]
      simp
    · rename_i hne
      simp [hne]
  nodup := h.nodup
  offline_mem g hg := mem_keys_insert.2 (.inr (h.offline_mem g hg))

theorem count_pos {p : BattlegroundPlayer} (hp : r.players.find? guid = some p) :
    0 < r.playersCount.get (teamIndex p.team) := by
  obtain ⟨t, ht⟩ := h.team guid p hp
  rw [ht, h.count_eq, count_erase _ hp]
  simp [ht]

theorem remove (hq : guid ∉ r.offlineQueue) : (r.remove guid).WF := by
  unfold Roster.remove
  cases hp : r.players.find? guid with
  | none => exact h
  | some p =>
    obtain ⟨t, ht⟩ := h.team guid p hp
    refine ⟨fun g q hg => ?_, fun g hg => ?_, fun t' => ?_, h.nodup, fun g hg => ?_⟩
    · rw [find?_erase] at hg
      split at hg
      · cases hg
      · exact h.team g q hg
    · exact h.bound g (mem_keys_erase.1 hg).2
    · have hpos := h.count_pos hp
      have hle := h.count_le t
      have hcount := h.count_eq t'
      rw [count_erase _ hp] at hcount
      rw [ht, teamIndex_id] at hpos
      simp only [ht, teamIndex_id, PerTeam.get_set] at hcount ⊢
      split
      · rename_i heq
        subst heq
        rw [decr32_of_pos hpos (by unfold maxPlayerGuid at hle; omega), hcount]
        simp
      · rename_i hne
        rw [hcount]
        simp [hne]
    · refine mem_keys_erase.2 ⟨fun heq => hq (heq ▸ hg), h.offline_mem g hg⟩

theorem setTime {p : BattlegroundPlayer} (hp : r.players.find? guid = some p)
    (time : Nat) {queue : List Guid} (hnd : queue.Nodup)
    (hmem : ∀ g ∈ queue, g ∈ r.players.keys) :
    WF { r with
      players := r.players.insert guid { p with offlineRemoveTime := time }
      offlineQueue := queue } where
  team g q hg := by
    rw [find?_insert] at hg
    split at hg
    · cases hg
      exact h.team guid p hp
    · exact h.team g q hg
  bound g hg := by
    rcases mem_keys_insert.1 hg with rfl | hg
    · exact h.bound _ (mem_keys.2 ⟨p, hp⟩)
    · exact h.bound g hg
  count_eq t := by
    rw [count_setTime (fun _ team => decide (team = t.id)) hp]
    exact h.count_eq t
  nodup := hnd
  offline_mem g hg := mem_keys_insert.2 (.inr (hmem g hg))

theorem logIn (hmem : guid ∈ r.players.keys) : (r.logIn guid).WF := by
  obtain ⟨p, hp⟩ := mem_keys.1 hmem
  simp only [Roster.logIn, hp, Option.getD_some]
  exact h.setTime hp 0 (h.nodup.erase guid) fun g hg => h.offline_mem g (mem_of_mem_erase hg)

theorem logOut (hmem : guid ∈ r.players.keys) (hq : guid ∉ r.offlineQueue)
    (time : Nat) : (r.logOut guid time).WF := by
  obtain ⟨p, hp⟩ := mem_keys.1 hmem
  simp only [Roster.logOut, OrdMap.modify, hp]
  refine h.setTime hp time ?_ ?_
  · exact nodup_append.2 ⟨h.nodup, by simp, by
      rintro g hg _ hg' rfl
      rw [mem_singleton.1 hg'] at hg
      exact hq hg⟩
  · intro g hg
    rcases mem_append.1 hg with hg | hg
    · exact h.offline_mem g hg
    · rwa [mem_singleton.1 hg]

theorem removeHead {rest : List Guid} (hq : r.offlineQueue = guid :: rest) :
    WF { r.remove guid with offlineQueue := rest } := by
  have hnd := h.nodup
  rw [hq, nodup_cons] at hnd
  have htail : WF { r with offlineQueue := rest } :=
    ⟨h.team, h.bound, h.count_eq, hnd.2, fun g hg => h.offline_mem g (by simp [hq, hg])⟩
  have : (Roster.remove { r with offlineQueue := rest } guid).WF := htail.remove hnd.1
  unfold Roster.remove at this ⊢
  cases hp : r.players.find? guid with
  | none => simpa [hp] using this
  | some p => simpa [hp] using this

end

end Roster.WF

/-! ## Runs -/

section Step

variable {s : Battleground}

theorem processOfflineQueue_wf (h : s.roster.WF) : s.processOfflineQueue.roster.WF := by
  unfold processOfflineQueue
  split
  · exact h
  · rename_i guid rest hq
    split
    · simp only [removePlayerAtLeave_roster]
      exact h.removeHead hq
    · exact h

theorem foldl_removePlayerAtLeave_wf (guids : List Guid) (h : s.roster.WF) (hq : s.roster.offlineQueue = []) :
    (guids.foldl removePlayerAtLeave s).roster.WF := by
  induction guids generalizing s with
  | nil => exact h
  | cons guid guids ih =>
    have hroster := removePlayerAtLeave_roster s guid
    refine ih ?_ ?_
    · rw [hroster]
      exact h.remove (by simp [hq])
    · rw [hroster, Roster.remove]
      split <;> exact hq

theorem update_wf (diff : Nat) (h : s.roster.WF) (hsafe : RosterSafe s (.update diff)) :
    (s.update diff).roster.WF := by
  unfold update
  split
  · split <;> exact h
  · split
    · simpa [addDuration, processJoin_roster] using h
    · have hoff := processOfflineQueue_wf h
      simp only
      split
      · split <;> exact hoff
      · simpa [addDuration, updateProgress_roster] using hoff
    · rename_i hstatus
      simp only [addDuration, processLeave]
      split
      · rename_i hend
        exact foldl_removePlayerAtLeave_wf _ h (hsafe hstatus hend)
      · exact h
    · exact h

/-- Counts, players and the offline queue agree after a safe event. -/
theorem step_wf (we : World × Event) (h : s.roster.WF)
    (hP : Admissible s we.2 ∧ RosterSafe s we.2) : (step s we).roster.WF := by
  obtain ⟨w, e⟩ := we
  obtain ⟨hadm, hsafe⟩ := hP
  cases e with
  | addPlayer guid => exact h.add hadm.1 hadm.2 _
  | increaseInvitedCount t => exact h
  | decreaseInvitedCount t =>
    simp only [step, decreaseInvitedCount_roster]
    exact h
  | handleKillPlayer killer =>
    simp only [step, handleKillPlayer]
    split
    · rw [checkArenaWinConditions_roster]
      exact h
    · exact h
  | removePlayerAtLeave guid =>
    simp only [step, removePlayerAtLeave_roster]
    exact h.remove hsafe
  | eventPlayerLoggedOut guid =>
    simp only [step, eventPlayerLoggedOut]
    split
    · rename_i hmem
      have hout := h.logOut (contains_iff.1 hmem) hsafe (w.gameTime + maxOfflineTime)
      split
      · rw [checkLastStanding_roster, removePlayer_roster]
        exact hout
      · exact hout
    · exact h
  | eventPlayerLoggedIn guid => exact h.logIn hsafe
  | update diff => exact update_wf (s := { s with world := w }) diff h hsafe
  | endBattleground winner =>
    simp only [step]
    split <;> exact h

end Step

theorem Roster.WF.consistent {s : Battleground} (h : s.roster.WF) : Consistent s where
  count_eq t := by
    rw [getPlayersCountByTeam, teamIndex_id]
    exact h.count_eq t
  count_pos guid p hp := h.count_pos hp
  offline_mem := h.offline_mem

/-- **In every run whose steps find the offline queue as they expect it, the counts, the players and
the offline queue agree in every state reached.** -/
theorem roster_consistent (config : Config) (world : World) (pre post : List (World × Event))
    (h : AllSteps step (fun s we => Admissible s we.2 ∧ RosterSafe s we.2) (create config world)
      (pre ++ post)) : Consistent (run step (create config world) pre) := by
  have hwf : (run step (create config world) pre).roster.WF :=
    AllSteps.reaches (I := fun s : Battleground => s.roster.WF)
      (fun _ we hs hP => step_wf we hs hP) Roster.WF.empty h
  exact hwf.consistent

def ratedArena : Config := { isArena := true, isRated := true, arenaTeamIds := ⟨1, 2⟩ }

def aliveWorld : World := { player := fun _ => {} }

theorem logOut_logIn_consistent :
    Consistent (run step (create ratedArena aliveWorld)
      [(aliveWorld, .addPlayer 1), (aliveWorld, .eventPlayerLoggedOut 1),
        (aliveWorld, .eventPlayerLoggedIn 1), (aliveWorld, .removePlayerAtLeave 1)]) := by
  refine roster_consistent ratedArena aliveWorld _ [] ?_
  simp only [AllSteps, append_nil, Admissible, RosterSafe, true_and, and_true]
  decide

/-- A battleground ends while a player is offline. Two minutes later it is cleared, and he stays in
the offline queue. -/
theorem cleared_match_keeps_offline :
    ¬ Consistent (run step (create { isArena := false, isRated := false } aliveWorld)
      [(aliveWorld, .addPlayer 1), (aliveWorld, .eventPlayerLoggedOut 1),
        (aliveWorld, .endBattleground Team.alliance.id), (aliveWorld, .update 120000)]) := by
  intro h
  have hmem := h.offline_mem 1 (by decide)
  revert hmem
  decide

end Axium.Bg
