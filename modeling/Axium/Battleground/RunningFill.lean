import Axium.Battleground.FreeSlots
import Axium.Battleground.InvitedCount

/-!
# Filling a running battleground

A battleground in progress takes players by `GetFreeSlotsForTeam`: as many as the side is behind the
other, or one when the sides are equal, and never more than its places. Both answers are asked for
before anybody is added, and the pools hold at most as many players.
-/

namespace Axium.Queue

open State Greedy Run
open Bg (Battleground)

variable {env : Env} {st : State} {b : BattlegroundBracketId} {bg : Battleground}

/-! ## Free slots -/

/-- How far the invited counts of the two sides are apart. -/
def imbalance (bg : Battleground) : Nat :=
  ((bg.getInvitedCountByTeam Team.alliance.id : Int) - bg.getInvitedCountByTeam Team.horde.id).natAbs

section

variable (hstatus : bg.status = .inProgress)
include hstatus

theorem getFreeSlotsForTeam_le_places (t : Team) :
    getFreeSlotsForTeam bg t ≤ bg.config.maxPlayersPerTeam - bg.getInvitedCountByTeam t.id := by
  unfold getFreeSlotsForTeam
  rw [hstatus]
  exact (min_le_left _ _).trans (min_le_right _ _)

theorem getFreeSlotsForTeam_le_lead (t : Team) :
    getFreeSlotsForTeam bg t ≤ if bg.getInvitedCountByTeam t.other.id = bg.getInvitedCountByTeam t.id then 1
      else bg.getInvitedCountByTeam t.other.id - bg.getInvitedCountByTeam t.id := by
  unfold getFreeSlotsForTeam
  rw [hstatus]
  exact (min_le_left _ _).trans (min_le_left _ _)

/-- Players who are added within the free slots leave room, and the sides at most as far apart, or one
player. -/
theorem imbalance_le (hroom : ∀ t : Team, bg.getInvitedCountByTeam t.id ≤ bg.config.maxPlayersPerTeam)
    {bg' : Battleground} {n : Team → Nat} (hn : ∀ t, n t ≤ getFreeSlotsForTeam bg t)
    (hadded : ∀ t : Team, bg'.getInvitedCountByTeam t.id = bg.getInvitedCountByTeam t.id + n t) :
    (∀ t : Team, bg'.getInvitedCountByTeam t.id ≤ bg.config.maxPlayersPerTeam) ∧
      imbalance bg' ≤ max 1 (imbalance bg) := by
  constructor
  · intro t
    have hplaces := (hn t).trans (getFreeSlotsForTeam_le_places hstatus t)
    have := hroom t
    rw [hadded]
    omega
  · have hA := (hn .alliance).trans (getFreeSlotsForTeam_le_lead hstatus .alliance)
    have hH := (hn .horde).trans (getFreeSlotsForTeam_le_lead hstatus .horde)
    have hA' := hadded .alliance
    have hH' := hadded .horde
    unfold imbalance Team.other at *
    dsimp only at hA hH
    split at hA
    · split at hH
      · omega
      · omega
    · split at hH
      · omega
      · omega

end

/-! ## The pools -/

def WithinSlots (slots : PerTeam Int) (s : State) : Prop :=
  ∀ t, (s.pool t).playerCount ≤ toUInt32 (slots.get t)

theorem WithinSlots.fillOne {slots : PerTeam Int} {f : FillState} (h : WithinSlots slots f.st)
    (minPlayers : Nat) (p : Ptr) : WithinSlots slots (fillOne minPlayers slots f p).st := by
  unfold State.fillOne
  split
  · exact h
  · have hteam : WithinSlots slots (if f.free.alliance ≠ f.free.horde then
        f.st.setTeam p (if f.free.alliance < f.free.horde then .horde else .alliance) else f.st) := by
      split
      · exact h
      · exact h
    generalize (if f.free.alliance ≠ f.free.horde then
      f.st.setTeam p (if f.free.alliance < f.free.horde then .horde else .alliance) else f.st) = s
      at hteam ⊢
    intro t
    rw [setPool_pool]
    split
    · rename_i ht
      subst ht
      unfold SelectionPool.addGroup
      split
      · rename_i hfit
        simp only [Bool.and_eq_true, decide_eq_true_eq] at hfit
        exact hfit.2
      · exact hteam _
    · exact hteam t

theorem WithinSlots.foldl {slots : PerTeam Int} {f : FillState} (h : WithinSlots slots f.st)
    (minPlayers : Nat) (order : List Ptr) :
    WithinSlots slots (order.foldl (State.fillOne minPlayers slots) f).st := by
  induction order generalizing f with
  | nil => exact h
  | cons p order ih => exact ih (h.fillOne minPlayers p)

theorem get_sides {α : Type} (f : Team → α) (t : Team) : (⟨f .alliance, f .horde⟩ : PerTeam α).get t = f t := by
  cases t <;> rfl

theorem fillXPlayersToBG_pools (env : Env) (st : State) (b : BattlegroundBracketId) (bg : Battleground) :
    ∃ M, Balanced st.initPools b (fun _ => []) M (st.initPools.fillXPlayersToBG env b bg false).1 ∧
      ∀ t, ((st.initPools.fillXPlayersToBG env b bg false).1.pool t).playerCount ≤
        getFreeSlotsForTeam bg t := by
  have hslots : fillSlots bg false = ⟨toInt32 (getFreeSlotsForTeam bg .alliance),
      toInt32 (getFreeSlotsForTeam bg .horde)⟩ := by
    simp only [fillSlots, Bool.false_eq_true, if_false]
  have hget : ∀ t, toUInt32 ((fillSlots bg false).get t) ≤ getFreeSlotsForTeam bg t := by
    intro t
    rw [hslots, get_sides fun t => toInt32 (getFreeSlotsForTeam bg t)]
    exact toUInt32_toInt32_le _
  have hstart : (st.initPools.fillStart b bg false).st = st.initPools := by
    rfl
  have hempty : Balanced st.initPools b (fun _ => [])
      (max (getFreeSlotsForTeam bg .alliance) (getFreeSlotsForTeam bg .horde)) st.initPools :=
    balanced_empty rfl b _
  have hnobody : WithinSlots (fillSlots bg false) st.initPools := by
    intro t
    have hnone : st.initPools.pool t = {} := by cases t <;> rfl
    rw [hnone]
    exact Nat.zero_le _
  rw [fillXPlayersToBG_eq (.inr (.inr rfl))]
  refine ⟨max (getFreeSlotsForTeam bg .alliance) (getFreeSlotsForTeam bg .horde), ?_,
    fun t => (hnobody.foldl _ _ t).trans (hget t)⟩
  refine Balanced.foldl_fillOne (hstart ▸ hempty) (fun p hp => ?_) _ fun t => ?_
  · exact (largestFirst_perm _).subset hp
  · cases t with
    | alliance => exact (hget .alliance).trans (le_max_left _ _)
    | horde => exact (hget .horde).trans (le_max_right _ _)

theorem fillXPlayersToBG_instances (env : Env) (st : State) (b : BattlegroundBracketId)
    (bg : Battleground) : (st.fillXPlayersToBG env b bg false).1.instances = st.instances := by
  have hfold : ∀ (order : List Ptr) (f : FillState) (minPlayers : Nat) (slots : PerTeam Int),
      (order.foldl (State.fillOne minPlayers slots) f).st.instances = f.st.instances := by
    intro order f minPlayers slots
    induction order generalizing f with
    | nil => rfl
    | cons p order ih =>
      rw [List.foldl_cons, ih]
      unfold State.fillOne
      split
      · rfl
      · dsimp only
        split
        · rfl
        · rfl
  rw [fillXPlayersToBG_eq (.inr (.inr rfl))]
  refine (hfold _ _ _ _).trans ?_
  obtain ⟨pools, hpools⟩ := fillStart_pools st b bg false
  rw [hpools]

/-! ## The invitations -/

/-- **Filling a running battleground never worsens its balance.** `maxPlayersPerTeam` is a `uint32`. -/
theorem fillPlayersToBG_keeps_balance (env : Env)
    (hlive : ∀ p ∈ st.queuedGroups b .mixed, ∃ g, st.groups p = some g) {i : InstanceId}
    {inst : Instance} (hinst : st.instances i = some inst) (hstatus : inst.bg.status = .inProgress)
    (hmax : inst.bg.config.maxPlayersPerTeam < 2 ^ 32)
    (hroom : ∀ t : Team, inst.bg.getInvitedCountByTeam t.id ≤ inst.bg.config.maxPlayersPerTeam) :
    let filled := (st.initPools.fillXPlayersToBG env b inst.bg false).1
    (∀ t, ∀ p ∈ (filled.pool t).selectedGroups, (st.group p).isInvited = false) ∧
      ∃ inst', (filled.invitePools env i).instances i = some inst' ∧
        (∀ t : Team, inst'.bg.getInvitedCountByTeam t.id ≤ inst.bg.config.maxPlayersPerTeam) ∧
        imbalance inst'.bg ≤ max 1 (imbalance inst.bg) := by
  obtain ⟨M, hbal, hslots⟩ := fillXPlayersToBG_pools env st b inst.bg
  have hframe := fillXPlayersToBG_instances env st.initPools b inst.bg
  generalize (st.initPools.fillXPlayersToBG env b inst.bg false).1 = s at hbal hslots hframe ⊢
  have hwait : ∀ t, ∀ p ∈ (s.pool t).selectedGroups, (st.group p).isInvited = false := by
    intro t p hp
    have hmem := (List.mem_filter.1 (hbal.waiting t p hp)).2
    change (!(st.group p).isInvited) = true at hmem
    simpa using hmem
  have hside : ∀ t, ∀ p ∈ (s.pool t).selectedGroups, (s.group p).team = t := by
    intro t p hp
    obtain ⟨extra, heq, hextra⟩ := hbal.added t
    rw [heq] at hp
    exact hextra p hp
  refine ⟨hwait, ?_⟩
  have hlive' : ∀ t, ∀ p ∈ (s.pool t).selectedGroups, ∃ g, s.groups p = some g :=
    fun t p hp => hbal.live p (hlive p (List.mem_filter.1 (hbal.waiting t p hp)).1)
  have hinv' : ∀ t, ∀ p ∈ (s.pool t).selectedGroups, s.invitedTo p = 0 := by
    intro t p hp
    have hzero : st.invitedTo p = 0 := by simpa [isInvited_eq] using hwait t p hp
    exact (hbal.invited p).trans hzero
  have hinst' : s.instances i = some inst := by rw [hframe, ← hinst]; rfl
  obtain ⟨-, -, -, inst', hsome, hcount⟩ := foldl_inviteOwn_cases env s hinst'
    (forall_pools hlive') (forall_pools hinv') hbal.once
  rw [invitePools_eq env s hinst' hlive' hinv' hbal.once]
  refine ⟨inst', hsome, ?_⟩
  -- each count goes up by those who are online, who are no more than the free slots
  choose n hn heq using hcount
  have hfree : ∀ t, n t ≤ getFreeSlotsForTeam inst.bg t := by
    intro t
    refine (hn t).trans ?_
    rw [filter_pools_team hside t, hbal.total_pool]
    exact hslots t
  refine imbalance_le hstatus hroom hfree fun t => ?_
  have hplaces := (hfree t).trans (getFreeSlotsForTeam_le_places hstatus t)
  have hbefore := hroom t
  rw [Battleground.getInvitedCountByTeam, Bg.teamIndex_id] at hbefore hplaces ⊢
  rw [Battleground.getInvitedCountByTeam, Bg.teamIndex_id, heq t, incr32_iterate]
  omega

def runningInstance : Instance where
  typeId := .ws
  bracketId := 0
  arenaType := 0
  maxPlayers := 4
  bg := { Bg.create { duel with maxPlayersPerTeam := 2 } sampleEnv.world with
    status := .inProgress
    invited := ⟨0, 1⟩ }

def runningQueue : State :=
  { Run.run step {} [(sampleEnv, .addGroup (duelJoin 1 .alliance Team.alliance.id))] with
    instances := fun i => if i = 1 then some runningInstance else none }

theorem runningQueue_keeps_balance :
    ∃ inst', ((runningQueue.initPools.fillXPlayersToBG sampleEnv 0 runningInstance.bg
        false).1.invitePools sampleEnv 1).instances 1 = some inst' ∧
      (∀ t : Team, inst'.bg.getInvitedCountByTeam t.id ≤ 2) ∧ imbalance inst'.bg ≤ 1 := by
  have hqueue : runningQueue.queuedGroups 0 .mixed = [0] := by decide
  have hinst : runningQueue.instances 1 = some runningInstance := rfl
  refine (fillPlayersToBG_keeps_balance (b := 0) sampleEnv (fun p hp => ?_) hinst rfl (by decide) fun t => ?_).2
  · rw [hqueue, List.mem_singleton] at hp
    subst hp
    exact ⟨_, rfl⟩
  · cases t with
    | alliance => decide
    | horde => decide

end Axium.Queue
