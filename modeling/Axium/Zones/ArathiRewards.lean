import Axium.Zones.MatchEnd

/-!
# The rewards of Arathi Basin

When a node becomes occupied, `_NodeOccupied` counts the nodes of the team and casts the rewards for four
and five bases. The count looks at the status of the node that was just taken in place of the node it has
come to, so it is the number of all nodes without a running timer (`Call.capturedNodes_of_occupied`). The
reputation of `PostUpdateImpl` is meant for the team whose counter is full, but the index of the team is
compared with the team id of the Alliance, and the Horde receives it (`teamOfIndex_eq`).
-/

namespace Axium.Zones.AB

open Bg Run List Function

/-- `SPELL_AB_QUEST_REWARD_4_BASES` and `SPELL_AB_QUEST_REWARD_5_BASES`. -/
inductive BasesReward where
  | fourBases
  | fiveBases
  deriving DecidableEq, Repr

/-- A call of `_NodeOccupied` for one of the seven nodes, with what the nodes are then. -/
structure Call where
  nodes : Fin 5 → Node
  node : Nat
  team : Team

namespace Call

variable (c : Call)

/-- `m_Nodes[node]`. Behind the five entries of `m_Nodes` lie those of `m_prevNodes`. -/
def status : UInt8 :=
  if h : c.node < 5 then (c.nodes ⟨c.node, h⟩).status else (c.nodes (Fin.ofNat 5 (c.node - 5))).prevStatus

def capturedNodes : Nat := (finRange 5).countP fun i => c.status = index c.team + 3 ∧ (c.nodes i).timer = 0

/-- `_NodeOccupied`: what it casts on the team. -/
def casts : List BasesReward :=
  (if 5 ≤ c.capturedNodes then [.fiveBases] else []) ++ if 4 ≤ c.capturedNodes then [.fourBases] else []

def idle : Nat := (finRange 5).countP fun i => (c.nodes i).timer = 0

/-- The nodes without a running timer that the team occupies. -/
def held : Nat := (finRange 5).countP fun i => (c.nodes i).occupiedBy c.team ∧ (c.nodes i).timer = 0

structure Right : Prop where
  fourBases : .fourBases ∈ c.casts ↔ 4 ≤ c.held
  fiveBases : .fiveBases ∈ c.casts ↔ c.held = 5

end Call

/-! ## The calls of a step -/

/-- The turn of a node in the loop of `PostUpdateImpl`, with the calls so far. -/
def tickNode (diff : Nat) (acc : (Fin 5 → Node) × List Call) (i : Fin 5) : (Fin 5 → Node) × List Call :=
  let n := acc.1 i
  let nodes := update acc.1 i (n.tick diff)
  let calls :=
    if n.timer ≠ 0 ∧ ¬ diff < n.timer then
      let teamIndex := n.status - 1
      acc.2 ++ [{ nodes := nodes, node := i, team := if teamIndex = 0 then .alliance else .horde }]
    else acc.2
  (nodes, calls)

def tickLoop (diff : Nat) (nodes : Fin 5 → Node) : (Fin 5 → Node) × List Call :=
  (finRange 5).foldl (tickNode diff) (nodes, [])

/-- The call of `EventPlayerClickedOnFlag`, when a contested node goes back to the team. -/
def clickCalls (guid : Guid) (near : Fin 5 → Bool) (s : Zone ArathiBasin) : List Call :=
  if s.bg.status = .inProgress then
    match (finRange 5).find? near with
    | some i =>
      let t := (s.bg.world.player guid).team
      let n := s.own.nodes i
      if n.mayClick t ∧ (n.status = 1 ∨ n.status = 2) ∧ ¬ n.prevStatus < 3 then
        [{ nodes := update s.own.nodes i (n.click t), node := i, team := t }]
      else []
    | none => []
  else []

/-- `Update` calls `StartingEventCloseDoors`. -/
def closesDoors (s : Zone ArathiBasin) : Prop :=
  s.bg.roster.players.isEmpty = false ∧ s.bg.status = .waitJoin ∧ s.bg.events &&& 1 = 0 ∧
    s.bg.world.mapReady

instance (s : Zone ArathiBasin) : Decidable (closesDoors s) := inferInstanceAs (Decidable (_ ∧ _))

/-- The calls of `StartingEventCloseDoors`, for `BG_AB_SPIRIT_ALIANCE` and `BG_AB_SPIRIT_HORDE`. -/
def doorCalls (z : ArathiBasin) : List Call :=
  [{ nodes := z.nodes, node := 5, team := .alliance }, { nodes := z.nodes, node := 6, team := .horde }]

/-- The calls of `_NodeOccupied` in an event. -/
def calls (s : Zone ArathiBasin) : Event Unit Click → List Call
  | .update _ diff =>
    (if closesDoors s then doorCalls s.own else []) ++
      if s.Ticks diff then (tickLoop diff s.own.nodes).2 else []
  | .handle e => clickCalls e.guid e.near s
  | _ => []

/-! ## Reputation -/

/-- The arguments of `RewardReputationToTeam`. -/
structure ReputationReward where
  allianceFaction : Nat
  hordeFaction : Nat
  reputation : Nat
  teamId : Nat
  deriving DecidableEq, Repr

/-- `team == ALLIANCE ? ALLIANCE : HORDE`. -/
def teamOfIndex (team : Nat) : Nat :=
  if team = Team.alliance.id then Team.alliance.id else Team.horde.id

def ArathiBasin.ReputationDue (z : ArathiBasin) (diff : Nat) (t : Team) : Prop :=
  z.TickDue diff t ∧ z.reputationTics ≤ z.reputationScoreTics.get t + tickPoints (z.teamPoints t)

instance (z : ArathiBasin) (diff : Nat) (t : Team) : Decidable (z.ReputationDue diff t) :=
  inferInstanceAs (Decidable (_ ∧ _))

def ArathiBasin.reputationReward (z : ArathiBasin) (diff : Nat) (t : Team) : Option ReputationReward :=
  if z.ReputationDue diff t then
    some ⟨509, 510, 10, teamOfIndex (index t).toNat⟩
  else none

/-- The rewards in an event, each with the team whose turn it is. The turn of the Alliance is the first. -/
def reputationRewards (s : Zone ArathiBasin) : Event Unit Click → List (Team × ReputationReward)
  | .update _ diff =>
    if s.Ticks diff then
      let z := s.own.tickNodes diff
      ((z.reputationReward diff .alliance).map (Team.alliance, ·)).toList ++
        (((z.accumulate diff .alliance).reputationReward diff .horde).map (Team.horde, ·)).toList
    else []
  | _ => []

structure RewardsRight (s : Zone ArathiBasin) (e : Event Unit Click) : Prop where
  bases : ∀ c ∈ calls s e, c.Right
  reputation : ∀ t r, (t, r) ∈ reputationRewards s e → r.teamId = t.id

/-- Whenever a node becomes occupied, fewer than four nodes have no running timer or all of them are the
team's, and the counter of the Alliance does not become full. -/
structure RewardsMeant (s : Zone ArathiBasin) (e : Event Unit Click) : Prop where
  bases : ∀ c ∈ calls s e, c.node < 5 → c.idle < 4 ∨ c.idle = c.held
  reputation : ∀ diff, e = .update () diff → s.Ticks diff →
    ¬ (s.own.tickNodes diff).ReputationDue diff .alliance

/-! ## One call -/

namespace Call

variable {c : Call}

theorem fourBases_mem : .fourBases ∈ c.casts ↔ 4 ≤ c.capturedNodes := by
  unfold casts
  split <;> split <;> simp <;> omega

theorem fiveBases_mem : .fiveBases ∈ c.casts ↔ 5 ≤ c.capturedNodes := by
  unfold casts
  split <;> split <;> simp <;> omega

theorem capturedNodes_of_occupied (h : c.status = index c.team + 3) : c.capturedNodes = c.idle := by
  simp only [capturedNodes, idle, h, true_and]

theorem capturedNodes_of_not_occupied (h : c.status ≠ index c.team + 3) : c.capturedNodes = 0 := by
  simp [capturedNodes, h]

theorem held_le_idle (c : Call) : c.held ≤ c.idle :=
  countP_mono_left fun i _ h => by
    rw [decide_eq_true_eq] at h ⊢
    exact h.2

theorem idle_le (c : Call) : c.idle ≤ 5 := by
  have hle : c.idle ≤ (finRange 5).length := countP_le_length
  rwa [length_finRange] at hle

theorem right_iff (h : c.status = index c.team + 3) : c.Right ↔ c.idle < 4 ∨ c.idle = c.held := by
  have hheld := c.held_le_idle
  have hidle := c.idle_le
  have hfour : .fourBases ∈ c.casts ↔ 4 ≤ c.idle := by rw [fourBases_mem, capturedNodes_of_occupied h]
  have hfive : .fiveBases ∈ c.casts ↔ 5 ≤ c.idle := by rw [fiveBases_mem, capturedNodes_of_occupied h]
  constructor
  · rintro ⟨hfour', hfive'⟩
    rw [hfour] at hfour'
    rw [hfive] at hfive'
    omega
  · intro hcond
    refine ⟨?_, ?_⟩
    · rw [hfour]
      omega
    · rw [hfive]
      omega

theorem right_of_fresh (h : c.nodes = fun _ => {}) : c.Right := by
  have hstatus : c.status = 0 := by
    unfold status
    rw [h]
    split <;> rfl
  have hcaptured : c.capturedNodes = 0 := by
    apply capturedNodes_of_not_occupied
    rw [hstatus]
    cases c.team <;> decide
  have hheld : c.held = 0 := by
    rw [held, h]
    cases c.team <;> decide
  refine ⟨?_, ?_⟩
  · rw [fourBases_mem, hcaptured, hheld]
  · rw [fiveBases_mem, hcaptured, hheld]
    decide

end Call

structure Call.Occupied (c : Call) : Prop where
  node_lt : c.node < 5
  status_eq : c.status = index c.team + 3

/-! ## The loop over the nodes -/

structure TickAcc (acc : (Fin 5 → Node) × List Call) : Prop where
  wf : ∀ i, (acc.1 i).WF
  occupied : ∀ c ∈ acc.2, c.Occupied

theorem TickAcc.tickNode {acc : (Fin 5 → Node) × List Call} (h : TickAcc acc) (diff : Nat) (i : Fin 5) :
    TickAcc (tickNode diff acc i) where
  wf j := by
    change (update acc.1 i ((acc.1 i).tick diff) j).WF
    by_cases hj : j = i
    · subst hj
      rw [update_self]
      exact (h.wf j).tick diff
    · rw [update_of_ne hj]
      exact h.wf j
  occupied c hc := by
    unfold AB.tickNode at hc
    simp only at hc
    split at hc
    · rename_i hexpired
      rcases mem_append.1 hc with hc | hc
      · exact h.occupied c hc
      · obtain ⟨t, ht⟩ := Node.contested_iff.1 ((h.wf i).timer_iff.1 hexpired.1)
        have hteam : (if (acc.1 i).status - 1 = 0 then Team.alliance else Team.horde) = t := by
          rw [ht]
          cases t <;> rfl
        have hnode : (acc.1 i).tick diff =
            { status := index t + 3, prevStatus := index t + 1, timer := 0 } := by
          rw [Node.tick_of_running ht hexpired.1, if_neg hexpired.2]
        rw [mem_singleton.1 hc, hteam]
        refine ⟨i.isLt, ?_⟩
        rw [Call.status, dif_pos i.isLt]
        simp only [Fin.eta, update_self]
        rw [hnode]
    · exact h.occupied c hc

theorem TickAcc.foldl (diff : Nat) (is : List (Fin 5)) {acc : (Fin 5 → Node) × List Call}
    (h : TickAcc acc) : TickAcc (is.foldl (AB.tickNode diff) acc) := by
  induction is generalizing acc with
  | nil => exact h
  | cons i is ih => exact ih (h.tickNode diff i)

theorem tickLoop_occupied (diff : Nat) {nodes : Fin 5 → Node} (hwf : ∀ i, (nodes i).WF) :
    ∀ c ∈ (tickLoop diff nodes).2, c.Occupied :=
  (TickAcc.foldl diff (finRange 5) ⟨hwf, fun _ hc => absurd hc not_mem_nil⟩).occupied

/-! ## The call of a click -/

variable {s : Zone ArathiBasin}

theorem clickCalls_spec {guid : Guid} {near : Fin 5 → Bool} {c : Call} (hc : c ∈ clickCalls guid near s) :
    c.Occupied ∧ (eventPlayerClickedOnFlag guid near s).own.nodes = c.nodes := by
  unfold clickCalls at hc
  split at hc
  · rename_i hst
    split at hc
    · rename_i i hi
      simp only at hc
      split at hc
      · rename_i hback
        obtain ⟨hmay, hcontested, hprev⟩ := hback
        obtain ⟨u, hu⟩ := Node.contested_iff.1 hcontested
        rw [mem_singleton.1 hc]
        refine ⟨⟨i.isLt, ?_⟩, ?_⟩
        · rw [Call.status, dif_pos i.isLt]
          simp only [Fin.eta, update_self]
          rw [Node.click_contested hu, if_neg hprev]
        · unfold eventPlayerClickedOnFlag
          rw [if_pos hst, hi]
          simp only
          rw [if_pos hmay]
      · exact absurd hc not_mem_nil
    · exact absurd hc not_mem_nil
  · exact absurd hc not_mem_nil

/-! ## Reputation -/

theorem teamOfIndex_eq (t : Team) : teamOfIndex (index t).toNat = Team.horde.id := by
  cases t <;> rfl

theorem reputationReward_eq_some {z : ArathiBasin} {diff : Nat} {t : Team} {r : ReputationReward} :
    z.reputationReward diff t = some r ↔ z.ReputationDue diff t ∧ r = ⟨509, 510, 10, Team.horde.id⟩ := by
  rw [ArathiBasin.reputationReward, teamOfIndex_eq]
  split
  · rename_i hdue
    simp [hdue, eq_comm]
  · rename_i hdue
    simp [hdue]

/-! ## Runs -/

structure FreshBefore (s : Zone ArathiBasin) : Prop where
  isBattleground : s.bg.config.isArena = false
  fresh : ¬ Began s.bg → s.own.nodes = fun _ => {}

theorem onlyEnds_of_win (s : Zone ArathiBasin) (p : Prop) [Decidable p] (t : Team) :
    OnlyEnds s.bg (if p then s.endBattleground t.id else s).bg := by
  split
  · exact OnlyEnds.endBattleground s.bg t.id
  · exact .refl s.bg

theorem postUpdateImpl_onlyEnds (diff : Nat) (s : Zone ArathiBasin) :
    OnlyEnds s.bg (postUpdateImpl diff s).bg := by
  unfold postUpdateImpl
  split
  · exact (onlyEnds_of_win { s with own := s.own.tick diff } _ .alliance).trans (onlyEnds_of_win _ _ .horde)
  · exact .refl _

theorem FreshBefore.event (h : FreshBefore s) (e : Event Unit Click) : FreshBefore (s.event overrides e) := by
  have ha := h.isBattleground
  -- the base object advances, and nothing is written unless the match is on
  have hkeep {s' : Zone ArathiBasin} (hadv : Advances s.bg s'.bg) (hown : ¬ Began s'.bg → s'.own = s.own) :
      FreshBefore s' := by
    refine ⟨(congrArg Config.isArena hadv.config).trans ha, fun hnot => ?_⟩
    rw [hown hnot]
    exact h.fresh fun hs => hnot (hadv.began hs)
  cases e with
  | addPlayer guid => exact hkeep ⟨rfl, id, id⟩ fun _ => rfl
  | increaseInvitedCount t => exact hkeep ⟨rfl, id, id⟩ fun _ => rfl
  | decreaseInvitedCount t => exact hkeep (SameResult.decreaseInvitedCount ha t.id).advances fun _ => rfl
  | removePlayerAtLeave guid => exact hkeep (SameResult.removePlayerAtLeave ha guid).advances fun _ => rfl
  | eventPlayerLoggedOut guid =>
    refine hkeep (SameResult.eventPlayerLoggedOut ha guid).advances fun _ => ?_
    change (if _ then s.own else s.own) = s.own
    rw [ite_self]
  | eventPlayerLoggedIn guid => exact hkeep ⟨rfl, id, id⟩ fun _ => rfl
  | update input diff =>
    have hbase := advances_update ha diff
    by_cases hempty : s.bg.roster.players.isEmpty = true
    · refine hkeep ?_ fun _ => ?_
      · change Advances s.bg (s.update overrides () diff).bg
        rw [Zone.update, if_pos hempty]
        exact hbase
      · change (s.update overrides () diff).own = s.own
        rw [Zone.update, if_pos hempty]
    · have hpost := (postUpdateImpl_onlyEnds diff (s.updateBase overrides diff)).advances
      rw [Bool.not_eq_true] at hempty
      have hupdate : s.event overrides (.update input diff) =
          postUpdateImpl diff (s.updateBase overrides diff) := update_of_nonempty hempty () diff
      rw [hupdate]
      refine hkeep ⟨hpost.config.trans hbase.config, hpost.began ∘ hbase.began, hpost.ended ∘ hbase.ended⟩
        fun hnot => ?_
      have hstatus : ¬ (s.updateBase overrides diff).bg.status = .inProgress := fun hst =>
        hnot (hpost.began (.inl hst))
      rw [postUpdateImpl_own, if_neg hstatus, updateBase_own]
  | handle e =>
    have hbg : (s.event overrides (.handle e)).bg = s.bg := handle_bg e s
    refine hkeep ?_ fun hnot => ?_
    · rw [hbg]
      exact .refl _
    · rw [hbg] at hnot
      change (eventPlayerClickedOnFlag e.guid e.near s).own = s.own
      rw [eventPlayerClickedOnFlag, if_neg fun hst => hnot (.inl hst)]

theorem freshBefore_run {config : Config} (hbg : config.isArena = false) (world : World)
    (isBGWeekend : Bool) (es : List (World × Event Unit Click)) :
    FreshBefore (run step (create config world isBGWeekend) es) := by
  have hstart : FreshBefore (create config world isBGWeekend) := ⟨hbg, fun _ => rfl⟩
  generalize create config world isBGWeekend = s at hstart ⊢
  induction es generalizing s with
  | nil => exact hstart
  | cons we es ih =>
    have hworld : FreshBefore (s.inWorld we.1) := ⟨hstart.isBattleground, hstart.fresh⟩
    exact ih (step s we) (hworld.event we.2)

theorem calls_occupied_or_fresh (hwf : ∀ i, (s.own.nodes i).WF)
    (hfresh : FreshBefore s) {e : Event Unit Click} {c : Call} (hc : c ∈ calls s e) :
    c.Occupied ∨ 5 ≤ c.node ∧ c.nodes = fun _ => {} := by
  cases e with
  | update input diff =>
    rcases mem_append.1 hc with hc | hc
    · split at hc
      · rename_i hdoors
        have hnot : ¬ Began s.bg := by
          rw [Began, hdoors.2.1]
          decide
        right
        simp only [doorCalls, hfresh.fresh hnot, mem_cons, not_mem_nil, or_false] at hc
        rcases hc with rfl | rfl
        · exact ⟨by decide, rfl⟩
        · exact ⟨by decide, rfl⟩
      · exact absurd hc not_mem_nil
    · split at hc
      · exact .inl (tickLoop_occupied diff hwf c hc)
      · exact absurd hc not_mem_nil
  | handle e => exact .inl (clickCalls_spec hc).1
  | addPlayer _ => exact absurd hc not_mem_nil
  | increaseInvitedCount _ => exact absurd hc not_mem_nil
  | decreaseInvitedCount _ => exact absurd hc not_mem_nil
  | removePlayerAtLeave _ => exact absurd hc not_mem_nil
  | eventPlayerLoggedOut _ => exact absurd hc not_mem_nil
  | eventPlayerLoggedIn _ => exact absurd hc not_mem_nil

theorem call_right_iff {c : Call} (h : c.Occupied ∨ 5 ≤ c.node ∧ c.nodes = fun _ => {}) :
    c.Right ↔ (c.node < 5 → c.idle < 4 ∨ c.idle = c.held) := by
  rcases h with h | ⟨hnode, hfresh⟩
  · rw [Call.right_iff h.status_eq]
    exact ⟨fun hr _ => hr, fun hr => hr h.node_lt⟩
  · exact iff_of_true (Call.right_of_fresh hfresh) fun hlt => absurd hlt (not_lt.2 hnode)

theorem reputation_right_iff (s : Zone ArathiBasin) (e : Event Unit Click) :
    (∀ t r, (t, r) ∈ reputationRewards s e → r.teamId = t.id) ↔
      ∀ diff, e = .update () diff → s.Ticks diff →
        ¬ (s.own.tickNodes diff).ReputationDue diff .alliance := by
  cases e with
  | update input diff =>
    by_cases hticks : s.Ticks diff
    · have hmem : ∀ t r, (t, r) ∈ reputationRewards s (.update input diff) ↔
          t = .alliance ∧ (s.own.tickNodes diff).reputationReward diff .alliance = some r ∨
          t = .horde ∧ ((s.own.tickNodes diff).accumulate diff .alliance).reputationReward diff .horde
            = some r := by
        intro t r
        simp only [reputationRewards, if_pos hticks, mem_append, Option.mem_toList,
          Option.map_eq_some_iff, Prod.mk.injEq]
        constructor
        · rintro (⟨_, hreward, ht, rfl⟩ | ⟨_, hreward, ht, rfl⟩)
          · exact .inl ⟨ht.symm, hreward⟩
          · exact .inr ⟨ht.symm, hreward⟩
        · rintro (⟨ht, hreward⟩ | ⟨ht, hreward⟩)
          · exact .inl ⟨r, hreward, ht.symm, rfl⟩
          · exact .inr ⟨r, hreward, ht.symm, rfl⟩
      constructor
      · rintro h diff' hdiff - hdue
        cases hdiff
        have hright := h .alliance _ ((hmem _ _).2 (.inl ⟨rfl, reputationReward_eq_some.2 ⟨hdue, rfl⟩⟩))
        exact absurd hright (by decide)
      · intro h t r hr
        rcases (hmem t r).1 hr with ⟨-, hreward⟩ | ⟨ht, hreward⟩
        · exact absurd (reputationReward_eq_some.1 hreward).1 (h diff rfl hticks)
        · rw [(reputationReward_eq_some.1 hreward).2, ht]
    · refine iff_of_true (fun t r hr => ?_) ?_
      · rw [reputationRewards, if_neg hticks] at hr
        exact absurd hr not_mem_nil
      · rintro diff' hdiff hticks'
        cases hdiff
        exact absurd hticks' hticks
  | _ => exact iff_of_true (fun t r hr => absurd hr not_mem_nil) (fun _ he => by cases he)

/-- **The rewards of every step of a battleground are right exactly when they are as they were meant.** -/
theorem rewards_right_iff (config : Config) (hbg : config.isArena = false) (world : World)
    (isBGWeekend : Bool) (es : List (World × Event Unit Click)) (we : World × Event Unit Click) :
    let s := (run step (create config world isBGWeekend) es).inWorld we.1
    RewardsRight s we.2 ↔ RewardsMeant s we.2 := by
  intro s
  have hwf : ∀ i, (s.own.nodes i).WF := fun i => (held_run config world isBGWeekend i es).wf
  have hfresh : FreshBefore s :=
    have h := freshBefore_run hbg world isBGWeekend es
    ⟨h.isBattleground, h.fresh⟩
  have hbases : (∀ c ∈ calls s we.2, c.Right) ↔ ∀ c ∈ calls s we.2, c.node < 5 → c.idle < 4 ∨ c.idle = c.held :=
    forall₂_congr fun c hc => call_right_iff (calls_occupied_or_fresh hwf hfresh hc)
  have hreputation := reputation_right_iff s we.2
  exact ⟨fun h => ⟨hbases.1 h.bases, hreputation.1 h.reputation⟩,
    fun h => ⟨hbases.2 h.bases, hreputation.2 h.reputation⟩⟩

def gatesOpen : List (Event Unit Click) :=
  [.addPlayer 1, .addPlayer 2, .update () 0, .update () 60000, .update () 0, .update () 0]

/-- The player of the Alliance clicks the banners of the nodes in `taken`. -/
def opening (taken : List (Fin 5)) : List (World × Event Unit Click) :=
  (gatesOpen ++ taken.map (clickAt 1)).map (duelWorld, ·)

theorem rewards_right_of_five :
    RewardsRight ((run step (create duelConfig duelWorld false) (opening [0, 1, 2, 3, 4])).inWorld duelWorld)
      (.update () 60000) := by
  apply (rewards_right_iff duelConfig rfl duelWorld false (opening [0, 1, 2, 3, 4])
    (duelWorld, .update () 60000)).2
  refine ⟨by decide +kernel, fun diff hdiff _ => ?_⟩
  cases hdiff
  decide +kernel

/-- The first node that falls to the Alliance brings it both rewards, and with five nodes the sixth tick
brings the Horde the reputation of the Alliance. -/
theorem rewards_wrong :
    ((calls (run step (create duelConfig duelWorld false) (opening [0])) (.update () 60000)).map
        fun c => (c.node, c.team, c.casts, c.held)) = [(0, .alliance, [.fiveBases, .fourBases], 1)] ∧
      reputationRewards (run step (create duelConfig duelWorld false) (opening [0, 1, 2, 3, 4] ++
        (Event.update () 60000 :: replicate 4 (.update () 2000)).map (duelWorld, ·)))
        (.update () 2000) = [(.alliance, ⟨509, 510, 10, Team.horde.id⟩)] := by
  decide +kernel

end Axium.Zones.AB
