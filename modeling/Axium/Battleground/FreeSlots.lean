import Axium.Battleground.CrossFaction

/-!
# The free slots of the balancing loop

`FillXPlayersToBG` decides from a count of the waiting players whether it fills at all, and then
balances by two counters of free slots. The count is kept in a byte
(**`fillXPlayersToBG_counts_iff`**). The counters start from what `PreAddPlayers` has *left* instead of
what it added, and they go down also for a group that was not added because it is too large.
-/

namespace Axium.Queue

open State Greedy Run List Function
open Bg (Battleground)

variable {env : Env} {st : State} {b : BattlegroundBracketId} {bg : Battleground} {start : Bool}

/-! ## The loop, turn by turn -/

namespace State

variable (st) (b) (bg) (start)

/-- `aliFree` and `hordeFree`. -/
def fillSlots : PerTeam Int :=
  if start then ⟨toInt32 bg.config.maxPlayersPerTeam, toInt32 bg.config.maxPlayersPerTeam⟩
  else ⟨toInt32 (getFreeSlotsForTeam bg .alliance), toInt32 (getFreeSlotsForTeam bg .horde)⟩

def fillStart : FillState :=
  if start then st.initPools.preAdd b (fillSlots bg start)
  else { st := st.initPools, free := fillSlots bg start }

def fillOrder : List Ptr := largestFirst st.groupSize (st.queuedGroups b .mixed)

/-- The pools and the counters after the groups `done`. -/
def fillAfter (done : List Ptr) : FillState :=
  done.foldl (fillOne bg.config.minPlayersPerTeam (fillSlots bg start)) (st.fillStart b bg start)

/-- `FillXPlayersToBG` enters its filling branch. -/
def FillEnters (env : Env) : Prop :=
  env.isTesting = true ∨ bg.config.minPlayersPerTeam * 2 % 2 ^ 32 ≤ st.queuedPeople b ∨ start = false

end State

theorem preAdd_pools (st : State) (b : BattlegroundBracketId) (slots : PerTeam Int) :
    ∃ pools, (st.initPools.preAdd b slots).st = { st with selectionPools := pools } := by
  have hmap : ∀ (map : List (Int × Ptr)) (s : State) (maxAdd : Int) (maxInTeam : Nat), ∃ pools,
      (s.preAddPlayers map maxAdd maxInTeam).1 = { s with selectionPools := pools } := by
    intro map s maxAdd maxInTeam
    unfold preAddPlayers
    generalize map.reverse = entries
    induction entries generalizing s maxAdd with
    | nil => exact ⟨_, rfl⟩
    | cons x entries ih =>
      rw [foldl_cons]
      dsimp only
      split
      · obtain ⟨pools, hpools⟩ := ih (s.setPool _ _) _
        exact ⟨pools, hpools⟩
      · exact ih s maxAdd
  obtain ⟨poolsA, hA⟩ := hmap _ st.initPools _ _
  obtain ⟨poolsH, hH⟩ := hmap _ { st with selectionPools := poolsA } _ _
  refine ⟨poolsH, ?_⟩
  unfold preAdd
  dsimp only
  rw [hA]
  exact hH

theorem fillStart_pools (st : State) (b : BattlegroundBracketId) (bg : Battleground) (start : Bool) :
    ∃ pools, (st.fillStart b bg start).st = { st with selectionPools := pools } := by
  cases start with
  | true => exact preAdd_pools st b _
  | false => exact ⟨_, rfl⟩

theorem fillXPlayersToBG_eq (h : st.FillEnters b bg start env) :
    st.fillXPlayersToBG env b bg start = ((st.fillAfter b bg start (st.fillOrder b)).st, true) := by
  have hcond : (env.isTesting || decide (bg.config.minPlayersPerTeam * 2 % 2 ^ 32 ≤
      st.queuedPeople b) || !start) = true := by
    simpa [FillEnters, or_assoc] using h
  have horder : ((st.fillStart b bg start).st.queuedGroupMap
      ((st.fillStart b bg start).st.queuedGroups b .mixed)).reverse.map Prod.snd = st.fillOrder b := by
    rw [(queuedGroupMap_reverse _ _).1]
    obtain ⟨pools, hpools⟩ := fillStart_pools st b bg start
    rw [hpools]
    rfl
  unfold fillXPlayersToBG
  rw [if_pos hcond]
  refine congrArg (fun s : State => (s, true)) ?_
  rw [← horder]
  rfl

theorem fillXPlayersToBG_idle (h : ¬ st.FillEnters b bg start env) :
    st.fillXPlayersToBG env b bg start = (st, false) := by
  have hcond : ¬ (env.isTesting || decide (bg.config.minPlayersPerTeam * 2 % 2 ^ 32 ≤
      st.queuedPeople b) || !start) = true := by
    simpa [FillEnters, or_assoc] using h
  unfold fillXPlayersToBG
  rw [if_neg hcond]

/-! ## Who is counted -/

namespace State

variable (st) (b) (bg)

def waitingPlayers : Nat := total st.groupSize (st.waiting b .mixed)

def CountsWaiting (env : Env) : Prop :=
  (st.fillXPlayersToBG env b bg true).2 = true ↔
    bg.config.minPlayersPerTeam * 2 % 2 ^ 32 ≤ st.waitingPlayers b

end State

/-- **The waiting players are counted exactly when** there are too few of them anyway, or the last
eight bits of their number are still enough. -/
theorem fillXPlayersToBG_counts_iff (htest : env.isTesting = false) (st : State)
    (b : BattlegroundBracketId) (bg : Battleground) :
    st.CountsWaiting b bg env ↔
      (st.waitingPlayers b < bg.config.minPlayersPerTeam * 2 % 2 ^ 32 ∨
        bg.config.minPlayersPerTeam * 2 % 2 ^ 32 ≤ st.waitingPlayers b % 2 ^ 8) := by
  have henters : st.FillEnters b bg true env ↔
      bg.config.minPlayersPerTeam * 2 % 2 ^ 32 ≤ st.waitingPlayers b % 2 ^ 8 := by
    simp only [FillEnters, htest, Bool.false_eq_true, Bool.true_eq_false, false_or, or_false]
    exact Iff.rfl
  have hanswer : (st.fillXPlayersToBG env b bg true).2 = true ↔ st.FillEnters b bg true env := by
    by_cases h : st.FillEnters b bg true env
    · rw [fillXPlayersToBG_eq h]
      exact ⟨fun _ => h, fun _ => rfl⟩
    · rw [fillXPlayersToBG_idle h]
      exact ⟨nofun, fun h' => absurd h' h⟩
  rw [CountsWaiting, hanswer, henters]
  omega

def valley : Bg.Config :=
  { isArena := false, isRated := false, minPlayersPerTeam := 20, maxPlayersPerTeam := 40 }

def raids (n : Nat) : State :=
  run step {} ((range n).map fun i =>
    (sampleEnv, .addGroup { duelJoin (40 * i + 1) .alliance Team.alliance.id with
      members := some ((range 40).map fun k => 40 * i + k + 1) }))

theorem fillXPlayersToBG_counts_raid : (raids 1).CountsWaiting 0 (Bg.create valley sampleEnv.world) sampleEnv :=
  (fillXPlayersToBG_counts_iff (by decide) _ _ _).2 (.inr (by decide +kernel))

/-- Seven raids are not: the 280 players are counted as 24. -/
theorem fillXPlayersToBG_forgets_raids :
    ¬ (raids 7).CountsWaiting 0 (Bg.create valley sampleEnv.world) sampleEnv := by
  unfold CountsWaiting
  decide +kernel

/-! ## The balancing as it is meant -/

structure Balance where
  picked : PerTeam (List Ptr)
  team : Ptr → Team

namespace Balance

variable (st : State) (minPlayers : Nat) (slots : PerTeam Int) (s : Balance) (p : Ptr)

def players (t : Team) : Nat := total st.groupSize (s.picked.get t)

def free (t : Team) : Int := slots.get t - s.players st t

/-- The group is invited or picked already, or there are enough players. -/
def Skips : Prop :=
  (st.group p).isInvited = true ∨ p ∈ s.picked.alliance ∨ p ∈ s.picked.horde ∨
    (minPlayers ≤ s.players st .alliance ∧ minPlayers ≤ s.players st .horde)

instance : Decidable (s.Skips st minPlayers p) := by unfold Skips; infer_instance

/-- The side with more free slots, or else the group's own. -/
def side : Team :=
  if s.free st slots .alliance < s.free st slots .horde then .horde
  else if s.free st slots .horde < s.free st slots .alliance then .alliance
  else s.team p

def Fits : Prop :=
  s.players st (s.side st slots p) + st.groupSize p ≤ toUInt32 (slots.get (s.side st slots p))

instance : Decidable (s.Fits st slots p) := by unfold Fits; infer_instance

def TooLarge : Prop :=
  ¬ s.Skips st minPlayers p ∧ ¬ s.Fits st slots p ∧
    s.players st (s.side st slots p) < toUInt32 (slots.get (s.side st slots p))

instance : Decidable (s.TooLarge st minPlayers slots p) := by unfold TooLarge; infer_instance

def setTeam (t : Team) : Balance := { s with team := update s.team p t }

def add (t : Team) : Balance := { s with picked := s.picked.set t (s.picked.get t ++ [p]) }

def turn : Balance :=
  if s.Skips st minPlayers p then s
  else if s.Fits st slots p then (s.setTeam p (s.side st slots p)).add p (s.side st slots p)
  else s.setTeam p (s.side st slots p)

@[simp] theorem players_setTeam (t t' : Team) : (s.setTeam p t).players st t' = s.players st t' := rfl

@[simp] theorem free_setTeam (t t' : Team) : (s.setTeam p t).free st slots t' = s.free st slots t' := rfl

theorem players_add (t t' : Team) : (s.add p t).players st t' =
    if t = t' then s.players st t + st.groupSize p else s.players st t' := by
  unfold players add
  rw [PerTeam.get_set]
  split
  · rw [total_append, total_cons, total_nil, add_zero]
  · rfl

def NeverTooLarge : Balance → List Ptr → Prop
  | _, [] => True
  | s, p :: ps => ¬ s.TooLarge st minPlayers slots p ∧ NeverTooLarge (s.turn st minPlayers slots p) ps

end Balance

namespace State

variable (st) (b) (bg) (start)

def balanceStart : Balance where
  picked :=
    if start then ⟨st.ownPicks b bg.config.maxPlayersPerTeam .alliance,
      st.ownPicks b bg.config.maxPlayersPerTeam .horde⟩
    else ⟨[], []⟩
  team p := (st.group p).team

/-- The two conditions: of either faction as many fit as do not, and no group is too large for the side
it is up for. -/
structure CountsDown : Prop where
  half : start = true → ∀ t, st.ownRoom b bg.config.maxPlayersPerTeam =
    2 * total st.groupSize (st.ownPicks b bg.config.maxPlayersPerTeam t)
  fits : Balance.NeverTooLarge st bg.config.minPlayersPerTeam (fillSlots bg start)
    (st.balanceStart b bg start) (st.fillOrder b)

def realFree (s : State) (t : Team) : Int :=
  (fillSlots bg start).get t - total st.groupSize (s.pool t).selectedGroups

def Tracked (f : FillState) : Prop := ∀ t, f.free.get t = st.realFree bg start f.st t

/-- What a turn puts into a pool goes to the side with more free slots, unless both have as many. -/
def PlacesWell (f f' : FillState) : Prop :=
  ∀ t p, (f'.st.pool t).selectedGroups = (f.st.pool t).selectedGroups ++ [p] →
    st.realFree bg start f.st .alliance ≠ st.realFree bg start f.st .horde →
    st.realFree bg start f.st t.other < st.realFree bg start f.st t

structure TracksFreeSlots : Prop where
  tracked : ∀ done rest, st.fillOrder b = done ++ rest → st.Tracked bg start (st.fillAfter b bg start done)
  placed : ∀ done p rest, st.fillOrder b = done ++ p :: rest →
    st.PlacesWell bg start (st.fillAfter b bg start done) (st.fillAfter b bg start (done ++ [p]))

end State

/-! ## The loop and the balancing agree as long as the counters are right -/

/-- The state of the loop shows what the balancing without counters has picked. -/
structure Follows (st : State) (f : State) (s : Balance) : Prop where
  players : ∀ p, (f.group p).players = (st.group p).players
  invited : ∀ p, f.invitedTo p = st.invitedTo p
  live : ∀ p, (∃ g, st.groups p = some g) → ∃ g, f.groups p = some g
  team : ∀ p, (∃ g, st.groups p = some g) → (f.group p).team = s.team p
  pool : ∀ t, f.pool t = ⟨s.picked.get t, s.players st t⟩

variable {f : State} {s : Balance} {p : Ptr}

theorem Follows.size (h : Follows st f s) (p : Ptr) : (f.group p).size = st.groupSize p :=
  congrArg OrdMap.size (h.players p)

theorem Follows.realFree (h : Follows st f s) (t : Team) :
    st.realFree bg start f t = s.free st (fillSlots bg start) t := by
  unfold State.realFree Balance.free Balance.players
  rw [h.pool]

theorem Follows.setTeam (h : Follows st f s) (hp : ∃ g, st.groups p = some g) (t : Team) :
    Follows st (f.setTeam p t) (s.setTeam p t) where
  players q := by
    rw [← h.players q]
    exact modifyGroup_field f GroupQueueInfo.players (f := ({ · with team := t })) (fun _ => rfl) p q
  invited q := (setTeam_invitedTo f p t q).trans (h.invited q)
  live q hq := modifyGroup_live f p _ (h.live q hq)
  team q hq := by
    unfold Balance.setTeam
    dsimp only
    by_cases hqp : q = p
    · subst hqp
      obtain ⟨g, hg⟩ := h.live q hq
      simp [State.group, State.setTeam, State.modifyGroup, hg]
    · rw [setTeam_group f hqp, update_of_ne hqp]
      exact h.team q hq
  pool t := h.pool t

theorem Follows.add (h : Follows st f s) (p : Ptr) (t : Team) :
    Follows st (f.setPool t ⟨s.picked.get t ++ [p], s.players st t + st.groupSize p⟩) (s.add p t) where
  players := h.players
  invited := h.invited
  live := h.live
  team := h.team
  pool t' := by
    rw [setPool_pool]
    rw [Balance.players_add]
    unfold Balance.add
    rw [PerTeam.get_set]
    split
    · rfl
    · exact h.pool t'

theorem Follows.side {f : FillState} (h : Follows st f.st s) (htrack : st.Tracked bg start f)
    (hp : ∃ g, st.groups p = some g) :
    Follows st (if f.free.alliance ≠ f.free.horde then
        f.st.setTeam p (if f.free.alliance < f.free.horde then .horde else .alliance) else f.st)
      (s.setTeam p (s.side st (fillSlots bg start) p)) := by
  have hA : f.free.alliance = s.free st (fillSlots bg start) .alliance :=
    (htrack .alliance).trans (h.realFree .alliance)
  have hH : f.free.horde = s.free st (fillSlots bg start) .horde :=
    (htrack .horde).trans (h.realFree .horde)
  unfold Balance.side
  rw [hA, hH]
  rcases lt_trichotomy (s.free st (fillSlots bg start) .alliance)
    (s.free st (fillSlots bg start) .horde) with hlt | heq | hgt
  · rw [if_pos hlt.ne, if_pos hlt, if_pos hlt]
    exact h.setTeam hp _
  · rw [if_neg (not_not.2 heq), if_neg heq.not_lt, if_neg heq.not_gt]
    unfold Balance.setTeam
    rw [update_eq_self]
    exact h
  · rw [if_pos hgt.ne', if_neg hgt.not_gt, if_neg hgt.not_gt, if_pos hgt]
    exact h.setTeam hp _

theorem Follows.skips {f : FillState} (h : Follows st f.st s) (minPlayers : Nat) (p : Ptr) :
    ((f.st.group p).isInvited || p ∈ (f.st.pool .alliance).selectedGroups ||
      p ∈ (f.st.pool .horde).selectedGroups || (minPlayers ≤ (f.st.pool .alliance).playerCount &&
        minPlayers ≤ (f.st.pool .horde).playerCount)) = true ↔ s.Skips st minPlayers p := by
  have hinv : (f.st.group p).isInvited = (st.group p).isInvited := by
    rw [isInvited_eq, isInvited_eq, h.invited]
  rw [hinv, h.pool, h.pool]
  simp only [Balance.Skips, Bool.or_eq_true, Bool.and_eq_true, decide_eq_true_eq, or_assoc]
  exact Iff.rfl

theorem Follows.tracked_iff {f : FillState} (h : Follows st f.st s) :
    st.Tracked bg start f ↔ ∀ t, f.free.get t = s.free st (fillSlots bg start) t :=
  forall_congr' fun t => by rw [h.realFree]

theorem Follows.added {f' : State} (h : Follows st f' s) (hinv : (st.group p).isInvited = false)
    {t : Team} {desired : Nat} (hfit : s.players st t + st.groupSize p ≤ desired) :
    (f'.pool t).addGroup f'.group p desired =
      (⟨s.picked.get t ++ [p], s.players st t + st.groupSize p⟩, true) := by
  have hinv' : (f'.group p).isInvited = false := by
    rw [isInvited_eq, h.invited, ← isInvited_eq, hinv]
  rw [h.pool]
  unfold SelectionPool.addGroup
  rw [hinv', h.size, if_pos (by simpa using hfit)]

theorem Follows.notAdded {f' : State} (h : Follows st f' s) {t : Team} {desired : Nat}
    (hfit : ¬ s.players st t + st.groupSize p ≤ desired) :
    (f'.pool t).addGroup f'.group p desired = (f'.pool t, decide (s.players st t < desired)) := by
  have hfit' : ¬ (!(f'.group p).isInvited && decide ((f'.pool t).playerCount + (f'.group p).size ≤
      desired)) = true := by
    rw [h.pool, h.size]
    simp only [Bool.and_eq_true, decide_eq_true_eq, not_and]
    exact fun _ => hfit
  unfold SelectionPool.addGroup
  rw [if_neg hfit', h.pool]

theorem Follows.turn {f : FillState} (h : Follows st f.st s) (htrack : st.Tracked bg start f)
    (hp : ∃ g, st.groups p = some g) (minPlayers : Nat) :
    Follows st (fillOne minPlayers (fillSlots bg start) f p).st (s.turn st minPlayers (fillSlots bg start) p) ∧
      (st.Tracked bg start (fillOne minPlayers (fillSlots bg start) f p) ↔
        ¬ s.TooLarge st minPlayers (fillSlots bg start) p) := by
  have hside := h.side htrack hp
  have hfree := h.tracked_iff.1 htrack
  unfold fillOne Balance.turn Balance.TooLarge
  by_cases hskip : s.Skips st minPlayers p
  · rw [if_pos ((h.skips minPlayers p).2 hskip), if_pos hskip]
    exact ⟨h, iff_of_true htrack fun hlarge => hlarge.1 hskip⟩
  rw [if_neg (mt (h.skips minPlayers p).1 hskip), if_neg hskip]
  revert hside
  generalize (if f.free.alliance ≠ f.free.horde then
    f.st.setTeam p (if f.free.alliance < f.free.horde then .horde else .alliance) else f.st) = f'
  intro hside
  obtain ⟨t, ht⟩ : ∃ t, s.side st (fillSlots bg start) p = t := ⟨_, rfl⟩
  have hfits : s.Fits st (fillSlots bg start) p ↔
      s.players st t + st.groupSize p ≤ toUInt32 ((fillSlots bg start).get t) := by
    rw [Balance.Fits, ht]
  rw [ht] at hside ⊢
  have hteam : (f'.group p).team = t := by
    rw [hside.team p hp]
    exact update_self ..
  have hinv : (st.group p).isInvited = false := Bool.eq_false_iff.2 fun hinv => hskip (.inl hinv)
  dsimp only
  rw [hteam, hside.size]
  by_cases hfit : s.players st t + st.groupSize p ≤ toUInt32 ((fillSlots bg start).get t)
  · rw [if_pos (hfits.2 hfit), hside.added hinv hfit]
    rw [if_pos rfl]
    have hadd := hside.add p t
    refine ⟨hadd, iff_of_true (hadd.tracked_iff.2 fun t' => ?_) fun hlarge => hlarge.2.1 (hfits.2 hfit)⟩
    rw [PerTeam.get_set, Balance.free, Balance.players_add, Balance.players_setTeam]
    split
    · rename_i ht
      rw [← ht, hfree, Balance.free]
      omega
    · exact hfree t'
  · rw [if_neg (mt hfits.1 hfit), hside.notAdded hfit, Balance.players_setTeam]
    dsimp only
    rw [setPool_pool_eq]
    refine ⟨hside, hside.tracked_iff.trans ?_⟩
    by_cases hroom : s.players st t < toUInt32 ((fillSlots bg start).get t)
    · rw [if_pos (decide_eq_true hroom)]
      refine iff_of_false (fun htracked => ?_) fun hlarge => hlarge ⟨hskip, mt hfits.1 hfit, hroom⟩
      have hwrong := htracked t
      rw [PerTeam.get_set_self, hfree] at hwrong
      rw [Balance.free_setTeam] at hwrong
      omega
    · rw [if_neg (by simpa using hroom)]
      exact iff_of_true (fun t' => hfree t') fun hlarge => hroom hlarge.2.2

theorem Follows.foldl {f : FillState} (h : Follows st f.st s) (bg : Battleground) (start : Bool) (minPlayers : Nat)
    {done : List Ptr} (hdone : ∀ p ∈ done, ∃ g, st.groups p = some g)
    (htracked : ∀ pre rest, done = pre ++ rest →
      st.Tracked bg start (pre.foldl (fillOne minPlayers (fillSlots bg start)) f)) :
    Follows st (done.foldl (fillOne minPlayers (fillSlots bg start)) f).st
      (done.foldl (Balance.turn st minPlayers (fillSlots bg start)) s) := by
  induction done generalizing f s with
  | nil => exact h
  | cons p done ih =>
    have hnext := (h.turn (htracked [] _ rfl) (hdone p mem_cons_self) minPlayers).1
    exact ih hnext (fun q hq => hdone q (mem_cons_of_mem p hq)) fun pre rest heq =>
      htracked (p :: pre) rest (congrArg (p :: ·) heq)

theorem Follows.loop {f : FillState} (h : Follows st f.st s) (bg : Battleground) (start : Bool) (minPlayers : Nat)
    {order : List Ptr} (horder : ∀ p ∈ order, ∃ g, st.groups p = some g) :
    (∀ done rest, order = done ++ rest →
      st.Tracked bg start (done.foldl (fillOne minPlayers (fillSlots bg start)) f)) ↔
      st.Tracked bg start f ∧ s.NeverTooLarge st minPlayers (fillSlots bg start) order := by
  induction order generalizing f s with
  | nil =>
    constructor
    · intro htracked
      exact ⟨htracked [] [] rfl, trivial⟩
    · rintro ⟨htrack, -⟩ done rest heq
      rw [(append_eq_nil_iff.1 heq.symm).1]
      exact htrack
  | cons p order ih =>
    have hlive := horder p mem_cons_self
    have hrest : ∀ q ∈ order, ∃ g, st.groups q = some g := fun q hq => horder q (mem_cons_of_mem p hq)
    constructor
    · intro htracked
      have htrack := htracked [] (p :: order) rfl
      obtain ⟨hnext, hiff⟩ := h.turn htrack hlive minPlayers
      have hlater := (ih hnext hrest).1 fun done rest heq =>
        htracked (p :: done) rest (congrArg (p :: ·) heq)
      exact ⟨htrack, hiff.1 hlater.1, hlater.2⟩
    · rintro ⟨htrack, hfits, hnever⟩ done rest heq
      obtain ⟨hnext, hiff⟩ := h.turn htrack hlive minPlayers
      cases done with
      | nil => exact htrack
      | cons q done =>
        obtain ⟨rfl, htail⟩ := List.cons.inj heq
        exact (ih hnext hrest).2 ⟨hiff.2 hfits, hnever⟩ done rest htail

/-! ## Where a group is put -/

namespace Balance

variable {minPlayers : Nat} {slots : PerTeam Int}

theorem free_side (h : s.free st slots .alliance ≠ s.free st slots .horde) (p : Ptr) :
    s.free st slots (s.side st slots p).other < s.free st slots (s.side st slots p) := by
  unfold side
  rcases lt_or_gt_of_ne h with hlt | hgt
  · rw [if_pos hlt]
    exact hlt
  · rw [if_neg hgt.not_gt, if_pos hgt]
    exact hgt

theorem side_of_grows {t : Team} {q : Ptr}
    (h : (s.turn st minPlayers slots p).picked.get t = s.picked.get t ++ [q]) : s.side st slots p = t := by
  have hgrows : s.picked.get t ≠ s.picked.get t ++ [q] := by simp
  unfold turn at h
  by_cases hskip : s.Skips st minPlayers p
  · rw [if_pos hskip] at h
    exact absurd h hgrows
  rw [if_neg hskip] at h
  by_cases hfit : s.Fits st slots p
  · rw [if_pos hfit] at h
    unfold add setTeam at h
    rw [PerTeam.get_set] at h
    by_contra hne
    rw [if_neg hne] at h
    exact hgrows h
  · rw [if_neg hfit] at h
    exact absurd h hgrows

end Balance

theorem Follows.placesWell {f : FillState} (h : Follows st f.st s) (htrack : st.Tracked bg start f)
    (hp : ∃ g, st.groups p = some g) (minPlayers : Nat) :
    st.PlacesWell bg start f (fillOne minPlayers (fillSlots bg start) f p) := by
  intro t q hgrows hdiffer
  rw [(h.turn htrack hp minPlayers).1.pool, h.pool] at hgrows
  simp only [h.realFree] at hdiffer ⊢
  have hside := Balance.side_of_grows hgrows
  rw [← hside]
  exact Balance.free_side hdiffer p

/-! ## The beginning of the loop -/

theorem balanceStart_follows (st : State) (b : BattlegroundBracketId) (bg : Battleground) (start : Bool) :
    Follows st (st.fillStart b bg start).st (st.balanceStart b bg start) := by
  cases start with
  | true =>
    unfold fillStart fillSlots
    rw [if_pos rfl, if_pos rfl, preAdd_fill]
    exact ⟨fun _ => rfl, fun _ => rfl, fun _ h => h, fun _ _ => rfl, fun t => by cases t <;> rfl⟩
  | false => exact ⟨fun _ => rfl, fun _ => rfl, fun _ h => h, fun _ _ => rfl, fun t => by cases t <;> rfl⟩

theorem tracked_fillStart : st.Tracked bg start (st.fillStart b bg start) ↔
    (start = true → ∀ t, st.ownRoom b bg.config.maxPlayersPerTeam =
      2 * total st.groupSize (st.ownPicks b bg.config.maxPlayersPerTeam t)) := by
  rw [(balanceStart_follows st b bg start).tracked_iff]
  cases start with
  | true =>
    have hslots : fillSlots bg true =
        ⟨toInt32 bg.config.maxPlayersPerTeam, toInt32 bg.config.maxPlayersPerTeam⟩ := if_pos rfl
    have hstart : st.fillStart b bg true = st.initPools.preAdd b (fillSlots bg true) := if_pos rfl
    have hplayers : ∀ t, (st.balanceStart b bg true).players st t =
        total st.groupSize (st.ownPicks b bg.config.maxPlayersPerTeam t) := by
      intro t
      cases t <;> rfl
    have hget : ∀ t, (st.fillStart b bg true).free.get t = toInt32 bg.config.maxPlayersPerTeam -
        (st.ownRoom b bg.config.maxPlayersPerTeam -
          total st.groupSize (st.ownPicks b bg.config.maxPlayersPerTeam t)) := by
      intro t
      rw [hstart, hslots, preAdd_fill]
      cases t <;> exact PerTeam.get.eq_def _ _
    simp only [forall_true_left]
    refine forall_congr' fun t => ?_
    rw [hget, Balance.free, hslots, PerTeam.get_const, hplayers]
    omega
  | false =>
    refine iff_of_true (fun t => ?_) nofun
    have hnobody : (st.balanceStart b bg false).players st t = 0 := by cases t <;> rfl
    have hfree : (st.fillStart b bg false).free = fillSlots bg false := by
      simp only [fillStart, Bool.false_eq_true, if_false]
    rw [Balance.free, hnobody, hfree, Int.natCast_zero, sub_zero]

/-- **The counters of the balancing loop are the free slots exactly when** the first part fills half of
its room on either side and no group is too large for the side with room that it is up for. -/
theorem fillXPlayersToBG_tracks_iff
    (hlive : ∀ p ∈ st.queuedGroups b .mixed, ∃ g, st.groups p = some g) (bg : Battleground) (start : Bool) :
    (st.FillEnters b bg start env → st.TracksFreeSlots b bg start) ↔
      (st.FillEnters b bg start env → st.CountsDown b bg start) := by
  refine imp_congr_right fun _ => ?_
  have hfollows := balanceStart_follows st b bg start
  have horder : ∀ p ∈ st.fillOrder b, ∃ g, st.groups p = some g := fun p hp =>
    hlive p ((largestFirst_perm _).subset hp)
  have hloop := hfollows.loop bg start bg.config.minPlayersPerTeam horder
  constructor
  · intro h
    obtain ⟨htrack, hnever⟩ := hloop.1 h.tracked
    exact ⟨tracked_fillStart.1 htrack, hnever⟩
  · intro h
    have htracked := hloop.2 ⟨tracked_fillStart.2 h.half, h.fits⟩
    refine ⟨htracked, fun done p rest heq => ?_⟩
    have hpast := hfollows.foldl bg start bg.config.minPlayersPerTeam
      (fun q hq => horder q (heq ▸ mem_append_left _ hq)) fun pre past hpre =>
        htracked pre (past ++ p :: rest) (by rw [heq, hpre, append_assoc])
    have hp := horder p (heq ▸ mem_append_right _ mem_cons_self)
    unfold fillAfter
    rw [foldl_append]
    exact hpast.placesWell (htracked done (p :: rest) heq) hp _

/-- Of either faction a player and a group of three, for which there is no room. -/
def crowd : State :=
  run step {} [(sampleEnv, .addGroup (duelJoin 1 .alliance Team.alliance.id)),
    (sampleEnv, .addGroup { duelJoin 2 .alliance Team.alliance.id with members := some [2, 3, 4] }),
    (sampleEnv, .addGroup (duelJoin 5 .horde Team.horde.id)),
    (sampleEnv, .addGroup { duelJoin 6 .horde Team.horde.id with members := some [6, 7, 8] })]

theorem crowd_tracks :
    crowd.TracksFreeSlots 0 (Bg.create { duel with maxPlayersPerTeam := 2 } sampleEnv.world) true := by
  have hlive : ∀ p ∈ crowd.queuedGroups 0 .mixed, (crowd.groups p).isSome := by decide
  have horder : crowd.fillOrder 0 = [3, 1, 2, 0] := by decide +kernel
  have henters : crowd.FillEnters 0 (Bg.create { duel with maxPlayersPerTeam := 2 } sampleEnv.world) true sampleEnv :=
    .inr (.inl (by decide))
  refine (fillXPlayersToBG_tracks_iff (fun p hp => Option.isSome_iff_exists.1 (hlive p hp)) _ _).2
    (fun _ => ⟨fun _ t => by cases t <;> decide +kernel, ?_⟩) henters
  rw [horder]
  exact ⟨by decide +kernel, by decide +kernel, by decide +kernel, by decide +kernel, trivial⟩

/-- With one player of each faction the counters say that both sides are free when both are full. -/
theorem fillXPlayersToBG_loses_track :
    (duelQueue .alliance .horde).FillEnters 0 (Bg.create duel sampleEnv.world) true sampleEnv ∧
      ¬ (duelQueue .alliance .horde).TracksFreeSlots 0 (Bg.create duel sampleEnv.world) true := by
  refine ⟨.inr (.inl (by decide)), fun h => ?_⟩
  have hfree := h.tracked [] _ rfl .alliance
  revert hfree
  decide

end Axium.Queue
