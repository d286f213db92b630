import Axium.Zones.Zone
import Mathlib.Data.Fintype.Pi

/-!
# Arathi Basin

`BattlegroundAB`: five nodes that the teams contest and hold, and the scores they earn with them. A
click on a banner makes a node contested, or gives it back to the team that held it; after a minute
a contested node falls to the team that contests it.

Banners, spirit guides, auras, messages and the honor and reputation that players receive are left out:
no decision of the code reads them.
-/

namespace Axium.Zones.AB

open Bg Run Function

def maxTeamScore : Nat := 1600

def flagCapturingTime : Nat := 60000

def tickIntervals : Nat → Nat
  | 1 => 12000
  | 2 => 9000
  | 3 => 6000
  | 4 => 3000
  | 5 => 1000
  | _ => 0

def tickPoints : Nat → Nat
  | 0 => 0
  | 5 => 30
  | _ => 10

def index : Team → UInt8
  | .alliance => 0
  | .horde => 1

/-- An entry of `m_Nodes`, `m_prevNodes` and `m_NodeTimers`. The status is 0 for a neutral node, 1 and
2 for one contested by the alliance and the horde, 3 and 4 for one occupied by them. -/
structure Node where
  status : UInt8 := 0
  prevStatus : UInt8 := 0
  timer : Nat := 0
  deriving DecidableEq, Repr

namespace Node

variable (n : Node)

def mayClick (t : Team) : Prop := n.status = 0 ∨ index t = n.status % 2

instance (t : Team) : Decidable (n.mayClick t) := inferInstanceAs (Decidable (_ ∨ _))

/-- `EventPlayerClickedOnFlag` after the checks. -/
def click (t : Team) : Node :=
  if n.status = 0 then
    { status := index t + 1, prevStatus := n.status, timer := flagCapturingTime }
  else if n.status = 1 ∨ n.status = 2 then
    if n.prevStatus < 3 then
      { status := index t + 1, prevStatus := n.status, timer := flagCapturingTime }
    else
      -- contested, changed back to occupied
      { status := index t + 3, prevStatus := n.status, timer := 0 }
  else
    { status := index t + 1, prevStatus := n.status, timer := flagCapturingTime }

/-- The node's part of `PostUpdateImpl`. -/
def tick (diff : Nat) : Node :=
  if n.timer ≠ 0 then
    if diff < n.timer then { n with timer := n.timer - diff }
    else { status := n.status + 2, prevStatus := n.status, timer := 0 }
  else n

def occupiedBy (t : Team) : Prop := n.status = index t + 3

instance (t : Team) : Decidable (n.occupiedBy t) := inferInstanceAs (Decidable (_ = _))

end Node

/-- The data of the class. The scores are `int32`s that start at zero and only grow. -/
structure ArathiBasin where
  nodes : Fin 5 → Node := fun _ => {}
  teamScores : PerTeam Nat := ⟨0, 0⟩
  lastTick : PerTeam Nat := ⟨0, 0⟩
  honorScoreTics : PerTeam Nat := ⟨0, 0⟩
  reputationScoreTics : PerTeam Nat := ⟨0, 0⟩
  honorTics : Nat := 260
  reputationTics : Nat := 160
  isInformedNearVictory : Bool := false
  teamScores500Disadvantage : PerTeam Bool := ⟨false, false⟩

namespace ArathiBasin

variable (z : ArathiBasin)

/-- `team_points`: the nodes that the team occupies. -/
def teamPoints (t : Team) : Nat := (List.finRange 5).countP fun i => (z.nodes i).occupiedBy t

def addTics (t : Team) (points : Nat) : ArathiBasin :=
  let honor := z.honorScoreTics.get t + points
  let reputation := z.reputationScoreTics.get t + points
  { z with
    honorScoreTics := z.honorScoreTics.set t
      (if z.honorTics ≤ honor then honor - z.honorTics else honor)
    reputationScoreTics := z.reputationScoreTics.set t
      (if z.reputationTics ≤ reputation then reputation - z.reputationTics else reputation) }

/-- The score after `points` more, the warning and the achievement flag. -/
def addScore (t : Team) (points : Nat) : ArathiBasin :=
  let score := z.teamScores.get t + points
  let informed := z.isInformedNearVictory || 1400 < score
  let score := if maxTeamScore < score then maxTeamScore else score
  { z with
    teamScores := z.teamScores.set t score
    isInformedNearVictory := informed
    teamScores500Disadvantage :=
      if z.teamScores.get t.other + 500 < score then z.teamScores500Disadvantage.set t.other true
      else z.teamScores500Disadvantage }

def accumulate (diff : Nat) (t : Team) : ArathiBasin :=
  let points := z.teamPoints t
  if points = 0 then z
  else
    let lastTick := (z.lastTick.get t + diff) % 2 ^ 32
    if tickIntervals points < lastTick then
      ({ z with lastTick := z.lastTick.set t (lastTick - tickIntervals points) }.addTics t
        (tickPoints points)).addScore t (tickPoints points)
    else { z with lastTick := z.lastTick.set t lastTick }

/-- `PostUpdateImpl` up to the win condition. -/
def tick (diff : Nat) : ArathiBasin :=
  let z := { z with nodes := fun i => (z.nodes i).tick diff }
  (z.accumulate diff .alliance).accumulate diff .horde

end ArathiBasin

/-- The win condition: two tests, the second made also when the first has ended the match. -/
def testWin (s : Zone ArathiBasin) : Zone ArathiBasin :=
  let s := if maxTeamScore ≤ s.own.teamScores.alliance then s.endBattleground Team.alliance.id else s
  if maxTeamScore ≤ s.own.teamScores.horde then s.endBattleground Team.horde.id else s

def postUpdateImpl (diff : Nat) (s : Zone ArathiBasin) : Zone ArathiBasin :=
  if s.bg.status = .inProgress then testWin { s with own := s.own.tick diff } else s

/-- `EventPlayerClickedOnFlag`, for the first node whose banner is near the player. -/
def eventPlayerClickedOnFlag (guid : Guid) (near : Fin 5 → Bool) (s : Zone ArathiBasin) : Zone ArathiBasin :=
  if s.bg.status = .inProgress then
    match (List.finRange 5).find? near with
    | some i =>
      let t := (s.bg.world.player guid).team
      if (s.own.nodes i).mayClick t then
        { s with own := { s.own with
          nodes := update s.own.nodes i ((s.own.nodes i).click t) } }
      else s
    | none => s
  else s

structure Click where
  guid : Guid
  near : Fin 5 → Bool

def overrides : Overrides ArathiBasin Unit Click where
  postUpdateImpl _ := postUpdateImpl
  handle e := eventPlayerClickedOnFlag e.guid e.near

def step (s : Zone ArathiBasin) (we : World × Event Unit Click) : Zone ArathiBasin := s.step overrides we

def create (config : Config) (world : World) (isBGWeekend : Bool) : Zone ArathiBasin where
  bg := Bg.create config world
  own :=
    { honorTics := if isBGWeekend then 160 else 260
      reputationTics := if isBGWeekend then 120 else 160 }

/-! ## One node -/

/-- A contested node that was occupied is contested by the other team, and the timer runs exactly while
a node is contested. -/
structure Node.WF (n : Node) : Prop where
  status_le : n.status ≤ 4
  timer_iff : n.timer ≠ 0 ↔ n.status = 1 ∨ n.status = 2
  prev_eq : ∀ t, n.status = index t + 1 → 3 ≤ n.prevStatus → n.prevStatus = index t.other + 3

namespace Node

variable {n : Node}

theorem status_cases (h : n.status ≤ 4) :
    n.status = 0 ∨ (∃ t, n.status = index t + 1) ∨ ∃ t, n.status = index t + 3 := by
  have hle : n.status.toNat ≤ 4 := UInt8.le_iff_toNat_le.1 h
  have hcases : n.status.toNat = 0 ∨ n.status.toNat = 1 ∨ n.status.toNat = 2 ∨
      n.status.toNat = 3 ∨ n.status.toNat = 4 := by omega
  rcases hcases with h | h | h | h | h
  · exact .inl (UInt8.toNat_inj.1 h)
  · exact .inr (.inl ⟨.alliance, UInt8.toNat_inj.1 h⟩)
  · exact .inr (.inl ⟨.horde, UInt8.toNat_inj.1 h⟩)
  · exact .inr (.inr ⟨.alliance, UInt8.toNat_inj.1 h⟩)
  · exact .inr (.inr ⟨.horde, UInt8.toNat_inj.1 h⟩)

theorem contested_iff : n.status = 1 ∨ n.status = 2 ↔ ∃ t, n.status = index t + 1 := by
  constructor
  · rintro (h | h)
    · exact ⟨.alliance, h⟩
    · exact ⟨.horde, h⟩
  · rintro ⟨t, h⟩
    cases t with
    | alliance => exact .inl h
    | horde => exact .inr h

theorem mayClick_contested {t u : Team} (h : n.status = index u + 1) : n.mayClick t ↔ t = u.other := by
  unfold mayClick
  rw [h]
  cases t <;> cases u <;> decide

theorem mayClick_occupied {t u : Team} (h : n.status = index u + 3) : n.mayClick t ↔ t = u.other := by
  unfold mayClick
  rw [h]
  cases t <;> cases u <;> decide

theorem click_neutral (h : n.status = 0) (t : Team) :
    n.click t = { status := index t + 1, prevStatus := 0, timer := flagCapturingTime } := by
  rw [click, if_pos h, h]

theorem click_occupied {u : Team} (h : n.status = index u + 3) (t : Team) :
    n.click t
      = { status := index t + 1, prevStatus := index u + 3, timer := flagCapturingTime } := by
  have hneutral : ¬ n.status = 0 := by
    rw [h]
    cases u <;> decide
  have hcontested : ¬ (n.status = 1 ∨ n.status = 2) := by
    rw [h]
    cases u <;> decide
  rw [click, if_neg hneutral, if_neg hcontested, h]

theorem click_contested {u : Team} (h : n.status = index u + 1) (t : Team) :
    n.click t
      = if n.prevStatus < 3 then
          { status := index t + 1, prevStatus := index u + 1, timer := flagCapturingTime }
        else { status := index t + 3, prevStatus := index u + 1, timer := 0 } := by
  have hneutral : ¬ n.status = 0 := by
    rw [h]
    cases u <;> decide
  rw [click, if_neg hneutral, if_pos (contested_iff.2 ⟨u, h⟩), h]

theorem index_add_one_inj {t u : Team} (h : index t + 1 = index u + 1) : t = u := by
  revert h
  cases t <;> cases u <;> decide

theorem index_add_three_inj {t u : Team} (h : index t + 3 = index u + 3) : t = u := by
  revert h
  cases t <;> cases u <;> decide

theorem index_add_one_ne (t u : Team) : index t + 1 ≠ index u + 3 := by
  cases t <;> cases u <;> decide

theorem not_three_le_index (t : Team) : ¬ 3 ≤ index t + 1 := by cases t <;> decide

theorem index_add_one_le (t : Team) : index t + 1 ≤ 4 := by cases t <;> decide

theorem index_add_three_le (t : Team) : index t + 3 ≤ 4 := by cases t <;> decide

variable {t : Team}

theorem WF.contested {prev : UInt8} {timer : Nat} (htimer : timer ≠ 0)
    (hprev : 3 ≤ prev → prev = index t.other + 3) :
    WF { status := index t + 1, prevStatus := prev, timer := timer } where
  status_le := index_add_one_le t
  timer_iff := iff_of_true htimer (contested_iff.2 ⟨t, rfl⟩)
  prev_eq u hu hge := by
    rw [← index_add_one_inj hu]
    exact hprev hge

theorem WF.occupied (t : Team) (prev : UInt8) :
    WF { status := index t + 3, prevStatus := prev, timer := 0 } where
  status_le := index_add_three_le t
  timer_iff := by
    refine iff_of_false (fun h => h rfl) fun h => ?_
    obtain ⟨u, hu⟩ := contested_iff.1 h
    exact index_add_one_ne u t hu.symm
  prev_eq u hu := absurd hu.symm (index_add_one_ne u t)

theorem WF.click (h : n.WF) (ht : n.mayClick t) : (n.click t).WF := by
  rcases status_cases h.status_le with hs | ⟨u, hs⟩ | ⟨u, hs⟩
  · rw [click_neutral hs]
    exact .contested (by decide) fun hge => absurd hge (by decide)
  · rw [click_contested hs]
    split
    · exact .contested (by decide) fun hge => absurd hge (not_three_le_index u)
    · exact .occupied t _
  · rw [click_occupied hs, (mayClick_occupied hs).1 ht]
    refine .contested (by decide) fun _ => ?_
    rw [Team.other_other]

theorem tick_of_running {diff : Nat} (hs : n.status = index t + 1) (htimer : n.timer ≠ 0) :
    n.tick diff = if diff < n.timer then { n with timer := n.timer - diff }
      else { status := index t + 3, prevStatus := index t + 1, timer := 0 } := by
  rw [tick, if_pos htimer, hs]
  cases t <;> rfl

theorem WF.tick (h : n.WF) (diff : Nat) : (n.tick diff).WF := by
  by_cases htimer : n.timer = 0
  · rw [Node.tick, if_neg (not_not.2 htimer)]
    exact h
  · obtain ⟨t, hs⟩ := contested_iff.1 (h.timer_iff.1 htimer)
    rw [tick_of_running hs htimer]
    split
    · have hpos : n.timer - diff ≠ 0 := by omega
      refine ⟨h.status_le, iff_of_true hpos (contested_iff.2 ⟨t, hs⟩), h.prev_eq⟩
    · exact .occupied t _

/-! ## The team that occupied a node last -/

def occupier (n : Node) : Option Team :=
  if n.occupiedBy .alliance then some .alliance
  else if n.occupiedBy .horde then some .horde
  else none

theorem occupier_of_occupied (h : n.status = index t + 3) : n.occupier = some t := by
  simp only [occupier, occupiedBy, h]
  cases t <;> rfl

theorem occupier_of_contested (h : n.status = index t + 1) : n.occupier = none := by
  simp only [occupier, occupiedBy, h]
  cases t <;> rfl

/-- A well-formed node and the team that occupied it last. -/
structure Held (n : Node) (last : Option Team) : Prop where
  wf : n.WF
  occupied : ∀ t, n.status = index t + 3 → last = some t
  contested : ∀ t, n.status = index t + 1 → 3 ≤ n.prevStatus → last = some t.other

variable {last : Option Team}

theorem Held.of_occupied (prev : UInt8) :
    Held { status := index t + 3, prevStatus := prev, timer := 0 } (some t) where
  wf := .occupied t prev
  occupied u hu := by rw [index_add_three_inj hu]
  contested u hu := absurd hu.symm (index_add_one_ne u t)

theorem Held.of_contested (hwf : n.WF) (hs : n.status = index t + 1)
    (hlast : 3 ≤ n.prevStatus → last = some t.other) : Held n last where
  wf := hwf
  occupied u hu := absurd (hs.symm.trans hu) (index_add_one_ne t u)
  contested u hu hge := by
    rw [hs] at hu
    rw [← index_add_one_inj hu]
    exact hlast hge

theorem Held.keep (h : n.Held last) : n.Held (n.occupier.or last) := by
  rcases status_cases h.wf.status_le with hs | ⟨t, hs⟩ | ⟨t, hs⟩
  · have hnone : n.occupier = none := by
      simp only [occupier, occupiedBy, hs]
      rfl
    rw [hnone]
    exact h
  · rw [occupier_of_contested hs]
    exact h
  · have hlast : n.occupier.or last = last := by
      rw [occupier_of_occupied hs, h.occupied t hs]
      rfl
    rw [hlast]
    exact h

theorem Held.click (h : n.Held last) (ht : n.mayClick t) : (n.click t).Held ((n.click t).occupier.or last) := by
  have hwf := h.wf.click ht
  rcases status_cases h.wf.status_le with hs | ⟨u, hs⟩ | ⟨u, hs⟩
  · rw [click_neutral hs] at hwf ⊢
    exact .of_contested hwf rfl fun (hge : (3 : UInt8) ≤ 0) => absurd hge (by decide)
  · rw [click_contested hs] at hwf ⊢
    split
    · rename_i hlt
      rw [if_pos hlt] at hwf
      exact .of_contested hwf rfl fun hge => absurd hge (not_three_le_index u)
    · rw [occupier_of_occupied rfl]
      exact .of_occupied _
  · -- an occupied node becomes contested: its occupier is the last one
    rw [click_occupied hs] at hwf ⊢
    rw [occupier_of_contested rfl, (mayClick_occupied hs).1 ht]
    refine .of_contested ?_ rfl fun _ => ?_
    · rw [← (mayClick_occupied hs).1 ht]
      exact hwf
    · rw [Team.other_other]
      exact h.occupied u hs

theorem Held.tick (h : n.Held last) (diff : Nat) : (n.tick diff).Held ((n.tick diff).occupier.or last) := by
  by_cases htimer : n.timer = 0
  · rw [Node.tick, if_neg (not_not.2 htimer)]
    exact h.keep
  · obtain ⟨t, hs⟩ := contested_iff.1 (h.wf.timer_iff.1 htimer)
    have hwf := h.wf.tick diff
    rw [tick_of_running hs htimer] at hwf ⊢
    split
    · rename_i hlt
      rw [if_pos hlt] at hwf
      have hnone : { n with timer := n.timer - diff }.occupier = none := occupier_of_contested hs
      rw [hnone]
      exact .of_contested hwf hs (h.contested t hs)
    · rw [occupier_of_occupied rfl]
      exact .of_occupied _

end Node

/-! ## The nodes of a battleground -/

namespace ArathiBasin

variable (z : ArathiBasin)

@[simp] theorem accumulate_nodes (diff : Nat) (t : Team) : (z.accumulate diff t).nodes = z.nodes := by
  unfold accumulate
  simp only
  split
  · rfl
  · split
    · rfl
    · rfl

theorem tick_nodes (diff : Nat) (i : Fin 5) : (z.tick diff).nodes i = (z.nodes i).tick diff := by
  simp only [tick, accumulate_nodes]

end ArathiBasin

variable (s : Zone ArathiBasin)

@[simp] theorem testWin_own : (testWin s).own = s.own := by
  unfold testWin
  simp only
  split
  · split
    · rfl
    · rfl
  · split
    · rfl
    · rfl

theorem postUpdateImpl_own (diff : Nat) (s : Zone ArathiBasin) :
    (postUpdateImpl diff s).own = if s.bg.status = .inProgress then s.own.tick diff else s.own := by
  unfold postUpdateImpl
  split
  · rw [testWin_own]
  · rfl

@[simp] theorem updateBase_own (diff : Nat) : (s.updateBase overrides diff).own = s.own := by
  change List.foldl (fun z _ => z) s.own _ = s.own
  induction removedBy s.bg diff with
  | nil => rfl
  | cons guid guids ih => exact ih

theorem update_own (diff : Nat) :
    (s.update overrides () diff).own = if s.Ticks diff then s.own.tick diff else s.own := by
  unfold Zone.update
  by_cases hempty : s.bg.roster.players.isEmpty = true
  · rw [if_pos hempty, if_neg]
    intro h
    exact Bool.false_ne_true (h.1.symm.trans hempty)
  · rw [if_neg hempty]
    rw [Bool.not_eq_true] at hempty
    change (postUpdateImpl diff (s.updateBase overrides diff)).own = _
    rw [postUpdateImpl_own, updateBase_own]
    by_cases hst : (s.bg.update diff).status = .inProgress
    · rw [if_pos (show (s.updateBase overrides diff).bg.status = .inProgress from hst),
        if_pos (show s.Ticks diff from ⟨hempty, hst⟩)]
    · rw [if_neg (show ¬ (s.updateBase overrides diff).bg.status = .inProgress from hst),
        if_neg (fun h : s.Ticks diff => hst h.2)]

theorem eventPlayerClickedOnFlag_own (guid : Guid) (near : Fin 5 → Bool) (s : Zone ArathiBasin) :
    (eventPlayerClickedOnFlag guid near s).own = s.own ∨
      ∃ i, (s.own.nodes i).mayClick (s.bg.world.player guid).team ∧
        (eventPlayerClickedOnFlag guid near s).own = { s.own with
          nodes := update s.own.nodes i
            ((s.own.nodes i).click (s.bg.world.player guid).team) } := by
  unfold eventPlayerClickedOnFlag
  split
  · split
    · rename_i i _
      simp only
      split
      · rename_i hmay
        exact .inr ⟨i, hmay, rfl⟩
      · exact .inl rfl
    · exact .inl rfl
  · exact .inl rfl

theorem event_node (e : Event Unit Click) (i : Fin 5) :
    (s.event overrides e).own.nodes i = s.own.nodes i ∨
      (∃ click, e = .handle click ∧ (s.own.nodes i).mayClick (s.bg.world.player click.guid).team ∧
        (s.event overrides e).own.nodes i = (s.own.nodes i).click (s.bg.world.player click.guid).team) ∨
      ∃ diff, e = .update () diff ∧
        (s.event overrides e).own.nodes i = (s.own.nodes i).tick diff := by
  cases e with
  | handle click =>
    change (eventPlayerClickedOnFlag click.guid click.near s).own.nodes i = _ ∨
      (∃ c, _ = _ ∧ _ ∧ (eventPlayerClickedOnFlag click.guid click.near s).own.nodes i = _) ∨ _
    rcases eventPlayerClickedOnFlag_own click.guid click.near s with h | ⟨j, hmay, h⟩
    · exact .inl (by rw [h])
    · rw [h]
      by_cases hij : i = j
      · subst hij
        exact .inr (.inl ⟨click, rfl, hmay, update_self ..⟩)
      · exact .inl (update_of_ne hij ..)
  | update input diff =>
    have h := update_own s diff
    change (s.update overrides () diff).own.nodes i = _ ∨ _
    by_cases ht : s.Ticks diff
    · rw [if_pos ht] at h
      refine .inr (.inr ⟨diff, rfl, ?_⟩)
      change (s.update overrides () diff).own.nodes i = _
      rw [h, ArathiBasin.tick_nodes]
    · rw [if_neg ht] at h
      exact .inl (by rw [h])
  | addPlayer guid => exact .inl rfl
  | increaseInvitedCount t => exact .inl rfl
  | decreaseInvitedCount t => exact .inl rfl
  | removePlayerAtLeave guid => exact .inl rfl
  | eventPlayerLoggedOut guid =>
    refine .inl ?_
    change (if _ then s.own else s.own).nodes i = _
    rw [ite_self]
  | eventPlayerLoggedIn guid => exact .inl rfl

def occupierOf (i : Fin 5) (s : Zone ArathiBasin) : Option Team := (s.own.nodes i).occupier

/-- The node is held by the team that occupied it last. -/
theorem held_step (i : Fin 5) (s : Zone ArathiBasin) (we : World × Event Unit Click)
    (last : Option Team) (h : (s.own.nodes i).Held last) :
    ((step s we).own.nodes i).Held ((occupierOf i (step s we)).or last) := by
  have hcases := event_node (s.inWorld we.1) we.2 i
  change (step s we).own.nodes i = s.own.nodes i ∨ (∃ click, _ ∧ _ ∧ (step s we).own.nodes i = _) ∨
    ∃ diff, _ ∧ (step s we).own.nodes i = _ at hcases
  unfold occupierOf
  rcases hcases with heq | ⟨click, -, hmay, heq⟩ | ⟨diff, -, heq⟩
  · rw [heq]
    exact h.keep
  · rw [heq]
    exact h.click hmay
  · rw [heq]
    exact h.tick diff

theorem held_run (config : Config) (world : World) (isBGWeekend : Bool) (i : Fin 5)
    (es : List (World × Event Unit Click)) :
    ((run step (create config world isBGWeekend) es).own.nodes i).Held
      (lastSeen step (occupierOf i) (create config world isBGWeekend) es) := by
  have hstart : Node.Held {} none :=
    { wf := ⟨by decide, by decide, fun t => by cases t <;> decide⟩
      occupied := fun t h => absurd h (by cases t <;> decide)
      contested := fun t h => absurd h (by cases t <;> decide) }
  have h : ((run step (create config world isBGWeekend) es).own.nodes i).Held
      ((lastSeen step (occupierOf i) (create config world isBGWeekend) es).or none) :=
    lastSeen_invariant (I := fun s last => (s.own.nodes i).Held last)
      (fun s we last => held_step i s we last) hstart es
  rwa [Option.or_none] at h

/-! ## The scores -/

namespace ArathiBasin

variable (z : ArathiBasin)

def TickDue (diff : Nat) (t : Team) : Prop :=
  z.teamPoints t ≠ 0 ∧ tickIntervals (z.teamPoints t) < (z.lastTick.get t + diff) % 2 ^ 32

instance (diff : Nat) (t : Team) : Decidable (z.TickDue diff t) := inferInstanceAs (Decidable (_ ∧ _))

theorem addScore_teamScores (t : Team) (points : Nat) :
    (z.addScore t points).teamScores = z.teamScores.set t (min (z.teamScores.get t + points) maxTeamScore) := by
  have hclip : (if maxTeamScore < z.teamScores.get t + points then maxTeamScore
      else z.teamScores.get t + points) = min (z.teamScores.get t + points) maxTeamScore := by
    rw [min_def]
    split
    · rw [if_neg (by omega)]
    · rw [if_pos (by omega)]
  change z.teamScores.set t _ = _
  rw [hclip]

theorem accumulate_teamScores (diff : Nat) (t : Team) :
    (z.accumulate diff t).teamScores =
      if z.TickDue diff t then
        z.teamScores.set t (min (z.teamScores.get t + tickPoints (z.teamPoints t)) maxTeamScore)
      else z.teamScores := by
  unfold accumulate
  simp only
  split
  · rename_i hzero
    rw [if_neg]
    exact fun h => h.1 hzero
  · rename_i hpoints
    split
    · rename_i hlt
      rw [if_pos ⟨hpoints, hlt⟩, addScore_teamScores]
      rfl
    · rename_i hlt
      rw [if_neg]
      exact fun h => hlt h.2

theorem accumulate_lastTick_other (diff : Nat) (t : Team) :
    (z.accumulate diff t).lastTick.get t.other = z.lastTick.get t.other := by
  have hne : t ≠ t.other := fun h => t.other_ne h.symm
  unfold accumulate
  simp only
  split
  · rfl
  · split
    · exact PerTeam.get_set_ne _ _ hne
    · exact PerTeam.get_set_ne _ _ hne

theorem teamPoints_congr {z z' : ArathiBasin} (h : z'.nodes = z.nodes) (t : Team) :
    z'.teamPoints t = z.teamPoints t := by
  simp only [teamPoints, h]

def tickNodes (diff : Nat) : ArathiBasin := { z with nodes := fun i => (z.nodes i).tick diff }

theorem tick_teamScores (diff : Nat) (t : Team) :
    (z.tick diff).teamScores.get t =
      if (z.tickNodes diff).TickDue diff t then
        min (z.teamScores.get t + tickPoints ((z.tickNodes diff).teamPoints t)) maxTeamScore
      else z.teamScores.get t := by
  change (((z.tickNodes diff).accumulate diff .alliance).accumulate diff .horde).teamScores.get t = _
  have hdue : ((z.tickNodes diff).accumulate diff .alliance).TickDue diff .horde ↔
      (z.tickNodes diff).TickDue diff .horde := by
    unfold TickDue
    rw [teamPoints_congr (accumulate_nodes ..)]
    rw [show ((z.tickNodes diff).accumulate diff .alliance).lastTick.get .horde
      = (z.tickNodes diff).lastTick.get .horde from accumulate_lastTick_other _ diff .alliance]
  rw [accumulate_teamScores, teamPoints_congr (accumulate_nodes ..), accumulate_teamScores]
  simp only [hdue]
  cases t with
  | alliance =>
    split
    · rw [PerTeam.get_set_ne _ _ (by decide)]
      split
      · exact PerTeam.get_set_self ..
      · rfl
    · split
      · exact PerTeam.get_set_self ..
      · rfl
  | horde =>
    split
    · rw [PerTeam.get_set_self]
      split
      · rw [PerTeam.get_set_ne _ _ (by decide)]
        rfl
      · rfl
    · split
      · rw [PerTeam.get_set_ne _ _ (by decide)]
        rfl
      · rfl

end ArathiBasin

theorem event_score (e : Event Unit Click) (t : Team) (h : s.own.teamScores.get t ≤ maxTeamScore) :
    s.own.teamScores.get t ≤ (s.event overrides e).own.teamScores.get t ∧
      (s.event overrides e).own.teamScores.get t ≤ maxTeamScore := by
  have hkeep : s.own.teamScores.get t ≤ s.own.teamScores.get t ∧
      s.own.teamScores.get t ≤ maxTeamScore := ⟨le_refl _, h⟩
  cases e with
  | update input diff =>
    change _ ≤ (s.update overrides () diff).own.teamScores.get t ∧
      (s.update overrides () diff).own.teamScores.get t ≤ _
    rw [update_own]
    split
    · rw [ArathiBasin.tick_teamScores]
      split
      · omega
      · exact hkeep
    · exact hkeep
  | handle click =>
    change _ ≤ (eventPlayerClickedOnFlag click.guid click.near s).own.teamScores.get t ∧
      (eventPlayerClickedOnFlag click.guid click.near s).own.teamScores.get t ≤ _
    rcases eventPlayerClickedOnFlag_own click.guid click.near s with heq | ⟨i, -, heq⟩
    · rw [heq]
      exact hkeep
    · rw [heq]
      exact hkeep
  | addPlayer guid => exact hkeep
  | increaseInvitedCount t => exact hkeep
  | decreaseInvitedCount t => exact hkeep
  | removePlayerAtLeave guid => exact hkeep
  | eventPlayerLoggedOut guid =>
    change _ ≤ (if _ then s.own else s.own).teamScores.get t ∧ (if _ then s.own else s.own).teamScores.get t ≤ _
    rw [ite_self]
    exact hkeep
  | eventPlayerLoggedIn guid => exact hkeep

/-- No score passes the maximum. -/
theorem score_le_run (config : Config) (world : World) (isBGWeekend : Bool)
    (es : List (World × Event Unit Click)) (t : Team) :
    (run step (create config world isBGWeekend) es).own.teamScores.get t ≤ maxTeamScore := by
  have hzero : (create config world isBGWeekend).own.teamScores.get t ≤ maxTeamScore := by
    change (⟨0, 0⟩ : PerTeam Nat).get t ≤ _
    rw [PerTeam.get_const]
    exact Nat.zero_le _
  generalize create config world isBGWeekend = s at hzero ⊢
  induction es generalizing s with
  | nil => exact hzero
  | cons we es ih => exact ih (step s we) (event_score (s.inWorld we.1) we.2 t hzero).2

/-! ## The node machine -/

theorem click_back {n : Node} {last : Option Team} (h : n.Held last) {t u : Team}
    (hcontested : n.status = 1 ∨ n.status = 2) (hmay : n.mayClick t)
    (hocc : (n.click t).occupiedBy u) : u = t ∧ last = some t := by
  obtain ⟨v, hv⟩ := Node.contested_iff.1 hcontested
  rw [Node.click_contested hv] at hocc
  split at hocc
  · exact absurd hocc (Node.index_add_one_ne t u)
  · rename_i hge
    refine ⟨(Node.index_add_three_inj hocc).symm, ?_⟩
    rw [(Node.mayClick_contested hv).1 hmay]
    exact h.contested v hv (UInt8.not_lt.1 hge)

/-- In every state that a run reaches, for every node: the status is at most 4; the timer runs exactly
while the node is contested; a contested node that was occupied before was occupied last by the team
that does not contest it; a click that makes a contested node occupied is by that team; and the timer's
expiry gives the node to the team that contests it. No event lowers a score or raises it above the
maximum. -/
theorem node_machine (config : Config) (world : World) (isBGWeekend : Bool)
    (es : List (World × Event Unit Click)) :
    let s := run step (create config world isBGWeekend) es
    (∀ i, let n := s.own.nodes i
      let last := lastSeen step (occupierOf i) (create config world isBGWeekend) es
      n.status ≤ 4 ∧
      (n.timer ≠ 0 ↔ n.status = 1 ∨ n.status = 2) ∧
      (∀ t, n.status = index t + 1 → 3 ≤ n.prevStatus → last = some t.other) ∧
      (∀ world click t, n.status = 1 ∨ n.status = 2 →
        ((step s (world, .handle click)).own.nodes i).occupiedBy t →
        (world.player click.guid).team = t ∧ last = some t) ∧
      (∀ world diff t, (s.inWorld world).Ticks diff → n.status = index t + 1 → n.timer ≤ diff →
        ((step s (world, .update () diff)).own.nodes i).occupiedBy t)) ∧
    ∀ we t, s.own.teamScores.get t ≤ (step s we).own.teamScores.get t ∧
      (step s we).own.teamScores.get t ≤ maxTeamScore := by
  intro s
  refine ⟨fun i => ?_, fun we t => ?_⟩
  · intro n last
    have h : n.Held last := held_run config world isBGWeekend i es
    refine ⟨h.wf.status_le, h.wf.timer_iff, h.contested, ?_, ?_⟩
    · intro world click t hcontested hocc
      rcases event_node (s.inWorld world) (.handle click) i with heq | ⟨c, hc, hmay, heq⟩ | ⟨_, hc, -⟩
      · have hocc' : n.occupiedBy t := by
          rw [← show (step s (world, .handle click)).own.nodes i = n from heq]
          exact hocc
        obtain ⟨u, hu⟩ := Node.contested_iff.1 hcontested
        exact absurd (hu.symm.trans hocc') (Node.index_add_one_ne u t)
      · cases hc
        rw [show (step s (world, .handle click)).own.nodes i
          = n.click (world.player click.guid).team from heq] at hocc
        obtain ⟨htu, hlast⟩ := click_back h hcontested hmay hocc
        rw [htu]
        exact ⟨rfl, hlast⟩
      · cases hc
    · intro world diff t hticks hstatus htimer
      have hrunning : n.timer ≠ 0 := h.wf.timer_iff.2 (Node.contested_iff.2 ⟨t, hstatus⟩)
      have hown : (step s (world, .update () diff)).own = s.own.tick diff := by
        have hupdate := update_own (s.inWorld world) diff
        rw [if_pos hticks] at hupdate
        exact hupdate
      have hnode : (step s (world, .update () diff)).own.nodes i = n.tick diff := by
        rw [hown, ArathiBasin.tick_nodes]
      rw [hnode, Node.tick_of_running hstatus hrunning, if_neg (not_lt.2 htimer)]
      rfl
  · exact event_score (s.inWorld we.1) we.2 t (score_le_run config world isBGWeekend es t)

/-! ## A match of two -/

def duelWorld : World where
  player guid := { team := if guid = 1 then .alliance else .horde }

def duelConfig : Config := { isArena := false, isRated := false }

def clickAt (guid : Guid) (i : Fin 5) : Event Unit Click := .handle { guid := guid, near := fun j => j = i }

def duelOpening : List (Event Unit Click) :=
  [.addPlayer 1, .addPlayer 2, .update () 0, .update () 60000, .update () 0, .update () 0,
    clickAt 1 0, clickAt 1 1, clickAt 2 2, clickAt 2 3, .update () 60000]

def duelContest : List (World × Event Unit Click) := (duelOpening ++ [clickAt 2 0]).map (duelWorld, ·)

def duelState : Zone ArathiBasin := run step (create duelConfig duelWorld false) duelContest

theorem node_machine_duel :
    ((duelState.own.nodes 0).status = 2 ∧ (duelState.own.nodes 0).prevStatus = 3) ∧
      lastSeen step (occupierOf 0) (create duelConfig duelWorld false) duelContest = some .alliance ∧
      (duelWorld.player 1).team = .alliance := by
  have hnode : (duelState.own.nodes 0).status = 2 ∧ (duelState.own.nodes 0).prevStatus = 3 := by
    decide
  have hback : ((step duelState (duelWorld, clickAt 1 0)).own.nodes 0).occupiedBy .alliance := by
    decide
  obtain ⟨-, -, hlast, hclick, -⟩ := (node_machine duelConfig duelWorld false duelContest).1 0
  refine ⟨hnode, hlast .horde hnode.1 ?_, (hclick _ ⟨1, fun j => j = 0⟩ _ (.inr hnode.1) hback).1⟩
  rw [show (run step (create duelConfig duelWorld false) duelContest).own.nodes 0
    = duelState.own.nodes 0 from rfl]
  decide

end Axium.Zones.AB
