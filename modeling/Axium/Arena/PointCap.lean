import Axium.Arena.ArenaTeam

/-!
# The weekly arena point cap

A win adds `arenaPointsGain` to the weekly points of the player and clips them at his cap of the week.
His wallet takes the same gain without that clip: online it is cut at the maximum of the server,
offline it is not cut at all.

A week is a list of calls of `MemberWon` and `OfflineMemberWon`, through any of the player's teams, with
purchases and other changes of the wallet in between.
-/

namespace Axium.ArenaTeam

open Run List

/-- A call that records a win of the player: the team, its members and the statistics at the time. -/
structure Win where
  type : ArenaTeamType
  members : List ArenaTeamMember
  pvpStats : Guid → Option PvPStats
  online : Bool
  change : RatingChange := {}

def ArenaPoints.win (c : Config) (cap : UInt32) (online : Bool) (p : ArenaPoints) : ArenaPoints :=
  if p.weekly < cap then
    { cap := cap
      weekly := clippedWeekly c cap p.weekly
      total :=
        if online then modifyArenaPoints c p.total (arenaPointsGain c cap)
        else p.total + arenaPointsGain c cap }
  else { p with cap := cap }

namespace Win

variable (c : Config) (guid : Guid) (w : Win)

def isMember : Bool := (w.members.find? (·.guid = guid)).isSome

def newCap : UInt32 := max (calculateArenaPointsCap ((w.pvpStats guid).getD {})) c.minimumCap

def cap (p : ArenaPoints) : UInt32 := if p.cap = 0 then w.newCap c guid else p.cap

def team (points : Guid → Option ArenaPoints) : State :=
  { type := w.type, config := c, members := w.members, pvpStats := w.pvpStats, arenaPoints := points }

def record (points : Guid → Option ArenaPoints) : Guid → Option ArenaPoints :=
  if w.online then (memberWon (w.team c points) guid w.change).arenaPoints
  else (offlineMemberWon (w.team c points) guid w.change).arenaPoints

variable {c guid w} {points : Guid → Option ArenaPoints} {p : ArenaPoints}

theorem winnerCap_team : winnerCap (w.team c points) guid p.cap = w.cap c guid p := rfl

theorem record_of_member (hp : points guid = some p) (hw : w.isMember guid = true) :
    w.record c guid points guid = some (p.win c (w.cap c guid p) w.online) := by
  have hmember : ((w.team c points).getMember guid).isSome = true := hw
  have hpoints : (w.team c points).arenaPoints guid = some p := hp
  unfold record
  cases w.online with
  | true =>
    rw [if_pos rfl, memberWon, if_pos hmember]
    simp only [awardOnline, hpoints, Option.getD_some, winnerCap_team, Function.update_self]
    unfold ArenaPoints.win
    split
    · rfl
    · rfl
  | false =>
    rw [if_neg Bool.false_ne_true, offlineMemberWon, if_pos hmember]
    simp only [hpoints, Option.getD_some, winnerCap_team]
    unfold ArenaPoints.win
    split
    · exact Function.update_self ..
    · exact Function.update_self ..

theorem record_of_not_member (hw : w.isMember guid = false) : w.record c guid points = points := by
  have hmember : ¬ ((w.team c points).getMember guid).isSome = true := by
    change ¬ w.isMember guid = true
    rw [hw]
    exact Bool.false_ne_true
  unfold record
  split
  · rw [memberWon, if_neg hmember]
    rfl
  · rw [offlineMemberWon, if_neg hmember]
    rfl

end Win

/-! ## A week -/

inductive Call where
  | won (w : Win)
  /-- The wallet changes otherwise. -/
  | wallet (total : UInt32)

/-- The records, and the growth of the player's wallet in the calls that record his wins. -/
structure Week where
  points : Guid → Option ArenaPoints
  credited : Int := 0

namespace Week

def total (guid : Guid) (points : Guid → Option ArenaPoints) : Int :=
  ((points guid).map (·.total.toNat)).getD 0

def step (c : Config) (guid : Guid) (s : Week) : Call → Week
  | .won w =>
    { points := w.record c guid s.points
      credited := s.credited + (total guid (w.record c guid s.points) - total guid s.points) }
  | .wallet t =>
    { s with points := Function.update s.points guid ((s.points guid).map ({ · with total := t })) }

/-- The credits of the week are the weekly points recorded, and stay within the cap. -/
def Agrees (guid : Guid) (s : Week) : Prop :=
  ∃ p, s.points guid = some p ∧ s.credited = p.weekly.toNat ∧ s.credited ≤ p.cap.toNat

end Week

section Win

variable (c : Config) (cap : UInt32) (online : Bool) (p : ArenaPoints)

/-- The weekly points and the wallet both take the whole gain. -/
def ArenaPoints.TakesGain : Prop :=
  p.weekly + arenaPointsGain c cap ≤ cap ∧
    (p.weekly.toNat + (arenaPointsGain c cap).toNat < 2 ^ 32 ↔
      p.total.toNat + (arenaPointsGain c cap).toNat < 2 ^ 32) ∧
    (online = true → (p.total + arenaPointsGain c cap).toNat < 2 ^ 31 ∧
      p.total + arenaPointsGain c cap ≤ c.maxArenaPoints)

/-- The cap of the week and the maximum of the wallet cut the gain by the same amount. -/
def ArenaPoints.CutAlike : Prop :=
  online = true ∧ cap.toNat < p.weekly.toNat + (arenaPointsGain c cap).toNat ∧
    p.weekly.toNat + (arenaPointsGain c cap).toNat < 2 ^ 32 ∧
    c.maxArenaPoints.toNat < p.total.toNat + (arenaPointsGain c cap).toNat ∧
    p.total.toNat + (arenaPointsGain c cap).toNat < 2 ^ 31 ∧
    cap.toNat + p.total.toNat = c.maxArenaPoints.toNat + p.weekly.toNat

def ArenaPoints.PaysWeekly : Prop :=
  p.weekly < cap → p.TakesGain c cap online ∨ p.CutAlike c cap online

instance : Decidable (p.PaysWeekly c cap online) := by
  unfold ArenaPoints.PaysWeekly ArenaPoints.TakesGain ArenaPoints.CutAlike
  infer_instance

variable {c cap online p}

theorem clippedWeekly_toNat (weekly : UInt32) : (clippedWeekly c cap weekly).toNat
    = min ((weekly.toNat + (arenaPointsGain c cap).toNat) % 2 ^ 32) cap.toNat := by
  rw [← UInt32.toNat_add]
  change (if weekly + arenaPointsGain c cap ≤ cap then weekly + arenaPointsGain c cap else cap).toNat = _
  simp only [UInt32.le_iff_toNat_le]
  split
  · exact (Nat.min_eq_left ‹_›).symm
  · exact (Nat.min_eq_right (by omega)).symm

theorem modifyArenaPoints_toNat (total value : UInt32) : (modifyArenaPoints c total value).toNat
    = if (total.toNat + value.toNat) % 2 ^ 32 < 2 ^ 31 then
        min ((total.toNat + value.toNat) % 2 ^ 32) c.maxArenaPoints.toNat else 0 := by
  rw [← UInt32.toNat_add, modifyArenaPoints]
  change (if _ then (if total + value ≤ c.maxArenaPoints then total + value else c.maxArenaPoints)
    else 0 : UInt32).toNat = _
  simp only [UInt32.le_iff_toNat_le]
  split
  · split
    · exact (Nat.min_eq_left ‹_›).symm
    · exact (Nat.min_eq_right (by omega)).symm
  · rfl

/-- The wallet grows by as much as the weekly points exactly when the condition on the state before the
win holds. -/
theorem ArenaPoints.win_grows_iff :
    ((p.win c cap online).total.toNat : Int) - p.total.toNat
        = (p.win c cap online).weekly.toNat - p.weekly.toNat ↔ p.PaysWeekly c cap online := by
  have hweekly := p.weekly.toNat_lt
  have htotal := p.total.toNat_lt
  have hgain := (arenaPointsGain c cap).toNat_lt
  unfold ArenaPoints.win ArenaPoints.PaysWeekly
  by_cases hlt : p.weekly < cap
  · rw [if_pos hlt]
    simp only [hlt, true_imp_iff, TakesGain, CutAlike, clippedWeekly_toNat, UInt32.le_iff_toNat_le,
      UInt32.toNat_add]
    rw [UInt32.lt_iff_toNat_lt] at hlt
    cases online with
    | true =>
      simp only [if_true, modifyArenaPoints_toNat, true_imp_iff, true_and]
      split
      · omega
      · omega
    | false =>
      simp only [Bool.false_eq_true, if_false, UInt32.toNat_add, false_imp_iff, false_and, and_true, or_false]
      omega
  · rw [if_neg hlt]
    simp only [hlt, false_imp_iff, iff_true]
    omega

theorem ArenaPoints.win_within (h : p.weekly ≤ cap) :
    (p.win c cap online).weekly ≤ (p.win c cap online).cap := by
  unfold ArenaPoints.win
  split
  · exact (UInt32.le_iff_toNat_le).2 ((clippedWeekly_toNat _).trans_le (Nat.min_le_right ..))
  · exact h

end Win

namespace Week

/-- A win pays what it records. The cap is the recorded one or, before the first, that of the win. -/
def Pays (c : Config) (guid : Guid) (s : Week) : Call → Prop
  | .won w => ∀ p ∈ s.points guid, w.isMember guid = true → p.PaysWeekly c (w.cap c guid p) w.online
  | .wallet _ => True

instance (c : Config) (guid : Guid) (s : Week) : ∀ e, Decidable (s.Pays c guid e)
  | .won _ => by unfold Pays; infer_instance
  | .wallet _ => isTrue trivial

variable {c : Config} {guid : Guid} {s : Week} {p : ArenaPoints}

theorem total_of_some {points : Guid → Option ArenaPoints} (hp : points guid = some p) :
    total guid points = p.total.toNat := by
  rw [total, hp]
  rfl

/-- The step of `weeklyPoints_iff`. -/
theorem Agrees.step_iff (h : s.Agrees guid) (e : Call) : (s.step c guid e).Agrees guid ↔ s.Pays c guid e := by
  obtain ⟨p, hp, hcredited, hle⟩ := h
  rw [hcredited, Int.ofNat_le] at hle
  cases e with
  | wallet t =>
    refine ⟨fun _ => trivial, fun _ => ⟨{ p with total := t }, ?_, hcredited, ?_⟩⟩
    · simp only [step, hp, Option.map_some, Function.update_self]
    · exact hcredited.trans_le (Int.ofNat_le.2 hle)
  | won w =>
    simp only [Pays, hp, Option.mem_some_iff, forall_eq']
    by_cases hw : w.isMember guid = true
    · have hrecord := Win.record_of_member (c := c) hp hw
      have hcap : p.weekly ≤ w.cap c guid p := by
        rw [UInt32.le_iff_toNat_le, Win.cap]
        split
        · rename_i hzero
          rw [hzero] at hle
          exact hle.trans (Nat.zero_le _)
        · exact hle
      simp only [hw, true_imp_iff, ← ArenaPoints.win_grows_iff]
      constructor
      · rintro ⟨p', hp', hgrown, -⟩
        cases hrecord.symm.trans hp'
        simp only [step, total_of_some hp, total_of_some hrecord, hcredited] at hgrown
        omega
      · intro hgrown
        have hwithin : (p.win c (w.cap c guid p) w.online).weekly ≤ _ := ArenaPoints.win_within hcap
        rw [UInt32.le_iff_toNat_le] at hwithin
        refine ⟨_, hrecord, ?_, ?_⟩
        · simp only [step, total_of_some hp, total_of_some hrecord, hcredited]
          omega
        · simp only [step, total_of_some hp, total_of_some hrecord, hcredited]
          omega
    · have hrecord : w.record c guid s.points = s.points :=
        Win.record_of_not_member (Bool.not_eq_true _ ▸ hw)
      have hkept : s.step c guid (.won w) = s := by
        simp only [step, hrecord, sub_self, add_zero]
      rw [hkept]
      exact ⟨fun _ hmem => absurd hmem hw, fun _ => ⟨p, hp, hcredited, by omega⟩⟩

end Week

/-- Throughout a week the wallet has grown by the weekly points that are recorded, and by no more than
the cap, if and only if every win of the week pays what it records. -/
theorem weeklyPoints_iff (c : Config) (guid : Guid) (points : Guid → Option ArenaPoints)
    (p : ArenaPoints) (hp : points guid = some p) (hweek : p.weekly = 0) (calls : List Call) :
    (∀ pre, pre <+: calls → (Run.run (Week.step c guid) { points := points } pre).Agrees guid) ↔
      AllSteps (Week.step c guid) (Week.Pays c guid) { points := points } calls := by
  have hstart : Week.Agrees guid { points := points } :=
    ⟨p, hp, by rw [hweek]; rfl, Int.natCast_nonneg _⟩
  rw [AllSteps.always_iff (J := fun _ => True) (A := fun _ _ => True) (fun _ _ _ _ _ => trivial)
    (fun _ e hs _ _ => hs.step_iff e) trivial (allSteps_true _ _ calls), and_iff_right hstart]

/-- A win of the only member of a team, whose lifetime rating gives the cap 4202. The gain is 42, so
that the first 100 wins come to 4200. -/
def sampleWin (online : Bool) : Win where
  type := .t2v2
  members := [{ guid := 1 }]
  pvpStats _ := some { v2 := { rating := 2101 } }
  online := online

def sampleWeek : List Call → Week := Run.run (Week.step {} 1) { points := fun _ => some {} }

/-- An offline win and a purchase between two wins. -/
def sampleCalls : List Call :=
  [.won (sampleWin true), .won (sampleWin false), .wallet 9000, .won (sampleWin true)]

theorem sampleWeek_agrees : (sampleWeek sampleCalls).Agrees 1 :=
  (weeklyPoints_iff {} 1 (fun _ => some {}) {} rfl rfl _).2 (by decide) _ prefix_rfl

/-- The 101st win is credited with 42 points as well, 4242 in the week. -/
theorem sampleWeek_beyond_cap :
    let s := sampleWeek (replicate 101 (.won (sampleWin true)))
    s.points 1 = some { cap := 4202, weekly := 4202, total := 4242 } ∧ s.credited = 4242 ∧
      ¬ s.Agrees 1 := by
  have hpoints : (sampleWeek (replicate 101 (.won (sampleWin true)))).points 1
      = some { cap := 4202, weekly := 4202, total := 4242 } := by decide +kernel
  have hcredited : (sampleWeek (replicate 101 (.won (sampleWin true)))).credited = 4242 := by
    decide +kernel
  refine ⟨hpoints, hcredited, ?_⟩
  rintro ⟨p, hp, heq, -⟩
  cases hpoints.symm.trans hp
  rw [hcredited] at heq
  exact absurd heq (by decide)

end Axium.ArenaTeam
