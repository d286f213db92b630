import Axium.Battleground.RatedMatch

/-!
# The rating window of a rated arena

An update without a rating takes the window from the groups at the front of the two premade lists. The
`if` that compares their join times has no braces, so that only the rating is chosen by it and the
widening is always the alliance's (**`ratedWindow_centred_iff`**).

A group outside the window may play when it joined before the discard time, which is the clock less the
discard timer, in 32 bits. While the clock shows less than the timer the difference wraps, and every
group that joined since the clock was last at zero may play (**`ratedMatch_inWindow_iff`**).
-/

namespace Axium.Queue

open Run State Option

variable {st : State} {env : Env} {b : BattlegroundBracketId}

/-! ## The centre of an automatic update -/

namespace State

variable (st) (b)

def front (t : Team) : Option GroupQueueInfo := (st.queuedGroups b (.premade t)).head?.map st.group

/-- `arenaRating` and `mmrMaxDiff` of an update that is called without a rating. -/
def centre (env : Env) : Option (Nat × Nat) := frontRating env (st.front b .alliance) (st.front b .horde)

def EarliestFront (g : GroupQueueInfo) : Prop :=
  (∃ t, st.front b t = some g) ∧ ∀ t g', st.front b t = some g' → g.joinTime ≤ g'.joinTime

/-- The window of the update is that of the rating and the widening of one group, a front that has
waited longest. -/
def CentredOnEarliest (env : Env) : Prop :=
  ∀ w, st.ratedWindow env b 0 = some w → ∃ rating diff, st.centre b env = some (rating, diff) ∧
    w = ratingWindow env rating diff ∧
    ∃ g, st.EarliestFront b g ∧ rating = g.arenaMatchmakerRating ∧ diff = mmrDiff env g

/-- Of two fronts the alliance's has waited at least as long, or both have waited for the same widening. -/
def AllianceFrontLeads (env : Env) : Prop :=
  ∀ a h, st.front b .alliance = some a → st.front b .horde = some h →
    a.joinTime ≤ h.joinTime ∨ mmrDiff env a = mmrDiff env h

end State

theorem ratedWindow_zero (st : State) (env : Env) (b : BattlegroundBracketId) :
    st.ratedWindow env b 0 = (st.centre b env).map fun x => ratingWindow env x.1 x.2 := rfl

variable {g : GroupQueueInfo}

theorem mmrDiff_congr {g' : GroupQueueInfo} (h : g.joinTime = g'.joinTime) :
    mmrDiff env g = mmrDiff env g' := by
  unfold mmrDiff
  rw [h]

variable {t : Team}

theorem earliestFront_of_alone (hg : st.front b t = some g)
    (hnone : st.front b t.other = none) : st.EarliestFront b g := by
  refine ⟨⟨t, hg⟩, fun t' g' hg' => ?_⟩
  by_cases ht : t' = t
  · rw [ht, hg] at hg'
    cases hg'
    exact le_refl _
  · rw [Team.eq_other_of_ne ht, hnone] at hg'
    cases hg'

theorem earliestFront_iff {g' : GroupQueueInfo} (hg : st.front b t = some g)
    (hg' : st.front b t.other = some g') : st.EarliestFront b g ↔ g.joinTime ≤ g'.joinTime := by
  constructor
  · exact fun h => h.2 t.other g' hg'
  · refine fun hle => ⟨⟨t, hg⟩, fun u k hk => ?_⟩
    by_cases hu : u = t
    · rw [hu, hg] at hk
      cases hk
      exact le_refl _
    · rw [Team.eq_other_of_ne hu, hg'] at hk
      cases hk
      exact hle

/-- **An automatic update is centred on the team that has waited longest exactly when** only one list has
a front, the alliance's front joined no later, or the two fronts have the same widening. -/
theorem ratedWindow_centred_iff (st : State) (b : BattlegroundBracketId) (env : Env) :
    st.CentredOnEarliest b env ↔ st.AllianceFrontLeads b env := by
  unfold CentredOnEarliest AllianceFrontLeads
  rw [ratedWindow_zero]
  cases ha : st.front b .alliance with
  | none =>
    refine iff_of_true (fun w hw => ?_) (by simp)
    cases hh : st.front b .horde with
    | none => simp [centre, ha, hh, frontRating] at hw
    | some h =>
      simp only [centre, ha, hh, frontRating, map_some, some.injEq] at hw ⊢
      exact ⟨_, _, rfl, hw.symm, h, earliestFront_of_alone hh ha, rfl, rfl⟩
  | some a =>
    cases hh : st.front b .horde with
    | none =>
      refine iff_of_true (fun w hw => ?_) (by simp)
      simp only [centre, ha, hh, frontRating, map_some, some.injEq] at hw ⊢
      exact ⟨_, _, rfl, hw.symm, a, earliestFront_of_alone ha hh, rfl, rfl⟩
    | some h =>
      simp only [centre, ha, hh, frontRating, map_some, some.injEq, Prod.mk.injEq]
      constructor
      · intro hcentred a' h' ha' hh'
        subst ha' hh'
        obtain ⟨rating, diff, ⟨-, rfl⟩, -, g, ⟨⟨t, hg⟩, hleast⟩, -, hdiff⟩ := hcentred _ rfl
        cases t with
        | alliance =>
          rw [ha] at hg
          cases hg
          exact .inl (hleast .horde h hh)
        | horde =>
          rw [hh] at hg
          cases hg
          exact .inr hdiff
      · intro hlead w hw
        refine ⟨_, _, ⟨rfl, rfl⟩, hw.symm, ?_⟩
        by_cases hlt : a.joinTime < h.joinTime
        · exact ⟨a, (earliestFront_iff ha hh).2 hlt.le, if_pos hlt, rfl⟩
        · have hearly : st.EarliestFront b h :=
            (earliestFront_iff hh ha).2 (Nat.le_of_not_lt hlt)
          refine ⟨h, hearly, if_neg hlt, ?_⟩
          rcases hlead a h rfl rfl with hle | heq
          · exact mmrDiff_congr (le_antisymm hle (Nat.le_of_not_lt hlt))
          · exact heq

def lateAlliance : State :=
  run step {} [({ sampleEnv with msTime := 10000 },
      .addGroup { sampleJoin 1 2 7 with team := .horde, matchmakerRating := 2000 }),
    ({ sampleEnv with msTime := 100000 }, .addGroup (sampleJoin 3 4 8))]

/-- The window is centred on the horde team, and is as wide as if it had just joined. -/
theorem ratedWindow_off_centre :
    ¬ lateAlliance.CentredOnEarliest 0 { sampleEnv with msTime := 100000 } := by
  intro hcentred
  obtain ⟨rating, diff, hcentre, -, g, ⟨⟨t, hg⟩, hleast⟩, -, hdiff⟩ := hcentred _ rfl
  have hzero : lateAlliance.centre 0 { sampleEnv with msTime := 100000 } = some (2000, 0) := by decide
  cases hcentre
  cases t with
  | alliance =>
    -- the horde's front joined earlier
    cases hg
    exact absurd (hleast .horde _ rfl) (by decide)
  | horde =>
    cases hg
    revert hdiff
    decide

/-! ## Who is selected -/

def State.RatingWindow.Contains (w : RatingWindow) (g : GroupQueueInfo) : Prop :=
  w.minRating ≤ g.arenaMatchmakerRating ∧ g.arenaMatchmakerRating ≤ w.maxRating

namespace State

variable (st) (b)

/-- Behind `a` the group is the first eligible one of another arena team. -/
def FirstRival (w : RatingWindow) (a : Ptr) (l : List Ptr) (h : Ptr) : Prop :=
  ∃ l₁ l₂, l = l₁ ++ h :: l₂ ∧ w.eligible (st.group h) = true ∧
    (st.group a).arenaTeamId ≠ (st.group h).arenaTeamId ∧
    ∀ q ∈ l₁, w.eligible (st.group q) = true → (st.group a).arenaTeamId = (st.group q).arenaTeamId

/-- The two groups of the match: the first eligible ones of the two lists, or, when one list has none,
the first of the other and its first rival. -/
def IsPair (w : RatingWindow) (a h : Ptr) : Prop :=
  (st.FirstEligible w (st.queuedGroups b (.premade .alliance)) a ∧
    st.FirstEligible w (st.queuedGroups b (.premade .horde)) h) ∨
  ∃ t l₁ l₂, st.queuedGroups b (.premade t) = l₁ ++ a :: l₂ ∧ w.eligible (st.group a) = true ∧
    (∀ q ∈ l₁, w.eligible (st.group q) = false) ∧
    (∀ q ∈ st.queuedGroups b (.premade t.other), w.eligible (st.group q) = false) ∧
    st.FirstRival w a l₂ h

end State

variable {w : RatingWindow}

theorem eligible_iff : w.eligible g = true ↔
    g.isInvited = false ∧ (w.Contains g ∨ g.joinTime < w.discardTime) := by
  simp [RatingWindow.eligible, RatingWindow.Contains]

theorem firstEligible_eq_none : st.firstEligible b w t = none ↔
    ∀ q ∈ st.queuedGroups b (.premade t), w.eligible (st.group q) = false := by
  simp [State.firstEligible]

variable {a h : Ptr}

theorem secondEligible_iff {l₁ l₂ : List Ptr} (hl : st.queuedGroups b (.premade t) = l₁ ++ a :: l₂)
    (ha : w.eligible (st.group a) = true) (hnone : ∀ q ∈ l₁, w.eligible (st.group q) = false) :
    st.secondEligible b w t a = some h ↔ st.FirstRival w a l₂ h := by
  have hdrop : (st.queuedGroups b (.premade t)).dropWhile (· ≠ a) = a :: l₂ := by
    rw [hl, List.dropWhile_append_of_pos, List.dropWhile_cons_of_neg (by simp)]
    intro q hq
    rw [decide_eq_true_eq]
    rintro rfl
    rw [hnone q hq] at ha
    cases ha
  unfold State.secondEligible FirstRival
  rw [hdrop, List.find?_cons_of_neg (by simp), List.find?_eq_some_iff_append]
  constructor
  · rintro ⟨hh, m₁, m₂, hm, hrest⟩
    simp only [Bool.and_eq_true, decide_eq_true_eq] at hh
    refine ⟨m₁, m₂, hm, hh.1, hh.2, fun q hq heq => ?_⟩
    simpa [heq] using hrest q hq
  · rintro ⟨m₁, m₂, hm, hh, hne, hrest⟩
    refine ⟨by simp [hh, hne], m₁, m₂, hm, fun q hq => ?_⟩
    cases heq : w.eligible (st.group q) with
    | false => simp
    | true => simp [hrest q hq heq]

theorem ratedPair_iff : st.ratedPair b w = some (a, h) ↔ st.IsPair b w a h := by
  have hone : ∀ t, (∃ l₁ l₂, st.queuedGroups b (.premade t) = l₁ ++ a :: l₂ ∧
      w.eligible (st.group a) = true ∧ (∀ q ∈ l₁, w.eligible (st.group q) = false) ∧
      (∀ q ∈ st.queuedGroups b (.premade t.other), w.eligible (st.group q) = false) ∧
      st.FirstRival w a l₂ h) ↔
      st.firstEligible b w t = some a ∧ st.firstEligible b w t.other = none ∧
        st.secondEligible b w t a = some h := by
    intro t
    rw [firstEligible_iff, firstEligible_eq_none]
    constructor
    · rintro ⟨l₁, l₂, hl, ha, hnone, hother, hrival⟩
      exact ⟨⟨l₁, l₂, hl, ha, hnone⟩, hother, (secondEligible_iff hl ha hnone).2 hrival⟩
    · rintro ⟨⟨l₁, l₂, hl, ha, hnone⟩, hother, hsecond⟩
      exact ⟨l₁, l₂, hl, ha, hnone, hother, (secondEligible_iff hl ha hnone).1 hsecond⟩
  have hsplit : (∃ t : Team, st.firstEligible b w t = some a ∧ st.firstEligible b w t.other = none ∧
      st.secondEligible b w t a = some h) ↔
      (st.firstEligible b w .alliance = some a ∧ st.firstEligible b w .horde = none ∧
        st.secondEligible b w .alliance a = some h) ∨
      (st.firstEligible b w .horde = some a ∧ st.firstEligible b w .alliance = none ∧
        st.secondEligible b w .horde a = some h) := by
    constructor
    · rintro ⟨t, ht⟩
      cases t with
      | alliance => exact .inl ht
      | horde => exact .inr ht
    · rintro (ht | ht)
      · exact ⟨.alliance, ht⟩
      · exact ⟨.horde, ht⟩
  unfold IsPair
  rw [exists_congr hone, hsplit, ← firstEligible_iff, ← firstEligible_iff]
  unfold State.ratedPair
  cases hA : st.firstEligible b w .alliance with
  | none =>
    cases hH : st.firstEligible b w .horde with
    | none => simp
    | some h' =>
      simp only [map_eq_some_iff, Prod.mk.injEq, some.injEq]
      grind
  | some a' =>
    cases hH : st.firstEligible b w .horde with
    | none =>
      simp only [map_eq_some_iff, Prod.mk.injEq, some.injEq]
      grind
    | some h' => simp

/-! ## The discard time -/

/-- The server has been up for `uptime` milliseconds, of which `getMSTime()` shows 32 bits, and the groups
of the rated lists have noted their join times from that clock. -/
structure ReadsClock (st : State) (b : BattlegroundBracketId) (env : Env) (uptime : Nat)
    (joined : Ptr → Nat) : Prop where
  now : env.msTime = uptime % 2 ^ 32
  joinTime : ∀ t, ∀ p ∈ st.queuedGroups b (.premade t),
    joined p ≤ uptime ∧ (st.group p).joinTime = joined p % 2 ^ 32
  timer : env.ratingDiscardTimer < 2 ^ 32

namespace State

variable (st) (b) (env) (arenaRating uptime : Nat) (joined : Ptr → Nat)

/-- Either of the two groups is in the window or has waited for longer than the discard timer. -/
def InWindowOrPatient : Prop :=
  ∀ w a h, st.ratedWindow env b arenaRating = some w → st.ratedPair b w = some (a, h) →
    ∀ p, p = a ∨ p = h → w.Contains (st.group p) ∨ env.ratingDiscardTimer < uptime - joined p

/-- The group is outside the window, the clock shows less than the discard timer, and the group joined
since the clock was last at zero. -/
def JoinedUnderTimer (w : RatingWindow) (p : Ptr) : Prop :=
  ¬ w.Contains (st.group p) ∧ uptime % 2 ^ 32 < env.ratingDiscardTimer ∧ joined p / 2 ^ 32 = uptime / 2 ^ 32

/-- No such group is the first eligible one of its list, or the first rival of one that is alone. -/
def NoneUnderTimer : Prop :=
  ∀ w a h, st.ratedWindow env b arenaRating = some w → st.IsPair b w a h →
    ¬ st.JoinedUnderTimer env uptime joined w a ∧ ¬ st.JoinedUnderTimer env uptime joined w h

end State

theorem waited_iff {uptime joined timer : Nat} (hjoined : joined ≤ uptime) (htimer : timer < 2 ^ 32)
    (h : joined % 2 ^ 32 < u32Sub (uptime % 2 ^ 32) timer) :
    timer < uptime - joined ↔ ¬ (uptime % 2 ^ 32 < timer ∧ joined / 2 ^ 32 = uptime / 2 ^ 32) := by
  unfold u32Sub at h
  omega

variable {arenaRating uptime : Nat} {joined : Ptr → Nat}

theorem ratedWindow_discardTime (hw : st.ratedWindow env b arenaRating = some w) :
    w.discardTime = u32Sub env.msTime env.ratingDiscardTimer := by
  unfold State.ratedWindow at hw
  split at hw
  · cases hw
    rfl
  · obtain ⟨x, -, hx⟩ := map_eq_some_iff.1 hw
    cases hx
    rfl

theorem ReadsClock.patient_iff (h : ReadsClock st b env uptime joined)
    (hw : st.ratedWindow env b arenaRating = some w) {p : Ptr}
    (hp : p ∈ st.queuedGroups b (.premade t)) (heligible : w.eligible (st.group p) = true) :
    (w.Contains (st.group p) ∨ env.ratingDiscardTimer < uptime - joined p) ↔
      ¬ st.JoinedUnderTimer env uptime joined w p := by
  obtain ⟨hle, hjoin⟩ := h.joinTime t p hp
  unfold JoinedUnderTimer
  by_cases hin : w.Contains (st.group p)
  · simp [hin]
  · have hearly : joined p % 2 ^ 32 < u32Sub (uptime % 2 ^ 32) env.ratingDiscardTimer := by
      rcases (eligible_iff.1 heligible).2 with hin' | hlt
      · exact absurd hin' hin
      · rwa [hjoin, ratedWindow_discardTime hw, h.now] at hlt
    simp only [hin, false_or, not_false_iff, true_and]
    exact waited_iff hle h.timer hearly

theorem State.IsPair.mem (hpair : st.IsPair b w a h) {p : Ptr} (hp : p = a ∨ p = h) :
    (∃ t, p ∈ st.queuedGroups b (.premade t)) ∧ w.eligible (st.group p) = true := by
  obtain ⟨hea, heh, hlists⟩ := ratedPair_eq_some b (ratedPair_iff.2 hpair)
  have ha : ∃ t, a ∈ st.queuedGroups b (.premade t) := by
    rcases hlists with ⟨ha, -⟩ | ⟨t, ha, -, -⟩
    · exact ⟨_, ha⟩
    · exact ⟨t, ha⟩
  have hh : ∃ t, h ∈ st.queuedGroups b (.premade t) := by
    rcases hlists with ⟨-, hh⟩ | ⟨t, -, hh, -⟩
    · exact ⟨_, hh⟩
    · exact ⟨t, hh⟩
  rcases hp with rfl | rfl
  · exact ⟨ha, hea⟩
  · exact ⟨hh, heh⟩

/-- **Either group of a rated match is in the window or has waited for longer than the discard timer exactly
when** neither of them is outside the window and joined since the clock was last at zero, the clock
showing less than the timer. -/
theorem ratedMatch_inWindow_iff (hclock : ReadsClock st b env uptime joined) (arenaRating : Nat) :
    st.InWindowOrPatient env b arenaRating uptime joined ↔
      st.NoneUnderTimer env b arenaRating uptime joined := by
  refine forall_congr' fun w => forall_congr' fun a => forall_congr' fun h => forall_congr' fun hw => ?_
  rw [ratedPair_iff]
  refine forall_congr' fun hpair => ?_
  have hiff : ∀ p, p = a ∨ p = h → ((w.Contains (st.group p) ∨ env.ratingDiscardTimer < uptime - joined p) ↔
        ¬ st.JoinedUnderTimer env uptime joined w p) := by
    intro p hp
    obtain ⟨⟨t, hmem⟩, heligible⟩ := hpair.mem hp
    exact hclock.patient_iff hw hmem heligible
  constructor
  · intro hgood
    exact ⟨(hiff a (.inl rfl)).1 (hgood a (.inl rfl)), (hiff h (.inr rfl)).1 (hgood h (.inr rfl))⟩
  · rintro ⟨ha, hh⟩ p (rfl | rfl)
    · exact (hiff p (.inl rfl)).2 ha
    · exact (hiff p (.inr rfl)).2 hh

theorem noneUnderTimer_of_le (h : env.ratingDiscardTimer ≤ uptime % 2 ^ 32) :
    st.NoneUnderTimer env b arenaRating uptime joined := by
  intro w a h' _ _
  refine ⟨fun hunder => ?_, fun hunder => ?_⟩
  · exact absurd hunder.2.1 (by omega)
  · exact absurd hunder.2.1 (by omega)

def windowEnv (msTime : Nat) : Env :=
  { sampleEnv with msTime := msTime, maxRatingDifference := 150, ratingDiscardTimer := 600000 }

def unequalTeams : State :=
  run step {} [(windowEnv 1000, .addGroup (sampleJoin 1 2 7)),
    (windowEnv 1000, .addGroup { sampleJoin 3 4 8 with matchmakerRating := 3000 })]

theorem unequalTeams_readsClock {uptime : Nat} (h : 1000 ≤ uptime) (hlt : uptime < 2 ^ 32) :
    ReadsClock unequalTeams 0 (windowEnv uptime) uptime fun _ => 1000 where
  now := (Nat.mod_eq_of_lt hlt).symm
  joinTime t p hp := by
    have hlist : ∀ t, ∀ p ∈ unequalTeams.queuedGroups 0 (.premade t),
        (unequalTeams.group p).joinTime = 1000 := by
      intro t
      cases t <;> decide
    exact ⟨h, hlist t p hp⟩
  timer := by
    show 600000 < 2 ^ 32
    decide

theorem ratedMatch_inWindow_patient :
    unequalTeams.InWindowOrPatient (windowEnv 660000) 0 1500 660000 fun _ => 1000 :=
  (ratedMatch_inWindow_iff (unequalTeams_readsClock (by decide) (by decide)) 1500).2
    (noneUnderTimer_of_le (by decide))

/-- In the first minutes of the server a team of 1500 meets one of 3000. -/
theorem ratedMatch_out_of_window :
    ¬ unequalTeams.InWindowOrPatient (windowEnv 1000) 0 1500 1000 fun _ => 1000 := by
  intro hgood
  have hpair : unequalTeams.ratedPair 0 (ratingWindow (windowEnv 1000) 1500 0) = some (0, 1) := by
    decide
  rcases hgood _ 0 1 rfl hpair 1 (.inr rfl) with hin | hwaited
  · revert hin
    unfold State.RatingWindow.Contains
    decide
  · revert hwaited
    decide

end Axium.Queue
