import Axium.Battleground.QueueInvariant

/-!
# Who meets whom in a rated arena

The rated branch takes the first eligible group of each premade list. Only when one list has none
does it search the other list a second time, and only that search compares arena teams. So a team can
meet itself: **`ratedMatch_fair_iff`** says that it does exactly when the first eligible groups of
the two lists are of one arena team.
-/

namespace Axium.Queue

open Run State

variable {st : State} {env : Env} {b : BattlegroundBracketId}

/-- The two groups invited to the new arena are different, were waiting, and are of different arena
teams. -/
def FairPairing (st st' : State) (i : InstanceId) : Prop :=
  ∃ a h, a ≠ h ∧ (st.group a).isInvited = false ∧ (st.group h).isInvited = false ∧
    (∀ p, (st'.group p).isInvitedToBGInstanceGUID = i ↔ p = a ∨ p = h) ∧
    (st.group a).arenaTeamId ≠ (st.group h).arenaTeamId

/-- The group is the first of the list that is not invited and whose rating is in the window, or
which has waited for longer than the discard time. -/
def State.FirstEligible (st : State) (w : RatingWindow) (l : List Ptr) (p : Ptr) : Prop :=
  ∃ l₁ l₂, l = l₁ ++ p :: l₂ ∧ w.eligible (st.group p) = true ∧ ∀ q ∈ l₁, w.eligible (st.group q) = false

def State.FrontTeamsDiffer (st : State) (b : BattlegroundBracketId) (w : RatingWindow) : Prop :=
  ∀ a h, st.FirstEligible w (st.queuedGroups b (.premade .alliance)) a →
    st.FirstEligible w (st.queuedGroups b (.premade .horde)) h →
    (st.group a).arenaTeamId ≠ (st.group h).arenaTeamId

variable {w : RatingWindow}

theorem firstEligible_iff {t : Team} {p : Ptr} :
    st.firstEligible b w t = some p ↔ st.FirstEligible w (st.queuedGroups b (.premade t)) p := by
  unfold State.firstEligible
  rw [List.find?_eq_some_iff_append]
  constructor
  · rintro ⟨hp, l₁, l₂, hl, hnone⟩
    exact ⟨l₁, l₂, hl, hp, fun q hq => by simpa using hnone q hq⟩
  · rintro ⟨l₁, l₂, hl, hp, hnone⟩
    exact ⟨hp, l₁, l₂, hl, fun q hq => by simpa using hnone q hq⟩

variable {a h : Ptr}

theorem startRated_invitedTo (st : State) {i : InstanceId} {inst : Instance}
    (hne : a ≠ h) (hla : ∃ g, st.groups a = some g) (hlh : ∃ g, st.groups h = some g)
    (hia : st.invitedTo a = 0) (hih : st.invitedTo h = 0) (hinst : st.instances i = some inst) (q : Ptr) :
    (st.startRated env b i a h).invitedTo q = if q = a ∨ q = h then i else st.invitedTo q := by
  unfold State.startRated
  dsimp only
  obtain ⟨s, hs⟩ : ∃ s, s = (((st.setOpponents a (st.group h)).setOpponents h
    (st.group a)).relocate b a .alliance).relocate b h .horde := ⟨_, rfl⟩
  rw [← hs]
  have hto : ∀ p, s.invitedTo p = st.invitedTo p := by
    intro p
    rw [hs, relocate_invitedTo, relocate_invitedTo, setOpponents_invitedTo, setOpponents_invitedTo]
  have hframe := relocate_frame (((st.setOpponents a (st.group h)).setOpponents h
    (st.group a)).relocate b a .alliance) b h .horde
  rw [← hs, (relocate_frame _ b a .alliance).1, (relocate_frame _ b a .alliance).2] at hframe
  have hlive : ∀ p, (∃ g, st.groups p = some g) → ∃ g, s.groups p = some g := by
    intro p hp
    rw [hframe.2]
    exact modifyGroup_live _ h _ (modifyGroup_live st a _ hp)
  have hinst' : s.instances i = some inst := by
    rw [hframe.1]
    exact hinst
  have hia' : s.invitedTo a = 0 := (hto a).trans hia
  obtain ⟨hlh', inst', hinst''⟩ := inviteGroupToBG_live env s hia' hinst' .alliance (hlive h hlh)
  have hih' : ((s.inviteGroupToBG env a i (some .alliance)).1).invitedTo h = 0 := by
    rw [inviteGroupToBG_invitedTo env s (hlive a hla) hia' hinst', if_neg hne.symm, hto, hih]
  have hstart : ∀ s' : State, (s'.startBattleground i).invitedTo q = s'.invitedTo q := fun _ => rfl
  rw [hstart, inviteGroupToBG_invitedTo env _ hlh' hih' hinst'',
    inviteGroupToBG_invitedTo env s (hlive a hla) hia' hinst', hto]
  by_cases hqa : q = a
  · simp [hqa]
  · simp [hqa]

/-! ## The pairing -/

/-- The pair is fair unless it is made of the first eligible groups of the two lists. -/
theorem ratedPair_teams (heq : st.ratedPair b w = some (a, h)) :
    (st.group a).arenaTeamId ≠ (st.group h).arenaTeamId ↔ st.FrontTeamsDiffer b w := by
  unfold State.ratedPair at heq
  split at heq
  · rename_i ha hh
    cases heq
    refine ⟨fun hne a' h' ha' hh' => ?_, fun hdiffer => ?_⟩
    · rw [firstEligible_iff.2 ha'] at ha
      rw [firstEligible_iff.2 hh'] at hh
      cases ha
      cases hh
      exact hne
    · exact hdiffer a h (firstEligible_iff.1 ha) (firstEligible_iff.1 hh)
  · rename_i ha hh
    obtain ⟨q, hq, heq⟩ := Option.map_eq_some_iff.1 heq
    cases heq
    refine iff_of_true (secondEligible_eq_some b hq).2.2 fun a' h' _ hh' => ?_
    rw [firstEligible_iff.2 hh'] at hh
    cases hh
  · rename_i ha hh
    obtain ⟨q, hq, heq⟩ := Option.map_eq_some_iff.1 heq
    cases heq
    refine iff_of_true (secondEligible_eq_some b hq).2.2 fun a' h' ha' _ => ?_
    rw [firstEligible_iff.2 ha'] at ha
    cases ha
  · cases heq

theorem WF.ratedPair_ne (hwf : WF st) (heq : st.ratedPair b w = some (a, h)) : a ≠ h := by
  rintro rfl
  obtain ⟨-, -, ⟨hma, hmh⟩ | ⟨t, -, -, hid⟩⟩ := ratedPair_eq_some b heq
  · cases (hwf.unique _ _ _ _ a hma hmh).2
  · exact hid rfl

theorem ratedMatch_invitedTo (hwf : WF st) (arenaType : Nat)
    {arenaRating : Nat} {i : InstanceId} {typeId : BattlegroundTypeId} {config : Bg.Config}
    (hw : st.ratedWindow env b arenaRating = some w) (hpair : st.ratedPair b w = some (a, h))
    (hnew : env.newMatch = some (i, typeId, config)) (q : Ptr) :
    (st.ratedMatch env b arenaType arenaRating).invitedTo q = if q = a ∨ q = h then i else st.invitedTo q := by
  obtain ⟨hea, heh, hlists⟩ := ratedPair_eq_some b hpair
  have hlive : (∃ g, st.groups a = some g) ∧ ∃ g, st.groups h = some g := by
    rcases hlists with ⟨hma, hmh⟩ | ⟨t, hma, hmh, -⟩
    · exact ⟨hwf.live b _ a hma, hwf.live b _ h hmh⟩
    · exact ⟨hwf.live b _ a hma, hwf.live b _ h hmh⟩
  have hzero : ∀ p, w.eligible (st.group p) = true → st.invitedTo p = 0 := by
    intro p hp
    simpa [isInvited_eq] using isInvited_of_eligible hp
  have heq : st.ratedMatch env b arenaType arenaRating =
      (st.createNewBattleground env i typeId config b arenaType true).startRated env b i a h := by
    simp only [State.ratedMatch, hw, Option.bind_some, hpair, hnew]
  rw [heq]
  exact startRated_invitedTo (st.createNewBattleground env i typeId config b arenaType true)
    (hwf.ratedPair_ne hpair) hlive.1 hlive.2 (hzero a hea) (hzero h heh)
    (Function.update_self ..) q

/-- **A rated arena pairs an arena team with itself exactly when** the first eligible groups of the
two lists are of one team. -/
theorem ratedMatch_fair_iff (hwf : WF st) {w : RatingWindow} {arenaType arenaRating : Nat}
    {i : InstanceId} {typeId : BattlegroundTypeId} {config : Bg.Config}
    (hw : st.ratedWindow env b arenaRating = some w) (hpair : (st.ratedPair b w).isSome)
    (hnew : env.newMatch = some (i, typeId, config)) (hfresh : ∀ p, st.invitedTo p ≠ i) :
    FairPairing st (st.ratedMatch env b arenaType arenaRating) i ↔ st.FrontTeamsDiffer b w := by
  obtain ⟨⟨a, h⟩, hpair⟩ := Option.isSome_iff_exists.1 hpair
  obtain ⟨hea, heh, -⟩ := ratedPair_eq_some b hpair
  have hto := ratedMatch_invitedTo hwf arenaType hw hpair hnew
  have hmem : ∀ p, (st.ratedMatch env b arenaType arenaRating).invitedTo p = i ↔ p = a ∨ p = h := by
    intro p
    rw [hto]
    split
    · rename_i hp
      simp [hp]
    · rename_i hp
      simp [hp, hfresh p]
  rw [← ratedPair_teams hpair]
  constructor
  · rintro ⟨a', h', hne, -, -, hinv, hid⟩
    -- the two invited groups are the pair, in one order or the other
    have hset : ∀ p, p = a' ∨ p = h' ↔ p = a ∨ p = h := fun p => (hinv p).symm.trans (hmem p)
    rcases (hset a').1 (.inl rfl) with rfl | rfl
    · rcases (hset h').1 (.inr rfl) with rfl | rfl
      · exact absurd rfl hne
      · exact hid
    · rcases (hset h').1 (.inr rfl) with rfl | rfl
      · exact hid.symm
      · exact absurd rfl hne
  · intro hid
    exact ⟨a, h, hwf.ratedPair_ne hpair, isInvited_of_eligible hea, isInvited_of_eligible heh, hmem, hid⟩

theorem ratedMatch_fair_of_second :
    FairPairing (run step {} [(sampleEnv, .addGroup (sampleJoin 1 2 7)),
        (sampleEnv, .addGroup (sampleJoin 3 4 8))]) ((run step {} [(sampleEnv, .addGroup (sampleJoin 1 2 7)),
        (sampleEnv, .addGroup (sampleJoin 3 4 8))]).ratedMatch sampleEnv 0 2 1500) 1 := by
  have hwf : WF (run step {} [(sampleEnv, .addGroup (sampleJoin 1 2 7)),
      (sampleEnv, .addGroup (sampleJoin 3 4 8))]) := by
    refine run_wf _ [] ?_
    decide
  refine (ratedMatch_fair_iff hwf (w := ratingWindow sampleEnv 1500 0) rfl (by decide) rfl ?_).2 ?_
  · intro p
    by_cases hp : p < 2
    · have hsmall : ∀ p < 2, (run step {} [(sampleEnv, .addGroup (sampleJoin 1 2 7)),
          (sampleEnv, .addGroup (sampleJoin 3 4 8))]).invitedTo p ≠ 1 := by decide
      exact hsmall p hp
    · unfold State.invitedTo State.group
      rw [hwf.fresh p (Nat.le_of_not_lt hp)]
      decide
  · rintro a h - ⟨l₁, l₂, hl, -⟩
    have hnil : (run step {} [(sampleEnv, .addGroup (sampleJoin 1 2 7)),
        (sampleEnv, .addGroup (sampleJoin 3 4 8))]).queuedGroups 0 (.premade .horde) = [] := by decide
    rw [hnil] at hl
    simp at hl

/-- Two groups of one arena team join on either side, and the team meets itself. -/
theorem ratedMatch_unfair :
    ¬ FairPairing (run step {} [(sampleEnv, .addGroup (sampleJoin 1 2 7)),
        (sampleEnv, .addGroup { sampleJoin 3 4 7 with team := .horde })])
      (run step {} [(sampleEnv, .addGroup (sampleJoin 1 2 7)),
        (sampleEnv, .addGroup { sampleJoin 3 4 7 with team := .horde }),
        (sampleEnv, .update .aa 0 2 true 1500)]) 1 := by
  rintro ⟨a, h, hne, -, -, hinv, hid⟩
  have h0 := (hinv 0).1 (by decide)
  have h1 := (hinv 1).1 (by decide)
  rcases h0 with rfl | rfl
  · rcases h1 with h1 | rfl
    · cases h1
    · exact hid (by decide)
  · rcases h1 with rfl | h1
    · exact hid (by decide)
    · cases h1

end Axium.Queue
