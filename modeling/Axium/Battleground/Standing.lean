import Axium.Battleground.QueueInvariant

/-!
# Invitations stand

A group is invited once. Whatever is added, removed and matched afterwards, it keeps its side and its invitation,
and only loses players, until the last of them has left.
-/

namespace Axium.Queue

open List Function Run State OrdMap

/-- What is left of an invited group has its side, its invitation and some of its players. -/
structure GroupQueueInfo.Remains (g g' : GroupQueueInfo) : Prop where
  invited : g'.isInvitedToBGInstanceGUID = g.isInvitedToBGInstanceGUID
  time : g'.removeInviteTime = g.removeInviteTime
  team : g'.team = g.team
  players : g'.players.keys ⊆ g.players.keys

/-- The group `g` of old stands: its pointer is given, and what is left there remains of it. -/
structure Stands (p : Ptr) (g : GroupQueueInfo) (st : State) : Prop where
  given : p < st.nextPtr
  remains : ∀ g', st.groups p = some g' → g.Remains g'

variable {env : Env} {st st' : State} {p q : Ptr} {g : GroupQueueInfo}

namespace Stands

theorem of_same (h : Stands p g st) (hnext : st.nextPtr ≤ st'.nextPtr) (hp : st'.groups p = st.groups p) :
    Stands p g st' :=
  ⟨h.given.trans_le hnext, fun g' hg' => h.remains g' (hp ▸ hg')⟩

/-- A write to a group that waits is not to this one. -/
theorem write_waiting (h : Stands p g st) (hinv : g.isInvited = true) {w : GroupQueueInfo}
    {f : GroupQueueInfo → GroupQueueInfo} (hw : st.groups q = some w) (hwait : w.isInvited = false)
    (hnext : st'.nextPtr = st.nextPtr)
    (hgroups : st'.groups p = if p = q then (st.groups q).map f else st.groups p) : Stands p g st' := by
  have hne : p ≠ q := by
    rintro rfl
    have hsame := (h.remains w hw).invited
    unfold GroupQueueInfo.isInvited at hinv hwait
    rw [hsame, hinv] at hwait
    cases hwait
  exact h.of_same hnext.ge (hgroups.trans (if_neg hne))

theorem move (h : Stands p g st) (hinv : g.isInvited = true) (hm : Move env st st') : Stands p g st' := by
  cases hm with
  | pools | touch => exact h.of_same le_rfl rfl
  | team t hw hwait => exact h.write_waiting hinv hw hwait rfl (modifyGroup_groups ..)
  | transfer hw hwait => exact h.write_waiting hinv hw hwait rfl (transfer_groups ..)
  | @invite q w i inst hw hwait =>
    obtain ⟨rings, instances, heq⟩ := st.invite_cases env q i inst
    rw [heq]
    exact h.write_waiting hinv hw hwait rfl (modifyGroup_groups ..)
  | opponents q opponent =>
    refine ⟨h.given, fun g' hg' => ?_⟩
    rw [setOpponents, modifyGroup_groups] at hg'
    split at hg'
    · next heq =>
      obtain ⟨g₀, hg₀, rfl⟩ := Option.map_eq_some_iff.1 hg'
      obtain ⟨hinvited, htime, hteam, hplayers⟩ := h.remains g₀ (heq ▸ hg₀)
      exact ⟨hinvited, htime, hteam, hplayers⟩
    · exact h.remains g' hg'

theorem moves (h : Stands p g st) (hinv : g.isInvited = true) (hm : Moves env st st') : Stands p g st' := by
  induction hm with
  | refl => exact h
  | tail _ hstep ih => exact ih.move hinv hstep

end Stands

/-! ## Removals -/

theorem removeOne_nextPtr {guid : Guid} {decrease : Bool} {next : Option Guid}
    (hok : st.removeOne env guid decrease = .ok (st', next)) : st'.nextPtr = st.nextPtr := by
  have hdecrease : ∀ (s : State) g, (s.decreaseInvitedCount env g).nextPtr = s.nextPtr := by
    intro s g
    rw [decreaseInvitedCount_frame s s env g g.players rfl]
  have hsame : ∀ (c : Bool) (s : State) g, (releaseChallenge (if c = true then s.decreaseInvitedCount env g else s)
      env guid).nextPtr = s.nextPtr := by
    intro c s g
    have hrelease : ∀ s : State, (s.releaseChallenge env guid).nextPtr = s.nextPtr := by
      intro s
      unfold releaseChallenge
      split
      · split <;> rfl
      · rfl
    rw [hrelease]
    split
    · exact hdecrease s g
    · rfl
  unfold removeOne at hok
  split at hok
  · cases hok
  · dsimp only at hok
    split at hok
    · cases hok
    · split at hok
      · cases hok
        exact hsame _ _ _
      · split at hok
        · cases hok
          exact hsame _ _ _
        · cases hok
          exact hsame _ _ _

theorem removePlayer_nextPtr (st : State) (env : Env) (guid : Guid) (decrease : Bool) :
    (st.removePlayer env guid decrease).1.nextPtr = st.nextPtr := by
  unfold removePlayer
  induction st.queuedPlayers.size generalizing st guid with
  | zero => rfl
  | succ fuel ih =>
    unfold removeUpTo
    split
    · rfl
    · next heq => exact removeOne_nextPtr heq
    · next heq => exact (ih _ _).trans (removeOne_nextPtr heq)

theorem Stands.removePlayer (h : Stands p g st) (hwf : WF st) (guid : Guid) (decrease : Bool) :
    Stands p g (st.removePlayer env guid decrease).1 := by
  have hnext := removePlayer_nextPtr st env guid decrease
  cases hfind : st.queuedPlayers.find? guid with
  | none =>
    rw [removePlayer_notFound hfind]
    exact h
  | some info =>
    obtain ⟨w, hw⟩ := hwf.owner guid info hfind
    obtain ⟨st', heq, hrem⟩ := removePlayer_removes hwf hfind hw env decrease
    rw [heq] at hnext ⊢
    by_cases hp : p = info.groupInfo
    · subst hp
      obtain ⟨hinvited, htime, hteam, hplayers⟩ := h.remains w hw
      refine ⟨h.given.trans_eq hnext.symm, fun g' hg' => ?_⟩
      by_cases hall : ∀ x ∈ w.players.keys, w.leaves guid x
      · rw [hrem.freed hall] at hg'
        cases hg'
      · push Not at hall
        rw [hrem.kept hall] at hg'
        cases hg'
        exact ⟨hinvited, htime, hteam, fun x hx => hplayers (mem_keys_erase.1 hx).2⟩
    · exact h.of_same hnext.ge (hrem.others p hp)

/-! ## Runs -/

/-- An invited group stands after every call. -/
theorem Stands.step {ee : Env × Event} (h : Stands p g st) (hinv : g.isInvited = true) (hwf : WF st) :
    Stands p g (step st ee) := by
  obtain ⟨env, e⟩ := ee
  cases e with
  | addGroup join =>
    obtain ⟨queued, players, heq, -⟩ := addGroup_cases st env join
    change Stands p g (st.addGroup env join)
    rw [heq]
    exact h.of_same (Nat.le_succ _) (update_of_ne h.given.ne ..)
  | removePlayer guid decrease => exact h.removePlayer hwf guid decrease
  | update bgTypeId b arenaType isRated arenaRating =>
    obtain ⟨s, ⟨s₁, s₂, hm₁, hc₁, hm₂⟩, s₃, s₄, hm₃, hc₂, hm₄⟩ :=
      update_refines env b hwf.toLists bgTypeId arenaType isRated arenaRating
    have hcreated : ∀ {new s s'}, Created env new s s' → Stands p g s → Stands p g s' := by
      rintro new s s' ⟨⟩ hs
      · exact hs
      · exact hs.of_same le_rfl rfl
    have hs := (hcreated hc₁ (h.moves hinv hm₁)).moves hinv hm₂
    exact (hcreated hc₂ (hs.moves hinv hm₃)).moves hinv hm₄

/-- **An invitation stands.** In a run of calls that the handlers may make, a group that is invited after `pre`
has the same invitation, the same side and no new players at every later time, as long as anybody is left of it. -/
theorem invitation_stands (pre post : List (Env × Event))
    (hrun : AllSteps step (fun st ee => Admissible st ee.2) {} (pre ++ post))
    (hg : (run step {} pre).groups p = some g) (hinv : g.isInvited = true) :
    ∀ g', (run step {} (pre ++ post)).groups p = some g' → g.Remains g' := by
  have hwf := run_wf pre post hrun
  have hstart : Stands p g (run step {} pre) := by
    refine ⟨lt_of_not_ge fun hle => ?_, fun g' hg' => ?_⟩
    · rw [hwf.fresh p hle] at hg
      cases hg
    · rw [hg] at hg'
      cases hg'
      exact ⟨rfl, rfl, rfl, Subset.refl _⟩
  rw [run_append]
  exact (AllSteps.invariant (I := fun st => WF st ∧ Stands p g st)
    (fun _ _ hs hadm => ⟨step_wf hs.1 hadm, hs.2.step hinv hs.1⟩) ⟨hwf, hstart⟩ (allSteps_append.1 hrun).2).2.remains

/-- The two teams are matched. -/
def sampleMatch : List (Env × Event) :=
  [(sampleEnv, .addGroup (sampleJoin 1 2 7)), (sampleEnv, .addGroup (sampleJoin 3 4 8)),
    (sampleEnv, .update .aa 0 2 true 1500)]

def sampleDeparture : List (Env × Event) :=
  [(sampleEnv, .addGroup (sampleJoin 5 6 9)), (sampleEnv, .removePlayer 1 true)]

/-- Another team comes, and a player of the first one leaves. -/
theorem sampleMatch_stands : ∃ g', (run step {} (sampleMatch ++ sampleDeparture)).groups 0 = some g' ∧
    ((run step {} sampleMatch).group 0).Remains g' :=
  ⟨_, rfl, invitation_stands (p := 0) sampleMatch sampleDeparture (by decide) rfl (by decide) _ rfl⟩

end Axium.Queue
