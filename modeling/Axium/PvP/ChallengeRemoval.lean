import Axium.PvP.ChallengeMgr

/-!
# Leaving after a challenge

`RemovePlayer` looks for the player's group in the lists of the queue before it changes anything. The
groups of a challenge are in no list, so the search fails and the player keeps his entry, his
challenge and his invitation, however he leaves. Only a later `AddGroup`, which overwrites the entry,
makes him removable again.
-/

namespace Axium.Challenge

open Queue Queue.State Run List Function OrdMap ChallengeMgr State

/-! ## Updates

What an update leaves alone, as far as it matters for a challenge. -/

def Listed (st : State) (p : Ptr) : Prop := ∃ b j, p ∈ st.queuedGroups b j

structure Keeps (env : Env) (st st' : State) : Prop where
  queued : st'.queuedPlayers = st.queuedPlayers
  challenge : st'.challengeInfo = st.challengeInfo
  next : st'.nextPtr = st.nextPtr
  listed : ∀ p, Listed st' p → Listed st p
  invited : ∀ p, st'.invitedTo p = st.invitedTo p ∨ st'.invitedTo p ∈ env.invitable

namespace Keeps

variable {env : Env} {st st' st'' : State}

theorem refl (st : State) : Keeps env st st := ⟨rfl, rfl, rfl, fun _ => id, fun _ => .inl rfl⟩

theorem trans (h : Keeps env st st') (h' : Keeps env st' st'') : Keeps env st st'' where
  queued := h'.queued.trans h.queued
  challenge := h'.challenge.trans h.challenge
  next := h'.next.trans h.next
  listed p hp := h.listed p (h'.listed p hp)
  invited p := by
    rcases h'.invited p with heq | hnew
    · rw [heq]
      exact h.invited p
    · exact .inr hnew

end Keeps

theorem Move.keeps {env : Env} {st st' : State} (hm : Move env st st') : Keeps env st st' := by
  cases hm with
  | pools pools => exact ⟨rfl, rfl, rfl, fun _ => id, fun _ => .inl rfl⟩
  | @team _ p _ t hg hinv hp => exact ⟨rfl, rfl, rfl, fun _ => id, fun q => .inl (setTeam_invitedTo st p t q)⟩
  | opponents p opponent =>
    exact ⟨rfl, rfl, rfl, fun _ => id, fun q => .inl (setOpponents_invitedTo st p opponent q)⟩
  | @transfer b p _ source target t hg hinv hp hne ht =>
    refine ⟨rfl, rfl, rfl, fun q ⟨b', j', hq⟩ => ?_, fun q => .inl (setTeam_invitedTo st p t q)⟩
    rw [transfer_queuedGroups] at hq
    split at hq
    · exact ⟨b, source, mem_of_mem_erase hq⟩
    · split at hq
      · rcases mem_cons.1 hq with rfl | hq
        · exact ⟨b, source, hp⟩
        · exact ⟨b, target, hq⟩
      · exact ⟨b', j', hq⟩
  | @invite p g i inst hg hinv hinst hi =>
    have hsame := invite_sameQueue st env p i inst
    refine ⟨hsame.queued, hsame.challenge, hsame.next, fun q ⟨b, j, hq⟩ => ⟨b, j, ?_⟩, fun q => ?_⟩
    · rwa [hsame.lists] at hq
    · rw [invite_invitedTo env st ⟨g, hg⟩]
      split
      · exact .inr hi
      · exact .inl rfl
  | touch i hf => exact ⟨rfl, rfl, rfl, fun _ => id, fun _ => .inl rfl⟩

theorem Moves.keeps {env : Env} {st st' : State} (hm : Moves env st st') : Keeps env st st' := by
  induction hm with
  | refl => exact .refl st
  | tail _ hstep ih => exact ih.trans (Move.keeps hstep)

theorem CreatesAmid.keeps {env : Env} {new : Option (InstanceId × BattlegroundTypeId × Bg.Config)}
    {st st' : State} (h : CreatesAmid env new st st') (hl : Lists st) : Keeps env st st' ∧ Lists st' := by
  obtain ⟨s₁, s₂, hm₁, hc, hm₂⟩ := h
  have hcreated : Keeps env s₁ s₂ := by
    cases hc with
    | skip => exact .refl s₁
    | create => exact ⟨rfl, rfl, rfl, fun _ => id, fun _ => .inl rfl⟩
  exact ⟨((Moves.keeps hm₁).trans hcreated).trans (Moves.keeps hm₂),
    Moves.lists hm₂ (hc.lists (Moves.lists hm₁ hl))⟩

theorem update_keeps {st : State} (hl : Lists st) (env : Env) (bgTypeId : BattlegroundTypeId)
    (b : BattlegroundBracketId) (arenaType : Nat) (isRated : Bool) (arenaRating : Nat) :
    Keeps env st (st.battlegroundQueueUpdate env bgTypeId b arenaType isRated arenaRating) ∧
      Lists (st.battlegroundQueueUpdate env bgTypeId b arenaType isRated arenaRating) := by
  obtain ⟨s, hc₁, hc₂⟩ := update_refines env b hl bgTypeId arenaType isRated arenaRating
  obtain ⟨hkeeps, hs⟩ := CreatesAmid.keeps hc₁ hl
  obtain ⟨hkeeps', hs'⟩ := CreatesAmid.keeps hc₂ hs
  exact ⟨hkeeps.trans hkeeps', hs'⟩

/-! ## The invariant -/

def Unlisted (st : State) (p : Ptr) : Prop := p < st.nextPtr ∧ ¬ Listed st p

/-- Challenge groups are in no list, and no listed group is invited to their instance. -/
structure Apart (i : InstanceId) (st : State) : Prop extends Lists st where
  challenges : ∀ guid c, st.challengeInfo guid = some c → Unlisted st c
  others : ∀ p, Listed st p → (st.group p).isInvited = true → st.invitedTo p ≠ i

def Stuck (guid : Guid) (st : State) : Prop :=
  ∃ info, st.queuedPlayers.find? guid = some info ∧ Unlisted st info.groupInfo

variable {i : InstanceId} {st st' : State} {guid : Guid} {p : Ptr} {env : Env}

theorem Apart.empty (i : InstanceId) : Apart i {} where
  toLists := .empty
  challenges := by simp
  others p hp := by
    obtain ⟨b, j, hp⟩ := hp
    cases hp

theorem Unlisted.mono (h : Unlisted st p) (hnext : st.nextPtr ≤ st'.nextPtr)
    (hlisted : ∀ q, Listed st' q → Listed st q ∨ st.nextPtr ≤ q) : Unlisted st' p := by
  refine ⟨lt_of_lt_of_le h.1 hnext, fun hp => ?_⟩
  rcases hlisted p hp with hp | hp
  · exact h.2 hp
  · exact Nat.not_le_of_lt h.1 hp

theorem Stuck.mono (h : Stuck guid st) (hqueued : st'.queuedPlayers.find? guid = st.queuedPlayers.find? guid)
    (hnext : st.nextPtr ≤ st'.nextPtr)
    (hlisted : ∀ q, Listed st' q → Listed st q ∨ st.nextPtr ≤ q) : Stuck guid st' := by
  obtain ⟨info, hfind, hun⟩ := h
  exact ⟨info, hqueued.trans hfind, hun.mono hnext hlisted⟩

theorem Lists.listed_lt (h : Lists st) (hp : Listed st p) : p < st.nextPtr := by
  by_contra hge
  obtain ⟨b, j, hp⟩ := hp
  exact h.next_unlisted (Nat.le_of_not_lt hge) b j hp

/-! ## One activation of `RemovePlayer` -/

theorem mem_of_findGroup {b : BattlegroundBracketId} {j : GroupType}
    (h : st.findGroup p = some (b, j)) : p ∈ st.queuedGroups b j := by
  have hfold : ∀ (b : BattlegroundBracketId) (types : List GroupType) (found : Option GroupType),
      types.foldl (fun found j => if p ∈ st.queuedGroups b j then some j else found) found =
        some j → found = some j ∨ p ∈ st.queuedGroups b j := by
    intro b types
    induction types with
    | nil => exact fun found h => .inl h
    | cons j' types ih =>
      intro found h
      rcases ih _ h with heq | hmem
      · dsimp only at heq
        split at heq
        · rename_i hj'
          cases heq
          exact .inr hj'
        · exact .inl heq
      · exact .inr hmem
  obtain ⟨b', -, hb'⟩ := exists_of_findSome?_eq_some h
  obtain ⟨j', hj', heq⟩ := Option.map_eq_some_iff.1 hb'
  cases heq
  rcases hfold b _ none hj' with hnone | hmem
  · cases hnone
  · exact hmem

theorem findGroup_eq_none_iff : st.findGroup p = none ↔ ¬ Listed st p := by
  constructor
  · rintro hnone ⟨b, j, hp⟩
    have hlast : (st.lastType? b p).isSome = true := by
      unfold lastType?
      rcases j with t | t | _
      · cases t <;> simp [GroupType.all, hp] <;> split_ifs <;> simp
      · cases t <;> simp [GroupType.all, hp] <;> split_ifs <;> simp
      · simp [GroupType.all, hp]
    have hb := findSome?_eq_none_iff.1 hnone b (by simp)
    rw [Option.map_eq_none_iff.1 hb] at hlast
    cases hlast
  · exact fun hp => findGroup_eq_none fun b j hmem => hp ⟨b, j, hmem⟩

def without (st : State) (guid : Guid) (p : Ptr) : State :=
  st.modifyGroup p fun g => { g with players := g.players.erase guid }

/-- The state in which an activation has taken the player out of his group and of the queue, and
released his challenge. -/
def leave (st : State) (env : Env) (guid : Guid) (decrease : Bool) (p : Ptr) : State :=
  let st := without st guid p
  let g := st.group p
  let st := if decrease && g.isInvited then st.decreaseInvitedCount env g else st
  let st := st.releaseChallenge env guid
  { st with queuedPlayers := st.queuedPlayers.erase guid }

variable {decrease : Bool}

theorem removeOne_eq_ok {next : Option Guid} (h : st.removeOne env guid decrease = .ok (st', next)) :
    ∃ info b j, st.queuedPlayers.find? guid = some info ∧ info.groupInfo ∈ st.queuedGroups b j ∧
      (st' = leave st env guid decrease info.groupInfo ∨
        st' = (leave st env guid decrease info.groupInfo).drop b j info.groupInfo) := by
  unfold removeOne at h
  split at h
  · cases h
  · rename_i info hfind
    dsimp only at h
    split at h
    · cases h
    · rename_i b j hgroup
      refine ⟨info, b, j, hfind, mem_of_findGroup hgroup, ?_⟩
      split at h
      · cases h
        exact .inr rfl
      · split at h
        · cases h
          exact .inl rfl
        · cases h
          exact .inl rfl

theorem releaseChallenge_cases (st : State) (env : Env) (guid : Guid) :
    st.releaseChallenge env guid = st ∧
        (env.online guid = true → st.challengeInfo guid = none) ∨
      ∃ c, st.challengeInfo guid = some c ∧ st.releaseChallenge env guid =
        { st.free c with challengeInfo := Function.update st.challengeInfo guid none } := by
  unfold releaseChallenge
  split
  · rename_i c hc
    split
    · exact .inr ⟨c, hc, rfl⟩
    · rename_i hoff
      exact .inl ⟨rfl, fun hon => absurd hon hoff⟩
  · rename_i hnone
    exact .inl ⟨rfl, fun _ => hnone⟩

theorem releaseChallenge_framed (st : State) (env : Env) (guid : Guid)
    (instances : InstanceId → Option Instance) :
    { st with instances := instances }.releaseChallenge env guid =
      { st.releaseChallenge env guid with instances := instances } := by
  unfold releaseChallenge
  dsimp only
  split
  · split
    · rfl
    · rfl
  · rfl

theorem decreaseInvitedCount_other (st : State) (env : Env) {g : GroupQueueInfo}
    (hne : g.isInvitedToBGInstanceGUID ≠ i) : (st.decreaseInvitedCount env g).instances i = st.instances i := by
  unfold decreaseInvitedCount
  dsimp only
  generalize (if g.bgTypeId = .aa then BattlegroundTypeId.typeNone else g.bgTypeId) = typeId
  split
  · rw [modifyInstance_apply, if_neg hne.symm]
  · rfl

theorem without_invitedTo (st : State) (guid : Guid) (p q : Ptr) :
    (without st guid p).invitedTo q = st.invitedTo q :=
  st.modifyGroup_field GroupQueueInfo.isInvitedToBGInstanceGUID
    (f := fun g => { g with players := g.players.erase guid }) (fun _ => rfl) p q

theorem leave_cases (st : State) (env : Env) (guid : Guid) (decrease : Bool) (p : Ptr) :
    ∃ instances, leave st env guid decrease p =
        { (without st guid p).releaseChallenge env guid with
          queuedPlayers := st.queuedPlayers.erase guid
          instances := instances } ∧
      ∀ i, ((st.group p).isInvited = true → st.invitedTo p ≠ i) → instances i = st.instances i := by
  have hinvited := without_invitedTo st guid p p
  have hplayers : (without st guid p).queuedPlayers = st.queuedPlayers := rfl
  have hinstances : (without st guid p).instances = st.instances := rfl
  unfold leave
  dsimp only
  generalize without st guid p = s at *
  have hqueued := releaseChallenge_queuedPlayers s env guid
  rw [hplayers] at hqueued
  split
  · rename_i hcond
    have hinv : (s.group p).isInvited = true := (Bool.and_eq_true_iff.1 hcond).2
    have hframe := decreaseInvitedCount_frame s s env (s.group p) (s.group p).players rfl
    refine ⟨(s.decreaseInvitedCount env (s.group p)).instances, ?_, fun i hi => ?_⟩
    · rw [show s.decreaseInvitedCount env (s.group p) = _ from hframe, releaseChallenge_framed, ← hqueued]
    · rw [isInvited_eq, hinvited] at hinv
      rw [← hinstances]
      refine decreaseInvitedCount_other s env (fun h => hi ?_ (hinvited.symm.trans h))
      exact hinv
  · refine ⟨(s.releaseChallenge env guid).instances, ?_, fun i _ => ?_⟩
    · rw [← hqueued]
    · rw [← hinstances]
      rcases releaseChallenge_cases s env guid with ⟨heq, -⟩ | ⟨c, -, heq⟩
      · rw [heq]
      · rw [heq]
        rfl

theorem removePlayer_invariant {I : State → Prop}
    (hstep : ∀ st guid st' next, I st → st.removeOne env guid decrease = .ok (st', next) → I st')
    (h : I st) (guid : Guid) : I (st.removePlayer env guid decrease).1 := by
  unfold removePlayer
  generalize st.queuedPlayers.size = fuel
  induction fuel generalizing st guid with
  | zero => exact h
  | succ fuel ih =>
    unfold removeUpTo
    split
    · exact h
    · rename_i hok
      exact hstep _ _ _ _ h hok
    · rename_i hok
      exact ih (hstep _ _ _ _ h hok) _

/-! ## What an activation keeps -/

section

variable (h : Apart i st)
include h

theorem Apart.framed (queued : OrdMap Guid PlayerQueueInfo)
    (rings : Team → BattlegroundBracketId → WaitRing) (instances : InstanceId → Option Instance) :
    Apart i { st with queuedPlayers := queued, waitRings := rings, instances := instances } where
  toLists := h.toLists.of_sameLists ⟨rfl, rfl, fun _ => rfl⟩ h.side
  challenges := h.challenges
  others := h.others

theorem Apart.without (guid : Guid) (p : Ptr) : Apart i (without st guid p) where
  toLists := h.toLists.modifyGroup p fun _ => .inl rfl
  challenges := h.challenges
  others q hq hinv := by
    rw [isInvited_eq, without_invitedTo] at hinv
    rw [without_invitedTo]
    exact h.others q hq hinv

theorem Apart.free (hp : ¬ Listed st p)
    (challenge : Guid → Option Ptr)
    (hsub : ∀ guid c, challenge guid = some c → st.challengeInfo guid = some c) :
    Apart i { st.free p with challengeInfo := challenge } := by
  have hne : ∀ b j, ∀ q ∈ st.queuedGroups b j, q ≠ p := by
    rintro b j q hq rfl
    exact hp ⟨b, j, hq⟩
  have hgroups : ∀ q, q ≠ p → (st.free p).groups q = st.groups q := fun q hq => update_of_ne hq ..
  refine ⟨⟨?_, h.nodup, h.unique, ?_, ?_⟩, fun guid c hc => h.challenges guid c (hsub guid c hc), ?_⟩
  · intro b j q hq
    rw [show groups _ q = _ from hgroups q (hne b j q hq)]
    exact h.live b j q hq
  · intro b j t q g hj hq hg
    rw [show groups _ q = _ from hgroups q (hne b j q hq)] at hg
    exact h.side b j t q g hj hq hg
  · intro q hq
    change Function.update st.groups p none q = none
    rw [Function.update_apply]
    split
    · rfl
    · exact h.fresh q hq
  · rintro q ⟨b, j, hq⟩
    have hgroup : (st.free p).group q = st.group q := congrArg (·.getD default) (hgroups q (hne b j q hq))
    change ((st.free p).group q).isInvited = true → ((st.free p).group q).isInvitedToBGInstanceGUID ≠ i
    rw [hgroup]
    exact h.others q ⟨b, j, hq⟩

theorem Apart.releaseChallenge (env : Env) (guid : Guid) : Apart i (st.releaseChallenge env guid) := by
  rcases releaseChallenge_cases st env guid with ⟨heq, -⟩ | ⟨c, hc, heq⟩
  · rw [heq]
    exact h
  · rw [heq]
    refine h.free (h.challenges guid c hc).2 _ fun x c' hx => ?_
    rw [Function.update_apply] at hx
    split at hx
    · cases hx
    · exact hx

theorem Apart.drop {b : BattlegroundBracketId} {j : GroupType}
    (hmem : p ∈ st.queuedGroups b j) : Apart i (st.drop b j p) := by
  have hlisted : ∀ q, Listed (st.drop b j p) q → Listed st q ∧ q ≠ p := by
    rintro q ⟨b', j', hq⟩
    obtain ⟨hq, hne⟩ := (h.mem_drop hmem).1 hq
    exact ⟨⟨b', j', hq⟩, hne⟩
  refine ⟨h.toLists.drop hmem, fun guid c hc => ?_, fun q hq => ?_⟩
  · exact (h.challenges guid c hc).mono le_rfl fun q hq => .inl (hlisted q hq).1
  · obtain ⟨hq, hne⟩ := hlisted q hq
    have hgroup : (st.drop b j p).group q = st.group q :=
      congrArg (Option.getD · default) (update_of_ne hne ..)
    unfold invitedTo
    rw [hgroup]
    exact h.others q hq

theorem Apart.leave (env : Env) (guid : Guid) (decrease : Bool) (hp : Listed st p) :
    Apart i (leave st env guid decrease p) ∧
      (leave st env guid decrease p).instances i = st.instances i := by
  obtain ⟨instances, heq, hinst⟩ := leave_cases st env guid decrease p
  rw [heq]
  exact ⟨((h.without guid p).releaseChallenge env guid).framed _ _ instances, hinst i (h.others p hp)⟩

end

theorem releaseChallenge_queuedGroups (st : State) (env : Env) (guid : Guid) :
    (st.releaseChallenge env guid).queuedGroups = st.queuedGroups ∧
      (st.releaseChallenge env guid).nextPtr = st.nextPtr := by
  rcases releaseChallenge_cases st env guid with ⟨heq, -⟩ | ⟨c, -, heq⟩
  · rw [heq]
    exact ⟨rfl, rfl⟩
  · rw [heq]
    exact ⟨rfl, rfl⟩

theorem leave_queuedGroups (st : State) (env : Env) (guid : Guid) (decrease : Bool) (p : Ptr) :
    (leave st env guid decrease p).queuedGroups = st.queuedGroups ∧
      (leave st env guid decrease p).nextPtr = st.nextPtr := by
  obtain ⟨instances, heq, -⟩ := leave_cases st env guid decrease p
  rw [heq]
  exact releaseChallenge_queuedGroups (Challenge.without st guid p) env guid

theorem leave_challengeInfo (st : State) (env : Env) (guid : Guid) (decrease : Bool) (p : Ptr)
    (x : Guid) : (leave st env guid decrease p).challengeInfo x = st.challengeInfo x ∨
      (leave st env guid decrease p).challengeInfo x = none := by
  obtain ⟨instances, heq, -⟩ := leave_cases st env guid decrease p
  rw [heq]
  rcases releaseChallenge_cases (Challenge.without st guid p) env guid with ⟨hrel, -⟩ | ⟨c, -, hrel⟩
  · rw [hrel]
    exact .inl rfl
  · rw [hrel]
    change Function.update st.challengeInfo guid none x = _ ∨
      Function.update st.challengeInfo guid none x = none
    rw [Function.update_apply]
    split
    · exact .inr rfl
    · exact .inl rfl

theorem leave_released (st : State) {env : Env} {guid : Guid} (decrease : Bool) (p : Ptr)
    (hon : env.online guid = true) : (leave st env guid decrease p).challengeInfo guid = none := by
  obtain ⟨instances, heq, -⟩ := leave_cases st env guid decrease p
  rw [heq]
  rcases releaseChallenge_cases (Challenge.without st guid p) env guid with ⟨hrel, hnone⟩ | ⟨c, -, hrel⟩
  · rw [hrel]
    exact hnone hon
  · rw [hrel]
    exact update_self ..

theorem Apart.removeOne (h : Apart i st) {next : Option Guid}
    (hok : st.removeOne env guid decrease = .ok (st', next)) :
    Apart i st' ∧ st'.instances i = st.instances i := by
  obtain ⟨info, b, j, -, hmem, hst'⟩ := removeOne_eq_ok hok
  obtain ⟨hleave, hinst⟩ := h.leave env guid decrease ⟨b, j, hmem⟩
  rcases hst' with rfl | rfl
  · exact ⟨hleave, hinst⟩
  · refine ⟨hleave.drop ?_, hinst⟩
    rw [(leave_queuedGroups ..).1]
    exact hmem

theorem Stuck.removeOne (h : Stuck guid st) {x : Guid} {next : Option Guid}
    (hok : st.removeOne env x decrease = .ok (st', next)) : Stuck guid st' := by
  obtain ⟨info, hfind, hun⟩ := h
  obtain ⟨info', b, j, hfind', hmem, hst'⟩ := removeOne_eq_ok hok
  have hne : x ≠ guid := by
    rintro rfl
    rw [hfind] at hfind'
    cases hfind'
    exact hun.2 ⟨b, j, hmem⟩
  have hqueued : st'.queuedPlayers.find? guid = st.queuedPlayers.find? guid := by
    rw [(removeOne_queuedPlayers hok).2]
    exact find?_erase_ne _ hne
  obtain ⟨hlists, hnext⟩ := leave_queuedGroups st env x decrease info'.groupInfo
  refine Stuck.mono ⟨info, hfind, hun⟩ hqueued ?_ fun q ⟨b', j', hq⟩ => .inl ?_
  · rcases hst' with rfl | rfl
    · exact hnext.ge
    · exact hnext.ge
  · rcases hst' with rfl | rfl
    · exact ⟨b', j', by rwa [hlists] at hq⟩
    · change q ∈ (setList _ b j _).queuedGroups b' j' at hq
      rw [setList_queuedGroups, hlists] at hq
      split at hq
      · exact ⟨b, j, mem_of_mem_erase hq⟩
      · exact ⟨b', j', hq⟩

/-! ## `RemovePlayer` -/

theorem Apart.removePlayer (h : Apart i st) (env : Env) (guid : Guid) (decrease : Bool) :
    Apart i (st.removePlayer env guid decrease).1 ∧
      (st.removePlayer env guid decrease).1.instances i = st.instances i := by
  refine removePlayer_invariant (I := fun s => Apart i s ∧ s.instances i = st.instances i) ?_ ⟨h, rfl⟩ guid
  rintro s x s' next ⟨hs, hinst⟩ hok
  obtain ⟨hs', hinst'⟩ := hs.removeOne hok
  exact ⟨hs', hinst'.trans hinst⟩

theorem Stuck.removePlayer (h : Stuck guid st) (env : Env) (x : Guid) (decrease : Bool) :
    Stuck guid (st.removePlayer env x decrease).1 :=
  removePlayer_invariant (fun _ _ _ _ hs hok => hs.removeOne hok) h x

theorem removePlayer_unlisted {info : PlayerQueueInfo}
    (hfind : st.queuedPlayers.find? guid = some info) (hun : ¬ Listed st info.groupInfo) (env : Env)
    (decrease : Bool) : st.removePlayer env guid decrease = (st, some .groupinfoNotFound) := by
  rw [removePlayer_eq]
  simp only [removeOne, hfind, findGroup_eq_none_iff.2 hun]

def Gone (env : Env) (guid : Guid) (st : State) : Prop :=
  st.queuedPlayers.find? guid = none ∧ (env.online guid = true → st.challengeInfo guid = none)

theorem Gone.removeOne (h : Gone env guid st) {x : Guid} {next : Option Guid}
    (hok : st.removeOne env x decrease = .ok (st', next)) : Gone env guid st' := by
  obtain ⟨info, b, j, -, -, hst'⟩ := removeOne_eq_ok hok
  refine ⟨?_, fun hon => ?_⟩
  · rw [(removeOne_queuedPlayers hok).2, find?_erase]
    split
    · rfl
    · exact h.1
  · have hinfo : (leave st env x decrease info.groupInfo).challengeInfo guid = none := by
      rcases leave_challengeInfo st env x decrease info.groupInfo guid with heq | hnone
      · rw [heq]
        exact h.2 hon
      · exact hnone
    rcases hst' with rfl | rfl
    · exact hinfo
    · exact hinfo

/-- The player waits in a group that `AddGroup` has made. -/
def Waits (st : State) (guid : Guid) : Prop :=
  ∃ info, st.queuedPlayers.find? guid = some info ∧ Listed st info.groupInfo

theorem Waits.removePlayer (h : Waits st guid) (env : Env) (decrease : Bool) :
    Gone env guid (st.removePlayer env guid decrease).1 := by
  obtain ⟨info, hfind, hlisted⟩ := h
  rw [removePlayer_eq]
  cases hone : st.removeOne env guid decrease with
  | error e =>
    unfold removeOne at hone
    simp only [hfind] at hone
    split at hone
    · rename_i hnone
      exact absurd hlisted (findGroup_eq_none_iff.1 hnone)
    · split at hone
      · cases hone
      · split at hone
        · cases hone
        · cases hone
  | ok x =>
    obtain ⟨s, next⟩ := x
    have hgone : Gone env guid s := by
      obtain ⟨info', b, j, -, -, hs⟩ := removeOne_eq_ok hone
      refine ⟨?_, fun hon => ?_⟩
      · rw [(removeOne_queuedPlayers hone).2, find?_erase_self]
      · rcases hs with rfl | rfl
        · exact leave_released st decrease _ hon
        · exact leave_released st decrease _ hon
    cases next with
    | none => exact hgone
    | some next => exact removePlayer_invariant (fun _ _ _ _ hs hok => hs.removeOne hok) hgone next

/-! ## What the removal of a participant should come to -/

/-- Nothing of the player is left in the queue, and his place is given back. -/
structure Released (st st' : State) (env : Env) (guid : Guid) (decrease : Bool) (i : InstanceId)
    (t : Team) : Prop where
  unqueued : guid ∉ st'.queuedPlayers.keys
  unchallenged : env.online guid = true → st'.challengeInfo guid = none
  uninvited : ∀ i' removeTime, st'.isPlayerInvited env guid i' removeTime = false
  noData : st'.getPlayerGroupInfoData env guid = none
  dropped : decrease = true → ∀ inst, st.instances i = some inst → ∃ inst',
    st'.instances i = some inst' ∧
      inst'.bg.getInvitedCountByTeam t.id = decr32 (inst.bg.getInvitedCountByTeam t.id)

theorem Stuck.not_released (hs : Stuck guid st) (env : Env) (decrease : Bool) (i : InstanceId)
    (t : Team) : st.removePlayer env guid decrease = (st, some .groupinfoNotFound) ∧
      ¬ Released st (st.removePlayer env guid decrease).1 env guid decrease i t := by
  obtain ⟨info, hfind, hun⟩ := hs
  have heq := removePlayer_unlisted hfind hun.2 env decrease
  refine ⟨heq, fun hreleased => ?_⟩
  have hkept := hreleased.unqueued
  rw [heq] at hkept
  exact hkept (mem_keys.2 ⟨info, hfind⟩)

theorem Gone.isPlayerInvited (h : Gone env guid st) (i : InstanceId) (removeTime : Nat) :
    st.isPlayerInvited env guid i removeTime = false := by
  unfold State.isPlayerInvited
  rw [h.1]
  cases hon : env.online guid with
  | false => rfl
  | true => simp [h.2 hon]

theorem Gone.getPlayerGroupInfoData (h : Gone env guid st) : st.getPlayerGroupInfoData env guid = none := by
  unfold State.getPlayerGroupInfoData
  rw [h.1]
  split
  · rename_i c hc
    rw [if_neg]
    · rfl
    · intro hon
      rw [h.2 hon] at hc
      cases hc
  · rfl

theorem decr32_ne (n : Nat) : decr32 n ≠ n := by
  unfold decr32
  omega

theorem Apart.released_iff (h : Apart i st) (env : Env) (guid : Guid) (decrease : Bool) (t : Team) :
    Released st (st.removePlayer env guid decrease).1 env guid decrease i t ↔
      (Waits st guid ∨ Gone env guid st) ∧ (decrease = true → st.instances i = none) := by
  have hinst := (h.removePlayer env guid decrease).2
  constructor
  · intro hrel
    refine ⟨?_, fun hdec => ?_⟩
    · cases hfind : st.queuedPlayers.find? guid with
      | none =>
        have hsame := hrel.unchallenged
        rw [removePlayer_notFound hfind] at hsame
        exact .inr ⟨hfind, hsame⟩
      | some info =>
        by_cases hlisted : Listed st info.groupInfo
        · exact .inl ⟨info, hfind, hlisted⟩
        · have hkept := hrel.unqueued
          rw [removePlayer_unlisted hfind hlisted] at hkept
          exact absurd (mem_keys.2 ⟨info, hfind⟩) hkept
    · cases hsome : st.instances i with
      | none => rfl
      | some inst =>
        obtain ⟨inst', hinst', hdropped⟩ := hrel.dropped hdec inst hsome
        rw [hinst, hsome] at hinst'
        cases hinst'
        exact absurd hdropped.symm (decr32_ne _)
  · rintro ⟨hleft, hnone⟩
    have hgone : Gone env guid (st.removePlayer env guid decrease).1 := by
      rcases hleft with hwaits | hgone
      · exact hwaits.removePlayer env decrease
      · rw [removePlayer_notFound hgone.1]
        exact hgone
    refine ⟨find?_eq_none.1 hgone.1, hgone.2, hgone.isPlayerInvited,
      hgone.getPlayerGroupInfoData, fun hdec inst hsome => ?_⟩
    rw [hnone hdec] at hsome
    cases hsome

/-! ## Challenges keep the invariant -/

/-- What a challenge writes: two new groups, the entries and the challenges of the participants, and
nothing that is in a list. -/
structure Writes (next : Ptr) (st st' : State) : Prop where
  lists : st'.queuedGroups = st.queuedGroups
  nextPtr : st'.nextPtr = st.nextPtr
  groups : ∀ p, p < next → st'.groups p = st.groups p
  fresh : ∀ p, next + 2 ≤ p → st'.groups p = st.groups p
  challenges : ∀ guid, st'.challengeInfo guid = st.challengeInfo guid ∨
    ∃ team, st'.challengeInfo guid = some (ptr next team)

namespace Writes

variable {next : Ptr} {st st' st'' : State}

theorem refl (st : State) : Writes next st st :=
  ⟨rfl, rfl, fun _ _ => rfl, fun _ _ => rfl, fun _ => .inl rfl⟩

theorem trans (h : Writes next st st') (h' : Writes next st' st'') : Writes next st st'' where
  lists := h'.lists.trans h.lists
  nextPtr := h'.nextPtr.trans h.nextPtr
  groups p hp := (h'.groups p hp).trans (h.groups p hp)
  fresh p hp := (h'.fresh p hp).trans (h.fresh p hp)
  challenges guid := by
    rcases h'.challenges guid with heq | hnew
    · rw [heq]
      exact h.challenges guid
    · exact .inr hnew

end Writes

theorem ptr_bounds (next : Ptr) (team : PlayerTeam) : next ≤ ptr next team ∧ ptr next team < next + 2 := by
  cases team with
  | teamA => exact ⟨Nat.le_refl next, Nat.lt_add_of_pos_right (by decide)⟩
  | teamB => exact ⟨Nat.le_succ next, Nat.lt_succ_self (next + 1)⟩

theorem modifyGroup_writes (next : Ptr) (team : PlayerTeam) (st : State) (f : GroupQueueInfo → GroupQueueInfo) :
    Writes next st (st.modifyGroup (ptr next team) f) := by
  obtain ⟨hle, hlt⟩ := ptr_bounds next team
  refine ⟨rfl, rfl, fun p hp => ?_, fun p hp => ?_, fun _ => .inl rfl⟩
  · rw [modifyGroup_groups, if_neg (ne_of_lt (lt_of_lt_of_le hp hle))]
  · rw [modifyGroup_groups, if_neg (ne_of_gt (lt_of_lt_of_le hlt hp))]

theorem addParticipant_writes (env : Env) (next : Ptr) (st : State) (x : Guid × PlayerTeam) :
    Writes next st (addParticipant env (ptr next) st x) := by
  unfold addParticipant
  split
  · have hmod := modifyGroup_writes next x.2 st fun g => { g with players := g.players.insert x.1 () }
    refine ⟨rfl, rfl, hmod.groups, hmod.fresh, fun guid => ?_⟩
    change Function.update st.challengeInfo x.1 _ guid = _ ∨ ∃ team,
      Function.update st.challengeInfo x.1 (some (ptr next x.2)) guid = _
    rw [Function.update_apply]
    split
    · exact .inr ⟨x.2, rfl⟩
    · exact .inl rfl
  · exact .refl st

theorem foldl_addParticipant_writes (env : Env) (next : Ptr) (st : State) (players : List (Guid × PlayerTeam)) :
    Writes next st (players.foldl (addParticipant env (ptr next)) st) := by
  induction players generalizing st with
  | nil => exact .refl st
  | cons x players ih => exact (addParticipant_writes env next st x).trans (ih _)

theorem inviteGroupToBG_writes (env : Env) (next : Ptr) (team : PlayerTeam) (i : InstanceId) (st : State) :
    Writes next st (st.inviteGroupToBG env (ptr next team) i none).1 := by
  unfold inviteGroupToBG
  dsimp only
  split
  · split
    · exact .refl st
    · rename_i inst _ _
      obtain ⟨rings, instances, heq⟩ := st.invite_cases env (ptr next team) i inst
      rw [heq]
      have hmod := modifyGroup_writes next team st ({ · with
        isInvitedToBGInstanceGUID := i
        removeInviteTime := (env.msTime + inviteAcceptWaitTime) % 2 ^ 32 })
      exact ⟨rfl, rfl, hmod.groups, hmod.fresh, fun _ => .inl rfl⟩
  · exact .refl st

def EntersNew (next : Ptr) (guid : Guid) (st : State) : Prop :=
  ∃ info team, st.queuedPlayers.find? guid = some info ∧ info.groupInfo = ptr next team

theorem addParticipant_entry (env : Env) (next : Ptr) (st : State) (x : Guid × PlayerTeam) (guid : Guid) :
    (addParticipant env (ptr next) st x).queuedPlayers.find? guid =
      if env.online x.1 = true ∧ x.1 = guid then some ⟨env.msTime, ptr next x.2⟩
      else st.queuedPlayers.find? guid := by
  unfold addParticipant
  split
  · rename_i hon
    change (st.queuedPlayers.insert x.1 _).find? guid = _
    rw [find?_insert]
    simp [hon]
  · rename_i hoff
    rw [if_neg fun h => hoff h.1]

theorem foldl_addParticipant_entry (env : Env) (next : Ptr) (st : State)
    (players : List (Guid × PlayerTeam)) (guid : Guid) :
    (players.foldl (addParticipant env (ptr next)) st).queuedPlayers.find? guid = st.queuedPlayers.find? guid ∨
      EntersNew next guid (players.foldl (addParticipant env (ptr next)) st) := by
  induction players generalizing st with
  | nil => exact .inl rfl
  | cons x players ih =>
    rcases ih (addParticipant env (ptr next) st x) with heq | hnew
    · have hentry := addParticipant_entry env next st x guid
      split at hentry
      · exact .inr ⟨_, x.2, heq.trans hentry, rfl⟩
      · exact .inl (heq.trans hentry)
    · exact .inr hnew

theorem foldl_addParticipant_enters (env : Env) (next : Ptr) (st : State)
    {players : List (Guid × PlayerTeam)} {guid : Guid} {team : PlayerTeam}
    (hmem : (guid, team) ∈ players) (hon : env.online guid = true) :
    EntersNew next guid (players.foldl (addParticipant env (ptr next)) st) := by
  induction players generalizing st with
  | nil => cases hmem
  | cons x players ih =>
    rcases mem_cons.1 hmem with rfl | hmem
    · rcases foldl_addParticipant_entry env next _ players guid with heq | hnew
      · have hentry := addParticipant_entry env next st (guid, team) guid
        rw [if_pos ⟨hon, rfl⟩] at hentry
        exact ⟨_, team, heq.trans hentry, rfl⟩
      · exact hnew
    · exact ih _ hmem

theorem inviteGroupToBG_queuedPlayers (st : State) (env : Env) (p : Ptr) (i : InstanceId) :
    (st.inviteGroupToBG env p i none).1.queuedPlayers = st.queuedPlayers := by
  unfold inviteGroupToBG
  dsimp only
  split
  · split
    · rfl
    · exact (invite_sameQueue ..).queued
  · rfl

section AddPlayers

variable (mgr : ChallengeMgr) (env : Env) (i' : InstanceId) (st : State)

def withGroups : State :=
  { st with
    nextPtr := st.nextPtr + 2
    groups := Function.update (Function.update st.groups st.nextPtr
      (some (mgr.newGroup env.msTime .alliance))) (st.nextPtr + 1)
      (some (mgr.newGroup env.msTime .horde)) }

theorem addPlayersToBattleground_writes :
    Writes st.nextPtr (withGroups mgr env st) (mgr.addPlayersToBattleground env i' st) := by
  have hfold := foldl_addParticipant_writes env st.nextPtr (withGroups mgr env st) mgr.players.entries
  have hall := (hfold.trans (inviteGroupToBG_writes env st.nextPtr .teamA i' _)).trans
    (inviteGroupToBG_writes env st.nextPtr .teamB i' _)
  exact ⟨hall.lists, hall.nextPtr, hall.groups, hall.fresh, hall.challenges⟩

theorem addPlayersToBattleground_queuedPlayers :
    (mgr.addPlayersToBattleground env i' st).queuedPlayers = (mgr.players.entries.foldl
      (addParticipant env (ptr st.nextPtr)) (withGroups mgr env st)).queuedPlayers :=
  (inviteGroupToBG_queuedPlayers ..).trans (inviteGroupToBG_queuedPlayers ..)

theorem Apart.addPlayersToBattleground {st : State} (h : Apart i st) :
    Apart i (mgr.addPlayersToBattleground env i' st) := by
  have hw := addPlayersToBattleground_writes mgr env i' st
  have hlisted : ∀ p, Listed (mgr.addPlayersToBattleground env i' st) p → Listed st p := by
    rintro p ⟨b, j, hp⟩
    rw [hw.lists] at hp
    exact ⟨b, j, hp⟩
  have hgroups : ∀ p, p < st.nextPtr → (mgr.addPlayersToBattleground env i' st).groups p = st.groups p := by
    intro p hp
    refine (hw.groups p hp).trans ?_
    exact (update_of_ne (ne_of_lt (Nat.lt_succ_of_lt hp)) ..).trans (update_of_ne (ne_of_lt hp) ..)
  refine ⟨⟨?_, ?_, ?_, ?_, ?_⟩, ?_, ?_⟩
  · intro b j p hp
    rw [hw.lists] at hp
    rw [hgroups p (Lists.listed_lt h.toLists ⟨b, j, hp⟩)]
    exact h.live b j p hp
  · intro b j
    rw [hw.lists]
    exact h.nodup b j
  · rw [hw.lists]
    exact h.unique
  · intro b j t p g hj hp hg
    rw [hw.lists] at hp
    rw [hgroups p (Lists.listed_lt h.toLists ⟨b, j, hp⟩)] at hg
    exact h.side b j t p g hj hp hg
  · intro p hp
    rw [hw.nextPtr] at hp
    have hp : st.nextPtr + 2 ≤ p := hp
    refine (hw.fresh p hp).trans ?_
    refine (update_of_ne (ne_of_gt hp) ..).trans ((update_of_ne
      (ne_of_gt (lt_of_lt_of_le (Nat.lt_add_of_pos_right (by decide)) hp)) ..).trans ?_)
    exact h.fresh p (le_trans (Nat.le_add_right ..) hp)
  · intro guid c hc
    rcases hw.challenges guid with heq | ⟨team, hnew⟩
    · rw [heq] at hc
      refine (h.challenges guid c hc).mono ?_ fun p hp => .inl (hlisted p hp)
      rw [hw.nextPtr]
      exact Nat.le_add_right ..
    · rw [hnew] at hc
      cases hc
      obtain ⟨hle, hlt⟩ := ptr_bounds st.nextPtr team
      refine ⟨by rw [hw.nextPtr]; exact hlt, fun hp => ?_⟩
      obtain ⟨b, j, hp⟩ := hlisted _ hp
      exact h.next_unlisted hle b j hp
  · intro p hp
    have hgroup : (mgr.addPlayersToBattleground env i' st).group p = st.group p :=
      congrArg (Option.getD · default) (hgroups p (Lists.listed_lt h.toLists (hlisted p hp)))
    unfold invitedTo
    rw [hgroup]
    exact h.others p (hlisted p hp)

variable {st}

theorem EntersNew.stuck (h : Lists st)
    (hnew : EntersNew st.nextPtr guid (mgr.addPlayersToBattleground env i' st)) :
    Stuck guid (mgr.addPlayersToBattleground env i' st) := by
  have hw := addPlayersToBattleground_writes mgr env i' st
  obtain ⟨info, team, hfind, hptr⟩ := hnew
  obtain ⟨hle, hlt⟩ := ptr_bounds st.nextPtr team
  refine ⟨info, hfind, ?_⟩
  rw [hptr]
  refine ⟨by rw [hw.nextPtr]; exact hlt, ?_⟩
  rintro ⟨b, j, hp⟩
  rw [hw.lists] at hp
  exact h.next_unlisted hle b j hp

theorem stuck_of_participant (h : Lists st) {team : PlayerTeam}
    (hteam : mgr.players.find? guid = some team) (hon : env.online guid = true) :
    Stuck guid (mgr.addPlayersToBattleground env i' st) := by
  refine EntersNew.stuck mgr env i' h ?_
  unfold EntersNew
  rw [addPlayersToBattleground_queuedPlayers]
  exact foldl_addParticipant_enters env st.nextPtr _ (find?_eq_some.1 hteam) hon

theorem Stuck.addPlayersToBattleground (h : Lists st) (hs : Stuck guid st) :
    Stuck guid (mgr.addPlayersToBattleground env i' st) := by
  have hw := addPlayersToBattleground_writes mgr env i' st
  have hqueued := addPlayersToBattleground_queuedPlayers mgr env i' st
  rcases foldl_addParticipant_entry env st.nextPtr (withGroups mgr env st) mgr.players.entries
    guid with heq | hnew
  · refine hs.mono (by rw [hqueued, heq]; rfl) (by rw [hw.nextPtr]; exact Nat.le_add_right ..) ?_
    rintro p ⟨b, j, hp⟩
    rw [hw.lists] at hp
    exact .inl ⟨b, j, hp⟩
  · refine EntersNew.stuck mgr env i' h ?_
    unfold EntersNew
    rw [hqueued]
    exact hnew

end AddPlayers

/-! ## Runs -/

/-- Besides the calls of the queue and the challenges: the player leaves another queue, which releases
his challenge; he logs in, with a new `Player` object; and whatever happens in the battlegrounds. -/
inductive Event where
  | queue (e : Queue.Event)
  | challenge (lobby : Lobby) (challenger challenged : Guid) (map : Nat)
  | leaveOther (guid : Guid)
  | login (guid : Guid)
  | battlegrounds (instances : InstanceId → Option Instance)

def Server.step (own : BattlegroundQueueTypeId) (s : Server) (ee : Env × Event) : Server :=
  match ee.2 with
  | .queue e => { s with queue := Queue.step s.queue (ee.1, e) }
  | .challenge lobby challenger challenged map => (s.handleChallenge own ee.1 lobby challenger challenged map).1
  | .leaveOther guid => { s with queue := s.queue.releaseChallenge ee.1 guid }
  | .login guid =>
    { s with queue := { s.queue with challengeInfo := Function.update s.queue.challengeInfo guid none } }
  | .battlegrounds instances => { s with queue := { s.queue with instances := instances } }

/-- Matchmaking does not invite to the instance: its id was given out once, by the challenge, and an
arena is not in the list of battlegrounds with free slots. -/
def Spares (i : InstanceId) (ee : Env × Event) : Prop :=
  match ee.2 with
  | .queue (.update ..) => i ∉ ee.1.invitable
  | _ => True

def Event.adds (guid : Guid) : Event → Prop
  | .queue (.addGroup join) => guid ∈ join.guids
  | _ => False

theorem Apart.addGroup (h : Apart i st) (env : Env) (join : Join) : Apart i (st.addGroup env join) := by
  have hlists := h.toLists.addGroup env join
  have hlisted : ∀ q, Listed (st.addGroup env join) q → Listed st q ∨ q = st.nextPtr := by
    rintro q ⟨b, j, hq⟩
    rcases mem_addGroup.1 hq with hq | ⟨hq, -⟩
    · exact .inl ⟨b, j, hq⟩
    · exact .inr hq
  obtain ⟨queued, players, heq, hgroups, -⟩ := addGroup_cases st env join
  refine ⟨hlists, fun guid c hc => ?_, fun q hq => ?_⟩
  · have hold : st.challengeInfo guid = some c := by
      rw [heq] at hc
      exact hc
    refine (h.challenges guid c hold).mono (by rw [heq]; exact Nat.le_succ _) fun q hq => ?_
    rcases hlisted q hq with hq | rfl
    · exact .inl hq
    · exact .inr le_rfl
  · unfold invitedTo group
    rw [hgroups]
    split
    · intro hinv
      cases hinv
    · rename_i hne
      rcases hlisted q hq with hq | hq
      · exact h.others q hq
      · exact absurd hq hne

theorem Apart.update (h : Apart i st) (env : Env) (hi : i ∉ env.invitable)
    (bgTypeId : BattlegroundTypeId) (b : BattlegroundBracketId) (arenaType : Nat) (isRated : Bool)
    (arenaRating : Nat) :
    Apart i (st.battlegroundQueueUpdate env bgTypeId b arenaType isRated arenaRating) := by
  obtain ⟨hkeeps, hlists⟩ := update_keeps h.toLists env bgTypeId b arenaType isRated arenaRating
  refine ⟨hlists, fun guid c hc => ?_, fun p hp hinv => ?_⟩
  · rw [hkeeps.challenge] at hc
    exact (h.challenges guid c hc).mono hkeeps.next.ge fun q hq => .inl (hkeeps.listed q hq)
  · rcases hkeeps.invited p with heq | hnew
    · rw [isInvited_eq, heq] at hinv
      rw [heq]
      exact h.others p (hkeeps.listed p hp) hinv
    · exact fun heq => hi (heq ▸ hnew)

section Step

variable {own : BattlegroundQueueTypeId} {s : Server}

theorem handleChallenge_cases (own : BattlegroundQueueTypeId) (s : Server) (env : Env) (lobby : Lobby)
    (challenger challenged : Guid) (map : Nat) :
    (∃ mgr stop, s.handleChallenge own env lobby challenger challenged map =
        ({ s with mgr := mgr }, .stopped stop)) ∨
      ∃ (mgr : ChallengeMgr) (b : BattlegroundBracketId) (i : InstanceId)
        (typeId : BattlegroundTypeId) (config : Bg.Config) (st : State), st = mgr.addPlayersToBattleground env i
          (s.queue.createNewBattleground env i typeId config b mgr.arenaType false) ∧
        s.handleChallenge own env lobby challenger challenged map =
          ({ mgr := cleanupChallenge
             queue := if bgQueueTypeId mgr.bgTypeId mgr.arenaType = own then st else
              { st with queuedPlayers := s.queue.queuedPlayers, waitRings := s.queue.waitRings } },
            .accepted ⟨i, bgQueueTypeId mgr.bgTypeId mgr.arenaType, mgr.players⟩) := by
  unfold Server.handleChallenge
  split
  · rename_i mgr stop _
    exact .inl ⟨mgr, stop, rfl⟩
  · rename_i mgr b _
    split
    · exact .inl ⟨_, _, rfl⟩
    · rename_i i typeId config _
      exact .inr ⟨mgr, b, i, typeId, config, _, rfl, rfl⟩

theorem Apart.create (h : Apart i st) (env : Env) (i' : InstanceId) (typeId : BattlegroundTypeId)
    (config : Bg.Config) (b : BattlegroundBracketId) (arenaType : Nat) :
    Apart i (st.createNewBattleground env i' typeId config b arenaType false) :=
  h.framed st.queuedPlayers st.waitRings _

theorem Apart.handleChallenge (h : Apart i s.queue) (env : Env) (lobby : Lobby)
    (challenger challenged : Guid) (map : Nat) :
    Apart i (s.handleChallenge own env lobby challenger challenged map).1.queue := by
  rcases handleChallenge_cases own s env lobby challenger challenged map with
    ⟨mgr, stop, heq⟩ | ⟨mgr, b, i', typeId, config, st, hst, heq⟩
  · rw [heq]
    exact h
  · rw [heq]
    have hadded : Apart i st := by
      rw [hst]
      exact (h.create env i' typeId config b mgr.arenaType).addPlayersToBattleground mgr env i'
    split
    · exact hadded
    · exact hadded.framed s.queue.queuedPlayers s.queue.waitRings st.instances

/-- A call that spares the instance keeps the challenge apart from the lists. -/
theorem Apart.step (h : Apart i s.queue) {ee : Env × Event} (hspares : Spares i ee) :
    Apart i (s.step own ee).queue := by
  obtain ⟨env, e⟩ := ee
  cases e with
  | queue e =>
    cases e with
    | addGroup join => exact h.addGroup env join
    | removePlayer guid decrease => exact (h.removePlayer env guid decrease).1
    | update bgTypeId b arenaType isRated arenaRating => exact h.update env hspares ..
  | challenge lobby challenger challenged map => exact h.handleChallenge env lobby challenger challenged map
  | leaveOther guid => exact h.releaseChallenge env guid
  | login guid =>
    refine ⟨h.toLists.of_sameLists ⟨rfl, rfl, fun _ => rfl⟩ h.side, fun x c hc => ?_, h.others⟩
    change Function.update s.queue.challengeInfo guid none x = some c at hc
    rw [Function.update_apply] at hc
    split at hc
    · cases hc
    · exact h.challenges x c hc
  | battlegrounds instances => exact h.framed s.queue.queuedPlayers s.queue.waitRings instances

theorem Stuck.handleChallenge (hs : Stuck guid s.queue) (h : Apart i s.queue) (env : Env)
    (lobby : Lobby) (challenger challenged : Guid) (map : Nat) :
    Stuck guid (s.handleChallenge own env lobby challenger challenged map).1.queue := by
  rcases handleChallenge_cases own s env lobby challenger challenged map with
    ⟨mgr, stop, heq⟩ | ⟨mgr, b, i', typeId, config, st, hst, heq⟩
  · rw [heq]
    exact hs
  · rw [heq]
    have hcreated := h.create env i' typeId config b mgr.arenaType
    split
    · rw [hst]
      exact Stuck.addPlayersToBattleground mgr env i' hcreated.toLists hs
    · have hw := addPlayersToBattleground_writes mgr env i'
        (s.queue.createNewBattleground env i' typeId config b mgr.arenaType false)
      rw [← hst] at hw
      refine hs.mono rfl (by rw [hw.nextPtr]; exact Nat.le_add_right ..) ?_
      rintro p ⟨b', j, hp⟩
      rw [hw.lists] at hp
      exact .inl ⟨b', j, hp⟩

/-- Who is stuck stays so until he is added again. -/
theorem Stuck.step (hs : Stuck guid s.queue) (h : Apart i s.queue) {ee : Env × Event}
    (hnot : ¬ ee.2.adds guid) : Stuck guid (s.step own ee).queue := by
  obtain ⟨env, e⟩ := ee
  cases e with
  | queue e =>
    cases e with
    | addGroup join =>
      obtain ⟨queued, players, heq, -, hq, -⟩ := addGroup_cases s.queue env join
      change Stuck guid (s.queue.addGroup env join)
      refine hs.mono ?_ (by rw [heq]; exact Nat.le_succ _) fun q ⟨b, j, hp⟩ => ?_
      · rw [heq]
        exact (hq guid).trans (if_neg hnot)
      · rcases mem_addGroup.1 hp with hp | ⟨rfl, -⟩
        · exact .inl ⟨b, j, hp⟩
        · exact .inr le_rfl
    | removePlayer x decrease => exact hs.removePlayer env x decrease
    | update bgTypeId b arenaType isRated arenaRating =>
      obtain ⟨hkeeps, -⟩ := update_keeps h.toLists env bgTypeId b arenaType isRated arenaRating
      exact hs.mono (congrArg (OrdMap.find? · guid) hkeeps.queued) hkeeps.next.ge
        fun q hq => .inl (hkeeps.listed q hq)
  | challenge lobby challenger challenged map => exact hs.handleChallenge h env lobby challenger challenged map
  | leaveOther x =>
    obtain ⟨hlists, hnext⟩ := releaseChallenge_queuedGroups s.queue env x
    refine hs.mono (congrArg (OrdMap.find? · guid) (releaseChallenge_queuedPlayers s.queue env x))
      hnext.ge fun q ⟨b, j, hq⟩ => .inl ⟨b, j, ?_⟩
    change q ∈ (s.queue.releaseChallenge env x).queuedGroups b j at hq
    rwa [hlists] at hq
  | login x => exact hs
  | battlegrounds instances => exact hs

theorem Apart.run (h : Apart i s.queue) {es : List (Env × Event)} (hspares : ∀ ee ∈ es, Spares i ee) :
    Apart i (run (Server.step own) s es).queue := by
  induction es generalizing s with
  | nil => exact h
  | cons ee es ih => exact ih (h.step (hspares ee mem_cons_self)) fun x hx => hspares x (mem_cons_of_mem ee hx)

theorem Stuck.run (hs : Stuck guid s.queue) (h : Apart i s.queue) {es : List (Env × Event)}
    (hspares : ∀ ee ∈ es, Spares i ee) (hnot : ∀ ee ∈ es, ¬ ee.2.adds guid) :
    Stuck guid (Run.run (Server.step own) s es).queue := by
  induction es generalizing s with
  | nil => exact hs
  | cons ee es ih =>
    exact ih (hs.step h (hnot ee mem_cons_self)) (h.step (hspares ee mem_cons_self))
      (fun x hx => hspares x (mem_cons_of_mem ee hx))
      fun x hx => hnot x (mem_cons_of_mem ee hx)

theorem handleChallenge_stuck (h : Apart i s.queue) (env : Env) {lobby : Lobby}
    {challenger challenged : Guid} {map : Nat} {m : Match} {team : PlayerTeam}
    (haccepted : (s.handleChallenge own env lobby challenger challenged map).2 = .accepted m)
    (hown : m.queueTypeId = own) (hteam : m.players.find? guid = some team) (hon : env.online guid = true) :
    Stuck guid (s.handleChallenge own env lobby challenger challenged map).1.queue := by
  rcases handleChallenge_cases own s env lobby challenger challenged map with
    ⟨mgr, stop, heq⟩ | ⟨mgr, b, i', typeId, config, st, hst, heq⟩
  · rw [heq] at haccepted
    cases haccepted
  · rw [heq] at haccepted ⊢
    cases haccepted
    rw [if_pos hown, hst]
    exact stuck_of_participant mgr env i' (h.create env i' typeId config b mgr.arenaType).toLists hteam hon

end Step

/-- **A participant of a challenge can be removed only after he has joined again.** Then he waits in a
group of `AddGroup` (or is gone already), and the count of the challenge's arena does not drop. Until
then `RemovePlayer` logs an error and changes nothing. -/
theorem challenge_released_iff (own : BattlegroundQueueTypeId) (mgr : ChallengeMgr)
    (pre post : List (Env × Event)) (env : Env) (lobby : Lobby) (challenger challenged : Guid)
    (map : Nat) (guid : Guid) (team : PlayerTeam) {m : Match}
    (haccepted : ((run (Server.step own) { mgr := mgr } pre).handleChallenge own env lobby challenger
      challenged map).2 = .accepted m)
    (hown : m.queueTypeId = own) (hteam : m.players.find? guid = some team)
    (honline : env.online guid = true) (hspares : ∀ ee ∈ pre ++ post, Spares m.bg ee) :
    ∀ st, st = (run (Server.step own) { mgr := mgr }
        (pre ++ (env, .challenge lobby challenger challenged map) :: post)).queue →
      (∀ env' decrease, Released st (st.removePlayer env' guid decrease).1 env' guid decrease m.bg
          team.side ↔
        (Waits st guid ∨ Gone env' guid st) ∧ (decrease = true → st.instances m.bg = none)) ∧
      ((∀ ee ∈ post, ¬ ee.2.adds guid) → ∀ env' decrease,
        st.removePlayer env' guid decrease = (st, some .groupinfoNotFound) ∧
          ¬ Released st (st.removePlayer env' guid decrease).1 env' guid decrease m.bg team.side) := by
  rintro st rfl
  rw [run_append]
  have hpre : Apart m.bg (run (Server.step own) { mgr := mgr } pre).queue :=
    Apart.run (Apart.empty m.bg) fun ee hee => hspares ee (mem_append_left post hee)
  have hchallenge : Apart m.bg ((run (Server.step own) { mgr := mgr } pre).step own
      (env, .challenge lobby challenger challenged map)).queue := hpre.step trivial
  have hpost : ∀ ee ∈ post, Spares m.bg ee := fun ee hee => hspares ee (mem_append_right pre hee)
  refine ⟨fun env' decrease => (hchallenge.run hpost).released_iff env' guid decrease team.side,
    fun hnot env' decrease => ?_⟩
  have hstuck := handleChallenge_stuck hpre env haccepted hown hteam honline
  exact (Stuck.run hstuck hchallenge hpost hnot).not_released env' decrease m.bg team.side

def sampleRun (post : List (Env × Event)) : State :=
  (run (Server.step .arena2v2) {} ((sampleEnv, .challenge {} 1 2 1) :: post)).queue

/-- The challenged player is not removed until he has joined the queue with player 3. -/
theorem sampleRun_released_iff :
    (∀ env decrease, (sampleRun []).removePlayer env 2 decrease =
        (sampleRun [], some .groupinfoNotFound)) ∧
      ∃ st, st = sampleRun [(sampleEnv, .queue (.addGroup (sampleJoin 2 3 7)))] ∧
        Released st (st.removePlayer sampleEnv 2 false).1 sampleEnv 2 false 1 .horde := by
  refine ⟨fun env decrease => ?_, _, rfl, ?_⟩
  · have hiff := challenge_released_iff .arena2v2 cleanupChallenge [] [] sampleEnv {} 1 2 1 2 .teamB rfl (by decide) (by decide) rfl (by simp) (sampleRun []) rfl
    exact (hiff.2 (by simp) env decrease).1
  · have hiff := challenge_released_iff .arena2v2 cleanupChallenge []
      [(sampleEnv, .queue (.addGroup (sampleJoin 2 3 7)))] sampleEnv {} 1 2 1 2 .teamB rfl (by decide) (by decide) rfl
      (fun ee hee => by rw [mem_singleton.1 hee]; trivial) _ rfl
    exact (hiff.1 sampleEnv false).2
      ⟨.inl ⟨⟨1000, 2⟩, by decide, 0, .premade .alliance, by decide⟩, fun h => (by cases h)⟩

/-- The challenged player declines: he stays in the queue with his challenge and his invitation, and
the arena goes on counting him. -/
theorem sampleRun_unreleased :
    ∃ m, (Server.handleChallenge .arena2v2 {} sampleEnv {} 1 2 1).2 = .accepted m ∧
      m.bg = 1 ∧ m.queueTypeId = .arena2v2 ∧ m.players.find? 2 = some .teamB ∧
      ((sampleRun []).removePlayer sampleEnv 2 true).2 = some .groupinfoNotFound ∧
      ((sampleRun []).removePlayer sampleEnv 2 true).1.isPlayerInvited sampleEnv 2 1 61000 = true ∧
      (((sampleRun []).removePlayer sampleEnv 2 true).1.instances 1).map
        (·.bg.getInvitedCountByTeam Team.horde.id) = some 1 ∧
      ¬ Released (sampleRun []) ((sampleRun []).removePlayer sampleEnv 2 true).1 sampleEnv 2 true
        m.bg .horde := by
  refine ⟨_, rfl, by decide, by decide, by decide, by decide, by decide, by decide, fun h => ?_⟩
  exact absurd h.unqueued (by decide)

end Axium.Challenge
