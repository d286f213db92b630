import Axium.Battleground.QueueRefinement

/-!
# The queue stays consistent

Players join with `AddGroup`, leave with `RemovePlayer`, and `BattlegroundQueueUpdate` runs in
between. **`queue_represented`**: after every such run each group is in exactly one list, the links
between players and groups agree both ways, and `RemovePlayer` takes out exactly the players it
should.
-/

namespace Axium.Queue

open Run State List Function OrdMap GroupQueueInfo Option

variable {p : Ptr} {g : GroupQueueInfo} {st : State} {b : BattlegroundBracketId} {j : GroupType} {guid : Guid} {info : PlayerQueueInfo}

/-! ## Joining -/

theorem foldl_addPlayer (st : State) (hg : st.groups p = some g)
    (msTime : Nat) (guids : List Guid) :
    ∃ queued players, guids.foldl (addPlayer msTime p) st =
        { st with
          queuedPlayers := queued
          groups := update st.groups p (some { g with players := players }) } ∧
      (∀ x, queued.find? x = if x ∈ guids then some ⟨msTime, p⟩ else st.queuedPlayers.find? x) ∧
      ∀ x, x ∈ players.keys ↔ x ∈ guids ∨ x ∈ g.players.keys := by
  induction guids generalizing st g with
  | nil =>
    refine ⟨st.queuedPlayers, g.players, ?_, by simp, by simp⟩
    rw [show some { g with players := g.players } = st.groups p from hg.symm, update_eq_self]
    rfl
  | cons guid guids ih =>
    have hnext : (addPlayer msTime p st guid).groups p = some { g with players := g.players.insert guid () } :=
      (modifyGroup_groups _ p p _).trans (by simp [hg])
    obtain ⟨queued, players, heq, hq, hp⟩ := ih _ hnext
    refine ⟨queued, players, ?_, fun x => ?_, fun x => ?_⟩
    · rw [foldl_cons, heq]
      simp [addPlayer, State.modifyGroup]
    · rw [hq]
      simp only [addPlayer, State.modifyGroup, find?_insert, mem_cons]
      by_cases hx : x ∈ guids
      · simp [hx]
      · by_cases hxg : x = guid
        · simp [hxg]
        · simp [hx, hxg, Ne.symm hxg]
    · rw [hp, mem_cons, mem_keys_insert]
      tauto

theorem addGroup_cases (st : State) (env : Env) (join : Join) :
    ∃ queued players, st.addGroup env join =
        { st with
          nextPtr := st.nextPtr + 1
          queuedPlayers := queued
          groups := update st.groups st.nextPtr
            (some { join.newGroup env.msTime with players := players })
          queuedGroups := (st.setList join.bracketId join.groupType
            (st.queuedGroups join.bracketId join.groupType ++ [st.nextPtr])).queuedGroups } ∧
      (∀ q, (st.addGroup env join).groups q =
        if q = st.nextPtr then some { join.newGroup env.msTime with players := players } else st.groups q) ∧
      (∀ x, queued.find? x =
        if x ∈ join.guids then some ⟨env.msTime, st.nextPtr⟩ else st.queuedPlayers.find? x) ∧
      ∀ x, x ∈ players.keys ↔ x ∈ join.guids := by
  obtain ⟨queued, players, heq, hq, hp⟩ := foldl_addPlayer
    { st with
      nextPtr := st.nextPtr + 1
      groups := update st.groups st.nextPtr (some (join.newGroup env.msTime)) }
    (p := st.nextPtr) (update_self ..) env.msTime join.guids
  refine ⟨queued, players, ?_, fun q => ?_, hq, fun x => ?_⟩
  · unfold addGroup
    dsimp only
    rw [heq]
    simp [setList]
  · unfold addGroup
    dsimp only
    rw [heq]
    simp [setList, update_apply]
  · rw [hp]
    simp [Join.newGroup, OrdMap.keys, OrdMap.empty]

theorem Join.groupType_side {join : Join} {t : Team} (h : join.groupType.side = some t) : join.team = t := by
  unfold Join.groupType at h
  split at h
  · cases h
  · split at h
    · exact some.inj h
    · exact some.inj h

theorem addGroup_queuedGroups (st : State) (env : Env) (join : Join) (b : BattlegroundBracketId)
    (j : GroupType) : (st.addGroup env join).queuedGroups b j =
      if b = join.bracketId ∧ j = join.groupType then
        st.queuedGroups join.bracketId join.groupType ++ [st.nextPtr] else st.queuedGroups b j := by
  obtain ⟨queued, players, heq, -⟩ := addGroup_cases st env join
  rw [heq]
  exact setList_queuedGroups ..

theorem mem_addGroup {env : Env} {join : Join} {q : Ptr} : q ∈ (st.addGroup env join).queuedGroups b j ↔
      q ∈ st.queuedGroups b j ∨ (q = st.nextPtr ∧ b = join.bracketId ∧ j = join.groupType) := by
  rw [addGroup_queuedGroups]
  split
  · rename_i hbj
    obtain ⟨rfl, rfl⟩ := hbj
    simp
  · rename_i hbj
    simp [hbj]

theorem Lists.next_unlisted (h : Lists st) (hp : st.nextPtr ≤ p)
    (b : BattlegroundBracketId) (j : GroupType) : p ∉ st.queuedGroups b j := by
  intro hmem
  obtain ⟨g, hg⟩ := h.live b j _ hmem
  rw [h.fresh p hp] at hg
  cases hg

theorem Lists.addGroup (h : Lists st) (env : Env) (join : Join) :
    Lists (st.addGroup env join) := by
  have hnot := h.next_unlisted le_rfl
  obtain ⟨queued, players, heq, hgroups, -⟩ := addGroup_cases st env join
  refine ⟨?_, ?_, ?_, ?_, ?_⟩
  · intro b j q hmemq
    rw [hgroups]
    split
    · exact ⟨_, rfl⟩
    · rename_i hqn
      rcases mem_addGroup.1 hmemq with hold | ⟨rfl, -⟩
      · exact h.live b j q hold
      · exact absurd rfl hqn
  · intro b j
    rw [addGroup_queuedGroups]
    split
    · refine nodup_append.2 ⟨h.nodup _ _, by simp, ?_⟩
      rintro q hmemq x hx rfl
      rw [mem_singleton.1 hx] at hmemq
      exact hnot _ _ hmemq
    · exact h.nodup b j
  · intro b j b' j' q hq₁ hq₂
    rcases mem_addGroup.1 hq₁ with hold | ⟨rfl, rfl, rfl⟩
    · rcases mem_addGroup.1 hq₂ with hold' | ⟨rfl, -⟩
      · exact h.unique b j b' j' q hold hold'
      · exact absurd hold (hnot b j)
    · rcases mem_addGroup.1 hq₂ with hold' | ⟨-, rfl, rfl⟩
      · exact absurd hold' (hnot b' j')
      · exact ⟨rfl, rfl⟩
  · intro b j t q g' hj hmemq hg'
    rw [hgroups] at hg'
    rcases mem_addGroup.1 hmemq with hold | ⟨rfl, rfl, rfl⟩
    · rw [if_neg (fun hqn => hnot b j (by rw [← hqn]; exact hold))] at hg'
      exact h.side b j t q g' hj hold hg'
    · rw [if_pos rfl] at hg'
      cases hg'
      exact Join.groupType_side hj
  · intro q hle
    have hle' : st.nextPtr + 1 ≤ q := by rwa [heq] at hle
    rw [hgroups, if_neg (ne_of_gt hle')]
    exact h.fresh q (Nat.le_of_succ_le hle')

theorem WF.addGroup (h : WF st) (env : Env) {join : Join} (hne : join.guids ≠ [])
    (hnew : ∀ guid ∈ join.guids, guid ∉ st.queuedPlayers.keys) : WF (st.addGroup env join) := by
  have hfree : st.groups st.nextPtr = none := h.fresh _ le_rfl
  have hlists := h.toLists.addGroup env join
  obtain ⟨queued, players, heq, hgroups, hq, hp⟩ := addGroup_cases st env join
  have hqueued : (st.addGroup env join).queuedPlayers = queued := by rw [heq]
  refine ⟨hlists, ?_, ?_, ?_, ?_, ?_⟩
  · intro q g' hg'
    rw [hgroups] at hg'
    split at hg'
    · rename_i hqn
      exact ⟨join.bracketId, join.groupType, mem_addGroup.2 (.inr ⟨hqn, rfl, rfl⟩)⟩
    · obtain ⟨b, j, hold⟩ := h.placed q g' hg'
      exact ⟨b, j, mem_addGroup.2 (.inl hold)⟩
  · intro q g' hg'
    rw [hgroups] at hg'
    split at hg'
    · cases hg'
      obtain ⟨guid, guids, hguids⟩ := exists_cons_of_ne_nil hne
      have hguid : guid ∈ players.keys := (hp guid).2 (by simp [hguids])
      obtain ⟨u, hu⟩ := mem_keys.1 hguid
      by_contra hempty
      have hnone := OrdMap.isEmpty_iff.1 (by simpa using hempty) guid
      rw [hnone] at hu
      cases hu
    · exact h.nonempty q g' hg'
  · intro q g' guid hg'
    rw [hqueued, hq]
    rw [hgroups] at hg'
    split at hg'
    · rename_i hqn
      cases hg'
      subst hqn
      rw [hp]
      split
      · rename_i hguid
        simp [hguid]
      · rename_i hguid
        simp only [hguid, false_iff]
        rintro ⟨info, hfind, hptr⟩
        obtain ⟨g, hg⟩ := h.owner guid info hfind
        rw [hptr, hfree] at hg
        cases hg
    · rename_i hqn
      split
      · rename_i hguid
        have hold : guid ∉ g'.players.keys := by
          intro hkey
          obtain ⟨info, hfind, -⟩ := (h.link q g' guid hg').1 hkey
          exact hnew guid hguid (mem_keys.2 ⟨info, hfind⟩)
        simp only [hold, false_iff]
        rintro ⟨info, hinfo, hptr⟩
        cases hinfo
        exact hqn hptr.symm
      · exact h.link q g' guid hg'
  · intro guid info hfind
    rw [hqueued, hq] at hfind
    rw [hgroups]
    split
    · exact ⟨_, rfl⟩
    · rename_i hqn
      split at hfind
      · cases hfind
        exact absurd rfl hqn
      · exact h.owner guid info hfind
  · intro guid
    rw [heq]
    exact h.unchallenged guid

/-! ## Leaving -/

theorem findSome?_unique {α β : Type} {f : α → Option β} {a : α} {y : β} {l : List α}
    (ha : a ∈ l) (hy : f a = some y) (hother : ∀ a' ∈ l, a' ≠ a → f a' = none) : l.findSome? f = some y := by
  induction l with
  | nil => cases ha
  | cons x l ih =>
    rw [findSome?_cons]
    by_cases hx : x = a
    · rw [hx, hy]
    · rw [hother x mem_cons_self hx]
      exact ih (mem_of_ne_of_mem (Ne.symm hx) ha) fun a' ha' => hother a' (mem_cons_of_mem x ha')

theorem Lists.findGroup (h : Lists st)
    (hp : p ∈ st.queuedGroups b j) : st.findGroup p = some (b, j) := by
  have hiff : ∀ b' j', p ∈ st.queuedGroups b' j' ↔ b' = b ∧ j' = j := by
    intro b' j'
    constructor
    · exact fun hp' => h.unique b' j' b j p hp' hp
    · rintro ⟨rfl, rfl⟩
      exact hp
  refine findSome?_unique (a := b) (by simp) ?_ fun b' _ hb' => ?_
  · have hlast : st.lastType? b p = some j := by
      simp only [lastType?, hiff, true_and, GroupType.all, foldl_cons, foldl_nil]
      rcases j with t | t | _
      · cases t <;> simp
      · cases t <;> simp
      · simp
    rw [hlast]
    rfl
  · have hnone : st.lastType? b' p = none := by
      simp [lastType?, hiff, hb', GroupType.all]
    rw [hnone]
    rfl

theorem findGroup_eq_none (h : ∀ b j, p ∉ st.queuedGroups b j) :
    st.findGroup p = none := by
  simp [findGroup, lastType?, h, GroupType.all]

def State.drop (st : State) (b : BattlegroundBracketId) (j : GroupType) (p : Ptr) : State :=
  (st.setList b j ((st.queuedGroups b j).erase p)).free p

section Drop

variable {st : State} {b : BattlegroundBracketId} {j : GroupType} {p : Ptr}

theorem Lists.mem_drop (h : Lists st) (hmem : p ∈ st.queuedGroups b j) {b' : BattlegroundBracketId}
    {j' : GroupType} {q : Ptr} :
    q ∈ (st.drop b j p).queuedGroups b' j' ↔ q ∈ st.queuedGroups b' j' ∧ q ≠ p := by
  change q ∈ (st.setList b j _).queuedGroups b' j' ↔ _
  rw [setList_queuedGroups]
  split
  · rename_i hbj
    obtain ⟨rfl, rfl⟩ := hbj
    rw [(h.nodup b' j').mem_erase_iff, and_comm]
  · rename_i hbj
    refine ⟨fun hq => ⟨hq, ?_⟩, And.left⟩
    rintro rfl
    exact hbj (h.unique b' j' b j _ hq hmem)

theorem drop_groups {q : Ptr} (hg : (st.drop b j p).groups q = some g) :
    q ≠ p ∧ st.groups q = some g := by
  change update st.groups p none q = some g at hg
  rw [update_apply] at hg
  split at hg
  · cases hg
  · rename_i hqp
    exact ⟨hqp, hg⟩

theorem Lists.drop (h : Lists st) (hmem : p ∈ st.queuedGroups b j) : Lists (st.drop b j p) where
  live b' j' q hq := by
    obtain ⟨hq, hqp⟩ := (h.mem_drop hmem).1 hq
    exact ⟨_, (update_of_ne hqp ..).trans (h.live b' j' q hq).choose_spec⟩
  nodup b' j' := by
    change ((st.setList b j _).queuedGroups b' j').Nodup
    rw [setList_queuedGroups]
    split
    · exact (h.nodup b j).erase _
    · exact h.nodup b' j'
  unique b₁ j₁ b₂ j₂ q hq₁ hq₂ :=
    h.unique b₁ j₁ b₂ j₂ q ((h.mem_drop hmem).1 hq₁).1 ((h.mem_drop hmem).1 hq₂).1
  side b' j' t q g' hj hq hg' := h.side b' j' t q g' hj ((h.mem_drop hmem).1 hq).1 (drop_groups hg').2
  fresh q hq := by
    change update st.groups p none q = none
    rw [update_apply]
    split
    · rfl
    · exact h.fresh q hq

end Drop

def State.instancesAfter (st : State) (env : Env) (decrease : Bool) (g : GroupQueueInfo) :
    InstanceId → Option Instance :=
  (if decrease && g.isInvited then st.decreaseInvitedCount env g else st).instances

theorem decreaseInvitedCount_frame (st st' : State) (env : Env) (g : GroupQueueInfo)
    (players : OrdMap Guid Unit) (h : st'.instances = st.instances) :
    st'.decreaseInvitedCount env { g with players := players } =
      { st' with instances := (st.decreaseInvitedCount env g).instances } := by
  have hget : ∀ i typeId, st'.getBattleground i typeId = st.getBattleground i typeId := by
    intro i typeId
    simp only [getBattleground, h]
  unfold decreaseInvitedCount
  dsimp only
  rw [hget]
  generalize (st.getBattleground g.isInvitedToBGInstanceGUID
    (if g.bgTypeId = .aa then .typeNone else g.bgTypeId)).isSome = found
  cases found with
  | false => simp [← h]
  | true => simp [modifyInstance, h]

theorem removeOne_cases (h : WF st) (hfind : st.queuedPlayers.find? guid = some info)
    (hg : st.groups info.groupInfo = some g) (env : Env) (decrease : Bool) :
    ∃ b j, info.groupInfo ∈ st.queuedGroups b j ∧
      st.removeOne env guid decrease = .ok
        (if (g.players.erase guid).isEmpty then
          ({ st.drop b j info.groupInfo with
              queuedPlayers := st.queuedPlayers.erase guid
              instances := st.instancesAfter env decrease g }, none)
        else
          ({ st with
              queuedPlayers := st.queuedPlayers.erase guid
              instances := st.instancesAfter env decrease g
              groups := update st.groups info.groupInfo
                (some { g with players := g.players.erase guid }) },
            if !g.isInvited && g.isRated then (g.players.erase guid).first? else none)) := by
  obtain ⟨b, j, hmem⟩ := h.placed _ g hg
  refine ⟨b, j, hmem, ?_⟩
  let st₁ : State := { st with
    groups := update st.groups info.groupInfo
      (some { g with players := g.players.erase guid }) }
  have hgroup : (st.modifyGroup info.groupInfo fun g => { g with players := g.players.erase guid }) = st₁ := by
    simp [State.modifyGroup, hg, st₁]
  have hread : st₁.group info.groupInfo = { g with players := g.players.erase guid } := by
    simp [group, st₁]
  have hdecrease : (if (decrease && g.isInvited) = true then
      st₁.decreaseInvitedCount env { g with players := g.players.erase guid } else st₁) =
      { st₁ with instances := st.instancesAfter env decrease g } := by
    unfold instancesAfter
    split
    · exact decreaseInvitedCount_frame st _ env g _ rfl
    · rfl
  have hrelease : ∀ s : State, s.challengeInfo = st.challengeInfo → s.releaseChallenge env guid = s := by
    intro s hs
    rw [releaseChallenge, hs, h.unchallenged]
  unfold removeOne
  simp only [hfind, h.findGroup hmem, hgroup, hread]
  rw [show (isInvited { g with players := g.players.erase guid }) = g.isInvited from rfl, hdecrease,
    hrelease { st₁ with instances := st.instancesAfter env decrease g } rfl]
  split
  · simp [State.drop, setList, free, st₁]
  · split
    · rfl
    · rfl

theorem WF.leaveGroup (h : WF st) (hfind : st.queuedPlayers.find? guid = some info)
    (hg : st.groups info.groupInfo = some g) (hne : (g.players.erase guid).isEmpty = false)
    (instances : InstanceId → Option Instance) :
    WF { st with
      queuedPlayers := st.queuedPlayers.erase guid
      instances := instances
      groups := update st.groups info.groupInfo
        (some { g with players := g.players.erase guid }) } where
  live b j q hq := by
    simp only [update_apply]
    split
    · exact ⟨_, rfl⟩
    · exact h.live b j q hq
  nodup := h.nodup
  unique := h.unique
  placed q g' hg' := by
    simp only [update_apply] at hg'
    split at hg'
    · rename_i hqp
      exact h.placed q g (hqp ▸ hg)
    · exact h.placed q g' hg'
  nonempty q g' hg' := by
    simp only [update_apply] at hg'
    split at hg'
    · cases hg'
      exact hne
    · exact h.nonempty q g' hg'
  link q g' x hg' := by
    simp only [update_apply] at hg'
    rw [find?_erase]
    split at hg'
    · rename_i hqp
      cases hg'
      subst hqp
      rw [mem_keys_erase, h.link _ g x hg]
      split
      · rename_i hx
        simp [hx]
      · rename_i hx
        simp [hx]
    · rename_i hqp
      rw [h.link q g' x hg']
      split
      · rename_i hx
        subst hx
        simp only [hfind, some.injEq, reduceCtorEq, false_and, exists_false, iff_false]
        rintro ⟨info', rfl, hptr⟩
        exact hqp hptr.symm
      · rfl
  owner x info' hx := by
    rw [find?_erase] at hx
    split at hx
    · cases hx
    · simp only [update_apply]
      split
      · exact ⟨_, rfl⟩
      · exact h.owner x info' hx
  side b j t q g' hj hq hg' := by
    simp only [update_apply] at hg'
    split at hg'
    · rename_i hqp
      cases hg'
      exact h.side b j t q g hj hq (hqp ▸ hg)
    · exact h.side b j t q g' hj hq hg'
  fresh q hq := by
    simp only [update_apply]
    rw [if_neg]
    · exact h.fresh q hq
    · rintro rfl
      rw [h.fresh _ hq] at hg
      cases hg
  unchallenged := h.unchallenged

theorem WF.freeGroup (h : WF st) (hfind : st.queuedPlayers.find? guid = some info)
    (hg : st.groups info.groupInfo = some g) (hempty : (g.players.erase guid).isEmpty = true) (hmem : info.groupInfo ∈ st.queuedGroups b j)
    (instances : InstanceId → Option Instance) :
    WF { st.drop b j info.groupInfo with
      queuedPlayers := st.queuedPlayers.erase guid
      instances := instances } := by
  have hdrop := h.toLists.drop hmem
  -- nobody but the player who leaves points to the group
  have honly : ∀ x info', st.queuedPlayers.find? x = some info' →
      info'.groupInfo = info.groupInfo → x = guid := by
    intro x info' hx hptr
    by_contra hne
    have hxg : x ∈ g.players.keys := (h.link _ g x hg).2 ⟨info', hx, hptr⟩
    obtain ⟨u, hu⟩ := mem_keys.1 (mem_keys_erase.2 ⟨Ne.symm hne, hxg⟩)
    rw [OrdMap.isEmpty_iff.1 hempty x] at hu
    cases hu
  refine ⟨hdrop.of_sameLists ⟨rfl, rfl, fun _ => rfl⟩ hdrop.side, ?_, ?_, ?_, ?_, h.unchallenged⟩
  · intro q g' hg'
    obtain ⟨hqp, hg'⟩ := drop_groups hg'
    obtain ⟨b', j', hq⟩ := h.placed q g' hg'
    exact ⟨b', j', (h.mem_drop hmem).2 ⟨hq, hqp⟩⟩
  · intro q g' hg'
    exact h.nonempty q g' (drop_groups hg').2
  · intro q g' x hg'
    obtain ⟨hqp, hg'⟩ := drop_groups hg'
    rw [find?_erase, h.link q g' x hg']
    split
    · rename_i hx
      subst hx
      simp only [hfind, some.injEq, reduceCtorEq, false_and, exists_false, iff_false]
      rintro ⟨info', rfl, hptr⟩
      exact hqp hptr.symm
    · rfl
  · intro x info' hx
    rw [find?_erase] at hx
    split at hx
    · cases hx
    · rename_i hxg
      obtain ⟨g', hg'⟩ := h.owner x info' hx
      exact ⟨g', (update_of_ne (fun hptr => hxg (honly x info' hx hptr).symm) ..).trans hg'⟩

theorem releaseChallenge_queuedPlayers (st : State) (env : Env) (guid : Guid) :
    (st.releaseChallenge env guid).queuedPlayers = st.queuedPlayers := by
  unfold releaseChallenge
  split
  · split
    · rfl
    · rfl
  · rfl

theorem removeOne_queuedPlayers {st st' : State} {env : Env} {decrease : Bool}
    {next : Option Guid} (hok : st.removeOne env guid decrease = .ok (st', next)) :
    (∃ info, st.queuedPlayers.find? guid = some info) ∧
      st'.queuedPlayers = st.queuedPlayers.erase guid := by
  have hdecrease : ∀ (s : State) g, (s.decreaseInvitedCount env g).queuedPlayers = s.queuedPlayers := by
    intro s g
    rw [decreaseInvitedCount_frame s s env g g.players rfl]
  unfold removeOne at hok
  split at hok
  · cases hok
  · rename_i info hfind
    refine ⟨⟨info, hfind⟩, ?_⟩
    dsimp only at hok
    split at hok
    · cases hok
    · have hqueued : ∀ (c : Bool) (s : State) g, (releaseChallenge (if c = true then
          s.decreaseInvitedCount env g else s) env guid).queuedPlayers = s.queuedPlayers := by
        intro c s g
        rw [releaseChallenge_queuedPlayers]
        split
        · exact hdecrease s g
        · rfl
      split at hok
      · cases hok
        exact congrArg (OrdMap.erase · guid) (hqueued _ _ _)
      · split at hok
        · cases hok
          exact congrArg (OrdMap.erase · guid) (hqueued _ _ _)
        · cases hok
          exact congrArg (OrdMap.erase · guid) (hqueued _ _ _)

theorem removePlayer_eq (st : State) (env : Env) (guid : Guid) (decrease : Bool) :
    st.removePlayer env guid decrease =
      match st.removeOne env guid decrease with
      | .error e => (st, some e)
      | .ok (st', none) => (st', none)
      | .ok (st', some next) => st'.removePlayer env next decrease := by
  unfold removePlayer
  cases hsize : st.queuedPlayers.size with
  | zero =>
    -- the queue is empty: the search finds nobody
    have hnone : st.queuedPlayers.find? guid = none := by
      refine find?_eq_none.2 ?_
      rw [OrdMap.keys, length_eq_zero_iff.1 hsize]
      simp
    simp [removeUpTo, removeOne, hnone]
  | succ n =>
    rw [removeUpTo]
    cases hok : st.removeOne env guid decrease with
    | error e => rfl
    | ok x =>
      obtain ⟨st', next⟩ := x
      cases next with
      | none => rfl
      | some next =>
        obtain ⟨⟨info, hfind⟩, hqueued⟩ := removeOne_queuedPlayers hok
        have hn : st'.queuedPlayers.size = n := by
          have := size_erase hfind
          rw [hqueued]
          omega
        simp only [hn]

/-- Who leaves the queue with `guid`, a player of the group: the whole group when it is rated and not
invited, otherwise the player alone. -/
def GroupQueueInfo.leaves (g : GroupQueueInfo) (guid x : Guid) : Prop :=
  if !g.isInvited && g.isRated then x ∈ g.players.keys else x = guid

instance (g : GroupQueueInfo) (guid x : Guid) : Decidable (g.leaves guid x) := by
  unfold leaves
  infer_instance

/-- What `RemovePlayer` does to a queued player. -/
structure Removes (st st' : State) (env : Env) (decrease : Bool) (guid : Guid) (p : Ptr)
    (g : GroupQueueInfo) : Prop where
  wf : WF st'
  queued : ∀ x, st'.queuedPlayers.find? x =
    if g.leaves guid x then none else st.queuedPlayers.find? x
  others : ∀ q, q ≠ p → st'.groups q = st.groups q
  freed : (∀ x ∈ g.players.keys, g.leaves guid x) → st'.groups p = none
  kept : (∃ x ∈ g.players.keys, ¬ g.leaves guid x) →
    st'.groups p = some { g with players := g.players.erase guid }
  instances : st'.instances = st.instancesAfter env decrease g

section Remove

variable {st : State} {guid : Guid} {info : PlayerQueueInfo} {g : GroupQueueInfo}

theorem erase_isEmpty_iff {m : OrdMap Guid Unit} {x : Guid} :
    (m.erase x).isEmpty = true ↔ ∀ y ∈ m.keys, y = x := by
  rw [OrdMap.isEmpty_iff]
  constructor
  · intro hnone y hy
    by_contra hne
    obtain ⟨u, hu⟩ := mem_keys.1 (mem_keys_erase.2 ⟨Ne.symm hne, hy⟩)
    rw [hnone y] at hu
    cases hu
  · intro hall y
    refine find?_eq_none.2 fun hy => ?_
    obtain ⟨hne, hy⟩ := mem_keys_erase.1 hy
    exact hne (hall y hy).symm

theorem removePlayer_alone (h : WF st) (hfind : st.queuedPlayers.find? guid = some info)
    (hg : st.groups info.groupInfo = some g) (halone : (!g.isInvited && g.isRated) = false)
    (env : Env) (decrease : Bool) :
    ∃ st', st.removePlayer env guid decrease = (st', none) ∧
      Removes st st' env decrease guid info.groupInfo g := by
  have hleaves : ∀ x, g.leaves guid x ↔ x = guid := by
    intro x
    simp [leaves, halone]
  obtain ⟨b, j, hmem, hone⟩ := removeOne_cases h hfind hg env decrease
  rw [removePlayer_eq, hone]
  cases hempty : (g.players.erase guid).isEmpty with
  | true =>
    refine ⟨_, rfl, h.freeGroup hfind hg hempty hmem _, fun x => ?_, fun q hq => ?_, fun _ => ?_,
      fun hkept => ?_, rfl⟩
    · simp only [find?_erase, hleaves, eq_comm]
    · exact update_of_ne hq ..
    · exact update_self ..
    · obtain ⟨x, hx, hne⟩ := hkept
      exact absurd ((hleaves x).2 (erase_isEmpty_iff.1 hempty x hx)) hne
  | false =>
    rw [halone]
    refine ⟨_, rfl, h.leaveGroup hfind hg hempty _, fun x => ?_, fun q hq => ?_, fun hall => ?_,
      fun _ => ?_, rfl⟩
    · simp only [find?_erase, hleaves, eq_comm]
    · exact update_of_ne hq ..
    · have := erase_isEmpty_iff.2 fun x hx => (hleaves x).1 (hall x hx)
      rw [hempty] at this
      cases this
    · exact update_self ..

/-- A rated group that is not invited leaves as a whole. The induction is on its size. -/
theorem removePlayer_rated (h : WF st) (hfind : st.queuedPlayers.find? guid = some info)
    (hg : st.groups info.groupInfo = some g) (hrated : (!g.isInvited && g.isRated) = true)
    (env : Env) (decrease : Bool) :
    ∃ st', st.removePlayer env guid decrease = (st', none) ∧
      Removes st st' env decrease guid info.groupInfo g := by
  have hleaves : ∀ (g : GroupQueueInfo) guid x, (!g.isInvited && g.isRated) = true →
      (g.leaves guid x ↔ x ∈ g.players.keys) := by
    intro g guid x hrated
    simp only [leaves, hrated, if_true]
  induction hsize : g.players.size generalizing st guid info g with
  | zero =>
    have hempty : g.players.isEmpty = true := by
      simpa [OrdMap.isEmpty, OrdMap.size] using hsize
    rw [h.nonempty _ g hg] at hempty
    cases hempty
  | succ n ih =>
    have hself : guid ∈ g.players.keys := (h.link _ g guid hg).2 ⟨info, hfind, rfl⟩
    obtain ⟨b, j, hmem, hone⟩ := removeOne_cases h hfind hg env decrease
    rw [removePlayer_eq, hone]
    cases hempty : (g.players.erase guid).isEmpty with
    | true =>
      refine ⟨_, rfl, h.freeGroup hfind hg hempty hmem _, fun x => ?_, fun q hq => ?_, fun _ => ?_,
        fun hkept => ?_, rfl⟩
      · have hiff : g.leaves guid x ↔ guid = x := by
          rw [hleaves g guid x hrated]
          constructor
          · exact fun hx => (erase_isEmpty_iff.1 hempty x hx).symm
          · rintro rfl
            exact hself
        simp only [find?_erase, hiff]
      · exact update_of_ne hq ..
      · exact update_self ..
      · obtain ⟨x, hx, hne⟩ := hkept
        exact absurd ((hleaves g guid x hrated).2 hx) hne
    | false =>
      rw [hrated]
      obtain ⟨next, hnext⟩ := first?_of_not_isEmpty hempty
      simp only [if_true, hnext]
      have hwf₁ := h.leaveGroup hfind hg hempty (st.instancesAfter env decrease g)
      obtain ⟨info₁, hfind₁, hptr⟩ :=
        (hwf₁.link info.groupInfo _ next (update_self ..)).1 (first?_mem hnext)
      have hsize₁ : (g.players.erase guid).size = n := by
        obtain ⟨u, hu⟩ := mem_keys.1 hself
        have := size_erase hu
        omega
      obtain ⟨st', heq, hrest⟩ := ih hwf₁ hfind₁ (g := { g with players := g.players.erase guid })
        (by rw [hptr]; exact update_self ..) hrated hsize₁
      rw [hptr] at hrest
      have hall : ∀ x, leaves { g with players := g.players.erase guid } next x ↔
          guid ≠ x ∧ x ∈ g.players.keys := by
        intro x
        rw [hleaves { g with players := g.players.erase guid } next x hrated]
        exact mem_keys_erase
      refine ⟨st', heq, hrest.wf, fun x => ?_, fun q hq => ?_, fun _ => ?_, fun hkept => ?_, ?_⟩
      · rw [hrest.queued, find?_erase]
        simp only [hall, hleaves g guid x hrated]
        by_cases hx : guid = x
        · subst hx
          simp [hself]
        · simp [hx]
      · exact (hrest.others q hq).trans (update_of_ne hq ..)
      · refine hrest.freed fun x hx => (hall x).2 (mem_keys_erase.1 hx)
      · obtain ⟨x, hx, hne⟩ := hkept
        exact absurd ((hleaves g guid x hrated).2 hx) hne
      · have hinv : g.isInvited = false := by
          simpa using (Bool.and_eq_true_iff.1 hrated).1
        rw [hrest.instances]
        simp [instancesAfter, isInvited] at hinv ⊢
        simp [hinv]

theorem removePlayer_removes (h : WF st) (hfind : st.queuedPlayers.find? guid = some info)
    (hg : st.groups info.groupInfo = some g) (env : Env) (decrease : Bool) :
    ∃ st', st.removePlayer env guid decrease = (st', none) ∧
      Removes st st' env decrease guid info.groupInfo g := by
  cases hrated : (!g.isInvited && g.isRated) with
  | false => exact removePlayer_alone h hfind hg hrated env decrease
  | true => exact removePlayer_rated h hfind hg hrated env decrease

theorem removePlayer_notFound (hfind : st.queuedPlayers.find? guid = none) (env : Env) (decrease : Bool) :
    st.removePlayer env guid decrease = (st, some .playerNotFound) := by
  rw [removePlayer_eq]
  simp only [removeOne, hfind]

theorem WF.removePlayer (h : WF st) (env : Env) (guid : Guid) (decrease : Bool) :
    WF (st.removePlayer env guid decrease).1 := by
  cases hfind : st.queuedPlayers.find? guid with
  | none =>
    rw [removePlayer_notFound hfind]
    exact h
  | some info =>
    obtain ⟨g, hg⟩ := h.owner guid info hfind
    obtain ⟨st', heq, hrem⟩ := removePlayer_removes h hfind hg env decrease
    rw [heq]
    exact hrem.wf

end Remove

/-! ## Runs -/

inductive Event where
  | addGroup (join : Join)
  | removePlayer (guid : Guid) (decrease : Bool)
  | update (bgTypeId : BattlegroundTypeId) (b : BattlegroundBracketId) (arenaType : Nat)
    (isRated : Bool) (arenaRating : Nat)
  deriving DecidableEq, Repr

def step (st : State) (ee : Env × Event) : State :=
  match ee.2 with
  | .addGroup join => st.addGroup ee.1 join
  | .removePlayer guid decrease => (st.removePlayer ee.1 guid decrease).1
  | .update bgTypeId b arenaType isRated arenaRating =>
    st.battlegroundQueueUpdate ee.1 bgTypeId b arenaType isRated arenaRating

/-- What the handlers check before they call `AddGroup`: nobody who is added is in the queue, and the
leader of the group is one of its members. -/
def Admissible (st : State) : Event → Prop
  | .addGroup join => join.leader ∈ join.guids ∧ ∀ guid ∈ join.guids, guid ∉ st.queuedPlayers.keys
  | _ => True

instance (st : State) (e : Event) : Decidable (Admissible st e) := by
  unfold Admissible
  split <;> infer_instance

/-- One call keeps groups, lists and links in agreement. -/
theorem step_wf {ee : Env × Event} (h : WF st) (hadm : Admissible st ee.2) : WF (step st ee) := by
  obtain ⟨env, e⟩ := ee
  cases e with
  | addGroup join =>
    obtain ⟨hleader, hnew⟩ := hadm
    exact h.addGroup env (ne_nil_of_mem hleader) hnew
  | removePlayer guid decrease => exact h.removePlayer env guid decrease
  | update bgTypeId b arenaType isRated arenaRating =>
    obtain ⟨s, ⟨s₁, s₂, hm₁, hc₁, hm₂⟩, s₃, s₄, hm₃, hc₂, hm₄⟩ :=
      update_refines env b h.toLists bgTypeId arenaType isRated arenaRating
    have hs := Moves.wf hm₂ (hc₁.wf (Moves.wf hm₁ h))
    exact Moves.wf hm₄ (hc₂.wf (Moves.wf hm₃ hs))

/-- They agree after every part of an admissible run. -/
theorem run_wf (pre post : List (Env × Event))
    (h : AllSteps step (fun st ee => Admissible st ee.2) {} (pre ++ post)) : WF (run step {} pre) :=
  AllSteps.reaches (I := WF) (fun _ _ hs hadm => step_wf hs hadm) WF.empty h

/-- The two-way link between the players and the groups, and the place of each group. -/
structure Represented (st : State) : Prop where
  one_list : ∀ p g, st.groups p = some g → ∃ b j, (st.queuedGroups b j).count p = 1 ∧
    ∀ b' j', p ∈ st.queuedGroups b' j' → b' = b ∧ j' = j
  listed_live : ∀ b j, ∀ p ∈ st.queuedGroups b j, ∃ g, st.groups p = some g
  nonempty : ∀ p g, st.groups p = some g → ∃ guid, guid ∈ g.players.keys
  link : ∀ p g guid, st.groups p = some g →
    (guid ∈ g.players.keys ↔ ∃ info, st.queuedPlayers.find? guid = some info ∧ info.groupInfo = p)
  queued_live : ∀ guid info, st.queuedPlayers.find? guid = some info →
    ∃ g, st.groups info.groupInfo = some g

theorem WF.represented (h : WF st) : Represented st where
  one_list p g hg := by
    obtain ⟨b, j, hp⟩ := h.placed p g hg
    exact ⟨b, j, count_eq_one_of_mem (h.nodup b j) hp, fun b' j' hp' => h.unique b' j' b j p hp' hp⟩
  listed_live := h.live
  nonempty p g hg := by
    obtain ⟨guid, hguid⟩ := first?_of_not_isEmpty (h.nonempty p g hg)
    exact ⟨guid, first?_mem hguid⟩
  link := h.link
  queued_live := h.owner

/-- `RemovePlayer` of a queued player logs no error, takes exactly the players out of the queue and
out of their group who leave with him, and frees a group exactly when all its players leave. -/
def RemovesExactly (st : State) (env : Env) (guid : Guid) (decrease : Bool) : Prop :=
  ∀ info g, st.queuedPlayers.find? guid = some info → st.groups info.groupInfo = some g →
    (st.removePlayer env guid decrease).2 = none ∧
    (∀ x, (st.removePlayer env guid decrease).1.queuedPlayers.find? x =
      if g.leaves guid x then none else st.queuedPlayers.find? x) ∧
    (∀ q g', st.groups q = some g' →
      ((st.removePlayer env guid decrease).1.groups q = none ↔ ∀ x ∈ g'.players.keys, g.leaves guid x)) ∧
    ∀ q g' g'', st.groups q = some g' →
      (st.removePlayer env guid decrease).1.groups q = some g'' →
      ∀ x, x ∈ g''.players.keys ↔ x ∈ g'.players.keys ∧ ¬ g.leaves guid x

theorem WF.removesExactly (h : WF st) (env : Env) (guid : Guid) (decrease : Bool) :
    RemovesExactly st env guid decrease := by
  intro info g hfind hg
  obtain ⟨st', heq, hrem⟩ := removePlayer_removes h hfind hg env decrease
  rw [heq]
  -- whoever leaves is in the group of `guid`
  have hown : ∀ x, g.leaves guid x → x ∈ g.players.keys := by
    intro x hx
    unfold leaves at hx
    split at hx
    · exact hx
    · rw [hx]
      exact (h.link _ g guid hg).2 ⟨info, hfind, rfl⟩
  have hdisj : ∀ q g' x, st.groups q = some g' → x ∈ g'.players.keys → g.leaves guid x →
      q = info.groupInfo := by
    intro q g' x hg' hx hl
    obtain ⟨i₁, hi₁, hq⟩ := (h.link q g' x hg').1 hx
    obtain ⟨i₂, hi₂, hp⟩ := (h.link _ g x hg).1 (hown x hl)
    rw [hi₁] at hi₂
    cases hi₂
    exact hq.symm.trans hp
  refine ⟨rfl, hrem.queued, fun q g' hg' => ?_, fun q g' g'' hg' hg'' x => ?_⟩
  · by_cases hq : q = info.groupInfo
    · subst hq
      rw [hg] at hg'
      cases hg'
      refine ⟨fun hnone => ?_, hrem.freed⟩
      by_contra hstay
      push Not at hstay
      rw [hrem.kept hstay] at hnone
      cases hnone
    · rw [hrem.others q hq, hg']
      refine ⟨fun hnone => (by cases hnone), fun hall => ?_⟩
      obtain ⟨x, hx⟩ := first?_of_not_isEmpty (h.nonempty q g' hg')
      have hx := first?_mem hx
      exact absurd (hdisj q g' x hg' hx (hall x hx)) hq
  · by_cases hq : q = info.groupInfo
    · subst hq
      rw [hg] at hg'
      cases hg'
      have hstay : ∃ y ∈ g.players.keys, ¬ g.leaves guid y := by
        by_contra hnone
        push Not at hnone
        rw [hrem.freed hnone] at hg''
        cases hg''
      rw [hrem.kept hstay] at hg''
      cases hg''
      -- somebody stays, so the player leaves alone
      have halone : ∀ y, g.leaves guid y ↔ y = guid := by
        obtain ⟨y, hy, hny⟩ := hstay
        intro z
        unfold leaves at hny ⊢
        split at hny
        · exact absurd hy hny
        · rename_i hcond
          rw [if_neg hcond]
      rw [halone, mem_keys_erase, and_comm, ne_comm]
    · rw [hrem.others q hq, hg'] at hg''
      cases hg''
      exact ⟨fun hx => ⟨hx, fun hl => hq (hdisj q g' x hg' hx hl)⟩, And.left⟩

/-- **The queue is consistent in every reachable state**, and there `RemovePlayer` removes exactly
whom it should. -/
theorem queue_represented (pre post : List (Env × Event))
    (h : AllSteps step (fun st ee => Admissible st ee.2) {} (pre ++ post)) :
    Represented (run step {} pre) ∧
      ∀ env guid decrease, RemovesExactly (run step {} pre) env guid decrease := by
  have hwf := run_wf pre post h
  exact ⟨hwf.represented, hwf.removesExactly⟩

def sampleEnv : Env where
  world := { player := fun _ => {} }
  msTime := 1000
  template := fun _ => some { isArena := true, isRated := false }
  newMatch := some (1, .na, { isArena := true, isRated := false })

/-- A rated group of two, of the arena team `id`. -/
def sampleJoin (a b : Guid) (id : Nat) : Join where
  leader := a
  members := some [a, b]
  team := .alliance
  bgTypeId := .aa
  bracketId := 0
  arenaType := 2
  isRated := true
  arenaRating := 1500
  matchmakerRating := 1500
  arenaTeamId := id

/-- Two teams join and are matched, a third joins, and a player of each of two teams leaves. -/
theorem sampleRun_represented :
    Represented (run step {} [(sampleEnv, .addGroup (sampleJoin 1 2 7)),
      (sampleEnv, .addGroup (sampleJoin 3 4 8)), (sampleEnv, .update .aa 0 2 true 1500),
      (sampleEnv, .addGroup (sampleJoin 5 6 9)), (sampleEnv, .removePlayer 1 true),
      (sampleEnv, .removePlayer 6 true)]) := by
  refine (queue_represented _ [] ?_).1
  decide

end Axium.Queue
