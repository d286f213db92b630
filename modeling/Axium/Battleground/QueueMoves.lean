import Axium.Battleground.QueueUpdate

/-!
# What matchmaking can do to a queue

The queue's invariant (`WF`) ties the three views of a queued player together: the group he points
to, the group's own players, and the list the group is in. Matchmaking never writes these views
directly. Whatever an update computes, it is a sequence of a few moves (`Move`): a waiting group of the
mixed list changes its team, a waiting group goes from one list of its bracket to another, a
waiting group is invited. **`update_refines`** says so for every update, and each later invariant is
proved for the moves only.
-/

namespace Axium.Queue

open List Function Option
open Bg (Battleground)
open State

/-- An instance before and after `n` players of a side are invited to it. -/
structure Invites (inst inst' : Instance) (t : Team) (n : Nat) : Prop where
  typeId : inst'.typeId = inst.typeId
  roster : inst'.bg.roster = inst.bg.roster
  invited : ∀ t', inst'.bg.invited.get t' =
    if t = t' then incr32^[n] (inst.bg.invited.get t') else inst.bg.invited.get t'

/-! ## Frames -/

namespace State

variable (st : State)

theorem modifyGroup_groups (p q : Ptr) (f : GroupQueueInfo → GroupQueueInfo) :
    (st.modifyGroup p f).groups q = if q = p then (st.groups p).map f else st.groups q :=
  update_apply ..

theorem setList_queuedGroups (b b' : BattlegroundBracketId) (j j' : GroupType) (l : List Ptr) :
    (st.setList b j l).queuedGroups b' j' = if b' = b ∧ j' = j then l else st.queuedGroups b' j' := by
  simp only [setList, update_apply]
  by_cases hb : b' = b
  · subst hb
    simp [update_apply]
  · simp [hb]

theorem group_of_groups {p : Ptr} {g : GroupQueueInfo} (h : st.groups p = some g) : st.group p = g := by
  simp [group, h]

theorem modifyGroup_id {p : Ptr} {f : GroupQueueInfo → GroupQueueInfo}
    (h : ∀ g, st.groups p = some g → f g = g) : st.modifyGroup p f = st := by
  have hmap : (st.groups p).map f = st.groups p := by
    cases hg : st.groups p with
    | none => rfl
    | some g => simp [h g hg]
  simp [modifyGroup, hmap]

theorem modifyGroup_comm {p q : Ptr} (hne : q ≠ p) (f f' : GroupQueueInfo → GroupQueueInfo) :
    (st.modifyGroup p f).modifyGroup q f' = (st.modifyGroup q f').modifyGroup p f := by
  simp only [modifyGroup, update_of_ne hne, update_of_ne hne.symm, update_comm hne]

theorem modifyGroup_field {β : Type} (φ : GroupQueueInfo → β) {f : GroupQueueInfo → GroupQueueInfo}
    (hf : ∀ g, φ (f g) = φ g) (p q : Ptr) : φ ((st.modifyGroup p f).group q) = φ (st.group q) := by
  rw [group, group, modifyGroup_groups]
  split
  · rename_i hqp
    subst hqp
    cases st.groups q with
    | none => rfl
    | some g => exact hf g
  · rfl

theorem modifyGroup_live (p : Ptr) (f : GroupQueueInfo → GroupQueueInfo) {q : Ptr}
    (h : ∃ g, st.groups q = some g) : ∃ g, (st.modifyGroup p f).groups q = some g := by
  obtain ⟨g, hg⟩ := h
  rw [modifyGroup_groups]
  split
  · rename_i hqp
    subst hqp
    exact ⟨f g, by simp [hg]⟩
  · exact ⟨g, hg⟩

theorem foldl_invitePlayer_cases (env : Env) (g : GroupQueueInfo) (i : InstanceId)
    (b : BattlegroundBracketId) (guids : List Guid) :
    ∃ rings instances, guids.foldl (invitePlayer env g i b) st =
      { st with waitRings := rings, instances := instances } := by
  induction guids generalizing st with
  | nil => exact ⟨st.waitRings, st.instances, rfl⟩
  | cons guid guids ih =>
    obtain ⟨rings, instances, h⟩ := ih (invitePlayer env g i b st guid)
    refine ⟨rings, instances, h.trans ?_⟩
    unfold invitePlayer
    split
    · rfl
    · rfl

theorem modifyInstance_apply (i j : InstanceId) (f : Instance → Instance) :
    (st.modifyInstance i f).instances j = if j = i then (st.instances i).map f else st.instances j :=
  update_apply ..

variable {inst : Instance}

theorem modifyInstance_instances {i : InstanceId}
    (hinst : st.instances i = some inst) (f : Instance → Instance) :
    (st.modifyInstance i f).instances = update st.instances i (some (f inst)) := by
  simp [modifyInstance, hinst]

theorem foldl_invitePlayer_instances {st : State} (env : Env) (g : GroupQueueInfo) {i : InstanceId}
    (hinst : st.instances i = some inst) (b : BattlegroundBracketId) (guids : List Guid) :
    ∃ inst', (guids.foldl (invitePlayer env g i b) st).instances =
        update st.instances i (some inst') ∧
      Invites inst inst' g.team (guids.filter env.online).length := by
  induction guids generalizing st inst with
  | nil => exact ⟨inst, by rw [← hinst, update_eq_self]; rfl, ⟨rfl, rfl, by simp⟩⟩
  | cons guid guids ih =>
    rw [foldl_cons]
    by_cases hon : env.online guid = true
    · have hone : (invitePlayer env g i b st guid).instances = update st.instances i
          (some { inst with bg := inst.bg.increaseInvitedCount g.team.id }) := by
        unfold invitePlayer
        rw [if_pos hon]
        exact modifyInstance_instances _ hinst _
      obtain ⟨inst', heq, htype, hroster, hinv⟩ := ih (by rw [hone, update_self])
      refine ⟨inst', by rw [heq, hone, update_idem], htype, hroster, fun t => ?_⟩
      rw [hinv, filter_cons_of_pos hon, length_cons, Function.iterate_succ_apply]
      simp only [Bg.Battleground.increaseInvitedCount, Bg.invitedIndex_id, PerTeam.get_set]
      split
      · rename_i ht
        rw [ht]
      · rfl
    · have hskip : invitePlayer env g i b st guid = st := by
        unfold invitePlayer
        rw [if_neg hon]
      rw [hskip, filter_cons_of_neg hon]
      exact ih hinst

theorem invite_cases (env : Env) (p : Ptr) (i : InstanceId) (inst : Instance) :
    ∃ rings instances, st.invite env p i inst =
      { st.modifyGroup p ({ · with
          isInvitedToBGInstanceGUID := i
          removeInviteTime := (env.msTime + inviteAcceptWaitTime) % 2 ^ 32 }) with
        waitRings := rings, instances := instances } := by
  obtain ⟨rings, instances, h⟩ := foldl_invitePlayer_cases
    (if inst.bg.config.isArena && inst.bg.config.isRated then
      (st.modifyGroup p ({ · with
        isInvitedToBGInstanceGUID := i
        removeInviteTime := (env.msTime + inviteAcceptWaitTime) % 2 ^ 32 })).modifyInstance i
        fun inst => { inst with bg := { inst.bg with config := { inst.bg.config with
          arenaTeamIds := inst.bg.config.arenaTeamIds.set (st.group p).team
            (st.group p).arenaTeamId } } }
    else st.modifyGroup p ({ · with
        isInvitedToBGInstanceGUID := i
        removeInviteTime := (env.msTime + inviteAcceptWaitTime) % 2 ^ 32 }))
    env (st.group p) i inst.bracketId (st.group p).players.keys
  refine ⟨rings, instances, h.trans ?_⟩
  split
  · rfl
  · rfl

theorem invite_field {β : Type} (φ : GroupQueueInfo → β) (hφ : ∀ g i r, φ { g with
      isInvitedToBGInstanceGUID := i, removeInviteTime := r } = φ g) (env : Env) (p : Ptr)
    (i : InstanceId) (inst : Instance) (q : Ptr) :
    φ ((st.invite env p i inst).group q) = φ (st.group q) := by
  obtain ⟨rings, instances, heq⟩ := st.invite_cases env p i inst
  rw [heq]
  exact st.modifyGroup_field φ (fun g => hφ g i _) p q

theorem invite_instance {st : State} (env : Env) (p : Ptr) {i : InstanceId}
    (hinst : st.instances i = some inst) :
    ∃ inst', (st.invite env p i inst).instances = update st.instances i (some inst') ∧
      Invites inst inst' (st.group p).team ((st.group p).players.keys.filter env.online).length := by
  unfold invite
  dsimp only
  generalize hs : (if inst.bg.config.isArena && inst.bg.config.isRated then _ else _) = s
  -- the arena teams of a rated arena may be written first, which no count depends on
  have hfirst : ∃ inst₁, s.instances = update st.instances i (some inst₁) ∧
      inst₁.typeId = inst.typeId ∧ inst₁.bg.roster = inst.bg.roster ∧
      inst₁.bg.invited = inst.bg.invited := by
    subst hs
    split
    · exact ⟨_, modifyInstance_instances _ hinst _, rfl, rfl, rfl⟩
    · exact ⟨inst, by rw [← hinst, update_eq_self]; rfl, rfl, rfl, rfl⟩
  obtain ⟨inst₁, hs₁, htype₁, hroster₁, hinv₁⟩ := hfirst
  obtain ⟨inst', heq, htype, hroster, hinv⟩ := foldl_invitePlayer_instances env (st.group p)
    (show s.instances i = some inst₁ by rw [hs₁, update_self]) inst.bracketId
    (st.group p).players.keys
  refine ⟨inst', by rw [heq, hs₁, update_idem], htype.trans htype₁, hroster.trans hroster₁, fun t => ?_⟩
  rw [hinv, hinv₁]

end State

/-! ## The invariant -/

def GroupType.side : GroupType → Option Team
  | .premade t => some t
  | .normal t => some t
  | .mixed => none

/-- Each group is in at most one list, of its own side. -/
structure Lists (st : State) : Prop where
  live : ∀ b j, ∀ p ∈ st.queuedGroups b j, ∃ g, st.groups p = some g
  nodup : ∀ b j, (st.queuedGroups b j).Nodup
  unique : ∀ b j b' j' p, p ∈ st.queuedGroups b j → p ∈ st.queuedGroups b' j' → b = b' ∧ j = j'
  side : ∀ b j t p g, j.side = some t → p ∈ st.queuedGroups b j → st.groups p = some g → g.team = t
  fresh : ∀ p, st.nextPtr ≤ p → st.groups p = none

/-- The three views of a queued player agree: his pointer, the players of the group, and its list. -/
structure WF (st : State) : Prop extends Lists st where
  placed : ∀ p g, st.groups p = some g → ∃ b j, p ∈ st.queuedGroups b j
  nonempty : ∀ p g, st.groups p = some g → g.players.isEmpty = false
  link : ∀ p g guid, st.groups p = some g →
    (guid ∈ g.players.keys ↔ ∃ info, st.queuedPlayers.find? guid = some info ∧ info.groupInfo = p)
  owner : ∀ guid info, st.queuedPlayers.find? guid = some info → ∃ g, st.groups info.groupInfo = some g
  unchallenged : ∀ guid, st.challengeInfo guid = none

theorem Lists.empty : Lists {} where
  live := by simp
  nodup := by simp
  unique := by simp
  side := by simp
  fresh := by simp

theorem WF.empty : WF {} where
  toLists := .empty
  placed := by simp
  nonempty := by simp
  link := by simp
  owner := by simp
  unchallenged := by simp

structure SameLists (st st' : State) : Prop where
  lists : st'.queuedGroups = st.queuedGroups
  next : st'.nextPtr = st.nextPtr
  live : ∀ p, (st'.groups p).isSome = (st.groups p).isSome

structure SameQueue (st st' : State) : Prop where
  lists : st'.queuedGroups = st.queuedGroups
  queued : st'.queuedPlayers = st.queuedPlayers
  next : st'.nextPtr = st.nextPtr
  challenge : st'.challengeInfo = st.challengeInfo
  players : ∀ p, (st'.groups p).map (·.players) = (st.groups p).map (·.players)

theorem SameQueue.sameLists {st st' : State} (h : SameQueue st st') : SameLists st st' where
  lists := h.lists
  next := h.next
  live p := by
    have hp := congrArg Option.isSome (h.players p)
    rwa [isSome_map, isSome_map] at hp

theorem SameQueue.framed {st st' : State} (h : SameQueue st st')
    (rings : Team → BattlegroundBracketId → WaitRing) (instances : InstanceId → Option Instance) :
    SameQueue st { st' with waitRings := rings, instances := instances } :=
  ⟨h.lists, h.queued, h.next, h.challenge, h.players⟩

theorem SameQueue.some_iff {st st' : State} (h : SameQueue st st') {p : Ptr} {g' : GroupQueueInfo}
    (hg : st'.groups p = some g') : ∃ g, st.groups p = some g ∧ g.players = g'.players := by
  have hp := h.players p
  rw [hg] at hp
  cases hs : st.groups p with
  | none => simp [hs] at hp
  | some g =>
    simp only [hs, map_some, some.injEq] at hp
    exact ⟨g, rfl, hp.symm⟩

theorem Lists.of_sameLists {st st' : State} (h : Lists st) (hs : SameLists st st')
    (hside : ∀ b j t p g', j.side = some t → p ∈ st.queuedGroups b j → st'.groups p = some g' →
      g'.team = t) : Lists st' where
  live b j p hp := by
    rw [hs.lists] at hp
    rw [← isSome_iff_exists, hs.live, isSome_iff_exists]
    exact h.live b j p hp
  nodup b j := by
    rw [hs.lists]
    exact h.nodup b j
  unique := by
    rw [hs.lists]
    exact h.unique
  side b j t p g' hj hp hg' := by
    rw [hs.lists] at hp
    exact hside b j t p g' hj hp hg'
  fresh p hp := by
    rw [hs.next] at hp
    rw [← not_isSome_iff_eq_none, hs.live, h.fresh p hp]
    exact Bool.false_ne_true

theorem WF.of_sameQueue {st st' : State} (h : WF st) (hs : SameQueue st st')
    (hside : ∀ b j t p g', j.side = some t → p ∈ st.queuedGroups b j → st'.groups p = some g' →
      g'.team = t) : WF st' where
  toLists := h.toLists.of_sameLists hs.sameLists hside
  placed p g' hg' := by
    obtain ⟨g, hg, -⟩ := hs.some_iff hg'
    rw [hs.lists]
    exact h.placed p g hg
  nonempty p g' hg' := by
    obtain ⟨g, hg, hpl⟩ := hs.some_iff hg'
    rw [← hpl]
    exact h.nonempty p g hg
  link p g' guid hg' := by
    obtain ⟨g, hg, hpl⟩ := hs.some_iff hg'
    rw [hs.queued, ← hpl]
    exact h.link p g guid hg
  owner guid info hi := by
    rw [hs.queued] at hi
    rw [← isSome_iff_exists, hs.sameLists.live, isSome_iff_exists]
    exact h.owner guid info hi
  unchallenged guid := by
    rw [hs.challenge]
    exact h.unchallenged guid

section ModifyGroup

variable {st : State} (p : Ptr) {f : GroupQueueInfo → GroupQueueInfo}

theorem modifyGroup_sameLists (f : GroupQueueInfo → GroupQueueInfo) : SameLists st (st.modifyGroup p f) where
  lists := rfl
  next := rfl
  live q := by
    rw [modifyGroup_groups]
    split
    · rename_i hqp
      rw [hqp, isSome_map]
    · rfl

theorem modifyGroup_sameQueue (hplayers : ∀ g, (f g).players = g.players) :
    SameQueue st (st.modifyGroup p f) := by
  refine ⟨rfl, rfl, rfl, rfl, fun q => ?_⟩
  rw [modifyGroup_groups]
  split
  · rename_i hqp
    subst hqp
    cases hg : st.groups q with
    | none => rfl
    | some g => simp [hplayers]
  · rfl

theorem Lists.modifyGroup_side (h : Lists st)
    (hteam : ∀ g, (f g).team = g.team ∨ ∃ b, p ∈ st.queuedGroups b .mixed) (b : BattlegroundBracketId)
    (j : GroupType) (t : Team) (q : Ptr) (g' : GroupQueueInfo) (hj : j.side = some t)
    (hq : q ∈ st.queuedGroups b j) (hg' : (st.modifyGroup p f).groups q = some g') : g'.team = t := by
  rw [modifyGroup_groups] at hg'
  split at hg'
  · rename_i hqp
    subst hqp
    obtain ⟨g, hg, rfl⟩ := map_eq_some_iff.1 hg'
    rcases hteam g with hsame | ⟨b', hb'⟩
    · rw [hsame]
      exact h.side b j t q g hj hq hg
    · obtain ⟨-, rfl⟩ := h.unique b j b' .mixed q hq hb'
      cases hj
  · exact h.side b j t q g' hj hq hg'

theorem Lists.modifyGroup (h : Lists st)
    (hteam : ∀ g, (f g).team = g.team ∨ ∃ b, p ∈ st.queuedGroups b .mixed) : Lists (st.modifyGroup p f) :=
  h.of_sameLists (modifyGroup_sameLists p f) (h.modifyGroup_side p hteam)

theorem WF.modifyGroup (h : WF st) (hplayers : ∀ g, (f g).players = g.players)
    (hteam : ∀ g, (f g).team = g.team ∨ ∃ b, p ∈ st.queuedGroups b .mixed) : WF (st.modifyGroup p f) :=
  h.of_sameQueue (modifyGroup_sameQueue p hplayers) (h.toLists.modifyGroup_side p hteam)

end ModifyGroup

/-! ## Moves -/

def State.transfer (st : State) (b : BattlegroundBracketId) (p : Ptr) (source target : GroupType)
    (t : Team) : State :=
  ((st.setTeam p t).setList b target (p :: st.queuedGroups b target)).setList b source
    ((st.queuedGroups b source).erase p)

structure KeepsCounts (f : Instance → Instance) : Prop where
  typeId : ∀ inst, (f inst).typeId = inst.typeId
  invited : ∀ inst, (f inst).bg.invited = inst.bg.invited
  roster : ∀ inst, (f inst).bg.roster = inst.bg.roster

def Env.invitable (env : Env) : List InstanceId :=
  env.bgFreeSlotQueue ++ (env.newPremade.toList ++ env.newMatch.toList).map Prod.fst

inductive Move (env : Env) : State → State → Prop
  | pools {st : State} (pools : PerTeam SelectionPool) : Move env st { st with selectionPools := pools }
  | team {st : State} {b : BattlegroundBracketId} {p : Ptr} {g : GroupQueueInfo} (t : Team) :
    st.groups p = some g → g.isInvited = false → p ∈ st.queuedGroups b .mixed →
    Move env st (st.setTeam p t)
  | opponents {st : State} (p : Ptr) (opponent : GroupQueueInfo) : Move env st (st.setOpponents p opponent)
  | transfer {st : State} {b : BattlegroundBracketId} {p : Ptr} {g : GroupQueueInfo}
    {source target : GroupType} {t : Team} :
    st.groups p = some g → g.isInvited = false → p ∈ st.queuedGroups b source → source ≠ target →
    target.side = some t → Move env st (st.transfer b p source target t)
  | invite {st : State} {p : Ptr} {g : GroupQueueInfo} {i : InstanceId} {inst : Instance} :
    st.groups p = some g → g.isInvited = false → st.instances i = some inst → i ∈ env.invitable →
    Move env st (st.invite env p i inst)
  | touch {st : State} (i : InstanceId) {f : Instance → Instance} :
    KeepsCounts f → Move env st (st.modifyInstance i f)

abbrev Moves (env : Env) : State → State → Prop := Relation.ReflTransGen (Move env)

section Transfer

variable {st : State} {b : BattlegroundBracketId} {p : Ptr} {source target : GroupType} {t : Team}

theorem transfer_queuedGroups (b' : BattlegroundBracketId) (j' : GroupType) :
    (st.transfer b p source target t).queuedGroups b' j' =
      if b' = b ∧ j' = source then (st.queuedGroups b source).erase p
      else if b' = b ∧ j' = target then p :: st.queuedGroups b target else st.queuedGroups b' j' := by
  simp only [State.transfer, setList_queuedGroups]
  rfl

theorem transfer_groups (q : Ptr) : (st.transfer b p source target t).groups q =
    if q = p then (st.groups p).map ({ · with team := t }) else st.groups q :=
  modifyGroup_groups ..

theorem Lists.mem_transfer (h : Lists st) (hp : p ∈ st.queuedGroups b source)
    (hne : source ≠ target) (b' : BattlegroundBracketId) (j' : GroupType) (q : Ptr) :
    q ∈ (st.transfer b p source target t).queuedGroups b' j' ↔
      if q = p then b' = b ∧ j' = target else q ∈ st.queuedGroups b' j' := by
  rw [transfer_queuedGroups]
  by_cases hq : q = p
  · subst hq
    have honly : ∀ b'' j'', q ∈ st.queuedGroups b'' j'' → b'' = b ∧ j'' = source :=
      fun b'' j'' hq => h.unique b'' j'' b source q hq hp
    have herase : q ∉ (st.queuedGroups b source).erase q := (h.nodup b source).not_mem_erase
    split
    · rename_i hbj
      obtain ⟨rfl, rfl⟩ := hbj
      simp [herase, hne]
    · split
      · rename_i hbj
        simp [hbj]
      · rename_i h1 h2
        simp only [if_true, h2, iff_false]
        exact fun hq => h1 (honly b' j' hq)
  · split
    · rename_i hbj
      obtain ⟨rfl, rfl⟩ := hbj
      simp [hq, mem_erase_of_ne]
    · split
      · rename_i hbj
        obtain ⟨rfl, rfl⟩ := hbj
        simp [hq]
      · exact Iff.rfl

theorem Lists.transfer (h : Lists st) (hp : p ∈ st.queuedGroups b source) (hne : source ≠ target)
    (ht : target.side = some t) : Lists (st.transfer b p source target t) where
  live b' j' q hq := by
    have hold : ∃ b'' j'', q ∈ st.queuedGroups b'' j'' := by
      rw [h.mem_transfer hp hne] at hq
      split at hq
      · rename_i hqp
        exact ⟨b, source, hqp ▸ hp⟩
      · exact ⟨b', j', hq⟩
    obtain ⟨b'', j'', hold⟩ := hold
    exact modifyGroup_live st p _ (h.live b'' j'' q hold)
  nodup b' j' := by
    rw [transfer_queuedGroups]
    split
    · exact (h.nodup b source).erase p
    · split
      · refine nodup_cons.2 ⟨fun hmem => ?_, h.nodup b target⟩
        exact hne (h.unique b source b target p hp hmem).2
      · exact h.nodup b' j'
  unique b₁ j₁ b₂ j₂ q hq₁ hq₂ := by
    rw [h.mem_transfer hp hne] at hq₁ hq₂
    split at hq₁
    · rename_i hqp
      rw [if_pos hqp] at hq₂
      exact ⟨hq₁.1.trans hq₂.1.symm, hq₁.2.trans hq₂.2.symm⟩
    · rename_i hqp
      rw [if_neg hqp] at hq₂
      exact h.unique _ _ _ _ q hq₁ hq₂
  side b' j' t' q g' hj hq hg' := by
    rw [h.mem_transfer hp hne] at hq
    rw [transfer_groups] at hg'
    split at hq
    · rename_i hqp
      rw [if_pos hqp] at hg'
      obtain ⟨g, -, rfl⟩ := map_eq_some_iff.1 hg'
      rw [hq.2, ht] at hj
      exact some.inj hj
    · rename_i hqp
      rw [if_neg hqp] at hg'
      exact h.side b' j' t' q g' hj hq hg'
  fresh q hq := by
    rw [transfer_groups]
    split
    · rename_i hqp
      subst hqp
      simp [h.fresh q hq]
    · exact h.fresh q hq

theorem WF.transfer (h : WF st) (hp : p ∈ st.queuedGroups b source) (hne : source ≠ target)
    (ht : target.side = some t) : WF (st.transfer b p source target t) := by
  have hsome : ∀ q g', (st.transfer b p source target t).groups q = some g' →
      ∃ g, st.groups q = some g ∧ g.players = g'.players := by
    intro q g' hg'
    rw [transfer_groups] at hg'
    split at hg'
    · rename_i hq
      subst hq
      obtain ⟨g, hg, rfl⟩ := map_eq_some_iff.1 hg'
      exact ⟨g, hg, rfl⟩
    · exact ⟨g', hg', rfl⟩
  refine ⟨h.toLists.transfer hp hne ht, ?_, ?_, ?_, ?_, h.unchallenged⟩
  · intro q g' hg'
    obtain ⟨g, hg, -⟩ := hsome q g' hg'
    by_cases hqp : q = p
    · exact ⟨b, target, by rw [h.mem_transfer hp hne, if_pos hqp]; exact ⟨rfl, rfl⟩⟩
    · obtain ⟨b', j', hq⟩ := h.placed q g hg
      exact ⟨b', j', by rw [h.mem_transfer hp hne, if_neg hqp]; exact hq⟩
  · intro q g' hg'
    obtain ⟨g, hg, hpl⟩ := hsome q g' hg'
    rw [← hpl]
    exact h.nonempty q g hg
  · intro q g' guid hg'
    obtain ⟨g, hg, hpl⟩ := hsome q g' hg'
    rw [← hpl]
    exact h.link q g guid hg
  · intro guid info hi
    exact modifyGroup_live st p _ (h.owner guid info hi)

end Transfer

theorem invite_sameQueue (st : State) (env : Env) (p : Ptr) (i : InstanceId) (inst : Instance) :
    SameQueue st (st.invite env p i inst) := by
  obtain ⟨rings, instances, heq⟩ := st.invite_cases env p i inst
  rw [heq]
  refine (modifyGroup_sameQueue p ?_).framed rings instances
  exact fun _ => rfl

theorem Lists.invite_side {st : State} (h : Lists st) (env : Env) (p : Ptr) (i : InstanceId)
    (inst : Instance) (b : BattlegroundBracketId) (j : GroupType) (t : Team) (q : Ptr)
    (g' : GroupQueueInfo) (hj : j.side = some t) (hq : q ∈ st.queuedGroups b j)
    (hg' : (st.invite env p i inst).groups q = some g') : g'.team = t := by
  obtain ⟨rings, instances, heq⟩ := st.invite_cases env p i inst
  rw [heq] at hg'
  refine h.modifyGroup_side p ?_ b j t q g' hj hq hg'
  exact fun _ => .inl rfl

theorem WF.invite {st : State} (h : WF st) (env : Env) (p : Ptr) (i : InstanceId) (inst : Instance) :
    WF (st.invite env p i inst) :=
  h.of_sameQueue (invite_sameQueue st env p i inst) (h.toLists.invite_side env p i inst)

theorem Move.lists {env : Env} {st st' : State} (hm : Move env st st') (h : Lists st) : Lists st' := by
  cases hm with
  | pools pools => exact h.of_sameLists ⟨rfl, rfl, fun _ => rfl⟩ h.side
  | team t hg hinv hp => exact h.modifyGroup _ fun _ => .inr ⟨_, hp⟩
  | opponents p opponent => exact h.modifyGroup p fun _ => .inl rfl
  | transfer hg hinv hp hne ht => exact h.transfer hp hne ht
  | @invite p _ i inst hg hinv hinst hi =>
    exact h.of_sameLists (invite_sameQueue ..).sameLists (h.invite_side env p i inst)
  | touch i hf => exact h.of_sameLists ⟨rfl, rfl, fun _ => rfl⟩ h.side

theorem Moves.lists {env : Env} {st st' : State} (hm : Moves env st st') (h : Lists st) : Lists st' := by
  induction hm with
  | refl => exact h
  | tail _ hstep ih => exact hstep.lists ih

theorem Move.wf {env : Env} {st st' : State} (hm : Move env st st') (h : WF st) : WF st' := by
  cases hm with
  | pools pools => exact h.of_sameQueue ⟨rfl, rfl, rfl, rfl, fun _ => rfl⟩ h.side
  | team t hg hinv hp => exact h.modifyGroup _ (fun _ => rfl) fun _ => .inr ⟨_, hp⟩
  | opponents p opponent => exact h.modifyGroup p (fun _ => rfl) fun _ => .inl rfl
  | transfer hg hinv hp hne ht => exact h.transfer hp hne ht
  | invite hg hinv hinst hi => exact h.invite env _ _ _
  | touch i hf => exact h.of_sameQueue ⟨rfl, rfl, rfl, rfl, fun _ => rfl⟩ h.side

theorem Moves.wf {env : Env} {st st' : State} (hm : Moves env st st') (h : WF st) : WF st' := by
  induction hm with
  | refl => exact h
  | tail _ hstep ih => exact hstep.wf ih

theorem Move.live {env : Env} {st st' : State} (hm : Move env st st') {p : Ptr}
    (h : ∃ g, st.groups p = some g) : ∃ g, st'.groups p = some g := by
  cases hm with
  | pools pools => exact h
  | team t hg hinv hp => exact st.modifyGroup_live _ _ h
  | opponents q opponent => exact st.modifyGroup_live _ _ h
  | transfer hg hinv hp hne ht => exact st.modifyGroup_live _ _ h
  | @invite q _ i inst hg hinv hinst hi =>
    obtain ⟨rings, instances, heq⟩ := st.invite_cases env q i inst
    rw [heq]
    exact st.modifyGroup_live _ _ h
  | touch i hf => exact h

theorem Moves.live {env : Env} {st st' : State} (hm : Moves env st st') {p : Ptr}
    (h : ∃ g, st.groups p = some g) : ∃ g, st'.groups p = some g := by
  induction hm with
  | refl => exact h
  | tail _ hstep ih => exact hstep.live ih

/-! ## Selecting groups

A selection makes moves, and afterwards as before the pools point to groups that exist. -/

def PoolsLive (st : State) : Prop := ∀ t, ∀ p ∈ (st.pool t).selectedGroups, ∃ g, st.groups p = some g

structure Selects (env : Env) (st st' : State) : Prop where
  moves : Moves env st st'
  pools : PoolsLive st → PoolsLive st'

namespace Selects

variable {env : Env} {st st' st'' : State}

theorem refl (st : State) : Selects env st st := ⟨.refl, id⟩

theorem trans (h : Selects env st st') (h' : Selects env st' st'') : Selects env st st'' :=
  ⟨h.moves.trans h'.moves, h'.pools ∘ h.pools⟩

theorem lists (h : Selects env st st') (hl : Lists st) : Lists st' := h.moves.lists hl

theorem of_move (h : Move env st st') (hp : st'.selectionPools = st.selectionPools) : Selects env st st' := by
  refine ⟨.single h, fun hlive t p hmem => h.live (hlive t p ?_)⟩
  rwa [pool, hp] at hmem

theorem of_pools {pools : PerTeam SelectionPool}
    (h : ∀ t, ∀ p ∈ (pools.get t).selectedGroups,
      p ∈ (st.pool t).selectedGroups ∨ ∃ g, st.groups p = some g) :
    Selects env st { st with selectionPools := pools } := by
  refine ⟨.single (.pools pools), fun hlive t p hmem => ?_⟩
  rcases h t p hmem with hold | hnew
  · exact hlive t p hold
  · exact hnew

theorem initPools (st : State) : Selects env st st.initPools := by
  refine of_pools fun t p hp => ?_
  cases t <;> simp [PerTeam.get] at hp

theorem setPool {t : Team} {pool : SelectionPool} (h : ∀ p ∈ pool.selectedGroups,
      p ∈ (st.pool t).selectedGroups ∨ ∃ g, st.groups p = some g) : Selects env st (st.setPool t pool) := by
  refine of_pools fun t' p hp => ?_
  rw [PerTeam.get_set] at hp
  split at hp
  · rename_i heq
    subst heq
    exact h p hp
  · exact .inl hp

end Selects

namespace SelectionPool

variable {get : Ptr → GroupQueueInfo} {pool : SelectionPool}

theorem mem_addGroup {p q : Ptr} {desired : Nat} (h : q ∈ (pool.addGroup get p desired).1.selectedGroups) :
    q ∈ pool.selectedGroups ∨ q = p := by
  unfold addGroup at h
  split at h
  · simpa using h
  · exact .inl h

theorem addWaiting_selectedGroups (get : Ptr → GroupQueueInfo) (pool : SelectionPool)
    (desired : Nat) (ps : List Ptr) :
    ∃ l, l.Sublist ps ∧ (∀ q ∈ l, (get q).isInvited = false) ∧
      (pool.addWaiting get desired ps).selectedGroups = pool.selectedGroups ++ l := by
  induction ps generalizing pool with
  | nil => exact ⟨[], .slnil, by simp, by simp [addWaiting]⟩
  | cons p ps ih =>
    unfold addWaiting
    dsimp only
    split
    · obtain ⟨l, hl, hinv, heq⟩ := ih pool
      exact ⟨l, hl.cons p, hinv, heq⟩
    · rename_i hp
      have hp' : (get p).isInvited = false := by simpa using hp
      by_cases hfit : pool.playerCount + (get p).size ≤ desired
      · have hadd : pool.addGroup get p desired =
            (⟨pool.selectedGroups ++ [p], pool.playerCount + (get p).size⟩, true) := by
          simp [addGroup, hp', hfit]
        obtain ⟨l, hl, hinv, heq⟩ := ih ⟨pool.selectedGroups ++ [p], pool.playerCount + (get p).size⟩
        refine ⟨p :: l, hl.cons_cons p, ?_, ?_⟩
        · intro q hq
          rcases mem_cons.1 hq with rfl | hq
          · exact hp'
          · exact hinv q hq
        · rw [hadd, if_pos rfl, heq, append_assoc, singleton_append]
      · have hadd : pool.addGroup get p desired = (pool, decide (pool.playerCount < desired)) := by
          simp [addGroup, hfit]
        rw [hadd]
        split
        · obtain ⟨l, hl, hinv, heq⟩ := ih pool
          exact ⟨l, hl.cons p, hinv, heq⟩
        · exact ⟨[], nil_sublist _, by simp, by simp⟩

theorem mem_addWaiting {q : Ptr} {desired : Nat} {ps : List Ptr}
    (h : q ∈ (pool.addWaiting get desired ps).selectedGroups) : q ∈ pool.selectedGroups ∨ q ∈ ps := by
  obtain ⟨l, hl, -, heq⟩ := addWaiting_selectedGroups get pool desired ps
  rw [heq] at h
  rcases mem_append.1 h with h | h
  · exact .inl h
  · exact .inr (hl.subset h)

theorem mem_addUntil {q : Ptr} {minPlayers maxPlayers : Nat} {ps : List Ptr}
    (h : q ∈ (pool.addUntil get minPlayers maxPlayers ps).1.selectedGroups) :
    q ∈ pool.selectedGroups ∨ q ∈ ps := by
  induction ps generalizing pool with
  | nil => exact .inl h
  | cons p ps ih =>
    unfold addUntil at h
    dsimp only at h
    split at h
    · rcases ih h with hq | hq
      · exact .inl hq
      · exact .inr (mem_cons_of_mem p hq)
    · have hadd : q ∈ (pool.addGroup get p maxPlayers).1.selectedGroups →
          q ∈ pool.selectedGroups ∨ q ∈ p :: ps := by
        intro hq
        rcases mem_addGroup hq with hq | rfl
        · exact .inl hq
        · exact .inr mem_cons_self
      split at h
      · exact hadd h
      · rcases ih h with hq | hq
        · exact hadd hq
        · exact .inr (mem_cons_of_mem p hq)

theorem addUntil_rest_subset {minPlayers maxPlayers : Nat} {ps : List Ptr} :
    (pool.addUntil get minPlayers maxPlayers ps).2 ⊆ ps := by
  induction ps generalizing pool with
  | nil => exact fun _ h => h
  | cons p ps ih =>
    unfold addUntil
    dsimp only
    split
    · exact subset_cons_of_subset p ih
    · split
      · exact fun _ h => h
      · exact subset_cons_of_subset p ih

end SelectionPool

end Axium.Queue
