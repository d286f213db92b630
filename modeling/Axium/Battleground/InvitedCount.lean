import Axium.Battleground.QueueInvariant

/-!
# The invited count of a side

An instance counts the players it expects or has on each side. The queue adds to the count when it
invites, a refusal and a departure take from it, and an acceptance hands the player from the queue
to the road and from there into the instance. The three places together are the count, in every
reachable state (**`invitedCount_accounted`**), so it never wraps.

A `System` is one queue with its instances and the players who have accepted and not arrived yet.
-/

namespace Axium.Queue

open Run State List Function OrdMap Option Instance

variable {i : InstanceId} {decrease : Bool}

/-- `coming` are the players between `RemovePlayer(guid, false)` and `AddPlayer`, with the instance and
the side that the acceptance gave them. -/
structure System where
  queue : State := {}
  coming : OrdMap Guid (InstanceId × Team) := .empty

def State.holds (st : State) (i : InstanceId) (t : Team) (p : Ptr) : Bool :=
  (st.group p).isInvitedToBGInstanceGUID = i && (st.group p).team = t

def State.invitedCount (st : State) (i : InstanceId) (t : Team) : Nat :=
  st.queuedPlayers.count fun _ info => st.holds i t info.groupInfo

def System.comingCount (s : System) (i : InstanceId) (t : Team) : Nat :=
  s.coming.count fun _ x => x.1 = i && x.2 = t

def Instance.insideCount (inst : Instance) (t : Team) : Nat :=
  inst.bg.roster.players.count fun _ p => p.team = t.id

/-! ## The events -/

inductive SystemEvent where
  | addGroup (join : Join)
  | update (bgTypeId : BattlegroundTypeId) (b : BattlegroundBracketId) (arenaType : Nat)
    (isRated : Bool) (arenaRating : Nat)
  | invite (p : Ptr) (i : InstanceId) (side : Option Team)
  | accept (guid : Guid)
  | arrive (guid : Guid)
  | decline (guid : Guid)
  | leave (guid : Guid) (i : InstanceId)

/-- `AddPlayer` of a player who has the side as his team (`SetBGTeam`). -/
def Instance.addPlayer (inst : Instance) (world : Bg.World) (guid : Guid) (t : Team) : Instance :=
  let player := Function.update world.player guid { world.player guid with team := t }
  { inst with bg := { inst.bg with world := { world with player := player } }.addPlayer guid }

def Instance.removePlayerAtLeave (inst : Instance) (world : Bg.World) (guid : Guid) : Instance :=
  { inst with bg := { inst.bg with world := world }.removePlayerAtLeave guid }

namespace System

variable (s : System) (env : Env)

/-- `CMSG_BATTLEFIELD_PORT` with an acceptance: the player leaves the queue and sets out. -/
def accept (guid : Guid) : System :=
  match s.queue.getPlayerGroupInfoData env guid with
  | some g =>
    if g.isInvited then
      { queue := (s.queue.removePlayer env guid false).1
        coming := s.coming.insert guid (g.isInvitedToBGInstanceGUID, g.team) }
    else s
  | none => s

/-- `HandleMoveWorldportAck`: the player is added. -/
def arrive (guid : Guid) : System :=
  match s.coming.find? guid with
  | some (i, t) =>
    { queue := s.queue.modifyInstance i (·.addPlayer env.world guid t)
      coming := s.coming.erase guid }
  | none => s

/-- `RemovePlayerAtLeave`. -/
def leave (guid : Guid) (i : InstanceId) : System :=
  { s with queue := s.queue.modifyInstance i (·.removePlayerAtLeave env.world guid) }

def step (s : System) (ee : Env × SystemEvent) : System :=
  match ee.2 with
  | .addGroup join => { s with queue := s.queue.addGroup ee.1 join }
  | .update bgTypeId b arenaType isRated arenaRating =>
    { s with queue := s.queue.battlegroundQueueUpdate ee.1 bgTypeId b arenaType isRated arenaRating }
  | .invite p i side => { s with queue := (s.queue.inviteGroupToBG ee.1 p i side).1 }
  | .accept guid => s.accept ee.1 guid
  | .arrive guid => s.arrive ee.1 guid
  | .decline guid => { s with queue := (s.queue.removePlayer ee.1 guid true).1 }
  | .leave guid i => s.leave ee.1 guid i

def has (guid : Guid) : Prop :=
  guid ∈ s.queue.queuedPlayers.keys ∨ guid ∈ s.coming.keys ∨
    ∃ i inst, s.queue.instances i = some inst ∧ guid ∈ inst.bg.roster.players.keys

/-- A new instance has a new id and, unless the queue is for arenas of any kind, the queue's type. -/
def NewInstance (queueType : BattlegroundTypeId)
    (new : Option (InstanceId × BattlegroundTypeId × Bg.Config)) : Prop :=
  ∀ i typeId config, new = some (i, typeId, config) →
    i ≠ 0 ∧ s.queue.instances i = none ∧ (queueType = .aa ∨ typeId = queueType)

/-- What the callers promise in a queue of one type: whoever joins holds no place in the queue or its
instances; a queued player is online when invitations are made; only a waiting group is invited,
on its own side or from the mixed list. -/
def Admissible (queueType : BattlegroundTypeId) (s : System) (ee : Env × SystemEvent) : Prop :=
  match ee.2 with
  | .addGroup join => join.leader ∈ join.guids ∧ join.bgTypeId = queueType ∧
      ∀ guid ∈ join.guids, ¬ s.has guid ∧ guid < maxPlayerGuid
  | .update .. => (∀ guid ∈ s.queue.queuedPlayers.keys, ee.1.online guid = true) ∧
      s.NewInstance queueType ee.1.newPremade ∧ s.NewInstance queueType ee.1.newMatch ∧
      ∀ x y, ee.1.newPremade = some x → ee.1.newMatch = some y → x.1 ≠ y.1
  | .invite p _ side => ∃ g, s.queue.groups p = some g ∧ g.isInvited = false ∧
      (∀ guid ∈ g.players.keys, ee.1.online guid = true) ∧
      ∀ t, side = some t → g.team = t ∨ ∃ b, p ∈ s.queue.queuedGroups b .mixed
  | _ => True

end System

/-! ## Invitations in the queue -/

section Counting

variable {st st' : State} {i : InstanceId} {t : Team}

variable {p : Ptr}

theorem holds_of_waiting (hinv : (st.group p).isInvited = false) (hi : i ≠ 0) : st.holds i t p = false := by
  have hzero : (st.group p).isInvitedToBGInstanceGUID = 0 := by
    simpa [GroupQueueInfo.isInvited] using hinv
  simp [State.holds, hzero, hi.symm]

theorem invitedCount_congr (hq : st'.queuedPlayers = st.queuedPlayers)
    (hholds : ∀ p, st'.holds i t p = st.holds i t p) : st'.invitedCount i t = st.invitedCount i t := by
  unfold State.invitedCount
  rw [hq]
  exact count_congr fun _ info _ => hholds info.groupInfo

variable {g : GroupQueueInfo}

theorem invite_holds {env : Env} {i' : InstanceId} {inst : Instance} (hg : st.groups p = some g) (q : Ptr) :
    (st.invite env p i' inst).holds i t q = if q = p then i' = i && g.team = t else st.holds i t q := by
  have hto := invite_invitedTo env st ⟨g, hg⟩ i' inst q
  have hteam := st.invite_field GroupQueueInfo.team (fun _ _ _ => rfl) env p i' inst q
  unfold invitedTo at hto
  unfold State.holds
  rw [hto, hteam]
  split
  · rename_i hq
    rw [hq, group_of_groups st hg]
  · rfl

theorem WF.invitedCount_invite (h : WF st) (env : Env)
    (i' : InstanceId) (inst : Instance) (hg : st.groups p = some g) (hinv : g.isInvited = false) (hi : i ≠ 0) :
    (st.invite env p i' inst).invitedCount i t =
      st.invitedCount i t + if i' = i ∧ g.team = t then g.players.keys.length else 0 := by
  have hbefore : st.holds i t p = false := holds_of_waiting (by rw [group_of_groups st hg]; exact hinv) hi
  have hqueued : (st.invite env p i' inst).queuedPlayers = st.queuedPlayers := by
    obtain ⟨rings, instances, heq⟩ := st.invite_cases env p i' inst
    rw [heq]
    rfl
  by_cases hc : i' = i ∧ g.team = t
  · rw [if_pos hc, State.invitedCount, State.invitedCount, hqueued, ← length_matching
      (fun _ (info : PlayerQueueInfo) => st.holds i t info.groupInfo), ← length_append]
    refine count_eq_length (nodup_append.2 ⟨nodup_matching _ _, g.players.keys_nodup, ?_⟩) fun guid => ?_
    · rintro x hx y hy rfl
      obtain ⟨info, hinfo, hholds⟩ := mem_matching.1 hx
      obtain ⟨info', hinfo', hptr⟩ := (h.link p g x hg).1 hy
      rw [hinfo] at hinfo'
      cases hinfo'
      rw [hptr, hbefore] at hholds
      cases hholds
    · rw [mem_append, mem_matching, h.link p g guid hg]
      simp only [invite_holds hg]
      constructor
      · rintro (⟨info, hinfo, hholds⟩ | ⟨info, hinfo, hptr⟩)
        · refine ⟨info, hinfo, ?_⟩
          rw [if_neg]
          · exact hholds
          · rintro hptr
            rw [hptr, hbefore] at hholds
            cases hholds
        · exact ⟨info, hinfo, by simp [hptr, hc]⟩
      · rintro ⟨info, hinfo, hholds⟩
        by_cases hptr : info.groupInfo = p
        · exact .inr ⟨info, hinfo, hptr⟩
        · exact .inl ⟨info, hinfo, by rwa [if_neg hptr] at hholds⟩
  · rw [if_neg hc]
    refine invitedCount_congr hqueued fun q => ?_
    rw [invite_holds hg]
    split
    · rename_i hq
      rw [hq, hbefore]
      simpa using hc
    · rfl

theorem WF.invitedCount_addGroup (h : WF st) (env : Env) (join : Join)
    (hout : ∀ guid ∈ join.guids, guid ∉ st.queuedPlayers.keys) (hi : i ≠ 0) :
    (st.addGroup env join).invitedCount i t = st.invitedCount i t := by
  obtain ⟨queued, players, heq, -, hqueued, -⟩ := addGroup_cases st env join
  have hnew : (st.addGroup env join).holds i t st.nextPtr = false := by
    refine holds_of_waiting ?_ hi
    rw [heq, group_of_groups _ (update_self ..)]
    rfl
  have hold : ∀ p, p ≠ st.nextPtr → (st.addGroup env join).holds i t p = st.holds i t p := by
    intro p hp
    unfold State.holds group
    rw [heq]
    simp only [update_of_ne hp]
  have hfind : (st.addGroup env join).queuedPlayers = queued := by rw [heq]
  unfold State.invitedCount
  rw [hfind, ← length_matching (fun _ (info : PlayerQueueInfo) => st.holds i t info.groupInfo)]
  refine count_eq_length (nodup_matching _ _) fun guid => ?_
  rw [mem_matching, hqueued]
  by_cases hguid : guid ∈ join.guids
  · rw [OrdMap.find?_eq_none.2 (hout guid hguid)]
    simp [hnew]
  · rw [if_neg hguid]
    refine exists_congr fun info => and_congr_right fun hinfo => ?_
    obtain ⟨g, hg⟩ := h.owner guid info hinfo
    rw [hold]
    intro hptr
    rw [hptr, h.fresh _ le_rfl] at hg
    cases hg

theorem Removes.holds_eq (h : WF st) {env : Env} {guid x : Guid}
    (hrem : Removes st st' env decrease guid p g) (hg : st.groups p = some g)
    {info : PlayerQueueInfo} (hx : st'.queuedPlayers.find? x = some info) :
    st.queuedPlayers.find? x = some info ∧
      st'.holds i t info.groupInfo = st.holds i t info.groupInfo := by
  rw [hrem.queued] at hx
  split at hx
  · cases hx
  · rename_i hstay
    refine ⟨hx, ?_⟩
    by_cases hptr : info.groupInfo = p
    · have hmem : x ∈ g.players.keys := (h.link p g x hg).2 ⟨info, hx, hptr⟩
      unfold State.holds
      rw [hptr, group_of_groups st' (hrem.kept ⟨x, hmem, hstay⟩), group_of_groups st hg]
    · unfold State.holds group
      rw [hrem.others _ hptr]

theorem Removes.invitedCount (h : WF st) {env : Env} {guid : Guid}
    {info : PlayerQueueInfo} (hfind : st.queuedPlayers.find? guid = some info)
    (hg : st.groups info.groupInfo = some g)
    (hrem : Removes st st' env decrease guid info.groupInfo g) (hi : i ≠ 0) :
    st.invitedCount i t = st'.invitedCount i t + if st.holds i t info.groupInfo then 1 else 0 := by
  have hleaves : ∀ x, g.leaves guid x → ∃ info', st.queuedPlayers.find? x = some info' ∧
      info'.groupInfo = info.groupInfo := by
    intro x hx
    unfold GroupQueueInfo.leaves at hx
    split at hx
    · exact (h.link _ g x hg).1 hx
    · exact ⟨info, hx ▸ hfind, rfl⟩
  by_cases hholds : st.holds i t info.groupInfo = true
  · -- an invited group loses one player
    have hinv : g.isInvited = true := by
      by_contra hinv
      rw [holds_of_waiting (by rw [group_of_groups st hg]; simpa using hinv) hi] at hholds
      cases hholds
    have halone : ∀ x, g.leaves guid x ↔ x = guid := by
      intro x
      simp [GroupQueueInfo.leaves, hinv]
    rw [if_pos hholds, State.invitedCount, State.invitedCount, ← length_matching
      (fun _ (info : PlayerQueueInfo) => st'.holds i t info.groupInfo), ← length_cons (a := guid)]
    refine count_eq_length (nodup_cons.2 ⟨fun hmem => ?_, nodup_matching _ _⟩) fun x => ?_
    · obtain ⟨info', hinfo', -⟩ := mem_matching.1 hmem
      rw [hrem.queued, if_pos ((halone guid).2 rfl)] at hinfo'
      cases hinfo'
    · rw [mem_cons, mem_matching]
      constructor
      · rintro (rfl | ⟨info', hinfo', hholds'⟩)
        · exact ⟨info, hfind, hholds⟩
        · obtain ⟨hold, heq⟩ := hrem.holds_eq h hg (i := i) (t := t) hinfo'
          exact ⟨info', hold, heq ▸ hholds'⟩
      · rintro ⟨info', hinfo', hholds'⟩
        by_cases hx : x = guid
        · exact .inl hx
        · have hstill : st'.queuedPlayers.find? x = some info' := by
            rw [hrem.queued, if_neg (fun h => hx ((halone x).1 h)), hinfo']
          obtain ⟨-, heq⟩ := hrem.holds_eq h hg (i := i) (t := t) hstill
          exact .inr ⟨info', hstill, heq.trans hholds'⟩
  · rw [if_neg hholds, State.invitedCount, State.invitedCount, ← length_matching
      (fun _ (info : PlayerQueueInfo) => st'.holds i t info.groupInfo)]
    refine count_eq_length (nodup_matching _ _) fun x => ?_
    rw [mem_matching]
    constructor
    · rintro ⟨info', hinfo', hholds'⟩
      obtain ⟨hold, heq⟩ := hrem.holds_eq h hg (i := i) (t := t) hinfo'
      exact ⟨info', hold, heq ▸ hholds'⟩
    · rintro ⟨info', hinfo', hholds'⟩
      have hstill : st'.queuedPlayers.find? x = some info' := by
        rw [hrem.queued, if_neg, hinfo']
        intro hx
        obtain ⟨info'', hinfo'', hptr⟩ := hleaves x hx
        rw [hinfo'] at hinfo''
        cases hinfo''
        rw [hptr] at hholds'
        exact hholds hholds'
      obtain ⟨-, heq⟩ := hrem.holds_eq h hg (i := i) (t := t) hstill
      exact ⟨info', hstill, heq.trans hholds'⟩

end Counting

/-! ## The invariant -/

/-- Everybody has one place, and whatever is pointed to is there. -/
structure Placed (queueType : BattlegroundTypeId) (s : System) : Prop where
  wf : WF s.queue
  typed : ∀ p g, s.queue.groups p = some g → g.bgTypeId = queueType
  hosted : ∀ i inst, s.queue.instances i = some inst → i ≠ 0 ∧ (queueType = .aa ∨ inst.typeId = queueType)
  invited : ∀ p g, s.queue.groups p = some g → g.isInvited = true →
    ∃ inst, s.queue.instances g.isInvitedToBGInstanceGUID = some inst
  coming : ∀ guid x, s.coming.find? guid = some x → ∃ inst, s.queue.instances x.1 = some inst
  apart : ∀ guid ∈ s.queue.queuedPlayers.keys, guid ∉ s.coming.keys
  outside : ∀ i inst guid, s.queue.instances i = some inst → guid ∈ inst.bg.roster.players.keys →
    guid ∉ s.queue.queuedPlayers.keys ∧ guid ∉ s.coming.keys
  bound : ∀ guid, s.has guid → guid < maxPlayerGuid
  team : ∀ i inst guid p, s.queue.instances i = some inst →
    inst.bg.roster.players.find? guid = some p → ∃ t : Team, p.team = t.id

structure Accounted (queueType : BattlegroundTypeId) (s : System) : Prop extends
    Placed queueType s where
  count : ∀ i inst, s.queue.instances i = some inst → ∀ t, inst.bg.invited.get t =
    s.queue.invitedCount i t + s.comingCount i t + inst.insideCount t

variable {queueType : BattlegroundTypeId} {s : System} {st' : State} {env : Env}

theorem Accounted.empty (queueType : BattlegroundTypeId) : Accounted queueType {} where
  wf := WF.empty
  typed := by simp
  hosted := by simp
  invited := by simp
  coming := by simp
  apart := by simp [OrdMap.keys, OrdMap.empty]
  outside := by simp
  bound := by simp [System.has, OrdMap.keys, OrdMap.empty]
  team := by simp
  count := by simp

variable {inst : Instance}

theorem Placed.seats_le (h : Placed queueType s)
    (hinst : s.queue.instances i = some inst) (t : Team) :
    s.queue.invitedCount i t + s.comingCount i t + inst.insideCount t ≤ maxPlayerGuid := by
  unfold State.invitedCount System.comingCount insideCount
  rw [← length_matching, ← length_matching, ← length_matching,
    ← length_append, ← length_append, ← length_range (n := maxPlayerGuid)]
  refine (subperm_of_subset ?_ fun guid hguid => mem_range.2 (h.bound guid ?_)).length_le
  · refine nodup_append.2 ⟨nodup_append.2 ⟨nodup_matching _ _, nodup_matching _ _, ?_⟩, nodup_matching _ _, ?_⟩
    · rintro x hx y hy rfl
      exact h.apart x (mem_keys_of_matching hx) (mem_keys_of_matching hy)
    · rintro x hx y hy rfl
      obtain ⟨hq, hc⟩ := h.outside i inst x hinst (mem_keys_of_matching hy)
      rcases mem_append.1 hx with hx | hx
      · exact hq (mem_keys_of_matching hx)
      · exact hc (mem_keys_of_matching hx)
  · rcases mem_append.1 hguid with hguid | hguid
    · rcases mem_append.1 hguid with hguid | hguid
      · exact .inl (mem_keys_of_matching hguid)
      · exact .inr (.inl (mem_keys_of_matching hguid))
    · exact .inr (.inr ⟨i, inst, hinst, mem_keys_of_matching hguid⟩)

/-! ## What matchmaking does -/

def SameHosts (st st' : State) : Prop :=
  ∀ i, (st'.instances i).map (fun inst => (inst.typeId, inst.bg.roster)) =
    (st.instances i).map fun inst => (inst.typeId, inst.bg.roster)

theorem SameHosts.symm {st st' : State} (h : SameHosts st st') : SameHosts st' st := fun i => (h i).symm

theorem SameHosts.find {st st' : State} (h : SameHosts st st') {inst' : Instance}
    (hinst' : st'.instances i = some inst') : ∃ inst, st.instances i = some inst ∧
      inst'.typeId = inst.typeId ∧ inst'.bg.roster = inst.bg.roster := by
  have hi := h i
  rw [hinst'] at hi
  cases hinst : st.instances i with
  | none => simp [hinst] at hi
  | some inst =>
    simp only [hinst, map_some, some.injEq, Prod.mk.injEq] at hi
    exact ⟨inst, rfl, hi⟩

theorem Placed.update (h : Placed queueType s) (hwf : WF st')
    (hq : ∀ guid ∈ st'.queuedPlayers.keys, guid ∈ s.queue.queuedPlayers.keys)
    (hosts : SameHosts s.queue st')
    (hgroups : ∀ p g', st'.groups p = some g' → ∃ g, s.queue.groups p = some g ∧
      g'.bgTypeId = g.bgTypeId ∧
      (g'.isInvitedToBGInstanceGUID = g.isInvitedToBGInstanceGUID ∨
        ∃ inst, s.queue.instances g'.isInvitedToBGInstanceGUID = some inst)) :
    Placed queueType { s with queue := st' } where
  wf := hwf
  typed p g' hg' := by
    obtain ⟨g, hg, htype, -⟩ := hgroups p g' hg'
    rw [htype]
    exact h.typed p g hg
  hosted i inst' hinst' := by
    obtain ⟨inst, hinst, htype, -⟩ := hosts.find hinst'
    rw [htype]
    exact h.hosted i inst hinst
  invited p g' hg' hinv := by
    obtain ⟨g, hg, -, hto⟩ := hgroups p g' hg'
    have hhost : ∃ inst, s.queue.instances g'.isInvitedToBGInstanceGUID = some inst := by
      rcases hto with hto | hto
      · rw [hto]
        refine h.invited p g hg ?_
        rwa [GroupQueueInfo.isInvited, ← hto]
      · exact hto
    obtain ⟨inst, hinst⟩ := hhost
    obtain ⟨inst', hinst', -⟩ := hosts.symm.find hinst
    exact ⟨inst', hinst'⟩
  coming guid x hx := by
    obtain ⟨inst, hinst⟩ := h.coming guid x hx
    obtain ⟨inst', hinst', -⟩ := hosts.symm.find hinst
    exact ⟨inst', hinst'⟩
  apart guid hguid := h.apart guid (hq guid hguid)
  outside i inst' guid hinst' hmem := by
    obtain ⟨inst, hinst, -, hroster⟩ := hosts.find hinst'
    rw [hroster] at hmem
    obtain ⟨hnq, hnc⟩ := h.outside i inst guid hinst hmem
    exact ⟨fun hguid => hnq (hq guid hguid), hnc⟩
  bound guid hguid := by
    refine h.bound guid ?_
    rcases hguid with hguid | hguid | ⟨i, inst', hinst', hmem⟩
    · exact .inl (hq guid hguid)
    · exact .inr (.inl hguid)
    · obtain ⟨inst, hinst, -, hroster⟩ := hosts.find hinst'
      rw [hroster] at hmem
      exact .inr (.inr ⟨i, inst, hinst, hmem⟩)
  team i inst' guid p hinst' hp := by
    obtain ⟨inst, hinst, -, hroster⟩ := hosts.find hinst'
    rw [hroster] at hp
    exact h.team i inst guid p hinst hp

theorem Accounted.quiet (h : Accounted queueType s) (hwf : WF st')
    (hq : st'.queuedPlayers = s.queue.queuedPlayers)
    (hosts : SameHosts s.queue st')
    (hcounts : ∀ i inst inst', s.queue.instances i = some inst → st'.instances i = some inst' →
      inst'.bg.invited = inst.bg.invited)
    (hgroups : ∀ p g', st'.groups p = some g' → ∃ g, s.queue.groups p = some g ∧
      g'.bgTypeId = g.bgTypeId ∧ g'.isInvitedToBGInstanceGUID = g.isInvitedToBGInstanceGUID ∧
      (g.isInvited = true → g'.team = g.team)) :
    Accounted queueType { s with queue := st' } where
  toPlaced := by
    refine h.toPlaced.update hwf (fun _ => hq ▸ id) hosts fun p g' hg' => ?_
    obtain ⟨g, hg, htype, hto, -⟩ := hgroups p g' hg'
    exact ⟨g, hg, htype, .inl hto⟩
  count i inst' hinst' t := by
    obtain ⟨inst, hinst, -, hroster⟩ := hosts.find hinst'
    have hinvited : st'.invitedCount i t = s.queue.invitedCount i t := by
      unfold State.invitedCount
      rw [hq]
      refine count_congr fun guid info hinfo => ?_
      obtain ⟨g', hg'⟩ := hwf.owner guid info (hq ▸ hinfo)
      obtain ⟨g, hg, -, hto, hteam⟩ := hgroups _ g' hg'
      unfold State.holds
      rw [group_of_groups st' hg', group_of_groups s.queue hg, hto]
      by_cases hinv : g.isInvited = true
      · rw [hteam hinv]
      · -- a waiting group holds nothing, whatever its team
        have hzero : g.isInvitedToBGInstanceGUID = 0 := by
          simpa [GroupQueueInfo.isInvited] using hinv
        simp [hzero, (h.hosted i inst hinst).1.symm]
    rw [hcounts i inst inst' hinst hinst', h.count i inst hinst t, hinvited, insideCount, insideCount, hroster]
    rfl

theorem incr32_iterate {n k : Nat} (h : k + n < 2 ^ 32) : incr32^[n] k = k + n := by
  induction n generalizing k with
  | zero => rfl
  | succ n ih =>
    rw [Function.iterate_succ_apply, incr32_of_lt (by omega), ih (by omega)]
    omega

theorem SameHosts.of_update {st st' : State} {inst' : Instance}
    (hinst : st.instances i = some inst) (hupdate : st'.instances = Function.update st.instances i (some inst'))
    (htype : inst'.typeId = inst.typeId) (hroster : inst'.bg.roster = inst.bg.roster) : SameHosts st st' := by
  intro j
  rw [hupdate, update_apply]
  split
  · rename_i hj
    subst hj
    simp [hinst, htype, hroster]
  · rfl

variable {p : Ptr} {g : GroupQueueInfo}

theorem Accounted.invite (h : Accounted queueType s) (env : Env) (hg : s.queue.groups p = some g)
    (hinv : g.isInvited = false) (hinst : s.queue.instances i = some inst)
    (honline : ∀ guid ∈ g.players.keys, env.online guid = true) :
    Accounted queueType { s with queue := s.queue.invite env p i inst } := by
  obtain ⟨rings, instances, heq⟩ := s.queue.invite_cases env p i inst
  obtain ⟨inst₁, hupdate, htype, hroster, hcount⟩ := invite_instance env p hinst
  have hwf : WF (s.queue.invite env p i inst) := h.wf.invite env p i inst
  have hosts : SameHosts s.queue (s.queue.invite env p i inst) := .of_update hinst hupdate htype hroster
  have hplaced : Placed queueType { s with queue := s.queue.invite env p i inst } := by
    refine h.toPlaced.update hwf (by rw [heq]; exact fun _ => id) hosts fun q g' hg' => ?_
    rw [heq] at hg'
    rw [modifyGroup_groups] at hg'
    split at hg'
    · rename_i hq
      subst hq
      obtain ⟨g₀, hg₀, rfl⟩ := map_eq_some_iff.1 hg'
      exact ⟨g₀, hg₀, rfl, .inr ⟨inst, hinst⟩⟩
    · exact ⟨g', hg', rfl, .inl rfl⟩
  refine ⟨hplaced, fun j inst' hinst' t => ?_⟩
  have hj := (hplaced.hosted j inst' hinst').1
  have hseats := hplaced.seats_le hinst' t
  have hinvited := h.wf.invitedCount_invite env i inst hg hinv hj (t := t)
  have hall : (g.players.keys.filter env.online).length = g.players.keys.length := by
    rw [filter_eq_self.2 honline]
  rw [hupdate, update_apply] at hinst'
  split at hinst'
  · rename_i hji
    subst hji
    cases hinst'
    have hold := h.count j inst hinst t
    have hinside : inst₁.insideCount t = inst.insideCount t := by
      rw [insideCount, insideCount, hroster]
    rw [group_of_groups _ hg] at hcount
    rw [hinvited, hinside] at hseats ⊢
    rw [hcount]
    by_cases ht : g.team = t
    · rw [if_pos ht, incr32_iterate]
      · rw [if_pos ⟨rfl, ht⟩]
        change _ = _ + _ + s.comingCount j t + _
        omega
      · rw [if_pos ⟨rfl, ht⟩] at hseats
        change _ + _ + s.comingCount j t + _ ≤ _ at hseats
        unfold maxPlayerGuid at hseats
        omega
    · rw [if_neg ht, if_neg (fun h => ht h.2), hold]
      rfl
  · rename_i hji
    rw [h.count j inst' hinst' t, hinvited, if_neg (fun h => hji h.1.symm)]
    rfl

theorem modifyGroup_eq_some {st : State} {q : Ptr} {f : GroupQueueInfo → GroupQueueInfo}
    {g' : GroupQueueInfo} (h : (st.modifyGroup p f).groups q = some g') :
    ∃ g, st.groups q = some g ∧ (g' = g ∨ q = p ∧ g' = f g) := by
  rw [modifyGroup_groups] at h
  split at h
  · rename_i hq
    subst hq
    obtain ⟨g, hg, rfl⟩ := map_eq_some_iff.1 h
    exact ⟨g, hg, .inr ⟨rfl, rfl⟩⟩
  · exact ⟨g', h, .inl rfl⟩

theorem team_quiet {st : State} (hg : st.groups p = some g)
    (hinv : g.isInvited = false) (t : Team) (q : Ptr) (g' : GroupQueueInfo)
    (hg' : (st.setTeam p t).groups q = some g') : ∃ g₀, st.groups q = some g₀ ∧
      g'.bgTypeId = g₀.bgTypeId ∧ g'.isInvitedToBGInstanceGUID = g₀.isInvitedToBGInstanceGUID ∧
      (g₀.isInvited = true → g'.team = g₀.team) := by
  obtain ⟨g₀, hg₀, rfl | ⟨rfl, rfl⟩⟩ := modifyGroup_eq_some hg'
  · exact ⟨g', hg₀, rfl, rfl, fun _ => rfl⟩
  · rw [hg] at hg₀
    cases hg₀
    refine ⟨g, hg, rfl, rfl, fun hinv' => ?_⟩
    rw [hinv] at hinv'
    cases hinv'

theorem Accounted.setTeam (h : Accounted queueType s) {b : BattlegroundBracketId}
    (hg : s.queue.groups p = some g) (hinv : g.isInvited = false)
    (hp : p ∈ s.queue.queuedGroups b .mixed) (t : Team) :
    Accounted queueType { s with queue := s.queue.setTeam p t } := by
  refine h.quiet (h.wf.modifyGroup p (fun _ => rfl) fun _ => .inr ⟨b, hp⟩) rfl (fun _ => rfl) ?_
    (team_quiet hg hinv t)
  intro i inst inst' hinst hinst'
  cases hinst.symm.trans hinst'
  rfl

theorem Accounted.move (h : Accounted queueType s) (hm : Move env s.queue st')
    (honline : ∀ guid ∈ s.queue.queuedPlayers.keys, env.online guid = true) :
    Accounted queueType { s with queue := st' } := by
  have hwf := hm.wf h.wf
  have hsame : ∀ i inst inst', s.queue.instances i = some inst → s.queue.instances i = some inst' →
      inst'.bg.invited = inst.bg.invited := by
    intro i inst inst' hinst hinst'
    cases hinst.symm.trans hinst'
    rfl
  cases hm with
  | pools pools => exact h.quiet hwf rfl (fun _ => rfl) hsame fun p g hg => ⟨g, hg, rfl, rfl, fun _ => rfl⟩
  | team t hg hinv hp => exact h.setTeam hg hinv hp t
  | opponents p opponent =>
    refine h.quiet hwf rfl (fun _ => rfl) hsame fun q g' hg' => ?_
    obtain ⟨g, hg, rfl | ⟨-, rfl⟩⟩ := modifyGroup_eq_some hg'
    · exact ⟨g', hg, rfl, rfl, fun _ => rfl⟩
    · exact ⟨g, hg, rfl, rfl, fun _ => rfl⟩
  | transfer hg hinv hp hne ht => exact h.quiet hwf rfl (fun _ => rfl) hsame (team_quiet hg hinv _)
  | @invite p g i inst hg hinv hinst hi =>
    refine h.invite env hg hinv hinst fun guid hguid => honline guid ?_
    obtain ⟨info, hinfo, -⟩ := (h.wf.link p g guid hg).1 hguid
    exact mem_keys.2 ⟨info, hinfo⟩
  | @touch i f hf =>
    refine h.quiet hwf rfl (fun j => ?_) (fun j inst inst' hinst hinst' => ?_) fun p g hg =>
      ⟨g, hg, rfl, rfl, fun _ => rfl⟩
    · rw [modifyInstance_apply]
      split
      · rename_i hj
        subst hj
        rw [Option.map_map]
        refine congrArg (Option.map · (s.queue.instances j)) (funext fun inst => ?_)
        exact Prod.ext (hf.typeId inst) (hf.roster inst)
      · rfl
    · rw [modifyInstance_apply] at hinst'
      split at hinst'
      · rename_i hj
        subst hj
        rw [hinst] at hinst'
        cases hinst'
        exact hf.invited inst
      · exact hsame j inst inst' hinst hinst'

theorem Move.frame {st st' : State} (hm : Move env st st') :
    st'.queuedPlayers = st.queuedPlayers ∧ ∀ i, st'.instances i = none ↔ st.instances i = none := by
  cases hm with
  | pools pools => exact ⟨rfl, fun _ => Iff.rfl⟩
  | team t hg hinv hp => exact ⟨rfl, fun _ => Iff.rfl⟩
  | opponents p opponent => exact ⟨rfl, fun _ => Iff.rfl⟩
  | transfer hg hinv hp hne ht => exact ⟨rfl, fun _ => Iff.rfl⟩
  | @invite p g i inst hg hinv hinst hi =>
    obtain ⟨rings, instances, heq⟩ := st.invite_cases env p i inst
    obtain ⟨inst', hupdate, -⟩ := invite_instance env p hinst
    refine ⟨by rw [heq]; rfl, fun j => ?_⟩
    rw [hupdate, update_apply]
    split
    · rename_i hj
      simp [hj, hinst]
    · rfl
  | @touch i f hf =>
    refine ⟨rfl, fun j => ?_⟩
    rw [modifyInstance_apply]
    split
    · rename_i hj
      simp [hj]
    · rfl

theorem Moves.frame {st st' : State} (hm : Moves env st st') :
    st'.queuedPlayers = st.queuedPlayers ∧ ∀ i, st'.instances i = none ↔ st.instances i = none := by
  induction hm with
  | refl => exact ⟨rfl, fun _ => Iff.rfl⟩
  | tail _ hstep ih => exact ⟨hstep.frame.1.trans ih.1, fun i => (hstep.frame.2 i).trans (ih.2 i)⟩

theorem Accounted.moves (h : Accounted queueType s) (hm : Moves env s.queue st')
    (honline : ∀ guid ∈ s.queue.queuedPlayers.keys, env.online guid = true) :
    Accounted queueType { s with queue := st' } := by
  induction hm with
  | refl => exact h
  | tail hpre hstep ih =>
    have hlast := ih.move hstep (by rw [(Moves.frame hpre).1]; exact honline)
    exact hlast

theorem Placed.counts_fresh (h : Placed queueType s) (hi : i ≠ 0)
    (hnone : s.queue.instances i = none) (t : Team) : s.queue.invitedCount i t = 0 ∧ s.comingCount i t = 0 := by
  unfold State.invitedCount System.comingCount
  rw [← length_matching, ← length_matching, length_eq_zero_iff,
    length_eq_zero_iff, eq_nil_iff_forall_not_mem, eq_nil_iff_forall_not_mem]
  refine ⟨fun guid hguid => ?_, fun guid hguid => ?_⟩
  · obtain ⟨info, hinfo, hholds⟩ := mem_matching.1 hguid
    obtain ⟨g, hg⟩ := h.wf.owner guid info hinfo
    simp only [State.holds, group_of_groups _ hg, Bool.and_eq_true, decide_eq_true_eq] at hholds
    obtain ⟨inst, hinst⟩ := h.invited _ g hg (by simp [GroupQueueInfo.isInvited, hholds.1, hi])
    rw [hholds.1, hnone] at hinst
    cases hinst
  · obtain ⟨x, hx, hto⟩ := mem_matching.1 hguid
    simp only [Bool.and_eq_true, decide_eq_true_eq] at hto
    obtain ⟨inst, hinst⟩ := h.coming guid x hx
    rw [hto.1, hnone] at hinst
    cases hinst

variable {new : Option (InstanceId × BattlegroundTypeId × Bg.Config)}

theorem Accounted.created (h : Accounted queueType s)
    (hc : Created env new s.queue st') (hnew : s.NewInstance queueType new) :
    Accounted queueType { s with queue := st' } := by
  have hwf := hc.wf h.wf
  cases hc with
  | skip => exact h
  | @create i typeId config b arenaType isRated hsome =>
    obtain ⟨hi, hnone, htype⟩ := hnew i typeId config hsome
    obtain ⟨inst₀, hupdate, htype₀, hroster₀, hinv₀⟩ : ∃ inst₀,
        (s.queue.createNewBattleground env i typeId config b arenaType isRated).instances =
          Function.update s.queue.instances i (some inst₀) ∧ inst₀.typeId = typeId ∧
        inst₀.bg.roster = {} ∧ inst₀.bg.invited = ⟨0, 0⟩ := ⟨_, rfl, rfl, rfl, rfl⟩
    have hempty : inst₀.bg.roster.players.keys = [] := by
      rw [hroster₀]
      rfl
    -- an instance is the new one, or one that was there
    have hcases : ∀ j inst, (s.queue.createNewBattleground env i typeId config b arenaType
        isRated).instances j = some inst →
        (j = i ∧ inst = inst₀) ∨ (j ≠ i ∧ s.queue.instances j = some inst) := by
      intro j inst hinst
      rw [hupdate, update_apply] at hinst
      split at hinst
      · rename_i hj
        exact .inl ⟨hj, (some.inj hinst).symm⟩
      · rename_i hj
        exact .inr ⟨hj, hinst⟩
    have hkeep : ∀ j, (∃ inst, s.queue.instances j = some inst) → ∃ inst,
        (s.queue.createNewBattleground env i typeId config b arenaType isRated).instances j =
          some inst := by
      rintro j ⟨inst, hinst⟩
      rw [hupdate, update_apply]
      split
      · exact ⟨inst₀, rfl⟩
      · exact ⟨inst, hinst⟩
    refine ⟨⟨hwf, h.typed, fun j inst hinst => ?_, fun p g hg hinv => hkeep _ (h.invited p g hg hinv),
      fun guid x hx => hkeep _ (h.coming guid x hx), h.apart, fun j inst guid hinst hmem => ?_,
      fun guid hguid => h.bound guid ?_, fun j inst guid p hinst hp => ?_⟩,
      fun j inst hinst t => ?_⟩
    · rcases hcases j inst hinst with ⟨rfl, rfl⟩ | ⟨-, hold⟩
      · exact ⟨hi, htype₀.symm ▸ htype⟩
      · exact h.hosted j inst hold
    · rcases hcases j inst hinst with ⟨rfl, rfl⟩ | ⟨-, hold⟩
      · rw [hempty] at hmem
        cases hmem
      · exact h.outside j inst guid hold hmem
    · rcases hguid with hguid | hguid | ⟨j, inst, hinst, hmem⟩
      · exact .inl hguid
      · exact .inr (.inl hguid)
      · rcases hcases j inst hinst with ⟨rfl, rfl⟩ | ⟨-, hold⟩
        · rw [hempty] at hmem
          cases hmem
        · exact .inr (.inr ⟨j, inst, hold, hmem⟩)
    · rcases hcases j inst hinst with ⟨rfl, rfl⟩ | ⟨-, hold⟩
      · rw [hroster₀] at hp
        cases hp
      · exact h.team j inst guid p hold hp
    · rcases hcases j inst hinst with ⟨rfl, rfl⟩ | ⟨-, hold⟩
      · obtain ⟨hinvited, hcoming⟩ := h.counts_fresh hi hnone t
        have hinside : inst.insideCount t = 0 := by
          rw [insideCount, hroster₀]
          rfl
        rw [hinv₀, PerTeam.get_const, hinside]
        exact (congrArg₂ (· + ·) hinvited hcoming).symm
      · exact h.count j inst hold t

theorem System.NewInstance.of_moves
    (h : s.NewInstance queueType new)
    (hm : Moves env s.queue st') :
    System.NewInstance { s with queue := st' } queueType new := by
  intro i typeId config hsome
  obtain ⟨hi, hnone, htype⟩ := h i typeId config hsome
  exact ⟨hi, ((Moves.frame hm).2 i).2 hnone, htype⟩

theorem Created.frame {st st' : State} (hc : Created env new st st') : st'.queuedPlayers = st.queuedPlayers ∧
      ∀ i, (∀ x, new = some x → x.1 ≠ i) → st'.instances i = st.instances i := by
  cases hc with
  | skip => exact ⟨rfl, fun _ _ => rfl⟩
  | create b arenaType isRated hsome => exact ⟨rfl, fun i hi => update_of_ne (hi _ hsome).symm ..⟩

theorem Accounted.createsAmid (h : Accounted queueType s)
    (hc : CreatesAmid env new s.queue st') (hnew : s.NewInstance queueType new)
    (honline : ∀ guid ∈ s.queue.queuedPlayers.keys, env.online guid = true) :
    Accounted queueType { s with queue := st' } ∧ st'.queuedPlayers = s.queue.queuedPlayers ∧
      ∀ i, (∀ x, new = some x → x.1 ≠ i) → s.queue.instances i = none → st'.instances i = none := by
  obtain ⟨s₁, s₂, hm₁, hc, hm₂⟩ := hc
  have hq₁ := (Moves.frame hm₁).1
  have hq₂ := hc.frame.1.trans hq₁
  have h₁ := h.moves hm₁ honline
  have h₂ := Accounted.created h₁ hc (hnew.of_moves hm₁)
  have h₃ := h₂.moves hm₂ (by rw [hq₂]; exact honline)
  refine ⟨h₃, (Moves.frame hm₂).1.trans hq₂, fun i hi hnone => ?_⟩
  rw [(Moves.frame hm₂).2, hc.frame.2 i hi, (Moves.frame hm₁).2]
  exact hnone

theorem Accounted.battlegroundQueueUpdate (h : Accounted queueType s)
    (bgTypeId : BattlegroundTypeId) (b : BattlegroundBracketId) (arenaType : Nat) (isRated : Bool)
    (arenaRating : Nat)
    (hadm : s.Admissible queueType (env, .update bgTypeId b arenaType isRated arenaRating)) :
    Accounted queueType { s with queue :=
      s.queue.battlegroundQueueUpdate env bgTypeId b arenaType isRated arenaRating } := by
  obtain ⟨honline, hpremade, hmatch, hdiff⟩ := hadm
  obtain ⟨s₁, hc₁, hc₂⟩ := update_refines env b h.wf.toLists bgTypeId arenaType isRated arenaRating
  obtain ⟨h₁, hq₁, hnone₁⟩ := h.createsAmid hc₁ hpremade honline
  refine (Accounted.createsAmid h₁ hc₂ (fun i typeId config hsome => ?_) ?_).1
  · obtain ⟨hi, hnone, htype⟩ := hmatch i typeId config hsome
    exact ⟨hi, hnone₁ i (fun x hx => hdiff x _ hx hsome) hnone, htype⟩
  · dsimp only
    rw [hq₁]
    exact honline

/-! ## Joining -/

theorem Accounted.addGroup (h : Accounted queueType s) (join : Join)
    (hadm : s.Admissible queueType (env, .addGroup join)) :
    Accounted queueType { s with queue := s.queue.addGroup env join } := by
  obtain ⟨hleader, htype, hnew⟩ := hadm
  have hout : ∀ guid ∈ join.guids, guid ∉ s.queue.queuedPlayers.keys :=
    fun guid hguid hmem => (hnew guid hguid).1 (.inl hmem)
  have hwf := h.wf.addGroup env (ne_nil_of_mem hleader) hout
  obtain ⟨queued, players, heq, -, hqueued, -⟩ := addGroup_cases s.queue env join
  have hkeys : ∀ guid, guid ∈ queued.keys ↔ guid ∈ join.guids ∨ guid ∈ s.queue.queuedPlayers.keys := by
    intro guid
    rw [OrdMap.mem_keys, OrdMap.mem_keys, hqueued]
    by_cases hguid : guid ∈ join.guids
    · simp [hguid]
    · simp [hguid]
  rw [heq] at hwf ⊢
  have hgroups : ∀ p g, Function.update s.queue.groups s.queue.nextPtr
      (some { join.newGroup env.msTime with players := players }) p = some g →
      (p = s.queue.nextPtr ∧ g = { join.newGroup env.msTime with players := players }) ∨
        s.queue.groups p = some g := by
    intro p g hg
    rw [update_apply] at hg
    split at hg
    · rename_i hp
      exact .inl ⟨hp, (some.inj hg).symm⟩
    · exact .inr hg
  refine ⟨⟨hwf, fun p g hg => ?_, h.hosted, fun p g hg hinv => ?_, h.coming, fun guid hguid => ?_,
    fun i inst guid hinst hmem => ?_, fun guid hguid => ?_, h.team⟩, fun i inst hinst t => ?_⟩
  · rcases hgroups p g hg with ⟨-, rfl⟩ | hold
    · exact htype
    · exact h.typed p g hold
  · rcases hgroups p g hg with ⟨-, rfl⟩ | hold
    · cases hinv
    · exact h.invited p g hold hinv
  · rcases (hkeys guid).1 hguid with hguid | hguid
    · exact fun hmem => (hnew guid hguid).1 (.inr (.inl hmem))
    · exact h.apart guid hguid
  · obtain ⟨hq, hc⟩ := h.outside i inst guid hinst hmem
    refine ⟨fun hguid => ?_, hc⟩
    rcases (hkeys guid).1 hguid with hguid | hguid
    · exact (hnew guid hguid).1 (.inr (.inr ⟨i, inst, hinst, hmem⟩))
    · exact hq hguid
  · rcases hguid with hguid | hguid
    · rcases (hkeys guid).1 hguid with hguid | hguid
      · exact (hnew guid hguid).2
      · exact h.bound guid (.inl hguid)
    · exact h.bound guid (.inr hguid)
  · have hinvited := h.wf.invitedCount_addGroup env join hout (h.hosted i inst hinst).1 (t := t)
    rw [heq] at hinvited
    rw [h.count i inst hinst t, hinvited]
    rfl

/-! ## Leaving the queue -/

variable {guid : Guid}

theorem Removes.placed (h : Placed queueType s) (hg : s.queue.groups p = some g)
    (hrem : Removes s.queue st' env decrease guid p g) (hosts : SameHosts s.queue st') :
    Placed queueType { s with queue := st' } := by
  refine h.update hrem.wf (fun x hx => ?_) hosts fun q g' hg' => ?_
  · obtain ⟨info, hinfo⟩ := mem_keys.1 hx
    exact mem_keys.2 ⟨info, (hrem.holds_eq h.wf hg (i := 0) (t := .alliance) hinfo).1⟩
  · by_cases hq : q = p
    · subst hq
      by_cases hstay : ∃ x ∈ g.players.keys, ¬ g.leaves guid x
      · rw [hrem.kept hstay] at hg'
        cases hg'
        exact ⟨g, hg, rfl, .inl rfl⟩
      · push Not at hstay
        rw [hrem.freed hstay] at hg'
        cases hg'
    · rw [hrem.others q hq] at hg'
      exact ⟨g', hg', rfl, .inl rfl⟩

theorem Placed.instancesAfter_invited (h : Placed queueType s)
    (hg : s.queue.groups p = some g) (hinv : g.isInvited = true) (env : Env) :
    ∃ inst inst', s.queue.instances g.isInvitedToBGInstanceGUID = some inst ∧
      s.queue.instancesAfter env true g =
        Function.update s.queue.instances g.isInvitedToBGInstanceGUID (some inst') ∧
      inst'.typeId = inst.typeId ∧ inst'.bg.roster = inst.bg.roster ∧
      inst'.bg.invited = inst.bg.invited.set g.team (decr32 (inst.bg.invited.get g.team)) := by
  obtain ⟨inst, hinst⟩ := h.invited p g hg hinv
  obtain ⟨hi, htype⟩ := h.hosted _ inst hinst
  have hfound : (s.queue.getBattleground g.isInvitedToBGInstanceGUID
      (if g.bgTypeId = .aa then .typeNone else g.bgTypeId)).isSome = true := by
    rw [h.typed p g hg, getBattleground, if_neg hi, hinst]
    rcases htype with rfl | htype
    · simp
    · rw [← htype]
      split
      · simp
      · simp
  refine ⟨inst, { inst with
      bg := { inst.bg with world := env.world }.decreaseInvitedCount g.team.id }, hinst, ?_, rfl,
    ?_, ?_⟩
  · rw [instancesAfter, hinv, decreaseInvitedCount]
    rw [hfound]
    exact modifyInstance_instances s.queue hinst _
  · exact Bg.Battleground.decreaseInvitedCount_roster _ _
  · simp [Bg.Battleground.decreaseInvitedCount, Bg.Battleground.decrInvited]

theorem Accounted.decline (h : Accounted queueType s) (env : Env) (guid : Guid) :
    Accounted queueType { s with queue := (s.queue.removePlayer env guid true).1 } := by
  cases hfind : s.queue.queuedPlayers.find? guid with
  | none =>
    rw [removePlayer_notFound hfind]
    exact h
  | some info =>
    obtain ⟨g, hg⟩ := h.wf.owner guid info hfind
    obtain ⟨st', heq, hrem⟩ := removePlayer_removes h.wf hfind hg env true
    rw [heq]
    have hholds : ∀ i t, s.queue.holds i t info.groupInfo =
        (decide (g.isInvitedToBGInstanceGUID = i) && decide (g.team = t)) := by
      intro i t
      rw [State.holds, group_of_groups s.queue hg]
    by_cases hinv : g.isInvited = true
    · obtain ⟨inst, inst', hinst, hafter, htype, hroster, hinvited⟩ :=
        h.instancesAfter_invited hg hinv env
      have hupdate := hrem.instances.trans hafter
      refine ⟨hrem.placed h.toPlaced hg (.of_update hinst hupdate htype hroster), fun j inst₁ hinst₁ t => ?_⟩
      rw [hupdate, update_apply] at hinst₁
      split at hinst₁
      · rename_i hj
        subst hj
        cases hinst₁
        have hcount := h.count _ inst hinst t
        have hseats := h.seats_le hinst t
        have hgone := hrem.invitedCount h.wf hfind hg (h.hosted _ inst hinst).1 (t := t)
        have hinside : inst'.insideCount t = inst.insideCount t := by
          rw [insideCount, insideCount, hroster]
        rw [hholds] at hgone
        change _ = st'.invitedCount _ t + s.comingCount _ t + _
        rw [hinvited, PerTeam.get_set]
        split
        · rename_i ht
          subst ht
          simp only [decide_true, Bool.and_self, if_true] at hgone
          unfold maxPlayerGuid at hseats
          rw [decr32_of_pos (by omega) (by omega)]
          omega
        · rename_i ht
          simp only [ht, decide_false, Bool.and_false, Bool.false_eq_true, if_false] at hgone
          omega
      · rename_i hj
        have hgone := hrem.invitedCount h.wf hfind hg (h.hosted j inst₁ hinst₁).1 (t := t)
        rw [hholds] at hgone
        simp only [Ne.symm hj, decide_false, Bool.false_and, Bool.false_eq_true, if_false, add_zero] at hgone
        rw [h.count j inst₁ hinst₁ t, hgone]
        rfl
    · have hzero : g.isInvitedToBGInstanceGUID = 0 := by simpa [GroupQueueInfo.isInvited] using hinv
      have hsame : st'.instances = s.queue.instances := by
        rw [hrem.instances, instancesAfter]
        simp [hinv]
      refine ⟨hrem.placed h.toPlaced hg fun j => by rw [hsame], fun j inst hinst t => ?_⟩
      rw [hsame] at hinst
      have hj := (h.hosted j inst hinst).1
      have hgone := hrem.invitedCount h.wf hfind hg hj (t := t)
      rw [hholds, hzero] at hgone
      simp only [hj.symm, decide_false, Bool.false_and, Bool.false_eq_true, if_false, add_zero] at hgone
      rw [h.count j inst hinst t, hgone]
      rfl

theorem Accounted.accept (h : Accounted queueType s) (env : Env) (guid : Guid) :
    Accounted queueType (s.accept env guid) := by
  have hdata : s.queue.getPlayerGroupInfoData env guid =
      (s.queue.queuedPlayers.find? guid).map fun info => s.queue.group info.groupInfo := by
    rw [getPlayerGroupInfoData, h.wf.unchallenged]
  unfold System.accept
  rw [hdata]
  cases hfind : s.queue.queuedPlayers.find? guid with
  | none => exact h
  | some info =>
    obtain ⟨g, hg⟩ := h.wf.owner guid info hfind
    rw [map_some, group_of_groups s.queue hg]
    dsimp only
    split
    · rename_i hinv
      obtain ⟨st', heq, hrem⟩ := removePlayer_removes h.wf hfind hg env false
      rw [heq]
      have hsame : st'.instances = s.queue.instances := by
        rw [hrem.instances]
        rfl
      have hplaced := hrem.placed h.toPlaced hg fun j => by rw [hsame]
      have hmem : guid ∈ s.queue.queuedPlayers.keys := mem_keys.2 ⟨info, hfind⟩
      have hfree : s.coming.find? guid = none := OrdMap.find?_eq_none.2 (h.apart guid hmem)
      have hgone : guid ∉ st'.queuedPlayers.keys := by
        rw [← OrdMap.find?_eq_none, hrem.queued]
        simp [GroupQueueInfo.leaves, hinv]
      refine ⟨⟨hrem.wf, hplaced.typed, hplaced.hosted, hplaced.invited, fun x y hy => ?_,
        fun x hx hc => ?_, fun i inst x hinst hx => ?_, fun x hx => ?_, hplaced.team⟩,
        fun i inst hinst t => ?_⟩
      · rw [find?_insert] at hy
        split at hy
        · cases hy
          rw [hsame]
          exact h.invited _ g hg hinv
        · exact hplaced.coming x y hy
      · rcases mem_keys_insert.1 hc with rfl | hc
        · exact hgone hx
        · exact hplaced.apart x hx hc
      · obtain ⟨hnq, hnc⟩ := hplaced.outside i inst x hinst hx
        refine ⟨hnq, fun hc => ?_⟩
        rcases mem_keys_insert.1 hc with rfl | hc
        · dsimp only at hinst
          rw [hsame] at hinst
          exact (h.outside i inst _ hinst hx).1 hmem
        · exact hnc hc
      · rcases hx with hx | hx | hx
        · exact hplaced.bound x (.inl hx)
        · rcases mem_keys_insert.1 hx with rfl | hx
          · exact h.bound _ (.inl hmem)
          · exact hplaced.bound x (.inr (.inl hx))
        · exact hplaced.bound x (.inr (.inr hx))
      · dsimp only at hinst
        rw [hsame] at hinst
        have hcount := hrem.invitedCount h.wf hfind hg (h.hosted i inst hinst).1 (t := t)
        rw [State.holds, group_of_groups s.queue hg] at hcount
        have hcoming := count_insert_new (v := (g.isInvitedToBGInstanceGUID, g.team))
          (fun _ x => decide (x.1 = i) && decide (x.2 = t)) hfree
        have hold := h.count i inst hinst t
        unfold System.comingCount at hold ⊢
        dsimp only at hcoming ⊢
        omega
    · exact h

/-! ## Inside -/

theorem Accounted.changeHost (h : Accounted queueType s) {inst₁ : Instance}
    {coming : OrdMap Guid (InstanceId × Team)} (hinst : s.queue.instances i = some inst)
    (htype : inst₁.typeId = inst.typeId)
    (hupdate : st' = { s.queue with instances := Function.update s.queue.instances i (some inst₁) })
    (hcoming : ∀ guid x, coming.find? guid = some x → s.coming.find? guid = some x)
    (hplayers : ∀ guid p, inst₁.bg.roster.players.find? guid = some p →
      inst.bg.roster.players.find? guid = some p ∨
        guid ∈ s.coming.keys ∧ guid ∉ coming.keys ∧ ∃ t : Team, p.team = t.id)
    (hothers : ∀ j, j ≠ i → ∀ t, System.comingCount ⟨st', coming⟩ j t = s.comingCount j t)
    (hcount : ∀ t, inst₁.bg.invited.get t = s.queue.invitedCount i t +
      System.comingCount ⟨st', coming⟩ i t + inst₁.insideCount t) :
    Accounted queueType ⟨st', coming⟩ := by
  subst hupdate
  have hcases : ∀ j inst', Function.update s.queue.instances i (some inst₁) j = some inst' →
      (j = i ∧ inst' = inst₁) ∨ (j ≠ i ∧ s.queue.instances j = some inst') := by
    intro j inst' hinst'
    rw [update_apply] at hinst'
    split at hinst'
    · rename_i hj
      exact .inl ⟨hj, (some.inj hinst').symm⟩
    · rename_i hj
      exact .inr ⟨hj, hinst'⟩
  have hkeep : ∀ j, (∃ inst, s.queue.instances j = some inst) →
      ∃ inst, Function.update s.queue.instances i (some inst₁) j = some inst := by
    rintro j ⟨inst', hinst'⟩
    rw [update_apply]
    split
    · exact ⟨inst₁, rfl⟩
    · exact ⟨inst', hinst'⟩
  have hkeys : ∀ guid ∈ coming.keys, guid ∈ s.coming.keys := by
    intro guid hguid
    obtain ⟨x, hx⟩ := mem_keys.1 hguid
    exact mem_keys.2 ⟨x, hcoming guid x hx⟩
  refine ⟨⟨h.wf.of_sameQueue ⟨rfl, rfl, rfl, rfl, fun _ => rfl⟩ h.wf.side, h.typed,
    fun j inst' hinst' => ?_, fun p g hg hinv => hkeep _ (h.invited p g hg hinv),
    fun guid x hx => hkeep _ (h.coming guid x (hcoming guid x hx)),
    fun guid hguid hc => h.apart guid hguid (hkeys guid hc),
    fun j inst' guid hinst' hmem => ?_, fun guid hguid => ?_, fun j inst' guid p hinst' hp => ?_⟩,
    fun j inst' hinst' t => ?_⟩
  · rcases hcases j inst' hinst' with ⟨rfl, rfl⟩ | ⟨-, hold⟩
    · rw [htype]
      exact h.hosted j inst hinst
    · exact h.hosted j inst' hold
  · rcases hcases j inst' hinst' with ⟨rfl, rfl⟩ | ⟨-, hold⟩
    · obtain ⟨p, hp⟩ := mem_keys.1 hmem
      rcases hplayers guid p hp with hp | ⟨hc, hnc, -⟩
      · obtain ⟨hnq, hnc⟩ := h.outside j inst guid hinst (mem_keys.2 ⟨p, hp⟩)
        exact ⟨hnq, fun hc => hnc (hkeys guid hc)⟩
      · exact ⟨fun hq => h.apart guid hq hc, hnc⟩
    · obtain ⟨hnq, hnc⟩ := h.outside j inst' guid hold hmem
      exact ⟨hnq, fun hc => hnc (hkeys guid hc)⟩
  · rcases hguid with hguid | hguid | ⟨j, inst', hinst', hmem⟩
    · exact h.bound guid (.inl hguid)
    · exact h.bound guid (.inr (.inl (hkeys guid hguid)))
    · rcases hcases j inst' hinst' with ⟨rfl, rfl⟩ | ⟨-, hold⟩
      · obtain ⟨p, hp⟩ := mem_keys.1 hmem
        rcases hplayers guid p hp with hp | ⟨hc, -⟩
        · exact h.bound guid (.inr (.inr ⟨j, inst, hinst, mem_keys.2 ⟨p, hp⟩⟩))
        · exact h.bound guid (.inr (.inl hc))
      · exact h.bound guid (.inr (.inr ⟨j, inst', hold, hmem⟩))
  · rcases hcases j inst' hinst' with ⟨rfl, rfl⟩ | ⟨-, hold⟩
    · rcases hplayers guid p hp with hp | ⟨-, -, hteam⟩
      · exact h.team j inst guid p hinst hp
      · exact hteam
    · exact h.team j inst' guid p hold hp
  · rcases hcases j inst' hinst' with ⟨rfl, rfl⟩ | ⟨hj, hold⟩
    · exact hcount t
    · rw [hothers j hj, h.count j inst' hold t]
      rfl

theorem Accounted.arrive (h : Accounted queueType s) (env : Env) (guid : Guid) :
    Accounted queueType (s.arrive env guid) := by
  unfold System.arrive
  cases hfind : s.coming.find? guid with
  | none => exact h
  | some x =>
    obtain ⟨i, t₀⟩ := x
    obtain ⟨inst, hinst⟩ := h.coming guid (i, t₀) hfind
    have hmem : guid ∈ s.coming.keys := mem_keys.2 ⟨_, hfind⟩
    have hplayers : (inst.addPlayer env.world guid t₀).bg.roster.players =
        inst.bg.roster.players.insert guid { offlineRemoveTime := 0, team := t₀.id } := by
      simp [Instance.addPlayer, Bg.Battleground.addPlayer, Bg.Roster.add]
    have hnew : inst.bg.roster.players.find? guid = none :=
      OrdMap.find?_eq_none.2 fun hin => (h.outside i inst guid hinst hin).2 hmem
    have hcoming : ∀ j t, s.comingCount j t = (s.coming.erase guid).count (fun _ x =>
        decide (x.1 = j) && decide (x.2 = t)) + if i = j ∧ t₀ = t then 1 else 0 := by
      intro j t
      rw [System.comingCount, count_erase _ hfind]
      simp
    refine h.changeHost hinst (show (inst.addPlayer env.world guid t₀).typeId = inst.typeId from rfl)
      ?_ ?_ ?_ ?_ ?_
    · simp [modifyInstance, hinst]
    · intro x y hy
      rw [find?_erase] at hy
      split at hy
      · cases hy
      · exact hy
    · intro x p hp
      rw [hplayers, find?_insert] at hp
      split at hp
      · rename_i hx
        cases hp
        subst hx
        exact .inr ⟨hmem, by simp [mem_keys_erase], t₀, rfl⟩
      · exact .inl hp
    · intro j hj t
      rw [hcoming, if_neg (fun hc => hj hc.1.symm)]
      rfl
    · intro t
      have hold := h.count i inst hinst t
      rw [hcoming] at hold
      have hsame : (inst.addPlayer env.world guid t₀).bg.invited = inst.bg.invited := rfl
      rw [hsame, hold, insideCount, insideCount, hplayers, count_insert_new _ hnew, System.comingCount]
      by_cases ht : t₀ = t
      · simp [ht]
        omega
      · simp [ht]

theorem Instance.removePlayerAtLeave_outside (inst : Instance) (world : Bg.World)
    (h : inst.bg.roster.players.find? guid = none) :
    (inst.removePlayerAtLeave world guid).bg.roster = inst.bg.roster ∧
      (inst.removePlayerAtLeave world guid).bg.invited = inst.bg.invited := by
  unfold removePlayerAtLeave
  rw [Bg.Battleground.removePlayerAtLeave_roster, Bg.Battleground.removePlayerAtLeave_invited]
  simp [Bg.Roster.remove, OrdMap.contains, h]

theorem Instance.removePlayerAtLeave_inside (inst : Instance) (world : Bg.World)
    {p : Bg.BattlegroundPlayer} {t : Team} (h : inst.bg.roster.players.find? guid = some p)
    (ht : p.team = t.id) :
    (inst.removePlayerAtLeave world guid).bg.roster.players = inst.bg.roster.players.erase guid ∧
      (inst.removePlayerAtLeave world guid).bg.invited =
        inst.bg.invited.set t (decr32 (inst.bg.invited.get t)) := by
  have hteam : { inst.bg with world := world }.leaverTeam guid = t.id := by
    simp [Bg.Battleground.leaverTeam, Bg.Battleground.getPlayerTeam, h, ht]
  unfold removePlayerAtLeave
  rw [Bg.Battleground.removePlayerAtLeave_roster, Bg.Battleground.removePlayerAtLeave_invited, hteam]
  simp [Bg.Roster.remove, OrdMap.contains, h]

theorem Accounted.leave (h : Accounted queueType s) (env : Env) (guid : Guid) (i : InstanceId) :
    Accounted queueType (s.leave env guid i) := by
  unfold System.leave
  cases hinst : s.queue.instances i with
  | none =>
    have hsame : s.queue.modifyInstance i (·.removePlayerAtLeave env.world guid) = s.queue := by
      have hupdate : Function.update s.queue.instances i none = s.queue.instances := by
        rw [← hinst, update_eq_self]
      simp [modifyInstance, hinst, hupdate]
    rw [hsame]
    exact h
  | some inst =>
    have hmodify : s.queue.modifyInstance i (·.removePlayerAtLeave env.world guid) =
        { s.queue with
          instances := Function.update s.queue.instances i
            (some (inst.removePlayerAtLeave env.world guid)) } := by
      simp [modifyInstance, hinst]
    have htype : (inst.removePlayerAtLeave env.world guid).typeId = inst.typeId := rfl
    have hcount := h.count i inst hinst
    cases hp : inst.bg.roster.players.find? guid with
    | none =>
      obtain ⟨hroster, hinvited⟩ := inst.removePlayerAtLeave_outside env.world hp
      refine h.changeHost hinst htype hmodify (fun _ _ => id) (fun x p hx => ?_) (fun _ _ _ => rfl) fun t => ?_
      · exact .inl (hroster ▸ hx)
      · rw [hinvited, insideCount, hroster]
        exact hcount t
    | some p =>
      obtain ⟨t₀, ht₀⟩ := h.team i inst guid p hinst hp
      obtain ⟨hplayers, hinvited⟩ := inst.removePlayerAtLeave_inside env.world hp ht₀
      refine h.changeHost hinst htype hmodify (fun _ _ => id) (fun x p hx => ?_) (fun _ _ _ => rfl) fun t => ?_
      · rw [hplayers, find?_erase] at hx
        split at hx
        · cases hx
        · exact .inl hx
      · have hseats := h.seats_le hinst t
        have hgone := count_erase (fun _ (p : Bg.BattlegroundPlayer) => decide (p.team = t.id)) hp
        have hcount := hcount t
        unfold insideCount at hcount hseats ⊢
        change _ = _ + s.comingCount i t + _
        rw [hinvited, hplayers, PerTeam.get_set]
        unfold maxPlayerGuid at hseats
        split
        · rename_i ht
          subst ht
          simp only [ht₀, decide_true, if_true] at hgone
          rw [decr32_of_pos (by omega) (by omega)]
          omega
        · rename_i ht
          simp only [ht₀, Team.id_inj, ht, decide_false, Bool.false_eq_true, if_false] at hgone
          omega

/-! ## Runs -/

theorem Accounted.inviteGroupToBG (h : Accounted queueType s)
    {side : Option Team} (hadm : s.Admissible queueType (env, .invite p i side)) :
    Accounted queueType { s with queue := (s.queue.inviteGroupToBG env p i side).1 } := by
  obtain ⟨g, hg, hinv, honline, hside⟩ := hadm
  have hinvite : ∀ st₁ g₁, Accounted queueType { s with queue := st₁ } → st₁.groups p = some g₁ →
      g₁.isInvited = false → g₁.players = g.players →
        Accounted queueType { s with queue := (st₁.inviteGroupToBG env p i none).1 } := by
    intro st₁ g₁ h₁ hg₁ hinv₁ hplayers₁
    unfold State.inviteGroupToBG
    dsimp only
    split
    · rename_i inst hinst
      rw [group_of_groups st₁ hg₁, hinv₁]
      exact h₁.invite env hg₁ hinv₁ hinst (hplayers₁ ▸ honline)
    · exact h₁
  cases side with
  | none => exact hinvite s.queue g h hg hinv rfl
  | some t =>
    refine hinvite (s.queue.setTeam p t) { g with team := t } ?_ ?_ hinv rfl
    · rcases hside t rfl with hteam | ⟨b, hb⟩
      · have hself : s.queue.setTeam p (s.queue.group p).team = s.queue := setTeam_self p
        rw [group_of_groups s.queue hg, hteam] at hself
        rw [hself]
        exact h
      · exact h.setTeam hg hinv hb t
    · exact (modifyGroup_groups ..).trans (by rw [if_pos rfl, hg]; rfl)

/-- Queue, road and instance together are the count, whatever an admissible event does. -/
theorem Accounted.step {ee : Env × SystemEvent} (h : Accounted queueType s)
    (hadm : s.Admissible queueType ee) : Accounted queueType (s.step ee) := by
  obtain ⟨env, e⟩ := ee
  cases e with
  | addGroup join => exact h.addGroup join hadm
  | update bgTypeId b arenaType isRated arenaRating =>
    exact h.battlegroundQueueUpdate bgTypeId b arenaType isRated arenaRating hadm
  | invite p i side => exact h.inviteGroupToBG hadm
  | accept guid => exact h.accept env guid
  | arrive guid => exact h.arrive env guid
  | decline guid => exact h.decline env guid
  | leave guid i => exact h.leave env guid i

/-- The count of a side of an instance: who is queued with an invitation, who is on his way and who
is inside. Whoever may be counted down finds a positive count, and no count has wrapped. -/
structure CountsPlayers (s : System) (i : InstanceId) (inst : Instance) (t : Team) : Prop where
  count_eq : inst.bg.getInvitedCountByTeam t.id =
    s.queue.invitedCount i t + s.comingCount i t + inst.insideCount t
  queued_pos : ∀ guid info, s.queue.queuedPlayers.find? guid = some info →
    (s.queue.group info.groupInfo).isInvitedToBGInstanceGUID = i →
    (s.queue.group info.groupInfo).team = t → 0 < inst.bg.getInvitedCountByTeam t.id
  inside_pos : ∀ guid p, inst.bg.roster.players.find? guid = some p → p.team = t.id →
    0 < inst.bg.getInvitedCountByTeam t.id
  bounded : inst.bg.getInvitedCountByTeam t.id ≤ maxPlayerGuid

theorem Accounted.countsPlayers (h : Accounted queueType s)
    (hinst : s.queue.instances i = some inst) (t : Team) : CountsPlayers s i inst t := by
  have hcount : inst.bg.getInvitedCountByTeam t.id =
      s.queue.invitedCount i t + s.comingCount i t + inst.insideCount t := by
    rw [Bg.Battleground.getInvitedCountByTeam, Bg.teamIndex_id]
    exact h.count i inst hinst t
  refine ⟨hcount, fun guid info hinfo hto hteam => ?_, fun guid p hp hteam => ?_, hcount ▸ h.seats_le hinst t⟩
  · have hpos : 0 < s.queue.invitedCount i t := by
      unfold State.invitedCount
      rw [count_erase _ hinfo, if_pos (by simp [State.holds, hto, hteam])]
      exact Nat.succ_pos _
    omega
  · have hpos : 0 < inst.insideCount t := by
      unfold insideCount
      rw [count_erase _ hp, if_pos (by simpa using hteam)]
      exact Nat.succ_pos _
    omega

/-- **Invitations are accounted for** in every reachable state, for every instance and side. -/
theorem invitedCount_accounted (queueType : BattlegroundTypeId) (pre post : List (Env × SystemEvent))
    (h : AllSteps System.step (System.Admissible queueType) {} (pre ++ post)) :
    ∀ i inst, (run System.step {} pre).queue.instances i = some inst →
      ∀ t, CountsPlayers (run System.step {} pre) i inst t := by
  have hacc : Accounted queueType (run System.step {} pre) :=
    AllSteps.reaches (I := Accounted queueType) (fun _ _ hs hadm => hs.step hadm)
      (Accounted.empty queueType) h
  exact fun i inst hinst t => hacc.countsPlayers hinst t

def sampleInvitations : List (Env × SystemEvent) :=
  [(sampleEnv, .addGroup (sampleJoin 1 2 7)), (sampleEnv, .addGroup (sampleJoin 3 4 8)),
    (sampleEnv, .update .aa 0 2 true 1500), (sampleEnv, .accept 1), (sampleEnv, .arrive 1),
    (sampleEnv, .accept 3), (sampleEnv, .decline 4), (sampleEnv, .leave 1 1)]

theorem sampleInvitations_accounted :
    ∃ inst, (run System.step {} sampleInvitations).queue.instances 1 = some inst ∧
      inst.bg.getInvitedCountByTeam Team.alliance.id = 1 ∧
      inst.bg.getInvitedCountByTeam Team.horde.id = 1 ∧
      ∀ t, CountsPlayers (run System.step {} sampleInvitations) 1 inst t := by
  have hnew : ∀ join : Join, ∀ s : System, s.coming = .empty → (∀ i, s.queue.instances i = none) →
      (∀ guid ∈ join.guids, guid ∉ s.queue.queuedPlayers.keys ∧ guid < maxPlayerGuid) →
      ∀ guid ∈ join.guids, ¬ s.has guid ∧ guid < maxPlayerGuid := by
    intro join s hcoming hnone hqueued guid hguid
    refine ⟨?_, (hqueued guid hguid).2⟩
    rintro (hq | hc | ⟨i, inst, hinst, -⟩)
    · exact (hqueued guid hguid).1 hq
    · rw [hcoming] at hc
      cases hc
    · rw [hnone] at hinst
      cases hinst
  have hadm : AllSteps System.step (System.Admissible .aa) {} (sampleInvitations ++ []) := by
    refine ⟨⟨by decide, rfl, hnew _ _ rfl (fun _ => rfl) (by decide)⟩,
      ⟨by decide, rfl, hnew _ _ rfl (fun _ => rfl) (by decide)⟩,
      ⟨fun _ _ => rfl, fun i typeId config hsome => ?_, fun i typeId config hsome => ?_,
        fun x y hx => ?_⟩, trivial, trivial, trivial, trivial, trivial, trivial⟩
    · cases hsome
    · cases hsome
      exact ⟨by decide, rfl, .inl rfl⟩
    · cases hx
  have hcounts := invitedCount_accounted .aa sampleInvitations [] hadm 1
  have hsome : ((run System.step {} sampleInvitations).queue.instances 1).isSome = true := by decide
  obtain ⟨inst, hinst⟩ := isSome_iff_exists.1 hsome
  refine ⟨inst, hinst, ?_, ?_, hcounts inst hinst⟩
  · have hvalue : (((run System.step {} sampleInvitations).queue.instances 1).map
        (·.bg.getInvitedCountByTeam Team.alliance.id)) = some 1 := by decide
    rw [hinst] at hvalue
    exact some.inj hvalue
  · have hvalue : (((run System.step {} sampleInvitations).queue.instances 1).map
        (·.bg.getInvitedCountByTeam Team.horde.id)) = some 1 := by decide
    rw [hinst] at hvalue
    exact some.inj hvalue

end Axium.Queue
