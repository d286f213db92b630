import Axium.Guilds.Ranks

/-!
# The leader of a guild

Leadership is stored twice: as the guid of the leader, and as the rank of a member. The two agree as long as
no leader names himself in `HandleSetLeader`, which writes the rank of the new leader first and the rank
of the old one after it.
-/

namespace Axium.Guilds.Guild

open Run List OrdMap Option

variable {g : Guild}

/-- The member who is named leader is guild master, and nobody else is. -/
structure Led (g : Guild) : Prop where
  leader : ∃ m, g.members.find? g.leaderGuid = some m ∧ m.rankId = guildMaster
  only : g.members.All fun guid m => m.rankId = guildMaster → guid = g.leaderGuid

def HasLeader (g : Guild) : Prop := g.members.isEmpty = false → Led g

/-- What the proofs need beside: a few ranks, members with a rank below `GUILD_RANK_NONE`, and nobody in a
disbanded guild alone. -/
structure Sound (g : Guild) : Prop where
  min : ranksMinCount ≤ g.ranks.length
  max : g.ranks.length ≤ ranksMaxCount
  low : g.members.All fun _ m => m.rankId < rankNone
  live : g.disbanded = g.members.isEmpty

/-! ## The leader -/

namespace Led

theorem isEmpty_eq (h : Led g) : g.members.isEmpty = false := by
  obtain ⟨m, hm, -⟩ := h.leader
  exact isEmpty_of_find? hm

theorem isLeader_iff (h : Led g) {player : Guid} : g.isLeader player ↔ player = g.leaderGuid := by
  constructor
  · rintro (hp | ⟨m, hm, hr⟩)
    · exact hp
    · exact h.only player m hm hr
  · exact .inl

theorem playerRank_leader (h : Led g) : g.playerRank g.leaderGuid = guildMaster := by
  obtain ⟨m, hm, hr⟩ := h.leader
  unfold playerRank
  rw [hm, map_some, getD_some, hr]

theorem congr {g' : Guild} (h : Led g) (hl : g'.leaderGuid = g.leaderGuid)
    (hm : g'.members = g.members) : Led g' :=
  ⟨by rw [hl, hm]; exact h.leader, by rw [hl, hm]; exact h.only⟩

theorem changeRank (h : Led g) {guid : Guid} {newRank : Nat} (hne : guid ≠ g.leaderGuid)
    (hr : newRank % 256 ≠ guildMaster) : Led (g.changeRank guid newRank) := by
  refine ⟨?_, all_modify.2 fun k m hm => ?_⟩
  · obtain ⟨m, hm, hmr⟩ := h.leader
    refine ⟨m, ?_, hmr⟩
    change (g.members.modify guid _).find? g.leaderGuid = some m
    rw [find?_modify, if_neg hne, hm]
  · dsimp only
    by_cases hk : guid = k
    · rw [if_pos hk]
      exact fun hz => absurd hz hr
    · rw [if_neg hk]
      exact h.only k m hm

theorem erase (h : Led g) {guid : Guid} (hne : g.leaderGuid ≠ guid) :
    Led { g with members := g.members.erase guid } := by
  refine ⟨?_, h.only.erase guid⟩
  obtain ⟨m, hm, hmr⟩ := h.leader
  refine ⟨m, ?_, hmr⟩
  rw [find?_erase_ne _ (Ne.symm hne), hm]

theorem handOver (h : Led g) {guid : Guid} (hmem : guid ∈ g.members.keys) (hne : guid ≠ g.leaderGuid) :
    Led ((g.setLeaderGUID guid).changeRank g.leaderGuid officer) := by
  obtain ⟨m, hm⟩ := mem_keys.1 hmem
  refine ⟨⟨{ m with rankId := guildMaster % 256 }, ?_, rfl⟩, ?_⟩
  · change ((g.members.modify guid _).modify g.leaderGuid _).find? guid = _
    rw [find?_modify, if_neg (Ne.symm hne), find?_modify, if_pos rfl, hm]
    rfl
  · refine all_modify.2 (all_modify.2 fun k v hv => ?_)
    change if guid = k then _ else _
    by_cases hk : guid = k
    · rw [if_pos hk, if_neg (fun hl => hne (hk.trans hl.symm))]
      exact fun _ => hk.symm
    · rw [if_neg hk]
      by_cases hl : g.leaderGuid = k
      · rw [if_pos hl]
        exact fun hz => absurd hz one_ne_zero
      · rw [if_neg hl]
        exact fun hz => absurd (h.only k v hv hz).symm hl

theorem succeed (h : Led g) {i : Guid} (hmem : i ∈ g.members.keys) (hne : i ≠ g.leaderGuid) :
    Led { g.setLeaderGUID i with members := (g.setLeaderGUID i).members.erase g.leaderGuid } := by
  obtain ⟨m, hm⟩ := mem_keys.1 hmem
  refine ⟨⟨{ m with rankId := guildMaster % 256 }, ?_, rfl⟩, fun k v hv hz => ?_⟩
  · change ((g.members.modify i _).erase g.leaderGuid).find? i = _
    rw [find?_erase_ne _ (Ne.symm hne), find?_modify, if_pos rfl, hm]
    rfl
  · change ((g.members.modify i _).erase g.leaderGuid).find? k = some v at hv
    rw [find?_erase] at hv
    by_cases hl : g.leaderGuid = k
    · rw [if_pos hl] at hv
      cases hv
    · rw [if_neg hl, find?_modify] at hv
      by_cases hk : i = k
      · exact hk.symm
      · rw [if_neg hk] at hv
        exact absurd (h.only k v hv hz).symm hl

end Led

/-! ## Loading -/

variable {order : List Guid}

theorem leader_validateLeader (horder : order.Perm g.members.keys) :
    (g.validateLeader order).members.isEmpty = true ∨
      ∃ m, (g.validateLeader order).members.find? (g.validateLeader order).leaderGuid = some m ∧
        m.rankId = guildMaster := by
  have hset : ∀ i ∈ g.members.keys,
      ∃ m, (g.setLeaderGUID i).members.find? i = some m ∧ m.rankId = guildMaster := by
    intro i hi
    obtain ⟨m, hm⟩ := mem_keys.1 hi
    refine ⟨{ m with rankId := guildMaster % 256 }, ?_, rfl⟩
    change (g.members.modify i _).find? i = _
    rw [find?_modify, if_pos rfl, hm]
    rfl
  rcases validateLeader_cases g order with
    ⟨m, hm, hr, hv⟩ | ⟨hmem, hv⟩ | ⟨i, -, hi, hv⟩ | ⟨-, -, hv⟩
  · rw [hv]
    exact .inr ⟨m, hm, hr⟩
  · rw [hv]
    exact .inr (hset g.leaderGuid hmem)
  · rw [hv]
    have hmem := ((newLeader_spec g order g.leaderGuid).1 i hi).1
    exact .inr (hset i (horder.mem_iff.1 hmem))
  · rw [hv]
    exact .inl rfl

theorem only_validateLeader (h : g.members.All fun guid m => m.rankId = guildMaster → guid = g.leaderGuid)
    (order : List Guid) :
    (g.validateLeader order).members.All fun guid m =>
      m.rankId = guildMaster → guid = (g.validateLeader order).leaderGuid := by
  have hset : ∀ i, (g.leaderGuid ∉ g.members.keys ∨ i = g.leaderGuid) →
      (g.setLeaderGUID i).members.All fun guid m => m.rankId = guildMaster → guid = i := by
    intro i hi
    refine all_modify.2 fun k v hv => ?_
    dsimp only
    by_cases hk : i = k
    · rw [if_pos hk]
      exact fun _ => hk.symm
    · rw [if_neg hk]
      intro hz
      have hkl := h k v hv hz
      rcases hi with hi | hi
      · exact absurd (mem_keys.2 ⟨v, hkl ▸ hv⟩) hi
      · exact hkl.trans hi.symm
  rcases validateLeader_cases g order with
    ⟨-, -, -, hv⟩ | ⟨-, hv⟩ | ⟨i, hnot, -, hv⟩ | ⟨-, -, hv⟩
  · rw [hv]
    exact h
  · rw [hv]
    exact hset g.leaderGuid (.inr rfl)
  · rw [hv]
    exact hset i (.inl hnot)
  · rw [hv]
    exact OrdMap.All.empty

theorem keys_validateMasters (g : Guild) (allow : Bool) :
    (g.validateMasters allow).members.keys = g.members.keys := by
  cases allow with
  | true => rfl
  | false => exact keys_mapVal ..

theorem led_validateMasters {allow : Bool}
    (hl : ∃ m, g.members.find? g.leaderGuid = some m ∧ m.rankId = guildMaster)
    (ho : allow = false ∨ g.members.All fun guid m => m.rankId = guildMaster → guid = g.leaderGuid) :
    Led (g.validateMasters allow) := by
  cases allow with
  | true => exact ⟨hl, ho.resolve_left Bool.noConfusion⟩
  | false =>
    refine ⟨?_, all_mapVal.2 fun k v hv => ?_⟩
    · obtain ⟨m, hm, hr⟩ := hl
      refine ⟨m, ?_, hr⟩
      change (g.members.mapVal _).find? g.leaderGuid = some m
      rw [find?_mapVal, hm, map_some, if_neg (fun hc => hc.2 rfl)]
    · dsimp only
      by_cases hk : v.rankId = guildMaster ∧ k ≠ g.leaderGuid
      · rw [if_pos hk]
        exact fun hz => absurd hz one_ne_zero
      · rw [if_neg hk]
        intro hz
        by_contra hne
        exact hk ⟨hz, hne⟩

theorem hasLeader_validate (hlen : g.ranks.length ≤ 256) {allow : Bool} (horder : order.Perm g.members.keys)
    (ho : allow = false ∨ g.members.All fun guid m => m.rankId = guildMaster → guid = g.leaderGuid) :
    HasLeader (g.validate order allow) := by
  obtain ⟨hwf, -⟩ := ranksWF_validateRanks hlen
  obtain ⟨hmembers, hleader, -⟩ := validateRanks_frame g
  have hperm : order.Perm g.validateRanks.validateMembers.members.keys :=
    (keys_validateMembers g).symm ▸ horder
  have hlead := leader_validateLeader hperm
  unfold HasLeader validate
  by_cases hempty : (g.validateRanks.validateMembers.validateLeader order).members.isEmpty
  · rw [if_pos hempty]
    intro hf
    cases hf
  · rw [if_neg hempty]
    intro _
    refine led_validateMasters (hlead.resolve_left hempty) (ho.imp_right fun hg => ?_)
    refine only_validateLeader (g := g.validateRanks.validateMembers) ?_ order
    refine validateMembers_guildMaster hwf ?_
    change g.validateRanks.members.All fun guid m => _ → guid = g.validateRanks.leaderGuid
    rw [hmembers, hleader]
    exact hg

/-! ## What holds beside -/

namespace Sound

section

variable (h : Sound g)
include h

theorem getLowestRankId_lt : 4 ≤ g.getLowestRankId ∧ g.getLowestRankId < 10 := by
  have hmin := h.min
  have hmax := h.max
  unfold getLowestRankId
  unfold ranksMinCount at hmin
  unfold ranksMaxCount at hmax
  omega

theorem getRanksSize_eq : g.getRanksSize = g.ranks.length := by
  have hmax := h.max
  unfold getRanksSize
  unfold ranksMaxCount at hmax
  omega

theorem led (hg : HasLeader g) (hd : g.disbanded = false) : Led g := hg (h.live ▸ hd)

theorem changeRank (guid : Guid) {newRank : Nat} (hr : newRank % 256 < rankNone) :
    Sound (g.changeRank guid newRank) := by
  refine ⟨h.min, h.max, all_modify.2 fun k m hm => ?_, ?_⟩
  · dsimp only
    by_cases hk : guid = k
    · rw [if_pos hk]
      exact hr
    · rw [if_neg hk]
      exact h.low k m hm
  · change g.disbanded = (g.members.modify guid _).isEmpty
    rw [h.live]
    exact isEmpty_congr fun k => mem_keys_modify.symm

theorem setLeaderGUID (guid : Guid) : Sound (g.setLeaderGUID guid) := by
  have hg : Sound { g with leaderGuid := guid } := ⟨h.min, h.max, h.low, h.live⟩
  exact hg.changeRank guid (by decide)

theorem erase {guid : Guid} (hd : g.disbanded = false)
    (hl : Led { g with members := g.members.erase guid }) :
    Sound { g with members := g.members.erase guid } :=
  ⟨h.min, h.max, h.low.erase guid, hd.trans hl.isEmpty_eq.symm⟩

theorem disband : Sound g.disband := ⟨h.min, h.max, OrdMap.All.empty, rfl⟩

theorem handleAddNewRank (player : Guid) : Sound (g.handleAddNewRank player) := by
  unfold Guild.handleAddNewRank
  by_cases hc : g.getRanksSize < ranksMaxCount ∧ g.isLeader player
  · have hlt := hc.1
    have hmin := h.min
    rw [h.getRanksSize_eq] at hlt
    rw [if_pos hc]
    unfold Guild.createRank
    rw [if_neg (not_le.2 hc.1)]
    refine ⟨?_, ?_, h.low, h.live⟩
    · simp only [length_append, length_cons, length_nil]
      omega
    · simp only [length_append, length_cons, length_nil]
      omega
  · rw [if_neg hc]
    exact h

theorem handleRemoveLowestRank (player : Guid) : Sound (g.handleRemoveLowestRank player) := by
  unfold Guild.handleRemoveLowestRank
  by_cases hc : ranksMinCount < g.getRanksSize ∧ g.isLeader player
  · have hlt := hc.1
    have hmax := h.max
    rw [h.getRanksSize_eq] at hlt
    rw [if_pos hc]
    refine ⟨?_, ?_, h.low, h.live⟩
    · rw [length_dropLast]
      omega
    · rw [length_dropLast]
      omega
  · rw [if_neg hc]
    exact h

theorem addMember (hd : g.disbanded = false) (guid : Guid) (name : String)
    {rankId : Nat} (hr : rankId < 256) (free : Bool) : Sound (g.addMember guid name rankId free) := by
  have hlow := h.getLowestRankId_lt
  unfold Guild.addMember
  by_cases hc : g.members.contains guid ∨ ¬ free
  · rw [if_pos hc]
    exact h
  · rw [if_neg hc]
    refine ⟨h.min, h.max, h.low.insert ?_, ?_⟩
    · dsimp only
      by_cases hn : rankId = rankNone
      · rw [if_pos hn]
        unfold rankNone
        omega
      · rw [if_neg hn]
        unfold rankNone at hn ⊢
        omega
    · exact hd.trans (isEmpty_of_find? (find?_insert_self ..)).symm

end

end Sound

theorem low_validateLeader (h : g.members.All fun _ m => m.rankId < rankNone) (order : List Guid) :
    (g.validateLeader order).members.All fun _ m => m.rankId < rankNone := by
  have hset : ∀ i, (g.setLeaderGUID i).members.All fun _ m => m.rankId < rankNone := by
    intro i
    refine all_modify.2 fun k v hv => ?_
    dsimp only
    by_cases hk : i = k
    · rw [if_pos hk]
      decide
    · rw [if_neg hk]
      exact h k v hv
  rcases validateLeader_cases g order with ⟨-, -, -, hv⟩ | ⟨-, hv⟩ | ⟨i, -, -, hv⟩ | ⟨-, -, hv⟩
  · rw [hv]
    exact h
  · rw [hv]
    exact hset g.leaderGuid
  · rw [hv]
    exact hset i
  · rw [hv]
    exact OrdMap.All.empty

theorem disbanded_validateLeader (h : g.disbanded = false) (order : List Guid) :
    (g.validateLeader order).disbanded = false ∨
      (g.validateLeader order).members.isEmpty = true := by
  rcases validateLeader_cases g order with ⟨-, -, -, hv⟩ | ⟨-, hv⟩ | ⟨i, -, -, hv⟩ | ⟨-, -, hv⟩
  · rw [hv]
    exact .inl h
  · rw [hv]
    exact .inl h
  · rw [hv]
    exact .inl h
  · rw [hv]
    exact .inr rfl

theorem sound_validate (hlen : g.ranks.length ≤ 256) {allow : Bool}
    (hd : g.disbanded = false ∨ (g.validate order allow).disbanded = false) :
    Sound (g.validate order allow) := by
  obtain ⟨hwf, -⟩ := ranksWF_validateRanks hlen
  have hwfm : RanksWF g.validateRanks.validateMembers := hwf.congr rfl
  have hwfl : RanksWF (g.validateRanks.validateMembers.validateLeader order) :=
    hwfm.congr (ranks_validateLeader ..)
  have hlow : g.validateRanks.validateMembers.members.All fun _ m => m.rankId < rankNone := by
    intro k m hm
    have hle : m.rankId ≤ g.validateRanks.ranks.length := validateMembers_le hwf k m hm
    have hmax := hwf.max
    unfold ranksMaxCount at hmax
    unfold rankNone
    omega
  have hlowl := low_validateLeader hlow order
  unfold validate at hd ⊢
  by_cases hempty : (g.validateRanks.validateMembers.validateLeader order).members.isEmpty
  · rw [if_pos hempty]
    exact ⟨hwfl.min, hwfl.max, OrdMap.All.empty, rfl⟩
  · rw [if_neg hempty] at hd ⊢
    have hkeys := keys_validateMasters (g.validateRanks.validateMembers.validateLeader order) allow
    have hdis : ((g.validateRanks.validateMembers.validateLeader order).validateMasters
        allow).disbanded = false := by
      rcases hd with hd | hd
      · have hdm : g.validateRanks.validateMembers.disbanded = false :=
          (validateRanks_frame g).2.2.trans hd
        have hv := (disbanded_validateLeader hdm order).resolve_right hempty
        cases allow with
        | true => exact hv
        | false => exact hv
      · exact hd
    have hfull : ((g.validateRanks.validateMembers.validateLeader order).validateMasters
        allow).members.isEmpty = false := by
      rw [Bool.not_eq_true] at hempty
      rw [← hempty]
      exact isEmpty_congr fun k => by rw [hkeys]
    refine ⟨?_, ?_, ?_, hdis.trans hfull.symm⟩
    · unfold validateMasters
      cases allow with
      | true => exact hwfl.min
      | false => exact hwfl.min
    · unfold validateMasters
      cases allow with
      | true => exact hwfl.max
      | false => exact hwfl.max
    · unfold validateMasters
      cases allow with
      | true => exact hlowl
      | false =>
        refine all_mapVal.2 fun k m hm => ?_
        dsimp only
        by_cases hk : m.rankId = guildMaster ∧
            k ≠ (g.validateRanks.validateMembers.validateLeader order).leaderGuid
        · rw [if_pos hk]
          change officer < rankNone
          decide
        · rw [if_neg hk]
          exact hlowl k m hm

/-! ## Runs -/

/-- An event of the runs considered here: the game masters' `ChangeMemberRank` is left out, a rank is a
byte, and where the source goes through all the members, the order lists them. -/
def Listed (g : Guild) : Event → Prop
  | .changeMemberRank _ _ => False
  | .addMember _ _ rankId _ => rankId < 256
  | .deleteMember order _ => order.Perm g.members.keys
  | .reload names broken order _ => order.Perm (g.load names broken).members.keys
  | _ => True

instance (g : Guild) (e : Event) : Decidable (g.Listed e) :=
  match e with
  | .changeMemberRank _ _ => isFalse id
  | .addMember _ _ rankId _ => inferInstanceAs (Decidable (rankId < 256))
  | .deleteMember order _ => inferInstanceAs (Decidable (order.Perm g.members.keys))
  | .reload names broken order _ => inferInstanceAs (Decidable (order.Perm (g.load names broken).members.keys))
  | .addNewRank _ | .removeLowestRank _ | .updateMemberRank .. | .setLeader .. => isTrue trivial

/-- No leader names himself as the new leader, and nobody joins as guild master. The second is what every
caller of `AddMember` but `Create` does. -/
def KeepsLeader (g : Guild) (e : Event) : Prop :=
  g.disbanded = false →
    match e with
    | .setLeader order player name => g.isLeader player → g.getMember order name ≠ some player
    | .addMember guid _ rankId free => g.members.contains guid = false → free = true → rankId ≠ guildMaster
    | _ => True

instance (g : Guild) (e : Event) : Decidable (g.KeepsLeader e) :=
  match e with
  | .setLeader order player name =>
    inferInstanceAs (Decidable (g.disbanded = false → g.isLeader player →
      g.getMember order name ≠ some player))
  | .addMember guid _ rankId free =>
    inferInstanceAs (Decidable (g.disbanded = false → g.members.contains guid = false →
      free = true → rankId ≠ guildMaster))
  | .addNewRank _ | .removeLowestRank _ | .updateMemberRank .. | .deleteMember ..
  | .changeMemberRank .. | .reload .. => isTrue fun _ => trivial

theorem getMember_mem {name : String} {guid : Guid}
    (h : g.getMember order name = some guid) : guid ∈ g.members.keys := by
  have hany := find?_some h
  cases hf : g.members.find? guid with
  | none =>
    rw [hf] at hany
    cases hany
  | some m => exact mem_keys.2 ⟨m, hf⟩

theorem led_handleUpdateMemberRank (h : Led g) (hs : Sound g) (order : List Guid) (player : Guid)
    (name : String) (demote : Bool) :
    Led (g.handleUpdateMemberRank order player name demote) ∧
      Sound (g.handleUpdateMemberRank order player name demote) := by
  have hlow := hs.getLowestRankId_lt
  have hlead := h.playerRank_leader
  have hrank : ∀ guid, g.playerRank guid < rankNone := by
    intro guid
    unfold playerRank
    cases hf : g.members.find? guid with
    | none =>
      rw [map_none]
      decide
    | some m => exact hs.low guid m hf
  have hplayer := hrank player
  unfold rankNone at hrank hplayer
  unfold guildMaster at hlead
  rcases handleUpdateMemberRank_cases g order player name demote with
    hsame | ⟨guid, -, ⟨-, -, hmay⟩, hset⟩
  · rw [hsame]
    exact ⟨h, hs⟩
  · rw [hset]
    have hguid := hrank guid
    unfold movedTo
    cases demote with
    | true =>
      obtain ⟨hd, hlt⟩ := hmay
      refine ⟨h.changeRank (fun hg => ?_) ?_, hs.changeRank guid ?_⟩
      · rw [hg] at hd
        omega
      · rw [if_pos rfl]
        unfold guildMaster
        omega
      · rw [if_pos rfl]
        unfold rankNone
        omega
    | false =>
      change (g.playerRank player + 1) % 256 < g.playerRank guid at hmay
      refine ⟨h.changeRank (fun hg => ?_) ?_, hs.changeRank guid ?_⟩
      · rw [hg] at hmay
        omega
      · rw [if_neg Bool.false_ne_true]
        unfold guildMaster
        omega
      · rw [if_neg Bool.false_ne_true]
        unfold rankNone
        omega

theorem handleSetLeader_iff (h : Led g) (order : List Guid) (player : Guid) (name : String) :
    Led (g.handleSetLeader order player name) ↔ (g.isLeader player → g.getMember order name ≠ some player) := by
  rcases handleSetLeader_cases g order player name with ⟨hno, hsame⟩ | ⟨guid, hl, hget, hset⟩
  · rw [hsame]
    refine iff_of_true h fun hl hget => ?_
    rw [hno hl (contains_iff.2 (getMember_mem hget))] at hget
    cases hget
  · have hp : player = g.leaderGuid := h.isLeader_iff.1 hl
    rw [hset]
    by_cases hself : guid = player
    · refine iff_of_false (fun hled => ?_) fun hne => hne hl (hself ▸ hget)
      obtain ⟨m, hm, hr⟩ := hled.leader
      change ((g.members.modify guid _).modify player _).find? guid = some m at hm
      rw [find?_modify, if_pos hself.symm] at hm
      obtain ⟨m', -, rfl⟩ := map_eq_some_iff.1 hm
      exact absurd hr one_ne_zero
    · refine iff_of_true ?_ fun _ hg => hself (some.inj (hget.symm.trans hg))
      rw [hp]
      exact h.handOver (getMember_mem hget) fun hg => hself (hg.trans hp.symm)

theorem led_addMember_iff (h : Led g) (hs : Sound g) (guid : Guid) (name : String) (rankId : Nat)
    (free : Bool) :
    Led (g.addMember guid name rankId free) ↔
      (g.members.contains guid = false → free = true → rankId ≠ guildMaster) := by
  have hlow := hs.getLowestRankId_lt
  obtain ⟨l, hl, hlr⟩ := h.leader
  unfold addMember
  by_cases hc : g.members.contains guid ∨ ¬ free
  · rw [if_pos hc]
    refine iff_of_true h fun hnew hfree => ?_
    rcases hc with hc | hc
    · rw [hnew] at hc
      cases hc
    · exact absurd hfree hc
  · rw [if_neg hc]
    rw [not_or, not_not, Bool.not_eq_true] at hc
    have hne : guid ≠ g.leaderGuid := by
      rintro rfl
      unfold OrdMap.contains at hc
      rw [hl] at hc
      cases hc.1
    constructor
    · intro h' _ _ hz
      refine hne (h'.only guid _ (find?_insert_self ..) ?_)
      rw [hz, if_neg (by decide)]
    · intro hrank
      refine ⟨⟨l, ?_, hlr⟩, h.only.insert fun hz => ?_⟩
      · change (g.members.insert guid _).find? g.leaderGuid = some l
        rw [find?_insert_ne _ _ hne, hl]
      · dsimp only at hz
        by_cases hn : rankId = rankNone
        · rw [if_pos hn] at hz
          unfold guildMaster at hz
          omega
        · rw [if_neg hn] at hz
          exact absurd hz (hrank hc.1 hc.2)

theorem hasLeader_deleteMember (h : Led g) (hs : Sound g) (hd : g.disbanded = false)
    (horder : order.Perm g.members.keys) (guid : Guid) :
    HasLeader (g.deleteMember order guid) ∧ Sound (g.deleteMember order guid) := by
  rcases deleteMember_cases g order guid with ⟨hne, hv⟩ | ⟨i, rfl, hi, hv⟩ | ⟨-, -, hv⟩
  · rw [hv]
    have hled := h.erase hne
    exact ⟨fun _ => hled, hs.erase hd hled⟩
  · rw [hv]
    obtain ⟨hmem, hine, -⟩ := (newLeader_spec g order g.leaderGuid).1 i hi
    have hled := h.succeed (horder.mem_iff.1 hmem) hine
    exact ⟨fun _ => hled, (hs.setLeaderGUID i).erase hd hled⟩
  · rw [hv]
    refine ⟨fun hf => ?_, hs.disband⟩
    cases hf

theorem Led.load_only (h : Led g) (names : Guid → String) (broken : List Guid) :
    (g.load names broken).members.All fun guid m => m.rankId = guildMaster → guid = g.leaderGuid := by
  refine all_mapVal.2 fun guid m hm => ?_
  rw [find?_foldl_erase] at hm
  by_cases hb : guid ∈ broken
  · rw [if_pos hb] at hm
    cases hm
  · rw [if_neg hb] at hm
    exact h.only guid m hm

theorem Sound.step (hs : Sound g) (hg : HasLeader g) {e : Event} (he : g.Listed e) : Sound (g.step e) := by
  unfold Guild.step
  cases hd : g.disbanded with
  | true => exact hs
  | false =>
    have h := hs.led hg hd
    cases e with
    | addNewRank player => exact hs.handleAddNewRank player
    | removeLowestRank player => exact hs.handleRemoveLowestRank player
    | updateMemberRank order player name demote =>
      exact (led_handleUpdateMemberRank h hs order player name demote).2
    | setLeader order player name =>
      change Sound (g.handleSetLeader order player name)
      rcases handleSetLeader_cases g order player name with ⟨-, hv⟩ | ⟨guid, -, -, hv⟩
      · rw [hv]
        exact hs
      · rw [hv]
        exact (hs.setLeaderGUID guid).changeRank player (by decide)
    | addMember guid name rankId free => exact hs.addMember hd guid name he free
    | deleteMember order guid => exact (hasLeader_deleteMember h hs hd he guid).2
    | changeMemberRank guid newRank => exact he.elim
    | reload names broken order allow =>
      have hlen : g.ranks.length ≤ 256 := le_trans hs.max (by decide)
      exact sound_validate (g := g.load names broken) hlen (.inl hd)

theorem Sound.hasLeader_iff_led (hs : Sound g) (hd : g.disbanded = false) : HasLeader g ↔ Led g :=
  ⟨fun h => hs.led h hd, fun h _ => h⟩

theorem disbanded_handleSetLeader (g : Guild) (order : List Guid) (player : Guid) (name : String) :
    (g.handleSetLeader order player name).disbanded = g.disbanded := by
  rcases handleSetLeader_cases g order player name with ⟨-, hv⟩ | ⟨guid, -, -, hv⟩
  · rw [hv]
  · rw [hv]
    rfl

theorem disbanded_addMember (g : Guild) (guid : Guid) (name : String) (rankId : Nat)
    (free : Bool) : (g.addMember guid name rankId free).disbanded = g.disbanded := by
  unfold addMember
  by_cases hc : g.members.contains guid ∨ ¬ free
  · rw [if_pos hc]
  · rw [if_neg hc]

theorem handleAddNewRank_frame (g : Guild) (player : Guid) :
    (g.handleAddNewRank player).members = g.members ∧
      (g.handleAddNewRank player).leaderGuid = g.leaderGuid := by
  unfold handleAddNewRank
  by_cases hc : g.getRanksSize < ranksMaxCount ∧ g.isLeader player
  · rw [if_pos hc]
    exact ⟨(createRank_frame g rightChat).1, (createRank_frame g rightChat).2.1⟩
  · rw [if_neg hc]
    exact ⟨rfl, rfl⟩

theorem handleRemoveLowestRank_frame (g : Guild) (player : Guid) :
    (g.handleRemoveLowestRank player).members = g.members ∧
      (g.handleRemoveLowestRank player).leaderGuid = g.leaderGuid := by
  unfold handleRemoveLowestRank
  by_cases hc : ranksMinCount < g.getRanksSize ∧ g.isLeader player
  · rw [if_pos hc]
    exact ⟨rfl, rfl⟩
  · rw [if_neg hc]
    exact ⟨rfl, rfl⟩

/-- A request leaves the guild its one leader exactly when it meets `KeepsLeader`. -/
theorem HasLeader.step_iff (hg : HasLeader g) (hs : Sound g) {e : Event} (he : g.Listed e) :
    HasLeader (g.step e) ↔ g.KeepsLeader e := by
  have hsound := hs.step hg he
  unfold Guild.step at hsound ⊢
  unfold KeepsLeader
  cases hd : g.disbanded with
  | true => exact iff_of_true hg fun hf => by cases hf
  | false =>
    have h := hs.led hg hd
    rw [hd] at hsound
    rw [forall_prop_of_true rfl]
    cases e with
    | addNewRank player =>
      obtain ⟨hm, hl⟩ := handleAddNewRank_frame g player
      exact iff_of_true (fun _ => h.congr hl hm) trivial
    | removeLowestRank player =>
      obtain ⟨hm, hl⟩ := handleRemoveLowestRank_frame g player
      exact iff_of_true (fun _ => h.congr hl hm) trivial
    | updateMemberRank order player name demote =>
      exact iff_of_true (fun _ => (led_handleUpdateMemberRank h hs order player name demote).1) trivial
    | setLeader order player name =>
      have hd' := (disbanded_handleSetLeader g order player name).trans hd
      exact (hsound.hasLeader_iff_led hd').trans (handleSetLeader_iff h order player name)
    | addMember guid name rankId free =>
      have hd' := (disbanded_addMember g guid name rankId free).trans hd
      exact (hsound.hasLeader_iff_led hd').trans (led_addMember_iff h hs guid name rankId free)
    | deleteMember order guid => exact iff_of_true (hasLeader_deleteMember h hs hd he guid).1 trivial
    | changeMemberRank guid newRank => exact he.elim
    | reload names broken order allow =>
      have hlen : g.ranks.length ≤ 256 := le_trans hs.max (by decide)
      exact iff_of_true (hasLeader_validate (g := g.load names broken) hlen he
        (.inr (h.load_only names broken))) trivial

theorem led_create (leader : Guid) (name : String) : Led (create leader name) ∧ Sound (create leader name) := by
  have hranks := ranksWF_createDefaultGuildRanks (g := { leaderGuid := leader }) rfl
  obtain ⟨hm, hl, hd⟩ := createDefaultGuildRanks_frame { leaderGuid := leader }
  unfold create addMember
  generalize ({ leaderGuid := leader } : Guild).createDefaultGuildRanks = g at hranks hm hl hd ⊢
  have hc : ¬ (g.members.contains leader ∨ ¬ (true = true)) := by
    rw [hm]
    simp [OrdMap.contains]
  rw [if_neg hc]
  have hled : Led { g with
      members := g.members.insert leader { name := name, rankId := guildMaster } } := by
    refine ⟨⟨{ name := name, rankId := guildMaster }, ?_, rfl⟩, ?_⟩
    · change (g.members.insert leader _).find? g.leaderGuid = _
      rw [hl]
      exact find?_insert_self ..
    · rw [hm]
      exact OrdMap.All.empty.insert fun _ => hl.symm
  refine ⟨hled, hranks.min, hranks.max, ?_, hd.trans hled.isEmpty_eq.symm⟩
  rw [hm]
  exact OrdMap.All.empty.insert (show guildMaster < rankNone by decide)

/-- A loaded guild is loaded with the default of `Guild.AllowMultipleGuildMaster`. -/
def Origin.SingleMaster : Origin → Prop
  | .created _ _ => True
  | .loaded _ _ allow => allow = false

theorem Origin.hasLeader_guild {o : Origin} (ho : o.Valid) (hs : o.SingleMaster) :
    HasLeader o.guild ∧ Sound o.guild := by
  cases o with
  | created leader name =>
    obtain ⟨hled, hsound⟩ := led_create leader name
    exact ⟨fun _ => hled, hsound⟩
  | loaded g order allow =>
    exact ⟨hasLeader_validate ho.2.1 ho.1 (.inl hs), sound_validate ho.2.1 (.inr ho.2.2)⟩

/-- **The leader.** From a created or a loaded guild, in every state of every run in which members join,
leave, are promoted and demoted, the leader hands over, ranks are added and removed and the guild is
reloaded: the leader of a guild with members is one of them, and he and no other is guild master, if and
only if no leader handed over to himself (and nobody joined as guild master, which no caller asks for). -/
theorem hasLeader_iff {o : Origin} (ho : o.Valid) (hs : o.SingleMaster) {es : List Event}
    (hes : AllSteps step Listed o.guild es) :
    (∀ pre, pre <+: es → HasLeader (run step o.guild pre)) ↔ AllSteps step KeepsLeader o.guild es := by
  obtain ⟨hlead, hsound⟩ := o.hasLeader_guild ho hs
  have hrun := AllSteps.always_iff (fun _ _ hg hs he => hs.step hg he)
    (fun _ _ hg hs he => hg.step_iff hs he) hsound hes
  exact hrun.trans ⟨fun h => h.2, fun h => ⟨hlead, h⟩⟩

/-- A recruit joins and is made the leader, whom the founder succeeds again when he leaves; then the guild
is reloaded. -/
def handedOverAndBack : List Event :=
  [.addMember 2 "Recruit" rankNone true, .setLeader [2, 1] 1 "Recruit", .deleteMember [1, 2] 2,
    .reload (fun _ => "Master") [] [1] true]

theorem handedOverAndBack_hasLeader :
    (∀ pre, pre <+: handedOverAndBack → HasLeader (run step (Origin.created 1 "Master").guild pre)) ∧
    (run step (Origin.created 1 "Master").guild (handedOverAndBack.take 2)).leaderGuid = 2 ∧
    (run step (Origin.created 1 "Master").guild handedOverAndBack).leaderGuid = 1 := by
  have ho : (Origin.created 1 "Master").Valid := trivial
  have hs : (Origin.created 1 "Master").SingleMaster := trivial
  refine ⟨(hasLeader_iff ho hs ?_).2 ?_, ?_, ?_⟩
  · decide
  · decide
  · decide
  · decide

/-- The leader hands the guild over to himself and is an officer afterwards. -/
theorem handed_over_to_himself :
    (Origin.created 1 "Master").Valid ∧
    (run step (Origin.created 1 "Master").guild [.setLeader [1] 1 "Master"]).members.isEmpty = false ∧
    ¬ HasLeader (run step (Origin.created 1 "Master").guild [.setLeader [1] 1 "Master"]) := by
  refine ⟨trivial, by decide, fun h => ?_⟩
  obtain ⟨m, hm, hr⟩ := (h (by decide)).leader
  have hofficer : ((run step (Origin.created 1 "Master").guild
      [.setLeader [1] 1 "Master"]).members.find? 1).map (·.rankId) = some officer := by
    decide
  change OrdMap.find? _ 1 = some m at hm
  rw [hm, map_some, hr] at hofficer
  cases hofficer

end Axium.Guilds.Guild
