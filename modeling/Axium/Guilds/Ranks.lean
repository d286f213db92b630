import Axium.Guilds.Guild
import Axium.Lib.Run

/-!
# The ranks of a guild

The ranks of a guild are numbered from the guild master down, there are between five and ten of them, and
every member holds one (`RankWF`). `HandleRemoveLowestRank` does not look at who holds the rank that it
removes, and `Validate` lets a member through whose rank is the number of the ranks; the other operations
keep the structure.
-/

namespace Axium.Guilds.Guild

open Run List OrdMap Option

variable {g : Guild}

/-- The ranks are `0 .. n - 1`, in order, and `n` is between the bounds. -/
structure RanksWF (g : Guild) : Prop where
  ids : g.ranks.map (·.rankId) = range g.ranks.length
  min : ranksMinCount ≤ g.ranks.length
  max : g.ranks.length ≤ ranksMaxCount

/-- Ranks are numbered by their place, and every member has one of them. -/
structure RankWF (g : Guild) : Prop extends RanksWF g where
  members : g.members.All fun _ m => m.rankId < g.ranks.length

instance (g : Guild) : Decidable (RankWF g) :=
  decidable_of_iff
    ((g.ranks.map (·.rankId) = range g.ranks.length ∧ ranksMinCount ≤ g.ranks.length ∧
      g.ranks.length ≤ ranksMaxCount) ∧ g.members.All fun _ m => m.rankId < g.ranks.length)
    ⟨fun h => ⟨⟨h.1.1, h.1.2.1, h.1.2.2⟩, h.2⟩, fun h => ⟨⟨h.ids, h.min, h.max⟩, h.members⟩⟩

/-! ## The number of ranks -/

namespace RanksWF

theorem getRanksSize_eq (h : RanksWF g) : g.getRanksSize = g.ranks.length := by
  have := h.max
  unfold getRanksSize
  unfold ranksMaxCount at this
  omega

theorem getLowestRankId_eq (h : RanksWF g) : g.getLowestRankId = g.ranks.length - 1 := by
  have hmin := h.min
  have hmax := h.max
  unfold getLowestRankId
  unfold ranksMinCount at hmin
  unfold ranksMaxCount at hmax
  omega

theorem congr {g' : Guild} (h : RanksWF g) (hr : g'.ranks = g.ranks) : RanksWF g' :=
  ⟨hr ▸ h.ids, hr ▸ h.min, hr ▸ h.max⟩

theorem createRank (h : RanksWF g) (rights : Nat) : RanksWF (g.createRank rights) := by
  unfold Guild.createRank
  rw [h.getRanksSize_eq]
  by_cases hmax : ranksMaxCount ≤ g.ranks.length
  · rw [if_pos hmax]
    exact h
  · rw [if_neg hmax]
    have hmin := h.min
    refine ⟨?_, ?_, ?_⟩
    · simp only [map_append, map_cons, map_nil, length_append, length_cons, length_nil, range_succ, h.ids]
    · simp only [length_append, length_cons, length_nil]
      omega
    · simp only [length_append, length_cons, length_nil]
      omega

theorem dropLast (h : RanksWF g) (hmin : ranksMinCount < g.ranks.length) :
    RanksWF { g with ranks := g.ranks.dropLast } := by
  have hmax := h.max
  refine ⟨?_, ?_, ?_⟩
  · change g.ranks.dropLast.map (·.rankId) = range g.ranks.dropLast.length
    rw [map_dropLast, h.ids, length_dropLast, dropLast_eq_take, length_range,
      take_range, min_eq_left (Nat.sub_le ..)]
  · change ranksMinCount ≤ g.ranks.dropLast.length
    rw [length_dropLast]
    omega
  · change g.ranks.dropLast.length ≤ ranksMaxCount
    rw [length_dropLast]
    omega

end RanksWF

theorem ranksWF_createDefaultGuildRanks (h : g.ranks = []) : RanksWF g.createDefaultGuildRanks := by
  have hr : g.createDefaultGuildRanks.ranks.map (·.rankId) = [0, 1, 2, 3, 4] := by
    simp [createDefaultGuildRanks, createRank, getRanksSize, h, ranksMaxCount]
  have hlen : g.createDefaultGuildRanks.ranks.length = 5 := by
    rw [← length_map (f := fun r : RankInfo => r.rankId), hr]
    rfl
  refine ⟨?_, ?_, ?_⟩
  · rw [hr, hlen]
    rfl
  · rw [hlen]
    decide
  · rw [hlen]
    decide

/-! ## What an operation can do -/

theorem handleSetLeader_cases (g : Guild) (order : List Guid) (player : Guid) (name : String) :
    ((g.isLeader player → g.members.contains player → g.getMember order name = none) ∧
      g.handleSetLeader order player name = g) ∨
    ∃ guid, g.isLeader player ∧ g.getMember order name = some guid ∧
      g.handleSetLeader order player name = (g.setLeaderGUID guid).changeRank player officer := by
  unfold handleSetLeader
  by_cases hc : g.isLeader player ∧ g.members.contains player
  · rw [if_pos hc]
    cases hm : g.getMember order name with
    | none => exact .inl ⟨fun _ _ => rfl, rfl⟩
    | some guid => exact .inr ⟨guid, hc.1, rfl, rfl⟩
  · rw [if_neg hc]
    exact .inl ⟨fun hl hm => absurd ⟨hl, hm⟩ hc, rfl⟩

def MayMove (g : Guild) (player guid : Guid) (demote : Bool) : Prop :=
  g.hasRankRight player (if demote then rightDemote else rightPromote) ∧ guid ≠ player ∧
    if demote then
      g.playerRank player < g.playerRank guid ∧ g.playerRank guid < g.getLowestRankId
    else (g.playerRank player + 1) % 256 < g.playerRank guid

/-- The rank one below or above. -/
def movedTo (g : Guild) (guid : Guid) (demote : Bool) : Nat :=
  if demote then g.playerRank guid + 1 else g.playerRank guid - 1

theorem handleUpdateMemberRank_cases (g : Guild) (order : List Guid) (player : Guid) (name : String)
    (demote : Bool) :
    g.handleUpdateMemberRank order player name demote = g ∨
    ∃ guid, g.getMember order name = some guid ∧ g.MayMove player guid demote ∧
      g.handleUpdateMemberRank order player name demote = g.changeRank guid (g.movedTo guid demote) := by
  unfold handleUpdateMemberRank
  by_cases hr : g.hasRankRight player (if demote then rightDemote else rightPromote)
  · rw [if_pos hr]
    cases g.getMember order name with
    | none => exact .inl rfl
    | some guid =>
      dsimp only
      by_cases hself : guid = player
      · rw [if_pos hself]
        exact .inl rfl
      · rw [if_neg hself]
        cases demote with
        | true =>
          by_cases hd : g.playerRank guid ≤ g.playerRank player
          · rw [if_pos hd]
            exact .inl rfl
          · rw [if_neg hd]
            by_cases hl : g.getLowestRankId ≤ g.playerRank guid
            · rw [if_pos hl]
              exact .inl rfl
            · rw [if_neg hl]
              exact .inr ⟨guid, rfl, ⟨hr, hself, not_le.1 hd, not_le.1 hl⟩, rfl⟩
        | false =>
          by_cases hp : g.playerRank guid ≤ (g.playerRank player + 1) % 256
          · rw [if_pos hp]
            exact .inl rfl
          · rw [if_neg hp]
            exact .inr ⟨guid, rfl, ⟨hr, hself, not_le.1 hp⟩, rfl⟩
  · rw [if_neg hr]
    exact .inl rfl

theorem deleteMember_cases (g : Guild) (order : List Guid) (guid : Guid) :
    (g.leaderGuid ≠ guid ∧ g.deleteMember order guid = { g with members := g.members.erase guid }) ∨
    (∃ i, g.leaderGuid = guid ∧ g.newLeader order guid = some i ∧
      g.deleteMember order guid =
        { g.setLeaderGUID i with members := (g.setLeaderGUID i).members.erase guid }) ∨
    (g.leaderGuid = guid ∧ g.newLeader order guid = none ∧
      g.deleteMember order guid = g.disband) := by
  unfold deleteMember
  by_cases hl : g.leaderGuid = guid
  · rw [if_pos hl]
    cases hi : g.newLeader order guid with
    | none => exact .inr (.inr ⟨hl, rfl, rfl⟩)
    | some i => exact .inr (.inl ⟨i, hl, rfl, rfl⟩)
  · rw [if_neg hl]
    exact .inl ⟨hl, rfl⟩

theorem newLeader_spec (g : Guild) (order : List Guid) (guid : Guid) :
    (∀ i, g.newLeader order guid = some i →
      i ∈ order ∧ i ≠ guid ∧ ∀ j ∈ order, j ≠ guid → g.playerRank i ≤ g.playerRank j) ∧
    (g.newLeader order guid = none → ∀ j ∈ order, j = guid) := by
  unfold newLeader
  -- the best so far is the best of what the loop has seen
  induction order using List.reverseRecOn with
  | nil => simp
  | append_singleton l k ih =>
    rw [foldl_append, foldl_cons]
    obtain ⟨hsome, hnone⟩ := ih
    by_cases hk : k = guid
    · rw [if_pos hk]
      refine ⟨fun i hi => ?_, fun hn j hj => ?_⟩
      · obtain ⟨hmem, hne, hmin⟩ := hsome i hi
        refine ⟨mem_append_left _ hmem, hne, fun j hj hjne => ?_⟩
        rcases mem_append.1 hj with hj | hj
        · exact hmin j hj hjne
        · exact absurd ((mem_singleton.1 hj).trans hk) hjne
      · rcases mem_append.1 hj with hj | hj
        · exact hnone hn j hj
        · exact (mem_singleton.1 hj).trans hk
    · rw [if_neg hk]
      generalize hb : List.foldl _ none l = best at hsome hnone ⊢
      cases best with
      | none =>
        refine ⟨fun i hi => ?_, fun hn => by cases hn⟩
        cases hi
        refine ⟨mem_append_right _ mem_cons_self, hk, fun j hj hjne => ?_⟩
        rcases mem_append.1 hj with hj | hj
        · exact absurd (hnone rfl j hj) hjne
        · rw [mem_singleton.1 hj]
      | some b =>
        obtain ⟨hmem, hne, hmin⟩ := hsome b rfl
        dsimp only
        by_cases hlt : g.playerRank k < g.playerRank b
        · rw [if_pos hlt]
          refine ⟨fun i hi => ?_, fun hn => by cases hn⟩
          cases hi
          refine ⟨mem_append_right _ mem_cons_self, hk, fun j hj hjne => ?_⟩
          rcases mem_append.1 hj with hj | hj
          · exact le_trans (le_of_lt hlt) (hmin j hj hjne)
          · rw [mem_singleton.1 hj]
        · rw [if_neg hlt]
          refine ⟨fun i hi => ?_, fun hn => by cases hn⟩
          cases hi
          refine ⟨mem_append_left _ hmem, hne, fun j hj hjne => ?_⟩
          rcases mem_append.1 hj with hj | hj
          · exact hmin j hj hjne
          · rw [mem_singleton.1 hj]
            exact not_lt.1 hlt

theorem validateLeader_cases (g : Guild) (order : List Guid) :
    (∃ m, g.members.find? g.leaderGuid = some m ∧ m.rankId = guildMaster ∧ g.validateLeader order = g) ∨
    (g.leaderGuid ∈ g.members.keys ∧ g.validateLeader order = g.setLeaderGUID g.leaderGuid) ∨
    (∃ i, g.leaderGuid ∉ g.members.keys ∧ g.newLeader order g.leaderGuid = some i ∧
      g.validateLeader order = g.setLeaderGUID i) ∨
    (g.leaderGuid ∉ g.members.keys ∧ g.newLeader order g.leaderGuid = none ∧
      g.validateLeader order = g.disband) := by
  unfold validateLeader
  cases hf : g.members.find? g.leaderGuid with
  | some m =>
    dsimp only
    by_cases hm : m.rankId = guildMaster
    · rw [if_pos hm]
      exact .inl ⟨m, rfl, hm, rfl⟩
    · rw [if_neg hm]
      exact .inr (.inl ⟨mem_keys.2 ⟨m, hf⟩, rfl⟩)
  | none =>
    have hnot : g.leaderGuid ∉ g.members.keys := OrdMap.find?_eq_none.1 hf
    rcases deleteMember_cases g order g.leaderGuid with ⟨hne, -⟩ | ⟨i, -, hi, hd⟩ | ⟨-, hi, hd⟩
    · exact absurd rfl hne
    · -- there is nobody to erase
      have hfree : (g.setLeaderGUID i).members.find? g.leaderGuid = none := by
        change (g.members.modify i _).find? g.leaderGuid = none
        rw [find?_modify, if_neg ((newLeader_spec g order g.leaderGuid).1 i hi).2.1, hf]
      rw [hd, erase_of_find?_none hfree]
      exact .inr (.inr (.inl ⟨i, hnot, hi, rfl⟩))
    · exact .inr (.inr (.inr ⟨hnot, hi, hd⟩))

/-! ## One operation -/

theorem RanksWF.of_members {g' : Guild} (h : RanksWF g) (hr : g'.ranks = g.ranks)
    (hm : g'.members.All fun _ m => m.rankId < g.ranks.length) : RankWF g' :=
  ⟨h.congr hr, hr ▸ hm⟩

namespace RankWF

section

variable (h : RankWF g)
include h

theorem two_le : 2 ≤ g.ranks.length := by
  have := h.min
  unfold ranksMinCount at this
  omega

variable (guid : Guid)

theorem changeRank {newRank : Nat} (hn : newRank < g.ranks.length) : RankWF (g.changeRank guid newRank) := by
  refine h.toRanksWF.of_members rfl (all_modify.2 fun k m hm => ?_)
  dsimp only
  by_cases hk : guid = k
  · rw [if_pos hk]
    exact lt_of_le_of_lt (Nat.mod_le ..) hn
  · rw [if_neg hk]
    exact h.members k m hm

theorem erase : RankWF { g with members := g.members.erase guid } :=
  h.toRanksWF.of_members rfl (h.members.erase guid)

theorem setLeaderGUID : RankWF (g.setLeaderGUID guid) := by
  have hg : RankWF { g with leaderGuid := guid } := h.toRanksWF.of_members rfl h.members
  exact hg.changeRank guid (lt_of_lt_of_le (by decide) h.two_le)

theorem disband : RankWF g.disband := h.toRanksWF.of_members rfl OrdMap.All.empty

theorem handleAddNewRank (player : Guid) : RankWF (g.handleAddNewRank player) := by
  unfold Guild.handleAddNewRank
  by_cases hc : g.getRanksSize < ranksMaxCount ∧ g.isLeader player
  · rw [if_pos hc]
    refine ⟨h.toRanksWF.createRank rightChat, ?_⟩
    unfold Guild.createRank
    rw [if_neg (not_le.2 hc.1)]
    intro guid m hm
    have := h.members guid m hm
    simp only [length_append, length_cons, length_nil]
    omega
  · rw [if_neg hc]
    exact h

variable (order : List Guid)

theorem handleSetLeader (player : Guid) (name : String) : RankWF (g.handleSetLeader order player name) := by
  rcases handleSetLeader_cases g order player name with ⟨-, hsame⟩ | ⟨guid, -, -, hset⟩
  · rw [hsame]
    exact h
  · rw [hset]
    exact (h.setLeaderGUID guid).changeRank player h.two_le

theorem playerRank_lt : g.playerRank guid < g.ranks.length := by
  have h2 := h.two_le
  unfold playerRank
  cases hm : g.members.find? guid with
  | none =>
    rw [map_none, getD_none]
    omega
  | some m => exact h.members guid m hm

theorem handleUpdateMemberRank (player : Guid) (name : String)
    (demote : Bool) : RankWF (g.handleUpdateMemberRank order player name demote) := by
  have hlow := h.toRanksWF.getLowestRankId_eq
  rcases handleUpdateMemberRank_cases g order player name demote with
    hsame | ⟨guid, -, ⟨-, -, hmay⟩, hset⟩
  · rw [hsame]
    exact h
  · rw [hset]
    have hrank := h.playerRank_lt guid
    refine h.changeRank guid ?_
    cases demote with
    | true =>
      have hlt := hmay.2
      change g.playerRank guid + 1 < g.ranks.length
      omega
    | false =>
      change g.playerRank guid - 1 < g.ranks.length
      omega

theorem changeMemberRank (newRank : Nat) : RankWF (g.changeMemberRank guid newRank) := by
  unfold Guild.changeMemberRank
  by_cases hc : newRank ≤ g.getLowestRankId ∧ g.members.contains guid
  · rw [if_pos hc]
    have hle := hc.1
    have h2 := h.two_le
    rw [h.toRanksWF.getLowestRankId_eq] at hle
    exact h.changeRank guid (by omega)
  · rw [if_neg hc]
    exact h

theorem deleteMember (guid : Guid) : RankWF (g.deleteMember order guid) := by
  rcases deleteMember_cases g order guid with ⟨-, hd⟩ | ⟨i, -, -, hd⟩ | ⟨-, -, hd⟩
  · rw [hd]
    exact h.erase guid
  · rw [hd]
    exact (h.setLeaderGUID i).erase guid
  · rw [hd]
    exact h.disband

theorem handleRemoveLowestRank_iff (player : Guid) :
    RankWF (g.handleRemoveLowestRank player) ↔
      (ranksMinCount < g.getRanksSize → g.isLeader player →
        g.members.All fun _ m => m.rankId ≠ g.getLowestRankId) := by
  have hlow := h.toRanksWF.getLowestRankId_eq
  unfold Guild.handleRemoveLowestRank
  by_cases hc : ranksMinCount < g.getRanksSize ∧ g.isLeader player
  · rw [if_pos hc]
    have hmin := hc.1
    rw [h.toRanksWF.getRanksSize_eq] at hmin
    constructor
    · intro h' _ _ guid m hm
      have hlt : m.rankId < g.ranks.dropLast.length := h'.members guid m hm
      rw [length_dropLast] at hlt
      omega
    · intro hnone
      refine ⟨h.toRanksWF.dropLast hmin, fun guid m hm => ?_⟩
      have hlt := h.members guid m hm
      have hne := hnone hc.1 hc.2 guid m hm
      rw [length_dropLast]
      omega
  · rw [if_neg hc]
    exact iff_of_true h fun hmin hl => absurd ⟨hmin, hl⟩ hc

theorem addMember_iff (name : String) (rankId : Nat) (free : Bool) :
    RankWF (g.addMember guid name rankId free) ↔
      (g.members.contains guid = false → free = true →
        rankId = rankNone ∨ rankId < g.getRanksSize) := by
  have hlow := h.toRanksWF.getLowestRankId_eq
  have h2 := h.two_le
  rw [h.toRanksWF.getRanksSize_eq]
  unfold Guild.addMember
  by_cases hc : g.members.contains guid ∨ ¬ free
  · rw [if_pos hc]
    refine iff_of_true h fun hnew hfree => ?_
    rcases hc with hc | hc
    · rw [hnew] at hc
      cases hc
    · exact absurd hfree hc
  · rw [if_neg hc]
    rw [not_or, not_not] at hc
    have hnew : g.members.contains guid = false := by
      cases hg : g.members.contains guid with
      | false => rfl
      | true => exact absurd hg hc.1
    constructor
    · intro h' _ _
      have hlt := h'.members guid _ (find?_insert_self ..)
      by_cases hr : rankId = rankNone
      · exact .inl hr
      · rw [if_neg hr] at hlt
        exact .inr hlt
    · intro hrank
      refine h.toRanksWF.of_members rfl (h.members.insert ?_)
      dsimp only
      by_cases hr : rankId = rankNone
      · rw [if_pos hr]
        omega
      · rw [if_neg hr]
        exact (hrank hnew hc.2).resolve_left hr

end

end RankWF

/-! ## Loading -/

/-- The number of ranks that `Validate` leaves. -/
def ranksLoaded (g : Guild) : Nat := if g.brokenRanks then ranksMinCount else g.getRanksSize

/-- Nobody is loaded with the rank that `Validate` takes for an existing one, except whom it makes the
leader: the leader of the guild, or the only member of a guild without him. -/
def LoadsInRange (g : Guild) : Prop :=
  g.members.All fun guid m => m.rankId = g.ranksLoaded →
    guid = g.leaderGuid ∨ (g.members.find? g.leaderGuid = none ∧ ∀ other ∈ g.members.keys, other = guid)

theorem length_createDefaultGuildRanks (h : g.ranks = []) :
    g.createDefaultGuildRanks.ranks.length = ranksMinCount := by
  simp [createDefaultGuildRanks, createRank, getRanksSize, h, ranksMaxCount, ranksMinCount]

theorem ranksWF_validateRanks (hlen : g.ranks.length ≤ 256) :
    RanksWF g.validateRanks ∧ g.validateRanks.ranks.length = g.ranksLoaded := by
  unfold validateRanks ranksLoaded
  by_cases hb : g.brokenRanks
  · rw [if_pos hb, if_pos hb]
    exact ⟨ranksWF_createDefaultGuildRanks rfl, length_createDefaultGuildRanks rfl⟩
  · rw [if_neg hb, if_neg hb]
    unfold brokenRanks at hb
    push Not at hb
    obtain ⟨hmin, hmax, hids⟩ := hb
    have hsize : g.getRanksSize = g.ranks.length := by
      unfold getRanksSize at hmin ⊢
      unfold ranksMinCount at hmin
      omega
    rw [hsize] at hmin hmax hids ⊢
    refine ⟨⟨?_, hmin, hmax⟩, rfl⟩
    apply ext_getElem?
    intro i
    rw [getElem?_map]
    by_cases hi : i < g.ranks.length
    · rw [hids i hi, getElem?_range hi]
    · rw [getElem?_eq_none (not_lt.1 hi), map_none, getElem?_eq_none (by rw [length_range]; exact not_lt.1 hi)]

section

variable (h : RanksWF g)
include h

theorem validateMembers_le : g.validateMembers.members.All fun _ m => m.rankId ≤ g.ranks.length := by
  refine all_mapVal.2 fun guid m _ => ?_
  dsimp only
  rw [h.getRanksSize_eq, h.getLowestRankId_eq]
  by_cases hm : g.ranks.length < m.rankId
  · rw [if_pos hm]
    exact Nat.sub_le ..
  · rw [if_neg hm]
    exact not_lt.1 hm

theorem validateMembers_rank_eq {P : Guid → Prop} :
    (g.validateMembers.members.All fun guid m => m.rankId = g.ranks.length → P guid) ↔
      g.members.All fun guid m => m.rankId = g.ranks.length → P guid := by
  have hmin := h.min
  unfold ranksMinCount at hmin
  unfold validateMembers
  rw [all_mapVal, h.getRanksSize_eq, h.getLowestRankId_eq]
  refine all_congr fun guid m _ => ?_
  by_cases hm : g.ranks.length < m.rankId
  · rw [if_pos hm]
    exact iff_of_true (fun he => absurd he (by dsimp only; omega)) (fun he => absurd he (by omega))
  · rw [if_neg hm]

theorem validateMembers_guildMaster {P : Guid → Prop}
    (hg : g.members.All fun guid m => m.rankId = guildMaster → P guid) :
    g.validateMembers.members.All fun guid m => m.rankId = guildMaster → P guid := by
  have hmin := h.min
  unfold ranksMinCount at hmin
  refine all_mapVal.2 fun guid m hm => ?_
  dsimp only
  rw [h.getRanksSize_eq, h.getLowestRankId_eq]
  by_cases hr : g.ranks.length < m.rankId
  · rw [if_pos hr]
    intro hz
    change g.ranks.length - 1 = 0 at hz
    omega
  · rw [if_neg hr]
    exact hg guid m hm

theorem RanksWF.rankWF_iff_members : RankWF g ↔ g.members.All fun _ m => m.rankId < g.ranks.length :=
  ⟨fun h' => h'.members, fun hm => ⟨h, hm⟩⟩

theorem RanksWF.rankWF_setLeaderGUID (i : Guid) :
    RankWF (g.setLeaderGUID i) ↔ g.members.All fun guid m => guid ≠ i → m.rankId < g.ranks.length := by
  have hmin := h.min
  unfold ranksMinCount at hmin
  have hset : RanksWF (g.setLeaderGUID i) := h.congr rfl
  rw [hset.rankWF_iff_members]
  refine all_modify.trans (all_congr fun guid m _ => ?_)
  by_cases hi : i = guid
  · rw [if_pos hi]
    refine iff_of_true ?_ fun hne => absurd hi.symm hne
    change guildMaster % 256 < g.ranks.length
    unfold guildMaster
    omega
  · rw [if_neg hi]
    exact ⟨fun hlt _ => hlt, fun hlt => hlt (Ne.symm hi)⟩

/-- With ranks in order and members up to one past the lowest, the leader's part of `Validate` leaves a
sound structure if the leader is the only one there, or becomes it. -/
theorem rankWF_validateLeader (hle : g.members.All fun _ m => m.rankId ≤ g.ranks.length)
    {order : List Guid} (horder : order.Perm g.members.keys) :
    RankWF (g.validateLeader order) ↔ g.members.All fun guid m => m.rankId = g.ranks.length →
      guid = g.leaderGuid ∨
        (g.members.find? g.leaderGuid = none ∧ ∀ other ∈ g.members.keys, other = guid) := by
  have hmin := h.min
  unfold ranksMinCount at hmin
  have hspec := newLeader_spec g order g.leaderGuid
  rcases validateLeader_cases g order with
    ⟨l, hl, hr, hv⟩ | ⟨hmem, hv⟩ | ⟨i, hnot, hi, hv⟩ | ⟨hnot, hi, hv⟩
  · rw [hv, h.rankWF_iff_members]
    refine all_congr fun guid m hm => ⟨fun hlt he => absurd hlt (by omega), fun hout => ?_⟩
    have hm_le := hle guid m hm
    by_contra hno
    rcases hout (by omega) with hg | ⟨hnone, -⟩
    · rw [hg, hl, some.injEq] at hm
      rw [← hm, hr] at hno
      unfold guildMaster at hno
      omega
    · rw [hl] at hnone
      cases hnone
  · rw [hv, h.rankWF_setLeaderGUID]
    refine all_congr fun guid m hm => ⟨fun hlt he => ?_, fun hout hne => ?_⟩
    · by_contra hno
      exact absurd (hlt fun hg => hno (.inl hg)) (by omega)
    · have hm_le := hle guid m hm
      by_contra hno
      rcases hout (by omega) with hg | ⟨hnone, -⟩
      · exact hne hg
      · exact OrdMap.find?_eq_none.1 hnone hmem
  · -- the new leader is a member, and ranks above the others
    obtain ⟨himem, hine, himin⟩ := hspec.1 i hi
    rw [hv, h.rankWF_setLeaderGUID i]
    constructor
    · intro hlt guid m hm he
      have hgi : guid = i := by
        by_contra hno
        exact absurd (hlt guid m hm hno) (by omega)
      refine .inr ⟨OrdMap.find?_eq_none.2 hnot, fun other hother => ?_⟩
      by_contra hno
      obtain ⟨mo, hmo⟩ := mem_keys.1 hother
      have hlast := hlt other mo hmo (hgi ▸ hno)
      have hle' := himin other (horder.mem_iff.2 hother) fun hol => hnot (hol ▸ hother)
      simp only [playerRank, hmo, ← hgi, hm, map_some, getD_some] at hle'
      omega
    · intro hout guid m hm hne
      by_contra hno
      have hm_le := hle guid m hm
      rcases hout guid m hm (by omega) with hg | ⟨-, honly⟩
      · exact hnot (mem_keys.2 ⟨m, hg ▸ hm⟩)
      · exact hne (honly i (horder.mem_iff.1 himem)).symm
  · -- without members the guild is disbanded
    rw [hv]
    refine iff_of_true ⟨h.congr rfl, OrdMap.All.empty⟩ fun guid m hm => ?_
    have hmem : guid ∈ g.members.keys := mem_keys.2 ⟨m, hm⟩
    exact absurd (hspec.2 hi guid (horder.mem_iff.2 hmem) ▸ hmem) hnot

theorem rankWF_validateMasters (allow : Bool) : RankWF (g.validateMasters allow) ↔ RankWF g := by
  have hmin := h.min
  unfold ranksMinCount at hmin
  unfold validateMasters
  cases allow with
  | true => rfl
  | false =>
    rw [if_neg Bool.false_ne_true, (h.congr (by rfl)).rankWF_iff_members, h.rankWF_iff_members]
    refine all_mapVal.trans (all_congr fun guid m _ => ?_)
    by_cases hm : m.rankId = guildMaster ∧ guid ≠ g.leaderGuid
    · rw [if_pos hm, hm.1]
      refine iff_of_true ?_ ?_
      · change officer < g.ranks.length
        unfold officer
        omega
      · unfold guildMaster
        omega
    · rw [if_neg hm]

end

theorem ranks_validateLeader (g : Guild) (order : List Guid) : (g.validateLeader order).ranks = g.ranks := by
  rcases validateLeader_cases g order with ⟨-, -, -, hv⟩ | ⟨-, hv⟩ | ⟨_, -, -, hv⟩ | ⟨-, -, hv⟩
  · rw [hv]
  · rw [hv]
    rfl
  · rw [hv]
    rfl
  · rw [hv]
    rfl

theorem createRank_frame (g : Guild) (rights : Nat) :
    (g.createRank rights).members = g.members ∧ (g.createRank rights).leaderGuid = g.leaderGuid ∧
      (g.createRank rights).disbanded = g.disbanded := by
  unfold createRank
  by_cases hc : ranksMaxCount ≤ g.getRanksSize
  · rw [if_pos hc]
    exact ⟨rfl, rfl, rfl⟩
  · rw [if_neg hc]
    exact ⟨rfl, rfl, rfl⟩

theorem createDefaultGuildRanks_frame (g : Guild) :
    g.createDefaultGuildRanks.members = g.members ∧
      g.createDefaultGuildRanks.leaderGuid = g.leaderGuid ∧
      g.createDefaultGuildRanks.disbanded = g.disbanded := by
  simp only [createDefaultGuildRanks, createRank_frame, and_self]

theorem validateRanks_frame (g : Guild) :
    g.validateRanks.members = g.members ∧ g.validateRanks.leaderGuid = g.leaderGuid ∧
      g.validateRanks.disbanded = g.disbanded := by
  unfold validateRanks
  by_cases hb : g.brokenRanks
  · rw [if_pos hb]
    exact createDefaultGuildRanks_frame _
  · rw [if_neg hb]
    exact ⟨rfl, rfl, rfl⟩

theorem keys_validateMembers (g : Guild) : g.validateRanks.validateMembers.members.keys = g.members.keys := by
  unfold validateMembers
  rw [keys_mapVal, (validateRanks_frame g).1]

/-- What `Validate` makes of loaded rows has a sound rank structure exactly when nobody slips through its
check of the members. -/
theorem rankWF_validate (hlen : g.ranks.length ≤ 256) {order : List Guid}
    (horder : order.Perm g.members.keys) (allow : Bool) : RankWF (g.validate order allow) ↔ g.LoadsInRange := by
  obtain ⟨hwf, hcount⟩ := ranksWF_validateRanks hlen
  obtain ⟨hmembers, hleader, -⟩ := validateRanks_frame g
  have hwf' : RanksWF g.validateRanks.validateMembers := hwf.congr rfl
  have hkeys := keys_validateMembers g
  have hperm : order.Perm g.validateRanks.validateMembers.members.keys := hkeys.symm ▸ horder
  have hlead := rankWF_validateLeader hwf' (validateMembers_le hwf) hperm
  have hwfl : RanksWF (g.validateRanks.validateMembers.validateLeader order) :=
    hwf'.congr (ranks_validateLeader ..)
  have hnone : g.validateRanks.validateMembers.members.find? g.leaderGuid = none ↔
      g.members.find? g.leaderGuid = none := by
    rw [OrdMap.find?_eq_none, OrdMap.find?_eq_none, hkeys]
  have hall := hlead.trans (validateMembers_rank_eq hwf)
  rw [hkeys, hcount, hmembers] at hall
  change _ ↔ g.members.All fun guid m => _ → guid = g.validateRanks.leaderGuid ∨
    (g.validateRanks.validateMembers.members.find? g.validateRanks.leaderGuid = none ∧ _) at hall
  rw [hleader] at hall
  simp only [hnone] at hall
  refine Iff.trans ?_ hall
  unfold validate
  by_cases hempty : (g.validateRanks.validateMembers.validateLeader order).members.isEmpty
  · rw [if_pos hempty]
    refine iff_of_true ⟨hwfl.congr rfl, OrdMap.All.empty⟩ ⟨hwfl, fun guid m hm => ?_⟩
    rw [isEmpty_iff.1 hempty guid] at hm
    cases hm
  · rw [if_neg hempty]
    exact rankWF_validateMasters hwfl allow

namespace RankWF

theorem validateRanks_eq (h : RankWF g) : g.validateRanks = g := by
  have hb : ¬ g.brokenRanks := by
    unfold brokenRanks
    rw [h.toRanksWF.getRanksSize_eq]
    push Not
    refine ⟨h.min, h.max, fun i hi => ?_⟩
    rw [← getElem?_map, h.ids, getElem?_range hi]
  unfold Guild.validateRanks
  rw [if_neg hb]

theorem load (h : RankWF g) (names : Guid → String) (broken : List Guid) : RankWF (g.load names broken) := by
  refine h.toRanksWF.of_members rfl (all_mapVal.2 fun guid m hm => ?_)
  rw [find?_foldl_erase] at hm
  by_cases hb : guid ∈ broken
  · rw [if_pos hb] at hm
    cases hm
  · rw [if_neg hb] at hm
    exact h.members guid m hm

theorem validateLeader (h : RankWF g) (order : List Guid) : RankWF (g.validateLeader order) := by
  rcases validateLeader_cases g order with ⟨-, -, -, hv⟩ | ⟨-, hv⟩ | ⟨i, -, -, hv⟩ | ⟨-, -, hv⟩
  · rw [hv]
    exact h
  · rw [hv]
    exact h.setLeaderGUID g.leaderGuid
  · rw [hv]
    exact h.setLeaderGUID i
  · rw [hv]
    exact h.disband

theorem validate (h : RankWF g) (order : List Guid) (allow : Bool) : RankWF (g.validate order allow) := by
  have hm : RankWF g.validateMembers := by
    refine h.toRanksWF.of_members rfl (all_mapVal.2 fun guid m hm => ?_)
    have hlt := h.members guid m hm
    dsimp only
    rw [h.toRanksWF.getRanksSize_eq, if_neg (by omega)]
    exact hlt
  have hl := hm.validateLeader order
  unfold Guild.validate
  rw [h.validateRanks_eq]
  by_cases hempty : (g.validateMembers.validateLeader order).members.isEmpty
  · rw [if_pos hempty]
    exact hl.disband
  · rw [if_neg hempty]
    exact (rankWF_validateMasters hl.toRanksWF allow).2 hl

end RankWF

theorem rankWF_create (leader : Guid) (name : String) : RankWF (create leader name) := by
  have hranks : RanksWF ({ leaderGuid := leader } : Guild).createDefaultGuildRanks :=
    ranksWF_createDefaultGuildRanks rfl
  have hnew : RankWF ({ leaderGuid := leader } : Guild).createDefaultGuildRanks := by
    refine ⟨hranks, ?_⟩
    exact OrdMap.All.empty
  refine (hnew.addMember_iff leader name guildMaster true).2 fun _ _ => .inr ?_
  exact lt_of_lt_of_le (by decide) hranks.min

/-! ## Runs -/

/-- The event removes no rank that a member holds, and adds no member with a rank that the guild does not
have. The second is what every caller of `AddMember` does: `Create` passes `GR_GUILDMASTER`, the others
the default. -/
def KeepsRanks (g : Guild) (e : Event) : Prop :=
  g.disbanded = false →
    match e with
    | .removeLowestRank player =>
      ranksMinCount < g.getRanksSize → g.isLeader player →
        g.members.All fun _ m => m.rankId ≠ g.getLowestRankId
    | .addMember guid _ rankId free =>
      g.members.contains guid = false → free = true → rankId = rankNone ∨ rankId < g.getRanksSize
    | _ => True

instance (g : Guild) (e : Event) : Decidable (g.KeepsRanks e) :=
  match e with
  | .removeLowestRank player =>
    inferInstanceAs (Decidable (g.disbanded = false → ranksMinCount < g.getRanksSize →
      g.isLeader player → g.members.All fun _ m => m.rankId ≠ g.getLowestRankId))
  | .addMember guid _ rankId free =>
    inferInstanceAs (Decidable (g.disbanded = false → g.members.contains guid = false →
      free = true → rankId = rankNone ∨ rankId < g.getRanksSize))
  | .addNewRank _ | .updateMemberRank .. | .setLeader .. | .deleteMember .. | .changeMemberRank ..
  | .reload .. => isTrue fun _ => trivial

def Origin.InRange : Origin → Prop
  | .created _ _ => True
  | .loaded g _ _ => g.LoadsInRange

/-- A request keeps the ranks well-formed exactly when its condition holds. -/
theorem RankWF.step_iff (h : RankWF g) (e : Event) : RankWF (g.step e) ↔ g.KeepsRanks e := by
  unfold step KeepsRanks
  cases hd : g.disbanded with
  | true => exact iff_of_true h fun hf => by cases hf
  | false =>
    rw [forall_prop_of_true rfl]
    cases e with
    | addNewRank player => exact iff_of_true (h.handleAddNewRank player) trivial
    | removeLowestRank player => exact h.handleRemoveLowestRank_iff player
    | updateMemberRank order player name demote =>
      exact iff_of_true (h.handleUpdateMemberRank order player name demote) trivial
    | setLeader order player name => exact iff_of_true (h.handleSetLeader order player name) trivial
    | addMember guid name rankId free => exact h.addMember_iff guid name rankId free
    | deleteMember order guid => exact iff_of_true (h.deleteMember order guid) trivial
    | changeMemberRank guid newRank => exact iff_of_true (h.changeMemberRank guid newRank) trivial
    | reload names broken order allow => exact iff_of_true ((h.load names broken).validate order allow) trivial

theorem Origin.rankWF_guild {o : Origin} (ho : o.Valid) : RankWF o.guild ↔ o.InRange := by
  cases o with
  | created leader name => exact iff_of_true (rankWF_create leader name) trivial
  | loaded g order allow => exact rankWF_validate ho.2.1 ho.1 allow

/-- **The rank structure.** From a created or a loaded guild, in every state of every run the rank ids are
`0 .. n - 1` with `5 ≤ n ≤ 10` and every member holds one of them, if and only if nobody was loaded with
the rank one past the lowest, and no rank was removed while a member held it. -/
theorem rankWF_iff {o : Origin} (ho : o.Valid) (es : List Event) :
    (∀ pre, pre <+: es → RankWF (run step o.guild pre)) ↔ o.InRange ∧ AllSteps step KeepsRanks o.guild es := by
  rw [← o.rankWF_guild ho]
  exact AllSteps.always_iff (J := fun _ => True) (A := fun _ _ => True) (fun _ _ _ _ _ => trivial)
    (fun g e h _ _ => h.step_iff e) trivial (allSteps_true ..)

def rowsOfThree : Guild where
  leaderGuid := 1
  ranks := ({ leaderGuid := 1 } : Guild).createDefaultGuildRanks.ranks
  members :=
    ((OrdMap.empty.insert 1 { name := "Master", rankId := 0 }).insert 2
      { name := "Recruit", rankId := 9 }).insert 3 { name := "Veteran", rankId := 1 }

def sixthRank : List Event :=
  [.addNewRank 1, .updateMemberRank [3, 1, 2] 3 "Recruit" true,
    .updateMemberRank [3, 1, 2] 3 "Recruit" false, .removeLowestRank 1]

theorem rowsOfThree_rankWF :
    (∀ pre, pre <+: sixthRank → RankWF (run step (Origin.loaded rowsOfThree [3, 1, 2] false).guild pre)) ∧
    (run step (Origin.loaded rowsOfThree [3, 1, 2] false).guild (sixthRank.take 2)).playerRank 2 = 5 := by
  refine ⟨(rankWF_iff ?_ sixthRank).2 ⟨?_, ?_⟩, ?_⟩
  · exact ⟨by decide, by decide, by decide⟩
  · change OrdMap.All _ _
    decide
  · decide
  · decide

/-- The recruit holds the lowest rank when the leader removes it, and is left with a rank that the guild no
longer has. -/
theorem removed_while_held :
    (Origin.created 1 "Master").Valid ∧
    ¬ RankWF (run step (Origin.created 1 "Master").guild
      [.addNewRank 1, .addMember 2 "Recruit" rankNone true, .removeLowestRank 1]) := by
  refine ⟨trivial, ?_⟩
  decide

end Axium.Guilds.Guild
