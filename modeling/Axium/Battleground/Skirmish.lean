import Axium.Battleground.CrossFaction

/-!
# Skirmishes within one faction

When `CheckNormalMatch` finds enough players on one side only, `CheckSkirmishForSameFaction` looks for
the opponents behind the last group it selected, in the same list, and makes them the other faction.
**`skirmish_pairs`**: either two full pools without a common group come out of it, the second one
moved to the other faction's list, or the lists and the groups stay as they are.
-/

namespace Axium.Queue

open State Greedy Run List

variable {env : Env} {st : State} {b : BattlegroundBracketId}

/-! ## Pools -/

namespace SelectionPool

variable {get : Ptr → GroupQueueInfo} {max : Nat} {pool : SelectionPool}

structure Sound (get : Ptr → GroupQueueInfo) (max : Nat) (pool : SelectionPool) : Prop where
  count : pool.playerCount = total (fun p => (get p).size) pool.selectedGroups
  room : pool.playerCount ≤ max
  waiting : ∀ p ∈ pool.selectedGroups, (get p).isInvited = false

theorem Sound.empty (get : Ptr → GroupQueueInfo) (max : Nat) : Sound get max {} where
  count := rfl
  room := Nat.zero_le max
  waiting := by simp

theorem addGroup_cases (get : Ptr → GroupQueueInfo) (pool : SelectionPool) {p : Ptr}
    (hinv : (get p).isInvited = false) (max : Nat) :
    (pool.playerCount + (get p).size ≤ max ∧ pool.addGroup get p max =
        (⟨pool.selectedGroups ++ [p], pool.playerCount + (get p).size⟩, true)) ∨
      (max < pool.playerCount + (get p).size ∧
        pool.addGroup get p max = (pool, decide (pool.playerCount < max))) := by
  by_cases hfit : pool.playerCount + (get p).size ≤ max
  · exact .inl ⟨hfit, by simp [addGroup, hinv, hfit]⟩
  · exact .inr ⟨by omega, by simp [addGroup, hfit]⟩

theorem Sound.add (h : Sound get max pool) {p : Ptr} (hinv : (get p).isInvited = false)
    (hfit : pool.playerCount + (get p).size ≤ max) :
    Sound get max ⟨pool.selectedGroups ++ [p], pool.playerCount + (get p).size⟩ where
  count := by simp [h.count]
  room := hfit
  waiting q hq := by
    rcases mem_append.1 hq with hq | hq
    · exact h.waiting q hq
    · rw [mem_singleton.1 hq]
      exact hinv

theorem Sound.addWaiting (h : Sound get max pool) (ps : List Ptr) :
    Sound get max (pool.addWaiting get max ps) ∧
      pool.playerCount ≤ (pool.addWaiting get max ps).playerCount := by
  induction ps generalizing pool with
  | nil => exact ⟨h, le_rfl⟩
  | cons p ps ih =>
    unfold SelectionPool.addWaiting
    split
    · exact ih h
    · rename_i hinv
      rw [Bool.not_eq_true] at hinv
      rcases addGroup_cases get pool hinv max with ⟨hfit, hadd⟩ | ⟨-, hadd⟩
      · obtain ⟨hsound, hle⟩ := ih (h.add hinv hfit)
        simp only [hadd, if_true]
        exact ⟨hsound, (Nat.le_add_right _ _).trans hle⟩
      · simp only [hadd]
        split
        · exact ih h
        · exact ⟨h, le_rfl⟩

theorem Sound.addUntil (h : Sound get max pool) (minPlayers : Nat) (ps : List Ptr) :
    Sound get max (pool.addUntil get minPlayers max ps).1 := by
  induction ps generalizing pool with
  | nil => exact h
  | cons p ps ih =>
    unfold SelectionPool.addUntil
    split
    · exact ih h
    · rename_i hinv
      rw [Bool.not_eq_true] at hinv
      have hnext : Sound get max (pool.addGroup get p max).1 := by
        rcases addGroup_cases get pool hinv max with ⟨hfit, hadd⟩ | ⟨-, hadd⟩
        · rw [hadd]
          exact h.add hinv hfit
        · rw [hadd]
          exact h
      dsimp only
      split
      · exact hnext
      · exact ih hnext

theorem addUntil_reaches (get : Ptr → GroupQueueInfo) (pool : SelectionPool) {max minPlayers : Nat}
    {ps : List Ptr} (hlow : pool.playerCount < minPlayers)
    (hend : minPlayers ≤ (pool.addUntil get minPlayers max ps).1.playerCount) :
    ∃ (pre : List Ptr) (last : Ptr) (behind l : List Ptr), ps = pre ++ last :: behind ∧
      l.Sublist pre ∧
      (pool.addUntil get minPlayers max ps).1.selectedGroups = pool.selectedGroups ++ l ++ [last] := by
  induction ps generalizing pool with
  | nil => exact absurd hend (not_le.2 hlow)
  | cons p ps ih =>
    unfold SelectionPool.addUntil at hend ⊢
    split at hend
    · rename_i hinv
      obtain ⟨pre, last, behind, l, rfl, hl, heq⟩ := ih _ hlow hend
      rw [if_pos hinv]
      exact ⟨p :: pre, last, behind, l, rfl, hl.cons p, heq⟩
    · rename_i hinv
      rw [if_neg hinv]
      rw [Bool.not_eq_true] at hinv
      dsimp only at hend ⊢
      rcases addGroup_cases get pool hinv max with ⟨-, hadd⟩ | ⟨-, hadd⟩
      · rw [hadd] at hend ⊢
        split at hend
        · rename_i hfull
          rw [if_pos hfull]
          exact ⟨[], p, ps, [], rfl, .slnil, by simp⟩
        · rename_i hmore
          rw [if_neg hmore]
          obtain ⟨pre, last, behind, l, rfl, hl, heq⟩ := ih _ (not_le.1 hmore) hend
          refine ⟨p :: pre, last, behind, p :: l, rfl, hl.cons_cons p, ?_⟩
          rw [heq]
          simp
      · rw [hadd] at hend ⊢
        -- without the group the pool is as far from its end as before
        rw [if_neg (not_le.2 hlow)] at hend ⊢
        obtain ⟨pre, last, behind, l, rfl, hl, heq⟩ := ih _ hlow hend
        exact ⟨p :: pre, last, behind, l, rfl, hl.cons p, heq⟩

end SelectionPool

open SelectionPool

/-! ## After a normal match that cannot start -/

/-- The pools that the first loop of `CheckNormalMatch` fills. -/
def State.firstPools (st : State) (b : BattlegroundBracketId) (n : Nat) : State :=
  { st with selectionPools :=
      ⟨(st.initPools.selectNormal b n n .alliance).1, (st.initPools.selectNormal b n n .horde).1⟩ }

theorem firstPools_pool (st : State) (b : BattlegroundBracketId) (n : Nat) (t : Team) :
    (st.firstPools b n).pool t =
      (({} : SelectionPool).addUntil st.group n n (st.queuedGroups b (.normal t))).1 := by
  cases t <;> rfl

theorem firstPools_sound (st : State) (b : BattlegroundBracketId) (n : Nat) (t : Team) :
    Sound st.group n ((st.firstPools b n).pool t) := by
  rw [firstPools_pool]
  exact (Sound.empty st.group n).addUntil n _

variable {s : State} {n : Nat}

theorem evenOut_full (hsound : ∀ t, Sound s.group n (s.pool t))
    (hfull : ∀ t, n ≤ (s.pool t).playerCount) (rest : Team → List Ptr) (t : Team) :
    ((s.evenOut rest).pool t).playerCount = n := by
  have hcount : ∀ t, (s.pool t).playerCount = n := fun t => le_antisymm (hsound t).room (hfull t)
  unfold State.evenOut
  generalize (if (s.pool .horde).playerCount < (s.pool .alliance).playerCount then Team.horde
    else .alliance) = j
  rw [setPool_pool]
  split
  · rename_i ht
    rw [ht, hcount]
    obtain ⟨hgrown, hle⟩ := (hsound t).addWaiting ((rest t).drop 1)
    exact le_antisymm hgrown.room ((hfull t).trans hle)
  · exact hcount t

theorem checkNormalMatch_false {isBattleground : Bool}
    (h : (st.initPools.checkNormalMatch env isBattleground b n n).2 = false) :
    (st.initPools.checkNormalMatch env isBattleground b n n).1 = st.firstPools b n ∧
      ∃ t, ((st.firstPools b n).pool t).playerCount < n := by
  have hfirst : ({ st.initPools with selectionPools :=
      ⟨(st.initPools.selectNormal b n n .alliance).1,
        (st.initPools.selectNormal b n n .horde).1⟩ } : State) = st.firstPools b n := rfl
  unfold checkNormalMatch at h ⊢
  dsimp only at h ⊢
  rw [hfirst] at h ⊢
  cases henough : (st.firstPools b n).enoughPlayers n with
  | false =>
    refine ⟨by simp, ?_⟩
    simp only [enoughPlayers, Bool.and_eq_false_iff, decide_eq_false_iff_not, not_le] at henough
    rcases henough with hA | hH
    · exact ⟨.alliance, hA⟩
    · exact ⟨.horde, hH⟩
  | true =>
    exfalso
    have hfull : ∀ t, n ≤ ((st.firstPools b n).pool t).playerCount := by
      simp only [enoughPlayers, Bool.and_eq_true, decide_eq_true_eq] at henough
      intro t
      cases t with
      | alliance => exact henough.1
      | horde => exact henough.2
    have heven := evenOut_full (firstPools_sound st b n) hfull fun t =>
      (st.initPools.selectNormal b n n t).2
    rw [henough] at h
    by_cases htype : env.invitationType = 0
    · simp [htype, henough] at h
    · simp [htype, enoughPlayers, heven] at h

/-! ## The groups of the other pool -/

section Transfers

variable (st) (b) (source target : GroupType) (t : Team) (ps : List Ptr)

theorem transferAll_queuedGroups (hne : source ≠ target) (b' : BattlegroundBracketId)
    (j' : GroupType) : (st.transferAll b ps source target t).queuedGroups b' j' =
      if b' = b ∧ j' = source then (st.queuedGroups b source).diff ps
      else if b' = b ∧ j' = target then ps.reverse ++ st.queuedGroups b target else st.queuedGroups b' j' := by
  induction ps generalizing st with
  | nil =>
    split
    · rename_i hbj
      simp [hbj]
    · split
      · rename_i hbj
        simp [hbj]
      · rfl
  | cons p ps ih =>
    rw [transferAll_cons, ih, transfer_queuedGroups, transfer_queuedGroups, transfer_queuedGroups]
    simp only [true_and, if_true, hne.symm, if_false, diff_cons, reverse_cons, append_assoc, singleton_append]
    split
    · rfl
    · split
      · rfl
      · rfl

theorem transferAll_groups (q : Ptr) : (st.transferAll b ps source target t).groups q =
      if q ∈ ps then (st.groups q).map ({ · with team := t }) else st.groups q := by
  induction ps generalizing st with
  | nil => simp
  | cons p ps ih =>
    rw [transferAll_cons, ih, transfer_groups]
    by_cases hq : q = p
    · subst hq
      cases st.groups q <;> simp
    · simp [hq]

theorem transferAll_pools : (st.transferAll b ps source target t).selectionPools = st.selectionPools := by
  induction ps generalizing st with
  | nil => rfl
  | cons p ps ih =>
    rw [transferAll_cons, ih]
    rfl

theorem transferAll_size (q : Ptr) :
    ((st.transferAll b ps source target t).group q).size = (st.group q).size := by
  rw [State.group, transferAll_groups]
  split
  · rw [State.group]
    cases st.groups q <;> rfl
  · rfl

variable {st b source target ps}

theorem transferAll_moved (hl : Lists st) (hne : source ≠ target)
    (hsub : ps ⊆ st.queuedGroups b source) {p : Ptr} (hp : p ∈ ps) :
    ((st.transferAll b ps source target t).group p).team = t ∧
      p ∈ (st.transferAll b ps source target t).queuedGroups b target ∧
      p ∉ (st.transferAll b ps source target t).queuedGroups b source := by
  obtain ⟨g, hg⟩ := hl.live b source p (hsub hp)
  refine ⟨?_, ?_, ?_⟩
  · rw [State.group, transferAll_groups, if_pos hp]
    simp [hg]
  · rw [transferAll_queuedGroups st b source target t ps hne, if_neg fun h => hne h.2.symm]
    simp [hp]
  · rw [transferAll_queuedGroups st b source target t ps hne, if_pos ⟨rfl, rfl⟩]
    exact fun h => ((hl.nodup b source).mem_sdiff_iff.1 h).2 hp

theorem transferAll_perm (hne : source ≠ target) (hsub : ps.Sublist (st.queuedGroups b source)) :
    ((st.transferAll b ps source target t).queuedGroups b target ++
        (st.transferAll b ps source target t).queuedGroups b source).Perm
      (st.queuedGroups b target ++ st.queuedGroups b source) := by
  have hlists := transferAll_queuedGroups st b source target t ps hne b
  rw [hlists, hlists, if_neg fun h => hne h.2.symm, if_pos ⟨rfl, rfl⟩, if_pos ⟨rfl, rfl⟩]
  have hdiff : (ps ++ (st.queuedGroups b source).diff ps).Perm (st.queuedGroups b source) :=
    subperm_append_diff_self_of_count_le fun x _ => hsub.count_le x
  have hswap : (ps.reverse ++ st.queuedGroups b target).Perm (st.queuedGroups b target ++ ps) :=
    perm_append_comm.trans ((reverse_perm ps).append_left _)
  refine (hswap.append_right _).trans ?_
  rw [append_assoc]
  exact hdiff.append_left _

end Transfers

/-! ## Pairing -/

/-- Two full pools of waiting groups; those of one came from the list of the other faction and are
now in their own. -/
structure Paired (s s' : State) (b : BattlegroundBracketId) (n : Nat) : Prop where
  full : ∀ t, (s'.pool t).playerCount = n ∧ total s'.groupSize (s'.pool t).selectedGroups = n
  nodup : ∀ t, (s'.pool t).selectedGroups.Nodup
  disjoint : (s'.pool .alliance).selectedGroups.Disjoint (s'.pool .horde).selectedGroups
  waiting : ∀ t, ∀ p ∈ (s'.pool t).selectedGroups, (s.group p).isInvited = false
  flipped : ∃ t, ∀ p ∈ (s'.pool t.other).selectedGroups, p ∈ s.queuedGroups b (.normal t) ∧
    (s'.group p).team = t.other ∧ p ∈ s'.queuedGroups b (.normal t.other) ∧
    p ∉ s'.queuedGroups b (.normal t)
  union : (s'.queuedGroups b (.normal .alliance) ++ s'.queuedGroups b (.normal .horde)).Perm
    (s.queuedGroups b (.normal .alliance) ++ s.queuedGroups b (.normal .horde))

def State.sameFaction (s : State) (n : Nat) : Team :=
  if (s.pool .horde).playerCount = n then .horde else .alliance

theorem sameFaction_full (hroom : ∀ t, (s.pool t).playerCount ≤ n)
    (h : ¬ ((s.pool .alliance).playerCount < n ∧ (s.pool .horde).playerCount < n)) :
    (s.pool (s.sameFaction n)).playerCount = n := by
  have hA := hroom .alliance
  have hH := hroom .horde
  unfold State.sameFaction
  split
  · assumption
  · omega

theorem checkSkirmish_eq {pre behind l : List Ptr} {last : Ptr}
    (h : ¬ ((s.pool .alliance).playerCount < n ∧ (s.pool .horde).playerCount < n))
    (hsel : (s.pool (s.sameFaction n)).selectedGroups = l ++ [last])
    (hlist : s.queuedGroups b (.normal (s.sameFaction n)) = pre ++ last :: behind)
    (hlast : last ∉ pre) :
    let t := s.sameFaction n
    let filled := ({} : SelectionPool).addWaiting s.group n behind
    s.checkSkirmishForSameFaction b n =
      if filled.playerCount ≠ n then (s.setPool t.other filled, false)
      else (filled.selectedGroups.foldl (changeSide b t last) (s.setPool t.other filled), true) := by
  intro t filled
  have hkeep : ((s.setPool t.other {}).pool t) = s.pool t := by
    rw [setPool_pool, if_neg t.other_ne]
  have hdrop : (pre ++ last :: behind).dropWhile (· ≠ last) = last :: behind := by
    rw [dropWhile_append_of_pos]
    · simp
    · intro q hq
      have hne : q ≠ last := fun h => hlast (h ▸ hq)
      simpa using hne
  unfold checkSkirmishForSameFaction
  rw [if_neg (by simpa using h)]
  dsimp only
  rw [show (if (s.pool .horde).playerCount = n then Team.horde else .alliance) = t from rfl, hkeep,
    hsel, getLast?_concat]
  dsimp only
  rw [show (s.setPool t.other {}).queuedGroups = s.queuedGroups from rfl, hlist, hdrop]
  dsimp only
  rw [setPool_pool_self, setPool_setPool, setPool_pool_self]
  rfl

theorem checkSkirmish_none (h : (s.checkSkirmishForSameFaction b n).2 = false) :
    (s.checkSkirmishForSameFaction b n).1.queuedGroups = s.queuedGroups ∧
      (s.checkSkirmishForSameFaction b n).1.groups = s.groups := by
  revert h
  unfold checkSkirmishForSameFaction
  split
  · exact fun _ => ⟨rfl, rfl⟩
  · dsimp only
    generalize (if (s.pool .horde).playerCount = n then Team.horde else .alliance) = t
    split
    · exact fun _ => ⟨rfl, rfl⟩
    · split
      · exact fun _ => ⟨rfl, rfl⟩
      · split
        · exact fun _ => ⟨rfl, rfl⟩
        · exact nofun

theorem normal_perm {s s' : State} (t : Team)
    (h : (s'.queuedGroups b (.normal t.other) ++ s'.queuedGroups b (.normal t)).Perm
      (s.queuedGroups b (.normal t.other) ++ s.queuedGroups b (.normal t))) :
    (s'.queuedGroups b (.normal .alliance) ++ s'.queuedGroups b (.normal .horde)).Perm
      (s.queuedGroups b (.normal .alliance) ++ s.queuedGroups b (.normal .horde)) := by
  cases t with
  | alliance => exact (perm_append_comm.trans h).trans perm_append_comm
  | horde => exact h

theorem disjoint_sides (t : Team) (h : (s.pool t).selectedGroups.Disjoint (s.pool t.other).selectedGroups) :
    (s.pool .alliance).selectedGroups.Disjoint (s.pool .horde).selectedGroups := by
  cases t with
  | alliance => exact h
  | horde => exact h.symm

theorem paired_of_filled {t : Team} {pre behind l : List Ptr} {last : Ptr}
    (hl : Lists s) (hsound : Sound s.group n (s.pool t)) (hcount : (s.pool t).playerCount = n)
    (hsel : (s.pool t).selectedGroups = l ++ [last]) (hpre : l.Sublist pre)
    (hlist : s.queuedGroups b (.normal t) = pre ++ last :: behind)
    (hfilled : (({} : SelectionPool).addWaiting s.group n behind).playerCount = n) :
    Paired s ((({} : SelectionPool).addWaiting s.group n behind).selectedGroups.foldl (changeSide b t last)
      (s.setPool t.other (({} : SelectionPool).addWaiting s.group n behind))) b n := by
  obtain ⟨ps, hsub, -, hps⟩ := addWaiting_selectedGroups s.group {} n behind
  have hother := ((Sound.empty s.group n).addWaiting behind).1
  generalize ({} : SelectionPool).addWaiting s.group n behind = filled at hfilled hps hother ⊢
  rw [nil_append] at hps
  have hnodup : (pre ++ last :: behind).Nodup := hlist ▸ hl.nodup b (.normal t)
  obtain ⟨-, hlb, hdisj⟩ := nodup_append.1 hnodup
  obtain ⟨hlast, hbehind⟩ := nodup_cons.1 hlb
  have hne : GroupType.normal t ≠ .normal t.other := fun h => t.other_ne (GroupType.normal.inj h).symm
  have hbelow : behind.Sublist (s.queuedGroups b (.normal t)) := by
    rw [hlist]
    exact (sublist_cons_self last behind).trans (sublist_append_right pre _)
  rw [foldl_changeSide_eq (s.setPool t.other filled) b hlist hnodup (hps ▸ hsub.nodup hbehind)
    (hps ▸ hsub.subset), hps]
  have hls : Lists (s.setPool t.other filled) := hl.of_sameLists ⟨rfl, rfl, fun _ => rfl⟩ hl.side
  have hmem : ps.Sublist ((s.setPool t.other filled).queuedGroups b (.normal t)) := hsub.trans hbelow
  have hmoved := fun p (hp : p ∈ ps) => transferAll_moved t.other hls hne hmem.subset hp
  have hperm := transferAll_perm t.other hne hmem
  have hsize := transferAll_size (s.setPool t.other filled) b (.normal t) (.normal t.other) t.other ps
  have hpools := transferAll_pools (s.setPool t.other filled) b (.normal t) (.normal t.other) t.other ps
  generalize (s.setPool t.other filled).transferAll b ps (.normal t) (.normal t.other) t.other = s'
    at hmoved hperm hsize hpools ⊢
  have hpool : ∀ t', s'.pool t' = if t.other = t' then filled else s.pool t' := fun t' => by
    rw [State.pool, hpools]
    exact setPool_pool s t.other t' filled
  have hpoolt : s'.pool t = s.pool t := by rw [hpool, if_neg t.other_ne]
  have hpoolo : s'.pool t.other = filled := by rw [hpool, if_pos rfl]
  have hgs : s'.groupSize = s.groupSize := funext hsize
  -- every pool is that of `t` or the one that was filled
  have hboth : ∀ t', Sound s.group n (s'.pool t') ∧ (s'.pool t').playerCount = n ∧
      (s'.pool t').selectedGroups.Nodup := by
    intro t'
    rw [hpool]
    split
    · exact ⟨hother, hfilled, hps ▸ hsub.nodup hbehind⟩
    · rename_i ht'
      have : t' = t := by simpa using Team.eq_other_of_ne (Ne.symm ht')
      rw [this, hsel]
      have hbefore : (l ++ [last]).Sublist (pre ++ last :: behind) :=
        hpre.append ((nil_sublist behind).cons_cons last)
      exact ⟨hsound, hcount, hbefore.nodup hnodup⟩
  refine ⟨fun t' => ⟨(hboth t').2.1, ?_⟩, fun t' => (hboth t').2.2, disjoint_sides t ?_,
    fun t' => (hboth t').1.waiting, ⟨t, fun p hp => ?_⟩, normal_perm t hperm⟩
  · rw [hgs, ← (hboth t').2.1]
    exact (hboth t').1.count.symm
  · rw [hpoolt, hpoolo, hsel, hps]
    intro q hq hq'
    have hqb : q ∈ behind := hsub.subset hq'
    rcases mem_append.1 hq with hq | hq
    · exact hdisj q (hpre.subset hq) q (mem_cons_of_mem last hqb) rfl
    · rw [mem_singleton.1 hq] at hqb
      exact hlast hqb
  · rw [hpoolo, hps] at hp
    exact ⟨hmem.subset hp, hmoved p hp⟩

/-- **A skirmish within one faction is a proper pairing**, or nothing has happened. -/
theorem skirmish_pairs (hl : Lists st) {isBattleground : Bool} {n : Nat}
    (hnormal : (st.initPools.checkNormalMatch env isBattleground b n n).2 = false) :
    let s := (st.initPools.checkNormalMatch env isBattleground b n n).1
    let s' := (s.checkSkirmishForSameFaction b n).1
    ((s.checkSkirmishForSameFaction b n).2 = true → Paired s s' b n) ∧
      ((s.checkSkirmishForSameFaction b n).2 = false →
        s'.queuedGroups = s.queuedGroups ∧ s'.groups = s.groups) := by
  obtain ⟨hfirst, hfew⟩ := checkNormalMatch_false hnormal
  rw [hfirst]
  refine ⟨fun htrue => ?_, checkSkirmish_none⟩
  have hls : Lists (st.firstPools b n) := hl.of_sameLists ⟨rfl, rfl, fun _ => rfl⟩ hl.side
  have hsound := firstPools_sound st b n
  have hpool := firstPools_pool st b n
  have hlists : (st.firstPools b n).queuedGroups = st.queuedGroups := rfl
  have hgroup : (st.firstPools b n).group = st.group := rfl
  generalize st.firstPools b n = s at hfew htrue hls hsound hpool hlists hgroup ⊢
  have hn : 0 < n := by
    omega
  have hsome : ¬ ((s.pool .alliance).playerCount < n ∧ (s.pool .horde).playerCount < n) := by
    intro hnone
    unfold checkSkirmishForSameFaction at htrue
    rw [if_pos (by simpa using hnone)] at htrue
    cases htrue
  have hcount := sameFaction_full (fun t => (hsound t).room) hsome
  -- the full pool ends with the group at which the first loop stopped
  obtain ⟨pre, last, behind, l, hlist, hpre, hsel⟩ := addUntil_reaches st.group {} hn (by rw [← hpool, hcount])
  rw [← hpool] at hsel
  rw [← hlists] at hlist
  have hlast : last ∉ pre := by
    have hnodup := hls.nodup b (.normal (s.sameFaction n))
    rw [hlist] at hnodup
    exact fun h => (nodup_append.1 hnodup).2.2 last h last mem_cons_self rfl
  have heq := checkSkirmish_eq hsome hsel hlist hlast
  rw [heq] at htrue ⊢
  split at htrue
  · cases htrue
  · rename_i hfilled
    rw [if_neg hfilled]
    exact paired_of_filled hls (hgroup ▸ hsound _) hcount hsel hpre hlist (not_not.1 hfilled)

def skirmishJoin (guids : List Guid) : Join where
  leader := guids.headD 0
  members := some guids
  team := .alliance
  bgTypeId := .aa
  bracketId := 0
  arenaType := 2

def skirmishQueue : State :=
  run step {} [(sampleEnv, .addGroup (skirmishJoin [1])), (sampleEnv, .addGroup (skirmishJoin [2])),
    (sampleEnv, .addGroup (skirmishJoin [3, 4]))]

theorem skirmish_pairs_alliance :
    Paired (skirmishQueue.initPools.checkNormalMatch sampleEnv false 0 2 2).1
      ((skirmishQueue.initPools.checkNormalMatch sampleEnv false 0 2 2).1.checkSkirmishForSameFaction
        0 2).1 0 2 := by
  have hwf : WF skirmishQueue := by
    refine run_wf _ [] ?_
    decide
  exact (skirmish_pairs hwf.toLists (by decide)).1 (by decide)

end Axium.Queue
