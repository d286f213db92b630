import Axium.Battleground.QueueInvariant
import Axium.Lib.Greedy

/-!
# Cross-faction battlegrounds

For a new battleground `FillXPlayersToBG` first puts groups into the pool of their original faction
(`OTeam`), then balances with the others. The balancing writes the side into `Team`, the first part
does not, and the invitation goes by `Team`.
-/

namespace Axium.Queue

open State Greedy Run List

variable {env : Env} {st : State} {b : BattlegroundBracketId}

/-! ## The picks of the first part -/

namespace State

variable (st) (b)

def groupSize (p : Ptr) : Nat := (st.group p).size

def ownGroups (t : Team) : List Ptr :=
  (st.waiting b .mixed).filter fun p => Bg.teamIndex (st.group p).oTeam = t

/-- The room on each side: as many players as fit, as long as the other faction has as many. -/
def ownRoom (max : Nat) : Int :=
  min (min (toInt32 max) (total st.groupSize (st.ownGroups b .alliance)))
    (min (toInt32 max) (total st.groupSize (st.ownGroups b .horde)))

/-- The groups of a faction that fit, the largest first. -/
def ownPicks (max : Nat) (t : Team) : List Ptr :=
  fits st.groupSize (st.ownRoom b max) (largestFirst st.groupSize (st.ownGroups b t))

def FillStarts (env : Env) (template : Bg.Config) : Prop :=
  env.isTesting = true ∨ template.minPlayersPerTeam * 2 % 2 ^ 32 ≤ st.queuedPeople b

def PicksAgree (max : Nat) : Prop := ∀ t, ∀ p ∈ st.ownPicks b max t, (st.group p).team = t

end State

theorem multimapInsert_split {l : List (Int × Ptr)} (hsorted : l.Pairwise (·.1 ≤ ·.1)) (k : Int) (p : Ptr) :
    ∃ small large, l = small ++ large ∧ (∀ x ∈ small, x.1 ≤ k) ∧ (∀ x ∈ large, k < x.1) ∧
      multimapInsert l k p = small ++ (k, p) :: large := by
  induction l with
  | nil => exact ⟨[], [], rfl, by simp, by simp, rfl⟩
  | cons x l ih =>
    obtain ⟨hx, hl⟩ := pairwise_cons.1 hsorted
    by_cases hk : x.1 ≤ k
    · obtain ⟨small, large, rfl, hsmall, hlarge, heq⟩ := ih hl
      refine ⟨x :: small, large, rfl, ?_, hlarge, ?_⟩
      · intro y hy
        rcases mem_cons.1 hy with rfl | hy
        · exact hk
        · exact hsmall y hy
      · unfold multimapInsert at heq ⊢
        rw [takeWhile_cons_of_pos (by simpa using hk),
          dropWhile_cons_of_pos (by simpa using hk), cons_append, heq, cons_append]
    · refine ⟨[], x :: l, rfl, by simp, ?_, ?_⟩
      · intro y hy
        rcases mem_cons.1 hy with rfl | hy
        · omega
        · have := hx y hy
          omega
      · unfold multimapInsert
        rw [takeWhile_cons_of_neg (by simpa using hk), dropWhile_cons_of_neg (by simpa using hk)]

theorem queuedGroupMap_reverse (st : State) (ps : List Ptr) :
    (st.queuedGroupMap ps).reverse.map Prod.snd = largestFirst st.groupSize ps ∧
      (st.queuedGroupMap ps).Pairwise (·.1 ≤ ·.1) := by
  induction ps using List.reverseRecOn with
  | nil => exact ⟨rfl, .nil⟩
  | append_singleton ps p ih =>
    obtain ⟨hmap, hsorted⟩ := ih
    have hstep : st.queuedGroupMap (ps ++ [p]) = multimapInsert (st.queuedGroupMap ps) (st.groupSize p) p := by
      simp [queuedGroupMap, groupSize]
    have hkey : ∀ x ∈ st.queuedGroupMap ps, x.1 = (st.groupSize x.2 : Int) := by
      intro x hx
      obtain ⟨q, -, rfl⟩ := mem_queuedGroupMap.1 hx
      rfl
    rw [hstep, largestFirst_concat, ← hmap]
    obtain ⟨small, large, heq, hsmall, hlarge, hinsert⟩ := multimapInsert_split hsorted (st.groupSize p) p
    rw [hinsert]
    rw [heq] at hsorted hkey ⊢
    refine ⟨?_, ?_⟩
    · rw [reverse_append, reverse_append, map_append, map_append, orderedInsert_append]
      · simp
      · intro q hq
        obtain ⟨x, hx, rfl⟩ := mem_map.1 hq
        have hx := mem_reverse.1 hx
        have := hlarge x hx
        have := hkey x (mem_append_right _ hx)
        omega
      · intro q hq
        obtain ⟨x, hx, rfl⟩ := mem_map.1 hq
        have hx := mem_reverse.1 hx
        have := hsmall x hx
        have := hkey x (mem_append_left _ hx)
        omega
    · obtain ⟨hs, hl, -⟩ := pairwise_append.1 hsorted
      refine pairwise_append.2 ⟨hs, pairwise_cons.2 ⟨?_, hl⟩, ?_⟩
      · exact fun x hx => (hlarge x hx).le
      · intro x hx y hy
        have := hsmall x hx
        rcases mem_cons.1 hy with rfl | hy
        · exact this
        · have := hlarge y hy
          omega

/-! ## The first part -/

@[simp] theorem setPool_pool_self (st : State) (t : Team) (pool : SelectionPool) :
    (st.setPool t pool).pool t = pool :=
  PerTeam.get_set_self ..

theorem setPool_pool (st : State) (t t' : Team) (pool : SelectionPool) :
    (st.setPool t pool).pool t' = if t = t' then pool else st.pool t' :=
  PerTeam.get_set ..

@[simp] theorem setPool_setPool (st : State) (t : Team) (pool pool' : SelectionPool) :
    (st.setPool t pool).setPool t pool' = st.setPool t pool' := by
  cases t <;> rfl

@[simp] theorem setPool_pool_eq (st : State) (t : Team) : st.setPool t (st.pool t) = st := by
  cases t <;> rfl

theorem preAddPlayers_eq (st : State) {map : List (Int × Ptr)} {t : Team} {maxAdd : Int} {maxInTeam : Nat}
    (hmap : ∀ x ∈ map, x.1 = (st.groupSize x.2 : Int) ∧ Bg.teamIndex (st.group x.2).oTeam = t ∧
      (st.group x.2).isInvited = false)
    (hroom : maxAdd + (st.pool t).playerCount ≤ maxInTeam) :
    st.preAddPlayers map maxAdd maxInTeam = (st.setPool t
      { selectedGroups := (st.pool t).selectedGroups ++
          fits st.groupSize maxAdd (map.reverse.map Prod.snd)
        playerCount := (st.pool t).playerCount +
          total st.groupSize (fits st.groupSize maxAdd (map.reverse.map Prod.snd)) },
      maxAdd - total st.groupSize (fits st.groupSize maxAdd (map.reverse.map Prod.snd))) := by
  unfold preAddPlayers
  have hmap' : ∀ x ∈ map.reverse, x.1 = (st.groupSize x.2 : Int) ∧
      Bg.teamIndex (st.group x.2).oTeam = t ∧ (st.group x.2).isInvited = false := by simpa using hmap
  clear hmap
  generalize map.reverse = entries at hmap' ⊢
  induction entries generalizing st maxAdd with
  | nil =>
    simp only [foldl_nil, map_nil, fits, append_nil, total_nil, add_zero, Int.natCast_zero, Int.sub_zero]
    rw [setPool_pool_eq]
  | cons x entries ih =>
    obtain ⟨playerSize, p⟩ := x
    obtain ⟨hsize, hteam, hinv⟩ := hmap' (playerSize, p) mem_cons_self
    dsimp only at hsize hteam hinv
    subst hsize
    rw [foldl_cons, map_cons]
    unfold fits
    dsimp only
    split
    · rename_i hfit
      have hadd : (st.pool t).addGroup st.group p maxInTeam =
          (⟨(st.pool t).selectedGroups ++ [p], (st.pool t).playerCount + st.groupSize p⟩, true) := by
        have hle : (st.pool t).playerCount + (st.group p).size ≤ maxInTeam := by
          unfold groupSize at hfit
          omega
        simp [SelectionPool.addGroup, hinv, hle, groupSize]
      rw [hteam, hadd]
      rw [if_pos rfl, ih (st.setPool t _)]
      · rw [setPool_pool_self, setPool_setPool]
        simp only [append_assoc, singleton_append, total_cons, add_assoc, Int.natCast_add, ← Int.sub_sub]
        rfl
      · rw [setPool_pool_self]
        dsimp only
        omega
      · exact fun x hx => hmap' x (mem_cons_of_mem _ hx)
    · exact ih st hroom fun x hx => hmap' x (mem_cons_of_mem _ hx)

def State.ownPool (st : State) (b : BattlegroundBracketId) (max : Nat) (t : Team) : SelectionPool where
  selectedGroups := st.ownPicks b max t
  playerCount := total st.groupSize (st.ownPicks b max t)

theorem toInt32_le_toUInt32 (n : Nat) : toInt32 n ≤ toUInt32 (toInt32 n) := by
  unfold toInt32 toUInt32
  rw [Int.bmod_def]
  split <;> omega

theorem toInt32_le (n : Nat) : toInt32 n ≤ n := by
  unfold toInt32
  rw [Int.bmod_def]
  split <;> omega

theorem toUInt32_toInt32_le (n : Nat) : toUInt32 (toInt32 n) ≤ n := by
  unfold toInt32 toUInt32
  rw [Int.bmod_def]
  split <;> omega

theorem preAddOwn (st : State) (b : BattlegroundBracketId) (max : Nat) (t : Team)
    (pools : PerTeam SelectionPool) (hpool : pools.get t = {}) :
    { st with selectionPools := pools }.preAddPlayers (st.queuedGroupMap (st.ownGroups b t))
        (st.ownRoom b max) (toUInt32 (toInt32 max)) =
      ({ st with selectionPools := pools.set t (st.ownPool b max t) },
        st.ownRoom b max - total st.groupSize (st.ownPicks b max t)) := by
  have hroom : st.ownRoom b max ≤ toUInt32 (toInt32 max) := by
    have := toInt32_le_toUInt32 max
    unfold ownRoom
    omega
  have hpool' : { st with selectionPools := pools }.pool t = {} := hpool
  rw [preAddPlayers_eq { st with selectionPools := pools } (t := t)]
  · rw [hpool', (queuedGroupMap_reverse st _).1]
    simp only [nil_append, zero_add]
    rfl
  · intro x hx
    obtain ⟨p, hp, rfl⟩ := mem_queuedGroupMap.1 hx
    obtain ⟨hw, ho⟩ := mem_filter.1 hp
    have ho' : Bg.teamIndex (st.group p).oTeam = t := by simpa using ho
    have hw' : (st.group p).isInvited = false := by simpa using (mem_filter.1 hw).2
    exact ⟨rfl, ho', hw'⟩
  · rw [hpool', Int.natCast_zero, Int.add_zero]
    exact hroom

theorem preAdd_fill (st : State) (b : BattlegroundBracketId) (max : Nat) :
    st.initPools.preAdd b ⟨toInt32 max, toInt32 max⟩ =
      { st := { st with selectionPools := ⟨st.ownPool b max .alliance, st.ownPool b max .horde⟩ }
        free :=
          ⟨toInt32 max - (st.ownRoom b max - total st.groupSize (st.ownPicks b max .alliance)),
            toInt32 max - (st.ownRoom b max - total st.groupSize (st.ownPicks b max .horde))⟩ } := by
  have hpre : ∀ (slots : PerTeam Int) room, min (min slots.alliance ((st.ownGroups b .alliance).map
      fun p => (st.groupSize p : Int)).sum) (min slots.horde ((st.ownGroups b .horde).map fun p =>
      (st.groupSize p : Int)).sum) = room → st.initPools.preAdd b slots =
      let own := st.initPools.preAddPlayers (st.queuedGroupMap (st.ownGroups b .alliance)) room
        (toUInt32 slots.alliance)
      let both := own.1.preAddPlayers (st.queuedGroupMap (st.ownGroups b .horde)) room
        (toUInt32 slots.horde)
      { st := both.1, free := ⟨slots.alliance - own.2, slots.horde - both.2⟩ } := by
    rintro slots room rfl
    rfl
  have hA := preAddOwn st b max .alliance ⟨{}, {}⟩ rfl
  have hH := preAddOwn st b max .horde ⟨st.ownPool b max .alliance, {}⟩ rfl
  rw [hpre _ (st.ownRoom b max)]
  · dsimp only [State.initPools]
    rw [hA]
    dsimp only [PerTeam.set]
    rw [hH]
    rfl
  · rw [sum_map_cast, sum_map_cast, ownRoom]

theorem preAdd_eq (st : State) (b : BattlegroundBracketId) (max : Nat) :
    (st.initPools.preAdd b ⟨toInt32 max, toInt32 max⟩).st =
      { st with selectionPools := ⟨st.ownPool b max .alliance, st.ownPool b max .horde⟩ } :=
  congrArg FillState.st (preAdd_fill st b max)

/-! ## The balancing -/

/-- What the balancing makes of the picks of the first part: it adds groups and writes their side. -/
structure Balanced (st : State) (b : BattlegroundBracketId) (picks : Team → List Ptr) (max : Nat)
    (s : State) : Prop where
  live : ∀ p, (∃ g, st.groups p = some g) → ∃ g, s.groups p = some g
  players : ∀ p, (s.group p).players = (st.group p).players
  invited : ∀ p, s.invitedTo p = st.invitedTo p
  added : ∀ t, ∃ extra, (s.pool t).selectedGroups = picks t ++ extra ∧ ∀ p ∈ extra, (s.group p).team = t
  kept : ∀ t, ∀ p ∈ picks t, (s.group p).team = (st.group p).team
  once : ((s.pool .alliance).selectedGroups ++ (s.pool .horde).selectedGroups).Nodup
  waiting : ∀ t, ∀ p ∈ (s.pool t).selectedGroups, p ∈ st.waiting b .mixed
  count : ∀ t, (s.pool t).playerCount = total st.groupSize (s.pool t).selectedGroups
  room : ∀ t, (s.pool t).playerCount ≤ max

namespace Balanced

variable {picks : Team → List Ptr} {max : Nat} {s : State}

theorem setTeam (h : Balanced st b picks max s) {p : Ptr} (hp : ∀ t, p ∉ (s.pool t).selectedGroups) (t : Team) :
    Balanced st b picks max (s.setTeam p t) where
  live q hq := modifyGroup_live s p _ (h.live q hq)
  players q := by
    rw [← h.players q]
    exact modifyGroup_field s GroupQueueInfo.players (f := ({ · with team := t })) (fun _ => rfl) p q
  invited q := (setTeam_invitedTo s p t q).trans (h.invited q)
  added t' := by
    obtain ⟨extra, heq, hextra⟩ := h.added t'
    refine ⟨extra, heq, fun q hq => ?_⟩
    have hne : q ≠ p := by
      rintro rfl
      exact hp t' (heq ▸ mem_append_right _ hq)
    rw [setTeam_group s hne]
    exact hextra q hq
  kept t' q hq := by
    have hne : q ≠ p := by
      rintro rfl
      obtain ⟨extra, heq, -⟩ := h.added t'
      exact hp t' (heq ▸ mem_append_left _ hq)
    rw [setTeam_group s hne]
    exact h.kept t' q hq
  once := h.once
  waiting := h.waiting
  count := h.count
  room := h.room

theorem addToPool (h : Balanced st b picks max s) {p : Ptr}
    (hp : ∀ t, p ∉ (s.pool t).selectedGroups) (hwait : p ∈ st.waiting b .mixed)
    (hfit : (s.pool (s.group p).team).playerCount + st.groupSize p ≤ max) :
    Balanced st b picks max (s.setPool (s.group p).team
      { selectedGroups := (s.pool (s.group p).team).selectedGroups ++ [p]
        playerCount := (s.pool (s.group p).team).playerCount + st.groupSize p }) where
  live := h.live
  players := h.players
  invited := h.invited
  added t := by
    obtain ⟨extra, heq, hextra⟩ := h.added t
    rw [setPool_pool]
    split
    · rename_i ht
      subst ht
      refine ⟨extra ++ [p], by rw [heq, append_assoc], fun q hq => ?_⟩
      rcases mem_append.1 hq with hq | hq
      · exact hextra q hq
      · rw [mem_singleton.1 hq]
        rfl
    · exact ⟨extra, heq, hextra⟩
  kept := h.kept
  once := by
    have hnew : (p :: ((s.pool .alliance).selectedGroups ++ (s.pool .horde).selectedGroups)).Nodup :=
      nodup_cons.2 ⟨by simp [hp], h.once⟩
    rw [setPool_pool, setPool_pool]
    cases (s.group p).team with
    | alliance =>
      simp only [if_true, reduceCtorEq, if_false, append_assoc, singleton_append]
      exact nodup_middle.2 hnew
    | horde =>
      simp only [if_true, reduceCtorEq, if_false, ← append_assoc]
      exact (perm_append_singleton _ _).nodup_iff.2 hnew
  waiting t q hq := by
    rw [setPool_pool] at hq
    split at hq
    · rcases mem_append.1 hq with hq | hq
      · exact h.waiting _ q hq
      · rwa [mem_singleton.1 hq]
    · exact h.waiting t q hq
  count t := by
    rw [setPool_pool]
    split
    · simp [h.count]
    · exact h.count t
  room t := by
    rw [setPool_pool]
    split
    · exact hfit
    · exact h.room t

theorem fillOne {f : FillState} {p : Ptr} (h : Balanced st b picks max f.st)
    (hp : p ∈ st.queuedGroups b .mixed) (minPlayers : Nat) {slots : PerTeam Int}
    (hslots : ∀ t, toUInt32 (slots.get t) ≤ max) :
    Balanced st b picks max (fillOne minPlayers slots f p).st := by
  unfold State.fillOne
  split
  · exact h
  · rename_i hskip
    simp only [Bool.or_eq_true, not_or, decide_eq_true_eq] at hskip
    obtain ⟨⟨⟨hinv, hA⟩, hH⟩, -⟩ := hskip
    have hout : ∀ t, p ∉ (f.st.pool t).selectedGroups := by
      intro t
      cases t with
      | alliance => exact hA
      | horde => exact hH
    have hwait : p ∈ st.waiting b .mixed := by
      refine mem_filter.2 ⟨hp, ?_⟩
      rw [isInvited_eq, h.invited, ← isInvited_eq] at hinv
      simpa using hinv
    -- first the team, then the pool that goes with it
    obtain ⟨s, hs, hbal, hout'⟩ : ∃ s, (if f.free.alliance ≠ f.free.horde then
        f.st.setTeam p (if f.free.alliance < f.free.horde then .horde else .alliance)
        else f.st) = s ∧ Balanced st b picks max s ∧ ∀ t, p ∉ (s.pool t).selectedGroups := by
      split
      · exact ⟨_, rfl, h.setTeam hout _, hout⟩
      · exact ⟨_, rfl, h, hout⟩
    simp only [hs]
    have hsize : (s.group p).size = st.groupSize p := congrArg OrdMap.size (hbal.players p)
    unfold SelectionPool.addGroup
    rw [hsize]
    split
    · rename_i hfit
      simp only [Bool.and_eq_true, decide_eq_true_eq] at hfit
      exact hbal.addToPool hout' hwait (hfit.2.trans (hslots _))
    · rw [setPool_pool_eq]
      exact hbal

theorem foldl_fillOne {f : FillState} {order : List Ptr} (h : Balanced st b picks max f.st)
    (horder : ∀ p ∈ order, p ∈ st.queuedGroups b .mixed) (minPlayers : Nat) {slots : PerTeam Int}
    (hslots : ∀ t, toUInt32 (slots.get t) ≤ max) :
    Balanced st b picks max (order.foldl (State.fillOne minPlayers slots) f).st := by
  induction order generalizing f with
  | nil => exact h
  | cons p order ih =>
    exact ih (h.fillOne (horder p mem_cons_self) minPlayers hslots) fun q hq =>
      horder q (mem_cons_of_mem p hq)

end Balanced

theorem mem_ownPicks {max : Nat} {t : Team} {p : Ptr} (h : p ∈ st.ownPicks b max t) :
    p ∈ st.waiting b .mixed ∧ Bg.teamIndex (st.group p).oTeam = t := by
  have hmem := (largestFirst_perm _).subset ((fits_sublist _ _).subset h)
  obtain ⟨hwait, hown⟩ := mem_filter.1 hmem
  exact ⟨hwait, by simpa using hown⟩

section

variable (hnodup : (st.queuedGroups b .mixed).Nodup)
include hnodup

theorem nodup_ownPicks (max : Nat) (t : Team) : (st.ownPicks b max t).Nodup := by
  have hown : (st.ownGroups b t).Nodup := (hnodup.filter _).filter _
  exact (fits_sublist _ _).nodup ((largestFirst_perm _).nodup_iff.2 hown)

theorem balanced_ownPool (max : Nat) :
    Balanced st b (st.ownPicks b max) max
      { st with selectionPools := ⟨st.ownPool b max .alliance, st.ownPool b max .horde⟩ } where
  live _ h := h
  players _ := rfl
  invited _ := rfl
  added t := ⟨[], by cases t <;> exact (append_nil _).symm, by simp⟩
  kept _ _ _ := rfl
  once := by
    refine nodup_append.2 ⟨nodup_ownPicks hnodup max _, nodup_ownPicks hnodup max _, ?_⟩
    rintro p hA q hH rfl
    have hA := (mem_ownPicks hA).2
    rw [(mem_ownPicks hH).2] at hA
    cases hA
  waiting t p hp := by
    cases t with
    | alliance => exact (mem_ownPicks hp).1
    | horde => exact (mem_ownPicks hp).1
  count t := by cases t <;> rfl
  room t := by
    have hroom : st.ownRoom b max ≤ (max : Int) := by
      have := toInt32_le max
      unfold ownRoom
      omega
    cases t with
    | alliance => exact total_fits_le hroom _
    | horde => exact total_fits_le hroom _

theorem checkCrossFactionMatch_balanced {template : Bg.Config} (harena : template.isArena = false)
    (hstart : st.FillStarts b env template) :
    Balanced st b (st.ownPicks b template.maxPlayersPerTeam) template.maxPlayersPerTeam
      (st.checkCrossFactionMatch env b (Bg.create template env.world)).1 := by
  have hcond : (env.isTesting || decide (template.minPlayersPerTeam * 2 % 2 ^ 32 ≤ st.queuedPeople b) ||
      !true) = true := by
    simpa [FillStarts] using hstart
  unfold checkCrossFactionMatch
  rw [if_neg (by simp [Bg.create, harena])]
  unfold fillXPlayersToBG
  dsimp only [Bg.create]
  rw [if_pos hcond]
  simp only [if_true]
  have hbal := balanced_ownPool hnodup template.maxPlayersPerTeam
  rw [← preAdd_eq] at hbal
  refine hbal.foldl_fillOne (fun p hp => ?_) _ (fun t => ?_)
  · obtain ⟨x, hx, rfl⟩ := mem_map.1 hp
    obtain ⟨q, hq, rfl⟩ := mem_queuedGroupMap.1 (mem_reverse.1 hx)
    rwa [preAdd_eq] at hq
  · rw [PerTeam.get_const]
    exact toUInt32_toInt32_le template.maxPlayersPerTeam

end

theorem checkCrossFactionMatch_idle {template : Bg.Config} (hstart : ¬ st.FillStarts b env template) :
    (st.checkCrossFactionMatch env b (Bg.create template env.world)).1 = st := by
  have hcond : ¬ (env.isTesting || decide (template.minPlayersPerTeam * 2 % 2 ^ 32 ≤
      st.queuedPeople b) || !true) = true := by
    simpa [FillStarts] using hstart
  unfold checkCrossFactionMatch
  split
  · rfl
  · unfold fillXPlayersToBG
    dsimp only [Bg.create]
    rw [if_neg hcond]

theorem balanced_empty (hpools : st.selectionPools = ⟨{}, {}⟩) (b : BattlegroundBracketId)
    (max : Nat) : Balanced st b (fun _ => []) max st := by
  have hpool : ∀ t, st.pool t = {} := by
    intro t
    rw [pool, hpools, PerTeam.get_const]
  exact {
    live := fun _ h => h
    players := fun _ => rfl
    invited := fun _ => rfl
    added := fun t => ⟨[], by rw [hpool]; rfl, by simp⟩
    kept := by simp
    once := by simp [hpool]
    waiting := by simp [hpool]
    count := by simp [hpool]
    room := by simp [hpool] }

/-! ## The invitations -/

variable {inst : Instance} {i : InstanceId}

theorem inviteOwn_cases (env : Env) (st : State) {p : Ptr}
    (hinv : st.invitedTo p = 0) (hinst : st.instances i = some inst) :
    (st.inviteGroupToBG env p i (some (st.group p).team)).1 = st.invite env p i inst := by
  rw [inviteGroupToBG_side env st hinst (by simp [isInvited_eq, hinv]), setTeam_self]

/-- The groups `ps` are invited to `i`, each counted for its side. -/
structure InvitesAll (s s' : State) (i : InstanceId) (ps : List Ptr) : Prop where
  team : ∀ q, (s'.group q).team = (s.group q).team
  invited : ∀ q, s'.invitedTo q = if q ∈ ps then i else s.invitedTo q
  pools : s'.selectionPools = s.selectionPools
  counts : ∀ inst, s.instances i = some inst → ∃ inst', s'.instances i = some inst' ∧
    ∀ t, inst'.bg.invited.get t ≤ inst.bg.invited.get t +
      total s.groupSize (ps.filter fun p => (s.group p).team = t)

theorem incr32_iterate_le (n k : Nat) : incr32^[n] k ≤ k + n := by
  induction n generalizing k with
  | zero => exact le_refl k
  | succ n ih =>
    rw [Function.iterate_succ_apply]
    have := ih (incr32 k)
    unfold incr32 at this ⊢
    omega

theorem foldl_inviteOwn_cases (env : Env) (s : State)
    {ps : List Ptr} (hinst : s.instances i = some inst)
    (hlive : ∀ p ∈ ps, ∃ g, s.groups p = some g) (hinv : ∀ p ∈ ps, s.invitedTo p = 0)
    (hnodup : ps.Nodup) :
    let s' := ps.foldl (fun s p => (s.inviteGroupToBG env p i (some (s.group p).team)).1) s
    (∀ q, (s'.group q).team = (s.group q).team) ∧
      (∀ q, s'.invitedTo q = if q ∈ ps then i else s.invitedTo q) ∧
      s'.selectionPools = s.selectionPools ∧
      ∃ inst', s'.instances i = some inst' ∧
        ∀ t, ∃ n ≤ total s.groupSize (ps.filter fun p => (s.group p).team = t),
          inst'.bg.invited.get t = incr32^[n] (inst.bg.invited.get t) := by
  induction ps generalizing s inst with
  | nil => exact ⟨fun _ => rfl, fun q => by simp, rfl, inst, hinst, fun t => ⟨0, Nat.zero_le _, rfl⟩⟩
  | cons p ps ih =>
    obtain ⟨g, hg⟩ := hlive p mem_cons_self
    obtain ⟨hp, hps⟩ := nodup_cons.1 hnodup
    obtain ⟨rings, instances, heq⟩ := s.invite_cases env p i inst
    obtain ⟨inst₁, hupdate, -, -, hcount⟩ := invite_instance env p hinst
    rw [foldl_cons, inviteOwn_cases env s (hinv p mem_cons_self) hinst]
    have hto := invite_invitedTo env s ⟨g, hg⟩ i inst
    have hinst₁ : (s.invite env p i inst).instances i = some inst₁ := by
      rw [hupdate, Function.update_self]
    have hteam : ∀ q, ((s.invite env p i inst).group q).team = (s.group q).team :=
      s.invite_field GroupQueueInfo.team (fun _ _ _ => rfl) env p i inst
    have hsize : (s.invite env p i inst).groupSize = s.groupSize :=
      funext (s.invite_field GroupQueueInfo.size (fun _ _ _ => rfl) env p i inst)
    have hrest := ih (s.invite env p i inst) hinst₁ ?_ ?_ hps
    · obtain ⟨hteam', hto', hpools', inst₂, hinst₂, hcount'⟩ := hrest
      refine ⟨fun q => (hteam' q).trans (hteam q), fun q => ?_, ?_, inst₂, hinst₂, fun t => ?_⟩
      · rw [hto', hto]
        by_cases hqp : q = p
        · simp [hqp]
        · simp [hqp]
      · rw [hpools', heq]
        rfl
      · obtain ⟨n, hn, heq⟩ := hcount' t
        have honline : ((s.group p).players.keys.filter env.online).length ≤ s.groupSize p := by
          refine (length_filter_le _ _).trans_eq ?_
          exact length_map ..
        simp only [hsize, hteam] at hn
        rw [heq, hcount t]
        by_cases ht : (s.group p).team = t
        · refine ⟨n + ((s.group p).players.keys.filter env.online).length, ?_, ?_⟩
          · rw [filter_cons_of_pos (by simpa using ht), total_cons]
            omega
          · rw [if_pos ht, Function.iterate_add_apply]
        · refine ⟨n, ?_, by rw [if_neg ht]⟩
          rwa [filter_cons_of_neg (by simpa using ht)]
    · intro q hq
      rw [heq]
      exact modifyGroup_live s p _ (hlive q (mem_cons_of_mem p hq))
    · intro q hq
      rw [hto, if_neg (by rintro rfl; exact hp hq)]
      exact hinv q (mem_cons_of_mem p hq)

theorem foldl_inviteOwn (env : Env) (s : State) {ps : List Ptr}
    (hinst : s.instances i = some inst) (hlive : ∀ p ∈ ps, ∃ g, s.groups p = some g)
    (hinv : ∀ p ∈ ps, s.invitedTo p = 0) (hnodup : ps.Nodup) :
    InvitesAll s (ps.foldl (fun s p => (s.inviteGroupToBG env p i (some (s.group p).team)).1) s) i ps := by
  obtain ⟨hteam, hto, hpools, inst', hinst', hcount⟩ := foldl_inviteOwn_cases env s hinst hlive hinv hnodup
  refine ⟨hteam, hto, hpools, fun inst₀ hinst₀ => ?_⟩
  rw [hinst] at hinst₀
  cases hinst₀
  refine ⟨inst', hinst', fun t => ?_⟩
  obtain ⟨n, hn, heq⟩ := hcount t
  rw [heq]
  exact (incr32_iterate_le n _).trans (Nat.add_le_add_left hn _)

theorem invitePools_eq (env : Env) (s : State) (hinst : s.instances i = some inst)
    (hlive : ∀ t, ∀ p ∈ (s.pool t).selectedGroups, ∃ g, s.groups p = some g)
    (hinv : ∀ t, ∀ p ∈ (s.pool t).selectedGroups, s.invitedTo p = 0)
    (honce : ((s.pool .alliance).selectedGroups ++ (s.pool .horde).selectedGroups).Nodup) :
    s.invitePools env i =
      ((s.pool .alliance).selectedGroups ++ (s.pool .horde).selectedGroups).foldl
        (fun s p => (s.inviteGroupToBG env p i (some (s.group p).team)).1) s := by
  have hA := foldl_inviteOwn env s hinst (hlive .alliance) (hinv .alliance) (nodup_append.1 honce).1
  have hpool : (s.invitePool env i .alliance).pool .horde = s.pool .horde :=
    congrArg (PerTeam.get · Team.horde) hA.pools
  rw [foldl_append, ← hpool]
  rfl

theorem forall_pools {s : State} {P : Ptr → Prop} (h : ∀ t, ∀ p ∈ (s.pool t).selectedGroups, P p) :
    ∀ p ∈ (s.pool .alliance).selectedGroups ++ (s.pool .horde).selectedGroups, P p := by
  intro p hp
  rcases mem_append.1 hp with hp | hp
  · exact h .alliance p hp
  · exact h .horde p hp

theorem invitePools_invitesAll (env : Env) (s : State) (hinst : s.instances i = some inst)
    (hlive : ∀ t, ∀ p ∈ (s.pool t).selectedGroups, ∃ g, s.groups p = some g)
    (hinv : ∀ t, ∀ p ∈ (s.pool t).selectedGroups, s.invitedTo p = 0)
    (honce : ((s.pool .alliance).selectedGroups ++ (s.pool .horde).selectedGroups).Nodup) :
    InvitesAll s (s.invitePools env i) i
      ((s.pool .alliance).selectedGroups ++ (s.pool .horde).selectedGroups) := by
  rw [invitePools_eq env s hinst hlive hinv honce]
  exact foldl_inviteOwn env s hinst (forall_pools hlive) (forall_pools hinv) honce

theorem filter_pools_team {s : State}
    (hside : ∀ t, ∀ p ∈ (s.pool t).selectedGroups, (s.group p).team = t) (t : Team) :
    ((s.pool .alliance).selectedGroups ++ (s.pool .horde).selectedGroups).filter
      (fun p => decide ((s.group p).team = t)) = (s.pool t).selectedGroups := by
  have hown : ∀ t', (s.pool t').selectedGroups.filter (fun p => decide ((s.group p).team = t)) =
      if t' = t then (s.pool t').selectedGroups else [] := by
    intro t'
    split
    · rename_i ht
      subst ht
      exact filter_eq_self.2 fun p hp => by simpa using hside _ p hp
    · rename_i ht
      exact filter_eq_nil_iff.2 fun p hp => by simpa [hside _ p hp] using ht
  rw [filter_append, hown, hown]
  cases t with
  | alliance => simp
  | horde => simp

/-! ## Capacity -/

/-- Every selected group is invited on the side of its pool, no side has more players invited than it
has places, and no group is invited twice. -/
structure RespectsSides (st st₁ st' : State) (i : InstanceId) (max : Nat) : Prop where
  sides : ∀ t, ∀ p ∈ (st₁.pool t).selectedGroups, st'.invitedTo p = i ∧ (st'.group p).team = t
  capacity : ∃ inst, st'.instances i = some inst ∧ ∀ t : Team, inst.bg.getInvitedCountByTeam t.id ≤ max
  once : ((st₁.pool .alliance).selectedGroups ++ (st₁.pool .horde).selectedGroups).Nodup ∧
    ∀ t, ∀ p ∈ (st₁.pool t).selectedGroups, (st.group p).isInvited = false

theorem Balanced.total_pool {picks : Team → List Ptr} {max : Nat} {s : State}
    (h : Balanced st b picks max s) (t : Team) :
    total s.groupSize (s.pool t).selectedGroups = (s.pool t).playerCount := by
  have hsize : s.groupSize = st.groupSize := funext fun p => congrArg OrdMap.size (h.players p)
  rw [h.count, hsize]

theorem Balanced.respectsSides_iff (hwf : WF st) {picks : Team → List Ptr} {max : Nat} {s : State}
    (h : Balanced st b picks max s) (env : Env) (i : InstanceId) (typeId : BattlegroundTypeId)
    (config : Bg.Config) (arenaType : Nat) :
    RespectsSides st s
        ((s.createNewBattleground env i typeId config b arenaType false).invitePools env i) i max ↔
      ∀ t, ∀ p ∈ picks t, (st.group p).team = t := by
  obtain ⟨inst, hinst, hnone⟩ : ∃ inst,
      (s.createNewBattleground env i typeId config b arenaType false).instances i = some inst ∧
        inst.bg.invited = ⟨0, 0⟩ := ⟨_, Function.update_self .., rfl⟩
  have hwait : ∀ t, ∀ p ∈ (s.pool t).selectedGroups, (st.group p).isInvited = false := by
    intro t p hp
    simpa using (mem_filter.1 (h.waiting t p hp)).2
  have hall := invitePools_invitesAll env _ hinst (fun t p hp => h.live p
      (hwf.live b .mixed p (mem_filter.1 (h.waiting t p hp)).1))
    (fun t p hp => (h.invited p).trans (by simpa [isInvited_eq] using hwait t p hp)) h.once
  generalize (s.createNewBattleground env i typeId config b arenaType false).invitePools env i = s' at hall
  have hto : ∀ t, ∀ p ∈ (s.pool t).selectedGroups, s'.invitedTo p = i := by
    intro t p hp
    rw [hall.invited]
    refine if_pos ?_
    cases t with
    | alliance => exact mem_append_left _ hp
    | horde => exact mem_append_right _ hp
  have hteam : ∀ p, (s'.group p).team = (s.group p).team := hall.team
  constructor
  · intro hr t p hp
    obtain ⟨extra, heq, -⟩ := h.added t
    rw [← h.kept t p hp, ← hteam]
    exact (hr.sides t p (heq ▸ mem_append_left _ hp)).2
  · intro hagree
    have hside : ∀ t, ∀ p ∈ (s.pool t).selectedGroups, (s.group p).team = t := by
      intro t p hp
      obtain ⟨extra, heq, hextra⟩ := h.added t
      rw [heq] at hp
      rcases mem_append.1 hp with hp | hp
      · rw [h.kept t p hp]
        exact hagree t p hp
      · exact hextra p hp
    refine ⟨fun t p hp => ⟨hto t p hp, (hteam p).trans (hside t p hp)⟩, ?_, h.once, hwait⟩
    obtain ⟨inst', hinst', hle⟩ := hall.counts inst hinst
    refine ⟨inst', hinst', fun t => ?_⟩
    -- who is invited on a side is exactly its pool
    have hpool := filter_pools_team hside t
    have hsize := h.total_pool t
    have hle := (hle t).trans_eq (congrArg₂ (· + ·) (congrArg (PerTeam.get · t) hnone)
      ((congrArg (total s.groupSize) hpool).trans hsize))
    rw [Bg.Battleground.getInvitedCountByTeam, Bg.teamIndex_id]
    refine hle.trans ?_
    rw [PerTeam.get_const, zero_add]
    exact h.room t

/-- **The pools of a cross-faction battleground are its sides exactly when** every group that fits on
the side of its original faction has the team of that side, or nothing is filled. -/
theorem crossFaction_fair_iff (hwf : WF st) (hpools : st.selectionPools = ⟨{}, {}⟩) {template : Bg.Config}
    (hcheck : (st.checkCrossFactionMatch env b (Bg.create template env.world)).2 = true)
    (i : InstanceId) (typeId : BattlegroundTypeId) (config : Bg.Config) (arenaType : Nat) :
    RespectsSides st (st.checkCrossFactionMatch env b (Bg.create template env.world)).1
        (((st.checkCrossFactionMatch env b (Bg.create template env.world)).1.createNewBattleground env
          i typeId config b arenaType false).invitePools env i) i template.maxPlayersPerTeam ↔
      (st.FillStarts b env template → st.PicksAgree b template.maxPlayersPerTeam) := by
  have harena : template.isArena = false := by
    cases harena : template.isArena with
    | false => rfl
    | true => simp [checkCrossFactionMatch, Bg.create, harena] at hcheck
  by_cases hstart : st.FillStarts b env template
  · rw [(checkCrossFactionMatch_balanced (hwf.nodup b .mixed) harena hstart).respectsSides_iff hwf]
    exact ⟨fun h _ => h, fun h => h hstart⟩
  · rw [checkCrossFactionMatch_idle hstart, (balanced_empty hpools b _).respectsSides_iff hwf]
    simp [hstart]

def duel : Bg.Config :=
  { isArena := false, isRated := false, minPlayersPerTeam := 1, maxPlayersPerTeam := 1 }

def duelJoin (guid : Guid) (team : Team) (oTeam : Nat) : Join where
  leader := guid
  team := team
  oTeam := oTeam
  bgTypeId := .ws
  bracketId := 0

def duelQueue (a h : Team) : State :=
  run step {} [(sampleEnv, .addGroup (duelJoin 1 a Team.alliance.id)),
    (sampleEnv, .addGroup (duelJoin 2 h Team.horde.id))]

/-- The pools that `CheckCrossFactionMatch` leaves. -/
def duelPools (a h : Team) : State :=
  ((duelQueue a h).checkCrossFactionMatch sampleEnv 0 (Bg.create duel sampleEnv.world)).1

theorem crossFaction_fair_of_own : RespectsSides (duelQueue .alliance .horde)
    (duelPools .alliance .horde) (((duelPools .alliance .horde).createNewBattleground sampleEnv 1 .ws
      duel 0 0 false).invitePools sampleEnv 1) 1 1 := by
  have hwf : WF (duelQueue .alliance .horde) := by
    refine run_wf _ [] ?_
    decide
  refine (crossFaction_fair_iff hwf rfl (by decide) 1 .ws duel 0).2 fun _ t => ?_
  cases t with
  | alliance => decide
  | horde => decide

/-- A player of the alliance with the team of the horde, as an earlier round may leave it, is selected
for the alliance and invited as the second player of the horde. -/
theorem crossFaction_unfair :
    ((duelQueue .horde .horde).checkCrossFactionMatch sampleEnv 0 (Bg.create duel sampleEnv.world)).2 = true ∧
    ¬ RespectsSides (duelQueue .horde .horde) (duelPools .horde .horde)
      (((duelPools .horde .horde).createNewBattleground sampleEnv 1 .ws duel 0 0 false).invitePools
        sampleEnv 1) 1 1 := by
  refine ⟨by decide, fun h => ?_⟩
  have hside := (h.sides .alliance 0 (by decide)).2
  revert hside
  decide

end Axium.Queue
