import Axium.Battleground.QueueMoves

/-!
# Every update is a sequence of moves

Each matchmaking algorithm is followed once, from the cross-faction fill to the rated branch, and
shown to make nothing but moves. `update_refines` puts them together: moves, perhaps a new premade
battleground, moves, perhaps a new match, moves.
-/

namespace Axium.Queue

open List State SelectionPool
open Bg (Battleground)
open State

variable (env : Env) (st : State) (b : BattlegroundBracketId)

/-! ## Cross-faction battlegrounds -/

variable {p : Ptr}

theorem mem_multimapInsert {l : List (Int × Ptr)} {k : Int} {x : Int × Ptr} :
    x ∈ multimapInsert l k p ↔ x ∈ l ∨ x = (k, p) := by
  have hsplit : x ∈ l ↔ x ∈ l.takeWhile (·.1 ≤ k) ∨ x ∈ l.dropWhile (·.1 ≤ k) := by
    rw [← mem_append, takeWhile_append_dropWhile]
  rw [multimapInsert, mem_append, mem_cons]
  tauto

variable {ps : List Ptr}

theorem mem_queuedGroupMap {st : State} {x : Int × Ptr} :
    x ∈ st.queuedGroupMap ps ↔ ∃ p ∈ ps, x = (((st.group p).size : Int), p) := by
  have hfold : ∀ (ps : List Ptr) (l : List (Int × Ptr)),
      x ∈ ps.foldl (fun l p => multimapInsert l (st.group p).size p) l ↔
        x ∈ l ∨ ∃ p ∈ ps, x = (((st.group p).size : Int), p) := by
    intro ps
    induction ps with
    | nil => simp
    | cons p ps ih =>
      intro l
      rw [foldl_cons, ih, mem_multimapInsert, exists_mem_cons_iff, or_assoc]
  rw [queuedGroupMap, hfold]
  simp

theorem preAddPlayers_cases {map : List (Int × Ptr)}
    (hmap : ∀ x ∈ map, ∃ g, st.groups x.2 = some g) (maxAdd : Int) (maxInTeam : Nat) :
    ∃ pools, (st.preAddPlayers map maxAdd maxInTeam).1 = { st with selectionPools := pools } ∧
      Selects env st { st with selectionPools := pools } := by
  unfold preAddPlayers
  have hmap' : ∀ x ∈ map.reverse, ∃ g, st.groups x.2 = some g := by simpa using hmap
  clear hmap
  generalize map.reverse = entries at hmap' ⊢
  induction entries generalizing st maxAdd with
  | nil => exact ⟨st.selectionPools, rfl, .refl st⟩
  | cons x entries ih =>
    obtain ⟨playerSize, p⟩ := x
    rw [foldl_cons]
    dsimp only
    have hp := hmap' (playerSize, p) mem_cons_self
    have hrest : ∀ x ∈ entries, ∃ g, st.groups x.2 = some g := fun x hx => hmap' x (mem_cons_of_mem _ hx)
    split
    · have hset : Selects env st (st.setPool (Bg.teamIndex (st.group p).oTeam)
          ((st.pool (Bg.teamIndex (st.group p).oTeam)).addGroup st.group p maxInTeam).1) := by
        refine .setPool fun q hq => ?_
        rcases mem_addGroup hq with hq | rfl
        · exact .inl hq
        · exact .inr hp
      obtain ⟨pools, heq, hsel⟩ := ih (st.setPool (Bg.teamIndex (st.group p).oTeam)
          ((st.pool (Bg.teamIndex (st.group p).oTeam)).addGroup st.group p maxInTeam).1) _ hrest
      exact ⟨pools, heq, hset.trans hsel⟩
    · exact ih st _ hrest

theorem preAdd_cases {st : State} (hl : Lists st) (slots : PerTeam Int) :
    ∃ pools, (st.preAdd b slots).st = { st with selectionPools := pools } ∧
      Selects env st { st with selectionPools := pools } := by
  have hown : ∀ t, ∀ x ∈ st.queuedGroupMap ((st.waiting b .mixed).filter fun p =>
      Bg.teamIndex (st.group p).oTeam = t), ∃ g, st.groups x.2 = some g := by
    intro t x hx
    obtain ⟨p, hp, rfl⟩ := mem_queuedGroupMap.1 hx
    exact hl.live b .mixed p (mem_filter.1 (mem_filter.1 hp).1).1
  unfold preAdd
  dsimp only
  obtain ⟨poolsA, hA, hselA⟩ := preAddPlayers_cases env st (hown .alliance) _ _
  rw [hA]
  obtain ⟨poolsH, hH, hselH⟩ := preAddPlayers_cases env { st with selectionPools := poolsA } (hown .horde) _ _
  exact ⟨poolsH, hH, hselA.trans hselH⟩

theorem fillOne_selects {f : FillState} (hl : Lists f.st)
    (hp : p ∈ f.st.queuedGroups b .mixed) (minPlayers : Nat) (slots : PerTeam Int) :
    Selects env f.st (fillOne minPlayers slots f p).st ∧
      (fillOne minPlayers slots f p).st.queuedGroups = f.st.queuedGroups := by
  unfold fillOne
  split
  · exact ⟨.refl _, rfl⟩
  · rename_i hskip
    obtain ⟨g, hg⟩ := hl.live b .mixed p hp
    have hinv : g.isInvited = false := by
      simp only [Bool.or_eq_true, not_or, group_of_groups f.st hg] at hskip
      simpa using hskip.1.1.1
    -- first the team, then the pool that goes with it
    have hteam : ∃ st', (if f.free.alliance ≠ f.free.horde then
        f.st.setTeam p (if f.free.alliance < f.free.horde then .horde else .alliance)
        else f.st) = st' ∧ Selects env f.st st' ∧ st'.queuedGroups = f.st.queuedGroups := by
      split
      · exact ⟨_, rfl, .of_move (.team _ hg hinv hp) rfl, rfl⟩
      · exact ⟨_, rfl, .refl _, rfl⟩
    obtain ⟨st', heq, hsel, hlists⟩ := hteam
    simp only [heq]
    refine ⟨hsel.trans (.setPool fun q hq => ?_), hlists⟩
    rcases mem_addGroup hq with hq | rfl
    · exact .inl hq
    · exact .inr (hsel.moves.live ⟨g, hg⟩)

theorem foldl_fillOne_selects {f : FillState} {order : List Ptr} (hl : Lists f.st)
    (horder : ∀ p ∈ order, p ∈ f.st.queuedGroups b .mixed) (minPlayers : Nat)
    (slots : PerTeam Int) : Selects env f.st (order.foldl (fillOne minPlayers slots) f).st := by
  induction order generalizing f with
  | nil => exact .refl _
  | cons p order ih =>
    obtain ⟨hsel, hlists⟩ := fillOne_selects env b hl (horder p mem_cons_self) minPlayers slots
    refine hsel.trans (ih (hsel.lists hl) fun q hq => ?_)
    rw [hlists]
    exact horder q (mem_cons_of_mem p hq)

theorem fillXPlayersToBG_selects {st : State} (hl : Lists st) (bg : Battleground) (start : Bool) :
    Selects env st (st.fillXPlayersToBG env b bg start).1 := by
  unfold fillXPlayersToBG
  dsimp only
  split
  · generalize (if start = true then
      (⟨toInt32 bg.config.maxPlayersPerTeam, toInt32 bg.config.maxPlayersPerTeam⟩ : PerTeam Int)
      else ⟨toInt32 (getFreeSlotsForTeam bg .alliance),
        toInt32 (getFreeSlotsForTeam bg .horde)⟩) = slots
    have hinit : Selects env st st.initPools := .initPools st
    have hpre : ∃ pools, (if start = true then st.initPools.preAdd b slots
          else { st := st.initPools, free := slots }).st = { st with selectionPools := pools } ∧
        Selects env st { st with selectionPools := pools } := by
      split
      · obtain ⟨pools, heq, hsel⟩ := preAdd_cases env b (hinit.lists hl) slots
        exact ⟨pools, heq, hinit.trans hsel⟩
      · exact ⟨_, rfl, hinit⟩
    obtain ⟨pools, heq, hsel⟩ := hpre
    generalize (if start = true then st.initPools.preAdd b slots
      else { st := st.initPools, free := slots }) = f at heq ⊢
    rw [← heq] at hsel
    refine hsel.trans (foldl_fillOne_selects env b (hsel.lists hl) (fun p hp => ?_) _ _)
    obtain ⟨x, hx, rfl⟩ := mem_map.1 hp
    obtain ⟨q, hq, rfl⟩ := mem_queuedGroupMap.1 (mem_reverse.1 hx)
    exact hq
  · exact .refl _

theorem checkCrossFactionMatch_selects {st : State} (hl : Lists st) (bg : Battleground) :
    Selects env st (st.checkCrossFactionMatch env b bg).1 := by
  unfold checkCrossFactionMatch
  split
  · exact .refl _
  · exact fillXPlayersToBG_selects env b hl bg true

/-! ## Premade and normal matches -/

theorem demotePremade_selects {st : State} (hl : Lists st) (minPlayers : Nat) (t : Team) :
    Selects env st (demotePremade env b minPlayers st t) := by
  unfold demotePremade
  split
  · exact .refl _
  · rename_i p rest hlist
    dsimp only
    split
    · rename_i hcond
      have hp : p ∈ st.queuedGroups b (.premade t) := by simp [hlist]
      obtain ⟨g, hg⟩ := hl.live b (.premade t) p hp
      have hteam : g.team = t := hl.side b (.premade t) t p g rfl hp hg
      have hinv : g.isInvited = false := by
        simp only [group_of_groups st hg, Bool.and_eq_true] at hcond
        simpa using hcond.1
      -- the team is the one the group has already
      have hsame : st.setTeam p t = st := by
        refine modifyGroup_id st fun g' hg' => ?_
        rw [hg] at hg'
        cases hg'
        rw [← hteam]
      have htransfer : st.transfer b p (.premade t) (.normal t) t =
          (st.setList b (.normal t) (p :: st.queuedGroups b (.normal t))).setList b (.premade t)
            rest := by
        rw [transfer, hsame, hlist, erase_cons_head]
      rw [← htransfer]
      exact .of_move (.transfer hg hinv hp (by simp) rfl) rfl
    · exact .refl _

theorem checkPremadeMatch_selects {st : State} (hl : Lists st) (minPlayers maxPlayers : Nat) :
    Selects env st (st.checkPremadeMatch env b minPlayers maxPlayers).1 := by
  have hhead : ∀ t p, (st.waiting b (.premade t)).head? = some p → ∃ g, st.groups p = some g :=
    fun t p hp => hl.live b (.premade t) p (mem_filter.1 (mem_of_mem_head? hp)).1
  unfold checkPremadeMatch
  split
  · rename_i a h ha hh
    have hpool : ∀ t p d d' q, (st.waiting b (.premade t)).head? = some p →
        q ∈ ((((st.pool t).addGroup st.group p d).1).addWaiting st.group d'
          (st.queuedGroups b (.normal t))).selectedGroups →
        q ∈ (st.pool t).selectedGroups ∨ ∃ g, st.groups q = some g := by
      intro t p d d' q hp hq
      rcases mem_addWaiting hq with hq | hq
      · rcases mem_addGroup hq with hq | rfl
        · exact .inl hq
        · exact .inr (hhead t _ hp)
      · exact .inr (hl.live b (.normal t) q hq)
    refine .of_pools fun t q hq => ?_
    cases t with
    | alliance => exact hpool .alliance a _ _ q ha hq
    | horde => exact hpool .horde h _ _ q hh hq
  · have hA := demotePremade_selects env b hl minPlayers .alliance
    exact hA.trans (demotePremade_selects env b (hA.lists hl) minPlayers .horde)

theorem selectNormal_selects {st : State} (hl : Lists st) (minPlayers maxPlayers : Nat) :
    Selects env st { st with selectionPools :=
      ⟨(st.selectNormal b minPlayers maxPlayers .alliance).1,
        (st.selectNormal b minPlayers maxPlayers .horde).1⟩ } := by
  have hselect : ∀ t q, q ∈ (st.selectNormal b minPlayers maxPlayers t).1.selectedGroups →
      q ∈ (st.pool t).selectedGroups ∨ ∃ g, st.groups q = some g := by
    intro t q hq
    rcases mem_addUntil hq with hq | hq
    · exact .inl hq
    · exact .inr (hl.live b (.normal t) q hq)
  refine .of_pools fun t q hq => ?_
  cases t with
  | alliance => exact hselect .alliance q hq
  | horde => exact hselect .horde q hq

theorem evenOut_selects {st : State} {rest : Team → List Ptr}
    (hrest : ∀ t, ∀ p ∈ rest t, ∃ g, st.groups p = some g) : Selects env st (st.evenOut rest) := by
  refine .setPool fun q hq => ?_
  rcases mem_addWaiting hq with hq | hq
  · exact .inl hq
  · exact .inr (hrest _ q (mem_of_mem_drop hq))

theorem checkNormalMatch_selects {st : State} (hl : Lists st) (isBattleground : Bool)
    (minPlayers maxPlayers : Nat) :
    Selects env st (st.checkNormalMatch env isBattleground b minPlayers maxPlayers).1 := by
  have hfirst := selectNormal_selects env b hl minPlayers maxPlayers
  unfold checkNormalMatch
  dsimp only
  split
  · refine hfirst.trans (evenOut_selects env fun t p hp => ?_)
    exact hl.live b (.normal t) p (addUntil_rest_subset hp)
  · exact hfirst

/-! ## Skirmishes of one faction -/

variable {pre behind : List Ptr} {last : Ptr}

theorem eraseAfter_append (hlast : last ∉ pre) :
    eraseAfter last p (pre ++ last :: behind) = pre ++ last :: behind.erase p := by
  induction pre with
  | nil => simp [eraseAfter]
  | cons q pre ih =>
    obtain ⟨hq, hpre⟩ := ne_and_not_mem_of_not_mem_cons hlast
    rw [cons_append, eraseAfter, if_neg (Ne.symm hq), ih hpre, cons_append]

variable {t : Team}

theorem changeSide_eq {st : State} (hlist : st.queuedGroups b (.normal t) = pre ++ last :: behind)
    (hnodup : (pre ++ last :: behind).Nodup) (hp : p ∈ behind) :
    changeSide b t last st p = st.transfer b p (.normal t) (.normal t.other) t.other ∧
      (pre ++ last :: behind).erase p = pre ++ last :: behind.erase p := by
  obtain ⟨-, hlb, hdisj⟩ := nodup_append.1 hnodup
  have hlast : last ∉ pre := fun h => hdisj last h last mem_cons_self rfl
  have hpl : p ≠ last := fun h => (nodup_cons.1 hlb).1 (h ▸ hp)
  have hpp : p ∉ pre := fun h => hdisj p h p (mem_cons_of_mem _ hp) rfl
  have hne : GroupType.normal t ≠ .normal t.other := fun h => t.other_ne (GroupType.normal.inj h).symm
  have herase : (pre ++ last :: behind).erase p = pre ++ last :: behind.erase p := by
    rw [erase_append_right _ hpp, erase_cons_tail (by simpa using hpl.symm)]
  have hkeep : ((st.setTeam p t.other).setList b (.normal t.other)
      (p :: st.queuedGroups b (.normal t.other))).queuedGroups b (.normal t) =
      st.queuedGroups b (.normal t) := by
    rw [setList_queuedGroups, if_neg (fun h => hne h.2)]
    rfl
  refine ⟨?_, herase⟩
  rw [transfer, hlist, herase]
  change setList _ b (.normal t) (eraseAfter last p _) = _
  rw [show (st.setTeam p t.other).queuedGroups = st.queuedGroups from rfl, hkeep, hlist,
    eraseAfter_append hlast]

def State.transferAll (st : State) (b : BattlegroundBracketId) (ps : List Ptr)
    (source target : GroupType) (t : Team) : State :=
  ps.foldl (fun st p => st.transfer b p source target t) st

@[simp] theorem transferAll_nil (source target : GroupType) (t : Team) :
    st.transferAll b [] source target t = st := rfl

@[simp] theorem transferAll_cons (p : Ptr) (ps : List Ptr) (source target : GroupType) (t : Team) :
    st.transferAll b (p :: ps) source target t =
      (st.transfer b p source target t).transferAll b ps source target t := rfl

theorem foldl_changeSide_eq (hlist : st.queuedGroups b (.normal t) = pre ++ last :: behind)
    (hnodup : (pre ++ last :: behind).Nodup) (hnd : ps.Nodup) (hsub : ps ⊆ behind) :
    ps.foldl (changeSide b t last) st = st.transferAll b ps (.normal t) (.normal t.other) t.other := by
  induction ps generalizing st behind with
  | nil => rfl
  | cons p ps ih =>
    obtain ⟨hpps, hps⟩ := nodup_cons.1 hnd
    obtain ⟨hside, herase⟩ := changeSide_eq b hlist hnodup (hsub mem_cons_self)
    rw [foldl_cons, hside]
    have hnodup' : (pre ++ last :: behind.erase p).Nodup := herase ▸ hnodup.erase p
    refine ih _ ?_ hnodup' hps fun q hq => ?_
    · rw [transfer_queuedGroups, if_pos ⟨rfl, rfl⟩, hlist, herase]
    · have hqp : q ≠ p := fun h => hpps (h ▸ hq)
      exact (mem_erase_of_ne hqp).2 (hsub (mem_cons_of_mem p hq))

theorem transferAll_selects {st : State} {source target : GroupType}
    (hl : Lists st) (hne : source ≠ target) (ht : target.side = some t) (hnd : ps.Nodup)
    (hsub : ps ⊆ st.queuedGroups b source) (hinv : ∀ p ∈ ps, (st.group p).isInvited = false) :
    Selects env st (st.transferAll b ps source target t) := by
  induction ps generalizing st with
  | nil => exact .refl _
  | cons p ps ih =>
    obtain ⟨hpps, hps⟩ := nodup_cons.1 hnd
    have hmem : p ∈ st.queuedGroups b source := hsub mem_cons_self
    obtain ⟨g, hg⟩ := hl.live b source p hmem
    have hpinv : g.isInvited = false := by
      rw [← group_of_groups st hg]
      exact hinv p mem_cons_self
    have hsel : Selects env st (st.transfer b p source target t) :=
      .of_move (.transfer hg hpinv hmem hne ht) rfl
    have hother : ∀ q ∈ ps, q ≠ p := fun q hq h => hpps (h ▸ hq)
    refine hsel.trans (ih (hsel.lists hl) hps (fun q hq => ?_) fun q hq => ?_)
    · rw [transfer_queuedGroups, if_pos ⟨rfl, rfl⟩]
      exact (mem_erase_of_ne (hother q hq)).2 (hsub (mem_cons_of_mem p hq))
    · rw [group, transfer_groups, if_neg (hother q hq)]
      exact hinv q (mem_cons_of_mem p hq)

theorem checkSkirmishForSameFaction_selects {st : State} (hl : Lists st) (minPlayers : Nat) :
    Selects env st (st.checkSkirmishForSameFaction b minPlayers).1 := by
  unfold checkSkirmishForSameFaction
  split
  · exact .refl _
  · dsimp only
    generalize (if (st.pool .horde).playerCount = minPlayers then Team.horde else .alliance) = t
    have hclear : Selects env st (st.setPool t.other {}) := .setPool fun q hq => by simp at hq
    have hempty : ((st.setPool t.other {}).pool t.other).selectedGroups = [] := by
      simp [pool, setPool]
    generalize hst₁ : st.setPool t.other {} = st₁ at hclear hempty ⊢
    have hl₁ := hclear.lists hl
    split
    · exact hclear
    · rename_i last _
      split
      · exact hclear
      · rename_i x behind hdrop
        have hlist := takeWhile_append_dropWhile (p := fun q => decide (q ≠ last))
          (l := st₁.queuedGroups b (.normal t))
        rw [hdrop] at hlist
        have hx : x = last := by
          have hhead := head?_dropWhile_not (fun q => decide (q ≠ last)) (st₁.queuedGroups b (.normal t))
          rw [hdrop] at hhead
          simpa using hhead
        subst hx
        obtain ⟨l, hl, hinv, hsel⟩ := addWaiting_selectedGroups st₁.group (st₁.pool t.other) minPlayers behind
        have hfill : Selects env st₁ (st₁.setPool t.other
            ((st₁.pool t.other).addWaiting st₁.group minPlayers behind)) := by
          refine .setPool fun q hq => ?_
          rcases mem_addWaiting hq with hq | hq
          · exact .inl hq
          · refine .inr (hl₁.live b (.normal t) q ?_)
            rw [← hlist]
            simp [hq]
        split
        · exact hclear.trans hfill
        · have hpool : ((st₁.setPool t.other ((st₁.pool t.other).addWaiting st₁.group minPlayers
              behind)).pool t.other).selectedGroups = l := by
            simp [pool, setPool] at hsel hempty ⊢
            rw [hsel, hempty, nil_append]
          rw [hpool]
          have hnodup := hl₁.nodup b (.normal t)
          rw [← hlist] at hnodup
          have hbehind : behind.Nodup := (nodup_cons.1 (nodup_append.1 hnodup).2.1).2
          rw [foldl_changeSide_eq (st₁.setPool t.other _) b hlist.symm (hlist ▸ hnodup)
            (hl.nodup hbehind) hl.subset]
          refine (hclear.trans hfill).trans (transferAll_selects env b (hfill.lists hl₁)
            (fun h => t.other_ne (GroupType.normal.inj h).symm) rfl (hl.nodup hbehind)
            (fun q hq => ?_) hinv)
          change q ∈ st₁.queuedGroups b (.normal t)
          rw [← hlist]
          simp [hl.subset hq]

/-! ## Inviting the pools -/

theorem setTeam_self {st : State} (p : Ptr) : st.setTeam p (st.group p).team = st := by
  refine modifyGroup_id st fun g hg => ?_
  rw [group_of_groups st hg]

variable {i : InstanceId}

theorem inviteOwn_selects {st : State} (hp : ∃ g, st.groups p = some g) (hi : i ∈ env.invitable) :
    Selects env st (st.inviteGroupToBG env p i (some (st.group p).team)).1 := by
  obtain ⟨g, hg⟩ := hp
  unfold inviteGroupToBG
  dsimp only
  rw [setTeam_self]
  split
  · rename_i inst hinst
    split
    · exact .refl _
    · rename_i hinv
      rw [group_of_groups st hg] at hinv
      refine .of_move (.invite hg (by simpa using hinv) hinst hi) ?_
      obtain ⟨rings, instances, heq⟩ := st.invite_cases env p i inst
      rw [heq]
      rfl
  · exact .refl _

theorem invitePool_selects {st : State} (hlive : PoolsLive st) (hi : i ∈ env.invitable) (t : Team) :
    Selects env st (st.invitePool env i t) := by
  have hfold : ∀ (ps : List Ptr) (st : State), (∀ p ∈ ps, ∃ g, st.groups p = some g) → Selects env st (ps.foldl
        (fun st p => (st.inviteGroupToBG env p i (some (st.group p).team)).1) st) := by
    intro ps
    induction ps with
    | nil => exact fun st _ => .refl st
    | cons p ps ih =>
      intro st hps
      have hsel := inviteOwn_selects env (hps p mem_cons_self) hi
      exact hsel.trans (ih _ fun q hq => hsel.moves.live (hps q (mem_cons_of_mem p hq)))
  exact hfold _ st (hlive t)

theorem invitePools_selects {st : State} (hlive : PoolsLive st) (hi : i ∈ env.invitable) :
    Selects env st (st.invitePools env i) := by
  have hA := invitePool_selects env hlive hi .alliance
  exact hA.trans (invitePool_selects env (hA.pools hlive) hi .horde)

theorem poolsLive_initPools (st : State) : PoolsLive st.initPools := by
  intro t p hp
  cases t <;> simp [pool, initPools, PerTeam.get] at hp

theorem startBattleground_move (i : InstanceId) : Move env st (st.startBattleground i) :=
  .touch i ⟨fun _ => rfl, fun _ => Bg.Battleground.addToBGFreeSlotQueue_invited _,
    fun _ => Bg.Battleground.addToBGFreeSlotQueue_roster _⟩

theorem fillFreeSlots_moves {st : State} (hl : Lists st) (bgTypeId : BattlegroundTypeId)
    (hi : i ∈ env.invitable) : Moves env st (fillFreeSlots env bgTypeId b st i) := by
  unfold fillFreeSlots
  split
  · exact .refl
  · rename_i inst _
    split
    · have hinit : Selects env st st.initPools := .initPools st
      have hfill := fillXPlayersToBG_selects env b (hinit.lists hl) inst.bg false
      have hinvite := invitePools_selects env (hfill.pools (poolsLive_initPools st)) hi
      have hall := ((hinit.trans hfill).trans hinvite).moves
      split
      · exact hall.tail (.touch i ⟨fun _ => rfl, fun _ => rfl, fun _ => rfl⟩)
      · exact hall
    · exact .refl

theorem foldl_fillFreeSlots_moves {st : State} (hl : Lists st) (bgTypeId : BattlegroundTypeId)
    {slots : List InstanceId} (hslots : slots ⊆ env.invitable) :
    Moves env st (slots.foldl (fillFreeSlots env bgTypeId b) st) := by
  induction slots generalizing st with
  | nil => exact .refl
  | cons i slots ih =>
    obtain ⟨hi, hrest⟩ := cons_subset.1 hslots
    have hone := fillFreeSlots_moves env b hl bgTypeId hi
    exact hone.trans (ih (hone.lists hl) hrest)

/-! ## New battlegrounds -/

inductive Created (new : Option (InstanceId × BattlegroundTypeId × Bg.Config)) :
    State → State → Prop
  | skip (st : State) : Created new st st
  | create {st : State} {i : InstanceId} {typeId : BattlegroundTypeId} {config : Bg.Config}
    (b : BattlegroundBracketId) (arenaType : Nat) (isRated : Bool) :
    new = some (i, typeId, config) →
    Created new st (st.createNewBattleground env i typeId config b arenaType isRated)

theorem Created.lists {env : Env} {new : Option (InstanceId × BattlegroundTypeId × Bg.Config)}
    {st st' : State} (h : Created env new st st') (hl : Lists st) : Lists st' := by
  cases h with
  | skip => exact hl
  | create => exact hl.of_sameLists ⟨rfl, rfl, fun _ => rfl⟩ hl.side

theorem Created.wf {env : Env} {new : Option (InstanceId × BattlegroundTypeId × Bg.Config)}
    {st st' : State} (h : Created env new st st') (hwf : WF st) : WF st' := by
  cases h with
  | skip => exact hwf
  | create => exact hwf.of_sameQueue ⟨rfl, rfl, rfl, rfl, fun _ => rfl⟩ hwf.side

def CreatesAmid (new : Option (InstanceId × BattlegroundTypeId × Bg.Config)) (st st' : State) : Prop :=
  ∃ s₁ s₂, Moves env st s₁ ∧ Created env new s₁ s₂ ∧ Moves env s₂ st'

theorem premadeMatch_refines {st : State} (hl : Lists st) (hlive : PoolsLive st)
    (template : Bg.Config) (players : Nat × Nat) :
    CreatesAmid env env.newPremade st (st.premadeMatch env b template players).1 ∧
      PoolsLive (st.premadeMatch env b template players).1 := by
  have hcheck := checkPremadeMatch_selects env b hl players.1 players.2
  unfold premadeMatch
  split
  · exact ⟨⟨st, st, .refl, .skip st, .refl⟩, hlive⟩
  · split
    · rename_i s₁ heq
      rw [heq] at hcheck
      exact ⟨⟨s₁, s₁, hcheck.moves, .skip s₁, .refl⟩, hcheck.pools hlive⟩
    · rename_i s₁ heq
      rw [heq] at hcheck
      split
      · exact ⟨⟨s₁, s₁, hcheck.moves, .skip s₁, .refl⟩, hcheck.pools hlive⟩
      · rename_i i typeId config hnew
        have hlive' : PoolsLive (s₁.createNewBattleground env i typeId config b 0 false) :=
          hcheck.pools hlive
        have hinvite := invitePools_selects env hlive' (show i ∈ env.invitable by simp [Env.invitable, hnew])
        refine ⟨⟨s₁, _, hcheck.moves, .create b 0 false hnew, ?_⟩, poolsLive_initPools _⟩
        exact (hinvite.moves.tail (startBattleground_move env _ i)).trans (Selects.initPools _).moves

theorem checkMatch_selects {st : State} (hl : Lists st) (template : Bg.Config)
    (players : Nat × Nat) : Selects env st (st.checkMatch env b template players).1 := by
  have hnormal := checkNormalMatch_selects env b hl (!template.isArena) players.1 players.2
  unfold checkMatch
  split
  · rename_i s₁ heq
    rwa [heq] at hnormal
  · rename_i s₁ heq
    rw [heq] at hnormal
    have hl₁ := hnormal.lists hl
    have hskirmish : Selects env s₁ (if template.isArena = true then
        s₁.checkSkirmishForSameFaction b players.1 else (s₁, false)).1 := by
      split
      · exact checkSkirmishForSameFaction_selects env b hl₁ players.1
      · exact .refl _
    split
    · rename_i s₂ heq₂
      rw [heq₂] at hskirmish
      exact hnormal.trans hskirmish
    · rename_i s₂ heq₂
      rw [heq₂] at hskirmish
      exact (hnormal.trans hskirmish).trans (checkCrossFactionMatch_selects env b (hskirmish.lists hl₁) _)

theorem normalMatch_refines {st : State} (hl : Lists st) (hlive : PoolsLive st)
    (template : Bg.Config) (arenaType : Nat) (players : Nat × Nat) :
    CreatesAmid env env.newMatch st (st.normalMatch env b template arenaType players) := by
  have hcheck := checkMatch_selects env b hl template players
  unfold normalMatch
  split
  · rename_i s₁ i typeId config heq hnew
    rw [heq] at hcheck
    have hlive' : PoolsLive (s₁.createNewBattleground env i typeId config b arenaType false) :=
      hcheck.pools hlive
    have hinvite := invitePools_selects env hlive' (show i ∈ env.invitable by simp [Env.invitable, hnew])
    exact ⟨s₁, _, hcheck.moves, .create b arenaType false hnew,
      hinvite.moves.tail (startBattleground_move env _ i)⟩
  · rename_i s₁ ok heq _
    rw [heq] at hcheck
    exact ⟨s₁, s₁, hcheck.moves, .skip s₁, .refl⟩

/-! ## Rated arenas -/

variable {w : RatingWindow}

theorem firstEligible_eq_some {st : State} (h : st.firstEligible b w t = some p) :
    p ∈ st.queuedGroups b (.premade t) ∧ w.eligible (st.group p) = true :=
  ⟨mem_of_find?_eq_some h, find?_some (p := fun p => w.eligible (st.group p)) h⟩

variable {q : Ptr}

theorem secondEligible_eq_some {st : State} (h : st.secondEligible b w t p = some q) :
    q ∈ st.queuedGroups b (.premade t) ∧ w.eligible (st.group q) = true ∧
      (st.group p).arenaTeamId ≠ (st.group q).arenaTeamId := by
  have hcond := find?_some h
  simp only [Bool.and_eq_true, decide_eq_true_eq] at hcond
  exact ⟨(dropWhile_suffix _).subset (mem_of_find?_eq_some h), hcond⟩

variable {a h : Ptr}

/-- The pair that plays: two waiting groups of the premade lists, one of each, or two of the same
list with different arena teams. -/
theorem ratedPair_eq_some {st : State} (heq : st.ratedPair b w = some (a, h)) :
    w.eligible (st.group a) = true ∧ w.eligible (st.group h) = true ∧
      ((a ∈ st.queuedGroups b (.premade .alliance) ∧ h ∈ st.queuedGroups b (.premade .horde)) ∨
        ∃ t, a ∈ st.queuedGroups b (.premade t) ∧ h ∈ st.queuedGroups b (.premade t) ∧
          (st.group a).arenaTeamId ≠ (st.group h).arenaTeamId) := by
  unfold ratedPair at heq
  split at heq
  · rename_i ha hh
    cases heq
    obtain ⟨hma, hea⟩ := firstEligible_eq_some b ha
    obtain ⟨hmh, heh⟩ := firstEligible_eq_some b hh
    exact ⟨hea, heh, .inl ⟨hma, hmh⟩⟩
  · rename_i ha _
    obtain ⟨q, hq, heq⟩ := Option.map_eq_some_iff.1 heq
    cases heq
    obtain ⟨hma, hea⟩ := firstEligible_eq_some b ha
    obtain ⟨hmh, heh, hne⟩ := secondEligible_eq_some b hq
    exact ⟨hea, heh, .inr ⟨_, hma, hmh, hne⟩⟩
  · rename_i hh
    obtain ⟨q, hq, heq⟩ := Option.map_eq_some_iff.1 heq
    cases heq
    obtain ⟨hma, hea⟩ := firstEligible_eq_some b hh
    obtain ⟨hmh, heh, hne⟩ := secondEligible_eq_some b hq
    exact ⟨hea, heh, .inr ⟨_, hma, hmh, hne⟩⟩
  · cases heq

theorem isInvited_of_eligible {g : GroupQueueInfo} (h : w.eligible g = true) : g.isInvited = false := by
  simp only [RatingWindow.eligible, Bool.and_eq_true] at h
  simpa using h.1

theorem relocate_moves {st : State} (hl : Lists st)
    (hp : p ∈ st.queuedGroups b (.premade t)) (hinv : (st.group p).isInvited = false)
    (side : Team) : Moves env st ((st.relocate b p side).setTeam p side) := by
  obtain ⟨g, hg⟩ := hl.live b _ p hp
  have hteam : (st.group p).team = t := by
    rw [group_of_groups st hg]
    exact hl.side b _ t p g rfl hp hg
  rw [group_of_groups st hg] at hinv
  unfold relocate
  by_cases hside : t = side
  · subst hside
    rw [if_neg (by simp [hteam])]
    conv => rhs; rw [← hteam]
    rw [setTeam_self]
  · rw [if_pos (by rwa [hteam])]
    have hother : t = side.other := by
      cases t <;> cases side <;> first | rfl | exact absurd rfl hside
    subst hother
    have hne : GroupType.premade side.other ≠ .premade side := fun h => hside (GroupType.premade.inj h)
    have hkeep : (st.setList b (.premade side) (p :: st.queuedGroups b (.premade side))).queuedGroups
        b (.premade side.other) = st.queuedGroups b (.premade side.other) := by
      rw [setList_queuedGroups, if_neg (fun h => hne h.2)]
    dsimp only
    rw [hkeep]
    exact .single (.transfer hg hinv hp hne rfl)

theorem relocate_queuedGroups (hne : q ≠ p) (side : Team) (b' : BattlegroundBracketId) (j : GroupType) :
    q ∈ (st.relocate b p side).queuedGroups b' j ↔ q ∈ st.queuedGroups b' j := by
  unfold relocate
  split
  · dsimp only
    rw [setList_queuedGroups]
    split
    · rename_i hbj
      obtain ⟨rfl, rfl⟩ := hbj
      rw [mem_erase_of_ne hne, setList_queuedGroups]
      split
      · rename_i hj
        rw [hj.2]
        simp [hne]
      · rfl
    · rw [setList_queuedGroups]
      split
      · rename_i hbj
        obtain ⟨rfl, rfl⟩ := hbj
        simp [hne]
      · rfl
  · rfl

theorem setTeam_group (hne : q ≠ p) (t : Team) : (st.setTeam p t).group q = st.group q :=
  congrArg (·.getD default) ((modifyGroup_groups ..).trans (if_neg hne))

theorem setTeam_isInvited (p q : Ptr) (t : Team) :
    ((st.setTeam p t).group q).isInvited = (st.group q).isInvited :=
  modifyGroup_field st GroupQueueInfo.isInvited (f := ({ · with team := t })) (fun _ => rfl) p q

theorem setOpponents_isInvited (p q : Ptr) (opponent : GroupQueueInfo) :
    ((st.setOpponents p opponent).group q).isInvited = (st.group q).isInvited :=
  modifyGroup_field st GroupQueueInfo.isInvited (f := ({ · with
    opponentsTeamRating := opponent.arenaTeamRating
    opponentsMatchmakerRating := opponent.arenaMatchmakerRating })) (fun _ => rfl) p q

theorem relocate_setTeam (hne : q ≠ p) (t side : Team) :
    (st.setTeam p t).relocate b q side = (st.relocate b q side).setTeam p t := by
  unfold relocate
  rw [setTeam_group st hne]
  split
  · rfl
  · rfl

theorem invite_setTeam (hne : q ≠ p) (t : Team) (i : InstanceId) (inst : Instance) :
    (st.setTeam p t).invite env q i inst = (st.invite env q i inst).setTeam p t := by
  have hfold : ∀ (guids : List Guid) (st : State) (g : GroupQueueInfo),
      guids.foldl (invitePlayer env g i inst.bracketId) (st.setTeam p t) =
        (guids.foldl (invitePlayer env g i inst.bracketId) st).setTeam p t := by
    intro guids
    induction guids with
    | nil => exact fun st g => rfl
    | cons guid guids ih =>
      intro st g
      rw [foldl_cons, foldl_cons, ← ih]
      congr 1
      unfold invitePlayer
      split
      · rfl
      · rfl
  unfold invite
  dsimp only
  rw [setTeam_group st hne, setTeam, modifyGroup_comm st hne]
  refine Eq.trans ?_ (hfold _ _ _)
  congr 1
  split
  · rfl
  · rfl

variable {inst : Instance}

theorem inviteGroupToBG_side
    (hinst : st.instances i = some inst) (hinv : (st.group p).isInvited = false) (t : Team) :
    (st.inviteGroupToBG env p i (some t)).1 = (st.setTeam p t).invite env p i inst := by
  have hinv' : ((st.setTeam p t).group p).isInvited = false := (setTeam_isInvited st p p t).trans hinv
  unfold inviteGroupToBG
  dsimp only
  rw [show (st.setTeam p t).instances i = some inst from hinst]
  rw [hinv']
  rfl

theorem relocate_frame (p : Ptr) (side : Team) :
    (st.relocate b p side).instances = st.instances ∧
      (st.relocate b p side).groups = st.groups := by
  unfold relocate
  split
  · exact ⟨rfl, rfl⟩
  · exact ⟨rfl, rfl⟩

theorem inviteBoth_moves {st : State} (hne : a ≠ h)
    (hla : ∃ g, st.groups a = some g) (hlh : ∃ g, st.groups h = some g)
    (hia : (st.group a).isInvited = false) (hih : (st.group h).isInvited = false)
    (hinst : st.instances i = some inst) (hi : i ∈ env.invitable) :
    Moves env ((st.setTeam a .alliance).setTeam h .horde)
      ((st.inviteGroupToBG env a i (some .alliance)).1.inviteGroupToBG env h i (some .horde)).1 := by
  rw [inviteGroupToBG_side env st hinst hia]
  -- the first invitation, which the second side may as well be written before
  have hfirst : Move env ((st.setTeam a .alliance).setTeam h .horde)
      (((st.setTeam a .alliance).invite env a i inst).setTeam h .horde) := by
    rw [← invite_setTeam env _ hne]
    obtain ⟨g, hg⟩ := modifyGroup_live _ h ({ · with team := .horde })
      (modifyGroup_live st a ({ · with team := .alliance }) hla)
    refine .invite hg ?_ hinst hi
    rw [← group_of_groups _ hg]
    exact (setTeam_isInvited _ h a .horde).trans ((setTeam_isInvited st a a .alliance).trans hia)
  obtain ⟨rings, instances, heq⟩ := (st.setTeam a .alliance).invite_cases env a i inst
  obtain ⟨inst', hupdate, -⟩ := invite_instance env a (show (st.setTeam a .alliance).instances i =
    some inst from hinst)
  have hinst' : ((st.setTeam a .alliance).invite env a i inst).instances i = some inst' := by
    rw [hupdate, Function.update_self]
  have hih' : (((st.setTeam a .alliance).invite env a i inst).group h).isInvited = false := by
    rw [heq]
    refine Eq.trans (congrArg GroupQueueInfo.isInvited ?_) hih
    exact (congrArg (·.getD default) ((modifyGroup_groups ..).trans (if_neg hne.symm))).trans
      (setTeam_group st hne.symm .alliance)
  have hlh' : ∃ g, ((st.setTeam a .alliance).invite env a i inst).groups h = some g := by
    rw [heq]
    exact modifyGroup_live _ a _ (modifyGroup_live st a _ hlh)
  rw [inviteGroupToBG_side env _ hinst' hih']
  obtain ⟨g, hg⟩ := modifyGroup_live _ h ({ · with team := .horde }) hlh'
  refine .tail (.single hfirst) (.invite hg ?_ hinst' hi)
  rw [← group_of_groups _ hg]
  exact (setTeam_isInvited _ h h .horde).trans hih'

theorem startRated_moves {st : State} (hl : Lists st) {ta th : Team} (ha : a ∈ st.queuedGroups b (.premade ta))
    (hh : h ∈ st.queuedGroups b (.premade th)) (hne : a ≠ h)
    (hia : (st.group a).isInvited = false) (hih : (st.group h).isInvited = false)
    (hinst : st.instances i = some inst) (hi : i ∈ env.invitable) :
    Moves env st (st.startRated env b i a h) := by
  unfold startRated
  dsimp only
  have hopp : Moves env st ((st.setOpponents a (st.group h)).setOpponents h (st.group a)) :=
    .tail (.single (.opponents a _)) (.opponents h _)
  have hinv₁ : ∀ p, (st.group p).isInvited = false →
      (((st.setOpponents a (st.group h)).setOpponents h (st.group a)).group p).isInvited = false :=
    fun p hp => (setOpponents_isInvited _ h p _).trans
      ((setOpponents_isInvited st a p _).trans hp)
  have hlists₁ : ((st.setOpponents a (st.group h)).setOpponents h (st.group a)).queuedGroups =
    st.queuedGroups := rfl
  have hinst₁ : ((st.setOpponents a (st.group h)).setOpponents h (st.group a)).instances i = some inst := hinst
  have hlive₁ : ∀ p, (∃ g, st.groups p = some g) →
      ∃ g, ((st.setOpponents a (st.group h)).setOpponents h (st.group a)).groups p = some g :=
    fun p hp => Moves.live hopp hp
  generalize (st.setOpponents a (st.group h)).setOpponents h (st.group a) = s₁
    at hopp hinv₁ hlists₁ hinst₁ hlive₁ ⊢
  have hl₁ := Moves.lists hopp hl
  have hmovea := relocate_moves env b hl₁ (hlists₁ ▸ ha) (hinv₁ a hia) .alliance
  obtain ⟨hfi, hfg⟩ := relocate_frame s₁ b a .alliance
  have hh₂ : h ∈ ((s₁.relocate b a .alliance).setTeam a .alliance).queuedGroups b (.premade th) :=
    (relocate_queuedGroups s₁ b hne.symm .alliance b _).2 (hlists₁ ▸ hh)
  have hih₂ : (((s₁.relocate b a .alliance).setTeam a .alliance).group h).isInvited = false := by
    rw [setTeam_isInvited, group, hfg]
    exact hinv₁ h hih
  have hmoveh := relocate_moves env b (Moves.lists hmovea hl₁) hh₂ hih₂ .horde
  rw [relocate_setTeam (s₁.relocate b a .alliance) b hne.symm] at hmoveh
  obtain ⟨hfi', hfg'⟩ := relocate_frame (s₁.relocate b a .alliance) b h .horde
  rw [hfi] at hfi'
  rw [hfg] at hfg'
  generalize (s₁.relocate b a .alliance).relocate b h .horde = s₂ at hmoveh hfi' hfg' ⊢
  have hinv₂ : ∀ p, (st.group p).isInvited = false → (s₂.group p).isInvited = false := by
    intro p hp
    rw [group, hfg']
    exact hinv₁ p hp
  have hboth := inviteBoth_moves env hne (by rw [hfg']; exact hlive₁ a (hl.live b _ a ha))
    (by rw [hfg']; exact hlive₁ h (hl.live b _ h hh)) (hinv₂ a hia) (hinv₂ h hih)
    (by rw [hfi']; exact hinst₁) hi
  exact (((hopp.trans hmovea).trans hmoveh).trans hboth).tail (startBattleground_move env _ i)

theorem ratedMatch_refines {st : State} (hl : Lists st) (arenaType arenaRating : Nat) :
    CreatesAmid env env.newMatch st (st.ratedMatch env b arenaType arenaRating) := by
  unfold ratedMatch
  split
  · rename_i a h i typeId config hpair hnew
    obtain ⟨w, -, hw⟩ := Option.bind_eq_some_iff.1 hpair
    obtain ⟨hea, heh, hlists⟩ := ratedPair_eq_some b hw
    have hl' : Lists (st.createNewBattleground env i typeId config b arenaType true) :=
      hl.of_sameLists ⟨rfl, rfl, fun _ => rfl⟩ hl.side
    have hinst : ∃ inst,
        (st.createNewBattleground env i typeId config b arenaType true).instances i = some inst :=
      ⟨_, Function.update_self ..⟩
    obtain ⟨inst, hinst⟩ := hinst
    have hi : i ∈ env.invitable := by simp [Env.invitable, hnew]
    refine ⟨st, _, .refl, .create b arenaType true hnew, ?_⟩
    rcases hlists with ⟨hma, hmh⟩ | ⟨t, hma, hmh, hid⟩
    · refine startRated_moves env b hl' hma hmh ?_ (isInvited_of_eligible hea)
        (isInvited_of_eligible heh) hinst hi
      rintro rfl
      cases (hl.unique _ _ _ _ a hma hmh).2
    · refine startRated_moves env b hl' hma hmh ?_ (isInvited_of_eligible hea)
        (isInvited_of_eligible heh) hinst hi
      rintro rfl
      exact hid rfl
  · exact ⟨st, st, .refl, .skip st, .refl⟩

/-- **Every update is a sequence of moves**, around at most two new battlegrounds. -/
theorem update_refines {st : State} (hl : Lists st) (bgTypeId : BattlegroundTypeId) (arenaType : Nat)
    (isRated : Bool) (arenaRating : Nat) :
    ∃ s, CreatesAmid env env.newPremade st s ∧ CreatesAmid env env.newMatch s
      (st.battlegroundQueueUpdate env bgTypeId b arenaType isRated arenaRating) := by
  have hsame : ∀ new (s : State), CreatesAmid env new s s := fun new s => ⟨s, s, .refl, .skip s, .refl⟩
  unfold battlegroundQueueUpdate
  split
  · exact ⟨st, hsame _ _, hsame _ _⟩
  · have hfill := foldl_fillFreeSlots_moves env b hl bgTypeId (subset_append_left env.bgFreeSlotQueue _)
    dsimp only
    generalize env.bgFreeSlotQueue.foldl (fillFreeSlots env bgTypeId b) st = s₁ at hfill ⊢
    have hl₁ := Moves.lists hfill hl
    have hjust : CreatesAmid env env.newPremade st s₁ := ⟨s₁, s₁, hfill, .skip s₁, .refl⟩
    split
    · exact ⟨s₁, hjust, hsame _ _⟩
    · rename_i template _
      split
      · exact ⟨s₁, hjust, hsame _ _⟩
      · have hinit : Selects env s₁ s₁.initPools := .initPools s₁
        obtain ⟨⟨t₁, t₂, hm, hc, hm'⟩, hlive⟩ := premadeMatch_refines env b (hinit.lists hl₁)
          (poolsLive_initPools s₁) template (playersPerTeam env template arenaType)
        have hl₂ := Moves.lists hm' (hc.lists (Moves.lists hm (hinit.lists hl₁)))
        split
        · rename_i s₂ heq
          rw [heq] at hm'
          exact ⟨s₂, ⟨t₁, t₂, (hfill.trans hinit.moves).trans hm, hc, hm'⟩, hsame _ _⟩
        · rename_i s₂ heq
          rw [heq] at hm' hlive hl₂
          refine ⟨s₂, ⟨t₁, t₂, (hfill.trans hinit.moves).trans hm, hc, hm'⟩, ?_⟩
          split
          · exact normalMatch_refines env b hl₂ hlive template arenaType _
          · split
            · exact ratedMatch_refines env b hl₂ arenaType arenaRating
            · exact hsame _ _

/-! ## Who is invited -/

def State.invitedTo (p : Ptr) : InstanceId := (st.group p).isInvitedToBGInstanceGUID

theorem invite_invitedTo (hp : ∃ g, st.groups p = some g) (i : InstanceId) (inst : Instance) (q : Ptr) :
    (st.invite env p i inst).invitedTo q = if q = p then i else st.invitedTo q := by
  obtain ⟨g, hg⟩ := hp
  obtain ⟨rings, instances, heq⟩ := st.invite_cases env p i inst
  rw [heq]
  unfold invitedTo group
  rw [modifyGroup_groups]
  split
  · simp [hg]
  · rfl

theorem setTeam_invitedTo (p : Ptr) (t : Team) (q : Ptr) : (st.setTeam p t).invitedTo q = st.invitedTo q :=
  modifyGroup_field st GroupQueueInfo.isInvitedToBGInstanceGUID (f := ({ · with team := t })) (fun _ => rfl) p q

theorem setOpponents_invitedTo (p : Ptr) (opponent : GroupQueueInfo) (q : Ptr) :
    (st.setOpponents p opponent).invitedTo q = st.invitedTo q :=
  modifyGroup_field st GroupQueueInfo.isInvitedToBGInstanceGUID (f := ({ · with
    opponentsTeamRating := opponent.arenaTeamRating
    opponentsMatchmakerRating := opponent.arenaMatchmakerRating })) (fun _ => rfl) p q

theorem relocate_invitedTo (p : Ptr) (side : Team) (q : Ptr) :
    (st.relocate b p side).invitedTo q = st.invitedTo q := by
  unfold invitedTo group
  rw [(relocate_frame st b p side).2]

theorem isInvited_eq (p : Ptr) : (st.group p).isInvited = decide (st.invitedTo p ≠ 0) := rfl

theorem inviteGroupToBG_invitedTo (hp : ∃ g, st.groups p = some g)
    (hinv : st.invitedTo p = 0)     (hinst : st.instances i = some inst) (t : Team) (q : Ptr) :
    ((st.inviteGroupToBG env p i (some t)).1).invitedTo q = if q = p then i else st.invitedTo q := by
  have hlive : ∃ g, (st.setTeam p t).groups p = some g := modifyGroup_live st p _ hp
  rw [inviteGroupToBG_side env st hinst (by simp [isInvited_eq, hinv]),
    invite_invitedTo env (st.setTeam p t) hlive, setTeam_invitedTo]

theorem inviteGroupToBG_live (hinv : st.invitedTo p = 0) (hinst : st.instances i = some inst) (t : Team)
    (hq : ∃ g, st.groups q = some g) :
    (∃ g, (st.inviteGroupToBG env p i (some t)).1.groups q = some g) ∧
      ∃ inst', (st.inviteGroupToBG env p i (some t)).1.instances i = some inst' := by
  rw [inviteGroupToBG_side env st hinst (by simp [isInvited_eq, hinv])]
  obtain ⟨inst', hupdate, -⟩ := invite_instance env p (show (st.setTeam p t).instances i = some inst from hinst)
  refine ⟨?_, inst', by rw [hupdate, Function.update_self]⟩
  obtain ⟨rings, instances, heq⟩ := (st.setTeam p t).invite_cases env p i inst
  rw [heq]
  exact modifyGroup_live _ p _ (modifyGroup_live st p _ hq)

end Axium.Queue
