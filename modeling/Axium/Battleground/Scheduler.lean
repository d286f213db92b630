import Mathlib.Data.List.Dedup
import Mathlib.Data.List.Induction
import Mathlib.Data.List.Perm.Basic
import Axium.Lib.ByteLoop
import Axium.Battleground.Basic

/-!
# Scheduled queue updates

`BattlegroundMgr::ScheduleQueueUpdate` packs a rating, an arena type, a queue type, a battleground
type and a bracket into one word of `m_QueueUpdateScheduler`, unless the word is there already;
`BattlegroundMgr::Update` copies and clears the vector and runs one `BattlegroundQueueUpdate` for
each word. Both walk the vector with a `uint8` index (`Axium.ByteLoop`).

The packing loses nothing (`decode_scheduleId`), so the scheduler is a set of updates as long as
the two loops end: exactly when at most 255 distinct updates are scheduled between two calls of
`Update` (`schedule_faithful_iff`).
-/

namespace Axium.Scheduler

open ByteLoop List

/-- The arena types a caller passes: none (battlegrounds) or 2v2, 3v3 and 5v5. -/
inductive ArenaType where
  | arenaNone | arena2v2 | arena3v3 | arena5v5
  deriving DecidableEq, Repr

def ArenaType.code : ArenaType → Nat
  | arenaNone => 0 | arena2v2 => 2 | arena3v3 => 3 | arena5v5 => 5

/-- The arguments of one call of `ScheduleQueueUpdate`. -/
structure QueueUpdate where
  arenaMatchmakerRating : UInt32
  arenaType : ArenaType
  bgQueueTypeId : BattlegroundQueueTypeId
  bgTypeId : BattlegroundTypeId
  bracketId : BattlegroundBracketId
  deriving DecidableEq, Repr

/-- One call `m_BattlegroundQueues[bgQueueTypeId].BattlegroundQueueUpdate(...)`, with the enumerator
values the code passes. -/
structure Call where
  bgQueueTypeId : Nat
  bgTypeId : Nat
  bracketId : Nat
  arenaType : Nat
  isRated : Bool
  arenaRating : Nat
  deriving DecidableEq, Repr

def QueueUpdate.call (u : QueueUpdate) : Call where
  bgQueueTypeId := u.bgQueueTypeId.code
  bgTypeId := u.bgTypeId.code
  bracketId := u.bracketId
  arenaType := u.arenaType.code
  isRated := 0 < u.arenaMatchmakerRating.toNat
  arenaRating := u.arenaMatchmakerRating.toNat

/-- `schedule_id`. Only the rating is widened before its shift; the others are shifted as `int`,
and the largest (`5 << 24`) is positive, so its conversion to `uint64` keeps it. -/
def QueueUpdate.scheduleId (u : QueueUpdate) : Nat :=
  u.arenaMatchmakerRating.toNat <<< 32 ||| u.arenaType.code <<< 24 |||
    u.bgQueueTypeId.code <<< 16 ||| u.bgTypeId.code <<< 8 ||| u.bracketId

/-- The unpacking in `Update`: `>>` binds tighter than `&`, and the assignments to `uint32` and
`uint8` truncate. -/
def decode (scheduleId : Nat) : Call where
  bgQueueTypeId := scheduleId >>> 16 &&& 255
  bgTypeId := scheduleId >>> 8 &&& 255
  bracketId := scheduleId &&& 255
  arenaType := (scheduleId >>> 24 &&& 255) % 2 ^ 8
  isRated := 0 < (scheduleId >>> 32) % 2 ^ 32
  arenaRating := (scheduleId >>> 32) % 2 ^ 32

def scanScheduler (fuel : Nat) (scheduler : List Nat) (scheduleId : Nat) : Option Bool :=
  byteFor scheduler.length
    (fun i found => if scheduler[i]? == some scheduleId then .brk true else .next found) fuel 0 false

/-- `ScheduleQueueUpdate`; `none` while its loop has not ended within the fuel. -/
def scheduleQueueUpdate (fuel : Nat) (scheduler : List Nat) (u : QueueUpdate) :
    Option (List Nat) := do
  let found ← scanScheduler fuel scheduler u.scheduleId
  return if found then scheduler else scheduler ++ [u.scheduleId]

/-- The calls of `ScheduleQueueUpdate` between two calls of `Update`, from an empty scheduler. -/
def scheduleAll (fuel : Nat) (us : List QueueUpdate) : Option (List Nat) :=
  us.foldlM (scheduleQueueUpdate fuel) []

/-- The scheduled part of `Update`: the `BattlegroundQueueUpdate` calls it makes, in order, and the
cleared scheduler. -/
def updateScheduled (fuel : Nat) (scheduler : List Nat) : Option (List Call × List Nat) :=
  if scheduler.isEmpty then some ([], scheduler)
  else do
    let calls ← byteFor scheduler.length
      (fun i calls => .next (calls ++ [decode (scheduler.getD i 0)])) fuel 0 []
    return (calls, [])

/-! ## The packed word -/

theorem ArenaType.code_lt (t : ArenaType) : t.code < 256 := by cases t <;> decide

theorem scheduleId_eq (u : QueueUpdate) :
    u.scheduleId = u.arenaMatchmakerRating.toNat * 2 ^ 32 + u.arenaType.code * 2 ^ 24 +
      u.bgQueueTypeId.code * 2 ^ 16 + u.bgTypeId.code * 2 ^ 8 + u.bracketId := by
  have h1 := u.arenaType.code_lt
  have h2 := u.bgQueueTypeId.code_lt
  have h3 := u.bgTypeId.code_lt
  simp only [QueueUpdate.scheduleId, Nat.or_assoc]
  rw [← Nat.shiftLeft_add_eq_or_of_lt (show (u.bracketId : Nat) < 2 ^ 8 by omega),
    ← Nat.shiftLeft_add_eq_or_of_lt (show _ < 2 ^ 16 by rw [Nat.shiftLeft_eq]; omega),
    ← Nat.shiftLeft_add_eq_or_of_lt (show _ < 2 ^ 24 by simp only [Nat.shiftLeft_eq]; omega),
    ← Nat.shiftLeft_add_eq_or_of_lt (show _ < 2 ^ 32 by simp only [Nat.shiftLeft_eq]; omega)]
  omega

/-- **The word is decoded to the call that was scheduled.** -/
theorem decode_scheduleId (u : QueueUpdate) : decode u.scheduleId = u.call := by
  have h0 : u.arenaMatchmakerRating.toNat < 2 ^ 32 := u.arenaMatchmakerRating.toNat_lt
  have h1 := u.arenaType.code_lt
  have h2 := u.bgQueueTypeId.code_lt
  have h3 := u.bgTypeId.code_lt
  have hmask : ∀ n : Nat, n &&& 255 = n % 2 ^ 8 := fun n => Nat.and_two_pow_sub_one_eq_mod n 8
  have hrating : (u.scheduleId >>> 32) % 2 ^ 32 = u.arenaMatchmakerRating.toNat := by
    rw [scheduleId_eq]
    omega
  simp only [decode, QueueUpdate.call, hrating, hmask, Call.mk.injEq, and_true]
  rw [scheduleId_eq]
  refine ⟨?_, ?_, ?_, ?_⟩ <;> omega

theorem ArenaType.code_injective {t t' : ArenaType} (h : t.code = t'.code) : t = t' := by
  cases t <;> cases t' <;> first | rfl | cases h

theorem call_injective {u v : QueueUpdate} (h : u.call = v.call) : u = v := by
  obtain ⟨r, a, q, t, b⟩ := u
  obtain ⟨r', a', q', t', b'⟩ := v
  simp only [QueueUpdate.call, Call.mk.injEq] at h
  obtain ⟨hq, ht, hb, ha, -, hr⟩ := h
  have hq' : some q = some q' := by
    rw [← BattlegroundQueueTypeId.ofCode_code, hq, BattlegroundQueueTypeId.ofCode_code]
  have ht' : some t = some t' := by
    rw [← BattlegroundTypeId.ofCode_code, ht, BattlegroundTypeId.ofCode_code]
  cases hq'
  cases ht'
  rw [ArenaType.code_injective ha, Fin.ext hb, UInt32.toNat_inj.1 hr]

theorem scheduleId_injective {u v : QueueUpdate} (h : u.scheduleId = v.scheduleId) : u = v :=
  call_injective (by rw [← decode_scheduleId, h, decode_scheduleId])

/-! ## The two loops -/

variable {scheduler : List Nat} {fuel : Nat}

theorem scanScheduler_eq (hlen : scheduler.length ≤ 255) (hfuel : 255 < fuel) (scheduleId : Nat) :
    scanScheduler fuel scheduler scheduleId = some (decide (scheduleId ∈ scheduler)) := by
  rw [scanScheduler, byteFor_eq hlen (by omega), forOver_search, Option.some_inj,
    Bool.eq_iff_iff, any_eq_true, decide_eq_true_eq, mem_iff_getElem?]
  constructor
  · rintro ⟨i, -, hi⟩
    exact ⟨i, beq_iff_eq.1 hi⟩
  · rintro ⟨i, hi⟩
    exact ⟨i, List.mem_range.2 (List.getElem?_eq_some_iff.1 hi).1, beq_iff_eq.2 hi⟩

theorem scheduleQueueUpdate_eq (hlen : scheduler.length ≤ 255) (hfuel : 255 < fuel) (u : QueueUpdate) :
    scheduleQueueUpdate fuel scheduler u =
      some (if u.scheduleId ∈ scheduler then scheduler else scheduler ++ [u.scheduleId]) := by
  simp [scheduleQueueUpdate, scanScheduler_eq hlen hfuel]

theorem updateScheduled_eq (hlen : scheduler.length ≤ 255) (hfuel : 255 < fuel) :
    updateScheduled fuel scheduler = some (scheduler.map decode, []) := by
  rw [updateScheduled]
  split
  · rename_i hempty
    rw [isEmpty_iff.1 hempty]
    rfl
  · rw [byteFor_eq hlen (by omega), forOver_append (fun i => decode (scheduler.getD i 0))]
    have hmap : (range scheduler.length).map (fun i => decode (scheduler.getD i 0)) = scheduler.map decode := by
      refine ext_getElem (by simp) fun i h₁ h₂ => ?_
      simp [getElem?_eq_getElem (show i < scheduler.length by simpa using h₂)]
    rw [hmap]
    rfl

theorem updateScheduled_eq_none (hlen : 256 ≤ scheduler.length)
    (fuel : Nat) : updateScheduled fuel scheduler = none := by
  have hempty : ¬ scheduler.isEmpty := by
    intro h
    rw [isEmpty_iff.1 h] at hlen
    exact absurd hlen (by decide)
  rw [updateScheduled, if_neg hempty,
    byteFor_eq_none (P := fun _ => True) hlen (fun i _ s _ => ⟨_, rfl, trivial⟩) fuel
      (by decide) trivial]
  rfl

/-! ## Sequences of calls -/

theorem perm_dedup_of_mem_iff {us : List QueueUpdate}
    (hnd : scheduler.Nodup) (hmem : ∀ w, w ∈ scheduler ↔ ∃ u ∈ us, u.scheduleId = w) :
    scheduler.Perm (us.dedup.map QueueUpdate.scheduleId) := by
  have hnd' : (us.dedup.map QueueUpdate.scheduleId).Nodup :=
    us.nodup_dedup.map fun _ _ => scheduleId_injective
  refine (perm_ext_iff_of_nodup hnd hnd').2 fun w => ?_
  simp [hmem]

/-- **While at most 255 distinct updates are scheduled** every call returns, and the scheduler holds
each of their words once. -/
theorem scheduleAll_eq (hfuel : 255 < fuel) (us : List QueueUpdate) (hus : us.dedup.length ≤ 255) :
    ∃ scheduler, scheduleAll fuel us = some scheduler ∧
      scheduler.Perm (us.dedup.map QueueUpdate.scheduleId) := by
  suffices h : ∃ scheduler, scheduleAll fuel us = some scheduler ∧ scheduler.Nodup ∧
      ∀ w, w ∈ scheduler ↔ ∃ u ∈ us, u.scheduleId = w by
    obtain ⟨scheduler, hrun, hnd, hmem⟩ := h
    exact ⟨scheduler, hrun, perm_dedup_of_mem_iff hnd hmem⟩
  -- the calls are appended one at a time, so the induction is from the end of the list
  induction us using List.reverseRecOn with
  | nil => exact ⟨[], rfl, nodup_nil, by simp⟩
  | append_singleton us u ih =>
    have hsub : us.dedup.length ≤ (us ++ [u]).dedup.length :=
      (subperm_of_subset us.nodup_dedup fun v hv => by
        simp only [mem_dedup, mem_append] at hv ⊢
        exact .inl hv).length_le
    obtain ⟨scheduler, hrun, hnd, hmem⟩ := ih (by omega)
    have hlen : scheduler.length ≤ 255 := by
      have := (perm_dedup_of_mem_iff hnd hmem).length_eq
      rw [length_map] at this
      omega
    have hstep : scheduleAll fuel (us ++ [u]) =
        some (if u.scheduleId ∈ scheduler then scheduler else scheduler ++ [u.scheduleId]) := by
      rw [scheduleAll, foldlM_append, ← scheduleAll, hrun]
      simp [scheduleQueueUpdate_eq hlen hfuel]
    by_cases hold : u.scheduleId ∈ scheduler
    · rw [if_pos hold] at hstep
      refine ⟨scheduler, hstep, hnd, fun w => ?_⟩
      rw [hmem]
      constructor
      · rintro ⟨v, hv, rfl⟩
        exact ⟨v, by simp [hv], rfl⟩
      · rintro ⟨v, hv, rfl⟩
        rcases mem_append.1 hv with hv | hv
        · exact ⟨v, hv, rfl⟩
        · rw [mem_singleton.1 hv]
          exact (hmem _).1 hold
    · rw [if_neg hold] at hstep
      refine ⟨scheduler ++ [u.scheduleId], hstep, ?_, fun w => ?_⟩
      · exact nodup_append.2 ⟨hnd, by simp, by
          rintro w hw _ hw' rfl
          rw [mem_singleton.1 hw'] at hw
          exact hold hw⟩
      · simp only [mem_append, hmem, mem_singleton]
        constructor
        · rintro (⟨v, hv, rfl⟩ | rfl)
          · exact ⟨v, .inl hv, rfl⟩
          · exact ⟨u, .inr rfl, rfl⟩
        · rintro ⟨v, hv | rfl, rfl⟩
          · exact .inl ⟨v, hv, rfl⟩
          · exact .inr rfl

/-- The calls `us` are all scheduled and all processed: every `ScheduleQueueUpdate` returns, the
scheduler then holds each distinct update once, and the next `Update` returns after running one
`BattlegroundQueueUpdate` for each distinct update, with the arguments that were scheduled. -/
def Faithful (us : List QueueUpdate) : Prop :=
  ∃ fuel scheduler calls,
    scheduleAll fuel us = some scheduler ∧
    scheduler.Perm (us.dedup.map QueueUpdate.scheduleId) ∧
    updateScheduled fuel scheduler = some (calls, []) ∧
    calls.Perm (us.dedup.map QueueUpdate.call)

theorem not_faithful_of_lt {us : List QueueUpdate} (hus : 255 < us.dedup.length) : ¬ Faithful us := by
  rintro ⟨fuel, scheduler, calls, -, hperm, hupdate, -⟩
  have hlen := hperm.length_eq
  rw [length_map] at hlen
  rw [updateScheduled_eq_none (by omega)] at hupdate
  cases hupdate

/-- **Scheduled updates are decoded faithfully and all processed exactly when at most 255 distinct
ones are scheduled between two calls of `Update`.** -/
theorem schedule_faithful_iff (us : List QueueUpdate) : Faithful us ↔ us.dedup.length ≤ 255 := by
  constructor
  · intro h
    by_contra hlt
    exact not_faithful_of_lt (by omega) h
  · intro hus
    obtain ⟨scheduler, hrun, hperm⟩ := scheduleAll_eq (show 255 < 256 by decide) us hus
    have hlen : scheduler.length ≤ 255 := by
      have := hperm.length_eq
      rw [length_map] at this
      omega
    refine ⟨256, scheduler, scheduler.map decode, hrun, hperm, updateScheduled_eq hlen (by decide), ?_⟩
    have := hperm.map decode
    rwa [map_map, show decode ∘ QueueUpdate.scheduleId = QueueUpdate.call from
      funext decode_scheduleId] at this

def ratedUpdate (rating : UInt32) : QueueUpdate :=
  { arenaMatchmakerRating := rating, arenaType := .arena2v2, bgQueueTypeId := .arena2v2,
    bgTypeId := .aa, bracketId := 15 }

/-- Teams of 256 different ratings join between two calls of `Update`, which then does not
return. -/
theorem schedule_diverges : ¬ Faithful ((range 256).map fun n => ratedUpdate (.ofNat n)) := by
  refine not_faithful_of_lt ?_
  have hnd : ((range 256).map fun n => ratedUpdate (.ofNat n)).Nodup := by
    refine List.Nodup.map_on (fun m hm n hn h => ?_) nodup_range
    have hr := congrArg (fun u => u.arenaMatchmakerRating.toNat) h
    simp only [ratedUpdate, UInt32.toNat_ofNat'] at hr
    simp only [List.mem_range] at hm hn
    omega
  rw [hnd.dedup, length_map, length_range]
  decide

end Axium.Scheduler
