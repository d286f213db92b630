import Axium.Battleground.Queue
import Axium.Lib.Window
import Mathlib.Algebra.Order.BigOperators.Group.List
import Mathlib.Algebra.Order.Ring.Nat

/-!
# The average time in the queue

For every side and bracket the queue keeps the last ten waits in a ring, with their sum. The sum is exact
and the ring shows the last ten waits (`WaitRing.Exact`, kept by **`WaitRing.Exact.record`**).
`GetAverageQueueWaitTime` takes a zero in the last cell of the ring for a cell that was never written,
although a group that is invited in the millisecond in which it joined has waited zero.
-/

namespace Axium.Queue

open List Function
open Run (run AllSteps)
open Window (Shows)

/-- The `team_index` of a group. -/
def GroupQueueInfo.teamIndex (g : GroupQueueInfo) : Team :=
  if g.arenaType = 0 then g.team else if g.isRated then .horde else .alliance

def WaitRing.average (ring : WaitRing) : Nat :=
  if ring.times.getD 9 0 ≠ 0 then ring.sum / 10 else 0

def State.getAverageQueueWaitTime (st : State) (g : GroupQueueInfo) (b : BattlegroundBracketId) : Nat :=
  (st.waitRings g.teamIndex b).average

/-- A call of `PlayerInvitedToBGUpdateAverageWaitTime` at the time `msTime`. -/
structure WaitCall where
  msTime : Nat
  ginfo : GroupQueueInfo
  bracketId : BattlegroundBracketId

namespace WaitCall

def perform (st : State) (c : WaitCall) : State :=
  st.playerInvitedToBGUpdateAverageWaitTime c.msTime c.ginfo c.bracketId

def timeInQueue (c : WaitCall) : Nat := getMSTimeDiff c.ginfo.joinTime c.msTime

def isFor (t : Team) (b : BattlegroundBracketId) (c : WaitCall) : Bool :=
  c.ginfo.teamIndex = t ∧ c.bracketId = b

end WaitCall

def waits (t : Team) (b : BattlegroundBracketId) (calls : List WaitCall) : List Nat :=
  (calls.filter (WaitCall.isFor t b)).map WaitCall.timeInQueue

def State.WaitsFit (st : State) : Prop := ∀ t b, (st.waitRings t b).times.sum < 2 ^ 32

/-! ## One slot -/

def WaitRing.record (ring : WaitRing) (x : Nat) : WaitRing where
  times := ring.times.set ring.lastPlayer x
  lastPlayer := (ring.lastPlayer + 1) % 10
  sum := (u32Sub ring.sum (ring.times.getD ring.lastPlayer 0) + x) % 2 ^ 32

/-- The ring shows the last ten waits, and zeros where there were none, and has their exact sum. -/
structure WaitRing.Exact (ring : WaitRing) (recorded : List Nat) : Prop where
  length_eq : ring.times.length = 10
  shows : Shows ring.times ring.lastPlayer (replicate 10 0 ++ recorded)
  sum_eq : ring.sum = ring.times.sum

namespace WaitRing.Exact

variable {ring : WaitRing} {recorded : List Nat}

theorem init : WaitRing.Exact {} [] where
  length_eq := rfl
  shows := Shows.init (cons_ne_nil _ _)
  sum_eq := rfl

section

variable (h : ring.Exact recorded)
include h

theorem record {x : Nat} (hfit : ring.times.sum < 2 ^ 32)
    (hfits : (ring.record x).times.sum < 2 ^ 32) : (ring.record x).Exact (recorded ++ [x]) where
  length_eq := by rw [WaitRing.record, length_set, h.length_eq]
  shows := by
    have hwrite := h.shows.write x
    rw [h.length_eq] at hwrite
    exact hwrite
  sum_eq := by
    change (ring.times.set ring.lastPlayer x).sum < 2 ^ 32 at hfits
    change (u32Sub ring.sum (ring.times.getD ring.lastPlayer 0) + x) % 2 ^ 32 =
      (ring.times.set ring.lastPlayer x).sum
    have hlt := h.shows.next_lt
    have hset := Window.sum_set hlt x
    have hold : ring.times[ring.lastPlayer] ≤ ring.times.sum :=
      single_le_sum (fun _ _ => Nat.zero_le _) _ (getElem_mem hlt)
    rw [h.sum_eq, u32Sub, getD_eq_getElem?_getD, getElem?_eq_getElem hlt, Option.getD_some,
      Nat.mod_eq_of_lt (hold.trans_lt hfit)]
    omega

theorem lastPlayer_lt : ring.lastPlayer < 10 := by
  rw [← h.length_eq]
  exact h.shows.next_lt

theorem sum_times (hten : 10 ≤ recorded.length) : ring.times.sum = (recorded.rtake 10).sum := by
  rw [h.shows.sum_eq, h.length_eq, List.rtake, drop_append, length_append, drop_eq_nil_of_le (by rw [length_replicate]; omega), nil_append]
  congr 2
  omega

theorem last_cell (hten : 10 ≤ recorded.length) :
    ring.times.getD 9 0 = recorded.getD (recorded.length / 10 * 10 - 1) 0 := by
  have hlast := h.shows.getLast?_eq
  rw [getLast?_eq_getElem?, h.length_eq, length_append,
    getElem?_append_right (by rw [length_replicate]; omega), length_replicate] at hlast
  rw [getD_eq_getElem?_getD, hlast]
  congr 2
  omega

theorem average_eq_iff (hten : 10 ≤ recorded.length) :
    ring.average = (recorded.rtake 10).sum / 10 ↔
      recorded.getD (recorded.length / 10 * 10 - 1) 0 ≠ 0 ∨ (recorded.rtake 10).sum < 10 := by
  rw [WaitRing.average, h.last_cell hten, h.sum_eq, h.sum_times hten]
  by_cases hzero : recorded.getD (recorded.length / 10 * 10 - 1) 0 = 0
  · rw [if_neg (not_not.2 hzero)]
    omega
  · rw [if_pos hzero]
    exact iff_of_true rfl (.inl hzero)

end

end WaitRing.Exact

/-! ## Calls on all slots -/

section Calls

variable {st : State} {t : Team} {b : BattlegroundBracketId}

theorem waitRings_perform (st : State) (c : WaitCall) (t : Team) (b : BattlegroundBracketId) :
    (WaitCall.perform st c).waitRings t b =
      if c.isFor t b then (st.waitRings t b).record c.timeInQueue else st.waitRings t b := by
  change update st.waitRings c.ginfo.teamIndex (update
    (st.waitRings c.ginfo.teamIndex) c.bracketId ((st.waitRings c.ginfo.teamIndex c.bracketId).record
      c.timeInQueue)) t b = _
  by_cases ht : c.ginfo.teamIndex = t
  · subst ht
    rw [update_self]
    by_cases hb : c.bracketId = b
    · subst hb
      simp [WaitCall.isFor]
    · rw [update_of_ne (Ne.symm hb), if_neg (by simp [WaitCall.isFor, hb])]
  · rw [update_of_ne (Ne.symm ht), if_neg (by simp [WaitCall.isFor, ht])]

def State.ExactRings (st : State) (recorded : Team → BattlegroundBracketId → List Nat) : Prop :=
  ∀ t b, (st.waitRings t b).Exact (recorded t b)

theorem State.ExactRings.perform {recorded : Team → BattlegroundBracketId → List Nat}
    (h : st.ExactRings recorded) {c : WaitCall} (hfit : st.WaitsFit)
    (hfits : (WaitCall.perform st c).WaitsFit) :
    (WaitCall.perform st c).ExactRings fun t b => recorded t b ++ waits t b [c] := by
  intro t b
  have hslot := hfits t b
  rw [waitRings_perform] at hslot ⊢
  cases hc : c.isFor t b with
  | true =>
    rw [hc] at hslot
    simpa [waits, hc] using (h t b).record (hfit t b) hslot
  | false => simpa [waits, hc] using h t b

/-- After a run the rings hold the waits of before and those of the run. -/
theorem State.ExactRings.run {recorded : Team → BattlegroundBracketId → List Nat}
    (h : st.ExactRings recorded) (hfit : st.WaitsFit) {calls : List WaitCall}
    (hfits : AllSteps WaitCall.perform (fun st c => (WaitCall.perform st c).WaitsFit) st calls) :
    (run WaitCall.perform st calls).ExactRings fun t b => recorded t b ++ waits t b calls := by
  induction calls generalizing st recorded with
  | nil => simpa [waits] using h
  | cons c calls ih =>
    have hrest := ih (h.perform hfit hfits.1) hfits.1 hfits.2
    intro t b
    have happend : waits t b [c] ++ waits t b calls = waits t b (c :: calls) := by
      rw [waits, waits, ← map_append, ← filter_append]
      rfl
    have hslot := hrest t b
    simp only [append_assoc, happend] at hslot
    exact hslot

def State.ShortWaits (st : State) : Prop :=
  ∀ t b, (st.waitRings t b).times.length = 10 ∧ ∀ x ∈ (st.waitRings t b).times, x ≤ 429496729

theorem State.ShortWaits.fit (h : st.ShortWaits) : st.WaitsFit := by
  intro t b
  have hsum := sum_le_card_nsmul _ _ (h t b).2
  rw [(h t b).1, nsmul_eq_mul] at hsum
  omega

theorem State.ShortWaits.perform (h : st.ShortWaits) {c : WaitCall} (hc : c.timeInQueue ≤ 429496729) :
    (WaitCall.perform st c).ShortWaits := by
  intro t b
  rw [waitRings_perform]
  split
  · refine ⟨by rw [WaitRing.record, length_set, (h t b).1], fun x hx => ?_⟩
    rcases mem_or_eq_of_mem_set hx with hx | rfl
    · exact (h t b).2 x hx
    · exact hc
  · exact h t b

theorem State.ShortWaits.allSteps (h : st.ShortWaits) {calls : List WaitCall}
    (hcalls : ∀ c ∈ calls, c.timeInQueue ≤ 429496729) :
    AllSteps WaitCall.perform (fun st c => (WaitCall.perform st c).WaitsFit) st calls := by
  induction calls generalizing st with
  | nil => trivial
  | cons c calls ih =>
    obtain ⟨hc, hcalls⟩ := forall_mem_cons.1 hcalls
    exact ⟨(h.perform hc).fit, ih (h.perform hc) hcalls⟩

theorem shortWaits_init : State.ShortWaits {} := fun _ _ => ⟨rfl, by simp⟩

/-- What the slot gives after the waits `recorded`. -/
structure State.Averages (st : State) (t : Team) (b : BattlegroundBracketId) (recorded : List Nat) :
    Prop where
  lastPlayer_lt : (st.waitRings t b).lastPlayer < 10
  sum_eq : (st.waitRings t b).sum = (st.waitRings t b).times.sum
  average_eq : 10 ≤ recorded.length → ∀ g : GroupQueueInfo, g.teamIndex = t →
    st.getAverageQueueWaitTime g b = (recorded.rtake 10).sum / 10

/-- **The averages are right when the last wait of the last full round is not zero, or the mean is.** -/
theorem averages_iff (calls : List WaitCall)
    (hfits : AllSteps WaitCall.perform (fun st c => (WaitCall.perform st c).WaitsFit) {} calls) :
    (∀ t b, (run WaitCall.perform {} calls).Averages t b (waits t b calls)) ↔
      ∀ t b, 10 ≤ (waits t b calls).length →
        (waits t b calls).getD ((waits t b calls).length / 10 * 10 - 1) 0 ≠ 0 ∨
          ((waits t b calls).rtake 10).sum < 10 := by
  have hinit : State.ExactRings {} fun _ _ => [] := fun _ _ => WaitRing.Exact.init
  have hfit : State.WaitsFit {} := fun _ _ => show (replicate 10 0).sum < 2 ^ 32 by decide
  have hexact : ∀ t b, ((run WaitCall.perform {} calls).waitRings t b).Exact (waits t b calls) :=
    hinit.run hfit hfits
  constructor
  · intro h t b hten
    exact ((hexact t b).average_eq_iff hten).1 ((h t b).average_eq hten { team := t } rfl)
  · intro h t b
    refine ⟨(hexact t b).lastPlayer_lt, (hexact t b).sum_eq, ?_⟩
    rintro hten g rfl
    exact ((hexact _ b).average_eq_iff hten).2 (h _ b hten)

/-- Ten groups of the Alliance are invited at the time 1100. Nine have joined at the time 1000, and the
tenth joins at `joinTime`. -/
def tenInvited (joinTime : Nat) : List WaitCall :=
  replicate 9 ⟨1100, { joinTime := 1000 }, 0⟩ ++ [⟨1100, { joinTime }, 0⟩]

theorem averages_of_tenInvited :
    (run WaitCall.perform {} (tenInvited 1050)).Averages .alliance 0 (waits .alliance 0 (tenInvited 1050)) := by
  refine (averages_iff (tenInvited 1050) (shortWaits_init.allSteps (by decide))).2 (fun t => ?_) .alliance 0
  cases t <;> decide

/-- When the tenth group is invited as it joins, the mean of 90 is not given. -/
theorem no_average_after_zero :
    AllSteps WaitCall.perform (fun st c => (WaitCall.perform st c).WaitsFit) {} (tenInvited 1100) ∧
      10 ≤ (waits .alliance 0 (tenInvited 1100)).length ∧
      ((waits .alliance 0 (tenInvited 1100)).rtake 10).sum / 10 = 90 ∧
      (run WaitCall.perform {} (tenInvited 1100)).getAverageQueueWaitTime {} 0 = 0 :=
  ⟨shortWaits_init.allSteps (by decide), by decide, by decide, by decide⟩

end Calls

end Axium.Queue
