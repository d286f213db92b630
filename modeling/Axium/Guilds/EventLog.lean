import Axium.Lib.Run
import Mathlib.Data.List.Sort

/-!
# The logs of a guild

`LogHolder` of `Guild.cpp` with the table its entries are saved to, and the loading of `GuildMgr.cpp`.
A log has room for `maxRecords` entries. An entry gets the next of the numbers below `maxRecords`, in a
circle, and its row takes the place of the row with its number.

At a restart the order of the rows is rebuilt from their timestamps, and among those of one second from
their numbers. That is the order of the events unless the numbers started again from zero within that
second: **`survivesRestarts_iff`**.
-/

namespace Axium.Guilds

open Run List

/-- `LogEntry`: an `EventLogEntry` or a `BankEventLogEntry` with its data. -/
structure LogEntry (α : Type*) where
  guid : Nat
  timestamp : Nat
  data : α
deriving DecidableEq, Repr

/-- `LogHolder`. `GUILD_EVENT_LOG_GUID_UNDEFINED` is `none`: the numbers are below `maxRecords`, so none
of them is 0xFFFFFFFF. -/
structure LogHolder (α : Type*) where
  log : List (LogEntry α) := []
  nextGUID : Option Nat := none
deriving DecidableEq, Repr

namespace LogHolder

variable {α : Type*} (maxRecords : Nat) (h : LogHolder α)

def canInsert : Prop := h.log.length < maxRecords

instance : Decidable (h.canInsert maxRecords) := inferInstanceAs (Decidable (_ < _))

def loadEvent (entry : LogEntry α) : LogHolder α where
  log := entry :: h.log
  nextGUID := some (h.nextGUID.getD entry.guid)

def addEvent (entry : LogEntry α) : LogHolder α :=
  { h with log := (if maxRecords ≤ h.log.length then h.log.tail else h.log) ++ [entry] }

/-- The number that `GetNextGUID` returns and stores in `m_nextGUID`. -/
def getNextGUID : Nat :=
  match h.nextGUID with
  | none => 0
  | some guid => (guid + 1) % maxRecords

end LogHolder

structure Chronicle (α : Type*) where
  holder : LogHolder α := {}
  rows : List (LogEntry α) := []
  history : List (LogEntry α) := []
deriving DecidableEq, Repr

namespace Chronicle

variable {α : Type*} (maxRecords : Nat)

/-- `SaveToDB`: `DELETE` of the row with the number of the entry, then `INSERT`. -/
def saveToDB (rows : List (LogEntry α)) (entry : LogEntry α) : List (LogEntry α) :=
  rows.filter (·.guid ≠ entry.guid) ++ [entry]

def logEvent (s : Chronicle α) (timestamp : Nat) (data : α) : Chronicle α :=
  let guid := s.holder.getNextGUID maxRecords
  let entry : LogEntry α := { guid, timestamp, data }
  { holder := { s.holder with nextGUID := some guid }.addEvent maxRecords entry
    rows := saveToDB s.rows entry
    history := s.history ++ [entry] }

/-- `ORDER BY TimeStamp DESC, LogGuid DESC`. -/
def NewerFirst (e f : LogEntry α) : Prop :=
  f.timestamp < e.timestamp ∨ f.timestamp = e.timestamp ∧ f.guid ≤ e.guid

instance : DecidableRel (NewerFirst (α := α)) := fun _ _ => inferInstanceAs (Decidable (_ ∨ _))

/-- `LoadEventLogFromDB`, and `LoadBankEventLogFromDB` on a row of the log it is loaded to. -/
def loadEventLogFromDB (h : LogHolder α) (row : LogEntry α) : LogHolder α :=
  if h.canInsert maxRecords then h.loadEvent row else h

/-- `LoadGuilds` on the rows of the log: the `DELETE`, and the query read row by row into a new holder. -/
def loadGuilds (s : Chronicle α) : Chronicle α :=
  let rows := s.rows.filter (·.guid ≤ maxRecords)
  { s with
    holder := (rows.insertionSort NewerFirst).foldl (loadEventLogFromDB maxRecords) {}
    rows }

inductive Event (α : Type*) where
  | log (timestamp : Nat) (data : α)
  | restart

def step (s : Chronicle α) : Event α → Chronicle α
  | .log timestamp data => s.logEvent maxRecords timestamp data
  | .restart => s.loadGuilds maxRecords

/-! ## What the log is for -/

def last (n : Nat) (l : List (LogEntry α)) : List (LogEntry α) := l.drop (l.length - n)

/-- The log and the table hold the last entries, each with a number of its own, and the next entry
takes the number of the oldest one if there is no room left. -/
structure Kept (s : Chronicle α) : Prop where
  log : s.holder.log = last maxRecords s.history
  rows : s.rows.Perm (last maxRecords s.history)
  nodup : (s.rows.map (·.guid)).Nodup
  lt : ∀ e ∈ s.rows, e.guid < maxRecords
  overwrites : s.rows.filter (·.guid = s.holder.getNextGUID maxRecords) =
    if s.history.length < maxRecords then [] else (last maxRecords s.history).take 1

def Monotone (s : Chronicle α) : Event α → Prop
  | .log timestamp _ => ∀ e ∈ s.history, e.timestamp ≤ timestamp
  | .restart => True

instance (s : Chronicle α) : (e : Event α) → Decidable (Monotone s e)
  | .log _ _ => inferInstanceAs (Decidable (∀ e ∈ _, _))
  | .restart => inferInstanceAs (Decidable True)

def Ordered (s : Chronicle α) : Event α → Prop
  | .log _ _ => True
  | .restart => s.holder.log.Pairwise fun e f => e.timestamp = f.timestamp → e.guid < f.guid

instance (s : Chronicle α) : (e : Event α) → Decidable (Ordered s e)
  | .log _ _ => inferInstanceAs (Decidable True)
  | .restart => inferInstanceAs (Decidable (Pairwise _ _))

/-! ## The numbers in a circle -/

/-- The entries were numbered in a circle, in the order of their timestamps. The holder goes on from the
number of the last one. -/
structure Numbered (s : Chronicle α) : Prop where
  guids : s.history.map (·.guid) = (range s.history.length).map (· % maxRecords)
  sorted : s.history.Pairwise fun e f => e.timestamp ≤ f.timestamp
  next : Kept maxRecords s → s.holder.nextGUID = s.history.getLast?.map (·.guid)

variable {maxRecords} {s : Chronicle α} {history : List (LogEntry α)}

theorem mod_ne_mod {i j n : Nat} (hij : i < j) (hjn : j < i + n) : i % n ≠ j % n := by
  intro h
  have hzero : (j - i) % n = 0 := Nat.sub_mod_eq_zero_of_mod_eq h.symm
  rw [Nat.mod_eq_of_lt (by omega)] at hzero
  omega

theorem last_nil : last maxRecords ([] : List (LogEntry α)) = [] := drop_nil

theorem length_last : (last maxRecords history).length = min history.length maxRecords := by
  rw [last, length_drop]
  omega

section

variable (hg : history.map (·.guid) = (range history.length).map (· % maxRecords))
include hg

theorem mem_last_guid {x : Nat} : x ∈ (last maxRecords history).map (·.guid) ↔
      ∃ j, history.length - maxRecords ≤ j ∧ j < history.length ∧ j % maxRecords = x := by
  rw [last, map_drop, hg, ← map_drop, range_eq_range', drop_range', mem_map]
  simp only [mem_range'_1]
  constructor
  · rintro ⟨j, hj, rfl⟩
    exact ⟨j, by omega, by omega, rfl⟩
  · rintro ⟨j, hlo, hhi, rfl⟩
    exact ⟨j, by omega, rfl⟩

theorem nodup_last : ((last maxRecords history).map (·.guid)).Nodup := by
  rw [last, map_drop, hg, ← map_drop, range_eq_range', drop_range']
  refine List.Nodup.map_on ?_ nodup_range'
  intro i hi j hj hij
  rw [mem_range'_1] at hi hj
  rcases lt_trichotomy i j with hlt | heq | hlt
  · exact absurd hij (mod_ne_mod hlt (by omega))
  · exact heq
  · exact absurd hij.symm (mod_ne_mod hlt (by omega))

theorem last_cases (hpos : 0 < maxRecords) :
    (history.length < maxRecords ∧ ∀ e ∈ last maxRecords history, e.guid ≠ history.length % maxRecords) ∨
    (maxRecords ≤ history.length ∧ ∃ e t, last maxRecords history = e :: t ∧
      e.guid = history.length % maxRecords ∧ ∀ f ∈ t, f.guid ≠ history.length % maxRecords) := by
  rcases lt_or_ge history.length maxRecords with hlt | hge
  · refine .inl ⟨hlt, fun e he hguid => ?_⟩
    obtain ⟨j, -, hhi, hj⟩ := (mem_last_guid hg).1 (mem_map_of_mem he)
    exact mod_ne_mod (n := maxRecords) hhi (by omega) (hj.trans hguid)
  · refine .inr ⟨hge, ?_⟩
    cases hl : last maxRecords history with
    | nil =>
      have hlen := congrArg length hl
      rw [length_last, length_nil] at hlen
      omega
    | cons e t =>
      have hlen : history.length - maxRecords < history.length := by omega
      have hhead := congrArg (fun l => (l.map (·.guid)).head?) hl
      simp only [last, map_drop, hg, head?_drop, map_cons, head?_cons,
        getElem?_map, getElem?_range hlen, Option.map_some, Option.some.injEq] at hhead
      rw [← Nat.mod_eq_sub_mod hge] at hhead
      have hnodup := nodup_last hg
      rw [hl, map_cons, nodup_cons] at hnodup
      refine ⟨e, t, rfl, hhead.symm, fun f hf hguid => hnodup.1 ?_⟩
      rw [← hhead, ← hguid]
      exact mem_map_of_mem hf

theorem filter_last (hpos : 0 < maxRecords) :
    (last maxRecords history).filter (·.guid = history.length % maxRecords) =
      if history.length < maxRecords then [] else (last maxRecords history).take 1 := by
  rcases last_cases hg hpos with ⟨hlt, hne⟩ | ⟨hge, e, t, hl, he, hne⟩
  · rw [if_pos hlt, filter_eq_nil_iff]
    intro e he
    simpa using hne e he
  · rw [if_neg (by omega), hl, filter_cons_of_pos (by simpa using he), take_succ_cons,
      take_zero, filter_eq_nil_iff.2 fun f hf => by simpa using hne f hf]

theorem filter_ne_last (hpos : 0 < maxRecords) :
    (last maxRecords history).filter (·.guid ≠ history.length % maxRecords) =
      if maxRecords ≤ history.length then (last maxRecords history).tail else last maxRecords history := by
  rcases last_cases hg hpos with ⟨hlt, hne⟩ | ⟨hge, e, t, hl, he, hne⟩
  · rw [if_neg (by omega), filter_eq_self]
    intro e he
    simpa using hne e he
  · rw [if_pos hge, hl, filter_cons_of_neg (by simpa using he), tail_cons,
      filter_eq_self.2 fun f hf => by simpa using hne f hf]

end

theorem getNextGUID_eq (hN : Numbered maxRecords s) (hk : Kept maxRecords s) :
    s.holder.getNextGUID maxRecords = s.history.length % maxRecords := by
  unfold LogHolder.getNextGUID
  rw [hN.next hk]
  rcases eq_nil_or_concat s.history with hnil | ⟨l, e, hl⟩
  · rw [hnil]
    exact (Nat.zero_mod _).symm
  · rw [concat_eq_append] at hl
    have hguid := congrArg List.getLast? hN.guids
    rw [hl, getLast?_map, getLast?_concat, length_append, length_singleton,
      getLast?_map, range_succ, getLast?_concat, Option.map_some, Option.map_some,
      Option.some.injEq] at hguid
    rw [hl, getLast?_concat, length_append, length_singleton]
    change (e.guid + 1) % maxRecords = _
    rw [hguid, Nat.mod_add_mod]

theorem kept_of (hpos : 0 < maxRecords)
    (hg : s.history.map (·.guid) = (range s.history.length).map (· % maxRecords))
    (hnext : s.holder.getNextGUID maxRecords = s.history.length % maxRecords)
    (hlog : s.holder.log = last maxRecords s.history)
    (hrows : s.rows.Perm (last maxRecords s.history)) : Kept maxRecords s where
  log := hlog
  rows := hrows
  nodup := (hrows.map _).nodup_iff.2 (nodup_last hg)
  lt := by
    intro e he
    obtain ⟨j, -, -, hj⟩ := (mem_last_guid hg).1 (mem_map_of_mem (hrows.mem_iff.1 he))
    rw [← hj]
    exact Nat.mod_lt _ hpos
  overwrites := by
    rw [hnext]
    have hperm := hrows.filter (·.guid = s.history.length % maxRecords)
    rw [filter_last hg hpos] at hperm
    by_cases hlt : s.history.length < maxRecords
    · rw [if_pos hlt] at hperm ⊢
      exact perm_nil.1 hperm
    · rw [if_neg hlt] at hperm ⊢
      cases hl : last maxRecords s.history with
      | nil =>
        rw [hl] at hperm
        exact perm_nil.1 hperm
      | cons e t =>
        rw [hl] at hperm
        exact perm_singleton.1 hperm

/-! ## A new entry -/

theorem last_concat (hpos : 0 < maxRecords) (e : LogEntry α) :
    last maxRecords (history ++ [e]) =
      (if maxRecords ≤ history.length then (last maxRecords history).tail
        else last maxRecords history) ++ [e] := by
  unfold last
  rw [length_append, length_singleton, drop_append_of_le_length (by omega)]
  by_cases hle : maxRecords ≤ history.length
  · rw [if_pos hle, tail_drop]
    congr 2
    omega
  · rw [if_neg hle]
    congr 2
    omega

theorem guids_logEvent (hN : Numbered maxRecords s) (hk : Kept maxRecords s) (timestamp : Nat) (data : α) :
    (s.logEvent maxRecords timestamp data).history.map (·.guid) =
      (range (s.logEvent maxRecords timestamp data).history.length).map (· % maxRecords) := by
  change (s.history ++ [_]).map _ = (range (s.history ++ [_]).length).map _
  rw [map_append, hN.guids, length_append, length_singleton, range_succ,
    map_append, map_singleton, map_singleton, getNextGUID_eq hN hk]

theorem getNextGUID_logEvent (hN : Numbered maxRecords s) (hk : Kept maxRecords s) (timestamp : Nat)
    (data : α) :
    (s.logEvent maxRecords timestamp data).holder.getNextGUID maxRecords =
      (s.logEvent maxRecords timestamp data).history.length % maxRecords := by
  change (s.holder.getNextGUID maxRecords + 1) % maxRecords = (s.history ++ [_]).length % maxRecords
  rw [getNextGUID_eq hN hk, length_append, length_singleton, Nat.mod_add_mod]

theorem kept_logEvent (hpos : 0 < maxRecords) (hN : Numbered maxRecords s) (hk : Kept maxRecords s)
    (timestamp : Nat) (data : α) : Kept maxRecords (s.logEvent maxRecords timestamp data) := by
  refine kept_of hpos (guids_logEvent hN hk timestamp data) (getNextGUID_logEvent hN hk timestamp data) ?_ ?_
  · change (if maxRecords ≤ s.holder.log.length then _ else _) ++ [_] = last maxRecords (s.history ++ [_])
    rw [last_concat hpos, hk.log, length_last]
    by_cases hle : maxRecords ≤ s.history.length
    · rw [if_pos (by omega), if_pos hle]
    · rw [if_neg (by omega), if_neg hle]
  · change (s.rows.filter _ ++ [_]).Perm (last maxRecords (s.history ++ [_]))
    rw [last_concat hpos, ← filter_ne_last hN.guids hpos, ← getNextGUID_eq hN hk]
    exact (hk.rows.filter _).append_right _

theorem numbered_logEvent (hN : Numbered maxRecords s) (hk : Kept maxRecords s) {timestamp : Nat}
    (htime : ∀ e ∈ s.history, e.timestamp ≤ timestamp) (data : α) :
    Numbered maxRecords (s.logEvent maxRecords timestamp data) where
  guids := guids_logEvent hN hk timestamp data
  sorted := by
    refine pairwise_append.2 ⟨hN.sorted, pairwise_singleton _ _, fun e he f hf => ?_⟩
    rw [mem_singleton.1 hf]
    exact htime e he
  next _ := by
    change some _ = ((s.history ++ [_]).getLast?).map _
    rw [getLast?_concat, Option.map_some]

/-! ## A restart -/

theorem foldl_loadEventLogFromDB (rows : List (LogEntry α)) (h : LogHolder α)
    (hroom : h.log.length + rows.length ≤ maxRecords) :
    rows.foldl (loadEventLogFromDB maxRecords) h =
      { log := rows.reverse ++ h.log, nextGUID := h.nextGUID.or (rows.head?.map (·.guid)) } := by
  induction rows generalizing h with
  | nil => simp
  | cons row rows ih =>
    rw [length_cons] at hroom
    have hins : h.canInsert maxRecords := by
      unfold LogHolder.canInsert
      omega
    have hload : loadEventLogFromDB maxRecords h row = h.loadEvent row := if_pos hins
    rw [foldl_cons, hload, ih _ (by
      change (row :: h.log).length + rows.length ≤ maxRecords
      rw [length_cons]
      omega)]
    cases hnext : h.nextGUID with
    | none => simp [LogHolder.loadEvent, hnext]
    | some guid => simp [LogHolder.loadEvent, hnext]

instance : Std.Total (NewerFirst (α := α)) where
  total e f := by
    unfold NewerFirst
    omega

instance : IsTrans (LogEntry α) NewerFirst where
  trans e f g := by
    unfold NewerFirst
    omega

theorem loadGuilds_rows (hk : Kept maxRecords s) : (s.loadGuilds maxRecords).rows = s.rows := by
  change s.rows.filter _ = s.rows
  rw [filter_eq_self]
  intro e he
  have hlt := hk.lt e he
  simpa using hlt.le

theorem loadGuilds_holder (hk : Kept maxRecords s) :
    (s.loadGuilds maxRecords).holder =
      { log := (s.rows.insertionSort NewerFirst).reverse
        nextGUID := (s.rows.insertionSort NewerFirst).head?.map (·.guid) } := by
  change (((s.loadGuilds maxRecords).rows).insertionSort NewerFirst).foldl _ _ = _
  have hlen : s.rows.length ≤ maxRecords := by
    rw [hk.rows.length_eq, length_last]
    omega
  rw [loadGuilds_rows hk, foldl_loadEventLogFromDB]
  · rw [append_nil, Option.none_or]
  · rw [length_insertionSort, length_nil]
    omega

/-- The query returns the entries in the reverse of their order if and only if the numbers of one second
grow. -/
theorem insertionSort_rows_iff (hN : Numbered maxRecords s) (hk : Kept maxRecords s) :
    s.rows.insertionSort NewerFirst = (last maxRecords s.history).reverse ↔
      (last maxRecords s.history).Pairwise fun e f => e.timestamp = f.timestamp → e.guid < f.guid := by
  have hne : (last maxRecords s.history).Pairwise fun e f => e.guid ≠ f.guid :=
    pairwise_map.1 (nodup_last hN.guids)
  constructor
  · intro h
    have hsort := pairwise_insertionSort NewerFirst s.rows
    rw [h, pairwise_reverse] at hsort
    refine (hsort.and hne).imp ?_
    rintro e f ⟨hlt | ⟨-, hle⟩, hguid⟩ htime
    · omega
    · omega
  · intro h
    have hle : (last maxRecords s.history).Pairwise fun e f => e.timestamp ≤ f.timestamp := hN.sorted.drop
    have hsort : (last maxRecords s.history).reverse.Pairwise NewerFirst := by
      rw [pairwise_reverse]
      refine (hle.and h).imp ?_
      rintro e f ⟨htime, hguid⟩
      rcases lt_or_eq_of_le htime with hlt | heq
      · exact .inl hlt
      · exact .inr ⟨heq, (hguid heq).le⟩
    have hperm : (s.rows.insertionSort NewerFirst).Perm (last maxRecords s.history).reverse :=
      (perm_insertionSort _ _).trans (hk.rows.trans (reverse_perm _).symm)
    refine hperm.eq_of_pairwise ?_ (pairwise_insertionSort _ _) hsort
    intro e f he hf hef hfe
    have hguid : e.guid = f.guid := by
      unfold NewerFirst at hef hfe
      omega
    exact inj_on_of_nodup_map hk.nodup ((mem_insertionSort _).1 he) (hk.rows.mem_iff.2 (mem_reverse.1 hf)) hguid

theorem getLast?_last (hpos : 0 < maxRecords) (l : List (LogEntry α)) :
    (last maxRecords l).getLast? = l.getLast? := by
  rcases eq_nil_or_concat l with rfl | ⟨l, e, rfl⟩
  · rw [last_nil]
  · rw [concat_eq_append, last_concat hpos, getLast?_concat, getLast?_concat]

theorem numbered_loadGuilds (hpos : 0 < maxRecords) (hN : Numbered maxRecords s)
    (hk : Kept maxRecords s) : Numbered maxRecords (s.loadGuilds maxRecords) where
  guids := hN.guids
  sorted := hN.sorted
  next hk' := by
    have hlog := hk'.log
    rw [loadGuilds_holder hk] at hlog ⊢
    change _ = last maxRecords s.history at hlog
    change _ = s.history.getLast?.map _
    rw [← getLast?_last hpos, ← hlog, getLast?_reverse]

theorem kept_loadGuilds_iff (hpos : 0 < maxRecords) (hN : Numbered maxRecords s) (hk : Kept maxRecords s) :
    Kept maxRecords (s.loadGuilds maxRecords) ↔
      s.holder.log.Pairwise fun e f => e.timestamp = f.timestamp → e.guid < f.guid := by
  rw [hk.log, ← insertionSort_rows_iff hN hk]
  constructor
  · intro hk'
    have hlog := hk'.log
    rw [loadGuilds_holder hk] at hlog
    exact reverse_eq_iff.1 hlog
  · intro hsort
    have hlog : (s.loadGuilds maxRecords).holder.log = last maxRecords s.history := by
      rw [loadGuilds_holder hk, hsort, reverse_reverse]
    refine kept_of hpos hN.guids ?_ hlog ?_
    · change _ = s.history.length % maxRecords
      rw [← getNextGUID_eq hN hk]
      unfold LogHolder.getNextGUID
      rw [hN.next hk, loadGuilds_holder hk, hsort, head?_reverse, getLast?_last hpos]
    · rw [loadGuilds_rows hk]
      exact hk.rows

/-! ## Whole runs -/

/-- An event keeps the newest records exactly when no reload puts equal times out of order. -/
theorem kept_step_iff (hpos : 0 < maxRecords) (hN : Numbered maxRecords s) (hk : Kept maxRecords s)
    (e : Event α) : Kept maxRecords (step maxRecords s e) ↔ Ordered s e := by
  cases e with
  | log timestamp data => exact ⟨fun _ => trivial, fun _ => kept_logEvent hpos hN hk timestamp data⟩
  | restart => exact kept_loadGuilds_iff hpos hN hk

/-- Records are numbered round the ring, whatever is logged. -/
theorem numbered_step (hpos : 0 < maxRecords) (hN : Numbered maxRecords s) (hk : Kept maxRecords s)
    {e : Event α} (he : Monotone s e) : Numbered maxRecords (step maxRecords s e) := by
  cases e with
  | log timestamp data => exact numbered_logEvent hN hk he data
  | restart => exact numbered_loadGuilds hpos hN hk

theorem numbered_new : Numbered maxRecords ({} : Chronicle α) := ⟨rfl, .nil, fun _ => rfl⟩

theorem kept_new : Kept maxRecords ({} : Chronicle α) := by
  have hlast : last maxRecords ({} : Chronicle α).history = [] := last_nil
  refine ⟨hlast.symm, ?_, nodup_nil, fun e he => absurd he not_mem_nil, ?_⟩
  · rw [hlast]
  · rw [hlast, take_nil, ite_self]
    rfl

/-- **A guild log over restarts.** From an empty log, with time that does not run backwards, the log and
its rows are the last `maxRecords` events in every state of the run if and only if no restart finds two
entries of one second of which the later has the smaller number. -/
theorem survivesRestarts_iff (maxRecords : Nat) (hpos : 0 < maxRecords) (es : List (Event α))
    (hes : AllSteps (step maxRecords) Monotone ({} : Chronicle α) es) :
    (∀ pre, pre <+: es → Kept maxRecords (run (step maxRecords) {} pre)) ↔
      AllSteps (step maxRecords) Ordered ({} : Chronicle α) es := by
  rw [AllSteps.always_iff (J := Numbered maxRecords) (A := Monotone) (P := Ordered)
    (fun s e hk hN he => numbered_step hpos hN hk he) (fun s e hk hN _ => kept_step_iff hpos hN hk e)
    numbered_new hes]
  exact and_iff_right kept_new

def wrapInOneSecond : List (Event Char) := [.log 0 'a', .log 1 'b', .log 1 'c', .restart]

/-- After the restart the log is `c`, `b`, and the next event takes the place of `c`. -/
theorem restart_reorders :
    AllSteps (step 2) Monotone {} wrapInOneSecond ∧
      ¬ Kept 2 (run (step 2) {} wrapInOneSecond) := by
  refine ⟨by decide, fun h => ?_⟩
  have hlog := h.log
  revert hlog
  decide

def wrapInTwoSeconds : List (Event Char) := [.log 0 'a', .log 1 'b', .log 2 'c', .restart, .log 2 'd']

theorem restart_restores :
    AllSteps (step 2) Monotone {} wrapInTwoSeconds ∧
      ∀ pre, pre <+: wrapInTwoSeconds → Kept 2 (run (step 2) {} pre) :=
  ⟨by decide, (survivesRestarts_iff 2 (by decide) wrapInTwoSeconds (by decide)).2 (by decide)⟩

end Chronicle

end Axium.Guilds
