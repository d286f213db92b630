import Axium.Looting.Rolls

/-!
# The votes of a roll are counted

What each step does to one roll first, then to the list of rolls, then whole runs.
-/

namespace Axium.Looting

open Run List OrdMap

/-! ## One roll -/

namespace Roll

/-- The totals are right, and small enough for their eight bits. -/
structure Ok (roll : Roll) : Prop where
  counted : roll.Counted
  total : roll.totalPlayersRolling = roll.playerVote.size
  size_le : roll.playerVote.size ≤ maxRaidSize
  valid : ∀ p v, roll.playerVote.find? p = some v → v ≠ .notValid

variable {roll : Roll}

theorem add8_one {n : Nat} (h : n ≤ maxRaidSize) : add8 n 1 = n + 1 := by
  unfold maxRaidSize at h
  unfold add8
  omega

theorem dec8_succ {n : Nat} (h : n ≤ maxRaidSize) : dec8 (n + 1) = n := by
  unfold maxRaidSize at h
  unfold dec8
  omega

theorem Ok.sum (h : roll.Ok) :
    roll.totalPass + roll.totalNeed + roll.totalGreed +
      roll.playerVote.count (fun _ v => v = .notEmitedYet) = roll.totalPlayersRolling := by
  rw [h.total, h.counted.need, h.counted.greed, h.counted.pass]
  have hvalid : ∀ e ∈ roll.playerVote.entries, e.2 ≠ .notValid :=
    fun e he => h.valid e.1 e.2 (find?_eq_some.2 he)
  unfold OrdMap.count OrdMap.size
  generalize roll.playerVote.entries = l at hvalid
  induction l with
  | nil => rfl
  | cons e l ih =>
    have hrest := ih fun e' he' => hvalid e' (mem_cons_of_mem e he')
    have hhead := hvalid e mem_cons_self
    simp only [countP_cons, length_cons]
    rcases e with ⟨p, v⟩
    cases v with
    | notValid => exact absurd rfl hhead
    | _ =>
      simp only [RollVote.greedy, reduceCtorEq, decide_false, decide_true, Bool.or_false,
        Bool.or_true, Bool.false_eq_true, if_true, if_false] at hrest ⊢
      omega

theorem Ok.waits (h : roll.Ok)
    (hlt : roll.totalPass + roll.totalNeed + roll.totalGreed < roll.totalPlayersRolling) : roll.Waits := by
  have hsum := h.sum
  have hpos : 0 < roll.playerVote.count (fun _ v => v = .notEmitedYet) := by omega
  rw [← length_matching] at hpos
  obtain ⟨p, hp⟩ := exists_mem_of_length_pos hpos
  obtain ⟨v, hv, hnot⟩ := mem_matching.1 hp
  exact ⟨p, (of_decide_eq_true hnot) ▸ hv⟩

section Vote

variable {player : Guid}

theorem count_insert_first (h : roll.playerVote.find? player = some .notEmitedYet) (v : RollVote)
    {p : RollVote → Bool} (hp : p .notEmitedYet = false) :
    (roll.playerVote.insert player v).count (fun _ v => p v) =
      roll.playerVote.count (fun _ v => p v) + if p v then 1 else 0 := by
  have hcount := count_insert_old v (fun _ v => p v) h
  simpa [hp] using hcount

theorem size_insert_first (h : roll.playerVote.find? player = some .notEmitedYet) (v : RollVote) :
    (roll.playerVote.insert player v).size = roll.playerVote.size := by
  have h₁ := size_erase h
  have h₂ := size_erase (find?_insert_self roll.playerVote player v)
  rw [erase_insert] at h₂
  omega

theorem valid_insert (h : roll.Ok) {v : RollVote} (hv : v ≠ .notValid) :
    ∀ p v', (roll.playerVote.insert player v).find? p = some v' → v' ≠ .notValid := by
  intro p v' hp
  rw [find?_insert] at hp
  by_cases hpp : player = p
  · rw [if_pos hpp] at hp
    exact Option.some.inj hp ▸ hv
  · rw [if_neg hpp] at hp
    exact h.valid p v' hp

theorem count_le (h : roll.Ok) (p : RollVote → Bool) : roll.playerVote.count (fun _ v => p v) ≤ maxRaidSize :=
  le_trans (count_le_size _ _) h.size_le

theorem Ok.cast (h : roll.Ok) (hf : roll.playerVote.find? player = some .notEmitedYet)
    {v : RollVote} (hv : v ≠ .notValid) :
    Ok { roll with
      totalPass := if v = .pass then add8 roll.totalPass 1 else roll.totalPass
      totalNeed := if v = .need then add8 roll.totalNeed 1 else roll.totalNeed
      totalGreed := if v.greedy then add8 roll.totalGreed 1 else roll.totalGreed
      playerVote := roll.playerVote.insert player v } := by
  have htotal : ∀ (p : RollVote → Bool) (n : Nat), p .notEmitedYet = false →
      n = roll.playerVote.count (fun _ v => p v) →
      (if p v then add8 n 1 else n) = (roll.playerVote.insert player v).count (fun _ v => p v) := by
    intro p n hp hn
    have hle := count_le h p
    rw [count_insert_first hf v hp, ← hn]
    rw [← hn] at hle
    cases hpv : p v with
    | true => simp only [if_true, add8_one hle]
    | false => rfl
  refine ⟨⟨?_, ?_, ?_⟩, ?_, ?_, valid_insert h hv⟩
  · simpa using htotal (· = .need) roll.totalNeed rfl h.counted.need
  · exact htotal RollVote.greedy roll.totalGreed rfl h.counted.greed
  · simpa using htotal (· = .pass) roll.totalPass rfl h.counted.pass
  · exact h.total.trans (size_insert_first hf v).symm
  · exact (size_insert_first hf v).trans_le h.size_le

theorem Ok.vote (h : roll.Ok) {choice : Nat}
    (hfirst : choice < 4 → roll.playerVote.find? player = some .notEmitedYet) :
    (roll.vote player choice).Ok := by
  match choice with
  | 0 => exact h.cast (hfirst (by decide)) (v := .pass) (by decide)
  | 1 => exact h.cast (hfirst (by decide)) (v := .need) (by decide)
  | 2 => exact h.cast (hfirst (by decide)) (v := .greed) (by decide)
  | 3 => exact h.cast (hfirst (by decide)) (v := .disenchant) (by decide)
  | n + 4 => exact h

theorem find?_vote_ne (roll : Roll) (choice : Nat) {p : Guid} (hp : player ≠ p) :
    (roll.vote player choice).playerVote.find? p = roll.playerVote.find? p := by
  match choice with
  | 0 | 1 | 2 | 3 => exact find?_insert_ne _ _ hp
  | n + 4 => rfl

theorem itemGUID_vote (roll : Roll) (choice : Nat) : (roll.vote player choice).itemGUID = roll.itemGUID := by
  match choice with
  | 0 | 1 | 2 | 3 | n + 4 => rfl

theorem lootId_vote (roll : Roll) (choice : Nat) : (roll.vote player choice).lootId = roll.lootId := by
  match choice with
  | 0 | 1 | 2 | 3 | n + 4 => rfl

theorem itemSlot_vote (roll : Roll) (choice : Nat) : (roll.vote player choice).itemSlot = roll.itemSlot := by
  match choice with
  | 0 | 1 | 2 | 3 | n + 4 => rfl

end Vote

theorem Ok.removeVote (h : roll.Ok) {player : Guid} {v : RollVote}
    (hv : roll.playerVote.find? player = some v) : (roll.removeVote player v).Ok := by
  have hvalid : v ≠ .notValid := h.valid player v hv
  have hsize := size_erase hv
  have htotal : ∀ (p : RollVote → Bool) (n : Nat), n = roll.playerVote.count (fun _ v => p v) →
      (if p v then dec8 n else n) = (roll.playerVote.erase player).count (fun _ v => p v) := by
    intro p n hn
    have hcount := count_erase (fun _ v => p v) hv
    have hle := le_trans (count_le_size (fun _ v => p v) (roll.playerVote.erase player))
      (le_trans (by omega) h.size_le)
    rw [hn, hcount]
    cases hpv : p v with
    | true => exact dec8_succ hle
    | false => rfl
  refine ⟨⟨?_, ?_, ?_⟩, ?_, ?_, ?_⟩
  · simpa [Roll.removeVote] using htotal (· = .need) roll.totalNeed h.counted.need
  · exact htotal RollVote.greedy roll.totalGreed h.counted.greed
  · simpa [Roll.removeVote] using htotal (· = .pass) roll.totalPass h.counted.pass
  · change (if v ≠ .notValid then dec8 roll.totalPlayersRolling else _) = _
    rw [if_pos hvalid, h.total, hsize]
    have hle := h.size_le
    exact dec8_succ (by omega)
  · have hle := h.size_le
    change (roll.playerVote.erase player).size ≤ _
    omega
  · intro p v' hp
    change (roll.playerVote.erase player).find? p = some v' at hp
    rw [find?_erase] at hp
    by_cases hpp : player = p
    · rw [if_pos hpp] at hp
      cases hp
    · rw [if_neg hpp] at hp
      exact h.valid p v' hp

end Roll

/-! ## The start of a roll -/

namespace Group

variable (pass : Guid → Bool)

theorem find?_startVotes (players : List Guid) (p : Guid) :
    (startVotes pass players).find? p =
      if p ∈ players then some (if pass p then .pass else .notEmitedYet) else none := by
  have hfold : ∀ (players : List Guid) (votes : OrdMap Guid RollVote),
      (players.foldl (fun votes p => votes.insert p (if pass p then .pass else .notEmitedYet))
        votes).find? p =
        if p ∈ players then some (if pass p then .pass else .notEmitedYet) else votes.find? p := by
    intro players
    induction players with
    | nil => intro votes; simp
    | cons q players ih =>
      intro votes
      rw [foldl_cons, ih]
      by_cases hp : p ∈ players
      · rw [if_pos hp, if_pos (mem_cons_of_mem q hp)]
      · rw [if_neg hp, find?_insert]
        by_cases hq : q = p
        · subst hq
          rw [if_pos rfl, if_pos mem_cons_self]
        · rw [if_neg hq, if_neg]
          intro hmem
          rcases mem_cons.1 hmem with h | h
          · exact hq h.symm
          · exact hp h
  exact hfold players OrdMap.empty

theorem count_startVotes {players : List Guid} (hnodup : players.Nodup) (c : RollVote → Bool) :
    (startVotes pass players).count (fun _ v => c v) =
      players.countP fun p => c (if pass p then .pass else .notEmitedYet) := by
  rw [countP_eq_length_filter]
  refine count_eq_length (hnodup.filter _) fun p => ?_
  rw [find?_startVotes]
  by_cases hp : p ∈ players
  · simp [hp]
  · simp [hp]

theorem startVotes_ok {players : List Guid} (hnodup : players.Nodup)
    (hlen : players.length ≤ maxRaidSize) (lootId itemSlot itemGUID itemid : Nat) :
    Roll.Ok {
      lootId, itemSlot, itemGUID, itemid
      playerVote := startVotes pass players
      totalPlayersRolling := add8 0 players.length
      totalPass := add8 0 (players.countP pass) } := by
  have hsmall : ∀ n, n ≤ maxRaidSize → add8 0 n = n := by
    intro n hn
    unfold maxRaidSize at hn
    unfold add8
    omega
  have hsize : (startVotes pass players).size = players.length := by
    have hcount := count_startVotes pass hnodup (fun _ => true)
    unfold OrdMap.count at hcount
    rw [countP_true, countP_true] at hcount
    exact hcount
  refine ⟨⟨?_, ?_, ?_⟩, ?_, ?_, ?_⟩
  · change 0 = (startVotes pass players).count fun _ v => decide (v = .need)
    rw [count_startVotes pass hnodup (· = .need), eq_comm, countP_eq_zero]
    intro p _
    cases pass p <;> decide
  · change 0 = (startVotes pass players).count fun _ v => v.greedy
    rw [count_startVotes pass hnodup RollVote.greedy, eq_comm, countP_eq_zero]
    intro p _
    cases pass p <;> decide
  · change add8 0 (players.countP pass) = (startVotes pass players).count fun _ v => decide (v = .pass)
    rw [count_startVotes pass hnodup (· = .pass), hsmall _ (le_trans countP_le_length hlen)]
    refine countP_congr fun p _ => ?_
    cases pass p <;> decide
  · exact (hsmall _ hlen).trans hsize.symm
  · exact hsize.trans_le hlen
  · intro p v hp
    rw [find?_startVotes] at hp
    by_cases hmem : p ∈ players
    · rw [if_pos hmem] at hp
      cases Option.some.inj hp
      cases pass p <;> decide
    · rw [if_neg hmem] at hp
      cases hp

end Group

/-! ## The end of a roll -/

theorem bestRoll_spec (counts : RollVote → Bool) (dice : Guid → Fin 100) (votes : List (Guid × RollVote))
    (maxresul : Nat) (maxguid : Guid) (rollvote : RollVote) :
    (bestRoll counts dice votes maxresul maxguid rollvote ∈ votes ∧
        counts (bestRoll counts dice votes maxresul maxguid rollvote).2 = true) ∨
      bestRoll counts dice votes maxresul maxguid rollvote = (maxguid, rollvote) ∧
        (maxresul = 0 → ∀ e ∈ votes, counts e.2 = false) := by
  induction votes generalizing maxresul maxguid rollvote with
  | nil => exact .inr ⟨rfl, nofun⟩
  | cons e votes ih =>
    obtain ⟨guid, vote⟩ := e
    unfold bestRoll
    cases hc : counts vote with
    | false =>
      rcases ih maxresul maxguid rollvote with ⟨hmem, hcount⟩ | ⟨heq, hnone⟩
      · exact .inl ⟨mem_cons_of_mem _ hmem, hcount⟩
      · refine .inr ⟨heq, fun hzero e' he' => ?_⟩
        rcases mem_cons.1 he' with rfl | he'
        · exact hc
        · exact hnone hzero e' he'
    | true =>
      by_cases hlt : maxresul < (dice guid).val + 1
      · rw [if_pos hlt]
        rcases ih ((dice guid).val + 1) guid vote with ⟨hmem, hcount⟩ | ⟨heq, -⟩
        · exact .inl ⟨mem_cons_of_mem _ hmem, hcount⟩
        · rw [heq]
          exact .inl ⟨mem_cons_self, hc⟩
      · rw [if_neg hlt]
        rcases ih maxresul maxguid rollvote with ⟨hmem, hcount⟩ | ⟨heq, -⟩
        · exact .inl ⟨mem_cons_of_mem _ hmem, hcount⟩
        · exact .inr ⟨heq, fun hzero => by omega⟩

variable {votes : OrdMap Guid RollVote} {c : RollVote → Bool}

theorem exists_of_count_ne_zero
    (h : votes.count (fun _ v => c v) ≠ 0) : ∃ p v, votes.find? p = some v ∧ c v = true := by
  have hpos : 0 < (votes.matching fun _ v => c v).length := by
    rw [length_matching]
    omega
  obtain ⟨p, hp⟩ := exists_mem_of_length_pos hpos
  obtain ⟨v, hv⟩ := mem_matching.1 hp
  exact ⟨p, v, hv⟩

theorem bestRoll_voter (h : votes.count (fun _ v => c v) ≠ 0) (dice : Guid → Fin 100) (first : Guid) :
    votes.find? (bestRoll c dice votes.entries 0 first .notValid).1 =
        some (bestRoll c dice votes.entries 0 first .notValid).2 ∧
      c (bestRoll c dice votes.entries 0 first .notValid).2 = true := by
  rcases bestRoll_spec c dice votes.entries 0 first .notValid with ⟨hmem, hcount⟩ | ⟨-, hnone⟩
  · exact ⟨find?_eq_some.2 hmem, hcount⟩
  · obtain ⟨p, v, hv, hcv⟩ := exists_of_count_ne_zero h
    have hfalse := hnone rfl (p, v) (find?_eq_some.1 hv)
    rw [hcv] at hfalse
    cases hfalse

theorem first?_of_count_ne_zero
    (h : votes.count (fun _ v => c v) ≠ 0) : ∃ first, votes.first? = some first := by
  obtain ⟨p, v, hv, -⟩ := exists_of_count_ne_zero h
  exact first?_of_not_isEmpty (isEmpty_of_find? hv)

namespace Loot

variable {loot : Loot} {roll : Roll} {draw : Draw} {item : LootItem}

theorem getElem?_unblock (hitem : loot.items[roll.itemSlot]? = some item) :
    (loot.unblock roll.itemSlot).items[roll.itemSlot]? = some { item with isBlocked := false } := by
  change (loot.items.modify roll.itemSlot _)[roll.itemSlot]? = _
  rw [getElem?_modify_eq, hitem]
  rfl

theorem storeWon_settled (hitem : loot.items[roll.itemSlot]? = some item) (hcount : item.count ≠ 0)
    {winner : Guid} (hbest : BestVoter roll.playerVote winner) (canStore : Bool) :
    Result.Settled { roll
                     given := (loot.storeWon roll.itemSlot item winner canStore).2
                     item := (loot.storeWon roll.itemSlot item winner canStore).1.items[roll.itemSlot]? } := by
  rcases storeWon_cases loot roll.itemSlot item winner canStore with heq | heq
  · rw [heq]
    exact .inr ⟨rfl, _, getElem?_unblock hitem, rfl⟩
  · rw [heq]
    refine .inl ⟨winner, ?_, hbest⟩
    dsimp only [handOut]
    rw [if_neg hcount]

theorem countTheRoll_settled (hroll : roll.Counted) (hitem : loot.items[roll.itemSlot]? = some item)
    (hcount : item.count ≠ 0) (honline : Group.WinnerOnline roll draw) :
    Result.Settled { roll
                     given := (loot.countTheRoll roll draw).2
                     item := (loot.countTheRoll roll draw).1.items[roll.itemSlot]? } := by
  unfold countTheRoll
  rw [hitem]
  dsimp only
  by_cases hneed : 0 < roll.totalNeed
  · rw [if_pos hneed]
    have hne : roll.playerVote.count (fun _ v => decide (v = .need)) ≠ 0 := by
      rw [← hroll.need]
      omega
    obtain ⟨first, hfirst⟩ := first?_of_count_ne_zero (c := (· = .need)) hne
    obtain ⟨hvote, hcv⟩ := bestRoll_voter (c := (· = .need)) hne draw.dice first
    have hcv := of_decide_eq_true hcv
    rw [hfirst]
    dsimp only
    rw [if_pos (honline _ _ hvote (.inl hcv))]
    exact storeWon_settled hitem hcount (.inl (hvote.trans (congrArg some hcv))) _
  · rw [if_neg hneed]
    have hnone : ∀ q, roll.playerVote.find? q ≠ some .need := by
      intro q hq
      have hzero : (roll.playerVote.matching fun _ v => decide (v = .need)).length = 0 := by
        rw [length_matching, ← hroll.need]
        omega
      have hmem : q ∈ roll.playerVote.matching fun _ v => decide (v = .need) := mem_matching.2 ⟨_, hq, rfl⟩
      rw [length_eq_zero_iff.1 hzero] at hmem
      cases hmem
    by_cases hgreed : 0 < roll.totalGreed
    · rw [if_pos hgreed]
      have hne : roll.playerVote.count (fun _ v => v.greedy) ≠ 0 := by
        rw [← hroll.greed]
        omega
      obtain ⟨first, hfirst⟩ := first?_of_count_ne_zero (c := RollVote.greedy) hne
      obtain ⟨hvote, hcv⟩ := bestRoll_voter (c := RollVote.greedy) hne draw.dice first
      have hbest : BestVoter roll.playerVote
          (bestRoll RollVote.greedy draw.dice roll.playerVote.entries 0 first .notValid).1 :=
        .inr ⟨hnone, _, hvote, hcv⟩
      rw [hfirst]
      dsimp only
      rw [if_pos (honline _ _ hvote (.inr hcv))]
      cases hv : (bestRoll RollVote.greedy draw.dice roll.playerVote.entries 0 first .notValid).2 with
      | greed => exact storeWon_settled hitem hcount hbest _
      | disenchant => exact .inl ⟨_, rfl, hbest⟩
      | _ =>
        rw [hv] at hcv
        cases hcv
    · rw [if_neg hgreed]
      exact .inr ⟨rfl, _, getElem?_unblock hitem, rfl⟩

end Loot

end Axium.Looting
