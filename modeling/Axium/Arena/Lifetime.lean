import Axium.Arena.ArenaTeam

/-!
# Lifetime statistics

`SaveToDB` adds the season's games and wins of every member to his lifetime columns, at every save.
A match is therefore counted once exactly when the season counters were zero at the previous save
(`lifetime_countsOnce_iff`): the first save after a match counts it, each later save counts it
again.
-/

namespace Axium.ArenaTeam

open Run List Function Option Event

variable {guid : Guid} (e : Event)

/-- A team as the source keeps it: no member twice (`AddMember` refuses a player who has a team of
the type), and every member has his `characters` row (without it he is not loaded, and is removed
when it is deleted) and his `character_pvp_stats` row (inserted when he first logs in). -/
structure WF (s : State) : Prop where
  nodup : (s.members.map (·.guid)).Nodup
  pvpStats : ∀ guid ∈ s.members.map (·.guid), (s.pvpStats guid).isSome
  arenaPoints : ∀ guid ∈ s.members.map (·.guid), (s.arenaPoints guid).isSome

def State.seasonGames (s : State) (guid : Guid) : UInt16 := ((s.getMember guid).map (·.seasonGames)).getD 0

def State.seasonWins (s : State) (guid : Guid) : UInt16 := ((s.getMember guid).map (·.seasonWins)).getD 0

/-! ## The members of a team -/

section Members

variable {guid : Guid} {f : ArenaTeamMember → ArenaTeamMember}

theorem map_guid_updateMember (hf : ∀ m, (f m).guid = m.guid) (ms : List ArenaTeamMember) :
    (updateMember guid f ms).map (·.guid) = ms.map (·.guid) := by
  induction ms with
  | nil => rfl
  | cons m ms ih =>
    rw [updateMember]
    split
    · simp [hf]
    · simp [ih]

theorem find?_updateMember (hf : ∀ m, (f m).guid = m.guid) (ms : List ArenaTeamMember) (k : Guid) :
    (updateMember guid f ms).find? (·.guid = k) =
      if k = guid then (ms.find? (·.guid = k)).map f else ms.find? (·.guid = k) := by
  induction ms with
  | nil => simp [updateMember]
  | cons m ms ih =>
    rw [updateMember]
    by_cases hm : m.guid = guid
    · by_cases hk : k = guid
      · simp [hm, hk, hf]
      · have hne : m.guid ≠ k := fun h => hk (h ▸ hm)
        simp [hm, hk, hf, hm ▸ hne]
    · by_cases hk : m.guid = k
      · have hne : k ≠ guid := fun h => hm (hk.trans h)
        simp [hk, hne]
      · simp [hm, hk, ih]

theorem find?_map_members (hf : ∀ m, (f m).guid = m.guid) (ms : List ArenaTeamMember) (k : Guid) :
    (ms.map f).find? (·.guid = k) = (ms.find? (·.guid = k)).map f := by
  rw [find?_map]
  congr 2
  funext m
  simp [hf]

theorem updateMember_of_notMem {ms : List ArenaTeamMember} (h : guid ∉ ms.map (·.guid)) :
    updateMember guid f ms = ms := by
  induction ms with
  | nil => rfl
  | cons m ms ih =>
    simp only [map_cons, mem_cons, not_or] at h
    rw [updateMember, if_neg (Ne.symm h.1), ih h.2]

theorem getMember_isSome {s : State} : (s.getMember guid).isSome ↔ guid ∈ s.members.map (·.guid) := by
  simp [State.getMember, find?_isSome]

end Members

/-! ## One event -/

variable {s : State}

theorem step_members (hs : WF s) (e : Event) : (step s e).members =
    match e with
    | .memberWon guid c | .offlineMemberWon guid c => updateMember guid (·.won c) s.members
    | .memberLost guid c | .offlineMemberLost guid c => updateMember guid (·.lost c) s.members
    | .finishWeek => s.members.map fun m => { m with weekGames := 0, weekWins := 0 }
    | .saveToDB => s.members := by
  cases e with
  | memberWon guid c =>
    simp only [step, memberWon, getMember_isSome]
    split
    · rfl
    · rename_i h
      exact (updateMember_of_notMem h).symm
  | offlineMemberWon guid c =>
    simp only [step, offlineMemberWon, getMember_isSome]
    split
    · rename_i h
      obtain ⟨p, hp⟩ := isSome_iff_exists.1 (hs.arenaPoints guid h)
      simp only [hp]
      split <;> rfl
    · rename_i h
      exact (updateMember_of_notMem h).symm
  | memberLost guid c => rfl
  | offlineMemberLost guid c => rfl
  | finishWeek => rfl
  | saveToDB => rfl

@[simp] theorem step_type (s : State) (e : Event) : (step s e).type = s.type := by
  cases e <;> simp only [step, memberWon, memberLost, offlineMemberWon, offlineMemberLost,
    finishWeek, saveToDB, awardOnline]
  all_goals repeat' split
  all_goals rfl

theorem step_pvpStats (s : State) {e : Event} (he : e ≠ .saveToDB) : (step s e).pvpStats = s.pvpStats := by
  cases e with
  | saveToDB => exact absurd rfl he
  | _ =>
    simp only [step, memberWon, memberLost, offlineMemberWon, offlineMemberLost, finishWeek, awardOnline]
    repeat' split
    all_goals rfl

theorem step_guids (hs : WF s) (e : Event) : (step s e).members.map (·.guid) = s.members.map (·.guid) := by
  rw [step_members hs]
  cases e with
  | memberWon g c => exact map_guid_updateMember (f := (·.won c)) (fun _ => rfl) _
  | memberLost g c => exact map_guid_updateMember (f := (·.lost c)) (fun _ => rfl) _
  | offlineMemberWon g c => exact map_guid_updateMember (f := (·.won c)) (fun _ => rfl) _
  | offlineMemberLost g c => exact map_guid_updateMember (f := (·.lost c)) (fun _ => rfl) _
  | finishWeek => simp
  | saveToDB => rfl

def Event.effect (e : Event) (m : ArenaTeamMember) : ArenaTeamMember :=
  match e with
  | .memberWon g c | .offlineMemberWon g c => if m.guid = g then m.won c else m
  | .memberLost g c | .offlineMemberLost g c => if m.guid = g then m.lost c else m
  | .finishWeek => { m with weekGames := 0, weekWins := 0 }
  | .saveToDB => m

variable {m : ArenaTeamMember}

theorem getMember_guid (h : s.getMember guid = some m) : m.guid = guid := by
  simpa using find?_some h

theorem find?_updateMember_some {f : ArenaTeamMember → ArenaTeamMember}
    {guid g : Guid} (hf : ∀ m, (f m).guid = m.guid) (hm : s.getMember guid = some m) :
    (updateMember g f s.members).find? (·.guid = guid) = some (if m.guid = g then f m else m) := by
  have hfind : s.members.find? (·.guid = guid) = some m := hm
  rw [find?_updateMember hf, hfind, getMember_guid hm]
  split <;> rfl

theorem getMember_step (hs : WF s) (e : Event)
    (hm : s.getMember guid = some m) : (step s e).getMember guid = some (e.effect m) := by
  rw [State.getMember, step_members hs]
  cases e with
  | memberWon g c => exact find?_updateMember_some (f := (·.won c)) (fun _ => rfl) hm
  | memberLost g c => exact find?_updateMember_some (f := (·.lost c)) (fun _ => rfl) hm
  | offlineMemberWon g c => exact find?_updateMember_some (f := (·.won c)) (fun _ => rfl) hm
  | offlineMemberLost g c => exact find?_updateMember_some (f := (·.lost c)) (fun _ => rfl) hm
  | finishWeek =>
    have hfind : s.members.find? (·.guid = guid) = some m := hm
    have h := find?_map_members (f := Event.finishWeek.effect) (fun _ => rfl) s.members guid
    rw [hfind] at h
    exact h
  | saveToDB => exact hm

theorem effect_season (m : ArenaTeamMember) :
    (e.effect m).seasonGames = m.seasonGames + (if e.isGameOf m.guid then 1 else 0) ∧
    (e.effect m).seasonWins = m.seasonWins + (if e.isWinOf m.guid then 1 else 0) := by
  cases e with
  | finishWeek => simp [Event.effect, isGameOf, isWinOf]
  | saveToDB => simp [Event.effect, isGameOf, isWinOf]
  | _ g c =>
    -- the four ways to record a match
    by_cases h : m.guid = g
    · simp [h, Event.effect, isGameOf, isWinOf, ArenaTeamMember.won, ArenaTeamMember.lost]
    · simp [h, Ne.symm h, Event.effect, isGameOf, isWinOf]

/-- A match is counted in the season of its player, and nothing else is. -/
theorem step_season (hs : WF s) (e : Event) (hg : guid ∈ s.members.map (·.guid)) :
    (step s e).seasonGames guid = s.seasonGames guid + (if e.isGameOf guid then 1 else 0) ∧
    (step s e).seasonWins guid = s.seasonWins guid + (if e.isWinOf guid then 1 else 0) := by
  obtain ⟨m, hm⟩ := isSome_iff_exists.1 (getMember_isSome.2 hg)
  have heffect := effect_season e m
  rw [getMember_guid hm] at heffect
  simpa [State.seasonGames, State.seasonWins, hm, getMember_step hs e hm] using heffect

/-! ## A save -/

theorem saveMember_ne {t : ArenaTeamType} {stats : Guid → Option PvPStats} (h : guid ≠ m.guid) : saveMember t stats m guid = stats guid :=
  update_of_ne h ..

theorem foldl_saveMember (t : ArenaTeamType) (ms : List ArenaTeamMember)
    (hms : (ms.map (·.guid)).Nodup) (stats : Guid → Option PvPStats) (guid : Guid) :
    ms.foldl (saveMember t) stats guid =
      match ms.find? (·.guid = guid) with
      | some m => (stats guid).map fun p => p.set t (saveBracket m (p.get t))
      | none => stats guid := by
  induction ms generalizing stats with
  | nil => rfl
  | cons m ms ih =>
    rw [map_cons, nodup_cons] at hms
    rw [foldl_cons, ih hms.2]
    by_cases h : m.guid = guid
    · have hnone : ms.find? (·.guid = guid) = none := by
        rw [find?_eq_none]
        intro m' hm' heq
        have heq : m'.guid = guid := by simpa using heq
        exact hms.1 (mem_map.2 ⟨m', hm', heq.trans h.symm⟩)
      simp only [hnone, find?_cons, h, decide_true]
      rw [saveMember, h, update_self]
    · simp only [find?_cons, h, decide_false]
      rw [saveMember_ne (Ne.symm h)]

theorem lifetime_saveToDB (hs : WF s) (hg : guid ∈ s.members.map (·.guid)) :
    ((saveToDB s).lifetime guid).games = (s.lifetime guid).games + s.seasonGames guid ∧
    ((saveToDB s).lifetime guid).wins = (s.lifetime guid).wins + s.seasonWins guid := by
  obtain ⟨m, hm⟩ := isSome_iff_exists.1 (getMember_isSome.2 hg)
  obtain ⟨p, hp⟩ := isSome_iff_exists.1 (hs.pvpStats guid hg)
  have hfind : s.members.find? (·.guid = guid) = some m := hm
  have hsave : (saveToDB s).pvpStats guid = some (p.set s.type (saveBracket m (p.get s.type))) := by
    change s.members.foldl (saveMember s.type) s.pvpStats guid = _
    rw [foldl_saveMember _ _ hs.nodup, hfind, hp]
    rfl
  have hbracket : ∀ b : BracketStats, (saveBracket m b).games = b.games + m.seasonGames ∧
      (saveBracket m b).wins = b.wins + m.seasonWins := by
    intro b
    simp only [saveBracket]
    constructor <;> (repeat' split) <;> rfl
  have htype : (saveToDB s).type = s.type := rfl
  simp only [State.lifetime, hsave, hp, htype, map_some, getD_some,
    PvPStats.get_set, State.seasonGames, State.seasonWins, hm]
  exact hbracket _

theorem WF.step (hs : WF s) (e : Event) : WF (step s e) where
  nodup := by
    rw [step_guids hs]
    exact hs.nodup
  pvpStats guid hg := by
    rw [step_guids hs] at hg
    have hold := hs.pvpStats guid hg
    by_cases he : e = .saveToDB
    · subst he
      change ((s.members.foldl (saveMember s.type) s.pvpStats) guid).isSome
      rw [foldl_saveMember _ _ hs.nodup]
      split
      · simpa using hold
      · exact hold
    · rwa [step_pvpStats s he]
  arenaPoints guid hg := by
    rw [step_guids hs] at hg
    have hold := hs.arenaPoints guid hg
    have hupd : ∀ (g : Guid) (o : Option ArenaPoints), ((s.arenaPoints g).isSome → o.isSome) →
        (update s.arenaPoints g o guid).isSome := by
      intro g o ho
      by_cases h : guid = g
      · subst h
        rw [update_self]
        exact ho hold
      · rwa [update_of_ne h]
    cases e with
    | memberWon g c =>
      simp only [ArenaTeam.step, memberWon, awardOnline]
      split
      · exact hupd g _ fun _ => rfl
      · exact hold
    | offlineMemberWon g c =>
      simp only [ArenaTeam.step, offlineMemberWon]
      repeat' split
      · exact hupd g _ fun h => by simpa using h
      · exact hupd g _ fun _ => rfl
      · exact hupd g _ fun h => by simpa using h
      · exact hold
    | _ => exact hold

/-! ## Runs -/

/-- Up to the next save the lifetime counters stay, and the season counts the matches. -/
theorem run_between_saves (hs : WF s) {es : List Event} (hes : .saveToDB ∉ es) (hg : guid ∈ s.members.map (·.guid)) :
    WF (run step s es) ∧ guid ∈ (run step s es).members.map (·.guid) ∧
    (run step s es).lifetime guid = s.lifetime guid ∧
    (run step s es).seasonGames guid = s.seasonGames guid + .ofNat (games guid es) ∧
    (run step s es).seasonWins guid = s.seasonWins guid + .ofNat (wins guid es) := by
  induction es generalizing s with
  | nil => exact ⟨hs, hg, rfl, by simp [games], by simp [wins]⟩
  | cons e es ih =>
    simp only [mem_cons, not_or] at hes
    obtain ⟨hwf, hmem, hlife, hgames, hwins⟩ := ih (hs.step e) hes.2 (by rw [step_guids hs]; exact hg)
    obtain ⟨hg1, hw1⟩ := step_season hs e hg
    refine ⟨hwf, hmem, ?_, ?_, ?_⟩
    · rw [run_cons, hlife, State.lifetime, step_pvpStats s (Ne.symm hes.1), step_type]
      rfl
    · rw [run_cons, hgames, hg1]
      simp only [games, countP_cons, UInt16.ofNat_add, UInt16.add_assoc]
      congr 1
      split <;> simp [UInt16.add_comm]
    · rw [run_cons, hwins, hw1]
      simp only [wins, countP_cons, UInt16.ofNat_add, UInt16.add_assoc]
      congr 1
      split <;> simp [UInt16.add_comm]

theorem WF.run (hs : WF s) (es : List Event) :
    WF (run ArenaTeam.step s es) ∧
      (Run.run ArenaTeam.step s es).members.map (·.guid) = s.members.map (·.guid) := by
  induction es generalizing s with
  | nil => exact ⟨hs, rfl⟩
  | cons e es ih =>
    obtain ⟨hwf, hguids⟩ := ih (hs.step e)
    exact ⟨hwf, hguids.trans (step_guids hs e)⟩

/-- The run `es` saves after `pre ++ mid`, and `pre` ends with the previous save (or is empty). -/
structure IsSave (es pre mid : List Event) : Prop where
  isPrefix : pre ++ mid ++ [.saveToDB] <+: es
  previous : pre = [] ∨ pre.getLast? = some .saveToDB
  between : .saveToDB ∉ mid

/-- Every save adds to each member's lifetime games and wins the games and wins he played since the
previous save. -/
def CountsOnce (s : State) (es : List Event) : Prop :=
  ∀ pre mid, IsSave es pre mid → ∀ guid ∈ s.members.map (·.guid),
    ((run step s (pre ++ mid ++ [.saveToDB])).lifetime guid).games.toNat =
      ((run step s pre).lifetime guid).games.toNat + games guid mid ∧
    ((run step s (pre ++ mid ++ [.saveToDB])).lifetime guid).wins.toNat =
      ((run step s pre).lifetime guid).wins.toNat + wins guid mid

/-- At every save, each member's season counters were zero at the previous save, and his lifetime
counters have room for the matches since. -/
def SeasonFresh (s : State) (es : List Event) : Prop :=
  ∀ pre mid, IsSave es pre mid → ∀ guid ∈ s.members.map (·.guid),
    ((run step s pre).seasonGames guid = 0 ∧
      ((run step s pre).lifetime guid).games.toNat + games guid mid < 2 ^ 16) ∧
    ((run step s pre).seasonWins guid = 0 ∧
      ((run step s pre).lifetime guid).wins.toNat + wins guid mid < 2 ^ 16)

theorem add_season_iff (lifetime season : UInt16) (n : Nat) :
    (lifetime + (season + .ofNat n)).toNat = lifetime.toNat + n ↔ season = 0 ∧ lifetime.toNat + n < 2 ^ 16 := by
  have hl : lifetime.toNat < 2 ^ 16 := lifetime.toNat_lt
  have hs : season.toNat < 2 ^ 16 := season.toNat_lt
  rw [← UInt16.toNat_inj]
  simp only [UInt16.toNat_add, UInt16.toNat_ofNat', UInt16.toNat_zero]
  omega

/-- **Lifetime statistics count each match once exactly in the runs where the season counters are
zero at the previous save.** -/
theorem lifetime_countsOnce_iff {s : State} (hs : WF s) (es : List Event) :
    CountsOnce s es ↔ SeasonFresh s es := by
  have hsave : ∀ pre mid, IsSave es pre mid → ∀ guid ∈ s.members.map (·.guid),
      ((run step s (pre ++ mid ++ [.saveToDB])).lifetime guid).games =
        ((run step s pre).lifetime guid).games +
          ((run step s pre).seasonGames guid + .ofNat (games guid mid)) ∧
      ((run step s (pre ++ mid ++ [.saveToDB])).lifetime guid).wins =
        ((run step s pre).lifetime guid).wins +
          ((run step s pre).seasonWins guid + .ofNat (wins guid mid)) := by
    intro pre mid hsave guid hg
    obtain ⟨hwf, hguids⟩ := hs.run pre
    rw [← hguids] at hg
    obtain ⟨hwf', hg', hlife, hgames, hwins⟩ := run_between_saves hwf hsave.between hg
    rw [run_append, run_append, run_cons, ← hlife, ← hgames, ← hwins]
    exact lifetime_saveToDB hwf' hg'
  refine forall₂_congr fun pre mid => forall₃_congr fun hat guid hg => ?_
  obtain ⟨hgames, hwins⟩ := hsave pre mid hat guid hg
  rw [hgames, hwins, add_season_iff, add_season_iff]

def newTeam : State where
  type := .t2v2
  config := {}
  members := [{ guid := 1 }]
  pvpStats := fun _ => some {}
  arenaPoints := fun _ => some {}

theorem newTeam_wf : WF newTeam := by
  refine ⟨by decide, fun _ _ => rfl, fun _ _ => rfl⟩

/-- A save before the match and one after it. -/
theorem newTeam_countsOnce : CountsOnce newTeam [.saveToDB, .memberWon 1 {}, .saveToDB] := by
  refine (lifetime_countsOnce_iff newTeam_wf _).2 fun pre mid hsave guid hg => ?_
  obtain rfl : guid = 1 := List.mem_singleton.1 hg
  obtain ⟨⟨post, hpost⟩, hprevious, hbetween⟩ := hsave
  match pre, mid with
  | [], [] => decide
  | [], x :: mid => simp_all
  | [x], [] => simp_all
  | [x], [y] =>
    obtain ⟨rfl, rfl, -⟩ : x = .saveToDB ∧ y = .memberWon 1 {} ∧ _ := by simpa using hpost
    decide
  | [x], y :: z :: mid => simp_all
  | [x, y], mid => simp_all
  | x :: y :: z :: pre, mid => simp_all

/-- The match is saved when it ends and its game counted; the save of `ResetWeeklyCap` counts it
again. -/
theorem resetWeeklyCap_counts_again :
    ¬ CountsOnce newTeam [.memberWon 1 {}, .saveToDB, .finishWeek, .saveToDB] := by
  intro h
  have hsave : IsSave [.memberWon 1 {}, .saveToDB, .finishWeek, .saveToDB]
      [.memberWon 1 {}, .saveToDB] [.finishWeek] :=
    ⟨⟨[], rfl⟩, .inr rfl, by decide⟩
  have hgames := (h _ _ hsave 1 (by decide)).1
  exact absurd hgames (by decide)

end Axium.ArenaTeam
