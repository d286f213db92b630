import Axium.Combat.Taunts

/-!
# The selection of a victim

What `selectNextVictim` returns, as the first reference of the list that decides, and when this is a target that
the creature can attack, of second choice only for want of another. A unit of second choice is one that is immune
to the damage or under an effect that damage breaks.
-/

namespace Axium.Combat.ThreatManager

open List Option

variable {U T : Type} {A : Arith T} (W : Surroundings U T A) (s : ThreatManager U T) (victim : Option Nat) (r : Nat)

def attackable : Bool := W.canCreatureAttack (s.refs r).unitGuid

def secondChoice : Bool := W.isSecondChoice (s.refs r).unitGuid

def firstChoice : Bool := s.attackable W r && !s.secondChoice W r

/-- The victim stays when `r` is compared with it. -/
def keeps : Bool := victim.any fun v => v = r || A.le11 (s.refs r).threat (s.refs v).threat

/-- The comparison with `r` ends the search. -/
def decides : Bool :=
  victim.all fun v => s.keeps (A := A) victim r || A.gt13 (s.refs r).threat (s.refs v).threat ||
    A.gt11 (s.refs r).threat (s.refs v).threat && W.isWithinMeleeRange (s.refs r).unitGuid

def choice : Nat := if s.keeps (A := A) victim r then victim.getD r else r

theorem prefer_eq : s.prefer W r victim =
    if s.attackable W r && s.decides W victim r then some (s.choice (A := A) victim r) else none := by
  unfold prefer attackable
  cases W.canCreatureAttack (s.refs r).unitGuid with
  | false => rfl
  | true =>
    cases victim with
    | none => rfl
    | some v =>
      simp only [decides, keeps, choice, any_some, all_some, getD_some, if_true, Bool.true_and,
        Bool.or_eq_true, Bool.and_eq_true, decide_eq_true_eq]
      split_ifs <;> simp_all

variable (list : List Nat)

theorem selectAny_eq : s.selectAny W victim list =
    (list.find? fun r => s.attackable W r && s.decides W victim r).map (s.choice (A := A) victim) := by
  induction list with
  | nil => rfl
  | cons r rest ih =>
    rw [selectAny, prefer_eq, ih, find?_cons]
    cases s.attackable W r && s.decides W victim r <;> rfl

def lastSecond (list : List Nat) : Bool := list.getLast?.any (s.secondChoice W)

/-- The first reference of `list` that is of first choice and ends the search. -/
def decisive (list : List Nat) : Option Nat := list.find? fun r => s.firstChoice W r && s.decides W victim r

theorem decisive_cons (hfirst : s.secondChoice W r = false) : s.decisive W victim (r :: list) =
    if s.attackable W r && s.decides W victim r then some r else s.decisive W victim list := by
  rw [decisive, find?_cons, firstChoice, hfirst, Bool.not_false, Bool.and_true]
  cases s.attackable W r && s.decides W victim r <;> rfl

theorem decisive_cons_second (hsecond : s.secondChoice W r = true) :
    s.decisive W victim (r :: list) = s.decisive W victim list := by
  rw [decisive, find?_cons, firstChoice, hsecond, Bool.not_true, Bool.and_false]
  rfl

theorem selectPreferred_cons (rest : List Nat) : s.selectPreferred W victim (r :: rest) =
    if s.secondChoice W r then if rest = [] then s.selectAny W victim s.online
      else s.selectPreferred W (if victim = some r then none else victim) rest
    else (s.prefer W r victim).or (s.selectPreferred W victim rest) := by
  rfl

/-- The victim is compared with the first choices of the list, and with all of it if the last one is of second
choice. -/
theorem selectPreferred_first {victim : Option Nat} (hvictim : victim.any (s.secondChoice W) = false)
    (list : List Nat) : s.selectPreferred W victim list =
      ((s.decisive W victim list).map (s.choice (A := A) victim)).or
        (if s.lastSecond W list then s.selectAny W victim s.online else none) := by
  induction list with
  | nil => rfl
  | cons r rest ih =>
    rw [selectPreferred_cons]
    cases hsecond : s.secondChoice W r with
    | true =>
      have hkept : (if victim = some r then none else victim) = victim := if_neg fun h => by simp_all
      rw [decisive_cons_second _ _ _ _ _ hsecond, hkept, ih]
      cases rest with
      | nil => simp [decisive, lastSecond, hsecond]
      | cons q rest => rfl
    | false =>
      rw [if_neg Bool.false_ne_true, prefer_eq, ih, decisive_cons _ _ _ _ _ hsecond]
      have hlast : s.lastSecond W (r :: rest) = s.lastSecond W rest := by
        cases rest with
        | nil => simp [lastSecond, hsecond]
        | cons q rest => rfl
      rw [hlast]
      split <;> rfl

def before (v : Nat) (list : List Nat) : List Nat := list.takeWhile (· != v)
def behind (v : Nat) (list : List Nat) : List Nat := (list.dropWhile (· != v)).tail

theorem before_append {v : Nat} {list : List Nat} (h : v ∈ list) : before v list ++ v :: behind v list = list := by
  induction list with
  | nil => cases h
  | cons r rest ih =>
    by_cases hr : r = v
    · simp [before, behind, hr]
    · have hrest := ih ((mem_cons.1 h).resolve_left (Ne.symm hr))
      simpa [before, behind, hr] using hrest

/-- A victim of second choice is compared with the first choices in front of it, and forgotten unless it is the
last of the list. -/
theorem selectPreferred_second {v : Nat} (hv : s.secondChoice W v = true) (list rest : List Nat)
    (hnot : v ∉ list) : s.selectPreferred W (some v) (list ++ v :: rest) =
      ((s.decisive W (some v) list).map (s.choice (A := A) (some v))).or
        (if rest = [] then s.selectAny W (some v) s.online else s.selectPreferred W none rest) := by
  induction list with
  | nil =>
    rw [nil_append, selectPreferred_cons, if_pos hv, if_pos rfl]
    rfl
  | cons r list ih =>
    obtain ⟨hne, hnot⟩ := ne_and_not_mem_of_not_mem_cons hnot
    rw [cons_append, selectPreferred_cons, ih hnot]
    cases hsecond : s.secondChoice W r with
    | true =>
      rw [if_pos rfl, decisive_cons_second _ _ _ _ _ hsecond, if_neg (by simp), if_neg (by simpa using hne), ih hnot]
    | false =>
      rw [if_neg Bool.false_ne_true, prefer_eq, decisive_cons _ _ _ _ _ hsecond]
      split <;> rfl

def NoTarget : Prop := ∀ q ∈ s.online, s.attackable W q = false
def NoFirst : Prop := ∀ q ∈ s.online, s.firstChoice W q = false

/-- What the selection is for: a target that can be attacked, of second choice only if no other can. -/
def Proper : Option Nat → Prop
  | none => s.NoTarget W
  | some r => s.attackable W r = true ∧ (s.secondChoice W r = true → s.NoFirst W)

/-- The references that are compared with the victim at first, and those that come behind a victim of second
choice. -/
def compared : List Nat := if victim.any (s.secondChoice W) then before (victim.getD 0) s.online else s.online
def rest : List Nat := if victim.any (s.secondChoice W) then behind (victim.getD 0) s.online else []

/-- The victim is of first choice and can be attacked, or the first reference of first choice that decides
replaces it. If none decides: a forgotten victim does no harm where a first choice comes behind it, nothing can be
attacked, or the restart finds a first choice where there is one; and a victim that is kept does none where there
is no first choice, and nothing can be attacked or the restart ends at an attackable victim or at a target that
replaces it. -/
def Selects : Prop :=
  victim.any (s.firstChoice W) = true ∨
    match s.decisive W victim (s.compared W victim) with
    | some r => s.keeps (A := A) victim r = false
    | none =>
      if s.rest W victim ≠ [] then
        (∃ r ∈ s.rest W victim, s.firstChoice W r = true) ∨ s.NoTarget W ∨ s.lastSecond W (s.rest W victim) = true ∧
          ∀ r, s.online.find? (s.attackable W) = some r → s.firstChoice W r = true ∨ s.NoFirst W
      else s.NoFirst W ∧ (s.NoTarget W ∨ s.lastSecond W s.online = true ∧ (victim.any (s.attackable W) = true ∨
        ∃ r, s.online.find? (fun r => s.attackable W r && s.decides W victim r) = some r ∧
          s.keeps (A := A) victim r = false))

theorem selectPreferred_eq {victim : Option Nat} (hvictim : ∀ v ∈ victim, v ∈ s.online) :
    s.selectPreferred W victim s.online =
      ((s.decisive W victim (s.compared W victim)).map (s.choice (A := A) victim)).or
        (if s.rest W victim ≠ [] then s.selectPreferred W none (s.rest W victim)
        else if s.lastSecond W s.online then s.selectAny W victim s.online else none) := by
  cases hsecond : victim.any (s.secondChoice W) with
  | false =>
    have hcompared : s.compared W victim = s.online := by rw [compared, hsecond]; rfl
    have hrest : s.rest W victim = [] := by rw [rest, hsecond]; rfl
    rw [hcompared, hrest]
    exact s.selectPreferred_first W hsecond s.online
  | true =>
    obtain ⟨v, rfl, hv⟩ := (Option.any_eq_true ..).1 hsecond
    have hcompared : s.compared W (some v) = before v s.online := by rw [compared, hsecond]; rfl
    have hrest : s.rest W (some v) = behind v s.online := by rw [rest, hsecond]; rfl
    have hlist := before_append (hvictim v rfl)
    have hnot : v ∉ before v s.online := fun h => by simpa using all_eq_true.1 all_takeWhile v h
    have hselect := s.selectPreferred_second W hv (before v s.online) (behind v s.online) hnot
    rw [hlist] at hselect
    rw [hselect, hcompared, hrest]
    by_cases hnil : behind v s.online = []
    · have hlast : s.lastSecond W s.online = true := by
        rw [← hlist, hnil, lastSecond, getLast?_append]
        exact hv
      rw [if_pos hnil, if_neg (not_not_intro hnil), if_pos hlast]
    · rw [if_neg hnil, if_pos hnil]

section Cases

variable {W s} {victim : Option Nat} {r : Nat}

theorem proper_first (h : s.firstChoice W r = true) : s.Proper W (some r) := by
  obtain ⟨hattack, hsecond⟩ := (Bool.and_eq_true ..).mp h
  exact ⟨hattack, fun h => by simp [h] at hsecond⟩

theorem proper_iff (hattack : s.attackable W r = true) (hnot : s.firstChoice W r = false) :
    s.Proper W (some r) ↔ s.NoFirst W := by
  have hsecond : s.secondChoice W r = true := by simpa [firstChoice, hattack] using hnot
  exact ⟨fun h => h.2 hsecond, fun h => ⟨hattack, fun _ => h⟩⟩

theorem choice_of_keeps (h : s.keeps (A := A) victim r = true) :
    ∃ v, victim = some v ∧ s.choice (A := A) victim r = v := by
  cases victim with
  | none => cases h
  | some v => exact ⟨v, rfl, if_pos h⟩

theorem choice_of_not_keeps (h : s.keeps (A := A) victim r = false) : s.choice (A := A) victim r = r :=
  if_neg (by rw [h]; exact Bool.false_ne_true)

theorem mem_compared (hr : r ∈ s.compared W victim) : r ∈ s.online := by
  unfold compared at hr
  split at hr
  · exact (takeWhile_sublist _).subset hr
  · exact hr

/-- A victim that is kept is improper unless it is of first choice itself. -/
theorem not_proper_kept {v : Nat} (hv : s.firstChoice W v = false) (hr : r ∈ s.online)
    (hfirst : s.firstChoice W r = true) : ¬ s.Proper W (some v) := fun h => by
  have hno := (proper_iff h.1 hv).1 h
  rw [hno r hr] at hfirst
  cases hfirst

theorem NoTarget.noFirst (h : s.NoTarget W) : s.NoFirst W := fun q hq => by rw [firstChoice, h q hq, Bool.false_and]

theorem not_noTarget (hr : r ∈ s.online) (hattack : s.attackable W r = true) : ¬ s.NoTarget W := fun h => by
  rw [h r hr] at hattack
  cases hattack

theorem decisive_some {list : List Nat} (h : s.decisive W victim list = some r) :
    r ∈ list ∧ s.firstChoice W r = true :=
  ⟨mem_of_find?_eq_some h, ((Bool.and_eq_true ..).mp (find?_some (p := fun _ => _ && _) h)).1⟩

theorem proper_rest_iff (list : List Nat) : s.Proper W (s.selectPreferred W none list) ↔
    (∃ r ∈ list, s.firstChoice W r = true) ∨ s.NoTarget W ∨ s.lastSecond W list = true ∧
      ∀ r, s.online.find? (s.attackable W) = some r → s.firstChoice W r = true ∨ s.NoFirst W := by
  rw [selectPreferred_first W s (rfl : none.any (s.secondChoice W) = false)]
  cases hdecisive : s.decisive W none list with
  | some r =>
    obtain ⟨hr, hfirst⟩ := decisive_some hdecisive
    exact iff_of_true (proper_first hfirst) (.inl ⟨r, hr, hfirst⟩)
  | none =>
    have hno : ¬ ∃ r ∈ list, s.firstChoice W r = true := fun ⟨q, hq, hfirst⟩ => by
      simpa [decides, hfirst] using find?_eq_none.1 hdecisive q hq
    rw [or_iff_right hno, map_none]
    cases s.lastSecond W list with
    | false => exact ⟨.inl, fun h => h.resolve_right fun h => Bool.false_ne_true h.1⟩
    | true =>
      have hall : (fun r => s.attackable W r && s.decides W none r) = s.attackable W :=
        funext fun r => Bool.and_true _
      rw [selectAny_eq, hall]
      cases hf : s.online.find? (s.attackable W) with
      | none =>
        have hnone : s.NoTarget W := fun q hq => by simpa using find?_eq_none.1 hf q hq
        exact iff_of_true hnone (.inl hnone)
      | some r =>
        have hattack := find?_some hf
        rw [or_iff_right (not_noTarget (mem_of_find?_eq_some hf) hattack)]
        cases hfirst : s.firstChoice W r with
        | true => exact iff_of_true (proper_first hfirst) ⟨rfl, fun q hq => .inl (Option.some.inj hq ▸ hfirst)⟩
        | false =>
          refine (proper_iff hattack hfirst).trans ⟨fun h => ⟨rfl, fun _ _ => .inr h⟩, fun h => ?_⟩
          exact (h.2 r rfl).resolve_left (by rw [hfirst]; exact Bool.false_ne_true)

theorem keeps_self (v : Nat) : s.keeps (A := A) (some v) v = true := by simp [keeps]

theorem proper_end_iff (hvictim : ∀ v ∈ victim, v ∈ s.online) (hnot : victim.any (s.firstChoice W) = false)
    (hrest : s.rest W victim = []) (hnone : s.decisive W victim (s.compared W victim) = none) :
    s.Proper W (if s.lastSecond W s.online then s.selectAny W victim s.online else none) ↔
      s.NoFirst W ∧ (s.NoTarget W ∨ s.lastSecond W s.online = true ∧ (victim.any (s.attackable W) = true ∨
        ∃ r, s.online.find? (fun r => s.attackable W r && s.decides W victim r) = some r ∧
          s.keeps (A := A) victim r = false)) := by
  cases s.lastSecond W s.online with
  | false => exact ⟨fun h => ⟨h.noFirst, .inl h⟩, fun h => h.2.resolve_right fun h => Bool.false_ne_true h.1⟩
  | true =>
    rw [if_pos rfl, selectAny_eq]
    cases hf : s.online.find? fun r => s.attackable W r && s.decides W victim r with
    | none =>
      refine ⟨fun h => ⟨h.noFirst, .inl h⟩, fun h => h.2.resolve_right ?_⟩
      rintro ⟨-, hany | ⟨r, h, -⟩⟩
      · obtain ⟨v, rfl, hv⟩ := (Option.any_eq_true ..).1 hany
        simpa [hv, decides, keeps_self] using find?_eq_none.1 hf v (hvictim v rfl)
      · cases h
    | some r =>
      have hr := mem_of_find?_eq_some hf
      obtain ⟨hattack, hdecides⟩ := (Bool.and_eq_true ..).mp (find?_some (p := fun _ => _ && _) hf)
      rw [or_iff_right (not_noTarget hr hattack), eq_self, true_and, map_some]
      cases hkeeps : s.keeps (A := A) victim r with
      | true =>
        obtain ⟨v, rfl, hchoice⟩ := choice_of_keeps hkeeps
        rw [hchoice]
        refine ⟨fun h => ⟨(proper_iff h.1 hnot).1 h, .inl h.1⟩, fun ⟨hno, h⟩ => ?_⟩
        have hv : s.attackable W v = true := h.resolve_right fun ⟨q, hq, hkept⟩ => by simp_all
        exact (proper_iff hv hnot).2 hno
      | false =>
        have hfirst : s.firstChoice W r = false := by
          by_contra hfirst
          have hcompared : r ∈ s.compared W victim := by
            cases hsecond : victim.any (s.secondChoice W) with
            | false => rwa [compared, hsecond]
            | true =>
              obtain ⟨v, rfl, -⟩ := (Option.any_eq_true ..).1 hsecond
              have hlist := before_append (hvictim v rfl)
              rw [rest, hsecond] at hrest
              rw [compared, hsecond]
              change behind v s.online = [] at hrest
              rw [hrest] at hlist
              rw [← hlist] at hr
              refine (mem_append.1 hr).resolve_right fun h => ?_
              rw [mem_singleton.1 h, keeps_self] at hkeeps
              cases hkeeps
          exact find?_eq_none.1 hnone r hcompared (by simp_all)
        rw [choice_of_not_keeps hkeeps]
        exact (proper_iff hattack hfirst).trans ⟨fun h => ⟨h, .inr ⟨r, rfl, hkeeps⟩⟩, And.left⟩

end Cases

/-- **The selection of a victim.** For every current victim, `selectNextVictim` returns a proper target if and
only if the list and the victim are as `Selects` says. -/
theorem proper_iff_selects (hvictim : ∀ v ∈ victim, v ∈ s.online) :
    s.Proper W (s.selectPreferred W victim s.online) ↔ s.Selects W victim := by
  rw [selectPreferred_eq W s hvictim, Selects]
  cases hfirst : victim.any (s.firstChoice W) with
  | true =>
    obtain ⟨v, rfl, hv⟩ := (Option.any_eq_true ..).1 hfirst
    obtain ⟨hattack, hnot⟩ := (Bool.and_eq_true ..).mp hv
    have hcompared : s.compared W (some v) = s.online := if_neg (by simpa using hnot)
    cases hdecisive : s.decisive W (some v) (s.compared W (some v)) with
    | none =>
      rw [hcompared] at hdecisive
      simpa [hv, decides, keeps_self] using find?_eq_none.1 hdecisive v (hvictim v rfl)
    | some r =>
      refine iff_of_true ?_ (.inl rfl)
      rw [map_some, choice]
      split
      · exact proper_first hv
      · exact proper_first (decisive_some hdecisive).2
  | false =>
    cases hdecisive : s.decisive W victim (s.compared W victim) with
    | none =>
      rw [map_none, or_iff_right Bool.false_ne_true]
      by_cases hrest : s.rest W victim = []
      · rw [if_neg (not_not_intro hrest), if_neg (not_not_intro hrest)]
        exact proper_end_iff hvictim hfirst hrest hdecisive
      · rw [if_pos hrest, if_pos hrest]
        exact proper_rest_iff _
    | some r =>
      obtain ⟨hr, hgood⟩ := decisive_some hdecisive
      rw [map_some, or_iff_right Bool.false_ne_true]
      cases hkeeps : s.keeps (A := A) victim r with
      | false =>
        rw [choice_of_not_keeps hkeeps]
        exact iff_of_true (proper_first hgood) hkeeps
      | true =>
        obtain ⟨v, rfl, hchoice⟩ := choice_of_keeps hkeeps
        rw [hchoice]
        refine iff_of_false (not_proper_kept hfirst (mem_compared hr) hgood) fun h => ?_
        exact Bool.false_ne_true (h.symm.trans hkeeps)

theorem proper_iff_selects_two :
    twoReferences.Proper nearby (twoReferences.selectPreferred nearby (some 1) twoReferences.online) :=
  (proper_iff_selects nearby twoReferences (some 1) (twoReferences_consistent.victim · ·)).2 (.inl rfl)

/-- The victim cannot be attacked, and is selected before one who can. -/
theorem not_proper_unattackable :
    let W := { nearby with canCreatureAttack := fun u => !u }
    twoReferences.selectPreferred W (some 1) twoReferences.online = some 1 ∧
      twoReferences.attackable W 1 = false ∧ twoReferences.firstChoice W 0 = true := by
  decide +kernel

end Axium.Combat.ThreatManager
