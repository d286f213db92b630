import Axium.Lib.Tally

/-!
# Stacks in slots

Stacks of pieces kept in slots, no more than `max` pieces of a kind to a stack. A stack is an object with
a guid of its own, and `next` is the first guid that was not given out yet.

What is moved is first planned: `Plan.reserve` sets room aside slot after slot, each slot once. A stack
that was taken out is then put away along the plan (`stow`): what goes to a slot that is taken is added
to the stack there, what goes to a free one becomes a new stack, and the last slot gets the stack itself.
`stow_spec` says what that does to the store when the plan fits it.
-/

namespace Axium.Stacks

open Function List

variable {n : ℕ}

/-- A stack of `count` pieces of the kind `entry`. -/
structure Stack (κ : Type*) where
  guid : ℕ
  entry : κ
  count : ℕ
  deriving DecidableEq

abbrev Store (ι κ : Type*) := ι → Option (Stack κ)

variable {ι κ : Type*}

section total

variable [DecidableEq κ]

/-- The pieces of the kind `e` in a slot. -/
def amount (e : κ) : Option (Stack κ) → ℕ
  | some s => if s.entry = e then s.count else 0
  | none => 0

/-- The pieces of the kind `e` in the store. -/
def total [Fintype ι] (e : κ) (σ : Store ι κ) : ℕ := ∑ i, amount e (σ i)

@[simp] theorem amount_none (e : κ) : amount e none = 0 := rfl

theorem amount_some (e : κ) (s : Stack κ) : amount e (some s) = if s.entry = e then s.count else 0 := rfl

theorem total_update [Fintype ι] [DecidableEq ι] (e : κ) (σ : Store ι κ) (i : ι) (o : Option (Stack κ)) :
    total e (update σ i o) + amount e (σ i) = total e σ + amount e o := by
  have hrest : ∀ j, j ≠ i → (amount e ∘ update σ i o) j = (amount e ∘ σ) j := by
    intro j hj
    rw [comp_apply, update_of_ne hj, comp_apply]
  have h := Tally.sum_change i hrest
  rwa [comp_apply, comp_apply, update_self] at h

theorem total_take [Fintype ι] [DecidableEq ι] (e : κ) {σ : Store ι κ} {i : ι} {s : Stack κ}
    (hs : σ i = some s) : total e (update σ i none) + (if s.entry = e then s.count else 0) = total e σ := by
  have h := total_update e σ i none
  rwa [hs, amount_none, amount_some, add_zero] at h

theorem total_lower [Fintype ι] [DecidableEq ι] (e : κ) {σ : Store ι κ} {i : ι} {s : Stack κ}
    (hs : σ i = some s) (hn : n ≤ s.count) :
    total e (update σ i (some { s with count := s.count - n })) + (if s.entry = e then n else 0) =
      total e σ := by
  have h := total_update e σ i (some { s with count := s.count - n })
  rw [hs, amount_some, amount_some] at h
  dsimp only at h
  by_cases he : s.entry = e
  · rw [if_pos he] at h ⊢
    rw [if_pos he] at h
    omega
  · rw [if_neg he] at h ⊢
    rw [if_neg he] at h
    omega

end total

/-! ## Sound stores -/

/-- No stack is over its maximum, no two have one guid, and new guids are free. -/
structure Sound (max : κ → ℕ) (next : ℕ) (σ : Store ι κ) : Prop where
  bounded : ∀ {i s}, σ i = some s → s.count ≤ max s.entry
  apart : ∀ {i j s t}, σ i = some s → σ j = some t → s.guid = t.guid → i = j
  fresh : ∀ {i s}, σ i = some s → s.guid < next

/-- The stack is in no slot of the store. -/
structure InHand (next : ℕ) (σ : Store ι κ) (s : Stack κ) : Prop where
  apart : ∀ {i t}, σ i = some t → t.guid ≠ s.guid
  fresh : s.guid < next

variable {max : κ → ℕ} {next : ℕ} {σ : Store ι κ}

theorem Sound.mono {next' : ℕ} (h : Sound max next σ) (hle : next ≤ next') : Sound max next' σ where
  bounded := h.bounded
  apart := h.apart
  fresh := fun hs => lt_of_lt_of_le (h.fresh hs) hle

theorem InHand.mono {next' : ℕ} {s : Stack κ} (h : InHand next σ s) (hle : next ≤ next') :
    InHand next' σ s where
  apart := h.apart
  fresh := lt_of_lt_of_le h.fresh hle

def without (g : ℕ) (σ : Store ι κ) : Store ι κ := fun i => (σ i).filter fun s => s.guid ≠ g

theorem without_of_le (h : Sound max next σ) {g : ℕ} (hg : next ≤ g) : without g σ = σ := by
  funext j
  unfold without
  cases ht : σ j with
  | none => rfl
  | some t =>
    have hne : t.guid ≠ g := (lt_of_lt_of_le (h.fresh ht) hg).ne
    simp [hne]

theorem InHand.without {s : Stack κ} (h : InHand next σ s) : without s.guid σ = σ := by
  funext j
  unfold Stacks.without
  cases ht : σ j with
  | none => rfl
  | some t => simp [h.apart ht]

section slots

variable [DecidableEq ι]

section

variable (h : Sound max next σ)
include h

theorem Sound.take (i : ι) : Sound max next (update σ i none) := by
  have hold : ∀ {j s}, update σ i none j = some s → σ j = some s := by
    intro j s hj
    by_cases hji : j = i
    · rw [hji, update_self] at hj
      cases hj
    · rwa [update_of_ne hji] at hj
  exact ⟨fun hs => h.bounded (hold hs), fun hs ht => h.apart (hold hs) (hold ht), fun hs => h.fresh (hold hs)⟩

theorem Sound.put {i : ι} {s : Stack κ} (hmax : s.count ≤ max s.entry)
    (hlt : s.guid < next) (hapart : ∀ {j t}, j ≠ i → σ j = some t → t.guid ≠ s.guid) :
    Sound max next (update σ i (some s)) := by
  have hold : ∀ {j t}, update σ i (some s) j = some t → (j = i ∧ t = s) ∨ (j ≠ i ∧ σ j = some t) := by
    intro j t hj
    by_cases hji : j = i
    · rw [hji, update_self] at hj
      exact .inl ⟨hji, (Option.some.inj hj).symm⟩
    · rw [update_of_ne hji] at hj
      exact .inr ⟨hji, hj⟩
  refine ⟨?_, ?_, ?_⟩
  · intro j t hj
    rcases hold hj with ⟨-, rfl⟩ | ⟨-, hj⟩
    · exact hmax
    · exact h.bounded hj
  · intro j k t u hj hk hguid
    rcases hold hj with ⟨hji, rfl⟩ | ⟨hji, htj⟩
    · rcases hold hk with ⟨hki, rfl⟩ | ⟨hki, huk⟩
      · rw [hji, hki]
      · exact absurd hguid.symm (hapart hki huk)
    · rcases hold hk with ⟨hki, rfl⟩ | ⟨hki, huk⟩
      · exact absurd hguid (hapart hji htj)
      · exact h.apart htj huk hguid
  · intro j t hj
    rcases hold hj with ⟨-, rfl⟩ | ⟨-, hj⟩
    · exact hlt
    · exact h.fresh hj

theorem Sound.setCount {i : ι} {s : Stack κ} (hs : σ i = some s)
    (hn : n ≤ max s.entry) : Sound max next (update σ i (some { s with count := n })) := by
  apply h.put
  · exact hn
  · exact (h.fresh hs : s.guid < next)
  · intro j t hj ht hguid
    exact hj (h.apart ht hs hguid)

theorem Sound.inHand {i : ι} {s : Stack κ} (hs : σ i = some s) : InHand next (update σ i none) s := by
  refine ⟨?_, h.fresh hs⟩
  intro j t hj hguid
  by_cases hji : j = i
  · rw [hji, update_self] at hj
    cases hj
  · rw [update_of_ne hji] at hj
    exact hji (h.apart hj hs hguid)

end

theorem InHand.put {s c : Stack κ} (h : InHand next σ s) (i : ι) (hne : c.guid ≠ s.guid) :
    InHand next (update σ i (some c)) s := by
  refine ⟨?_, h.fresh⟩
  intro j t hj
  by_cases hji : j = i
  · rw [hji, update_self] at hj
    cases hj
    exact hne
  · rw [update_of_ne hji] at hj
    exact h.apart hj

theorem InHand.take {s : Stack κ} (h : InHand next σ s) (i : ι) : InHand next (update σ i none) s := by
  refine ⟨?_, h.fresh⟩
  intro j t hj
  by_cases hji : j = i
  · rw [hji, update_self] at hj
    cases hj
  · rw [update_of_ne hji] at hj
    exact h.apart hj

theorem without_eq_take (h : Sound max next σ) {i : ι} {s : Stack κ} (hs : σ i = some s) :
    without s.guid σ = update σ i none := by
  funext j
  unfold without
  by_cases hji : j = i
  · rw [hji, hs]
    simp
  · rw [update_of_ne hji]
    cases ht : σ j with
    | none => rfl
    | some t =>
      have hne : t.guid ≠ s.guid := fun hguid => hji (h.apart ht hs hguid)
      simp [hne]

end slots

/-! ## Room -/

/-- There is room in the slot for `n` pieces of the kind `e`. -/
def Room (max : κ → ℕ) (σ : Store ι κ) (e : κ) (i : ι) (n : ℕ) : Prop :=
  match σ i with
  | none => n ≤ max e
  | some s => s.entry = e ∧ s.count + n ≤ max e

theorem room_none {e : κ} {i : ι} (h : σ i = none) : Room max σ e i n ↔ n ≤ max e := by
  unfold Room
  rw [h]

theorem room_some {e : κ} {i : ι} {s : Stack κ} (h : σ i = some s) :
    Room max σ e i n ↔ s.entry = e ∧ s.count + n ≤ max e := by
  unfold Room
  rw [h]

theorem setCount_keeps [DecidableEq ι] {i j : ι} {s t : Stack κ} {n : ℕ} (hs : σ i = some s)
    (ht : σ j = some t) : ∃ m, update σ i (some { s with count := n }) j = some { t with count := m } := by
  by_cases hji : j = i
  · subst hji
    rw [hs] at ht
    cases ht
    exact ⟨n, update_self ..⟩
  · exact ⟨t.count, by rw [update_of_ne hji, ht]⟩

theorem Room.lower [DecidableEq ι] {e : κ} {i j : ι} {s : Stack κ} {m n : ℕ} (h : Room max σ e j n) (hs : σ i = some s)
    (hle : m ≤ s.count) : Room max (update σ i (some { s with count := m })) e j n := by
  by_cases hji : j = i
  · subst hji
    have hroom := (room_some hs).1 h
    rw [room_some (update_self ..)]
    exact ⟨hroom.1, by simp only; omega⟩
  · unfold Room
    rw [update_of_ne hji]
    exact h

/-! ## Plans -/

structure Plan (ι : Type*) where
  dest : List (ι × ℕ)
  left : ℕ
  deriving DecidableEq

/-- Set aside a slot that can take `space` pieces, unless that was done before. -/
def Plan.reserve [DecidableEq ι] (P : Plan ι) (i : ι) (space : ℕ) : Plan ι :=
  if i ∈ P.dest.map Prod.fst then P
  else ⟨P.dest ++ [(i, min space P.left)], P.left - min space P.left⟩

/-- The plan is for `n` pieces of the kind `e`, has slots of `ok` only, each one once, and there is room
in each. -/
structure Plan.Fits (max : κ → ℕ) (σ : Store ι κ) (ok : ι → Prop) (e : κ) (n : ℕ) (P : Plan ι) :
    Prop where
  nodup : (P.dest.map Prod.fst).Nodup
  room : ∀ p ∈ P.dest, ok p.1 ∧ Room max σ e p.1 p.2
  sum : (P.dest.map Prod.snd).sum + P.left = n

variable {ok : ι → Prop} {e : κ} {n : ℕ} {P : Plan ι}

theorem Plan.fits_start : Plan.Fits max σ ok e n ⟨[], n⟩ :=
  ⟨nodup_nil, fun _ hp => absurd hp (not_mem_nil), by simp⟩

theorem Plan.Fits.reserve [DecidableEq ι] (h : P.Fits max σ ok e n) {i : ι} {space : ℕ} (hok : ok i)
    (hroom : Room max σ e i (min space P.left)) : (P.reserve i space).Fits max σ ok e n := by
  unfold Plan.reserve
  by_cases hi : i ∈ P.dest.map Prod.fst
  · rw [if_pos hi]
    exact h
  · rw [if_neg hi]
    refine ⟨?_, ?_, ?_⟩
    · rw [map_append]
      exact List.Nodup.append h.nodup (nodup_singleton _) (by simpa using hi)
    · intro p hp
      rcases mem_append.1 hp with hp | hp
      · exact h.room p hp
      · rw [mem_singleton.1 hp]
        exact ⟨hok, hroom⟩
    · have hsum := h.sum
      simp only [map_append, sum_append, map_cons, map_nil, sum_singleton]
      omega

/-! ## Putting a stack away -/

variable [DecidableEq ι]

/-- A new stack of `n` pieces like `s`, with the guid `g`. No stack is made of nothing. -/
def clone (max : κ → ℕ) (g : ℕ) (s : Stack κ) (n : ℕ) : Option (Stack κ) :=
  if n = 0 then none else some ⟨g, s.entry, min n (max s.entry)⟩

/-- `n` pieces of `s` go to the slot `i`: to the stack there, else as `s` itself when it is the last slot
and as a new stack when it is not. -/
def drop (max : κ → ℕ) (s : Stack κ) (last : Bool) (i : ι) (n : ℕ) (w : ℕ × Store ι κ) : ℕ × Store ι κ :=
  match w.2 i with
  | some t => (w.1, update w.2 i (some { t with count := t.count + n }))
  | none =>
    if last then (w.1, update w.2 i (some { s with count := n }))
    else match clone max w.1 s n with
      | some c => (w.1 + 1, update w.2 i (some c))
      | none => w

def stow (max : κ → ℕ) (s : Stack κ) : List (ι × ℕ) → ℕ × Store ι κ → ℕ × Store ι κ
  | [], w => w
  | (i, n) :: rest, w => stow max s rest (drop max s rest.isEmpty i n w)

theorem drop_keeps {s t : Stack κ} {last : Bool} {i j : ι} (ht : σ j = some t) :
    ∃ m, (drop max s last i n (next, σ)).2 j = some { t with count := m } := by
  by_cases hji : j = i
  · subst hji
    simp only [drop, ht, update_self]
    exact ⟨_, rfl⟩
  · have hsame : (drop max s last i n (next, σ)).2 j = σ j := by
      unfold drop
      split
      · exact update_of_ne hji ..
      · split
        · exact update_of_ne hji ..
        · split
          · exact update_of_ne hji ..
          · rfl
    rw [hsame, ht]
    exact ⟨_, rfl⟩

/-- What the store `σ'` is after `n` pieces of `s` went to the slots `is` of `σ`: each slot holds what it
held and perhaps more, no other slot is touched, and what is new is `s` or has a new guid. -/
structure Stowed [Fintype ι] [DecidableEq κ] (max : κ → ℕ) (next : ℕ) (σ : Store ι κ) (s : Stack κ)
    (is : List ι) (n : ℕ) (next' : ℕ) (σ' : Store ι κ) : Prop where
  le : next ≤ next'
  sound : Sound max next' σ'
  total : ∀ e, total e σ' = Stacks.total e σ + if s.entry = e then n else 0
  keeps : ∀ {i t}, σ i = some t → ∃ m, σ' i = some { t with count := m }
  only : ∀ {i}, i ∉ is → σ' i = σ i
  guids : ∀ {i t}, σ' i = some t → t.guid = s.guid ∨ next ≤ t.guid ∨ ∃ u, σ i = some u ∧ u.guid = t.guid

section spec

variable [Fintype ι] [DecidableEq κ] {s : Stack κ} {next' : ℕ} {σ' : Store ι κ}

omit [DecidableEq ι] in
theorem stowed_none (h : Sound max next σ) (is : List ι) : Stowed max next σ s is 0 next σ where
  le := le_rfl
  sound := h
  total := by simp
  keeps := fun ht => ⟨_, ht⟩
  only := fun _ => rfl
  guids := fun ht => .inr (.inr ⟨_, ht, rfl⟩)

theorem stowed_merge (h : Sound max next σ) {i : ι} {t : Stack κ} (ht : σ i = some t)
    (hentry : t.entry = s.entry) (hmax : t.count + n ≤ max s.entry) :
    Stowed max next σ s [i] n next (update σ i (some { t with count := t.count + n })) where
  le := le_rfl
  sound := h.setCount ht (by rw [hentry]; exact hmax)
  total := by
    intro e
    have htot := total_update e σ i (some { t with count := t.count + n })
    rw [ht, amount_some, amount_some] at htot
    simp only at htot
    rw [← hentry]
    by_cases he : t.entry = e
    · rw [if_pos he] at htot ⊢
      rw [if_pos he] at htot
      omega
    · rw [if_neg he] at htot ⊢
      rw [if_neg he] at htot
      omega
  keeps := setCount_keeps ht
  only := fun hj => update_of_ne (fun hji => hj (mem_singleton.2 hji)) ..
  guids := by
    intro j u hu
    by_cases hji : j = i
    · subst hji
      rw [update_self] at hu
      cases hu
      exact .inr (.inr ⟨t, ht, rfl⟩)
    · rw [update_of_ne hji] at hu
      exact .inr (.inr ⟨u, hu, rfl⟩)

theorem stowed_fill (h : Sound max next σ) (hle : next ≤ next') {i : ι} {c : Stack κ}
    (hfree : σ i = none) (hentry : c.entry = s.entry) (hmax : c.count ≤ max s.entry)
    (hlt : c.guid < next') (hapart : ∀ {j t}, σ j = some t → t.guid ≠ c.guid)
    (hguid : c.guid = s.guid ∨ next ≤ c.guid) :
    Stowed max next σ s [i] c.count next' (update σ i (some c)) where
  le := hle
  sound := (h.mono hle).put (by rw [hentry]; exact hmax) hlt (fun _ ht => hapart ht)
  total := by
    intro e
    have htot := total_update e σ i (some c)
    rwa [hfree, amount_none, amount_some, hentry] at htot
  keeps := by
    intro j u hu
    have hji : j ≠ i := by
      rintro rfl
      rw [hfree] at hu
      cases hu
    rw [update_of_ne hji]
    exact ⟨_, hu⟩
  only := fun hj => update_of_ne (fun hji => hj (mem_singleton.2 hji)) ..
  guids := by
    intro j u hu
    by_cases hji : j = i
    · subst hji
      rw [update_self] at hu
      cases hu
      exact hguid.imp_right .inl
    · rw [update_of_ne hji] at hu
      exact .inr (.inr ⟨u, hu, rfl⟩)

omit [DecidableEq ι] in
theorem Stowed.inHand {is : List ι} {t : Stack κ} (h : Stowed max next σ s is n next' σ')
    (ht : InHand next σ t) (hne : s.guid ≠ t.guid) : InHand next' σ' t := by
  refine ⟨?_, lt_of_lt_of_le ht.fresh h.le⟩
  intro i u hu
  rcases h.guids hu with hg | hg | ⟨v, hv, hg⟩
  · rw [hg]
    exact hne
  · exact (lt_of_lt_of_le ht.fresh hg).ne'
  · rw [← hg]
    exact ht.apart hv

omit [DecidableEq ι] in
theorem Stowed.trans {is js : List ι} {m n next'' : ℕ} {σ'' : Store ι κ}
    (h : Stowed max next σ s is m next' σ') (h' : Stowed max next' σ' s js n next'' σ'') :
    Stowed max next σ s (is ++ js) (m + n) next'' σ'' where
  le := h.le.trans h'.le
  sound := h'.sound
  total := by
    intro e
    rw [h'.total e, h.total e]
    split <;> omega
  keeps := by
    intro i t ht
    obtain ⟨k, hk⟩ := h.keeps ht
    obtain ⟨k', hk'⟩ := h'.keeps hk
    exact ⟨k', hk'⟩
  only := by
    intro i hi
    rw [mem_append, not_or] at hi
    rw [h'.only hi.2, h.only hi.1]
  guids := by
    intro i t ht
    rcases h'.guids ht with hg | hg | ⟨u, hu, hg⟩
    · exact .inl hg
    · exact .inr (.inl (h.le.trans hg))
    · rw [← hg]
      exact h.guids hu

theorem drop_spec (h : Sound max next σ) (hs : InHand next σ s) (last : Bool) {i : ι}
    (hroom : Room max σ s.entry i n) :
    Stowed max next σ s [i] n (drop max s last i n (next, σ)).1 (drop max s last i n (next, σ)).2 ∧
      (last = false → InHand (drop max s last i n (next, σ)).1 (drop max s last i n (next, σ)).2 s) := by
  cases ht : σ i with
  | some t =>
    obtain ⟨hentry, hmax⟩ := (room_some ht).1 hroom
    have hdrop : drop max s last i n (next, σ) = (next, update σ i (some { t with count := t.count + n })) := by
      simp only [drop, ht]
    rw [hdrop]
    have hne : t.guid ≠ s.guid := hs.apart ht
    exact ⟨stowed_merge h ht hentry hmax, fun _ => hs.put i hne⟩
  | none =>
    have hmax := (room_none ht).1 hroom
    cases last with
    | true =>
      have hdrop : drop max s true i n (next, σ) = (next, update σ i (some { s with count := n })) := by
        simp only [drop, ht, if_true]
      rw [hdrop]
      refine ⟨?_, fun hl => absurd hl (by decide)⟩
      exact stowed_fill h le_rfl (c := { s with count := n }) ht rfl hmax hs.fresh hs.apart (.inl rfl)
    | false =>
      by_cases hn : n = 0
      · have hdrop : drop max s false i n (next, σ) = (next, σ) := by
          simp [drop, ht, clone, hn]
        rw [hdrop, hn]
        exact ⟨stowed_none h [i], fun _ => hs⟩
      · have hdrop : drop max s false i n (next, σ) = (next + 1, update σ i (some ⟨next, s.entry, n⟩)) := by
          simp [drop, ht, clone, hn, min_eq_left hmax]
        rw [hdrop]
        refine ⟨?_, fun _ => (hs.mono (Nat.le_succ next)).put i hs.fresh.ne'⟩
        exact stowed_fill h (Nat.le_succ next) (c := ⟨next, s.entry, n⟩) ht rfl hmax
          (Nat.lt_succ_self next) (fun hu => (h.fresh hu).ne) (.inr le_rfl)

theorem stow_spec {dest : List (ι × ℕ)} (h : Sound max next σ) (hs : InHand next σ s)
    (hnodup : (dest.map Prod.fst).Nodup) (hroom : ∀ p ∈ dest, Room max σ s.entry p.1 p.2) :
    Stowed max next σ s (dest.map Prod.fst) (dest.map Prod.snd).sum (stow max s dest (next, σ)).1
      (stow max s dest (next, σ)).2 := by
  -- by induction on the plan; while a slot is left the stack stays in hand
  induction dest generalizing next σ with
  | nil => exact stowed_none h []
  | cons p rest ih =>
    obtain ⟨i, n⟩ := p
    rw [map_cons, nodup_cons] at hnodup
    have hdrop := drop_spec h hs rest.isEmpty (hroom (i, n) (mem_cons_self ..))
    cases rest with
    | nil => simpa [stow] using hdrop.1
    | cons q rest =>
      have hrest := ih hdrop.1.sound (hdrop.2 rfl) hnodup.2 (by
        intro r hr
        have hne : r.1 ∉ [i] := by
          intro hri
          exact hnodup.1 (mem_map.2 ⟨r, hr, mem_singleton.1 hri⟩)
        have hsame := hdrop.1.only hne
        unfold Room
        rw [hsame]
        exact hroom r (mem_cons_of_mem _ hr))
      exact hdrop.1.trans hrest

end spec

end Axium.Stacks
