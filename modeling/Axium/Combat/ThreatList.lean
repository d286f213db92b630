import Axium.Combat.ThreatManager
import Mathlib.Data.List.Perm.Basic
import Mathlib.Data.List.Nodup

/-!
# The structure of the threat lists

In every run from a new creature no unit has two references, a reference is in the online container exactly when
it is online, and the current victim is a reference of the online container (`threat_lists_consistent`).

A call either leaves the lists as they are and writes to references (`SameLists`), moves a reference from one
container to the other, adds a reference for a unit that has none, or removes one. The first three keep all
references alive (`Evolves`), so that they compose along the recursion to the owner of a pet.
-/

namespace Axium.Combat.ThreatManager

open List Function Option

variable {U T : Type} {A : Arith T}
variable {s : ThreatManager U T} {l : List Nat}

def Live (s : ThreatManager U T) (r : Nat) : Prop := r ∈ s.online ++ s.offline

/-- One reference a unit, in the container that its flag names, and the victim among those online. -/
structure Consistent (s : ThreatManager U T) : Prop where
  distinct : ((s.online ++ s.offline).map fun r => (s.refs r).unitGuid).Nodup
  online_iff : ∀ r, Live s r → (r ∈ s.online ↔ (s.refs r).online = true)
  victim : ∀ r, s.currentVictim = some r → r ∈ s.online
  allocated : ∀ r, Live s r → r < s.nextRef

/-- Every reference is still there, for the same unit. -/
structure Evolves (s t : ThreatManager U T) : Prop where
  consistent : Consistent t
  live : ∀ r, Live s r → Live t r
  unit : ∀ r, (t.refs r).unitGuid = (s.refs r).unitGuid ∨ ¬ Live s r

namespace Consistent

variable {s : ThreatManager U T} (h : Consistent s)

include h

theorem nodup : (s.online ++ s.offline).Nodup := h.distinct.of_map

variable {r : Nat}

theorem not_mem_offline (hr : r ∈ s.online) : r ∉ s.offline :=
  fun hr' => disjoint_of_nodup_append h.nodup hr hr'

theorem online_of_mem (hr : r ∈ s.online) : (s.refs r).online = true :=
  (h.online_iff r (mem_append_left _ hr)).1 hr

theorem offline_of_mem (hr : r ∈ s.offline) : (s.refs r).online = false := by
  have := h.online_iff r (mem_append_right _ hr)
  cases hon : (s.refs r).online with
  | false => rfl
  | true => exact absurd hr (h.not_mem_offline (this.2 hon))

theorem mem_offline_of_live (hr : Live s r) (hoff : (s.refs r).online = false) : r ∈ s.offline := by
  rcases mem_append.1 hr with hon | hoff'
  · have := h.online_of_mem hon
    rw [hoff] at this
    exact absurd this Bool.false_ne_true
  · exact hoff'

end Consistent

/-! ## Writes to references -/

/-- Only the memory of references has changed, and their units and online states have not. -/
structure SameLists (s t : ThreatManager U T) : Prop where
  online : t.online = s.online
  offline : t.offline = s.offline
  victim : t.currentVictim = s.currentVictim
  nextRef : t.nextRef = s.nextRef
  unit : ∀ r, (t.refs r).unitGuid = (s.refs r).unitGuid
  state : ∀ r, (t.refs r).online = (s.refs r).online

theorem SameLists.refl (s : ThreatManager U T) : SameLists s s :=
  ⟨rfl, rfl, rfl, rfl, fun _ => rfl, fun _ => rfl⟩

variable {t : ThreatManager U T} {r : Nat}

theorem SameLists.live (h : SameLists s t) : Live t r ↔ Live s r := by
  rw [Live, Live, h.online, h.offline]

theorem SameLists.evolves (h : SameLists s t) (hs : Consistent s) : Evolves s t where
  consistent :=
    { distinct := by
        rw [h.online, h.offline, show (fun r => (t.refs r).unitGuid) = fun r => (s.refs r).unitGuid
          from funext h.unit]
        exact hs.distinct
      online_iff := fun r hr => by
        rw [h.online, h.state]
        exact hs.online_iff r (h.live.1 hr)
      victim := fun r hr => by
        rw [h.online]
        exact hs.victim r (h.victim ▸ hr)
      allocated := fun r hr => by
        rw [h.nextRef]
        exact hs.allocated r (h.live.1 hr) }
  live _ := h.live.2
  unit r := .inl (h.unit r)

theorem Evolves.trans {s u : ThreatManager U T} (h : Evolves s t) (h' : Evolves t u) : Evolves s u where
  consistent := h'.consistent
  live r hr := h'.live r (h.live r hr)
  unit r := by
    by_cases hr : Live s r
    · have h₁ := (h.unit r).resolve_right (not_not_intro hr)
      have h₂ := (h'.unit r).resolve_right (not_not_intro (h.live r hr))
      exact .inl (h₂.trans h₁)
    · exact .inr hr

theorem Evolves.unit_eq (h : Evolves s t) (hr : Live s r) :
    (t.refs r).unitGuid = (s.refs r).unitGuid :=
  (h.unit r).resolve_right (not_not_intro hr)

theorem modifyRef_refs_of_ne (s : ThreatManager U T) {r' : Nat} (h : r' ≠ r)
    (f : HostileReference U T → HostileReference U T) : (s.modifyRef r f).refs r' = s.refs r' :=
  update_of_ne h _ _

@[simp] theorem modifyRef_refs_self (s : ThreatManager U T) (r : Nat)
    (f : HostileReference U T → HostileReference U T) : (s.modifyRef r f).refs r = f (s.refs r) :=
  update_self ..

theorem sameLists_modifyRef (s : ThreatManager U T) (r : Nat) {f : HostileReference U T → HostileReference U T}
    (hunit : ∀ ref, (f ref).unitGuid = ref.unitGuid) (hstate : ∀ ref, (f ref).online = ref.online) :
    SameLists s (s.modifyRef r f) where
  online := rfl
  offline := rfl
  victim := rfl
  nextRef := rfl
  unit r' := by
    by_cases h : r' = r
    · rw [h, modifyRef_refs_self, hunit]
    · rw [modifyRef_refs_of_ne s h]
  state r' := by
    by_cases h : r' = r
    · rw [h, modifyRef_refs_self, hstate]
    · rw [modifyRef_refs_of_ne s h]

theorem sameLists_setAccessibleState (s : ThreatManager U T) (r : Nat) (b : Bool) :
    SameLists s (s.setAccessibleState r b) :=
  sameLists_modifyRef s r (fun _ => rfl) fun _ => rfl

theorem sameLists_threatChange (s : ThreatManager U T) (r : Nat) (value : T) :
    SameLists s (s.processThreatEvent A (.threatChange r value)) := by
  unfold processThreatEvent
  dsimp only
  split
  · exact ⟨rfl, rfl, rfl, rfl, fun _ => rfl, fun _ => rfl⟩
  · exact .refl s

/-! ## Moves between the containers -/

theorem Evolves.of_perm (hs : Consistent s)
    (hperm : (t.online ++ t.offline).Perm (s.online ++ s.offline))
    (hunit : ∀ r, (t.refs r).unitGuid = (s.refs r).unitGuid) (hnext : t.nextRef = s.nextRef)
    (hstate : ∀ r, Live t r → (r ∈ t.online ↔ (t.refs r).online = true))
    (hvictim : ∀ r, t.currentVictim = some r → r ∈ t.online) : Evolves s t where
  consistent :=
    { distinct := by
        rw [show (fun r => (t.refs r).unitGuid) = fun r => (s.refs r).unitGuid from funext hunit]
        exact (hperm.map _).nodup_iff.2 hs.distinct
      online_iff := hstate
      victim := hvictim
      allocated := fun r hr => by
        rw [hnext]
        exact hs.allocated r (hperm.mem_iff.1 hr) }
  live _ hr := hperm.mem_iff.2 hr
  unit r := .inl (hunit r)

theorem filter_append_perm {a b : List Nat} (hr : r ∈ a) (hnodup : a.Nodup) :
    (a.filter (· ≠ r) ++ (b ++ [r])).Perm (a ++ b) := by
  have herase : a.filter (· ≠ r) = a.erase r := by
    rw [hnodup.erase_eq_filter]
    refine filter_congr fun x _ => ?_
    by_cases hx : x = r <;> simp [hx]
  rw [herase]
  have hlast : (a.erase r ++ (b ++ [r])).Perm (a.erase r ++ (r :: b)) :=
    (perm_append_singleton r b).append_left _
  have hfirst : (r :: a.erase r ++ b).Perm (a ++ b) := (perm_cons_erase hr).symm.append_right b
  exact hlast.trans (perm_middle.trans hfirst)

theorem dropVictim_refs (s : ThreatManager U T) (r : Nat) : (s.dropVictim r).refs = s.refs := by
  unfold dropVictim
  split <;> rfl

theorem dropVictim_online (s : ThreatManager U T) (r : Nat) : (s.dropVictim r).online = s.online := by
  unfold dropVictim
  split <;> rfl

theorem dropVictim_offline (s : ThreatManager U T) (r : Nat) : (s.dropVictim r).offline = s.offline := by
  unfold dropVictim
  split <;> rfl

theorem dropVictim_nextRef (s : ThreatManager U T) (r : Nat) : (s.dropVictim r).nextRef = s.nextRef := by
  unfold dropVictim
  split <;> rfl

theorem dropVictim_currentVictim {r' : Nat}
    (h : (s.dropVictim r).currentVictim = some r') : s.currentVictim = some r' ∧ r' ≠ r := by
  unfold dropVictim at h
  by_cases hr : s.currentVictim = some r
  · rw [if_pos hr] at h
    exact absurd h (by simp)
  · rw [if_neg hr] at h
    refine ⟨h, fun heq => hr ?_⟩
    rw [h, heq]

theorem Consistent.goOffline (hs : Consistent s) (hr : r ∈ s.online) :
    Evolves s (s.setOnlineOfflineState A r false) ∧
      r ∈ (s.setOnlineOfflineState A r false).offline := by
  have hon := hs.online_of_mem hr
  unfold setOnlineOfflineState
  rw [if_neg (by simp [hon])]
  dsimp only
  rw [if_neg Bool.false_ne_true]
  -- the state that the event finds
  generalize hm : (s.modifyRef r fun ref => { ref with online := false }).setAccessibleState r false = m
  have hrefs (r' : Nat) (hne : r' ≠ r) : m.refs r' = s.refs r' := by
    rw [← hm, setAccessibleState, modifyRef_refs_of_ne _ hne, modifyRef_refs_of_ne _ hne]
  have hself : (m.refs r).online = false ∧ (m.refs r).unitGuid = (s.refs r).unitGuid := by
    rw [← hm, setAccessibleState, modifyRef_refs_self, modifyRef_refs_self]
    exact ⟨rfl, rfl⟩
  have hlists : m.online = s.online ∧ m.offline = s.offline ∧ m.currentVictim = s.currentVictim ∧
      m.nextRef = s.nextRef := by
    rw [← hm]
    exact ⟨rfl, rfl, rfl, rfl⟩
  unfold processThreatEvent
  dsimp only
  rw [if_neg (by rw [hself.1]; exact Bool.false_ne_true), dropVictim_online, dropVictim_offline, hlists.1,
    hlists.2.1]
  refine ⟨.of_perm hs ?_ ?_ ?_ ?_ ?_, mem_append_right _ mem_cons_self⟩
  · exact filter_append_perm hr (List.Nodup.of_append_left hs.nodup)
  · intro r'
    rw [dropVictim_refs]
    by_cases hne : r' = r
    · rw [hne, hself.2]
    · rw [hrefs r' hne]
  · change (m.dropVictim r).nextRef = _
    rw [dropVictim_nextRef, hlists.2.2.2]
  · intro r' hlive
    rw [dropVictim_refs]
    by_cases hne : r' = r
    · rw [hne, hself.1]
      simp
    · rw [hrefs r' hne, ← hs.online_iff r']
      · simp [hne]
      · exact (filter_append_perm hr (List.Nodup.of_append_left hs.nodup)).mem_iff.1 hlive
  · intro r' hvictim
    obtain ⟨hv, hne⟩ := dropVictim_currentVictim hvictim
    exact mem_filter.2 ⟨hs.victim r' (hlists.2.2.1 ▸ hv), by simpa using hne⟩

theorem Consistent.goOnline (hs : Consistent s) (hr : r ∈ s.offline) :
    Evolves s (s.setOnlineOfflineState A r true) := by
  have hoff := hs.offline_of_mem hr
  unfold setOnlineOfflineState
  rw [if_neg (by simp [hoff])]
  dsimp only
  rw [if_pos rfl]
  generalize hm : (s.modifyRef r fun ref => { ref with online := true }) = m
  have hrefs (r' : Nat) (hne : r' ≠ r) : m.refs r' = s.refs r' := by
    rw [← hm, modifyRef_refs_of_ne _ hne]
  have hself : (m.refs r).online = true ∧ (m.refs r).unitGuid = (s.refs r).unitGuid := by
    rw [← hm, modifyRef_refs_self]
    exact ⟨rfl, rfl⟩
  have hlists : m.online = s.online ∧ m.offline = s.offline ∧ m.currentVictim = s.currentVictim ∧
      m.nextRef = s.nextRef := by
    rw [← hm]
    exact ⟨rfl, rfl, rfl, rfl⟩
  have hperm : ((s.online ++ [r]) ++ s.offline.filter (· ≠ r)).Perm (s.online ++ s.offline) :=
    perm_append_comm.trans
      ((filter_append_perm hr (List.Nodup.of_append_right hs.nodup)).trans perm_append_comm)
  unfold processThreatEvent
  dsimp only
  rw [if_pos hself.1, hlists.1, hlists.2.1]
  refine .of_perm hs hperm ?_ hlists.2.2.2 ?_ ?_
  · intro r'
    by_cases hne : r' = r
    · rw [hne, hself.2]
    · rw [hrefs r' hne]
  · intro r' hlive
    by_cases hne : r' = r
    · rw [hne, hself.1]
      simp
    · rw [hrefs r' hne, ← hs.online_iff r' (hperm.mem_iff.1 hlive)]
      simp [hne]
  · intro r' hvictim
    exact mem_append_left _ (hs.victim r' (hlists.2.2.1 ▸ hvictim))

theorem Consistent.setOnlineOfflineState (hs : Consistent s)
    (hr : Live s r) (b : Bool) : Evolves s (s.setOnlineOfflineState A r b) := by
  by_cases heq : (s.refs r).online = b
  · rw [ThreatManager.setOnlineOfflineState, if_pos heq]
    exact (SameLists.refl s).evolves hs
  · cases b with
    | false => exact (hs.goOffline ((hs.online_iff r hr).2 (by simpa using heq))).1
    | true => exact hs.goOnline (hs.mem_offline_of_live hr (by simpa using heq))

/-! ## Removal and creation -/

theorem Consistent.removeReference (hs : Consistent s) (hr : Live s r) :
    Consistent (s.removeReference A r) ∧
      ∀ r', Live s r' → r' ≠ r → Live (s.removeReference A r) r' := by
  unfold ThreatManager.removeReference
  dsimp only
  -- the reference is offline when it is removed
  have hoff : Evolves s (s.setOnlineOfflineState A r false) := hs.setOnlineOfflineState hr false
  have hmem : r ∈ (s.setOnlineOfflineState A r false).offline := by
    rcases mem_append.1 hr with hon | hoff'
    · exact (hs.goOffline hon).2
    · rw [ThreatManager.setOnlineOfflineState, if_pos (hs.offline_of_mem hoff')]
      exact hoff'
  generalize s.setOnlineOfflineState A r false = m at hoff hmem ⊢
  have hsame : SameLists m (m.modifyRef r fun ref => { ref with valid := false }) :=
    sameLists_modifyRef m r (fun _ => rfl) fun _ => rfl
  have hm : Consistent (m.modifyRef r fun ref => { ref with valid := false }) :=
    (hsame.evolves hoff.consistent).consistent
  have hmem' : r ∈ (m.modifyRef r fun ref => { ref with valid := false }).offline := hmem
  have hlive (r' : Nat) (hr' : Live s r') : Live (m.modifyRef r fun ref => { ref with valid := false }) r' :=
    hsame.live.2 (hoff.live r' hr')
  generalize (m.modifyRef r fun ref => { ref with valid := false }) = n at hm hmem' hlive ⊢
  unfold processThreatEvent
  dsimp only
  rw [dropVictim_refs, if_neg (by rw [hm.offline_of_mem hmem']; exact Bool.false_ne_true),
    dropVictim_online, dropVictim_offline, dropVictim_nextRef]
  have hsub : (n.online ++ n.offline.filter (· ≠ r)).Sublist (n.online ++ n.offline) :=
    filter_sublist.append_left _
  constructor
  · exact
      { distinct := (hsub.map _).nodup hm.distinct
        online_iff := fun r' hr' => hm.online_iff r' (hsub.mem hr')
        victim := fun r' hv => hm.victim r' (dropVictim_currentVictim hv).1
        allocated := fun r' hr' => hm.allocated r' (hsub.mem hr') }
  · intro r' hr' hne
    rcases mem_append.1 (hlive r' hr') with hon | hoff'
    · exact mem_append_left _ hon
    · exact mem_append_right _ (mem_filter.2 ⟨hoff', by simpa using hne⟩)

theorem Consistent.newReference (hs : Consistent s) {u : U}
    (hu : ∀ r, Live s r → (s.refs r).unitGuid ≠ u) :
    Evolves s (s.newReference A u) ∧ Live (s.newReference A u) s.nextRef ∧
      ((s.newReference A u).refs s.nextRef).unitGuid = u := by
  have hne {r : Nat} (hr : Live s r) : r ≠ s.nextRef := ne_of_lt (hs.allocated r hr)
  have hrefs {r : Nat} (hr : Live s r) : (s.newReference A u).refs r = s.refs r := update_of_ne (hne hr) _ _
  have hself : ((s.newReference A u).refs s.nextRef).unitGuid = u ∧
      ((s.newReference A u).refs s.nextRef).online = true := by
    unfold ThreatManager.newReference
    dsimp only
    rw [update_self]
    exact ⟨rfl, rfl⟩
  have hperm : ((s.newReference A u).online ++ (s.newReference A u).offline).Perm
      (s.nextRef :: (s.online ++ s.offline)) := by
    change (s.online ++ [s.nextRef] ++ s.offline).Perm _
    rw [append_assoc]
    exact perm_middle
  have hcases {r : Nat} (hr : Live (s.newReference A u) r) : r = s.nextRef ∨ Live s r :=
    mem_cons.1 (hperm.mem_iff.1 hr)
  have hkeep (r : Nat) (hr : Live s r) : Live (s.newReference A u) r :=
    hperm.mem_iff.2 (mem_cons_of_mem _ hr)
  refine ⟨⟨?_, hkeep, fun r => ?_⟩, hperm.mem_iff.2 mem_cons_self, hself.1⟩
  · constructor
    · refine (hperm.map _).nodup_iff.2 (nodup_cons.2 ⟨?_, ?_⟩)
      · intro hmem
        obtain ⟨r, hr, heq⟩ := mem_map.1 hmem
        rw [hrefs hr] at heq
        exact hu r hr (heq.trans hself.1)
      · rw [map_congr_left fun r hr => by rw [hrefs hr]]
        exact hs.distinct
    · intro r hr
      change r ∈ s.online ++ [s.nextRef] ↔ _
      rcases hcases hr with rfl | hr
      · simp [hself.2]
      · rw [hrefs hr, ← hs.online_iff r hr]
        simp [hne hr]
    · exact fun r hv => mem_append_left _ (hs.victim r hv)
    · intro r hr
      change r < s.nextRef + 1
      rcases hcases hr with rfl | hr
      · omega
      · have := hs.allocated r hr
        omega
  · by_cases hr : Live s r
    · exact .inl (by rw [hrefs hr])
    · exact .inr hr

/-! ## Adding threat -/

section Threat

variable (W : Surroundings U T A)

variable {r : Nat}

theorem Consistent.updateOnlineStatus (hs : Consistent s)
    (hr : Live s r) : Evolves s (s.updateOnlineStatus W r) := by
  unfold ThreatManager.updateOnlineStatus
  dsimp only
  have hvalid : SameLists s
      (s.modifyRef r fun ref => { ref with valid := ref.valid || W.getUnit ref.unitGuid }) :=
    sameLists_modifyRef s r (fun _ => rfl) fun _ => rfl
  generalize (s.modifyRef r fun ref => { ref with valid := ref.valid || W.getUnit ref.unitGuid }) = m
    at hvalid ⊢
  generalize (if (m.refs r).valid = true then reachable W (m.refs r).unitGuid else (false, false)) = state
  have h₁ := hvalid.evolves hs
  have h₂ := (sameLists_setAccessibleState m r state.2).evolves h₁.consistent
  have h₃ := h₂.consistent.setOnlineOfflineState (A := A) (h₂.live r (h₁.live r hr)) state.1
  exact h₁.trans (h₂.trans h₃)

theorem Consistent.changeThreat (hs : Consistent s) (hr : Live s r)
    (modThreat : T) : Evolves s (s.changeThreat W r modThreat) := by
  unfold ThreatManager.changeThreat
  dsimp only
  have hadd : SameLists s (s.modifyRef r fun ref => { ref with threat := A.add ref.threat modThreat }) :=
    sameLists_modifyRef s r (fun _ => rfl) fun _ => rfl
  generalize (s.modifyRef r fun ref => { ref with threat := A.add ref.threat modThreat }) = m at hadd ⊢
  have h₁ := hadd.evolves hs
  have h₂ : Evolves m (if (m.refs r).online = true then m else m.updateOnlineStatus W r) := by
    split
    · exact (SameLists.refl m).evolves h₁.consistent
    · exact h₁.consistent.updateOnlineStatus W (h₁.live r hr)
  generalize (if (m.refs r).online = true then m else m.updateOnlineStatus W r) = n at h₂ ⊢
  refine h₁.trans (h₂.trans ?_)
  split
  · exact (SameLists.refl n).evolves h₂.consistent
  · exact (sameLists_threatChange n r modThreat).evolves h₂.consistent

variable [DecidableEq U]

theorem addThreat_zero (s : ThreatManager U T) (o : U) :
    s.addThreat W o A.zero (W.totalThreatModifier o) false =
      if isValidProcess W o false = true then addThreatTo W o (W.totalThreatModifier o A.zero) s else s := by
  have hdo : s.doAddThreat W o (W.totalThreatModifier o A.zero) =
      addThreatTo W o (W.totalThreatModifier o A.zero) s := by
    rw [doAddThreat, if_neg (by simp [W.modifier_zero o])]
  rw [addThreat, hdo]

theorem ownerThreat_eq (s : ThreatManager U T) (o : U) :
    (if W.isAlive o = true then s.addThreat W o A.zero (W.totalThreatModifier o) false else s) =
      if (W.isAlive o && isValidProcess W o false) = true then
        addThreatTo W o (W.totalThreatModifier o A.zero) s else s := by
  rw [addThreat_zero]
  cases W.isAlive o <;> simp

variable {u : U}

theorem getReferenceByTarget_some {container : List Nat}
    (h : s.getReferenceByTarget container u = some r) : r ∈ container ∧ (s.refs r).unitGuid = u :=
  ⟨mem_of_find?_eq_some h, by simpa using find?_some h⟩

theorem found_some
    (h : (s.getReferenceByTarget s.online u).or (s.getReferenceByTarget s.offline u) = some r) :
    Live s r ∧ (s.refs r).unitGuid = u := by
  rcases or_eq_some_iff.1 h with hon | ⟨-, hoff⟩
  · obtain ⟨hmem, hunit⟩ := getReferenceByTarget_some hon
    exact ⟨mem_append_left _ hmem, hunit⟩
  · obtain ⟨hmem, hunit⟩ := getReferenceByTarget_some hoff
    exact ⟨mem_append_right _ hmem, hunit⟩

theorem found_none
    (h : (s.getReferenceByTarget s.online u).or (s.getReferenceByTarget s.offline u) = none) (r : Nat)
    (hr : Live s r) : (s.refs r).unitGuid ≠ u := by
  obtain ⟨hon, hoff⟩ := or_eq_none_iff.1 h
  rcases mem_append.1 hr with hmem | hmem
  · simpa using find?_eq_none.1 hon r hmem
  · simpa using find?_eq_none.1 hoff r hmem

theorem Consistent.refAddThreat_of (hs : Consistent s) (hr : Live s r) (modThreat : T)
    (howner : ∀ o, W.charmerOrOwner (s.refs r).unitGuid = some o → ∀ (threat : T) (t : ThreatManager U T),
      Consistent t → Evolves t (addThreatTo W o threat t)) : Evolves s (s.refAddThreat W r modThreat) := by
  have hchange := hs.changeThreat W hr modThreat
  unfold refAddThreat
  dsimp only
  have hunit := hchange.unit_eq hr
  generalize s.changeThreat W r modThreat = t at hchange hunit ⊢
  have hrefl : Evolves t t := (SameLists.refl t).evolves hchange.consistent
  refine hchange.trans ?_
  rw [hunit]
  split
  · cases ho : W.charmerOrOwner (s.refs r).unitGuid with
    | none => exact hrefl
    | some o =>
      dsimp only
      rw [ownerThreat_eq]
      split
      · exact howner o ho _ t hchange.consistent
      · exact hrefl
  · exact hrefl

theorem refAddThreat_eq (u : U) (threat : T) {m : ThreatManager U T} (hm : Consistent m) (hr : Live m r)
    (hu : (m.refs r).unitGuid = u) :
    (if (((m.changeThreat W r threat).refs r).valid && A.isNonneg threat) = true then
      match _h : W.charmerOrOwner u with
      | none => m.changeThreat W r threat
      | some o =>
        if (W.isAlive o && isValidProcess W o false) = true then
          addThreatTo W o (W.totalThreatModifier o A.zero) (m.changeThreat W r threat)
        else m.changeThreat W r threat
    else m.changeThreat W r threat) = m.refAddThreat W r threat := by
  have hunit := (hm.changeThreat W hr threat).unit_eq hr
  unfold refAddThreat
  dsimp only
  rw [hunit, hu]
  split
  · split
    · rename_i ho
      rw [ho]
    · rename_i o ho
      rw [ho]
      exact (ownerThreat_eq W _ o).symm
  · rfl

theorem addThreatTo_eq (u : U) (threat : T) (hs : Consistent s) :
    addThreatTo W u threat s =
      match (s.getReferenceByTarget s.online u).or (s.getReferenceByTarget s.offline u) with
      | some r => s.refAddThreat W r threat
      | none =>
        let t := (s.newReference A u).refAddThreat W s.nextRef threat
        if W.isGameMaster u = true then t.setOnlineOfflineState A s.nextRef false else t := by
  rw [addThreatTo]
  cases hf : (s.getReferenceByTarget s.online u).or (s.getReferenceByTarget s.offline u) with
  | some r =>
    obtain ⟨hr, hu⟩ := found_some hf
    dsimp only [getD_some]
    exact refAddThreat_eq W u threat hs hr hu
  | none =>
    obtain ⟨hnew, hr, hu⟩ := hs.newReference (A := A) (found_none hf)
    dsimp only [getD_none]
    have hnextRef := refAddThreat_eq W u threat hnew.consistent hr hu
    by_cases hgm : W.isGameMaster u = true
    · rw [if_pos ⟨rfl, hgm⟩, if_pos hgm]
      exact congrArg (fun t => t.setOnlineOfflineState A s.nextRef false) hnextRef
    · rw [if_neg (fun h => hgm h.2), if_neg hgm]
      exact hnextRef

theorem Consistent.addThreatTo {s : ThreatManager U T} (hs : Consistent s) (u : U) (threat : T) :
    Evolves s (addThreatTo W u threat s) := by
  induction hn : W.rank u using Nat.strongRecOn generalizing u threat s with
  | _ n ih =>
    have howner (o : U) (ho : W.charmerOrOwner u = some o) (threat : T) (t : ThreatManager U T)
        (ht : Consistent t) : Evolves t (ThreatManager.addThreatTo W o threat t) :=
      ih (W.rank o) (hn ▸ W.acyclic ho) ht o threat rfl
    rw [addThreatTo_eq W u threat hs]
    cases hf : (s.getReferenceByTarget s.online u).or (s.getReferenceByTarget s.offline u) with
    | some r =>
      obtain ⟨hr, hu⟩ := found_some hf
      exact hs.refAddThreat_of W hr threat (hu ▸ howner)
    | none =>
      obtain ⟨hnew, hr, hu⟩ := hs.newReference (A := A) (found_none hf)
      have hadd := hnew.consistent.refAddThreat_of W hr threat fun o ho => howner o (by rw [← ho, hu])
      dsimp only
      split
      · have hgm := hadd.consistent.setOnlineOfflineState (A := A) (hadd.live _ hr) false
        exact hnew.trans (hadd.trans hgm)
      · exact hnew.trans hadd

theorem Consistent.refAddThreat (hs : Consistent s) (hr : Live s r)
    (modThreat : T) : Evolves s (s.refAddThreat W r modThreat) :=
  hs.refAddThreat_of W hr modThreat fun o _ threat _ ht => ht.addThreatTo W o threat

theorem Consistent.doAddThreat (hs : Consistent s) (u : U) (threat : T) :
    Consistent (s.doAddThreat W u threat) := by
  unfold ThreatManager.doAddThreat
  split
  · cases W.misdirectionTarget u with
    | none => exact (hs.addThreatTo W u _).consistent
    | some v => exact ((hs.addThreatTo W v _).consistent.addThreatTo W u _).consistent
  · exact (hs.addThreatTo W u threat).consistent

theorem Consistent.addThreat (hs : Consistent s) (u : U) (threat : T)
    (calcThreat : T → T) (noThreat : Bool) : Consistent (s.addThreat W u threat calcThreat noThreat) := by
  unfold ThreatManager.addThreat
  split
  · exact hs.doAddThreat W u _
  · exact hs

/-! ## Taunts and percentages -/

theorem Consistent.addTempThreat (hs : Consistent s) (hr : Live s r)
    (threat : T) : Evolves s (s.addTempThreat W r threat) := by
  unfold ThreatManager.addTempThreat
  have htemp : SameLists s (s.modifyRef r fun ref => { ref with tempThreatModifier := threat }) :=
    sameLists_modifyRef s r (fun _ => rfl) fun _ => rfl
  have h := htemp.evolves hs
  split
  · exact h
  · exact h.trans (h.consistent.refAddThreat W (h.live r hr) threat)

theorem Consistent.resetTempThreat (hs : Consistent s)
    (hr : Live s r) : Evolves s (s.resetTempThreat W r) := by
  unfold ThreatManager.resetTempThreat
  split
  · exact (SameLists.refl s).evolves hs
  · have h := hs.refAddThreat W hr (A.neg (s.refs r).tempThreatModifier)
    have hsame := sameLists_modifyRef (s.refAddThreat W r (A.neg (s.refs r).tempThreatModifier)) r
      (f := fun ref => { ref with tempThreatModifier := A.zero }) (fun _ => rfl) fun _ => rfl
    exact h.trans (hsame.evolves h.consistent)

theorem Consistent.modifyThreatPercent (hs : Consistent s) (u : U)
    (percent : Int) : Consistent (s.modifyThreatPercent W u percent) := by
  unfold ThreatManager.modifyThreatPercent
  cases hf : s.getReferenceByTarget s.online u with
  | none => exact hs
  | some r =>
    have hr : Live s r := mem_append_left _ (getReferenceByTarget_some hf).1
    dsimp only
    split
    · exact (hs.removeReference hr).1
    · exact (hs.refAddThreat W hr _).consistent

theorem Consistent.tauntApply (hs : Consistent s) (u : U) :
    Consistent (s.tauntApply W u) := by
  unfold ThreatManager.tauntApply
  cases hf : s.getReferenceByTarget s.online u with
  | none => exact hs
  | some r =>
    cases s.currentVictim with
    | none => exact hs
    | some v =>
      dsimp only
      split
      · exact (hs.addTempThreat W (mem_append_left _ (getReferenceByTarget_some hf).1) _).consistent
      · exact hs

theorem Consistent.tauntFadeOut (hs : Consistent s) (u : U) :
    Consistent (s.tauntFadeOut W u) := by
  unfold ThreatManager.tauntFadeOut
  cases hf : s.getReferenceByTarget s.online u with
  | none => exact hs
  | some r => exact (hs.resetTempThreat W (mem_append_left _ (getReferenceByTarget_some hf).1)).consistent

end Threat

/-! ## The victim -/

section Victim

variable (W : Surroundings U T A)

variable {r' : Nat} {victim : Option Nat}

theorem prefer_some {r : Nat}
    (h : s.prefer W r victim = some r') : r' = r ∨ victim = some r' := by
  unfold prefer at h
  split at h
  · cases victim with
    | none => exact .inl (some.inj h).symm
    | some v =>
      dsimp only at h
      split at h
      · exact .inr h
      · split at h
        · exact .inl (some.inj h).symm
        · cases h
  · cases h

theorem selectAny_some
    (h : s.selectAny W victim l = some r') : r' ∈ l ∨ victim = some r' := by
  induction l with
  | nil => cases h
  | cons r rest ih =>
    rcases or_eq_some_iff.1 h with hp | ⟨-, hrest⟩
    · exact (prefer_some W hp).imp_left fun (heq : r' = r) => heq ▸ mem_cons_self
    · exact (ih hrest).imp_left (mem_cons_of_mem r)

theorem selectPreferred_some
    (hl : ∀ r ∈ l, r ∈ s.online) (h : s.selectPreferred W victim l = some r') :
    r' ∈ s.online ∨ victim = some r' := by
  induction l generalizing victim with
  | nil => cases h
  | cons r rest ih =>
    have hrest := fun r' hr' => hl r' (mem_cons_of_mem r hr')
    rw [selectPreferred] at h
    split at h
    · split at h
      · exact selectAny_some W h
      · refine (ih hrest h).imp_right fun hv => ?_
        split at hv
        · cases hv
        · exact hv
    · rcases or_eq_some_iff.1 h with hp | ⟨-, hgo⟩
      · exact (prefer_some W hp).imp_left fun (heq : r' = r) => heq ▸ hl r mem_cons_self
      · exact ih hrest hgo

theorem Consistent.update (hs : Consistent s) : Evolves s (s.update A) := by
  unfold ThreatManager.update
  split
  · have hsort := mergeSort_perm s.online fun a b => !A.gt (s.refs b).threat (s.refs a).threat
    refine .of_perm hs (hsort.append_right _) (fun _ => rfl) rfl (fun r hr => ?_) fun r hv => ?_
    · exact hsort.mem_iff.trans (hs.online_iff r ((hsort.append_right _).mem_iff.1 hr))
    · exact hsort.mem_iff.2 (hs.victim r hv)
  · have hsame : SameLists s { s with dirty := false } :=
      ⟨rfl, rfl, rfl, rfl, fun _ => rfl, fun _ => rfl⟩
    exact hsame.evolves hs

theorem Consistent.getHostilTarget (hs : Consistent s) :
    Consistent (s.getHostilTarget W) := by
  have hu := (hs.update (A := A)).consistent
  exact
    { distinct := hu.distinct
      online_iff := hu.online_iff
      victim := fun r hv => (selectPreferred_some W (fun _ h => h) hv).elim id (hu.victim r)
      allocated := hu.allocated }

theorem Consistent.clearReferences (s : ThreatManager U T) : Consistent s.clearReferences where
  distinct := nodup_nil
  online_iff _ hr := absurd hr not_mem_nil
  victim _ hv := nomatch hv
  allocated _ hr := absurd hr not_mem_nil

end Victim

/-! ## Calls from the target, and runs -/

section Run

theorem Consistent.foldl (hs : Consistent s)
    {f : ThreatManager U T → Nat → ThreatManager U T}
    (hf : ∀ t r, Consistent t → Live t r → Evolves t (f t r)) (hl : ∀ r ∈ l, Live s r) :
    Consistent (l.foldl f s) := by
  induction l generalizing s with
  | nil => exact hs
  | cons r l ih =>
    have h := hf s r hs (hl r mem_cons_self)
    exact ih h.consistent fun r' hr' => h.live r' (hl r' (mem_cons_of_mem r hr'))

theorem Consistent.foldl_removeReference (hs : Consistent s)
    (hnodup : l.Nodup) (hl : ∀ r ∈ l, Live s r) :
    Consistent (l.foldl (fun s r => s.removeReference A r) s) := by
  induction l generalizing s with
  | nil => exact hs
  | cons r l ih =>
    obtain ⟨hnot, hrest⟩ := nodup_cons.1 hnodup
    obtain ⟨hremoved, hlive⟩ := hs.removeReference (A := A) (hl r mem_cons_self)
    refine ih hremoved hrest fun r' hr' => hlive r' (hl r' (mem_cons_of_mem r hr')) ?_
    exact fun heq => hnot (heq ▸ hr')

variable [DecidableEq U]

theorem live_of_mem_linked {u : U} {r : Nat} (hr : r ∈ s.linked u) : Live s r :=
  mem_of_mem_filter hr

/-- No call of the manager, and no event it passes on, breaks the lists. -/
theorem Consistent.step (hs : Consistent s) (e : Surroundings U T A × Event U T) :
    Consistent (s.step e) := by
  obtain ⟨W, e⟩ := e
  have hlinked (u : U) : ∀ r ∈ s.linked u, Live s r := fun _ => live_of_mem_linked
  cases e with
  | addThreat u threat calcThreat noThreat => exact hs.addThreat W u threat calcThreat noThreat
  | doAddThreat u threat => exact hs.doAddThreat W u threat
  | modifyThreatPercent u percent => exact hs.modifyThreatPercent W u percent
  | setOnlineOfflineState u isOnline =>
    exact hs.foldl (fun _ _ ht hr => ht.setOnlineOfflineState hr isOnline) (hlinked u)
  | updateThreatTables u => exact hs.foldl (fun _ _ ht hr => ht.updateOnlineStatus W hr) (hlinked u)
  | deleteReferences u => exact hs.foldl_removeReference (hs.nodup.filter _) (hlinked u)
  | addTempThreat u threat =>
    refine hs.foldl (fun t r ht hr => ?_) (hlinked u)
    split
    · exact ht.addTempThreat W hr threat
    · exact (SameLists.refl t).evolves ht
  | resetTempThreat u => exact hs.foldl (fun _ _ ht hr => ht.resetTempThreat W hr) (hlinked u)
  | addThreatPercent u percent => exact hs.foldl (fun _ _ ht hr => ht.refAddThreat W hr _) (hlinked u)
  | tauntApply u => exact hs.tauntApply W u
  | tauntFadeOut u => exact hs.tauntFadeOut W u
  | forceVictim u =>
    unfold ThreatManager.step
    dsimp only
    cases hf : s.getReferenceByTarget s.online u with
    | none => exact hs
    | some r =>
      exact
        { distinct := hs.distinct
          online_iff := hs.online_iff
          victim := fun r' hv => some.inj hv ▸ (getReferenceByTarget_some hf).1
          allocated := hs.allocated }
  | getHostilTarget => exact hs.getHostilTarget W
  | clearReferences => exact .clearReferences s

/-- **The threat lists.** After any calls on a new creature, in any surroundings, no unit has two references, a
reference is in the online container exactly when it is online, and the current victim is a reference of the
online container. -/
theorem threat_lists_consistent (refs : Nat → HostileReference U T)
    (es : List (Surroundings U T A × Event U T)) :
    let s := Run.run step (start refs) es
    (∀ r₁ ∈ s.online ++ s.offline, ∀ r₂ ∈ s.online ++ s.offline,
        (s.refs r₁).unitGuid = (s.refs r₂).unitGuid → r₁ = r₂) ∧
      (s.online ++ s.offline).Nodup ∧
      (∀ r ∈ s.online ++ s.offline, r ∈ s.online ↔ (s.refs r).online = true) ∧
      (s.currentVictim = none ∨ ∃ r ∈ s.online, s.currentVictim = some r) := by
  intro s
  have hstart : Consistent (start refs) := Consistent.clearReferences (start refs)
  have hs : Consistent s := Run.AllSteps.invariant (fun _ e ht _ => ht.step e) hstart (Run.allSteps_true ..)
  refine ⟨fun r₁ h₁ r₂ h₂ => inj_on_of_nodup_map hs.distinct h₁ h₂, hs.nodup,
    fun r hr => hs.online_iff r hr, ?_⟩
  cases hv : s.currentVictim with
  | none => exact .inl rfl
  | some r => exact .inr ⟨r, hs.victim r hv, rfl⟩

end Run

end Axium.Combat.ThreatManager
