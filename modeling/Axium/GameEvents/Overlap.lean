import Axium.GameEvents.Effects
import Axium.Lib.Run
import Mathlib.Algebra.BigOperators.Group.Finset.Basic

/-!
# Events that overlap

What game events do to the world depends on which of them are active, however they were started and stopped,
as long as they are kept apart where starting and stopping are not inverse: no pools, no quest of a stopped event that
another active one gives, no creature or gameobject absent in one active event and listed for another, one entry
for the model of a creature, and a model and equipment that can be restored (**`effects_depend_on_active`**).
-/

namespace Axium.GameEvents

open Run List Function OrdMap Scene

variable {t : EffectTables} {env : Surroundings} {s s₀ : Scene} {e e' guid : Nat}

/-- An id that is one as `int16`. -/
def Id (e : Nat) : Prop := 1 ≤ e ∧ e < 2 ^ 15

instance : Decidable (Id e) := inferInstanceAs (Decidable (_ ∧ _))

theorem int16_of_id (he : Id e) : int16 e = e := by
  unfold int16
  rw [Int.bmod_def]
  have := he.2
  split <;> omega

theorem int16_neg_of_id (he : Id e) : int16 (-e) = -e := by
  unfold int16
  rw [Int.bmod_def]
  have := he.2
  split <;> omega

/-! ## Spawns -/

section Spawns
variable {hasData : Nat → Bool} {guids : Int → List Nat} {grid base : OrdMap Nat Unit} {active : Finset Nat}

theorem contains_spawnAll {l : List Nat} : (spawnAll hasData l grid).contains guid = true ↔
    grid.contains guid = true ∨ (hasData guid = true ∧ guid ∈ l) := by
  induction l generalizing grid with
  | nil => simp [spawnAll]
  | cons g l ih =>
    have hstep : spawnAll hasData (g :: l) grid =
        spawnAll hasData l (if hasData g then grid.insert g () else grid) := rfl
    rw [hstep, ih, mem_cons]
    by_cases hg : hasData g = true
    · rw [if_pos hg, OrdMap.contains_insert, Bool.or_eq_true, decide_eq_true_iff]
      constructor
      · rintro ((rfl | h) | h)
        · exact .inr ⟨hg, .inl rfl⟩
        · exact .inl h
        · exact .inr ⟨h.1, .inr h.2⟩
      · rintro (h | ⟨h, rfl | hl⟩)
        · exact .inl (.inr h)
        · exact .inl (.inl rfl)
        · exact .inr ⟨h, hl⟩
    · rw [if_neg hg]
      refine or_congr_right (and_congr_right fun h => (or_iff_right ?_).symm)
      rintro rfl
      exact hg h

theorem contains_unspawnAll {needed : Nat → Bool} {l : List Nat} :
    (unspawnAll hasData needed l grid).contains guid = true ↔
      grid.contains guid = true ∧ ¬ (hasData guid = true ∧ needed guid = false ∧ guid ∈ l) := by
  induction l generalizing grid with
  | nil => simp [unspawnAll]
  | cons g l ih =>
    have hstep : unspawnAll hasData needed (g :: l) grid =
        unspawnAll hasData needed l (if !needed g && hasData g then grid.erase g else grid) := rfl
    rw [hstep, ih, mem_cons]
    by_cases hg : needed g = false ∧ hasData g = true
    · rw [if_pos (by simp [hg]), contains_erase, Bool.and_eq_true, Bool.not_eq_true', decide_eq_false_iff_not]
      constructor
      · rintro ⟨⟨hne, h⟩, hl⟩
        exact ⟨h, fun hin => hl ⟨hin.1, hin.2.1, hin.2.2.resolve_left fun heq => hne heq.symm⟩⟩
      · rintro ⟨h, hl⟩
        exact ⟨⟨fun heq => hl (heq ▸ ⟨hg.2, hg.1, .inl rfl⟩), h⟩, fun hin => hl ⟨hin.1, hin.2.1, .inr hin.2.2⟩⟩
    · rw [if_neg (by simpa using hg)]
      refine and_congr_right fun _ => not_congr (and_congr_right fun h => and_congr_right fun hneed =>
        (or_iff_right ?_).symm)
      rintro rfl
      exact hg ⟨hneed, h⟩

/-- Before the first start what is absent in an event is spawned, and what is only there in events is not. -/
structure Unstarted (guids : Int → List Nat) (hasData : Nat → Bool) (base : OrdMap Nat Unit) : Prop where
  absent : ∀ e guid, Id e → hasData guid = true → guid ∈ guids (-(e : Int)) → base.contains guid = true
  present : ∀ e guid, Id e → hasData guid = true → guid ∈ guids e → (∀ e', Id e' → guid ∉ guids (-(e' : Int))) →
    base.contains guid = false

def Shown (guids : Int → List Nat) (hasData : Nat → Bool) (base : OrdMap Nat Unit) (active : Finset Nat)
    (guid : Nat) : Prop :=
  if hasData guid = true then
    (base.contains guid = true ∨ ∃ e ∈ active, guid ∈ guids (e : Nat)) ∧ ∀ e ∈ active, guid ∉ guids (-(e : Int))
  else base.contains guid = true

/-- What a start spawns is absent in no active event, unless it is absent in the event itself. -/
def MayShow (guids : Int → List Nat) (hasData : Nat → Bool) (active : Finset Nat) (e : Nat) : Prop :=
  ∀ guid ∈ guids e, hasData guid = true → guid ∉ guids (-(e : Int)) → ∀ e' ∈ active, guid ∉ guids (-(e' : Int))

/-- What a stop spawns again is absent in no other active event, and what it removes is not there without events. -/
structure MayHide (guids : Int → List Nat) (hasData : Nat → Bool) (active : Finset Nat) (e : Nat) : Prop where
  again : ∀ guid ∈ guids (-(e : Int)), hasData guid = true → ∀ e' ∈ active, e' ≠ e → guid ∉ guids (-(e' : Int))
  gone : ∀ guid ∈ guids e, hasData guid = true → guid ∉ guids (-(e : Int)) →
    (∀ e' ∈ active, e' ≠ e → guid ∉ guids e') → ∀ e', Id e' → guid ∈ guids (-(e' : Int)) → e' ∈ active

theorem shown_start (hmay : MayShow guids hasData active e)
    (h : ∀ guid, grid.contains guid = true ↔ Shown guids hasData base active guid) (guid : Nat) :
    (unspawnAll hasData (fun _ => false) (guids (-(e : Int))) (spawnAll hasData (guids e) grid)).contains guid =
      true ↔ Shown guids hasData base (insert e active) guid := by
  rw [contains_unspawnAll, contains_spawnAll, h guid]
  unfold Shown
  by_cases hdata : hasData guid = true
  swap
  · simp [hdata]
  simp only [hdata, if_true, true_and, Finset.mem_insert]
  constructor
  · rintro ⟨hon, hoff⟩
    have hoff : guid ∉ guids (-(e : Int)) := hoff
    rcases hon with ⟨hon, habsent⟩ | hlisted
    · refine ⟨hon.imp_right fun ⟨e', he', hin⟩ => ⟨e', .inr he', hin⟩, ?_⟩
      rintro e' (rfl | he')
      · exact hoff
      · exact habsent e' he'
    · refine ⟨.inr ⟨e, .inl rfl, hlisted⟩, ?_⟩
      rintro e' (rfl | he')
      · exact hoff
      · exact hmay guid hlisted hdata hoff e' he'
  · rintro ⟨hon, habsent⟩
    refine ⟨?_, habsent e (.inl rfl)⟩
    rcases hon with hbase | ⟨e', rfl | he', hin⟩
    · exact .inl ⟨.inl hbase, fun e' he' => habsent e' (.inr he')⟩
    · exact .inr hin
    · exact .inl ⟨.inr ⟨e', he', hin⟩, fun e' he' => habsent e' (.inr he')⟩

theorem shown_stop (hbase : Unstarted guids hasData base) (he : Id e) (hmay : MayHide guids hasData active e)
    (h : ∀ guid, grid.contains guid = true ↔ Shown guids hasData base active guid) (guid : Nat) :
    (spawnAll hasData (guids (-(e : Int))) (unspawnAll hasData
      (fun guid => hasActiveEventExcept guids (active.erase e) guid e) (guids e) grid)).contains guid = true ↔
        Shown guids hasData base (active.erase e) guid := by
  rw [contains_spawnAll, contains_unspawnAll, h guid]
  unfold Shown
  by_cases hdata : hasData guid = true
  swap
  · simp [hdata]
  have hneeded : hasActiveEventExcept guids (active.erase e) guid e = false ↔
      ¬ ∃ e' ∈ active.erase e, guid ∈ guids (e' : Nat) := by
    unfold hasActiveEventExcept
    rw [decide_eq_false_iff_not]
    refine not_congr (exists_congr fun e' => and_congr_right fun he' => and_iff_right ?_)
    exact fun heq => (Finset.mem_erase.1 he').1 (Int.natCast_inj.1 heq)
  simp only [hdata, if_true, true_and, hneeded]
  constructor
  · rintro (⟨⟨hon, habsent⟩, hkept⟩ | habsent)
    · refine ⟨?_, fun e' he' => habsent e' (Finset.mem_of_mem_erase he')⟩
      rcases hon with hon | ⟨e', he', hin⟩
      · exact .inl hon
      · by_cases heq : e' = e
        · subst heq
          exact .inr (not_not.1 fun hnone => hkept ⟨hnone, hin⟩)
        · exact .inr ⟨e', Finset.mem_erase.2 ⟨heq, he'⟩, hin⟩
    · refine ⟨.inl (hbase.absent e guid he hdata habsent), fun e' he' => ?_⟩
      obtain ⟨hne, he'⟩ := Finset.mem_erase.1 he'
      exact hmay.again guid habsent hdata e' he' hne
  · rintro ⟨hon, habsent⟩
    by_cases hlisted : guid ∈ guids (-(e : Int))
    · exact .inr hlisted
    refine .inl ⟨⟨hon.imp_right fun ⟨e', he', hin⟩ => ⟨e', Finset.mem_of_mem_erase he', hin⟩, ?_⟩, ?_⟩
    · intro e' he' hin
      by_cases heq : e' = e
      · exact hlisted (heq ▸ hin)
      · exact habsent e' (Finset.mem_erase.2 ⟨heq, he'⟩) hin
    · rintro ⟨hnone, hin⟩
      refine absurd (hon.resolve_right hnone) (Bool.eq_false_iff.1 (hbase.present e guid he hdata hin ?_))
      intro e' he' habs
      -- `e'` is active, so the guid would be absent after the stop.
      have hactive := hmay.gone guid hin hdata hlisted
        (fun e' he' hne hin => hnone ⟨e', Finset.mem_erase.2 ⟨hne, he'⟩, hin⟩) e' he' habs
      have hne : e' ≠ e := by
        rintro rfl
        exact hlisted habs
      exact habsent e' (Finset.mem_erase.2 ⟨hne, hactive⟩) habs

end Spawns

/-! ## Quests -/

section Quests
variable {quests : Nat → List (Nat × Nat)} {active : Finset Nat} {relation base : Multiset (Nat × Nat)}

def MayForget (quests : Nat → List (Nat × Nat)) (active : Finset Nat) (e : Nat) : Prop :=
  ∀ pair ∈ quests e, hasQuestActiveEventExcept quests active pair.2 e = false

theorem updateQuests_start : updateQuests quests active e true relation = relation + ↑(quests e) := by
  unfold updateQuests
  induction quests e generalizing relation with
  | nil => simp
  | cons pair l ih => rw [foldl_cons, if_pos rfl, ih, ← Multiset.cons_coe, Multiset.add_cons, Multiset.cons_add]

theorem updateQuests_stop (hmay : MayForget quests active e) :
    updateQuests quests active e false (relation + ↑(quests e)) = relation := by
  have hfold : ∀ l : List (Nat × Nat), (∀ pair ∈ l, hasQuestActiveEventExcept quests active pair.2 e = false) →
      l.foldl (fun relation pair =>
        if false then pair ::ₘ relation
        else if hasQuestActiveEventExcept quests active pair.2 e then relation
        else relation.erase pair) (relation + (l : Multiset (Nat × Nat))) = relation := by
    intro l hl
    induction l with
    | nil => simp
    | cons pair l ih =>
      have hpair := hl pair mem_cons_self
      rw [foldl_cons, hpair, ← Multiset.cons_coe, Multiset.add_cons, Multiset.erase_cons_head]
      exact ih fun pair hin => hl pair (mem_cons_of_mem _ hin)
  exact hfold (quests e) hmay

def related (quests : Nat → List (Nat × Nat)) (base : Multiset (Nat × Nat)) (active : Finset Nat) :
    Multiset (Nat × Nat) :=
  base + ∑ e ∈ active, (quests e : Multiset (Nat × Nat))

theorem related_start (hnew : e ∉ active) :
    updateQuests quests (insert e active) e true (related quests base active) =
      related quests base (insert e active) := by
  rw [updateQuests_start, related, related, Finset.sum_insert hnew, add_assoc, add_comm (∑ _ ∈ _, _)]

theorem related_stop (hactive : e ∈ active) (hmay : MayForget quests (active.erase e) e) :
    updateQuests quests (active.erase e) e false (related quests base active) =
      related quests base (active.erase e) := by
  have hsplit : related quests base active = related quests base (active.erase e) + ↑(quests e) := by
    rw [related, related, add_assoc, Finset.sum_erase_add _ _ hactive]
  rw [hsplit, updateQuests_stop hmay]

end Quests

/-! ## Models and equipment -/

section Display
variable {activate : Bool} {l : List (Nat × ModelEquip)} {live : Nat → Option LiveCreature}
  {store : OrdMap Nat CreatureData} {m : ModelEquip}

/-- What an entry says that `ChangeEquipOrModel` does not write. -/
def worn (entry : Nat × ModelEquip) : Nat × Nat × Nat := (entry.1, entry.2.modelid, entry.2.equipmentId)

/-- The entry of a creature after `ChangeEquipOrModel`. -/
def changed (t : EffectTables) (env : Surroundings) (activate : Bool) (live : Option LiveCreature) (guid : Nat)
    (data : CreatureData) (m : ModelEquip) : ModelEquip :=
  if activate then savePrevious t env live guid data m else m

theorem worn_changed {c : Option LiveCreature} {data : CreatureData} :
    worn (guid, changed t env activate c guid data m) = worn (guid, m) := by
  unfold changed savePrevious
  split
  · split <;> rfl
  · rfl

theorem changeList_cons_of_none (h : store.find? guid = none) :
    changeList t env activate ((guid, m) :: l) live store =
      ((guid, m) :: (changeList t env activate l live store).1, (changeList t env activate l live store).2) := by
  rw [changeList, h]

def liveAfter (t : EffectTables) (activate : Bool) (live : Nat → Option LiveCreature) (guid : Nat)
    (m : ModelEquip) : Nat → Option LiveCreature :=
  Function.update live guid ((live guid).map fun c => changeLive t activate c m)

theorem changeList_cons_of_some {data : CreatureData} (h : store.find? guid = some data) :
    let m' := changed t env activate (live guid) guid data m
    let rest := changeList t env activate l (liveAfter t activate live guid m')
      (store.insert guid (dress activate data m'))
    changeList t env activate ((guid, m) :: l) live store = ((guid, m') :: rest.1, rest.2) := by
  rw [changeList, h]
  rfl

theorem map_worn_changeList : (changeList t env activate l live store).1.map worn = l.map worn := by
  induction l generalizing live store with
  | nil => rfl
  | cons entry l ih =>
    obtain ⟨guid, m⟩ := entry
    cases h : store.find? guid with
    | none => rw [changeList_cons_of_none h, map_cons, map_cons, ih]
    | some data => rw [changeList_cons_of_some h, map_cons, map_cons, ih, worn_changed]

theorem find?_changeList_of_notMem (hnot : guid ∉ l.map Prod.fst) :
    (changeList t env activate l live store).2.find? guid = store.find? guid := by
  induction l generalizing live store with
  | nil => rfl
  | cons entry l ih =>
    obtain ⟨g, m⟩ := entry
    obtain ⟨hne, hnot⟩ : guid ≠ g ∧ guid ∉ l.map Prod.fst := by simpa using hnot
    cases h : store.find? g with
    | none =>
      rw [changeList_cons_of_none h]
      exact ih hnot
    | some data =>
      rw [changeList_cons_of_some h]
      exact (ih hnot).trans (find?_insert_ne _ _ hne.symm)

theorem find?_changeList_of_mem (hnodup : (l.map Prod.fst).Nodup)
    (hin : (guid, m) ∈ (changeList t env activate l live store).1) :
    ∃ m₀, (guid, m₀) ∈ l ∧
      (changeList t env activate l live store).2.find? guid = (store.find? guid).map (dress activate · m) ∧
      ∀ data, store.find? guid = some data → m = changed t env activate (live guid) guid data m₀ := by
  induction l generalizing live store with
  | nil => exact absurd hin not_mem_nil
  | cons entry l ih =>
    obtain ⟨g, m₁⟩ := entry
    obtain ⟨hg, hnodup⟩ := nodup_cons.1 hnodup
    have hrest : ∀ {live : Nat → Option LiveCreature} {store : OrdMap Nat CreatureData},
        (guid, m) ∈ (changeList t env activate l live store).1 → guid ≠ g := by
      rintro live store hlater rfl
      have hworn := mem_map_of_mem (f := worn) hlater
      rw [map_worn_changeList] at hworn
      obtain ⟨entry, hentry, heq⟩ := mem_map.1 hworn
      exact hg (mem_map.2 ⟨entry, hentry, (Prod.mk.inj heq).1⟩)
    cases h : store.find? g with
    | none =>
      rw [changeList_cons_of_none h] at hin ⊢
      rcases mem_cons.1 hin with heq | hin
      · obtain ⟨rfl, rfl⟩ := Prod.mk.inj heq
        refine ⟨m, mem_cons_self, ?_, fun data hdata => absurd (hdata.symm.trans h) nofun⟩
        rw [find?_changeList_of_notMem hg, h]
        rfl
      · obtain ⟨m₀, hm₀, hfind, hsaved⟩ := ih hnodup hin
        exact ⟨m₀, mem_cons_of_mem _ hm₀, hfind, hsaved⟩
    | some data =>
      rw [changeList_cons_of_some h] at hin ⊢
      rcases mem_cons.1 hin with heq | hin
      · obtain ⟨rfl, rfl⟩ := Prod.mk.inj heq
        refine ⟨m₁, mem_cons_self, ?_, ?_⟩
        · rw [find?_changeList_of_notMem hg, find?_insert_self, h]
          rfl
        · intro data' hdata
          rw [Option.some.inj (h.symm.trans hdata)]
      · have hne := hrest hin
        obtain ⟨m₀, hm₀, hfind, hsaved⟩ := ih hnodup hin
        rw [find?_insert_ne _ _ hne.symm] at hfind hsaved
        rw [liveAfter, update_of_ne hne] at hsaved
        exact ⟨m₀, mem_cons_of_mem _ hm₀, hfind, hsaved⟩

theorem map_fst_of_worn {l' : List (Nat × ModelEquip)} (h : l.map worn = l'.map worn) :
    l.map Prod.fst = l'.map Prod.fst := by
  have hfst := congrArg (List.map Prod.fst) h
  rwa [map_map, map_map] at hfst

theorem mem_changeList (h : guid ∈ l.map Prod.fst) : ∃ m, (guid, m) ∈ (changeList t env activate l live store).1 := by
  have hworn : (changeList t env activate l live store).1.map worn = l.map worn := map_worn_changeList
  rw [← map_fst_of_worn hworn] at h
  obtain ⟨⟨g, m⟩, hentry, rfl⟩ := mem_map.1 h
  exact ⟨m, hentry⟩

theorem find?_changeList_of_none (hnodup : (l.map Prod.fst).Nodup) (hnone : store.find? guid = none) :
    (changeList t env activate l live store).2.find? guid = none := by
  by_cases hin : guid ∈ l.map Prod.fst
  · obtain ⟨m, hm⟩ := mem_changeList (t := t) hin
    obtain ⟨m₀, -, hfind, -⟩ := find?_changeList_of_mem hnodup hm
    rw [hfind, hnone]
    rfl
  · rw [find?_changeList_of_notMem hin, hnone]

/-- What is stored for a creature wears the model of the one active event that has it in its list. -/
structure Dressed (s₀ : Scene) (active : Finset Nat) (equip : Nat → List (Nat × ModelEquip))
    (store : OrdMap Nat CreatureData) : Prop where
  entries : ∀ e, (equip e).map worn = (s₀.modelEquip e).map worn
  bare : ∀ guid, (∀ e ∈ active, guid ∉ (equip e).map Prod.fst) →
    store.find? guid = s₀.creatureData.find? guid
  dressed : ∀ e ∈ active, ∀ guid m, (guid, m) ∈ equip e →
    store.find? guid = (s₀.creatureData.find? guid).map (dress true · m)
  back : ∀ e ∈ active, ∀ guid m, (guid, m) ∈ equip e → ∀ data, s₀.creatureData.find? guid = some data →
    dress false data m = data
  nodup : ∀ e ∈ active, ((equip e).map Prod.fst).Nodup
  alone : ∀ e ∈ active, ∀ e' ∈ active, ∀ guid, guid ∈ (equip e).map Prod.fst → guid ∈ (equip e').map Prod.fst →
    s₀.hasCreature guid = true → e = e'

/-- A creature in the world looks like what is stored for it. For one that is not, model and equipment are stored
and not left to the template or the dice. -/
def Restorable (t : EffectTables) (env : Surroundings) (guid : Nat) (data : CreatureData) (m : ModelEquip) : Prop :=
  match env.live guid with
  | some c => c.displayId = data.displayid ∧ Int.bmod c.currentEquipmentId (2 ^ 32) = data.equipmentId
  | none =>
    chooseDisplay t env guid data = data.displayid ∧
      if data.equipmentId = 0 then Int.bmod (t.templateEquipment data.id) (2 ^ 32) = 0
      else if data.equipmentId = -1 then Int.bmod m.equipmentIdPrev (2 ^ 32) = -1
      else Int.bmod data.equipmentId (2 ^ 32) = data.equipmentId

theorem dress_savePrevious {data : CreatureData} (h : Restorable t env guid data m) :
    dress false data (savePrevious t env (env.live guid) guid data m) = data := by
  unfold Restorable at h
  obtain ⟨id, displayid, equipmentId⟩ := data
  cases hlive : env.live guid with
  | some c =>
    rw [hlive] at h
    obtain ⟨rfl, rfl⟩ := h
    rfl
  | none =>
    rw [hlive] at h
    obtain ⟨hdisplay, hequip⟩ := h
    simp only [dress, savePrevious, Bool.false_eq_true, if_false, hdisplay, CreatureData.mk.injEq, true_and]
    by_cases hzero : equipmentId = 0
    · subst hzero
      rwa [if_pos rfl] at hequip
    by_cases hnone : equipmentId = -1
    · subst hnone
      rw [if_neg hzero, if_neg (not_not.2 rfl), hequip]
    · rw [if_neg hzero, if_neg hnone] at hequip
      have hmod : Int.bmod (equipmentId % 2 ^ 32) (2 ^ 32) = Int.bmod equipmentId (2 ^ 32) := Int.emod_bmod _ (2 ^ 32)
      rw [if_neg hzero, if_pos hnone, Int.toNat_of_nonneg (Int.emod_nonneg _ (by decide)), hmod, hequip]

/-- What a start dresses is one entry for each creature, no active event dresses it, and what is stored for it
can be restored. -/
structure MayDress (t : EffectTables) (env : Surroundings) (s : Scene) (e : Nat) : Prop where
  nodup : ((s.modelEquip e).map Prod.fst).Nodup
  alone : ∀ guid ∈ (s.modelEquip e).map Prod.fst, s.hasCreature guid = true →
    ∀ e' ∈ s.active, guid ∉ (s.modelEquip e').map Prod.fst
  saved : ∀ guid m, (guid, m) ∈ s.modelEquip e → ∀ data, s.creatureData.find? guid = some data →
    Restorable t env guid data m

namespace Dressed
variable {active : Finset Nat} {equip : Nat → List (Nat × ModelEquip)}

theorem find?_eq_none (h : Dressed s₀ active equip store) :
    store.find? guid = none ↔ s₀.creatureData.find? guid = none := by
  by_cases hbare : ∀ e ∈ active, guid ∉ (equip e).map Prod.fst
  · rw [h.bare guid hbare]
  · obtain ⟨e, he, hin⟩ : ∃ e ∈ active, guid ∈ (equip e).map Prod.fst := by simpa using hbare
    obtain ⟨⟨g, m⟩, hm, rfl⟩ := mem_map.1 hin
    rw [h.dressed e he g m hm, Option.map_eq_none_iff]

theorem contains_eq (h : Dressed s₀ active equip store) (guid : Nat) :
    store.contains guid = s₀.hasCreature guid := by
  unfold hasCreature OrdMap.contains
  rw [Bool.eq_iff_iff, Option.isSome_iff_ne_none, Option.isSome_iff_ne_none, ne_eq, h.find?_eq_none]

end Dressed

theorem find?_changeList_of_alone (hnodup : (l.map Prod.fst).Nodup)
    (halone : guid ∈ l.map Prod.fst → store.find? guid = none) :
    (changeList t env activate l live store).2.find? guid = store.find? guid := by
  by_cases hin : guid ∈ l.map Prod.fst
  · rw [find?_changeList_of_none hnodup (halone hin), halone hin]
  · exact find?_changeList_of_notMem hin

theorem worn_update {equip equip₀ : Nat → List (Nat × ModelEquip)}
    (h : ∀ e, (equip e).map worn = (equip₀ e).map worn) (e' : Nat) :
    (Function.update equip e (changeList t env activate (equip e) live store).1 e').map worn =
      (equip₀ e').map worn := by
  by_cases heq : e' = e
  · subst heq
    rw [update_self, map_worn_changeList, h]
  · rw [update_of_ne heq, h]

theorem map_fst_update {equip : Nat → List (Nat × ModelEquip)} (e' : Nat) :
    (Function.update equip e (changeList t env activate (equip e) live store).1 e').map Prod.fst =
      (equip e').map Prod.fst :=
  map_fst_of_worn (worn_update (fun _ => rfl) e')

theorem Dressed.start (h : Dressed s₀ s.active s.modelEquip s.creatureData) (hnew : e ∉ s.active)
    (hmay : MayDress t env s e) :
    Dressed s₀ (insert e s.active)
      (Function.update s.modelEquip e (changeList t env true (s.modelEquip e) env.live s.creatureData).1)
      (changeList t env true (s.modelEquip e) env.live s.creatureData).2 := by
  have hne : ∀ e' ∈ s.active, e' ≠ e := fun e' he' heq => hnew (heq ▸ he')
  have hother : ∀ e' ∈ s.active, ∀ guid, guid ∈ (s.modelEquip e').map Prod.fst →
      guid ∈ (s.modelEquip e).map Prod.fst → s.creatureData.find? guid = none := by
    intro e' he' guid hin' hin
    by_contra hsome
    exact hmay.alone guid hin (Option.isSome_iff_ne_none.2 hsome) e' he' hin'
  -- A creature that is dressed now was not before.
  have hbare : ∀ guid ∈ (s.modelEquip e).map Prod.fst,
      s.creatureData.find? guid = s₀.creatureData.find? guid := by
    intro guid hin
    cases hsome : s.creatureData.find? guid with
    | none => exact (h.find?_eq_none.1 hsome).symm
    | some data =>
      rw [← hsome]
      exact h.bare guid (hmay.alone guid hin (Option.isSome_iff_exists.2 ⟨data, hsome⟩))
  have hfst : ∀ {guid m}, (guid, m) ∈ (changeList t env true (s.modelEquip e) env.live s.creatureData).1 →
      guid ∈ (s.modelEquip e).map Prod.fst := by
    intro guid m hin
    have hworn : (changeList t env true (s.modelEquip e) env.live s.creatureData).1.map worn =
        (s.modelEquip e).map worn := map_worn_changeList
    rw [← map_fst_of_worn hworn]
    exact mem_map_of_mem hin
  constructor
  · exact worn_update h.entries
  · intro guid hnot
    simp only [map_fst_update] at hnot
    rw [find?_changeList_of_notMem (hnot e (Finset.mem_insert_self ..))]
    exact h.bare guid fun e' he' => hnot e' (Finset.mem_insert_of_mem he')
  · intro e' he' guid m hin
    rcases Finset.mem_insert.1 he' with rfl | he'
    · rw [update_self] at hin
      obtain ⟨m₀, hm₀, hfind, -⟩ := find?_changeList_of_mem hmay.nodup hin
      rw [hfind, hbare guid (hfst hin)]
    · rw [update_of_ne (hne e' he')] at hin
      rw [find?_changeList_of_alone hmay.nodup (hother e' he' guid (mem_map_of_mem hin))]
      exact h.dressed e' he' guid m hin
  · intro e' he' guid m hin data hdata
    rcases Finset.mem_insert.1 he' with rfl | he'
    · rw [update_self] at hin
      obtain ⟨m₀, hm₀, -, hsaved⟩ := find?_changeList_of_mem hmay.nodup hin
      have hdata := (hbare guid (hfst hin)).trans hdata
      rw [hsaved data hdata]
      exact dress_savePrevious (hmay.saved guid m₀ hm₀ data hdata)
    · rw [update_of_ne (hne e' he')] at hin
      exact h.back e' he' guid m hin data hdata
  · intro e' he'
    rw [map_fst_update]
    rcases Finset.mem_insert.1 he' with rfl | he'
    · exact hmay.nodup
    · exact h.nodup e' he'
  · intro e₁ he₁ e₂ he₂ guid hin₁ hin₂ hdata
    rw [map_fst_update] at hin₁ hin₂
    have hsome : s.creatureData.find? guid ≠ none :=
      Option.isSome_iff_ne_none.1 ((h.contains_eq guid).trans hdata)
    rcases Finset.mem_insert.1 he₁ with rfl | h₁ <;> rcases Finset.mem_insert.1 he₂ with rfl | h₂
    · rfl
    · exact absurd (hother e₂ h₂ guid hin₂ hin₁) hsome
    · exact absurd (hother e₁ h₁ guid hin₁ hin₂) hsome
    · exact h.alone e₁ h₁ e₂ h₂ guid hin₁ hin₂ hdata

theorem Dressed.stop (h : Dressed s₀ s.active s.modelEquip s.creatureData) (hactive : e ∈ s.active) :
    Dressed s₀ (s.active.erase e)
      (Function.update s.modelEquip e (changeList t env false (s.modelEquip e) env.live s.creatureData).1)
      (changeList t env false (s.modelEquip e) env.live s.creatureData).2 := by
  have hnodup := h.nodup e hactive
  have hother : ∀ e' ∈ s.active.erase e, ∀ guid, guid ∈ (s.modelEquip e').map Prod.fst →
      guid ∈ (s.modelEquip e).map Prod.fst → s.creatureData.find? guid = none := by
    intro e' he' guid hin' hin
    obtain ⟨hne, he'⟩ := Finset.mem_erase.1 he'
    by_contra hsome
    refine hne (h.alone e' he' e hactive guid hin' hin ?_)
    rw [← h.contains_eq]
    exact Option.isSome_iff_ne_none.2 hsome
  constructor
  · exact worn_update h.entries
  · intro guid hnot
    simp only [map_fst_update] at hnot
    by_cases hin : guid ∈ (s.modelEquip e).map Prod.fst
    · obtain ⟨m, hm⟩ := mem_changeList (t := t) hin
      obtain ⟨m₀, hm₀, hfind, hsaved⟩ := find?_changeList_of_mem hnodup hm
      have hworn := h.dressed e hactive guid m₀ hm₀
      rw [hfind, hworn]
      cases hdata : s₀.creatureData.find? guid with
      | none => rfl
      | some data =>
        rw [hdata] at hworn
        obtain rfl : m = m₀ := hsaved _ hworn
        exact congrArg some (h.back e hactive guid m hm₀ data hdata)
    · rw [find?_changeList_of_notMem hin]
      refine h.bare guid fun e' he' => ?_
      by_cases heq : e' = e
      · exact heq ▸ hin
      · exact hnot e' (Finset.mem_erase.2 ⟨heq, he'⟩)
  · intro e' he' guid m hin
    rw [update_of_ne (Finset.ne_of_mem_erase he')] at hin
    rw [find?_changeList_of_alone hnodup (hother e' he' guid (mem_map_of_mem hin))]
    exact h.dressed e' (Finset.mem_of_mem_erase he') guid m hin
  · intro e' he' guid m hin
    rw [update_of_ne (Finset.ne_of_mem_erase he')] at hin
    exact h.back e' (Finset.mem_of_mem_erase he') guid m hin
  · intro e' he'
    rw [map_fst_update]
    exact h.nodup e' (Finset.mem_of_mem_erase he')
  · intro e₁ he₁ e₂ he₂ guid hin₁ hin₂
    rw [map_fst_update] at hin₁ hin₂
    exact h.alone e₁ (Finset.mem_of_mem_erase he₁) e₂ (Finset.mem_of_mem_erase he₂) guid hin₁ hin₂

end Display

/-! ## Runs -/

def Proper (s : Scene) : Switch → Prop
  | .start e => Id e ∧ e ∉ s.active
  | .stop e => Id e ∧ e ∈ s.active

instance : ∀ c, Decidable (Proper s c)
  | .start _ => inferInstanceAs (Decidable (_ ∧ _))
  | .stop _ => inferInstanceAs (Decidable (_ ∧ _))

/-- The event has no pools, in which the dice choose what is spawned. -/
def PoolFree (t : EffectTables) (e : Nat) : Prop := t.poolIds e = [] ∧ t.poolIds (-(e : Int)) = []

def Inverse (t : EffectTables) (s : Scene) : Surroundings × Switch → Prop
  | (env, .start e) =>
    PoolFree t e ∧ MayShow t.creatureGuids s.hasCreature s.active e ∧ MayShow t.gameobjectGuids t.goData s.active e ∧
      MayDress t env s e
  | (_, .stop e) =>
    PoolFree t e ∧ MayHide t.creatureGuids s.hasCreature s.active e ∧ MayHide t.gameobjectGuids t.goData s.active e ∧
      MayForget t.creatureQuests (s.active.erase e) e ∧ MayForget t.gameObjectQuests (s.active.erase e) e

def Orderly (t : EffectTables) (s : Scene) (c : Surroundings × Switch) : Prop := Proper s c.2 ∧ Inverse t s c

structure Initial (t : EffectTables) (s₀ : Scene) : Prop where
  active : s₀.active = ∅
  creatures : Unstarted t.creatureGuids s₀.hasCreature s₀.creatures
  gameobjects : Unstarted t.gameobjectGuids t.goData s₀.gameobjects

/-- The world shows what the set of active events asks for. -/
structure Faithful (t : EffectTables) (s₀ s : Scene) : Prop where
  creatures : ∀ guid, s.creatures.contains guid = true ↔
    Shown t.creatureGuids s₀.hasCreature s₀.creatures s.active guid
  gameobjects : ∀ guid, s.gameobjects.contains guid = true ↔
    Shown t.gameobjectGuids t.goData s₀.gameobjects s.active guid
  creatureQuests : s.creatureQuestRelation = related t.creatureQuests s₀.creatureQuestRelation s.active
  goQuests : s.goQuestRelation = related t.gameObjectQuests s₀.goQuestRelation s.active
  dressed : Dressed s₀ s.active s.modelEquip s.creatureData

theorem Shown.empty {guids : Int → List Nat} {hasData : Nat → Bool} {base : OrdMap Nat Unit} :
    Shown guids hasData base ∅ guid ↔ base.contains guid = true := by
  simp [Shown]

theorem Initial.faithful (h : Initial t s₀) : Faithful t s₀ s₀ := by
  constructor
  · intro guid
    rw [h.active, Shown.empty]
  · intro guid
    rw [h.active, Shown.empty]
  · simp [related, h.active]
  · simp [related, h.active]
  · constructor <;> simp [h.active]

theorem Faithful.hasCreature (h : Faithful t s₀ s) : s.hasCreature = s₀.hasCreature :=
  funext h.dressed.contains_eq

theorem not_needed_absent (he : Id e) (guids : Int → List Nat) (active : Finset Nat) :
    (fun guid => decide (0 < int16 (-e)) && hasActiveEventExcept guids active guid (int16 (-e))) =
      fun _ => false := by
  funext guid
  have hneg : ¬ 0 < int16 (-e) := by
    rw [int16_neg_of_id he]
    omega
  rw [decide_eq_false hneg, Bool.false_and]

theorem needed_present (he : Id e) (guids : Int → List Nat) (active : Finset Nat) :
    (fun guid => decide (0 < int16 e) && hasActiveEventExcept guids active guid (int16 e)) =
      fun guid => hasActiveEventExcept guids active guid e := by
  funext guid
  have hpos : (0 : Int) < e := Int.natCast_pos.2 he.1
  rw [int16_of_id he, decide_eq_true hpos, Bool.true_and]

theorem startEvent_eq (he : Id e) (hpools : PoolFree t e) : s.startEvent t env e =
    let s := s.setActive (insert e s.active)
    let s := s.setGrids
      (unspawnAll s.hasCreature (fun _ => false) (t.creatureGuids (-(e : Int)))
        (spawnAll s.hasCreature (t.creatureGuids e) s.creatures),
      unspawnAll t.goData (fun _ => false) (t.gameobjectGuids (-(e : Int)))
        (spawnAll t.goData (t.gameobjectGuids e) s.gameobjects))
    (s.changeEquipOrModel t env e true).updateEventQuests t e true := by
  unfold Scene.startEvent gameEventSpawn gameEventUnspawn
  dsimp only
  rw [not_needed_absent he, not_needed_absent he, int16_of_id he, int16_neg_of_id he, hpools.1, hpools.2]
  rfl

theorem stopEvent_eq (he : Id e) (hpools : PoolFree t e) : s.stopEvent t env e =
    let s := s.setActive (s.active.erase e)
    let s := s.setGrids
      (spawnAll s.hasCreature (t.creatureGuids (-(e : Int))) (unspawnAll s.hasCreature
        (fun guid => hasActiveEventExcept t.creatureGuids s.active guid e) (t.creatureGuids e) s.creatures),
      spawnAll t.goData (t.gameobjectGuids (-(e : Int))) (unspawnAll t.goData
        (fun guid => hasActiveEventExcept t.gameobjectGuids s.active guid e) (t.gameobjectGuids e) s.gameobjects))
    (s.changeEquipOrModel t env e false).updateEventQuests t e false := by
  unfold Scene.stopEvent gameEventSpawn gameEventUnspawn
  dsimp only
  rw [needed_present he, needed_present he, int16_of_id he, int16_neg_of_id he, hpools.1, hpools.2]
  rfl

theorem Faithful.startEvent (h : Faithful t s₀ s) (horderly : Orderly t s (env, .start e)) :
    Faithful t s₀ (s.startEvent t env e) := by
  obtain ⟨⟨he, hnew⟩, hpools, hcreatures, hgameobjects, hdress⟩ := horderly
  rw [startEvent_eq he hpools]
  rw [h.hasCreature] at hcreatures
  constructor
  · have hshown := shown_start hcreatures h.creatures
    rw [← h.hasCreature] at hshown
    exact fun guid => (hshown guid).trans (by rw [h.hasCreature]; rfl)
  · exact shown_start hgameobjects h.gameobjects
  · have hstart : updateQuests t.creatureQuests (insert e s.active) e true s.creatureQuestRelation =
        related t.creatureQuests s₀.creatureQuestRelation (insert e s.active) := by
      rw [h.creatureQuests, related_start hnew]
    exact hstart
  · have hstart : updateQuests t.gameObjectQuests (insert e s.active) e true s.goQuestRelation =
        related t.gameObjectQuests s₀.goQuestRelation (insert e s.active) := by
      rw [h.goQuests, related_start hnew]
    exact hstart
  · exact h.dressed.start hnew hdress

theorem Faithful.stopEvent (hs : Initial t s₀) (h : Faithful t s₀ s) (horderly : Orderly t s (env, .stop e)) :
    Faithful t s₀ (s.stopEvent t env e) := by
  obtain ⟨⟨he, hactive⟩, hpools, hcreatures, hgameobjects, hquests, hgoQuests⟩ := horderly
  rw [stopEvent_eq he hpools]
  rw [h.hasCreature] at hcreatures
  constructor
  · have hshown := shown_stop hs.creatures he hcreatures h.creatures
    rw [← h.hasCreature] at hshown
    exact fun guid => (hshown guid).trans (by rw [h.hasCreature]; rfl)
  · exact shown_stop hs.gameobjects he hgameobjects h.gameobjects
  · have hstop : updateQuests t.creatureQuests (s.active.erase e) e false s.creatureQuestRelation =
        related t.creatureQuests s₀.creatureQuestRelation (s.active.erase e) := by
      rw [h.creatureQuests, related_stop hactive hquests]
    exact hstop
  · have hstop : updateQuests t.gameObjectQuests (s.active.erase e) e false s.goQuestRelation =
        related t.gameObjectQuests s₀.goQuestRelation (s.active.erase e) := by
      rw [h.goQuests, related_stop hactive hgoQuests]
    exact hstop
  · exact h.dressed.stop hactive

/-- In an orderly run the world depends on the active set alone. -/
theorem Faithful.run (hs : Initial t s₀) {cs : List (Surroundings × Switch)}
    (h : AllSteps (switch t) (Orderly t) s₀ cs) : Faithful t s₀ (run (switch t) s₀ cs) := by
  refine AllSteps.invariant (fun s c hfaithful horderly => ?_) hs.faithful h
  obtain ⟨env, e | e⟩ := c
  · exact hfaithful.startEvent horderly
  · exact hfaithful.stopEvent hs horderly

theorem Dressed.unique {active : Finset Nat} {equip equip' : Nat → List (Nat × ModelEquip)}
    {store store' : OrdMap Nat CreatureData} (h : Dressed s₀ active equip store)
    (h' : Dressed s₀ active equip' store') : store = store' := by
  refine ext_find? fun guid => ?_
  have hfst : ∀ e, (equip e).map Prod.fst = (equip' e).map Prod.fst := fun e =>
    map_fst_of_worn ((h.entries e).trans (h'.entries e).symm)
  by_cases hbare : ∀ e ∈ active, guid ∉ (equip e).map Prod.fst
  · rw [h.bare guid hbare, h'.bare guid fun e he => hfst e ▸ hbare e he]
  obtain ⟨e, he, hin⟩ : ∃ e ∈ active, guid ∈ (equip e).map Prod.fst := by simpa using hbare
  obtain ⟨⟨g, m⟩, hm, rfl⟩ := mem_map.1 hin
  -- The entries of the two runs say the same, so they dress in the same way.
  obtain ⟨⟨g', m'⟩, hm', heq⟩ : ∃ entry ∈ equip' e, worn entry = worn (g, m) := by
    rw [← mem_map, h'.entries e, ← h.entries e]
    exact mem_map_of_mem hm
  obtain ⟨rfl, hmodel, hequip⟩ : g' = g ∧ m'.modelid = m.modelid ∧ m'.equipmentId = m.equipmentId := by
    simpa [worn] using heq
  rw [h.dressed e he g' m hm, h'.dressed e he g' m' hm']
  refine congrArg (fun f => (s₀.creatureData.find? g').map f) (funext fun data => ?_)
  simp only [dress, if_true, hmodel, hequip]

structure SameEffects (s s' : Scene) : Prop where
  creatures : s.creatures = s'.creatures
  gameobjects : s.gameobjects = s'.gameobjects
  creatureQuestRelation : s.creatureQuestRelation = s'.creatureQuestRelation
  goQuestRelation : s.goQuestRelation = s'.goQuestRelation
  creatureData : s.creatureData = s'.creatureData

theorem grid_eq {grid grid' : OrdMap Nat Unit} (h : ∀ guid, grid.contains guid = true ↔ grid'.contains guid = true) :
    grid = grid' := by
  refine ext_find? fun guid => ?_
  have hguid := h guid
  unfold OrdMap.contains at hguid
  cases hfind : grid.find? guid <;> cases hfind' : grid'.find? guid <;> simp_all

/-- **What game events do depends only on which are active.** Orderly starts and stops that end with the same
active events have the same effects. -/
theorem effects_depend_on_active (hs : Initial t s₀) {cs cs' : List (Surroundings × Switch)}
    (h : AllSteps (switch t) (Orderly t) s₀ cs) (h' : AllSteps (switch t) (Orderly t) s₀ cs')
    (hactive : (run (switch t) s₀ cs).active = (run (switch t) s₀ cs').active) :
    SameEffects (run (switch t) s₀ cs) (run (switch t) s₀ cs') := by
  have hrun := Faithful.run hs h
  have hrun' := Faithful.run hs h'
  constructor
  · refine grid_eq fun guid => ?_
    rw [hrun.creatures, hrun'.creatures, hactive]
  · refine grid_eq fun guid => ?_
    rw [hrun.gameobjects, hrun'.gameobjects, hactive]
  · rw [hrun.creatureQuests, hrun'.creatureQuests, hactive]
  · rw [hrun.goQuests, hrun'.goQuests, hactive]
  · exact (hactive ▸ hrun.dressed).unique hrun'.dressed

def overlapping : EffectTables where
  creatureGuids e := if e = 1 then [5] else if e = -2 then [7] else []
  gameobjectGuids _ := []
  poolIds _ := []
  creatureQuests e := if e = 1 then [(3, 9)] else []
  gameObjectQuests _ := []
  goData _ := false
  templateEquipment _ := 0
  equipmentInfo _ := true
  modelInfo _ := none

def overlappingScene : Scene where
  creatures := OrdMap.empty.insert 7 ()
  creatureData := ((OrdMap.empty.insert 5 ⟨3, 10, 4⟩).insert 6 ⟨3, 10, 4⟩).insert 7 ⟨3, 10, 4⟩
  modelEquip e := if e = 1 then [(6, { modelid := 20, equipmentId := 8 })] else []

theorem overlapping_hidden (hin : guid ∈ overlapping.creatureGuids (-(e : Int))) : e = 2 ∧ guid = 7 := by
  have hne : (-(e : Int)) ≠ 1 := by omega
  simp only [overlapping, if_neg hne] at hin
  split at hin
  · rename_i heq
    exact ⟨by omega, mem_singleton.1 hin⟩
  · exact absurd hin not_mem_nil

theorem overlapping_listed (hin : guid ∈ overlapping.creatureGuids e) : e = 1 ∧ guid = 5 := by
  have hne : (e : Int) ≠ -2 := by omega
  simp only [overlapping, if_neg hne] at hin
  split at hin
  · rename_i heq
    exact ⟨by omega, mem_singleton.1 hin⟩
  · exact absurd hin not_mem_nil

theorem overlapping_initial : Initial overlapping overlappingScene := by
  refine ⟨rfl, ⟨?_, ?_⟩, ⟨fun _ _ _ => nofun, fun _ _ _ => nofun⟩⟩
  · intro e guid he hdata hin
    obtain ⟨-, rfl⟩ := overlapping_hidden hin
    decide
  · intro e guid he hdata hin hshown
    obtain ⟨-, rfl⟩ := overlapping_listed hin
    decide

theorem overlapping_mayShow {hasData : Nat → Bool} {active : Finset Nat} :
    MayShow overlapping.creatureGuids hasData active e := by
  intro guid hin hdata hshown e' he' hhidden
  have hlisted := (overlapping_listed hin).2
  have := (overlapping_hidden hhidden).2
  omega

theorem overlapping_mayHide {hasData : Nat → Bool} {active : Finset Nat} :
    MayHide overlapping.creatureGuids hasData active e := by
  constructor
  · intro guid hin hdata e' he' hne hin'
    exact hne ((overlapping_hidden hin').1.trans (overlapping_hidden hin).1.symm)
  · intro guid hin hdata hshown halone e' he' hhidden
    have hlisted := (overlapping_listed hin).2
    have := (overlapping_hidden hhidden).2
    omega

/-- Event 1 while event 2 is active, and event 2 alone. -/
theorem effects_depend_on_active_overlapping :
    SameEffects (run (switch overlapping) overlappingScene [({}, .start 1), ({}, .start 2), ({}, .stop 1)])
      (run (switch overlapping) overlappingScene [({}, .start 2)]) := by
  refine effects_depend_on_active overlapping_initial ⟨⟨by decide, ?_⟩, ⟨by decide, ?_⟩, ⟨by decide, ?_⟩, trivial⟩
    ⟨⟨by decide, ?_⟩, trivial⟩ (by decide)
  · refine ⟨⟨rfl, rfl⟩, overlapping_mayShow, fun _ => nofun, by decide, fun _ _ _ _ => nofun, ?_⟩
    rintro guid m hin data hdata
    obtain ⟨rfl, rfl⟩ := Prod.mk.inj (mem_singleton.1 hin)
    obtain rfl : data = ⟨3, 10, 4⟩ := (Option.some.inj hdata).symm
    unfold Restorable
    decide
  · exact ⟨⟨rfl, rfl⟩, overlapping_mayShow, fun _ => nofun, by decide, fun _ => nofun, fun _ _ => nofun⟩
  · exact ⟨⟨rfl, rfl⟩, overlapping_mayHide, ⟨fun _ => nofun, fun _ => nofun⟩, by unfold MayForget; decide, fun _ => nofun⟩
  · exact ⟨⟨rfl, rfl⟩, overlapping_mayShow, fun _ => nofun, by decide, fun _ => nofun, fun _ _ => nofun⟩

def sharedQuest : EffectTables where
  creatureGuids _ := []
  gameobjectGuids _ := []
  poolIds _ := []
  creatureQuests _ := []
  gameObjectQuests e := if e = 1 ∨ e = 2 then [(7, 9)] else []
  goData _ := false
  templateEquipment _ := 0
  equipmentInfo _ := true
  modelInfo _ := none

/-- A quest of two events is added twice and removed once. -/
theorem sharedQuest_stays :
    let cs := [({}, .start 1), ({}, .start 2), ({}, .stop 1), ({}, .stop 2)]
    Initial sharedQuest {} ∧ AllSteps (switch sharedQuest) (fun s c => Proper s c.2) {} cs ∧
      (run (switch sharedQuest) {} cs).active = ∅ ∧
      ¬ SameEffects (run (switch sharedQuest) {} cs) (run (switch sharedQuest) {} []) := by
  refine ⟨⟨rfl, ⟨fun _ _ _ => nofun, fun _ _ _ => nofun⟩, ⟨fun _ _ _ => nofun, fun _ _ _ => nofun⟩⟩, ?_, ?_, ?_⟩
  · exact ⟨by decide, by decide, by decide, by decide, trivial⟩
  · decide
  · intro h
    exact absurd h.goQuestRelation (by decide)

end Axium.GameEvents
