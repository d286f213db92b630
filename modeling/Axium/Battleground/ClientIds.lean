import Axium.Lib.Run
import Axium.Lib.OrdMap
import Axium.Battleground.Basic

/-!
# The instance ids that a client sees

`CreateClientVisibleInstanceId` numbers the battlegrounds of one type and bracket for the client, and
`BattlegroundMgr::Update` takes the number back when it deletes a finished one. The search for a gap never
moves its iterator, so it looks at the least id only: it gives out 1 when no id is in use, 3 when 1 is in
use, and else 2 (`createClientVisibleInstanceId_eq`).
-/

namespace Axium.ClientIds

open Run OrdMap

variable (m : Mgr) (typeId : BattlegroundTypeId) (b : BattlegroundBracketId)

def isArenaType : BattlegroundTypeId → Bool
  | .aa | .be | .na | .ds | .rv | .rl => true
  | _ => false

/-- `std::set<uint32>`. -/
abbrev IdSet := OrdMap Nat Unit

/-- The loop of `CreateClientVisibleInstanceId`, with what `itr` points to; nothing at `end()`. The
body does not advance `itr`, so that the second turn compares with the same id. -/
def findGap (itr : Option Nat) (lastId : Nat) : Nat :=
  match itr with
  | none => lastId
  | some id => if incr32 lastId ≠ id then incr32 lastId else findGap (some id) id
termination_by if itr = some (incr32 lastId) then 1 else 0
decreasing_by
  have hnext : incr32 id ≠ id := by
    unfold incr32
    omega
  simp_all [Ne.symm hnext]

/-- A battleground that is not deleted yet, as far as its client id is concerned. -/
structure Live where
  typeId : BattlegroundTypeId
  bracketId : BattlegroundBracketId
  clientInstanceId : Nat
  deriving DecidableEq, Repr

/-- `m_ClientBattlegroundIds` and the instances of `m_Battlegrounds`, without the templates. -/
structure Mgr where
  clientBattlegroundIds : BattlegroundTypeId → BattlegroundBracketId → IdSet := fun _ _ => .empty
  battlegrounds : OrdMap Nat Live := .empty

namespace Mgr

variable (m : Mgr)

def setIds (typeId : BattlegroundTypeId) (b : BattlegroundBracketId) (ids : IdSet) : Mgr :=
  { m with
    clientBattlegroundIds := Function.update m.clientBattlegroundIds typeId
      (Function.update (m.clientBattlegroundIds typeId) b ids) }

def createClientVisibleInstanceId (typeId : BattlegroundTypeId) (b : BattlegroundBracketId) : Mgr × Nat :=
  if isArenaType typeId then (m, 0)
  else
    let ids := m.clientBattlegroundIds typeId b
    let lastId := findGap ids.first? 0
    (m.setIds typeId b (ids.insert (incr32 lastId) ()), incr32 lastId)

/-- The part of `CreateNewBattleground` that numbers the new instance. -/
def create (instanceId : Nat) (typeId : BattlegroundTypeId) (b : BattlegroundBracketId) : Mgr :=
  let (m, id) := m.createClientVisibleInstanceId typeId b
  { m with battlegrounds := m.battlegrounds.insert instanceId ⟨typeId, b, id⟩ }

/-- The deletion in `BattlegroundMgr::Update`. -/
def delete (instanceId : Nat) : Mgr :=
  match m.battlegrounds.find? instanceId with
  | none => m
  | some bg =>
    let m := { m with battlegrounds := m.battlegrounds.erase instanceId }
    let ids := m.clientBattlegroundIds bg.typeId bg.bracketId
    if ids.isEmpty then m else m.setIds bg.typeId bg.bracketId (ids.erase bg.clientInstanceId)

end Mgr

inductive Event where
  | create (instanceId : Nat) (typeId : BattlegroundTypeId) (b : BattlegroundBracketId)
  | delete (instanceId : Nat)
  deriving DecidableEq, Repr

def step (m : Mgr) : Event → Mgr
  | .create i typeId b => m.create i typeId b
  | .delete i => m.delete i

structure GivesLeast (m : Mgr) (typeId : BattlegroundTypeId) (b : BattlegroundBracketId) : Prop where
  least : IsLeast {n | 0 < n ∧ n ∉ (m.clientBattlegroundIds typeId b).keys}
    (m.createClientVisibleInstanceId typeId b).2
  fresh : ∀ i bg, m.battlegrounds.find? i = some bg → bg.typeId = typeId → bg.bracketId = b →
    bg.clientInstanceId ≠ (m.createClientVisibleInstanceId typeId b).2
  added : ∀ n, n ∈ ((m.createClientVisibleInstanceId typeId b).1.clientBattlegroundIds typeId b).keys ↔
    n = (m.createClientVisibleInstanceId typeId b).2 ∨ n ∈ (m.clientBattlegroundIds typeId b).keys

def LeastId (m : Mgr) : Event → Prop
  | .create _ typeId b => isArenaType typeId = false → GivesLeast m typeId b
  | .delete _ => True

/-- A step numbers a battleground only while no number of its type and bracket is in use. -/
def NoneInUse (m : Mgr) : Event → Prop
  | .create _ typeId b => isArenaType typeId = false → (m.clientBattlegroundIds typeId b).isEmpty = true
  | .delete _ => True

instance (m : Mgr) (e : Event) : Decidable (NoneInUse m e) := by
  cases e <;> unfold NoneInUse <;> infer_instance

/-! ## What the search finds -/

theorem findGap_none (lastId : Nat) : findGap none lastId = lastId := by
  rw [findGap]

theorem findGap_zero (id : Nat) : findGap (some id) 0 = if id = 1 then 2 else 1 := by
  rw [findGap]
  by_cases h : id = 1
  · subst h
    rw [findGap]
    rfl
  · simp [incr32, h, Ne.symm h]

variable {m : Mgr} {typeId : BattlegroundTypeId} {b : BattlegroundBracketId}

theorem createClientVisibleInstanceId_eq (h : isArenaType typeId = false) :
    (m.createClientVisibleInstanceId typeId b).2 =
      match (m.clientBattlegroundIds typeId b).first? with
      | none => 1
      | some id => if id = 1 then 3 else 2 := by
  simp only [Mgr.createClientVisibleInstanceId, h, Bool.false_eq_true, if_false]
  cases (m.clientBattlegroundIds typeId b).first? with
  | none =>
    rw [findGap_none]
    rfl
  | some id =>
    rw [findGap_zero]
    dsimp only
    split <;> rfl

@[simp] theorem setIds_self
    (ids : IdSet) : (m.setIds typeId b ids).clientBattlegroundIds typeId b = ids := by
  simp [Mgr.setIds]

theorem setIds_ids (typeId typeId' : BattlegroundTypeId) (b b' : BattlegroundBracketId)
    (ids : IdSet) : (m.setIds typeId b ids).clientBattlegroundIds typeId' b' =
      if typeId' = typeId ∧ b' = b then ids else m.clientBattlegroundIds typeId' b' := by
  unfold Mgr.setIds
  by_cases ht : typeId' = typeId
  · subst ht
    by_cases hb : b' = b
    · subst hb
      simp
    · simp [hb]
  · simp [ht]

theorem createClientVisibleInstanceId_ids (h : isArenaType typeId = false) :
    (m.createClientVisibleInstanceId typeId b).1 = m.setIds typeId b
      ((m.clientBattlegroundIds typeId b).insert (m.createClientVisibleInstanceId typeId b).2 ()) := by
  simp only [Mgr.createClientVisibleInstanceId, h, Bool.false_eq_true, if_false]

theorem createClientVisibleInstanceId_arena (h : isArenaType typeId = true) :
    m.createClientVisibleInstanceId typeId b = (m, 0) := by
  simp [Mgr.createClientVisibleInstanceId, h]

@[simp] theorem createClientVisibleInstanceId_battlegrounds :
    (m.createClientVisibleInstanceId typeId b).1.battlegrounds = m.battlegrounds := by
  unfold Mgr.createClientVisibleInstanceId
  split <;> rfl

theorem mem_ids_create {i n : Nat} {typeId' : BattlegroundTypeId} {b' : BattlegroundBracketId} :
    n ∈ ((m.create i typeId b).clientBattlegroundIds typeId' b').keys ↔
      (typeId' = typeId ∧ b' = b ∧ isArenaType typeId = false ∧
        n = (m.createClientVisibleInstanceId typeId b).2) ∨
      n ∈ (m.clientBattlegroundIds typeId' b').keys := by
  change n ∈ ((m.createClientVisibleInstanceId typeId b).1.clientBattlegroundIds typeId' b').keys ↔ _
  cases ht : isArenaType typeId with
  | true => simp [createClientVisibleInstanceId_arena ht]
  | false =>
    rw [createClientVisibleInstanceId_ids ht, setIds_ids]
    split
    · rename_i heq
      rw [mem_keys_insert, heq.1, heq.2]
      simp [eq_comm]
    · rename_i hne
      simp only [not_and] at hne
      constructor
      · exact .inr
      · rintro (⟨ht', hb', -, -⟩ | hn)
        · exact absurd hb' (hne ht')
        · exact hn

theorem find?_create (i j : Nat) (typeId : BattlegroundTypeId) (b : BattlegroundBracketId) :
    (m.create i typeId b).battlegrounds.find? j =
      if i = j then some ⟨typeId, b, (m.createClientVisibleInstanceId typeId b).2⟩
      else m.battlegrounds.find? j := by
  simp [Mgr.create, find?_insert]

/-! ## The ids of a run -/

/-- The ids are positive, 1 and 2 are never in use together, and 1 is in use as long as a battleground
has it, of which there is one at most. -/
structure Numbered (m : Mgr) : Prop where
  positive : ∀ typeId b, ∀ n ∈ (m.clientBattlegroundIds typeId b).keys, 0 < n
  notBoth : ∀ typeId b, 1 ∈ (m.clientBattlegroundIds typeId b).keys →
    2 ∉ (m.clientBattlegroundIds typeId b).keys
  inUse : ∀ i bg, m.battlegrounds.find? i = some bg → bg.clientInstanceId = 1 →
    1 ∈ (m.clientBattlegroundIds bg.typeId bg.bracketId).keys
  single : ∀ i bg i' bg', m.battlegrounds.find? i = some bg → m.battlegrounds.find? i' = some bg' →
    bg.typeId = bg'.typeId → bg.bracketId = bg'.bracketId → bg.clientInstanceId = 1 →
    bg'.clientInstanceId = 1 → i = i'

theorem numbered_start : Numbered {} where
  positive := by simp [OrdMap.keys, OrdMap.empty]
  notBoth := by simp [OrdMap.keys, OrdMap.empty]
  inUse := by simp
  single := by simp

theorem first?_eq_some {ids : IdSet} {id : Nat} (h : ids.first? = some id) :
    id ∈ ids.keys ∧ ∀ n ∈ ids.keys, id ≤ n := by
  refine ⟨first?_mem h, fun n hn => ?_⟩
  have hsorted := ids.keys_sorted
  unfold OrdMap.first? at h
  cases hkeys : ids.keys with
  | nil => simp [hkeys] at hn
  | cons k ks =>
    rw [hkeys] at h hn hsorted
    cases h
    rcases List.mem_cons.1 hn with rfl | hn
    · exact le_refl _
    · exact ((List.pairwise_cons.1 hsorted).1 n hn).le

theorem first?_eq_none {ids : IdSet} (h : ids.first? = none) : ids.keys = [] := by
  simpa [OrdMap.first?] using h

namespace Numbered

section

variable (h : Numbered m)
include h

theorem created (ht : isArenaType typeId = false) :
    (m.createClientVisibleInstanceId typeId b).2 = 1 ∧ (m.clientBattlegroundIds typeId b).keys = [] ∨
    (m.createClientVisibleInstanceId typeId b).2 = 3 ∧ 1 ∈ (m.clientBattlegroundIds typeId b).keys ∨
    (m.createClientVisibleInstanceId typeId b).2 = 2 ∧ 1 ∉ (m.clientBattlegroundIds typeId b).keys ∧
      (m.clientBattlegroundIds typeId b).keys ≠ [] := by
  rw [createClientVisibleInstanceId_eq ht]
  cases hfirst : (m.clientBattlegroundIds typeId b).first? with
  | none => exact .inl ⟨rfl, first?_eq_none hfirst⟩
  | some id =>
    obtain ⟨hmem, hleast⟩ := first?_eq_some hfirst
    by_cases hid : id = 1
    · subst hid
      exact .inr (.inl ⟨if_pos rfl, hmem⟩)
    · refine .inr (.inr ⟨if_neg hid, fun hone => ?_, List.ne_nil_of_mem hmem⟩)
      have hpos := h.positive typeId b id hmem
      have hle := hleast 1 hone
      omega

theorem givesLeast_iff (ht : isArenaType typeId = false) :
    GivesLeast m typeId b ↔ (m.clientBattlegroundIds typeId b).isEmpty = true := by
  rw [isEmpty_iff_keys]
  constructor
  · intro hleast
    rcases h.created (b := b) ht with ⟨-, hnil⟩ | ⟨hid, hone⟩ | ⟨hid, hone, -⟩
    · simp [hnil]
    · -- 2 is free and less than 3
      have hle := hleast.least.2 ⟨Nat.two_pos, h.notBoth typeId b hone⟩
      omega
    · have hle := hleast.least.2 ⟨one_pos, hone⟩
      omega
  · intro hempty
    rcases h.created (b := b) ht with ⟨hid, hnil⟩ | ⟨-, hone⟩ | ⟨-, -, hne⟩
    · refine ⟨?_, fun i bg hbg hbgt hbgb heq => ?_, fun n => ?_⟩
      · rw [hid]
        exact ⟨⟨one_pos, hempty 1⟩, fun n hn => hn.1⟩
      · subst hbgt hbgb
        exact hempty 1 (h.inUse i bg hbg (heq.trans hid))
      · rw [createClientVisibleInstanceId_ids ht, setIds_self, mem_keys_insert, eq_comm]
    · exact absurd hone (hempty 1)
    · exact absurd (List.eq_nil_iff_forall_not_mem.2 hempty) hne

theorem keys_of_one (hid : (m.createClientVisibleInstanceId typeId b).2 = 1) :
    (m.clientBattlegroundIds typeId b).keys = [] := by
  cases ht : isArenaType typeId with
  | true => simp [createClientVisibleInstanceId_arena ht] at hid
  | false =>
    rcases h.created (b := b) ht with ⟨-, hnil⟩ | ⟨hid', -⟩ | ⟨hid', -⟩
    · exact hnil
    · omega
    · omega

theorem create (i : Nat) (typeId : BattlegroundTypeId) (b : BattlegroundBracketId) :
    Numbered (m.create i typeId b) where
  positive typeId' b' n hn := by
    rcases mem_ids_create.1 hn with ⟨rfl, rfl, ht, rfl⟩ | hn
    · have hcreated := h.created (b := b') ht
      omega
    · exact h.positive typeId' b' n hn
  notBoth typeId' b' hone htwo := by
    rcases mem_ids_create.1 hone with ⟨rfl, rfl, ht, hid⟩ | hold
    · rcases mem_ids_create.1 htwo with ⟨-, -, -, hid'⟩ | hold'
      · omega
      · simp [h.keys_of_one hid.symm] at hold'
    · rcases mem_ids_create.1 htwo with ⟨rfl, rfl, ht, hid⟩ | hold'
      · rcases h.created (b := b') ht with ⟨hid', -⟩ | ⟨hid', -⟩ | ⟨-, hnone, -⟩
        · omega
        · omega
        · exact hnone hold
      · exact h.notBoth typeId' b' hold hold'
  inUse j bg hbg hone := by
    rw [mem_ids_create]
    rw [find?_create] at hbg
    split at hbg
    · cases hbg
      refine .inl ⟨rfl, rfl, Bool.eq_false_iff.2 fun ht => ?_, hone.symm⟩
      simp [createClientVisibleInstanceId_arena ht] at hone
    · exact .inr (h.inUse j bg hbg hone)
  single j bg j' bg' hbg hbg' htype hbracket hone hone' := by
    have hnew : ∀ k old, m.battlegrounds.find? k = some old → old.typeId = typeId →
        old.bracketId = b → old.clientInstanceId = 1 →
        (m.createClientVisibleInstanceId typeId b).2 ≠ 1 := by
      rintro k old hold rfl rfl hold1 hid
      have hin := h.inUse k old hold hold1
      simp [h.keys_of_one hid] at hin
    rw [find?_create] at hbg hbg'
    split at hbg
    · split at hbg'
      · rename_i hj hj'
        exact hj.symm.trans hj'
      · cases hbg
        exact absurd hone (hnew j' bg' hbg' htype.symm hbracket.symm hone')
    · split at hbg'
      · cases hbg'
        exact absurd hone' (hnew j bg hbg htype hbracket hone)
      · exact h.single j bg j' bg' hbg hbg' htype hbracket hone hone'

theorem delete (i : Nat) : Numbered (m.delete i) := by
  unfold Mgr.delete
  cases hold : m.battlegrounds.find? i with
  | none => exact h
  | some old =>
    dsimp only
    have hrest : ∀ j bg, (m.battlegrounds.erase i).find? j = some bg →
        j ≠ i ∧ m.battlegrounds.find? j = some bg := by
      intro j bg hbg
      rw [find?_erase] at hbg
      split at hbg
      · cases hbg
      · rename_i hne
        exact ⟨Ne.symm hne, hbg⟩
    split
    · exact ⟨h.positive, h.notBoth, fun j bg hbg => h.inUse j bg (hrest j bg hbg).2,
        fun j bg j' bg' hbg hbg' => h.single j bg j' bg' (hrest j bg hbg).2 (hrest j' bg' hbg').2⟩
    · have hsub : ∀ typeId' b' n, n ∈ ((({ m with
          battlegrounds := m.battlegrounds.erase i } : Mgr).setIds old.typeId old.bracketId
            ((m.clientBattlegroundIds old.typeId old.bracketId).erase
              old.clientInstanceId)).clientBattlegroundIds typeId' b').keys ↔
          n ∈ (m.clientBattlegroundIds typeId' b').keys ∧
            ¬ (typeId' = old.typeId ∧ b' = old.bracketId ∧ n = old.clientInstanceId) := by
        intro typeId' b' n
        rw [setIds_ids]
        split
        · rename_i heq
          rw [mem_keys_erase, heq.1, heq.2]
          simp [and_comm, eq_comm]
        · rename_i hne
          simp only [not_and] at hne
          constructor
          · exact fun hn => ⟨hn, fun heq => hne heq.1 heq.2.1⟩
          · exact And.left
      refine ⟨fun typeId' b' n hn => h.positive typeId' b' n ((hsub typeId' b' n).1 hn).1,
        fun typeId' b' hone htwo => h.notBoth typeId' b' ((hsub typeId' b' 1).1 hone).1
          ((hsub typeId' b' 2).1 htwo).1, fun j bg hbg hone => ?_,
        fun j bg j' bg' hbg hbg' => h.single j bg j' bg' (hrest j bg hbg).2 (hrest j' bg' hbg').2⟩
      obtain ⟨hne, hbg⟩ := hrest j bg hbg
      refine (hsub _ _ 1).2 ⟨h.inUse j bg hbg hone, fun ⟨htype, hbracket, hid⟩ => ?_⟩
      exact hne (h.single j bg i old hbg hold htype hbracket hone hid.symm)

/-- Whatever is created and deleted, one battleground at most has the number 1, and 2 is never in use beside it. -/
theorem step (e : Event) : Numbered (ClientIds.step m e) := by
  cases e with
  | create i typeId b => exact h.create i typeId b
  | delete i => exact h.delete i

end

end Numbered

/-- **Every new battleground gets the least free number exactly when** none of its type and bracket is
numbered at the time. -/
theorem clientIds_least_iff (es : List Event) :
    AllSteps step LeastId {} es ↔ AllSteps step NoneInUse {} es := by
  refine AllSteps.congr_invariant (fun m e h => h.step e) (fun m e h => ?_) numbered_start es
  cases e with
  | create i typeId b => exact forall_congr' fun ht => h.givesLeast_iff ht
  | delete i => exact Iff.rfl

def threeGulches : List Event := [.create 1 .ws 0, .create 2 .ws 0, .create 3 .ws 0]

/-- The second and the third battleground have the number 3. -/
theorem clientIds_repeat : ¬ AllSteps step LeastId {} threeGulches ∧
    ∀ i ∈ [2, 3], (run step {} threeGulches).battlegrounds.find? i = some ⟨.ws, 0, 3⟩ := by
  refine ⟨?_, ?_⟩
  · rintro ⟨-, hsecond, -⟩
    have hempty := ((numbered_start.create 1 .ws 0).givesLeast_iff rfl).1 (hsecond rfl)
    revert hempty
    decide
  · decide +kernel

end Axium.ClientIds
