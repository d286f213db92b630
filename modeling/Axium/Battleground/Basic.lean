import Axium.Lib.Literals

/-!
# Battlegrounds: the shared vocabulary

Player guids, the two sides, the battleground enumerations and the unsigned 32-bit counters of
`SharedDefines.h`, `DBCEnums.h` and `Battleground.h`.
-/

namespace Axium

/-- A player guid (`uint64`). Guids are stored and compared, never computed with. -/
abbrev Guid := Nat

/-- Player low guids stay below the limit at which `ObjectMgr::GenerateLowGuid` stops the server. -/
def maxPlayerGuid : Nat := 0xFFFFFFFE

/-- A side: `ALLIANCE` or `HORDE`, and as an index `BG_TEAM_ALLIANCE` or `BG_TEAM_HORDE`. -/
inductive Team where
  | alliance
  | horde
  deriving DecidableEq, Repr

namespace Team

/-- The team id, `ALLIANCE = 469` and `HORDE = 67`. -/
def id : Team → Nat
  | alliance => 469
  | horde => 67

def other : Team → Team
  | alliance => horde
  | horde => alliance

theorem id_injective {t t' : Team} (h : t.id = t'.id) : t = t' := by
  cases t <;> cases t' <;> first | rfl | cases h

@[simp] theorem id_inj {t t' : Team} : t.id = t'.id ↔ t = t' := ⟨id_injective, fun h => h ▸ rfl⟩

@[simp] theorem id_ne_zero (t : Team) : t.id ≠ 0 := by cases t <;> decide

@[simp] theorem other_other (t : Team) : t.other.other = t := by cases t <;> rfl

theorem other_ne (t : Team) : t.other ≠ t := by cases t <;> decide

theorem eq_other_of_ne {t u : Team} (h : t ≠ u) : t = u.other := by
  cases t <;> cases u <;> first | rfl | exact absurd rfl h

end Team

/-- An array with one entry a side (`T[BG_TEAMS_COUNT]`). -/
structure PerTeam (α : Type) where
  alliance : α
  horde : α
  deriving DecidableEq, Repr

namespace PerTeam

variable {α : Type}

def get (p : PerTeam α) : Team → α
  | .alliance => p.alliance
  | .horde => p.horde

def set (p : PerTeam α) : Team → α → PerTeam α
  | .alliance, a => { p with alliance := a }
  | .horde, a => { p with horde := a }

@[simp] theorem get_set_self (p : PerTeam α) (t : Team) (a : α) : (p.set t a).get t = a := by
  cases t <;> rfl

theorem get_set_ne (p : PerTeam α) {t t' : Team} (a : α) (h : t ≠ t') : (p.set t a).get t' = p.get t' := by
  cases t <;> cases t' <;> first | rfl | exact absurd rfl h

theorem get_set (p : PerTeam α) (t t' : Team) (a : α) :
    (p.set t a).get t' = if t = t' then a else p.get t' := by
  split
  · rename_i h; subst h; exact get_set_self p t a
  · rename_i h; exact get_set_ne p a h

@[simp] theorem get_const (a : α) (t : Team) : (⟨a, a⟩ : PerTeam α).get t = a := by cases t <;> rfl

end PerTeam

def incr32 (n : Nat) : Nat := (n + 1) % 2 ^ 32

/-- `--n` on a `uint32`: zero wraps to `2 ^ 32 - 1`. -/
def decr32 (n : Nat) : Nat := (n + (2 ^ 32 - 1)) % 2 ^ 32

theorem incr32_of_lt {n : Nat} (h : n + 1 < 2 ^ 32) : incr32 n = n + 1 := Nat.mod_eq_of_lt h

theorem decr32_of_pos {n : Nat} (h : 0 < n) (hn : n < 2 ^ 32) : decr32 n = n - 1 := by
  unfold decr32
  omega

inductive BattlegroundTypeId where
  | typeNone | av | ws | ab | na | be | aa | ey | rl | sa | ds | rv | ic | rb
  deriving DecidableEq, Repr

def BattlegroundTypeId.code : BattlegroundTypeId → Nat
  | typeNone => 0 | av => 1 | ws => 2 | ab => 3 | na => 4 | be => 5 | aa => 6 | ey => 7 | rl => 8
  | sa => 9 | ds => 10 | rv => 11 | ic => 30 | rb => 32

inductive BattlegroundQueueTypeId where
  | queueNone | av | ws | ab | ey | sa | ic | rb | arena2v2 | arena3v3 | arena5v5
  deriving DecidableEq, Repr

def BattlegroundQueueTypeId.code : BattlegroundQueueTypeId → Nat
  | queueNone => 0 | av => 1 | ws => 2 | ab => 3 | ey => 4 | sa => 5 | ic => 6 | rb => 7
  | arena2v2 => 8 | arena3v3 => 9 | arena5v5 => 10

/-- `BattlegroundBracketId`: `MAX_BATTLEGROUND_BRACKETS` brackets. -/
abbrev BattlegroundBracketId := Fin 16

theorem BattlegroundTypeId.code_lt (t : BattlegroundTypeId) : t.code < 256 := by
  cases t <;> decide

theorem BattlegroundQueueTypeId.code_lt (t : BattlegroundQueueTypeId) : t.code < 256 := by
  cases t <;> decide

/-- The enumerator with a given value: the cast `BattlegroundTypeId(n)`. -/
def BattlegroundTypeId.ofCode : Nat → Option BattlegroundTypeId
  | 0 => some typeNone | 1 => some av | 2 => some ws | 3 => some ab | 4 => some na | 5 => some be
  | 6 => some aa | 7 => some ey | 8 => some rl | 9 => some sa | 10 => some ds | 11 => some rv
  | 30 => some ic | 32 => some rb | _ => none

/-- The enumerator with a given value: the cast `BattlegroundQueueTypeId(n)`. -/
def BattlegroundQueueTypeId.ofCode : Nat → Option BattlegroundQueueTypeId
  | 0 => some queueNone | 1 => some av | 2 => some ws | 3 => some ab | 4 => some ey | 5 => some sa
  | 6 => some ic | 7 => some rb | 8 => some arena2v2 | 9 => some arena3v3 | 10 => some arena5v5
  | _ => none

@[simp] theorem BattlegroundTypeId.ofCode_code (t : BattlegroundTypeId) : ofCode t.code = some t := by
  cases t <;> rfl

@[simp] theorem BattlegroundQueueTypeId.ofCode_code (t : BattlegroundQueueTypeId) : ofCode t.code = some t := by
  cases t <;> rfl

end Axium
