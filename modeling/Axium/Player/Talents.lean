import Axium.Player.Spells

/-!
# Learning talents

`Player::LearnTalent`. The checks come first and read only the spells and the free points; then the rank is
learned like any spell, and the price is taken from the free points, whatever became of it.
-/

namespace Axium.Talents

def TalentEntry.knownRanks (talentInfo : TalentEntry) (p : Player) : List Nat :=
  (List.range maxTalentRank).filter fun rank =>
    talentInfo.rank rank ≠ 0 && p.hasSpell (talentInfo.rank rank)

/-- `curtalent_maxrank`: the loop from the highest rank down, 0 where no rank is learned. -/
def TalentEntry.maxRank (talentInfo : TalentEntry) (p : Player) : Nat :=
  match (List.range maxTalentRank).reverse.find? fun rank =>
    talentInfo.rank rank ≠ 0 && p.hasSpell (talentInfo.rank rank) with
  | some rank => rank + 1
  | none => 0

def TalentEntry.points (talentInfo : TalentEntry) (p : Player) : Nat :=
  ((talentInfo.knownRanks p).map (· + 1)).sum

def Stores.pointsIn (stores : Stores) (tab : Nat) (p : Player) : Nat :=
  stores.talents.sum fun _ talentInfo => if talentInfo.talentTab = tab then talentInfo.points p else 0

/-- `spentPoints`: only a talent below the first row looks. -/
def Stores.spentPoints (stores : Stores) (talentInfo : TalentEntry) (p : Player) : Nat :=
  if talentInfo.row > 0 then stores.pointsIn talentInfo.talentTab p % 4294967296 else 0

/-- `hasEnoughRank`. The loop variable is a `uint8`. -/
def TalentEntry.hasRankFrom (depTalentInfo : TalentEntry) (p : Player) (rank : Nat) : Bool :=
  (depTalentInfo.knownRanks p).any fun r => rank % 256 ≤ r

/-- What the request asks for: `talentId` and `talentRank`. -/
structure TalentRequest where
  talentId : Nat
  talentRank : Nat

/-- The checks of `LearnTalent`: the spell to learn and `curtalent_maxrank`. -/
def checkTalent (stores : Stores) (p : Player) (r : TalentRequest) : Option (Nat × Nat) :=
  if p.freeTalentPoints = 0 ∨ r.talentRank ≥ maxTalentRank then none
  else
    match stores.talents.find? r.talentId with
    | none => none
    | some talentInfo =>
      match stores.tabs.find? talentInfo.talentTab with
      | none => none
      | some classMask =>
        -- "prevent learn talent for different class (cheating)"
        if p.classMask &&& classMask = 0 then none
        else
          let curTalentMaxRank := talentInfo.maxRank p
          if curTalentMaxRank ≥ r.talentRank + 1 then none
          else if p.freeTalentPoints < r.talentRank - curTalentMaxRank + 1 then none
          else if talentInfo.dependsOn > 0 ∧ (stores.talents.find? talentInfo.dependsOn).any
              (fun depTalentInfo => !depTalentInfo.hasRankFrom p talentInfo.dependsOnRank) then none
          else if stores.spentPoints talentInfo p < talentInfo.row * maxTalentRank % 4294967296 then none
          else if talentInfo.rank r.talentRank = 0 then none
          else if p.hasSpell (talentInfo.rank r.talentRank) then none
          else some (talentInfo.rank r.talentRank, curTalentMaxRank)

structure Event where
  request : TalentRequest
  env : Circumstances := {}

variable (stores : Stores) (mgr : SpellMgr) (fuel : Nat)

def learnTalent (p : Player) (e : Event) : Player :=
  match checkTalent stores p e.request with
  | none => p
  | some (spellid, curTalentMaxRank) =>
    let q := (nestedCalls stores mgr e.env fuel).learnSpell p spellid false
    -- the points the player had before, "update free talent points"
    { q with freeTalentPoints := p.freeTalentPoints - (e.request.talentRank - curTalentMaxRank + 1) }

def rankKnown (p : Player) (r : TalentRequest) : Bool :=
  (stores.talents.find? r.talentId).any fun talentInfo =>
    talentInfo.rank r.talentRank ≠ 0 && p.hasSpell (talentInfo.rank r.talentRank)

end Axium.Talents
