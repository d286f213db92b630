import Axium.Looting.Loot

/-!
# Rolls of a group

The list of rolls of a group with `GroupLoot`, `CountRollVote`, `EndRoll`, `CountTheRoll` and the part of
`RemoveMember` that is about rolls, all of `Group.cpp`. What a roll came to is recorded beside the group.

A vote is counted again when it is repeated. A player who leaves is taken out of the roll before his vote
is counted as a pass, so the count finds nothing and a roll that waited for him goes on waiting. An item
won by a player who is not online stays blocked.
-/

namespace Axium.Looting

open Run

/-- What a roll came to: the roll as it was counted, what it gave, and its item afterwards. -/
structure Result where
  roll : Roll
  given : Option Delivery
  item : Option LootItem

/-- A group, and the loots of the corpses and chests around it. A loot that was deleted is `none`. -/
structure Group where
  members : List Guid := []
  isBGGroup : Bool := false
  rollId : List Roll := []
  loots : Nat → Option Loot
  /-- `lootForBody` of the corpse. -/
  lootForBody : List Nat := []
  /-- The next number of `GenerateLowGuid`. -/
  nextItemGUID : Nat := 0
  results : List Result := []
  /-- The rolls that `Disband` deleted, without the votes of the player who left. -/
  dropped : List Roll := []

def maxRaidSize : Nat := 40

namespace Roll

/-- `isValid`: the loot is still there. -/
def isValid (roll : Roll) (loots : Nat → Option Loot) : Bool := (loots roll.lootId).isSome

/-- The vote of a player, by the `RollType` of the packet. -/
def vote (roll : Roll) (player : Guid) : (choice : Nat) → Roll
  | 0 => { roll with
      totalPass := add8 roll.totalPass 1, playerVote := roll.playerVote.insert player .pass }
  | 1 => { roll with
      totalNeed := add8 roll.totalNeed 1, playerVote := roll.playerVote.insert player .need }
  | 2 => { roll with
      totalGreed := add8 roll.totalGreed 1, playerVote := roll.playerVote.insert player .greed }
  | 3 => { roll with
      totalGreed := add8 roll.totalGreed 1, playerVote := roll.playerVote.insert player .disenchant }
  | _ => roll

/-- The roll without the player, whose vote was `vote`. -/
def removeVote (roll : Roll) (player : Guid) (vote : RollVote) : Roll :=
  { roll with
    totalGreed := if vote.greedy then dec8 roll.totalGreed else roll.totalGreed
    totalNeed := if vote = .need then dec8 roll.totalNeed else roll.totalNeed
    totalPass := if vote = .pass then dec8 roll.totalPass else roll.totalPass
    totalPlayersRolling := if vote ≠ .notValid then dec8 roll.totalPlayersRolling
      else roll.totalPlayersRolling
    playerVote := roll.playerVote.erase player }

end Roll

namespace Group

variable (g : Group)

def startVotes (pass : Guid → Bool) (players : List Guid) : OrdMap Guid RollVote :=
  players.foldl (fun votes p => votes.insert p (if pass p then .pass else .notEmitedYet)) .empty

/-- One item of `GroupLoot` and `NeedBeforeGreed`. The players near the loot who may have the item are
`eligible`. -/
def startRoll (lootId itemSlot : Nat) (item : LootItem) (overThreshold : Bool)
    (eligible pass : Guid → Bool) : Group :=
  if item.freeforall then g
  else if overThreshold then
    let players := g.members.filter eligible
    if players = [] then { g with nextItemGUID := g.nextItemGUID + 1 }
    else
      { g with
        nextItemGUID := g.nextItemGUID + 1
        rollId := g.rollId ++ [{
          lootId, itemSlot
          itemGUID := g.nextItemGUID
          itemid := item.itemid
          playerVote := startVotes pass players
          totalPlayersRolling := add8 0 players.length
          totalPass := add8 0 (players.countP pass) }]
        loots := Function.update g.loots lootId ((g.loots lootId).map fun loot =>
          loot.modifyEntry (fun item => { item with isBlocked := true }) (.item itemSlot)) }
  else g

/-- What `GroupLoot` asks about the items and the members: `Quality >= m_lootThreshold`,
`AllowedForPlayer` with `IsWithinDistInMap`, and `GetPassOnGroupLoot`. -/
structure Terms where
  overThreshold : Nat → Bool
  eligible : Nat → Guid → Bool
  pass : Guid → Bool

/-- The loop of `GroupLoot` over the items of a loot. -/
def groupLoot (lootId : Nat) (terms : Terms) : List LootItem → (itemSlot : Nat) → Group → Group
  | [], _, g => g
  | item :: items, itemSlot, g =>
    groupLoot lootId terms items (itemSlot + 1)
      (g.startRoll lootId itemSlot item (terms.overThreshold itemSlot) (terms.eligible itemSlot)
        terms.pass)

/-- `SendLoot` of a corpse: `GroupLoot` when it is opened for the first time. -/
def sendLoot (lootId : Nat) (terms : Terms) : Group :=
  if lootId ∈ g.lootForBody then g
  else
    match g.loots lootId with
    | none => g
    | some loot => groupLoot lootId terms loot.items 0 { g with lootForBody := lootId :: g.lootForBody }

/-- `CountTheRoll` of the roll at a position. -/
def countTheRoll (i : Nat) (draw : Draw) : Group :=
  match g.rollId[i]? with
  | none => g
  | some roll =>
    match g.loots roll.lootId with
    | none => { g with rollId := g.rollId.eraseIdx i }
    | some loot =>
      let (loot, given) := loot.countTheRoll roll draw
      { g with
        rollId := g.rollId.eraseIdx i
        loots := Function.update g.loots roll.lootId (some loot)
        results := g.results ++ [{ roll, given, item := loot.items[roll.itemSlot]? }] }

def getRoll (guid : Nat) : Option Nat :=
  g.rollId.findIdx? fun roll => roll.itemGUID = guid && roll.isValid g.loots

def countRollVote (player : Guid) (guid : Nat) (choice : Nat) (draw : Draw) : Group :=
  match g.getRoll guid with
  | none => g
  | some i =>
    match g.rollId[i]? with
    | none => g
    | some roll =>
      if roll.playerVote.contains player then
        if (g.loots roll.lootId).any (·.items.isEmpty) then g
        else
          let roll := roll.vote player choice
          let g := { g with rollId := g.rollId.set i roll }
          if roll.totalPlayersRolling ≤ roll.totalPass + roll.totalNeed + roll.totalGreed then
            g.countTheRoll i draw
          else g
      else g

/-- `EndRoll`. The loop starts again after each roll of the loot, and each of them is taken off the list. -/
def endRoll (lootId : Nat) (draws : Nat → Draw) : (fuel : Nat) → Group → Group
  | 0, g => g
  | fuel + 1, g =>
    match g.rollId.findIdx? fun roll => roll.lootId = lootId && roll.isValid g.loots with
    | none => g
    | some i => endRoll lootId draws fuel (g.countTheRoll i (draws ((g.rollId[i]?.map (·.itemGUID)).getD 0)))

/-- The loop of `RemoveMember` over the rolls. `MAX_ROLL_TYPE` is 4. -/
def removeFromRolls (guid : Guid) (draw : Draw) : List Nat → Group → Group
  | [], g => g
  | i :: is, g =>
    match g.rollId[i]? with
    | none => g
    | some roll =>
      match roll.playerVote.find? guid with
      | none => removeFromRolls guid draw is g
      | some vote =>
        let roll := roll.removeVote guid vote
        let g := { g with rollId := g.rollId.set i roll }
        removeFromRolls guid draw is (g.countRollVote guid roll.itemGUID 4 draw)

/-- `Disband`, with the player who left if there is one. -/
def disband (guid : Guid) : Group :=
  { g with
    members := []
    rollId := []
    dropped := g.dropped ++ (g.rollId.filter (·.isValid g.loots)).map fun roll =>
      { roll with playerVote := roll.playerVote.erase guid } }

/-- `RemoveMember`, with the number of members online afterwards. -/
def removeMember (guid : Guid) (online : Nat) (draw : Draw) : Group :=
  let least := if g.isBGGroup then 1 else 2
  if least < g.members.length then
    let g := removeFromRolls guid draw (List.range g.rollId.length) g
    let g := { g with members := g.members.erase guid }
    if online < least then g.disband guid else g
  else g.disband guid

inductive Event where
  | addMember (guid : Guid)
  | sendLoot (lootId : Nat) (terms : Terms)
  | countRollVote (player : Guid) (guid : Nat) (choice : Nat) (draw : Draw)
  | endRoll (lootId : Nat) (draws : Nat → Draw)
  | removeMember (guid : Guid) (online : Nat) (draw : Draw)
  | deleteLoot (lootId : Nat)

/-- One event. A group takes no more than `MAXRAIDSIZE` members. -/
def step (g : Group) : Event → Group
  | .addMember guid =>
    if g.members.length < maxRaidSize ∧ guid ∉ g.members then
      { g with members := g.members ++ [guid] }
    else g
  | .sendLoot lootId terms => g.sendLoot lootId terms
  | .countRollVote player guid choice draw => g.countRollVote player guid choice draw
  | .endRoll lootId draws => endRoll lootId draws g.rollId.length g
  | .removeMember guid online draw => g.removeMember guid online draw
  | .deleteLoot lootId => { g with loots := Function.update g.loots lootId none }

end Group

/-! ## What a roll should be -/

/-- The three sums of a roll are the votes of its map. -/
structure Roll.Counted (roll : Roll) : Prop where
  need : roll.totalNeed = roll.playerVote.count fun _ v => v = .need
  greed : roll.totalGreed = roll.playerVote.count fun _ v => v.greedy
  pass : roll.totalPass = roll.playerVote.count fun _ v => v = .pass

def Roll.Waits (roll : Roll) : Prop := ∃ p, roll.playerVote.find? p = some .notEmitedYet

def BestVoter (votes : OrdMap Guid RollVote) (p : Guid) : Prop :=
  votes.find? p = some .need ∨
    (∀ q, votes.find? q ≠ some .need) ∧ ∃ v, votes.find? p = some v ∧ v.greedy = true

def Result.Settled (r : Result) : Prop :=
  (∃ p, r.given = some ⟨.item r.roll.itemSlot, p⟩ ∧ BestVoter r.roll.playerVote p) ∨
    r.given = none ∧ ∃ item, r.item = some item ∧ item.isBlocked = false

namespace Group

/-- The votes are counted, a roll that is not resolved waits for somebody, and a resolved one is settled. -/
structure Sound (g : Group) : Prop where
  counted : ∀ roll ∈ g.rollId, roll.Counted
  waits : ∀ roll ∈ g.rollId, roll.isValid g.loots = true → roll.Waits
  settled : ∀ r ∈ g.results, r.Settled
  dropped : ∀ roll ∈ g.dropped, roll.Waits

def allRolls (g : Group) : List Roll := g.rollId ++ g.results.map (·.roll)

def FirstVoteFinal (g : Group) (e : Event) : Prop :=
  ∀ roll ∈ g.rollId, ∀ roll' ∈ (g.step e).allRolls, roll'.itemGUID = roll.itemGUID →
    ∀ p v, roll.playerVote.find? p = some v → v ≠ .notEmitedYet →
      roll'.playerVote.find? p = some v ∨ roll'.playerVote.find? p = none

/-! ## The condition -/

def WinnerOnline (roll : Roll) (draw : Draw) : Prop :=
  roll.playerVote.All fun p v => v = .need ∨ v.greedy = true → draw.online p = true

instance (roll : Roll) (draw : Draw) : Decidable (WinnerOnline roll draw) :=
  inferInstanceAs (Decidable (OrdMap.All _ _))

/-- Nobody votes twice, somebody else is undecided when a member leaves and when a roll starts, and those
who want the item are online when the roll is counted. -/
def Attended (g : Group) : Event → Prop
  | .addMember _ => True
  | .sendLoot lootId terms => ∀ loot ∈ g.loots lootId, ∀ i < loot.items.length,
    terms.overThreshold i = true → ∀ p ∈ g.members, terms.eligible i p = true →
      ∃ q ∈ g.members, terms.eligible i q = true ∧ terms.pass q = false
  | .countRollVote player guid choice draw => ∀ roll ∈ g.rollId, roll.itemGUID = guid →
    (∀ v ∈ roll.playerVote.find? player, choice < 4 → v = .notEmitedYet) ∧
      WinnerOnline (roll.vote player choice) draw
  | .endRoll lootId draws => ∀ roll ∈ g.rollId, roll.lootId = lootId →
    WinnerOnline roll (draws roll.itemGUID)
  | .removeMember guid _ _ => ∀ roll ∈ g.rollId, roll.isValid g.loots = true →
    ∃ p ∈ roll.playerVote.keys, p ≠ guid ∧ roll.playerVote.find? p = some .notEmitedYet
  | .deleteLoot _ => True

instance (g : Group) : (e : Event) → Decidable (g.Attended e)
  | .addMember _ => inferInstanceAs (Decidable True)
  | .sendLoot lootId terms => inferInstanceAs (Decidable (∀ loot ∈ g.loots lootId,
      ∀ i < loot.items.length, terms.overThreshold i = true → ∀ p ∈ g.members, _ → ∃ q ∈ g.members, _))
  | .countRollVote player _ _ _ => inferInstanceAs (Decidable (∀ roll ∈ g.rollId, _ →
      (∀ v ∈ roll.playerVote.find? player, _ → _) ∧ WinnerOnline _ _))
  | .endRoll _ _ => inferInstanceAs (Decidable (∀ roll ∈ g.rollId, _ → WinnerOnline _ _))
  | .removeMember _ _ _ => inferInstanceAs (Decidable (∀ roll ∈ g.rollId, _ →
      ∃ p ∈ roll.playerVote.keys, _ ∧ _))
  | .deleteLoot _ => inferInstanceAs (Decidable True)

end Group

end Axium.Looting
