import Axium.Zones.WarsongFlags

/-!
# Clicks on the flags of Warsong Gulch

A click on the object of one flag is meant to move that flag. The two tests for a flag in its base compare
the object, but the two for a flag on the ground ask only whether the object is near. So a click moves the
other flag too exactly when that one lies on the ground somewhere (`click_moves_only_iff`).
-/

namespace Axium.Zones.WS

open Bg Run

inductive FlagObject where
  | base (flag : Team)
  | dropped (flag : Team)
  deriving DecidableEq, Repr

namespace FlagObject

def flag : FlagObject → Team
  | base flag => flag
  | dropped flag => flag

def inBase : FlagObject → Option Team
  | base flag => some flag
  | dropped _ => none

end FlagObject

structure SameFlag (z z' : WarsongGulch) (flag : Team) : Prop where
  state : z'.flagState.get flag = z.flagState.get flag
  keeper : z'.flagKeepers.get flag = z.flagKeepers.get flag

namespace SameFlag

variable {z z' z'' : WarsongGulch} {flag : Team}

theorem refl (z : WarsongGulch) (flag : Team) : SameFlag z z flag := ⟨rfl, rfl⟩

theorem trans (h : SameFlag z z' flag) (h' : SameFlag z' z'' flag) : SameFlag z z'' flag :=
  ⟨h'.state.trans h.state, h'.keeper.trans h.keeper⟩

theorem respawnFlag {f : Team} (z : WarsongGulch) (hne : f ≠ flag) : SameFlag z (z.respawnFlag f) flag :=
  ⟨PerTeam.get_set_ne _ _ hne, rfl⟩

theorem pickUp {f : Team} (z : WarsongGulch) (guid : Guid) (hne : f ≠ flag) :
    SameFlag z (z.pickUp f guid) flag :=
  ⟨PerTeam.get_set_ne _ _ hne, PerTeam.get_set_ne _ _ hne⟩

theorem clickBase {f : Team} (z : WarsongGulch) (team : Team) (guid : Guid) (object : Option Team)
    (hne : f = flag → object ≠ some flag) : SameFlag z (z.clickBase team guid object f) flag := by
  unfold WarsongGulch.clickBase
  split
  · rename_i hclick
    have hf : f ≠ flag := fun heq => hne heq (heq ▸ hclick.2.2)
    exact ⟨(pickUp z guid hf).state, (pickUp z guid hf).keeper⟩
  · exact refl z flag

theorem clickGround {f : Team} (z : WarsongGulch) (team : Team) (guid : Guid) (within : Bool)
    (hne : f ≠ flag) : SameFlag z (z.clickGround team guid within f) flag := by
  unfold WarsongGulch.clickGround
  split
  · split
    · exact respawnFlag z hne
    · exact pickUp z guid hne
  · exact refl z flag

theorem clickGround_self_iff (z : WarsongGulch) (team : Team) (guid : Guid) :
    SameFlag z (z.clickGround team guid true flag) flag ↔ z.flagState.get flag ≠ .onGround := by
  constructor
  · intro h hground
    have hstate := h.state
    rw [WarsongGulch.clickGround, if_pos ⟨hground, rfl⟩] at hstate
    split at hstate
    · rw [hground, WarsongGulch.respawnFlag, PerTeam.get_set_self] at hstate
      cases hstate
    · rw [hground, WarsongGulch.pickUp, PerTeam.get_set_self] at hstate
      cases hstate
  · intro hnot
    rw [WarsongGulch.clickGround, if_neg fun h => hnot h.1]
    exact refl z flag

theorem trans_iff (h : SameFlag z z' flag) : SameFlag z z'' flag ↔ SameFlag z' z'' flag :=
  ⟨fun h' => ⟨h'.state.trans h.state.symm, h'.keeper.trans h.keeper.symm⟩, h.trans⟩

theorem trans_iff_right (h : SameFlag z' z'' flag) : SameFlag z z'' flag ↔ SameFlag z z' flag :=
  ⟨fun h' => ⟨h.state.symm.trans h'.state, h.keeper.symm.trans h'.keeper⟩, fun h' => h'.trans h⟩

end SameFlag

theorem sameFlag_click_iff (z : WarsongGulch) (team : Team) (guid : Guid) {object : Option Team}
    {flag : Team} (hobject : object ≠ some flag) :
    SameFlag z (z.eventPlayerClickedOnFlag .inProgress team guid object true) flag ↔
      z.flagState.get flag ≠ .onGround := by
  let z' := (z.clickBase team guid object .alliance).clickBase team guid object .horde
  have hbase : SameFlag z z' flag :=
    (SameFlag.clickBase z team guid object fun _ => hobject).trans
      (SameFlag.clickBase _ team guid object fun _ => hobject)
  have hevent : z.eventPlayerClickedOnFlag .inProgress team guid object true =
      (z'.clickGround team guid true .alliance).clickGround team guid true .horde := if_pos rfl
  rw [hevent, hbase.trans_iff, ← hbase.state]
  cases flag with
  | alliance =>
    have hhorde : SameFlag (z'.clickGround team guid true .alliance)
        ((z'.clickGround team guid true .alliance).clickGround team guid true .horde) .alliance :=
      SameFlag.clickGround _ team guid true (by decide)
    rw [hhorde.trans_iff_right]
    exact SameFlag.clickGround_self_iff z' team guid
  | horde =>
    have halliance : SameFlag z' (z'.clickGround team guid true .alliance) .horde :=
      SameFlag.clickGround z' team guid true (by decide)
    rw [halliance.trans_iff, ← halliance.state]
    exact SameFlag.clickGround_self_iff _ team guid

structure OnlyMoves (z z' : WarsongGulch) (flag : Team) : Prop where
  same : SameFlag z z' flag.other
  scores : z'.teamScores = z.teamScores

/-- **A click on an object of a flag moves only that flag exactly when the other does not lie on the
ground.** -/
theorem click_moves_only_iff (z : WarsongGulch) (team : Team) (guid : Guid) (o : FlagObject) :
    OnlyMoves z (z.eventPlayerClickedOnFlag .inProgress team guid o.inBase true) o.flag ↔
      z.flagState.get o.flag.other ≠ .onGround := by
  have hobject : o.inBase ≠ some o.flag.other := by
    cases o with
    | base flag => cases flag <;> decide
    | dropped flag => exact nofun
  have hsame := sameFlag_click_iff z team guid hobject
  exact ⟨fun h => hsame.1 h.same, fun h => ⟨hsame.2 h, eventPlayerClickedOnFlag_scores z _ _ _ _ _⟩⟩

def bothDropped : Zone WarsongGulch :=
  run step (create duelConfig duelWorld duelMemory)
    ([.addPlayer 1, .addPlayer 2, .update () 0, .update () 60000, .update () 0, .update () 0,
      .handle (.eventPlayerClickedOnFlag 1 (some .horde) true),
      .handle (.eventPlayerClickedOnFlag 2 (some .alliance) true),
      .handle (.eventPlayerDroppedFlag 1), .handle (.eventPlayerDroppedFlag 2)].map (duelWorld, ·))

/-- Player 1 clicks the flag of the Alliance on the ground: it is returned, and the player has the flag of
the Horde, wherever that lies. -/
theorem click_moves_both :
    bothDropped.bg.status = .inProgress ∧
      bothDropped.own.flagState = ⟨.onGround, .onGround⟩ ∧
      let z := (step bothDropped (duelWorld, .handle
        (.eventPlayerClickedOnFlag 1 (FlagObject.dropped .alliance).inBase true))).own
      z.flagState = ⟨.onBase, .onPlayer⟩ ∧ z.flagKeepers.get .horde = 1 := by
  decide

end Axium.Zones.WS
