import Axium.Guilds.Gold
import Axium.Player.Custody
import Axium.Trade.Agreement

/-!
# A trade conserves items and money

The items of both offers are taken out first and stored pair by pair. While that goes on they are in the
hands of nobody, and what the two inventories hold with what is in hand is the same all the time
(`InTransit`). Three things break this: gold that takes the receiver over the cap, an item that comes back
into the vector that was filled for the other item of its pair, and an item that its owner has no room for
any more.
-/

namespace Axium.Trade

open Guilds Stacks Function Player Vault Inventory List

namespace Table

variable {M : Market} {t t' : Table} {me s : Side} {it : Item}

def pieces (t : Table) (e : Nat) : Nat := total e (t.inv .left).slots + total e (t.inv .right).slots

/-- The pieces of the kind `e` in hand. -/
def loose (hand : List Item) (e : Nat) : Nat := (hand.map fun it => amount e (some it)).sum

/-- The two inventories are well kept and share no item. -/
structure Kept (M : Market) (t : Table) : Prop where
  kept : ∀ s, WellKept (M.rules s) (t.inv s)
  counter : ∀ s s', (t.inv s).nextGuid = (t.inv s').nextGuid
  apart : ∀ {s q q' it it'}, (t.inv s).slots q = some it → (t.inv s.other).slots q' = some it' →
    it'.guid ≠ it.guid

structure InTransit (M : Market) (t : Table) (hand : List Item) : Prop extends Kept M t where
  nodup : (hand.map (·.guid)).Nodup
  inHand : ∀ it ∈ hand, ∀ s, InHand (t.inv s).nextGuid (t.inv s).slots it
  bounded : ∀ it ∈ hand, it.count ≤ (M.template it.entry).getMaxStackSize

/-! ## One inventory is written -/

variable (inv : Inventory)

theorem pieces_eq (s : Side) (e : Nat) :
    t.pieces e = total e (t.inv s).slots + total e (t.inv s.other).slots := by
  cases s with
  | left => rfl
  | right => exact add_comm ..

theorem pieces_setInv (e : Nat) :
    (t.setInv s inv).pieces e = total e inv.slots + total e (t.inv s.other).slots := by
  rw [pieces_eq s, inv_setInv_self, inv_setInv_other]

theorem Kept.setInv {inv : Inventory} (h : Kept M t) (hinv : WellKept (M.rules s) inv)
    (hnext : (t.inv s).nextGuid ≤ inv.nextGuid)
    (hapart : ∀ {q q' it it'}, inv.slots q = some it → (t.inv s.other).slots q' = some it' →
      it'.guid ≠ it.guid) : Kept M (t.setInv s inv) := by
  have hother := inv_setInv_other (t := t) (s := s) inv
  have hself := inv_setInv_self (t := t) (s := s) inv
  refine ⟨?_, ?_, ?_⟩
  · intro x
    rcases s.eq_or_eq_other x with rfl | rfl
    · rw [hself]
      exact hinv
    · rw [hother]
      exact (h.kept s.other).next (by rw [h.counter s.other s]; exact hnext)
  · have hnextGuid : ∀ x, ((t.setInv s inv).inv x).nextGuid = inv.nextGuid := by
      intro x
      rcases s.eq_or_eq_other x with rfl | rfl
      · rw [hself]
      · rw [hother]
    intro x x'
    rw [hnextGuid, hnextGuid]
  · intro x q q' u u' hu hu'
    rcases s.eq_or_eq_other x with rfl | rfl
    · rw [hself] at hu
      rw [hother] at hu'
      exact hapart hu hu'
    · rw [hother] at hu
      rw [s.other_other, hself] at hu'
      exact (hapart hu' hu).symm

/-! ## Taking out -/

def Offered (M : Market) (t : Table) (s : Side) (it : Item) : Prop :=
  ∃ p, (t.inv s).getItemByPos (M.rules s) p = some it ∧ ∀ bag, (t.inv s).getBagByPos (M.rules s) bag ≠ some it

theorem Offered.empty (h : Kept M t) (hit : Offered M t s it) :
    (t.inv s).isNotEmptyBag (M.rules s) it = false := by
  obtain ⟨p, hp, hbag⟩ := hit
  by_contra hnot
  rw [Bool.not_eq_false] at hnot
  obtain ⟨bag, -, hany⟩ := any_eq_true.1 hnot
  cases hb : (t.inv s).toVault.getBagByPos ((M.rules s).realm (t.inv s).toVault) bag with
  | none =>
    rw [hb] at hany
    cases hany
  | some b =>
    rw [hb] at hany
    have hguid : b.guid = it.guid := (of_decide_eq_true hany).1
    have hslots := (getBagByPos_some.1 hb).2.1
    have hsame := (h.kept s).valid.sound.apart hslots (getItemByPos_some hp).2 hguid
    rw [hsame, (getItemByPos_some hp).2] at hslots
    cases hslots
    exact hbag bag hb

theorem takeOut_eq (h : Kept M t) {p : Pos} (hp : (t.inv s).getItemByPos (M.rules s) p = some it) :
    t.takeOut M s it = t.setInv s ((t.inv s).removeItem (M.rules s) p) := by
  unfold takeOut
  rw [(h.kept s).getPos_of_getItemByPos hp]

variable {hand : List Item}

theorem InTransit.takeOut (h : InTransit M t hand) (hit : Offered M t s it) :
    InTransit M (t.takeOut M s it) (it :: hand) ∧
      ∀ e, (t.takeOut M s it).pieces e + amount e (some it) = t.pieces e := by
  have hkept := h.kept s
  have hempty := hit.empty h.toKept
  obtain ⟨p, hp, hbag⟩ := hit
  obtain ⟨hvis, hslots⟩ := getItemByPos_some hp
  have hslots' := removeItem_slots hkept hp hempty
  have hnext' := removeItem_nextGuid hkept hp hempty
  have hold : ∀ {q u}, ((t.inv s).removeItem (M.rules s) p).slots q = some u → (t.inv s).slots q = some u := by
    intro q u hu
    rw [hslots'] at hu
    by_cases hqp : q = p.place
    · rw [hqp, update_self] at hu
      cases hu
    · rwa [update_of_ne hqp] at hu
  rw [takeOut_eq h.toKept hp]
  refine ⟨⟨h.toKept.setInv (hkept.take hp hempty) hnext'.ge (fun hu hu' => h.apart (hold hu) hu'),
    ?_, ?_, ?_⟩, ?_⟩
  · rw [map_cons, nodup_cons]
    refine ⟨?_, h.nodup⟩
    intro hmem
    obtain ⟨u, hu, hguid⟩ := mem_map.1 hmem
    exact (h.inHand u hu s).apart hslots hguid.symm
  · intro u hu x
    rcases s.eq_or_eq_other x with rfl | rfl
    · rw [inv_setInv_self, hslots', hnext']
      rcases mem_cons.1 hu with rfl | hu
      · exact hkept.valid.sound.inHand hslots
      · exact (h.inHand u hu x).take _
    · rw [inv_setInv_other]
      rw [hnext']
      rcases mem_cons.1 hu with rfl | hu
      · exact ⟨fun hq => h.apart hslots hq, hkept.valid.sound.fresh hslots⟩
      · rw [h.counter s s.other]
        exact h.inHand u hu s.other
  · intro u hu
    rcases mem_cons.1 hu with rfl | hu
    · exact hkept.valid.sound.bounded hslots
    · exact h.bounded u hu
  · intro e
    have htake := total_take e hslots
    rw [pieces_setInv, hslots', pieces_eq s, amount_some]
    omega

theorem Offered.takeOut {it' : Item} {x : Side} (h : Kept M t) (hit : Offered M t s it)
    (hit' : Offered M t x it') (hne : it'.guid ≠ it.guid) : Offered M (t.takeOut M s it) x it' := by
  have hempty := hit.empty h
  obtain ⟨p, hp, hbag⟩ := hit
  obtain ⟨p', hp', hbag'⟩ := hit'
  rw [takeOut_eq h hp]
  rcases s.eq_or_eq_other x with rfl | rfl
  · have hslots := removeItem_slots (h.kept x) hp hempty
    -- no bag in a bag slot was taken out
    have hbags : ∀ bag, ((t.inv x).removeItem (M.rules x) p).getBagByPos (M.rules x) bag =
        (t.inv x).getBagByPos (M.rules x) bag := by
      intro bag
      unfold Inventory.getBagByPos Vault.getBagByPos
      rw [hslots]
      by_cases hmem : bag ∈ inventoryBags ∨ bag ∈ bankBags
      · rw [if_pos hmem, if_pos hmem]
        by_cases heq : (⟨false, bag0, bag⟩ : Place) = p.place
        · have hitbag : (((M.rules x).realm (t.inv x).toVault).template it.entry).isBag = false := by
            by_contra htrue
            rw [Bool.not_eq_false] at htrue
            refine hbag bag (getBagByPos_some.2 ⟨hmem, ?_, htrue⟩)
            rw [heq]
            exact (getItemByPos_some hp).2
          rw [heq, update_self, (getItemByPos_some hp).2, Option.filter_some, hitbag]
          rfl
        · rw [update_of_ne heq]
          rfl
      · rw [if_neg hmem, if_neg hmem]
    refine ⟨p', ?_, fun bag => ?_⟩
    · rw [inv_setInv_self]
      obtain ⟨hvis', hslots'⟩ := getItemByPos_some hp'
      have hpp : p'.place ≠ p.place := by
        intro heq
        rw [heq, (getItemByPos_some hp).2] at hslots'
        cases hslots'
        exact hne rfl
      have hvis : Visible ((M.rules x).realm ((t.inv x).removeItem (M.rules x) p).toVault)
          ((t.inv x).removeItem (M.rules x) p).toVault p'.place := by
        rcases visible_player.1 hvis' with hout | ⟨b, hb, hj⟩
        · exact visible_player.2 (.inl hout)
        · exact visible_player.2 (.inr ⟨b, (hbags _).trans hb, hj⟩)
      rw [getItemByPos_of_visible hvis, hslots, update_of_ne hpp, hslots']
    · rw [inv_setInv_self, hbags]
      exact hbag' bag
  · refine ⟨p', ?_, fun bag => ?_⟩
    · rw [inv_setInv_other]
      exact hp'
    · rw [inv_setInv_other]
      exact hbag' bag

def goods (me : Side) : List (Option Item × Option Item) → List (Side × Item)
  | [] => []
  | (mine, his) :: rest => (mine.toList.map (Prod.mk me) ++ his.toList.map (Prod.mk me.other)) ++ goods me rest

variable (pairs : List (Option Item × Option Item))

theorem takeAll_eq : takeAll M me pairs t = (goods me pairs).foldl (fun t g => t.takeOut M g.1 g.2) t := by
  induction pairs generalizing t with
  | nil => rfl
  | cons pair rest ih =>
    obtain ⟨mine, his⟩ := pair
    unfold takeAll goods
    rw [ih]
    cases mine <;> cases his <;> rfl

theorem InTransit.takeOuts (h : InTransit M t hand) {gs : List (Side × Item)}
    (hoffered : ∀ g ∈ gs, Offered M t g.1 g.2) (hnodup : (gs.map fun g => g.2.guid).Nodup) :
    ∃ hand', InTransit M (gs.foldl (fun t g => t.takeOut M g.1 g.2) t) hand' ∧
      hand'.Perm (gs.map Prod.snd ++ hand) ∧
      ∀ e, (gs.foldl (fun t g => t.takeOut M g.1 g.2) t).pieces e + loose (gs.map Prod.snd) e = t.pieces e := by
  induction gs generalizing t hand with
  | nil => exact ⟨hand, h, List.Perm.refl _, fun _ => add_zero _⟩
  | cons g gs ih =>
    obtain ⟨x, it⟩ := g
    rw [map_cons, nodup_cons] at hnodup
    have hit := hoffered (x, it) (mem_cons_self ..)
    obtain ⟨hfirst, hpieces⟩ := h.takeOut hit
    obtain ⟨hand', htransit, hperm, hrest⟩ := ih hfirst (by
      intro g hg
      refine hit.takeOut h.toKept (hoffered g (mem_cons_of_mem _ hg)) ?_
      intro hguid
      exact hnodup.1 (mem_map.2 ⟨g, hg, hguid⟩)) hnodup.2
    refine ⟨hand', htransit, hperm.trans ?_, ?_⟩
    · exact perm_middle
    · intro e
      have h₁ := hpieces e
      have h₂ := hrest e
      unfold loose at h₂ ⊢
      rw [map_cons, map_cons, sum_cons]
      rw [foldl_cons]
      omega

/-! ## Storing -/

structure Roomy (W : Rules) (inv : Inventory) (it : Item) (dest : List (Place × Nat)) : Prop where
  nodup : (dest.map Prod.fst).Nodup
  room : ∀ q ∈ dest, q.1.isBank = false ∧ Visible (W.realm inv.toVault) inv.toVault q.1 ∧
    Room (W.realm inv.toVault).maxStack inv.slots it.entry q.1 q.2
  sum : (dest.map Prod.snd).sum = it.count

variable {dest : List (Place × Nat)}

theorem roomy_of_canStore (hit : InHand (t.inv s).nextGuid (t.inv s).slots it)
    (hcount : it.count ≤ (M.template it.entry).getMaxStackSize)
    (h : t.canStore M s [] (some it) = (true, dest)) : Roomy (M.rules s) (t.inv s) it dest := by
  obtain ⟨hok, hdest⟩ := Prod.mk.injEq .. ▸ h
  have hcan : (t.inv s).toVault.canStoreItem ((M.rules s).realm (t.inv s).toVault) nullBag nullSlot it false =
      (.ok, dest) := by
    rw [← hdest, ← of_decide_eq_true hok]
    rfl
  have hfits := canStoreItem_fits (R := (M.rules s).realm (t.inv s).toVault) hcount hcan
  rw [Vault.Fits, hit.without] at hfits
  refine ⟨hfits.nodup, ?_, hfits.sum⟩
  intro q hq
  obtain ⟨⟨hvis, hbank⟩, hroom⟩ := hfits.room q hq
  exact ⟨hbank, hvis, hroom⟩

theorem InTransit.store (h : InTransit M t (it :: hand)) (hdest : Roomy (M.rules s) (t.inv s) it dest) :
    InTransit M (t.store M s dest it) hand ∧
      ∀ e, (t.store M s dest it).pieces e = t.pieces e + amount e (some it) := by
  have hhand := h.inHand it (mem_cons_self ..)
  have hnodup := h.nodup
  rw [map_cons, nodup_cons] at hnodup
  have hguid : ∀ u ∈ hand, it.guid ≠ u.guid := fun u hu heq => hnodup.1 (mem_map.2 ⟨u, hu, heq.symm⟩)
  obtain ⟨hkept, hslots, hnext, -, -⟩ := (h.kept s).store (hhand s) hdest.nodup hdest.room
  have hstow := stow_spec (h.kept s).valid.sound (hhand s) hdest.nodup (fun q hq => (hdest.room q hq).2.2)
  rw [← hslots, ← hnext] at hstow
  unfold Table.store
  refine ⟨⟨h.toKept.setInv hkept hstow.le ?_, hnodup.2, ?_, fun u hu => h.bounded u (mem_cons_of_mem _ hu)⟩, ?_⟩
  · -- what is new in the slots is the item, or has a new guid
    intro q q' u u' hu hu'
    rcases hstow.guids hu with hg | hg | ⟨w, hw, hg⟩
    · rw [hg]
      exact (hhand s.other).apart hu'
    · have hfresh := (h.kept s.other).valid.sound.fresh hu'
      rw [h.counter s.other s] at hfresh
      exact (lt_of_lt_of_le hfresh hg).ne
    · rw [← hg]
      exact h.apart hw hu'
  · intro u hu x
    have huhand := h.inHand u (mem_cons_of_mem _ hu)
    rcases s.eq_or_eq_other x with rfl | rfl
    · rw [inv_setInv_self]
      exact hstow.inHand (huhand x) (hguid u hu)
    · rw [inv_setInv_other]
      exact (huhand s.other).mono (by rw [h.counter s.other s]; exact hstow.le)
  · intro e
    have htotal := hstow.total e
    rw [hdest.sum] at htotal
    rw [pieces_setInv, pieces_eq s, amount_some]
    omega

theorem Roomy.store_other {dest' : List (Place × Nat)} {it' : Item} (h : Roomy (M.rules s) (t.inv s) it dest) :
    Roomy (M.rules s) ((t.store M s.other dest' it').inv s) it dest := by
  have hinv := inv_setInv_other (t := t) (s := s.other)
    (Inventory.storeItem (M.rules s.other) it' dest' (t.inv s.other))
  rw [s.other_other] at hinv
  unfold Table.store
  rw [hinv]
  exact ⟨h.nodup, h.room, h.sum⟩

/-! ## The rounds of the exchange -/

def Returns (M : Market) (t : Table) (s : Side) (dest : List (Place × Nat)) (o : Option Item) : Prop :=
  o = none ∨ dest = [] ∧ (t.canStore M s [] o).1 = true

instance {dest : List (Place × Nat)} {o : Option Item} : Decidable (t.Returns M s dest o) :=
  inferInstanceAs (Decidable (_ ∨ _ ∧ _))

def SettlesPair (M : Market) (t : Table) (me : Side) (mine his : Option Item) : Prop :=
  (t.canStore M me.other [] mine).1 = true ∧ (t.canStore M me [] his).1 = true ∨
  t.Returns M me (t.canStore M me [] his).2 mine ∧
    (t.giveBack M me (t.canStore M me [] his).2 mine).Returns M me.other (t.canStore M me.other [] mine).2 his

instance {mine his : Option Item} : Decidable (t.SettlesPair M me mine his) :=
  inferInstanceAs (Decidable (_ ∧ _ ∨ _ ∧ _))

def Settles (M : Market) (me : Side) : List (Option Item × Option Item) → Table → Prop
  | [], _ => True
  | (mine, his) :: rest, t => t.SettlesPair M me mine his ∧ Settles M me rest (t.movePair M me mine his).1

instance Settles.decidable : ∀ pairs (t : Table), Decidable (Settles M me pairs t)
  | [], _ => isTrue trivial
  | (mine, his) :: rest, t =>
    have := Settles.decidable rest (t.movePair M me mine his).1
    inferInstanceAs (Decidable (_ ∧ _))

theorem loose_append (hand hand' : List Item) (e : Nat) :
    loose (hand ++ hand') e = loose hand e + loose hand' e := by
  unfold loose
  rw [map_append, sum_append]

theorem InTransit.perm {hand' : List Item} (h : InTransit M t hand) (hperm : hand.Perm hand') :
    InTransit M t hand' :=
  ⟨h.toKept, (hperm.map _).nodup_iff.1 h.nodup, fun it hit => h.inHand it (hperm.mem_iff.2 hit),
    fun it hit => h.bounded it (hperm.mem_iff.2 hit)⟩

def PutAway (M : Market) (t t' : Table) (o : Option Item) (hand : List Item) : Prop :=
  InTransit M t' hand ∧ ∀ e, t'.pieces e = t.pieces e + loose o.toList e

theorem putAway_none (h : InTransit M t hand) : PutAway M t t none hand := ⟨h, fun _ => (add_zero _).symm⟩

theorem InTransit.putAway (h : InTransit M t (it :: hand))
    (hdest : Roomy (M.rules s) (t.inv s) it dest) : PutAway M t (t.store M s dest it) (some it) hand := by
  obtain ⟨htransit, hpieces⟩ := h.store hdest
  refine ⟨htransit, fun e => ?_⟩
  rw [Option.toList_some]
  exact hpieces e

theorem InTransit.roomy (h : InTransit M t hand)
    (hit : it ∈ hand) (hcan : t.canStore M s [] (some it) = (true, dest)) :
    Roomy (M.rules s) (t.inv s) it dest :=
  roomy_of_canStore (h.inHand it hit s) (h.bounded it hit) hcan

theorem canStore_eq {o : Option Item} (h : (t.canStore M s [] o).1 = true) :
    t.canStore M s [] o = (true, (t.canStore M s [] o).2) := Prod.ext h rfl

theorem InTransit.giveBack {o : Option Item}
    (h : InTransit M t (o.toList ++ hand)) (hreturns : t.Returns M s dest o) :
    PutAway M t (t.giveBack M s dest o) o hand := by
  cases o with
  | none => exact putAway_none h
  | some it =>
    obtain ⟨rfl, hcan⟩ := hreturns.resolve_left (Option.some_ne_none it)
    have hdest := h.roomy (mem_cons_self ..) (canStore_eq hcan)
    unfold Table.giveBack
    dsimp only
    rw [if_pos hcan]
    exact InTransit.putAway h hdest

theorem InTransit.movePair {mine his : Option Item}
    (h : InTransit M t (mine.toList ++ (his.toList ++ hand))) (hsettles : t.SettlesPair M me mine his) :
    InTransit M (t.movePair M me mine his).1 hand ∧
      ∀ e, (t.movePair M me mine his).1.pieces e = t.pieces e + loose (mine.toList ++ his.toList) e := by
  have hjoin : ∀ {t₁ t₂ : Table}, PutAway M t t₁ mine (his.toList ++ hand) → PutAway M t₁ t₂ his hand →
      InTransit M t₂ hand ∧ ∀ e, t₂.pieces e = t.pieces e + loose (mine.toList ++ his.toList) e := by
    intro t₁ t₂ h₁ h₂
    refine ⟨h₂.1, fun e => ?_⟩
    rw [h₂.2 e, h₁.2 e, loose_append, add_assoc]
  unfold Table.movePair
  by_cases hboth : (t.canStore M me.other [] mine).1 = true ∧ (t.canStore M me [] his).1 = true
  · rw [if_pos hboth]
    have hfirst : PutAway M t (mine.elim t (t.store M me.other (t.canStore M me.other [] mine).2)) mine
        (his.toList ++ hand) := by
      cases mine with
      | none => exact putAway_none h
      | some it => exact InTransit.putAway h (h.roomy (mem_cons_self ..) (canStore_eq hboth.1))
    refine hjoin hfirst ?_
    cases his with
    | none => exact putAway_none hfirst.1
    | some it' =>
      have hmem : it' ∈ mine.toList ++ ([it'] ++ hand) := by simp
      have hdest := h.roomy hmem (canStore_eq hboth.2)
      refine InTransit.putAway hfirst.1 ?_
      cases mine with
      | none => exact hdest
      | some it => exact hdest.store_other
  · rw [if_neg hboth]
    dsimp only
    obtain ⟨hmine, hhis⟩ := hsettles.resolve_left hboth
    have hfirst := h.giveBack hmine
    exact hjoin hfirst (hfirst.1.giveBack hhis)

/-- What is in hand during the rounds for `pairs`. -/
def inHands (pairs : List (Option Item × Option Item)) : List Item :=
  pairs.flatMap fun pair => pair.1.toList ++ pair.2.toList

theorem InTransit.moveItems {pairs : List (Option Item × Option Item)}
    (h : InTransit M t (inHands pairs)) (hsettles : Settles M me pairs t) :
    InTransit M (moveItems M me pairs t).1 [] ∧
      ∀ e, (moveItems M me pairs t).1.pieces e = t.pieces e + loose (inHands pairs) e := by
  induction pairs generalizing t with
  | nil => exact ⟨h, fun _ => (add_zero _).symm⟩
  | cons pair rest ih =>
    obtain ⟨mine, his⟩ := pair
    have hhand : inHands ((mine, his) :: rest) = mine.toList ++ (his.toList ++ inHands rest) := by
      unfold inHands
      rw [flatMap_cons, append_assoc]
    rw [hhand] at h ⊢
    obtain ⟨hround, hpieces⟩ := h.movePair hsettles.1
    obtain ⟨hrest, hpieces'⟩ := ih hround hsettles.2
    refine ⟨hrest, fun e => ?_⟩
    change (Table.moveItems M me rest (t.movePair M me mine his).1).1.pieces e = _
    rw [hpieces' e, hpieces e, ← append_assoc, loose_append (mine.toList ++ his.toList), add_assoc]

/-! ## What is offered -/

/-- No item is named twice. `HandleSetTradeItemOpcode` refuses an item that is in the window. -/
def NamesOnce (trade : Side → TradeData) : Prop :=
  ∀ s i j, (trade s).items i = (trade s).items j → (trade s).items i ≠ 0 → i = j

variable {trade : Side → TradeData}

theorem getItem_guid {i : Fin 7} (h : t.getItem M trade s i = some it) :
    (trade s).items i = it.guid ∧ (trade s).items i ≠ 0 ∧
      ∃ p, (t.inv s).getItemByPos (M.rules s) p = some it := by
  unfold getItem at h
  by_cases hzero : (trade s).items i = 0
  · rw [if_pos hzero] at h
    cases h
  · rw [if_neg hzero] at h
    obtain ⟨p, -, hp⟩ := exists_of_findSome?_eq_some h
    obtain ⟨hpos, hguid⟩ := Option.filter_eq_some_iff.1 hp
    exact ⟨(of_decide_eq_true hguid).symm, hzero, p, hpos⟩

theorem offered_of_canBeTraded {p : Pos} (h : Kept M t)
    (hp : (t.inv s).getItemByPos (M.rules s) p = some it) (hcan : t.canBeTraded M s it = true) :
    Offered M t s it := by
  refine ⟨p, hp, ?_⟩
  intro bag hbag
  obtain ⟨hmem, hslots, hisBag⟩ := getBagByPos_some.1 hbag
  have hpos := (h.kept s).getPos_eq (p := ⟨bag0, bag⟩) hslots (bagSlot_not_inBuyback hmem)
  have hbagPos : isBagPos bag0 bag = true := isBagPos_iff.2 ⟨rfl, hmem⟩
  have hisBag' : (M.template it.entry).isBag = true := hisBag
  unfold canBeTraded at hcan
  simp only [hpos, hbagPos, hisBag', Bool.true_or, Bool.and_true, Bool.not_true, Bool.and_false,
    Bool.false_and] at hcan
  cases hcan

theorem offered_of_tradeable {i : Fin 7} (h : Kept M t) (htradeable : t.tradeable M trade me = true)
    (hi : i ∈ tradedSlots) (hs : s = me ∨ s = me.other) (hit : t.getItem M trade s i = some it) :
    Offered M t s it := by
  obtain ⟨-, -, p, hp⟩ := getItem_guid hit
  apply offered_of_canBeTraded h hp
  have hslot := all_eq_true.1 htradeable i hi
  rw [Bool.and_eq_true] at hslot
  rcases hs with rfl | rfl
  · have hmine := hslot.1
    rw [hit, Option.all_some, Bool.and_eq_true] at hmine
    exact hmine.1
  · have hhis := hslot.2
    rwa [hit, Option.all_some] at hhis

theorem mem_goods {pairs : List (Option Item × Option Item)} {g : Side × Item} (h : g ∈ goods me pairs) :
    g.1 = me ∧ some g.2 ∈ pairs.map Prod.fst ∨ g.1 = me.other ∧ some g.2 ∈ pairs.map Prod.snd := by
  induction pairs with
  | nil => cases h
  | cons pair rest ih =>
    rw [map_cons, map_cons]
    rcases mem_append.1 h with h | h
    · rcases mem_append.1 h with h | h
      · obtain ⟨it, hit, rfl⟩ := mem_map.1 h
        refine .inl ⟨rfl, ?_⟩
        rw [Option.mem_toList.1 hit]
        exact mem_cons_self ..
      · obtain ⟨it, hit, rfl⟩ := mem_map.1 h
        refine .inr ⟨rfl, ?_⟩
        rw [Option.mem_toList.1 hit]
        exact mem_cons_self ..
    · exact (ih h).imp (fun h => ⟨h.1, mem_cons_of_mem _ h.2⟩) fun h => ⟨h.1, mem_cons_of_mem _ h.2⟩

theorem map_snd_goods : (goods me pairs).map Prod.snd = inHands pairs := by
  induction pairs with
  | nil => rfl
  | cons pair rest ih =>
    obtain ⟨mine, his⟩ := pair
    unfold goods inHands
    rw [map_append, ih]
    cases mine <;> cases his <;> rfl

theorem inHands_perm {mine his : List (Option Item)} (h : mine.length = his.length) :
    (inHands (mine.zip his)).Perm (mine.filterMap id ++ his.filterMap id) := by
  induction mine generalizing his with
  | nil =>
    cases his with
    | nil => exact List.Perm.refl _
    | cons y his => cases h
  | cons x mine ih =>
    cases his with
    | nil => cases h
    | cons y his =>
      have hrest := ih (Nat.succ.inj h)
      have hhand : inHands ((x :: mine).zip (y :: his)) = (x.toList ++ y.toList) ++ inHands (mine.zip his) := rfl
      have hcons : ∀ (o : Option Item) l, (o :: l).filterMap id = o.toList ++ l.filterMap id := by
        intro o l
        cases o <;> rfl
      rw [hcons, hcons]
      refine (hrest.append_left _).trans ?_
      rw [perm_iff_count]
      intro c
      simp only [count_append]
      omega

theorem mem_tradedItems (h : some it ∈ t.tradedItems M trade s) :
    ∃ i ∈ tradedSlots, t.getItem M trade s i = some it := mem_map.1 h

theorem nodup_tradedItems (honce : NamesOnce trade) (s : Side) :
    (((t.tradedItems M trade s).filterMap id).map (·.guid)).Nodup := by
  unfold tradedItems
  rw [filterMap_map, map_filterMap]
  apply List.Nodup.filterMap
  · intro i j guid hi hj
    obtain ⟨it, hit, rfl⟩ := Option.map_eq_some_iff.1 hi
    obtain ⟨it', hit', hguid⟩ := Option.map_eq_some_iff.1 hj
    obtain ⟨hi', hzero, -⟩ := getItem_guid hit
    obtain ⟨hj', -, -⟩ := getItem_guid hit'
    exact honce s i j (by rw [hi', hj', hguid]) hzero
  · decide

theorem InTransit.takeAll (h : Kept M t) (honce : NamesOnce trade)
    (htradeable : t.tradeable M trade me = true) :
    InTransit M (takeAll M me (t.pairs M trade me) t) (inHands (t.pairs M trade me)) ∧
      ∀ e, (Table.takeAll M me (t.pairs M trade me) t).pieces e + loose (inHands (t.pairs M trade me)) e =
        t.pieces e := by
  have hstart : InTransit M t [] :=
    ⟨h, nodup_nil, fun _ hit => absurd hit not_mem_nil, fun _ hit => absurd hit not_mem_nil⟩
  have hoffered : ∀ g ∈ goods me (t.pairs M trade me), Offered M t g.1 g.2 := by
    intro g hg
    rcases mem_goods hg with ⟨hside, hitem⟩ | ⟨hside, hitem⟩
    · rw [← hside] at hitem
      obtain ⟨i, hi, hit⟩ := mem_tradedItems hitem
      exact offered_of_tradeable h htradeable hi (.inl hside) hit
    · rw [map_snd_pairs, ← hside] at hitem
      obtain ⟨i, hi, hit⟩ := mem_tradedItems hitem
      exact offered_of_tradeable h htradeable hi (.inr hside) hit
  have hnodup : ((goods me (t.pairs M trade me)).map fun g => g.2.guid).Nodup := by
    rw [show ((goods me (t.pairs M trade me)).map fun g => g.2.guid) =
      ((goods me (t.pairs M trade me)).map Prod.snd).map (·.guid) by rw [map_map]; rfl]
    rw [map_snd_goods]
    have hperm : (inHands (t.pairs M trade me)).Perm
        ((t.tradedItems M trade me).filterMap id ++ (t.tradedItems M trade me.other).filterMap id) :=
      inHands_perm rfl
    rw [(hperm.map _).nodup_iff, map_append]
    refine List.Nodup.append (nodup_tradedItems honce me) (nodup_tradedItems honce me.other) ?_
    -- an item of one trader is none of the other's
    intro guid hmine hhis
    obtain ⟨it, hit, rfl⟩ := mem_map.1 hmine
    obtain ⟨it', hit', hguid⟩ := mem_map.1 hhis
    obtain ⟨i, -, hi⟩ := mem_tradedItems (by simpa using hit)
    obtain ⟨j, -, hj⟩ := mem_tradedItems (by simpa using hit')
    obtain ⟨-, -, p, hp⟩ := getItem_guid hi
    obtain ⟨-, -, p', hp'⟩ := getItem_guid hj
    exact h.apart (getItemByPos_some hp).2 (getItemByPos_some hp').2 hguid
  obtain ⟨hand, htransit, hperm, hpieces⟩ := hstart.takeOuts hoffered hnodup
  rw [← takeAll_eq] at htransit hpieces
  rw [map_snd_goods, append_nil] at hperm
  rw [map_snd_goods] at hpieces
  exact ⟨htransit.perm hperm, hpieces⟩

/-! ## Money -/

theorem money_setInv (x : Side) : ((t.setInv s inv).trader x).money = (t.trader x).money := by
  unfold setInv
  dsimp only
  split <;> rfl

theorem money_takeAll (x : Side) : ((takeAll M me pairs t).trader x).money = (t.trader x).money := by
  induction pairs generalizing t with
  | nil => rfl
  | cons pair rest ih =>
    obtain ⟨mine, his⟩ := pair
    unfold takeAll
    rw [ih]
    cases mine <;> cases his <;> simp [takeOut, money_setInv]

theorem money_giveBack (dest : List (Place × Nat)) (o : Option Item) (x : Side) :
    ((t.giveBack M s dest o).trader x).money = (t.trader x).money := by
  cases o with
  | none => rfl
  | some it =>
    unfold giveBack
    dsimp only
    split
    · exact money_setInv ..
    · rfl

theorem money_moveItems (x : Side) : ((moveItems M me pairs t).1.trader x).money = (t.trader x).money := by
  induction pairs generalizing t with
  | nil => rfl
  | cons pair rest ih =>
    obtain ⟨mine, his⟩ := pair
    unfold moveItems
    rw [ih]
    unfold movePair
    dsimp only
    split
    · cases mine <;> cases his <;> simp [Table.store, money_setInv]
    · rw [money_giveBack, money_giveBack]

def InPurse (money pays earns : Nat) : Prop := money ≤ maxMoneyAmount ∧ money - pays + earns ≤ maxMoneyAmount

theorem payAndEarn_eq {money pays earns : Nat} (hpays : pays ≤ money) (hpurse : InPurse money pays earns) :
    payAndEarn money pays earns = money - pays + earns := by
  obtain ⟨hmoney, hearns⟩ := hpurse
  have hleft : money - pays ≤ maxMoneyAmount := (Nat.sub_le ..).trans hmoney
  have hsmall : earns < 4294967296 := by
    unfold maxMoneyAmount at hearns
    omega
  unfold payAndEarn
  rw [modifyMoney_pay hmoney hpays]
  exact (modifyMoney_earn_iff hleft hsmall).2 (.inr hearns)

/-! ## The law -/

/-- Pieces and money of the two are as many as before. -/
structure Conserved (M : Market) (t t' : Table) : Prop where
  kept : Kept M t'
  pieces : ∀ e, t'.pieces e = t.pieces e
  money : (t'.trader .left).money + (t'.trader .right).money = (t.trader .left).money + (t.trader .right).money

/-- No branch that goes wrong is taken. If the exchange is executed, the gold stays within the caps, and
every pair of items is settled. -/
def Fair (M : Market) (t : Table) (me : Side) : Prop :=
  ∀ trade ∈ t.trade, (t.staysOpen M (setAccepted trade me true) me).isNone →
    (∀ s, InPurse (t.trader s).money (trade s).money (trade s.other).money) ∧
    Settles M me (t.pairs M trade me) (takeAll M me (t.pairs M trade me) t)

theorem Conserved.execute (h : Kept M t) (honce : NamesOnce trade) (hopen : t.staysOpen M trade me = none)
    (hpurse : ∀ s, InPurse (t.trader s).money (trade s).money (trade s.other).money)
    (hsettles : Settles M me (t.pairs M trade me) (takeAll M me (t.pairs M trade me) t)) :
    Conserved M t (t.execute M trade me) := by
  have hchecked := checked_of_executed hopen
  obtain ⟨htransit, htaken⟩ := InTransit.takeAll h honce hchecked.tradeable
  obtain ⟨hdone, hstored⟩ := htransit.moveItems hsettles
  have hpays : ∀ s, (trade s).money ≤ (t.trader s).money := by
    intro s
    rcases me.eq_or_eq_other s with rfl | rfl
    · exact hchecked.mine
    · exact hchecked.his
  have hmoney : ∀ s, ((t.execute M trade me).trader s).money =
      (t.trader s).money - (trade s).money + (trade s.other).money := by
    intro s
    change payAndEarn ((Table.moveItems M me _ _).1.trader s).money _ _ = _
    rw [money_moveItems, money_takeAll]
    exact payAndEarn_eq (hpays s) (hpurse s)
  refine ⟨⟨hdone.kept, hdone.counter, hdone.apart⟩, ?_, ?_⟩
  · intro e
    change (Table.moveItems M me (t.pairs M trade me) (Table.takeAll M me (t.pairs M trade me) t)).1.pieces e = _
    rw [hstored e, htaken e]
  · have hleft := hpays .left
    have hright := hpays .right
    rw [hmoney, hmoney]
    change _ - _ + (trade .right).money + (_ - _ + (trade .left).money) = _
    omega

/-- **An accept conserves items and money** when it takes no branch that goes wrong. -/
theorem conserved_of_fair (h : Kept M t) (honce : ∀ trade ∈ t.trade, NamesOnce trade) (hfair : Fair M t me) :
    Conserved M t (t.handleAccept M me) := by
  unfold handleAccept
  cases htrade : t.trade with
  | none => exact ⟨h, fun _ => rfl, rfl⟩
  | some trade =>
    dsimp only
    cases hopen : t.staysOpen M (setAccepted trade me true) me with
    | some trade' => exact ⟨⟨h.kept, h.counter, h.apart⟩, fun _ => rfl, rfl⟩
    | none =>
      obtain ⟨hpurse, hsettles⟩ := hfair trade htrade (by rw [hopen]; rfl)
      have hsame := sameOffer_setAccepted trade me true
      have honce' : NamesOnce (setAccepted trade me true) := by
        intro s i j hij hzero
        rw [(hsame s).1] at hij hzero
        exact honce trade htrade s i j hij hzero
      rw [← pairs_setAccepted me true] at hsettles
      have hconserved := Conserved.execute h honce' hopen (by
        intro s
        rw [(hsame s).2, (hsame s.other).2]
        exact hpurse s) hsettles
      exact ⟨⟨hconserved.kept.kept, hconserved.kept.counter, hconserved.kept.apart⟩, hconserved.pieces,
        hconserved.money⟩

/-! ## Gold over the cap -/

def herbDeal : Table :=
  { herbTable with
    trade := some fun
      | .left => { items := fun _ => 0, money := 50, accepted := true }
      | .right => { items := update (fun _ => 0) 0 2 } }

theorem herbDeal_kept : Kept herbMarket herbDeal where
  kept
    | .left => wellKept_empty 10
    | .right => (wellKept_empty 10).putTop (by decide) rfl (fun h => nomatch h) (by decide) (by decide)
  counter := by
    intro s s'
    cases s <;> cases s' <;> rfl
  apart := by
    intro s q q' it it' h h'
    cases s with
    | left => cases h
    | right => cases h'

theorem herbDeal_namesOnce : ∀ trade ∈ herbDeal.trade, NamesOnce trade := by
  intro trade htrade s i j
  cases htrade
  cases s with
  | left => exact fun _ hzero => absurd rfl hzero
  | right => revert i j; decide

theorem herbDeal_conserved :
    ((herbDeal.handleAccept herbMarket .right).inv .left).slots ⟨false, bag0, 23⟩ = some ⟨2, 7, 5⟩ ∧
      ((herbDeal.handleAccept herbMarket .right).trader .right).money = 50 ∧
      Conserved herbMarket herbDeal (herbDeal.handleAccept herbMarket .right) := by
  have hfair : Fair herbMarket herbDeal .right := by
    intro trade htrade
    cases htrade
    intro _
    refine ⟨?_, by decide +kernel⟩
    intro s
    cases s <;> exact ⟨by decide, by decide⟩
  exact ⟨by decide +kernel, by decide +kernel, conserved_of_fair herbDeal_kept herbDeal_namesOnce hfair⟩

def cappedDeal : Table :=
  { herbDeal with
    trader := fun s => { herbDeal.trader s with money := if s = .right then maxMoneyAmount else 100 } }

/-- Fifty coins for a trader whose purse is full: they are taken and not given. -/
theorem gold_lost_at_cap : ¬ Conserved herbMarket cappedDeal (cappedDeal.handleAccept herbMarket .right) := by
  intro h
  have hmoney := h.money
  revert hmoney
  decide +kernel

end Table

end Axium.Trade
