import Axium.Lib.Run
import Axium.Player.EquipRefusal
import Axium.Trade.Trade

/-!
# A trade delivers what was agreed

The setters of `TradeData` take back both acceptances, so while a trader has accepted his partner's window
stays as it was. Not so the items that the window names: a request that resizes or removes an offered stack
leaves both acceptances standing.
-/

namespace Axium.Trade

open Guilds Stacks Function Player Run Option

variable (s : Side) {r : ItemRequest}

/-! ## The window -/

section window

variable (trade : Side → TradeData) (s : Side)

def SameOffer (d d' : TradeData) : Prop := d'.items = d.items ∧ d'.money = d.money

theorem sameOffer_setAccepted (b : Bool) (x : Side) : SameOffer (trade x) (setAccepted trade s b x) := by
  unfold setAccepted
  by_cases h : x = s
  · subst h
    rw [update_self]
    exact ⟨rfl, rfl⟩
  · rw [update_of_ne h]
    exact ⟨rfl, rfl⟩

theorem accepted_setAccepted (b : Bool) (x : Side) :
    (setAccepted trade s b x).accepted = if x = s then b else (trade x).accepted := by
  unfold setAccepted
  by_cases h : x = s
  · subst h
    rw [update_self, if_pos rfl]
  · rw [update_of_ne h, if_neg h]

def NoneAccepted : Prop := ∀ x, (trade x).accepted = false

theorem noneAccepted_both : NoneAccepted (setAccepted (setAccepted trade s false) s.other false) := by
  intro x
  rw [accepted_setAccepted, accepted_setAccepted]
  rcases s.eq_or_eq_other x with rfl | rfl
  · rw [if_neg (Side.other_ne x).symm, if_pos rfl]
  · rw [if_pos rfl]

/-- Who still accepts had accepted, and the offer that he accepts stands. -/
def Keeps (trade trade' : Side → TradeData) : Prop :=
  ∀ x, (trade' x).accepted = true → (trade x).accepted = true ∧ SameOffer (trade x.other) (trade' x.other)

theorem Keeps.refl : Keeps trade trade := fun _ h => ⟨h, rfl, rfl⟩

variable {trade} {trade' : Side → TradeData}

theorem NoneAccepted.keeps (h : NoneAccepted trade') : Keeps trade trade' := by
  intro x hx
  rw [h x] at hx
  cases hx

theorem Keeps.none (h : Keeps trade trade') (hnone : NoneAccepted trade) : NoneAccepted trade' := by
  intro x
  by_contra hx
  have hold := (h x (Bool.eq_true_of_not_eq_false hx)).1
  rw [hnone x] at hold
  cases hold

theorem keeps_unaccept : Keeps trade (setAccepted trade s false) := by
  intro x hx
  rw [accepted_setAccepted] at hx
  by_cases hxs : x = s
  · rw [if_pos hxs] at hx
    cases hx
  · exact ⟨by rwa [if_neg hxs] at hx, sameOffer_setAccepted ..⟩

theorem keeps_setSpell (spell castItem : Nat) : Keeps trade (setSpell trade s spell castItem) := by
  unfold setSpell
  split
  · exact .refl trade
  · exact (noneAccepted_both _ _).keeps

theorem keeps_setItem (slot : Fin 7) (guid : Nat) : Keeps trade (setItem trade s slot guid) := by
  unfold setItem
  split
  · exact .refl trade
  · refine NoneAccepted.keeps ((keeps_setSpell _ _ _).none ?_)
    by_cases hslot : slot = slotNontraded
    · rw [if_pos hslot]
      exact (keeps_setSpell _ _ _).none (noneAccepted_both _ _)
    · rw [if_neg hslot]
      exact noneAccepted_both _ _

theorem keeps_setMoney (money : Nat) : Keeps trade (setMoney trade s money) := by
  unfold setMoney
  split
  · exact .refl trade
  · exact (noneAccepted_both _ _).keeps

end window

namespace Table

variable {M : Market} {t : Table} {trade : Side → TradeData} {me : Side}

/-! ## Offers -/

theorem getBagByPos_congr {W : Rules} {inv inv' : Inventory}
    (h : ∀ bag, bag ∈ inventoryBags ∨ bag ∈ bankBags → inv'.slots ⟨false, bag0, bag⟩ = inv.slots ⟨false, bag0, bag⟩) :
    inv'.getBagByPos W = inv.getBagByPos W := by
  funext bag
  unfold Inventory.getBagByPos Vault.getBagByPos
  split
  · next hbag =>
    rw [h bag hbag]
    rfl
  · rfl

theorem getItemByPos_congr {W : Rules} {inv inv' : Inventory} {p : Pos}
    (hbags : inv'.getBagByPos W = inv.getBagByPos W) (h : inv'.slots p.place = inv.slots p.place) :
    inv'.getItemByPos W p = inv.getItemByPos W p := by
  have hbag := congrFun hbags p.bag
  unfold Inventory.getBagByPos at hbag
  unfold Inventory.getItemByPos Vault.getItemByPos
  rw [hbag, show inv'.slots ⟨false, p.bag, p.slot⟩ = _ from h]
  rfl

theorem offer_congr {t' : Table} {trade' : Side → TradeData} {s : Side}
    (hdata : SameOffer (trade s) (trade' s)) (hslots : (t'.inv s).slots = (t.inv s).slots) :
    t'.offer M trade' s = t.offer M trade s := by
  have hbag := getBagByPos_congr (W := M.rules s) fun bag _ => congrFun hslots ⟨false, bag0, bag⟩
  have hpos := fun p : Pos => getItemByPos_congr hbag (congrFun hslots p.place)
  have hguid : ∀ guid, (t'.inv s).getItemByGuid (M.rules s) guid = (t.inv s).getItemByGuid (M.rules s) guid := by
    intro guid
    unfold Inventory.getItemByGuid Inventory.searched
    simp only [hbag, hpos]
  unfold offer tradedItems getItem
  simp only [hdata.1, hdata.2, hguid]

theorem inv_setInv_self {s : Side} (inv : Inventory) : (t.setInv s inv).inv s = inv := by
  unfold setInv Table.inv
  dsimp only
  rw [if_pos rfl]

theorem inv_setInv_other {s : Side} (inv : Inventory) :
    (t.setInv s inv).inv s.other = { t.inv s.other with nextGuid := inv.nextGuid } := by
  unfold setInv Table.inv
  dsimp only
  rw [if_neg s.other_ne]

/-! ## The exchange -/

def Passes (M : Market) (me : Side) : List (Option Item × Option Item) → Table → Prop
  | [], _ => True
  | (mine, his) :: rest, t =>
    (t.canStore M me.other [] mine).1 = true ∧ (t.canStore M me [] his).1 = true ∧
      Passes M me rest (t.movePair M me mine his).1

instance Passes.decidable : ∀ pairs (t : Table), Decidable (Passes M me pairs t)
  | [], _ => isTrue trivial
  | (mine, his) :: rest, t =>
    have := Passes.decidable rest (t.movePair M me mine his).1
    inferInstanceAs (Decidable (_ ∧ _ ∧ _))

theorem moveItems_of_passes {pairs : List (Option Item × Option Item)} (h : Passes M me pairs t) :
    (moveItems M me pairs t).2 = pairs := by
  induction pairs generalizing t with
  | nil => rfl
  | cons pair rest ih =>
    obtain ⟨mine, his⟩ := pair
    obtain ⟨htrader, hplayer, hrest⟩ := h
    have hflag : (t.movePair M me mine his).2 = true := by
      unfold movePair
      rw [if_pos ⟨htrader, hplayer⟩]
    unfold moveItems
    dsimp only
    rw [ih hrest, hflag, if_pos rfl]

theorem map_fst_pairs : (t.pairs M trade me).map Prod.fst = t.tradedItems M trade me := by
  unfold pairs tradedItems
  rw [List.map_fst_zip (by simp)]

theorem map_snd_pairs : (t.pairs M trade me).map Prod.snd = t.tradedItems M trade me.other := by
  unfold pairs tradedItems
  rw [List.map_snd_zip (by simp)]

theorem given_execute (h : Passes M me (t.pairs M trade me) (takeAll M me (t.pairs M trade me) t)) :
    (t.execute M trade me).given = some (t.offer M trade) := by
  have hmoved := moveItems_of_passes h
  change some _ = some _
  congr 1
  funext x
  rw [hmoved]
  rcases me.eq_or_eq_other x with rfl | rfl
  · rw [if_pos rfl]
    exact congrArg (Offer.mk · _) map_fst_pairs
  · rw [if_neg me.other_ne]
    exact congrArg (Offer.mk · _) map_snd_pairs

/-! ## Requests that leave the window alone -/

/-- What a request is to leave alone: the items that the window shows, and what is at the positions `held`. -/
structure Frame where
  W : Rules
  shown : Nat → Bool
  held : Pos → Bool

section frame

variable {F : Frame} {inv inv' inv'' : Inventory} {p src dst : Pos} {it s d : Item}

/-- The bags and what is to be left alone are where they were. -/
structure Unmoved (F : Frame) (inv inv' : Inventory) : Prop where
  bags : inv'.getBagByPos F.W = inv.getBagByPos F.W
  items : ∀ guid, F.shown guid = true → ∀ p,
    (inv'.getItemByPos F.W p).filter (·.guid = guid) = (inv.getItemByPos F.W p).filter (·.guid = guid)
  held : ∀ p, F.held p = true → inv'.getItemByPos F.W p = inv.getItemByPos F.W p

theorem Unmoved.refl (inv : Inventory) : Unmoved F inv inv := ⟨rfl, fun _ _ _ => rfl, fun _ _ => rfl⟩

theorem Unmoved.trans (h : Unmoved F inv inv') (h' : Unmoved F inv' inv'') : Unmoved F inv inv'' where
  bags := h'.bags.trans h.bags
  items guid hguid p := (h'.items guid hguid p).trans (h.items guid hguid p)
  held p hp := (h'.held p hp).trans (h.held p hp)

theorem Unmoved.getItemByGuid (h : Unmoved F inv inv') {guid : Nat} (hshown : F.shown guid = true) :
    inv'.getItemByGuid F.W guid = inv.getItemByGuid F.W guid := by
  unfold Inventory.getItemByGuid Inventory.searched
  simp only [h.bags, h.items guid hshown]

/-- A position that is no bag slot and not held, and where nothing is that the window shows. -/
def Spare (F : Frame) (inv : Inventory) (p : Pos) : Prop :=
  isBagPos p.bag p.slot = false ∧ F.held p = false ∧ ∀ it ∈ inv.getItemByPos F.W p, F.shown it.guid = false

theorem Spare.update (h : Spare F inv p) {o : Option Item} (ho : ∀ it ∈ o, F.shown it.guid = false)
    (hslots : inv'.slots = update inv.slots p.place o) : Unmoved F inv inv' := by
  have hbags : inv'.getBagByPos F.W = inv.getBagByPos F.W := by
    refine getBagByPos_congr fun bag hbag => ?_
    rw [hslots, update_of_ne]
    intro heq
    have hnot := h.1
    rw [← Inventory.Pos.place_injective (show (Pos.mk bag0 bag).place = p.place from heq)] at hnot
    simp [isBagPos, hbag] at hnot
  have hothers (q : Pos) (hq : q ≠ p) : inv'.getItemByPos F.W q = inv.getItemByPos F.W q := by
    refine getItemByPos_congr hbags ?_
    rw [hslots, update_of_ne fun heq => hq (Inventory.Pos.place_injective heq)]
  refine ⟨hbags, fun guid hguid q => ?_, fun q hq => hothers q fun heq => ?_⟩
  · by_cases hq : q = p
    · have hnone {o : Option Item} (ho : ∀ it ∈ o, F.shown it.guid = false) :
          o.filter (·.guid = guid) = none := by
        refine Option.filter_eq_none_iff.2 fun it hit heq => ?_
        rw [← of_decide_eq_true heq, ho it hit] at hguid
        cases hguid
      rw [hq, hnone h.2.2, hnone fun it hit => ?_]
      have hsome := (Inventory.getItemByPos_some hit).2
      rw [hslots, update_self] at hsome
      exact ho it hsome
    · rw [hothers q hq]
  · rw [heq, h.2.1] at hq
    cases hq

theorem Spare.unmoved (h : Spare F inv p) (hu : Unmoved F inv inv') : Spare F inv' p := by
  refine ⟨h.1, h.2.1, fun it hit => Bool.eq_false_of_not_eq_true fun hguid => ?_⟩
  have hsame := hu.items it.guid hguid p
  rw [hit, Option.filter_some, decide_eq_true rfl, if_pos rfl] at hsame
  have hshown := h.2.2 it (Option.filter_eq_some_iff.1 hsame.symm).1
  rw [hguid] at hshown
  cases hshown

theorem Spare.removeItem (h : Spare F inv p) : Unmoved F inv (inv.removeItem F.W p) := by
  unfold Inventory.removeItem
  cases inv.getItemByPos F.W p with
  | none => exact .refl inv
  | some it =>
    dsimp only
    rw [if_neg (by rw [h.1]; exact Bool.false_ne_true)]
    exact h.update (o := none) (fun _ hit => nomatch hit) rfl

/-- An item at a spare position that its fields name. -/
def Loose (F : Frame) (inv : Inventory) (p : Pos) (it : Item) : Prop :=
  Spare F inv p ∧ inv.getItemByPos F.W p = some it ∧ inv.getPos it.guid = p

theorem Loose.shown (h : Loose F inv p it) : F.shown it.guid = false := h.1.2.2 it h.2.1

theorem Loose.deref (h : Loose F inv p it) : inv.deref it = it := by
  unfold Inventory.deref
  rw [h.2.2, (Inventory.getItemByPos_some h.2.1).2]
  exact if_pos rfl

theorem Spare.setCount (h : Spare F inv (inv.getPos it.guid)) (hit : F.shown it.guid = false) (count : Nat) :
    Unmoved F inv (inv.setCount it count) := by
  unfold Inventory.setCount
  split
  · next t _ =>
    split
    · next hguid =>
      refine h.update (o := some { t with count := count }) (fun t' ht' => ?_) rfl
      cases ht'
      exact hguid ▸ hit
    · exact .refl inv
  · exact .refl inv

theorem Loose.setCount (h : Loose F inv p it) (count : Nat) : Unmoved F inv (inv.setCount it count) :=
  Spare.setCount (by rw [h.2.2]; exact h.1) h.shown count

theorem getPos_setCount (it : Item) (count guid : Nat) : (inv.setCount it count).getPos guid = inv.getPos guid := by
  unfold Inventory.setCount
  split
  · split <;> rfl
  · rfl

theorem Loose.setCount_after (h : Loose F inv p it) {count : Nat} (hu : Unmoved F inv (inv.setCount s count)) (n : Nat) :
    Unmoved F inv ((inv.setCount s count).setCount it n) := by
  refine hu.trans (Spare.setCount ?_ h.shown n)
  rw [getPos_setCount, h.2.2]
  exact h.1.unmoved hu

theorem Loose.destroyItemCount (h : Loose F inv p it) (count : Nat) :
    Unmoved F inv (Table.destroyItemCount F.W inv it count) := by
  unfold Table.destroyItemCount
  split
  · rw [h.2.2]
    exact h.1.removeItem
  · exact h.setCount _

/-! ### Moves -/

/-- A spare position, in a bag that is there. -/
def Landing (F : Frame) (inv : Inventory) (q : Place) : Prop :=
  q.isBank = false ∧ Spare F inv ⟨q.container, q.slot⟩ ∧
    (q.container = bag0 ∨ (inv.getBagByPos F.W q.container).isSome)

theorem Landing.storeAt {q : Place} (h : Landing F inv q) (hit : F.shown it.guid = false) (count : Nat) :
    Unmoved F inv (inv.storeAt F.W it false q count) := by
  obtain ⟨hbank, hspare, hbag⟩ := h
  have hwrite {inv' : Inventory} (t : Item) (ht : F.shown t.guid = false)
      (hslots : inv'.slots = update inv.slots q (some t)) : Unmoved F inv inv' := by
    refine hspare.update (o := some t) (fun t' ht' => ?_) (by rw [Inventory.place_mk q hbank]; exact hslots)
    cases ht'
    exact ht
  unfold Inventory.storeAt
  split
  · next t ht => exact hwrite { t with count := t.count + count } (hspare.2.2 t ht) rfl
  · rw [if_neg Bool.false_ne_true]
    unfold Inventory.setItem
    split
    · next hnone =>
      obtain ⟨bank, container, slot⟩ := q
      obtain rfl : container = bag0 := by
        by_contra hne
        rw [if_neg hne] at hnone
        rw [hnone] at hbag
        exact hbag.elim hne nofun
      cases hbank
      unfold Inventory.setTop
      rw [if_neg (by rw [hspare.1]; exact Bool.false_ne_true)]
      exact hwrite { it with count := count } hit rfl
    · split
      · exact .refl inv
      · exact hwrite { it with count := count } hit rfl

/-- What a check plans is one landing, which takes the whole item. -/
def Lands (F : Frame) (inv : Inventory) (dest : Option (List (Place × Nat))) : Prop :=
  ∀ ds ∈ dest, ds.length = 1 ∧ ∀ q ∈ ds, Landing F inv q.1

theorem Lands.storeItem {dest : Option (List (Place × Nat))} {ds : List (Place × Nat)} (h : Lands F inv dest)
    (hit : F.shown it.guid = false) (hu : Unmoved F inv inv') (hds : dest = some ds) :
    Unmoved F inv (Inventory.storeItem F.W it ds inv') := by
  obtain ⟨hlen, hroom⟩ := h ds hds
  obtain ⟨⟨q, count⟩, rfl⟩ := List.length_eq_one_iff.1 hlen
  obtain ⟨hbank, hspare, hbag⟩ := hroom _ List.mem_cons_self
  exact hu.trans (Landing.storeAt ⟨hbank, hspare.unmoved hu, by rw [hu.bags]; exact hbag⟩ hit count)

/-- `AutoUnequipOffhandIfNeed` has nothing to do. -/
def KeepsOffhand (W : Rules) (inv : Inventory) : Prop :=
  ∀ off ∈ inv.getItemByPos W ⟨bag0, offhand⟩,
    (W.canDualWield = false → ¬ (W.inventoryType off.entry = .weaponOffhand ∨ W.inventoryType off.entry = .weapon)) ∧
      (W.canTitanGrip ∨ W.inventoryType off.entry ≠ .twoHandWeapon ∧ ¬ inv.isTwoHandUsed W)

theorem KeepsOffhand.autoUnequip (h : KeepsOffhand F.W inv) (hu : Unmoved F inv inv')
    (hheld : F.held ⟨bag0, mainhand⟩ = true ∧ F.held ⟨bag0, offhand⟩ = true) :
    inv'.autoUnequipOffhandIfNeed F.W false = inv' := by
  unfold Inventory.autoUnequipOffhandIfNeed Inventory.isTwoHandUsed
  rw [hu.held _ hheld.1, hu.held _ hheld.2]
  split
  · rfl
  · next off hoff => exact if_pos ⟨by simpa using (h off hoff).1, (h off hoff).2⟩

/-- Two items that are no bags and can change places, outside the hands. -/
@[mk_iff] structure Swappable (F : Frame) (inv : Inventory) (src dst : Pos) (s d : Item) : Prop where
  noBags : ¬ ((F.W.template s.entry).isBag ∨ (F.W.template d.entry).isBag)
  mine : Loose F inv src s
  other : Loose F inv dst d
  source : isInventoryPos src = true
  merges : Lands F inv (inv.canStoreItem F.W dst s false)
  comes : Lands F inv (inv.canStoreItem F.W dst s true)
  goes : Lands F inv (inv.canStoreItem F.W src d true)
  keeps : KeepsOffhand F.W inv
  held : F.held ⟨bag0, mainhand⟩ = true ∧ F.held ⟨bag0, offhand⟩ = true

theorem Swappable.realSwap (h : Swappable F inv src dst s d) (hdst : isInventoryPos dst = true) :
    Unmoved F inv (inv.realSwap F.W src dst s d) := by
  have hs := h.mine
  have hd := h.other
  unfold Inventory.realSwap Inventory.canPlace
  rw [hs.deref, if_pos hdst]
  cases hcomes : inv.canStoreItem F.W dst s true with
  | none => exact .refl inv
  | some toDst =>
    dsimp only [Option.map_some]
    rw [hd.deref, if_pos h.source]
    cases hgoes : inv.canStoreItem F.W src d true with
    | none => exact .refl inv
    | some toSrc =>
      have hbags : inv.swapBagItems F.W src dst s d = some inv := by
        unfold Inventory.swapBagItems Inventory.emptyAndFull
        rw [if_pos (.inl fun hbag => h.noBags (.inl hbag))]
      dsimp only [Option.map_some]
      rw [hs.deref, hd.deref, hbags]
      dsimp only
      rw [hs.deref, hd.deref]
      have hout := hd.1.removeItem
      have hgone := hout.trans (hs.1.unmoved hout).removeItem
      have hput := h.goes.storeItem hd.shown (h.comes.storeItem hs.shown hgone hcomes) hgoes
      change Unmoved F inv (Inventory.autoUnequipOffhandIfNeed F.W
        (Inventory.storeItem F.W d toSrc (Inventory.storeItem F.W s toDst _)) false)
      rw [h.keeps.autoUnequip hput h.held]
      exact hput

theorem Swappable.swapWith (h : Swappable F inv src dst s d) (hdst : isInventoryPos dst = true) :
    Unmoved F inv (inv.swapWith F.W src dst s d) := by
  unfold Inventory.swapWith Inventory.canMerge
  rw [if_neg h.noBags, if_pos hdst]
  cases hcan : inv.canStoreItem F.W dst s false with
  | none => exact h.realSwap hdst
  | some ds =>
    dsimp only [Option.map_some]
    rw [h.mine.deref, h.other.deref]
    unfold Inventory.mergeOrFill
    dsimp only
    split
    · exact h.merges.storeItem h.mine.shown h.mine.1.removeItem hcan
    · exact h.other.setCount_after (h.mine.setCount _) _

/-! ### Requests -/

/-- `SwapItem` moves, merges or exchanges other items in the inventory, and the places that its checks plan have
room. -/
def SwapsOthers (W : Rules) (shown : Nat → Bool) (inv : Inventory) (src dst : Pos) : Prop :=
  let F : Frame := ⟨W, shown, fun _ => false⟩
  let H : Frame := ⟨W, shown, fun p => p = ⟨bag0, mainhand⟩ ∨ p = ⟨bag0, offhand⟩⟩
  isInventoryPos dst = true ∧ Spare F inv src ∧ ∀ s ∈ inv.getItemByPos W src,
    Lands F inv (inv.canStoreItem W dst s false) ∧ ∀ d ∈ inv.getItemByPos W dst, Swappable H inv src dst s d

theorem SwapsOthers.unmoved {W : Rules} {shown : Nat → Bool} (h : SwapsOthers W shown inv src dst) :
    Unmoved ⟨W, shown, fun _ => false⟩ inv (inv.swapItem W src dst) := by
  obtain ⟨hdst, hsrc, hs⟩ := h
  rw [Inventory.swapItem_eq]
  split
  · exact .refl inv
  · next s hsome =>
    obtain ⟨hlands, hd⟩ := hs s hsome
    split
    · split
      · unfold Inventory.moveItem
        rw [if_pos hdst]
        split
        · next ds hds => exact hlands.storeItem (hsrc.2.2 s hsome) hsrc.removeItem hds
        · exact .refl inv
      · next d hdsome =>
        have hunmoved := (hd d hdsome).swapWith hdst
        exact ⟨hunmoved.bags, hunmoved.items, nofun⟩
    · exact .refl inv

/-- `SplitItem` takes from another item, and the part that it takes has room. -/
def SplitsOther (F : Frame) (inv : Inventory) (src dst : Pos) (count : Nat) : Prop :=
  isInventoryPos dst = true ∧ ∀ s ∈ inv.getItemByPos F.W src, Loose F inv src s ∧
    ∀ c ∈ Stacks.clone (F.W.realm inv.toVault).maxStack inv.nextGuid s count, F.shown c.guid = false ∧
      let lowered := { inv with nextGuid := inv.nextGuid + 1 }.setCount s (s.count - count)
      Lands F lowered (lowered.canStoreItem F.W dst c false)

theorem SplitsOther.unmoved {count : Nat} (h : SplitsOther F inv src dst count) (inTrade : Item → Bool) :
    Unmoved F inv (inv.splitItem F.W inTrade src dst count) := by
  unfold Inventory.splitItem
  split
  · exact .refl inv
  · next s hs =>
    obtain ⟨hs, hclone⟩ := h.2 s hs
    split
    · exact .refl inv
    · split
      · exact .refl inv
      · next c hc =>
        obtain ⟨hshown, hlands⟩ := hclone c hc
        have hs' : Loose F { inv with nextGuid := inv.nextGuid + 1 } src s := hs
        have hlow := hs'.setCount (s.count - count)
        have hsplit : Unmoved F { inv with nextGuid := inv.nextGuid + 1 }
            ({ inv with nextGuid := inv.nextGuid + 1 }.splitOff F.W dst s c count) := by
          unfold Inventory.splitOff
          dsimp only
          rw [if_pos h.1]
          split
          · next ds hds => exact hlow.trans (hlands.storeItem hshown (.refl _) hds)
          · exact hs'.setCount_after hlow _
        exact ⟨hsplit.bags, hsplit.items, hsplit.held⟩

/-- A request that moves, or takes from, items which the window does not show: for coin if one is sold. -/
def ConcernsOthers (M : Market) (s : Side) (shown : Nat → Bool) (inv : Inventory) (r : ItemRequest) : Prop :=
  let W := M.rules s
  let F : Frame := ⟨W, shown, fun _ => false⟩
  match r with
  | .swapItem src dst => SwapsOthers W shown inv src dst
  | .splitItem src dst count => SplitsOther F inv src dst count
  | .autoEquipItem _ => False
  | .autoStoreBagItem p dstbag => Spare F inv p ∧ ∀ it ∈ inv.getItemByPos W p,
      Lands F inv (inv.canStoreItem W ⟨dstbag, nullSlot⟩ it false)
  | .destroyItem p _ => ∀ it ∈ inv.getItemByPos W p, Loose F inv p it
  | .sellItem guid _ => ∀ it ∈ inv.getItemByGuid W guid, Loose F inv (inv.getPos it.guid) it ∧ M.payment it.entry = none
  | .useItem guid => ∀ it ∈ inv.getItemByGuid W guid, Loose F inv (inv.getPos it.guid) it

theorem ConcernsOthers.unmoved {M : Market} {s : Side} {shown : Nat → Bool} (h : ConcernsOthers M s shown inv r)
    (inTrade : Item → Bool) :
    Unmoved ⟨M.rules s, shown, fun _ => false⟩ inv (itemRequest M s inTrade inv r).1 := by
  unfold itemRequest
  cases r with
  | swapItem src dst =>
    dsimp only
    split
    · exact .refl inv
    · exact SwapsOthers.unmoved h
  | splitItem src dst count =>
    dsimp only
    split
    · exact .refl inv
    · exact SplitsOther.unmoved h inTrade
  | autoEquipItem p => exact h.elim
  | autoStoreBagItem p dstbag =>
    unfold Inventory.handleAutoStoreBagItem
    dsimp only
    split
    · exact .refl inv
    · next it hit =>
      split
      · exact .refl inv
      split
      · exact .refl inv
      split
      · exact .refl inv
      · next hds =>
        split
        · exact .refl inv
        · exact (h.2 it hit).storeItem (h.1.2.2 it hit) h.1.removeItem hds
  | destroyItem p count =>
    unfold handleDestroyItem
    dsimp only
    split
    · exact .refl inv
    · split
      · exact .refl inv
      · next it hit =>
        split
        · exact .refl inv
        · split
          · exact (h it hit).destroyItemCount count
          · exact (h it hit).1.removeItem
  | sellItem guid count =>
    unfold handleSellItem
    dsimp only
    split
    · exact .refl inv
    · next it hit =>
      obtain ⟨hloose, hcoin⟩ := h it hit
      split
      · exact .refl inv
      · simp only [hcoin]
        generalize (if count = 0 then it.count else count) = count
        split
        · have hset := hloose.setCount (it.count - count)
          exact ⟨hset.bags, hset.items, hset.held⟩
        · exact hloose.1.removeItem
  | useItem guid =>
    dsimp only
    split
    · next it hit => exact (h it hit).destroyItemCount 1
    · exact .refl inv

end frame

/-! ## What is agreed -/

def Delivers (t : Table) : Prop := ∀ given, t.given = some given → ∀ s : Side, given s.other = t.shown s

structure Opened (t : Table) : Prop where
  given : t.given = none
  accepted : ∀ {trade}, t.trade = some trade → NoneAccepted trade

/-- The step takes no branch that goes wrong. While his partner has accepted, a trader whose window shows items
makes no request for items but those that concern others; when an exchange is executed, all items find
room. -/
def Undisturbed (M : Market) (t : Table) : Side × Request → Prop
  | (s, .items r) => ∀ trade ∈ t.trade, (trade s.other).accepted = true →
    (∀ slot ∈ tradedSlots, (trade s).items slot = 0) ∨ ConcernsOthers M s (trade s).hasItem (t.inv s) r
  | (s, .accept) => ∀ trade ∈ t.trade, (t.staysOpen M (setAccepted trade s true) s).isNone →
    Passes M s (t.pairs M trade s) (takeAll M s (t.pairs M trade s) t)
  | _ => True

instance {F : Frame} {inv : Inventory} (p : Pos) : Decidable (Spare F inv p) :=
  inferInstanceAs (Decidable (_ ∧ _ ∧ ∀ it ∈ inv.getItemByPos F.W p, _))

instance {F : Frame} {inv : Inventory} (p : Pos) (it : Item) : Decidable (Loose F inv p it) :=
  inferInstanceAs (Decidable (_ ∧ _ ∧ _))

instance {F : Frame} {inv : Inventory} (q : Place) : Decidable (Landing F inv q) :=
  inferInstanceAs (Decidable (_ ∧ _ ∧ _))

instance {F : Frame} {inv : Inventory} (dest : Option (List (Place × Nat))) : Decidable (Lands F inv dest) :=
  inferInstanceAs (Decidable (∀ ds ∈ dest, _ ∧ ∀ q ∈ ds, _))

instance {W : Rules} {inv : Inventory} : Decidable (KeepsOffhand W inv) :=
  inferInstanceAs (Decidable (∀ off ∈ inv.getItemByPos W ⟨bag0, offhand⟩, _))

instance {F : Frame} {inv : Inventory} (src dst : Pos) (s d : Item) : Decidable (Swappable F inv src dst s d) :=
  decidable_of_iff' _ (swappable_iff ..)

instance {s : Side} {shown : Nat → Bool} {inv : Inventory} (r : ItemRequest) :
    Decidable (ConcernsOthers M s shown inv r) := by
  cases r <;> unfold ConcernsOthers
  · unfold SwapsOthers; infer_instance
  · unfold SplitsOther; infer_instance
  all_goals infer_instance

instance (r : Side × Request) : Decidable (Undisturbed M t r) := by
  obtain ⟨s, r⟩ := r
  cases r <;> unfold Undisturbed <;> infer_instance

/-- Whoever has accepted has seen what is offered now, and what was given is what was seen. -/
structure Agreed (M : Market) (t : Table) : Prop where
  accepted : ∀ {trade}, t.trade = some trade → ∀ s, (trade s).accepted = true →
    t.shown s = t.offer M trade s.other
  pending : ∀ {trade}, t.trade = some trade → t.given = none
  delivers : t.Delivers

theorem Agreed.onTrade (h : t.Agreed M) {f : (Side → TradeData) → Side → TradeData}
    (hf : ∀ trade, Keeps trade (f trade)) : (t.onTrade f).Agreed M where
  accepted := by
    intro trade' htrade' s hs
    obtain ⟨trade, htrade, rfl⟩ := map_eq_some_iff.1 htrade'
    obtain ⟨hold, hsame⟩ := hf trade s hs
    exact (h.accepted htrade s hold).trans (offer_congr hsame rfl).symm
  pending := by
    intro trade' htrade'
    obtain ⟨trade, htrade, -⟩ := map_eq_some_iff.1 htrade'
    exact h.pending htrade
  delivers := h.delivers

theorem Agreed.handleSetTradeItem (h : t.Agreed M) (s : Side) (tradeSlot : Nat) (p : Pos) :
    (t.onTrade fun trade => t.handleSetTradeItem M trade s tradeSlot p).Agreed M := by
  apply h.onTrade
  intro trade
  unfold Table.handleSetTradeItem
  by_cases hslot : tradeSlot < 7
  · rw [dif_pos hslot]
    cases (t.inv s).getItemByPos (M.rules s) p with
    | none => exact .refl trade
    | some it =>
      dsimp only
      by_cases hrefused : (tradeSlot ≠ 6 ∧ ¬ t.canBeTraded M s it) ∨ (trade s).hasItem it.guid
      · rw [if_pos hrefused]
        exact .refl trade
      · rw [if_neg hrefused]
        exact keeps_setItem _ _ _
  · rw [dif_neg hslot]
    exact .refl trade

theorem Agreed.clearItem (h : t.Agreed M) (s : Side) (tradeSlot : Nat) :
    (t.onTrade fun trade =>
      if hslot : tradeSlot < 7 then Trade.setItem trade s ⟨tradeSlot, hslot⟩ 0 else trade).Agreed M := by
  apply h.onTrade
  intro trade
  by_cases hslot : tradeSlot < 7
  · rw [dif_pos hslot]
    exact keeps_setItem _ _ _
  · rw [dif_neg hslot]
    exact .refl trade

/-- A request for items changes the items of one trader, and the window not at all. -/
theorem handleItems_spec (r : ItemRequest) :
    (t.handleItems M s r).trade = t.trade ∧ (t.handleItems M s r).shown = t.shown ∧
      (t.handleItems M s r).given = t.given ∧
      (t.handleItems M s r).inv s = (itemRequest M s (t.inWindow s) (t.inv s) r).1 ∧
      ((t.handleItems M s r).inv s.other).slots = (t.inv s.other).slots := by
  unfold handleItems
  dsimp only
  split
  · exact ⟨rfl, rfl, rfl, inv_setInv_self _, congrArg (·.slots) (inv_setInv_other _)⟩
  · refine ⟨rfl, rfl, rfl, ?_, ?_⟩
    · unfold inv
      dsimp only
      rw [update_self]
      exact inv_setInv_self _
    · unfold inv
      dsimp only
      rw [update_of_ne s.other_ne]
      exact congrArg (·.slots) (inv_setInv_other (t := t) _)

/-- The offer is what it was while the items that the window shows are where they were. -/
theorem offer_handleItems {s : Side} (h : (∀ slot ∈ tradedSlots, (trade s).items slot = 0) ∨
    ConcernsOthers M s (trade s).hasItem (t.inv s) r) : (t.handleItems M s r).offer M trade s = t.offer M trade s := by
  have hitem (slot : Fin 7) (hslot : slot ∈ tradedSlots) :
      (t.handleItems M s r).getItem M trade s slot = t.getItem M trade s slot := by
    unfold getItem
    split
    · rfl
    · next hne =>
      have hunmoved := (h.resolve_left fun hnone => hne (hnone slot hslot)).unmoved (t.inWindow s)
      have hshown : (trade s).hasItem ((trade s).items slot) = true :=
        List.any_eq_true.2 ⟨slot, List.mem_finRange slot, decide_eq_true rfl⟩
      rw [(handleItems_spec s r).2.2.2.1]
      exact hunmoved.getItemByGuid hshown
  exact congrArg (Offer.mk · _) (List.map_congr_left hitem)

theorem Agreed.handleItems (h : t.Agreed M) {s : Side}
    (hkeep : t.Undisturbed M (s, .items r)) : (t.handleItems M s r).Agreed M := by
  obtain ⟨htrade, hshown, hgiven, -, hother⟩ := handleItems_spec (M := M) (t := t) s r
  refine ⟨?_, ?_, ?_⟩
  · intro trade htrade' x hx
    rw [htrade] at htrade'
    rw [hshown, h.accepted htrade' x hx]
    rcases s.eq_or_eq_other x with rfl | rfl
    · exact (offer_congr ⟨rfl, rfl⟩ hother).symm
    · rw [Side.other_other]
      exact (offer_handleItems (hkeep trade htrade' hx)).symm
  · intro trade htrade'
    rw [htrade] at htrade'
    rw [hgiven]
    exact h.pending htrade'
  · intro given hgiven'
    rw [hgiven] at hgiven'
    rw [hshown]
    exact h.delivers given hgiven'

theorem staysOpen_keeps {trade' : Side → TradeData} (h : t.staysOpen M trade me = some trade') :
    Keeps trade trade' := by
  unfold staysOpen at h
  split at h
  · cases h
    exact keeps_unaccept _
  split at h
  · cases h
    exact keeps_unaccept _
  split at h
  · cases h
    exact .refl trade
  split at h
  · cases h
    exact .refl trade
  split at h
  · cases h
    exact keeps_setSpell _ _ _
  split at h
  · cases h
    exact keeps_setSpell _ _ _
  split at h
  · cases h
    exact (noneAccepted_both trade me).keeps
  · cases h

structure Checked (M : Market) (t : Table) (trade : Side → TradeData) (me : Side) : Prop where
  mine : (trade me).money ≤ (t.trader me).money
  his : (trade me.other).money ≤ (t.trader me.other).money
  tradeable : t.tradeable M trade me = true
  accepted : (trade me.other).accepted = true

theorem checked_of_executed (h : t.staysOpen M trade me = none) : Checked M t trade me := by
  unfold staysOpen at h
  split at h
  · cases h
  next hmine =>
  split at h
  · cases h
  next hhis =>
  split at h
  · cases h
  next htradeable =>
  split at h
  · cases h
  next haccepted =>
  exact ⟨Nat.le_of_not_lt hmine, Nat.le_of_not_lt hhis, by simpa using htradeable, by simpa using haccepted⟩

theorem pairs_setAccepted (b : Bool) :
    t.pairs M (setAccepted trade s b) me = t.pairs M trade me := by
  have hitems : ∀ x, t.tradedItems M (setAccepted trade s b) x = t.tradedItems M trade x :=
    fun x => congrArg Offer.items (offer_congr (sameOffer_setAccepted trade s b x) rfl)
  unfold pairs
  rw [hitems, hitems]

theorem Agreed.handleAccept (h : t.Agreed M) (hpass : t.Undisturbed M (me, .accept)) :
    (t.handleAccept M me).Agreed M := by
  unfold Table.handleAccept
  cases htrade : t.trade with
  | none => exact h
  | some trade =>
    dsimp only
    -- after the accept, whoever has accepted has seen the offer
    have hseen : ∀ s, (setAccepted trade me true s).accepted = true →
        update t.shown me (t.offer M trade me.other) s = t.offer M trade s.other := by
      intro s hs
      by_cases hsm : s = me
      · subst hsm
        rw [update_self]
      · rw [update_of_ne hsm]
        rw [accepted_setAccepted, if_neg hsm] at hs
        exact h.accepted htrade s hs
    cases hopen : t.staysOpen M (setAccepted trade me true) me with
    | some trade' =>
      refine ⟨?_, fun _ => h.pending htrade, ?_⟩
      · intro trade'' htrade'' s hs
        cases htrade''
        obtain ⟨hold, hsame⟩ := staysOpen_keeps hopen s hs
        refine (hseen s hold).trans (offer_congr ?_ rfl).symm
        have hset := sameOffer_setAccepted trade me true s.other
        exact ⟨hsame.1.trans hset.1, hsame.2.trans hset.2⟩
      · intro given hgiven
        rw [h.pending htrade] at hgiven
        cases hgiven
    | none =>
      have hboth : ∀ s, (setAccepted trade me true s).accepted = true := by
        intro s
        rcases me.eq_or_eq_other s with rfl | rfl
        · rw [accepted_setAccepted, if_pos rfl]
        · exact (checked_of_executed hopen).accepted
      refine ⟨fun htrade' => (by cases htrade'), fun htrade' => (by cases htrade'), ?_⟩
      intro given hgiven s
      have hpairs := hpass trade htrade (by rw [hopen]; rfl)
      rw [← pairs_setAccepted me true] at hpairs
      have hexec := (given_execute hpairs).symm.trans hgiven
      cases hexec
      refine Eq.trans ?_ (hseen s (hboth s)).symm
      exact offer_congr (sameOffer_setAccepted ..) rfl

/-- A request that is undisturbed leaves an accepted offer as it was seen. -/
theorem Agreed.step (h : t.Agreed M) {r : Side × Request} (hr : t.Undisturbed M r) : (t.step M r).Agreed M := by
  obtain ⟨s, r⟩ := r
  cases r with
  | setItem tradeSlot p => exact h.handleSetTradeItem s tradeSlot p
  | clearItem tradeSlot => exact h.clearItem s tradeSlot
  | setGold gold => exact h.onTrade fun trade => keeps_setMoney _ _
  | setSpell spell castItem => exact h.onTrade fun trade => keeps_setSpell _ _ _
  | accept => exact h.handleAccept hr
  | unaccept => exact h.onTrade fun trade => keeps_unaccept s
  | cancel => exact ⟨fun htrade => (by cases htrade), fun htrade => (by cases htrade), h.delivers⟩
  | items r => exact h.handleItems hr

instance : Decidable t.Delivers :=
  decidable_of_iff (∀ given ∈ t.given, given .right = t.shown .left ∧ given .left = t.shown .right)
    ⟨fun h given hgiven s => by cases s; exacts [(h given hgiven).1, (h given hgiven).2],
      fun h given hgiven => ⟨h given hgiven .left, h given hgiven .right⟩⟩

/-! ## A stack that is sold after the partner has accepted -/

/-- Two traders of whom nothing is refused. What they have is stacked by twenty. -/
def herbMarket : Market where
  template := fun _ => { stackable := 20 }
  player := fun _ => .lax
  mayBeTraded := fun _ _ => true
  canStoreItems := fun _ _ _ => true
  hasSpellInfo := fun _ => false
  checkCast := fun _ _ => false
  canSell := fun _ _ => true
  sellPrice := fun _ => 1
  payment := fun _ => none
  isIndestructible := fun _ => false

def herbTable : Table where
  trader
    | .left => ⟨⟨⟨{ leaderGuid := 0 }, fun _ => none, 10⟩, fun _ => (none, nullSlot), fun _ _ => none, []⟩, 100⟩
    | .right =>
      ⟨⟨⟨{ leaderGuid := 0 }, update (fun _ => none) ⟨false, bag0, 23⟩ (some ⟨2, 7, 5⟩), 10⟩,
        update (fun _ => (none, nullSlot)) 2 (none, 23), fun _ _ => none, []⟩, 0⟩
  trade := some fun _ => { items := fun _ => 0 }
  shown := fun _ => ⟨[], 0⟩

end Table

end Axium.Trade
