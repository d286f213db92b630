import Axium.Lib.Tally
import Axium.Mails.Mail

/-!
# What the characters and their mails hold together

The money of all characters with the money in all mails, and the number of places in which an item is, are sums
of the same kind: a weight of the character himself and a weight of each of his mails. How the operations on
mails change such a sum is said once, for any weight.
-/

namespace Axium.Mails

open List Function Guilds MailDraft

variable (c : Character) (draft : MailDraft) (x : Nat) (items : List Nat) {item : Nat} (delay : Nat)

structure Weight where
  own : Character → Nat
  mail : Mail → Nat
  own_box : ∀ c mails mailItems loaded,
    own { c with mails := mails, mailItems := mailItems, mailsLoaded := loaded } = own c
  mail_state : ∀ m state, mail { m with state := state } = mail m

namespace Weight

variable (b : Weight)

def mails (l : List Mail) : Nat := (l.map b.mail).sum

def of (c : Character) : Nat := b.own c + b.mails c.mails

def total (w : World) : Nat := ∑ g ∈ w.guids, b.of (w.char g)

def cash : Weight where
  own c := c.money
  mail m := m.money
  own_box _ _ _ _ := rfl
  mail_state _ _ := rfl

def places (item : Nat) : Weight where
  own c := c.inventory.count item
  mail m := m.items.count item
  own_box _ _ _ _ := rfl
  mail_state _ _ := rfl

@[simp] theorem mails_cons (m : Mail) (l : List Mail) : b.mails (m :: l) = b.mail m + b.mails l := sum_cons

/-! ## Lists of mails -/

variable {b} {l : List Mail} {m : Mail} {id : Nat}

theorem le_mails (h : m ∈ l) : b.mail m ≤ b.mails l := by
  induction l with
  | nil => exact absurd h not_mem_nil
  | cons m' l ih =>
    rw [mails_cons]
    rcases mem_cons.1 h with rfl | h
    · omega
    · have := ih h
      omega

theorem mails_modifyMail (hfind : l.find? (·.messageID = id) = some m) (g : Mail → Mail) :
    b.mails (modifyMail id g l) + b.mail m = b.mails l + b.mail (g m) := by
  induction l with
  | nil => cases hfind
  | cons m' l ih =>
    rw [modifyMail]
    by_cases hid : m'.messageID = id
    · rw [find?_cons_of_pos (by simpa using hid)] at hfind
      obtain rfl := Option.some.inj hfind
      rw [if_pos hid, mails_cons, mails_cons]
      omega
    · rw [find?_cons_of_neg (by simpa using hid)] at hfind
      have := ih hfind
      rw [if_neg hid, mails_cons, mails_cons]
      omega

theorem mails_eraseP (hfind : l.find? (·.messageID = id) = some m) :
    b.mails (l.eraseP (·.messageID = id)) + b.mail m = b.mails l := by
  induction l with
  | nil => cases hfind
  | cons m' l ih =>
    by_cases hid : m'.messageID = id
    · rw [find?_cons_of_pos (by simpa using hid)] at hfind
      obtain rfl := Option.some.inj hfind
      rw [eraseP_cons_of_pos (by simpa using hid), mails_cons]
      omega
    · rw [find?_cons_of_neg (by simpa using hid)] at hfind
      have := ih hfind
      rw [eraseP_cons_of_neg (by simpa using hid), mails_cons, mails_cons]
      omega

theorem mail_saved (m : Mail) :
    b.mail (if m.state = .changed then { m with state := .unchanged } else m) = b.mail m := by
  by_cases h : m.state = .changed
  · rw [if_pos h, b.mail_state]
  · rw [if_neg h]

theorem mails_saveMail (c : Character) :
    b.mails c.saveMail.mails = b.mails (c.mails.filter (·.state ≠ .deleted)) := by
  unfold mails Character.saveMail
  rw [map_map]
  exact congrArg List.sum (map_congr_left fun m _ => mail_saved m)

theorem mails_loadMail (c : Character) : b.mails c.loadMail.mails = b.mails c.mails := by
  unfold mails Character.loadMail
  rw [map_map]
  exact congrArg List.sum (map_congr_left fun m _ => b.mail_state m .unchanged)

/-- What `_SaveMail` throws away. -/
def purged (b : Weight) (l : List Mail) : Nat := b.mails (l.filter (·.state = .deleted))

theorem mails_filter_add_purged (l : List Mail) :
    b.mails (l.filter (·.state ≠ .deleted)) + b.purged l = b.mails l := by
  unfold purged
  induction l with
  | nil => rfl
  | cons m l ih =>
    by_cases h : m.state = .deleted
    · rw [filter_cons_of_neg (by simpa using h), filter_cons_of_pos (by simpa using h), mails_cons, mails_cons]
      omega
    · rw [filter_cons_of_pos (by simpa using h), filter_cons_of_neg (by simpa using h), mails_cons, mails_cons]
      omega

theorem of_saveMail (c : Character) : b.of c.saveMail + b.purged c.mails = b.of c := by
  have hown : b.own c.saveMail = b.own c := b.own_box c _ _ _
  have hsplit := mails_filter_add_purged (b := b) c.mails
  rw [of, of, mails_saveMail]
  omega

theorem of_loadMail (c : Character) : b.of c.loadMail = b.of c := by
  have hown : b.own c.loadMail = b.own c := b.own_box c _ _ _
  rw [of, of, hown, mails_loadMail]

theorem of_updateMail {c : Character} (hfind : c.mails.find? (·.messageID = id) = some m) (g : Mail → Mail) :
    b.of (c.updateMail id g) + b.mail m = b.of c + b.mail (g m) := by
  have hown : b.own (c.updateMail id g) = b.own c := b.own_box c _ _ _
  have hmails := mails_modifyMail (b := b) hfind g
  rw [of, of, hown]
  change b.own c + b.mails (modifyMail id g c.mails) + _ = _
  omega

/-! ## Characters -/

variable {w : World} {g : Nat} {c : Character}

theorem total_setChar (hg : g ∈ w.guids) (c : Character) :
    b.total (w.setChar g c) + b.of (w.char g) = b.total w + b.of c := by
  have hrest (j : Nat) (hj : j ≠ g) : b.of (update w.char g c j) = b.of (w.char j) := by
    rw [update_of_ne hj]
  have h := Tally.sum_change_mem hg hrest
  rw [update_self] at h
  exact h

theorem of_le_total (hg : g ∈ w.guids) : b.of (w.char g) ≤ b.total w :=
  Finset.single_le_sum (f := fun g => b.of (w.char g)) (fun _ _ => Nat.zero_le _) hg

theorem of_receiveMail (c : Character) (m : Mail) : b.of (c.receiveMail m) = b.of c + b.mail m := by
  have hown : b.own (c.receiveMail m) = b.own c := b.own_box c _ _ _
  rw [of, of, hown]
  change b.own c + b.mails (m :: c.mails) = _
  rw [mails_cons]
  omega

theorem total_sendMailTo (draft : MailDraft) {receiver : Nat} (sender deliverTime : Nat)
    (hr : receiver ∈ w.guids) :
    b.total (w.sendMailTo draft receiver sender deliverTime) = b.total w +
      b.mail (draft.toMail w.nextMailId sender receiver deliverTime) := by
  have h := total_setChar (b := b) hr
    ((w.char receiver).receiveMail (draft.toMail w.nextMailId sender receiver deliverTime))
  rw [of_receiveMail] at h
  change b.total (w.setChar receiver
    ((w.char receiver).receiveMail (draft.toMail w.nextMailId sender receiver deliverTime))) = _
  omega

end Weight

/-! ## Drafts -/

theorem count_addItem (item x : Nat) : (draft.addItem item).items.count x =
    draft.items.count x + if x = item ∧ x ∉ draft.items then 1 else 0 := by
  unfold addItem
  by_cases hmem : item ∈ draft.items
  · have hnot : ¬ (x = item ∧ x ∉ draft.items) := fun h => h.2 (h.1 ▸ hmem)
    rw [if_pos hmem, if_neg hnot, add_zero]
  · rw [if_neg hmem, (perm_orderedInsert _ _ _).count_eq]
    by_cases hx : x = item
    · subst hx
      simp [hmem]
    · simp [hx, Ne.symm hx]

theorem mem_addItem {draft : MailDraft} {item x : Nat} :
    x ∈ (draft.addItem item).items ↔ x = item ∨ x ∈ draft.items := by
  unfold addItem
  by_cases hmem : item ∈ draft.items
  · rw [if_pos hmem]
    constructor
    · exact Or.inr
    · rintro (rfl | h)
      · exact hmem
      · exact h
  · rw [if_neg hmem]
    exact (perm_orderedInsert _ _ _).mem_iff.trans mem_cons

theorem count_foldl_addItem : ∀ draft : MailDraft,
    (items.foldl addItem draft).items.count x =
      draft.items.count x + if x ∈ items ∧ x ∉ draft.items then 1 else 0 := by
  induction items with
  | nil => intro draft; simp
  | cons item items ih =>
    intro draft
    rw [foldl_cons, ih, count_addItem]
    simp only [mem_addItem, mem_cons]
    by_cases hx : x = item <;> by_cases hd : x ∈ draft.items <;> by_cases hi : x ∈ items <;> simp [hx, hd, hi]

theorem addItem_money (item : Nat) : (draft.addItem item).money = draft.money := by
  unfold addItem
  split <;> rfl

theorem foldl_addItem_money : ∀ draft : MailDraft,
    (items.foldl addItem draft).money = draft.money := by
  induction items with
  | nil => intro draft; rfl
  | cons item items ih =>
    intro draft
    rw [foldl_cons, ih, addItem_money]

theorem count_foldl_erase : ∀ inventory : List Nat, inventory.count x ≤ 1 →
    (items.foldl List.erase inventory).count x = if x ∈ items then 0 else inventory.count x := by
  induction items with
  | nil => intro inventory _; simp
  | cons item items ih =>
    intro inventory hle
    have hcount : (inventory.erase item).count x = if x = item then 0 else inventory.count x := by
      by_cases hx : x = item
      · rw [hx, count_erase_self, if_pos rfl]
        rw [hx] at hle
        omega
      · rw [count_erase_of_ne hx, if_neg hx]
    rw [foldl_cons, ih _ (by rw [hcount]; split <;> omega), hcount]
    by_cases hx : x = item
    · simp [hx]
    · by_cases hi : x ∈ items <;> simp [hx, hi]

theorem foldl_returnItem (x : Nat) (items : List Nat) : ∀ (c : Character) (draft : MailDraft),
    (items.foldl World.returnItem (c, draft)).1 =
        { c with mailItems := c.mailItems.filter (· ∉ items) } ∧
      (items.foldl World.returnItem (c, draft)).2.items.count x =
        draft.items.count x + (if x ∈ items ∧ x ∈ c.mailItems ∧ x ∉ draft.items then 1 else 0) := by
  induction items with
  | nil => intro c draft; simp
  | cons item items ih =>
    intro c draft
    obtain ⟨h1, h2⟩ := ih (c.removeMItem item) (if item ∈ c.mailItems then draft.addItem item else draft)
    refine ⟨h1.trans ?_, h2.trans ?_⟩
    · unfold Character.removeMItem
      simp only [filter_filter, mem_cons]
      congr 1
      apply filter_congr
      intro y _
      by_cases hy : y = item <;> simp [hy]
    · by_cases hitem : item ∈ c.mailItems
      · rw [if_pos hitem, count_addItem]
        simp only [mem_addItem, mem_cons, Character.removeMItem, mem_filter]
        by_cases hx : x = item
        · subst hx
          by_cases hd : x ∈ draft.items <;> simp [hd, hitem]
        · simp [hx]
      · rw [if_neg hitem]
        simp only [mem_cons, Character.removeMItem, mem_filter]
        by_cases hx : x = item
        · subst hx
          simp [hitem]
        · simp [hx]

/-! ## Requests -/

namespace World

open Weight

variable {w : World} {b : Weight} {now player mailId : Nat} {m : Mail}

theorem getMail_some {c : Character} (h : c.getMail mailId = some m) :
    c.mailsLoaded = true ∧ c.mails.find? (·.messageID = mailId) = some m := by
  unfold Character.getMail at h
  by_cases hloaded : c.mailsLoaded = true
  · rw [if_pos hloaded] at h
    exact ⟨hloaded, h⟩
  · rw [if_neg hloaded] at h
    cases h

theorem takableMail_some (h : w.takableMail now player mailId = some m) :
    (w.char player).mailsLoaded = true ∧ (w.char player).mails.find? (·.messageID = mailId) = some m ∧
      m.state ≠ .deleted ∧ m.deliverTime ≤ now := by
  unfold takableMail at h
  cases hget : (w.char player).getMail mailId with
  | none => rw [hget] at h; cases h
  | some m' =>
    rw [hget] at h
    dsimp only at h
    by_cases hnot : m'.state = .deleted ∨ now < m'.deliverTime
    · rw [if_pos hnot] at h
      cases h
    · rw [if_neg hnot] at h
      obtain rfl := Option.some.inj h
      obtain ⟨hloaded, hfind⟩ := getMail_some hget
      exact ⟨hloaded, hfind, fun hs => hnot (.inl hs), by omega⟩

section

variable (hp : player ∈ w.guids)
include hp

theorem total_handleGetMailList : b.total (w.handleGetMailList player) = b.total w := by
  unfold handleGetMailList
  split
  · rfl
  · have h := total_setChar (b := b) hp (w.char player).loadMail
    rw [of_loadMail] at h
    exact add_right_cancel h

theorem total_setState (hget : (w.char player).getMail mailId = some m)
    (state : MailState) :
    b.total (w.setChar player ((w.char player).updateMail mailId ({ · with state := state }))) = b.total w := by
  have h := total_setChar (b := b) hp ((w.char player).updateMail mailId ({ · with state := state }))
  have hof := of_updateMail (b := b) (getMail_some hget).2 ({ · with state := state })
  have hstate : b.mail { m with state := state } = b.mail m := b.mail_state m state
  omega

theorem total_handleMailMarkAsRead : b.total (w.handleMailMarkAsRead player mailId) = b.total w := by
  unfold handleMailMarkAsRead
  cases hget : (w.char player).getMail mailId with
  | none => rfl
  | some m => exact total_setState hp hget .changed

theorem total_handleMailDelete : b.total (w.handleMailDelete player mailId) = b.total w := by
  unfold handleMailDelete
  cases hget : (w.char player).getMail mailId with
  | none => rfl
  | some m =>
    dsimp only
    split
    · rfl
    · exact total_setState hp hget .deleted

theorem total_handleMailTakeMoney (h : w.takableMail now player mailId = some m) :
    b.total (w.handleMailTakeMoney now player mailId) + b.own (w.char player) + b.mail m +
        b.purged (modifyMail mailId ({ · with money := 0, state := .changed }) (w.char player).mails) =
      b.total w + b.own ((w.char player).modifyMoney (int32 m.money)) + b.mail { m with money := 0 } := by
  obtain ⟨-, hfind, -, -⟩ := takableMail_some h
  have hstate : b.mail { m with money := 0, state := .changed } = b.mail { m with money := 0 } :=
    b.mail_state { m with money := 0 } .changed
  let c := (w.char player).modifyMoney (int32 m.money)
  let c' := c.updateMail mailId ({ · with money := 0, state := .changed })
  have hset := total_setChar (b := b) hp c'.saveMail
  have hsave : b.of c'.saveMail + b.purged c'.mails = b.of c' := of_saveMail c'
  have hupdate : b.of c' + b.mail m = b.of c + b.mail { m with money := 0, state := .changed } :=
    of_updateMail (c := c) hfind _
  have hof : b.of c = b.own c + b.mails (w.char player).mails := rfl
  have hof' : b.of (w.char player) = b.own (w.char player) + b.mails (w.char player).mails := rfl
  have heq : w.handleMailTakeMoney now player mailId = w.setChar player c'.saveMail := by
    unfold handleMailTakeMoney
    rw [h]
    rfl
  change _ + _ + _ + b.purged c'.mails = _ + b.own c + _
  rw [heq]
  omega

end

/-! ### Taking an item -/

/-- The mail without the item, as `HandleMailTakeItem` leaves it. -/
def withoutItem (item : Nat) (m : Mail) : Mail := { m.removeItem item with cod := 0, state := .changed }

variable {store : StoreResult}

theorem handleMailTakeItem_eq
    (h : w.takableMail now player mailId = some m) (hcod : m.cod ≤ (w.char player).money)
    (hitem : item ∈ (w.char player).mailItems) (hstore : store ≠ .refused) :
    w.handleMailTakeItem now player mailId item store = (w.payCod now player m).setChar player
      (((((w.payCod now player m).char player).updateMail mailId (withoutItem item)).removeMItem item).storeItem
        item store).saveMail := by
  unfold handleMailTakeItem
  rw [h]
  dsimp only
  rw [if_neg (not_lt.2 hcod), if_neg (by rintro (h | h); exacts [h hitem, hstore h])]
  rfl

theorem handleMailTakeItem_refused
    (h : ∀ m, w.takableMail now player mailId = some m → (w.char player).money < m.cod ∨
      item ∉ (w.char player).mailItems ∨ store = .refused) :
    w.handleMailTakeItem now player mailId item store = w := by
  unfold handleMailTakeItem
  cases htake : w.takableMail now player mailId with
  | none => rfl
  | some m =>
    dsimp only
    by_cases hlt : (w.char player).money < m.cod
    · rw [if_pos hlt]
    · rw [if_neg hlt, if_pos ((h m htake).resolve_left hlt)]

@[simp] theorem guids_payCod : (w.payCod now player m).guids = w.guids := by
  unfold payCod
  split
  · dsimp only
    split <;> rfl
  · rfl

theorem char_sendMailTo (receiver sender deliverTime g : Nat) :
    (w.sendMailTo draft receiver sender deliverTime).char g =
      if g = receiver then (w.char g).receiveMail (draft.toMail w.nextMailId sender receiver deliverTime)
      else w.char g := by
  change update w.char receiver _ g = _
  by_cases hg : g = receiver
  · rw [if_pos hg, hg, update_self]
  · rw [if_neg hg, update_of_ne hg]

theorem char_setChar (g g' : Nat) (c : Character) :
    (w.setChar g c).char g' = if g' = g then c else w.char g' := update_apply ..

def codPayment (w : World) (now : Nat) (m : Mail) : Mail :=
  toMail { money := m.cod } w.nextMailId m.receiver m.sender now

theorem char_payCod (g : Nat) : (w.payCod now player m).char g =
    let c := if (0 < m.cod ∧ m.sender ∈ w.guids) ∧ g = m.sender then (w.char g).receiveMail (w.codPayment now m)
      else w.char g
    if 0 < m.cod ∧ g = player then c.modifyMoney (-int32 m.cod) else c := by
  unfold payCod modifyChar
  by_cases hcod : 0 < m.cod
  · simp only [hcod, if_true, true_and]
    rw [char_setChar]
    have hsent (g : Nat) : (if m.sender ∈ w.guids then w.sendMailTo { money := m.cod } m.sender m.receiver now
        else w).char g = if m.sender ∈ w.guids ∧ g = m.sender then (w.char g).receiveMail (w.codPayment now m)
          else w.char g := by
      by_cases hs : m.sender ∈ w.guids
      · simp only [hs, if_true, true_and]
        exact char_sendMailTo ..
      · simp only [hs, false_and, if_false]
    by_cases hg : g = player
    · subst hg
      rw [if_pos rfl, if_pos rfl, hsent]
    · rw [if_neg hg, if_neg hg, hsent]
  · simp only [hcod, false_and, if_false]

theorem mem_mails_payCod {g : Nat} {m' : Mail} (h : m' ∈ ((w.payCod now player m).char g).mails) :
    m' ∈ (w.char g).mails ∨ ((0 < m.cod ∧ m.sender ∈ w.guids) ∧ m' = w.codPayment now m) := by
  have hcons (c : Character) (h : m' ∈ (c.receiveMail (w.codPayment now m)).mails) :
      m' = w.codPayment now m ∨ m' ∈ c.mails := mem_cons.1 h
  rw [char_payCod] at h
  by_cases hpay : (0 < m.cod ∧ m.sender ∈ w.guids) ∧ g = m.sender
  · simp only [if_pos hpay] at h
    have hmem : m' ∈ ((w.char g).receiveMail (w.codPayment now m)).mails := by
      split at h <;> exact h
    rcases hcons _ hmem with h | h
    · exact .inr ⟨hpay.1, h⟩
    · exact .inl h
  · simp only [if_neg hpay] at h
    split at h <;> exact .inl h

theorem find?_payCod (hne : mailId ≠ w.nextMailId) :
    ((w.payCod now player m).char player).mails.find? (·.messageID = mailId) =
      (w.char player).mails.find? (·.messageID = mailId) := by
  have hpay (c : Character) : (c.receiveMail (w.codPayment now m)).mails.find? (·.messageID = mailId) =
      c.mails.find? (·.messageID = mailId) :=
    find?_cons_of_neg fun h => hne (of_decide_eq_true h).symm
  rw [char_payCod]
  dsimp only
  split <;> split
  · exact hpay _
  · rfl
  · exact hpay _
  · rfl

theorem places_payCod (hp : player ∈ w.guids) :
    (places x).total (w.payCod now player m) = (places x).total w := by
  unfold payCod
  by_cases hcod : 0 < m.cod
  · simp only [hcod, if_true]
    have hpay (w' : World) (hp' : player ∈ w'.guids) :
        (places x).total (w'.modifyChar player (·.modifyMoney (-int32 m.cod))) = (places x).total w' := by
      have h := total_setChar (b := places x) hp' ((w'.char player).modifyMoney (-int32 m.cod))
      exact add_right_cancel h
    by_cases hs : m.sender ∈ w.guids
    · simp only [hs, if_true]
      rw [hpay (w.sendMailTo { money := m.cod } m.sender m.receiver now) hp, total_sendMailTo _ _ _ hs]
      rfl
    · simp only [hs, if_false]
      exact hpay w hp
  · simp only [hcod, if_false]

theorem modifyMoney_pay_pos {money amount : Nat} (hpos : 0 < amount) (hle : amount ≤ money)
    (hsmall : amount < 2 ^ 31) (hmoney : money < 2 ^ 32) :
    modifyMoney money (-int32 amount) = money - amount := by
  have hint : int32 amount = amount := by
    unfold int32
    rw [if_pos (by omega)]
  have hamount : uint32 (- -(amount : Int)) = amount := by
    unfold uint32
    omega
  unfold modifyMoney
  rw [hint, if_pos (by omega), hamount]
  by_cases hlt : amount < money
  · rw [if_pos hlt]
    unfold uint32
    omega
  · rw [if_neg hlt]
    omega

theorem cash_payCod (hp : player ∈ w.guids) (hs : 0 < m.cod → m.sender ∈ w.guids)
    (hcod : m.cod ≤ (w.char player).money) (hmoney : (w.char player).money < 2 ^ 31) :
    cash.total (w.payCod now player m) = cash.total w := by
  unfold payCod
  by_cases hpos : 0 < m.cod
  · simp only [hpos, hs hpos, if_true]
    have hsent := total_sendMailTo (b := cash) { money := m.cod } m.receiver now (hs hpos)
    have hp' : player ∈ (w.sendMailTo { money := m.cod } m.sender m.receiver now).guids := hp
    have hmoney' : ((w.sendMailTo { money := m.cod } m.sender m.receiver now).char player).money =
        (w.char player).money := by
      rw [char_sendMailTo]
      split <;> rfl
    generalize w.sendMailTo { money := m.cod } m.sender m.receiver now = w' at hsent hp' hmoney'
    have h := total_setChar (b := cash) hp' ((w'.char player).modifyMoney (-int32 m.cod))
    have hpaid : modifyMoney (w'.char player).money (-int32 m.cod) = (w.char player).money - m.cod := by
      rw [hmoney']
      exact modifyMoney_pay_pos hpos hcod (by omega) (by omega)
    have hof : cash.of ((w'.char player).modifyMoney (-int32 m.cod)) + m.cod = cash.of (w'.char player) := by
      change modifyMoney (w'.char player).money (-int32 m.cod) + cash.mails (w'.char player).mails +
        m.cod = (w'.char player).money + cash.mails (w'.char player).mails
      omega
    have hmail : cash.mail (toMail { money := m.cod } w.nextMailId m.receiver m.sender now) = m.cod := rfl
    change cash.total (w'.setChar player ((w'.char player).modifyMoney (-int32 m.cod))) = _
    omega
  · simp only [hpos, if_false]

theorem mails_storeItem (item : Nat) (store : StoreResult) :
    (c.storeItem item store).mails = c.mails := by
  unfold Character.storeItem
  split <;> rfl

theorem own_storeItem (item mailId : Nat) (store : StoreResult) (g : Mail → Mail) :
    b.own (((c.updateMail mailId g).removeMItem item).storeItem item store) = b.own (c.storeItem item store) := by
  unfold Character.storeItem
  by_cases h : store = .placed
  · rw [if_pos h, if_pos h]
    exact b.own_box { c with inventory := item :: c.inventory } _ _ _
  · rw [if_neg h, if_neg h]
    exact b.own_box c _ _ _

theorem total_handleMailTakeItem (hp : player ∈ w.guids)
    (h : w.takableMail now player mailId = some m) (hcod : m.cod ≤ (w.char player).money)
    (hitem : item ∈ (w.char player).mailItems) (hstore : store ≠ .refused) (hne : mailId ≠ w.nextMailId) :
    b.total (w.handleMailTakeItem now player mailId item store) + b.own ((w.payCod now player m).char player) +
        b.mail m + b.purged (modifyMail mailId (withoutItem item) ((w.payCod now player m).char player).mails) =
      b.total (w.payCod now player m) + b.own (((w.payCod now player m).char player).storeItem item store) +
        b.mail { m.removeItem item with cod := 0 } := by
  obtain ⟨-, hfind, -, -⟩ := takableMail_some h
  rw [handleMailTakeItem_eq h hcod hitem hstore]
  have hfind' : ((w.payCod now player m).char player).mails.find? (·.messageID = mailId) = some m :=
    (find?_payCod hne).trans hfind
  have hp' : player ∈ (w.payCod now player m).guids := by rw [guids_payCod]; exact hp
  generalize w.payCod now player m = w' at hfind' hp' ⊢
  let c := w'.char player
  let c' := ((c.updateMail mailId (withoutItem item)).removeMItem item).storeItem item store
  have hset := total_setChar (b := b) hp' c'.saveMail
  have hsave : b.of c'.saveMail + b.purged c'.mails = b.of c' := of_saveMail c'
  have hmails' : c'.mails = modifyMail mailId (withoutItem item) c.mails := mails_storeItem _ _ _
  have hown : b.own c' = b.own (c.storeItem item store) := own_storeItem _ _ _ _ _
  have hmails : b.mails (modifyMail mailId (withoutItem item) c.mails) + b.mail m =
      b.mails c.mails + b.mail (withoutItem item m) := mails_modifyMail hfind' _
  have hstate : b.mail (withoutItem item m) = b.mail { m.removeItem item with cod := 0 } :=
    b.mail_state { m.removeItem item with cod := 0 } .changed
  have hof : b.of c' = b.own c' + b.mails c'.mails := rfl
  have hof' : b.of (w'.char player) = b.own c + b.mails c.mails := rfl
  change b.total (w'.setChar player c'.saveMail) + b.own c + _ + b.purged (modifyMail mailId (withoutItem item) c.mails) =
    _ + b.own (c.storeItem item store) + _
  rw [hmails'] at hof hsave
  omega

/-! ### Sending a mail -/

def afterSending (c : Character) (items : List Nat) (money : Nat) : Character :=
  (c.modifyMoney (-int32 (reqMoney items.length money))).moveItemsFromInventory items

section Sending

variable {receiver money : Nat} {items : List Nat} {permitted : Bool}

theorem acceptsMail_spec (h : w.acceptsMail player receiver items money permitted = true) :
    receiver ∈ w.guids ∧ player ≠ receiver ∧ reqMoney items.length money ≤ (w.char player).money ∧
      ∀ x ∈ items, x ∈ (w.char player).inventory := by
  unfold acceptsMail at h
  simp only [Bool.and_eq_true, decide_eq_true_eq, all_eq_true] at h
  obtain ⟨-, ⟨hr, hne⟩, hmoney, hitems, -⟩ := h
  exact ⟨hr, hne, hmoney, hitems⟩

theorem handleSendMail_eq (delay now cod : Nat) (h : w.acceptsMail player receiver items money permitted = true) :
    ∃ time, w.handleSendMail delay now player receiver items money cod permitted =
      (w.setChar player (afterSending (w.char player) items money)).sendMailTo
        (items.foldl addItem { money := money, cod := cod }) receiver player time := by
  unfold handleSendMail
  rw [if_pos h]
  exact ⟨_, rfl⟩

theorem total_handleSendMail (delay now cod : Nat) (hp : player ∈ w.guids)
    (h : w.acceptsMail player receiver items money permitted = true) :
    ∃ time, b.total (w.handleSendMail delay now player receiver items money cod permitted) + b.own (w.char player) =
      b.total w + b.own (afterSending (w.char player) items money) +
        b.mail ((items.foldl addItem { money := money, cod := cod }).toMail w.nextMailId player receiver
          time) := by
  have hr := (acceptsMail_spec h).1
  obtain ⟨time, heq⟩ := handleSendMail_eq delay now cod h
  refine ⟨time, ?_⟩
  have hset := total_setChar (b := b) hp (afterSending (w.char player) items money)
  have hof : b.of (afterSending (w.char player) items money) =
    b.own (afterSending (w.char player) items money) + b.mails (w.char player).mails := rfl
  have hof' : b.of (w.char player) = b.own (w.char player) + b.mails (w.char player).mails := rfl
  have hid : (w.setChar player (afterSending (w.char player) items money)).nextMailId = w.nextMailId := rfl
  rw [heq, total_sendMailTo (w := w.setChar player (afterSending (w.char player) items money)) _ _ _ hr, hid]
  omega

end Sending

/-! ### Sending a mail back -/

def afterReturning (c : Character) (m : Mail) : Character × MailDraft :=
  m.items.foldl returnItem (c.removeMail m.messageID, {})

theorem messageID_of_find? {l : List Mail} (h : l.find? (·.messageID = mailId) = some m) : m.messageID = mailId := by
  simpa using find?_some h

theorem handleMailReturnToSender_eq (h : w.takableMail now player mailId = some m)
    (htype : m.messageType = .normal) (hs : m.sender ∈ w.guids) :
    ∃ time, w.handleMailReturnToSender delay now player mailId =
      (w.setChar player (afterReturning (w.char player) m).1).sendMailTo
        { (afterReturning (w.char player) m).2 with money := m.money } m.sender m.receiver time := by
  have hne : m.sender ≠ 0 := fun h0 => w.zero_notMem (h0 ▸ hs)
  have hid := messageID_of_find? (takableMail_some h).2.1
  unfold handleMailReturnToSender
  rw [h]
  dsimp only
  rw [if_pos ⟨htype, hne⟩, sendReturnToSender, if_pos (show m.sender ∈ (w.setChar player _).guids from hs), ← hid]
  exact ⟨_, rfl⟩

theorem handleMailReturnToSender_lost (h : w.takableMail now player mailId = some m)
    (hlost : ¬ (m.messageType = .normal ∧ m.sender ∈ w.guids)) :
    ∃ mailItems, w.handleMailReturnToSender delay now player mailId =
      w.setChar player { (w.char player).removeMail mailId with mailItems := mailItems } := by
  unfold handleMailReturnToSender
  rw [h]
  dsimp only
  by_cases hsent : m.messageType = .normal ∧ m.sender ≠ 0
  · have hs : m.sender ∉ w.guids := fun hs => hlost ⟨hsent.1, hs⟩
    rw [if_pos hsent, sendReturnToSender, if_neg (show m.sender ∉ (w.setChar player _).guids from hs),
      (foldl_returnItem 0 m.items _ _).1]
    exact ⟨_, rfl⟩
  · rw [if_neg hsent]
    exact ⟨((w.char player).removeMail mailId).mailItems, rfl⟩

theorem total_handleMailReturnToSender (hp : player ∈ w.guids) (h : w.takableMail now player mailId = some m)
    (htype : m.messageType = .normal) (hs : m.sender ∈ w.guids) :
    ∃ time, b.total (w.handleMailReturnToSender delay now player mailId) + b.mail m = b.total w +
      b.mail (toMail { (afterReturning (w.char player) m).2 with money := m.money } w.nextMailId m.receiver
        m.sender time) := by
  obtain ⟨-, hfind, -, -⟩ := takableMail_some h
  have hmsg := messageID_of_find? hfind
  obtain ⟨time, heq⟩ := handleMailReturnToSender_eq delay h htype hs
  refine ⟨time, ?_⟩
  generalize hr : (afterReturning (w.char player) m).1 = c at heq
  have hc : c = { (w.char player).removeMail mailId with
      mailItems := (w.char player).mailItems.filter (· ∉ m.items) } := by
    rw [← hr, ← hmsg]
    exact (foldl_returnItem 0 m.items _ _).1
  have hset := total_setChar (b := b) hp c
  have hown : b.own c = b.own (w.char player) := by
    rw [hc]
    exact b.own_box (w.char player) _ _ _
  have hmails : b.mails c.mails + b.mail m = b.mails (w.char player).mails := by
    rw [hc]
    exact mails_eraseP hfind
  have hof : b.of c = b.own c + b.mails c.mails := rfl
  have hof' : b.of (w.char player) = b.own (w.char player) + b.mails (w.char player).mails := rfl
  have hid : (w.setChar player c).nextMailId = w.nextMailId := rfl
  rw [heq, total_sendMailTo (w := w.setChar player c) _ _ _ hs, hid]
  omega

end World

end Axium.Mails
