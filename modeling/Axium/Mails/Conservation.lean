import Axium.Mails.Ledger

/-!
# Mail conserves money and items

The money of all players and mails changes only by the postage of the mails that are accepted, and every item
stays in one place, in every run whose requests reach none of the slips of the handlers: the money asked from the
sender of a mail is a sum in 32 bits; `ModifyMoney` takes the money of a mail as an `int32` and cuts it at the
cap; and an item is looked up in the whole mailbox, whatever mail the request names.
-/

namespace Axium.Mails

open Weight World List Guilds MailState

structure Mail.Sound (w : World) (m : Mail) : Prop where
  messageID_lt : m.messageID < w.nextMailId
  normal : m.messageType = .normal
  sender_mem : m.sender ∈ w.guids
  receiver_mem : m.receiver ∈ w.guids
  kept : m.state ≠ .deleted

def Character.Opened (c : Character) : Prop :=
  c.mailsLoaded = true → ∀ m ∈ c.mails, ∀ x ∈ m.items, x ∈ c.mailItems

/-- Balances within the cap, mails of players that exist, and mailboxes with their items. -/
structure Tidy (w : World) : Prop where
  capped : ∀ g ∈ w.guids, (w.char g).money ≤ maxMoneyAmount
  mails : ∀ g ∈ w.guids, ∀ m ∈ (w.char g).mails, m.Sound w
  opened : ∀ g ∈ w.guids, (w.char g).Opened

structure Orderly (w : World) : Prop extends Tidy w where
  single : ∀ x, (places x).total w ≤ 1

def Fair (w : World) (e : Event) : Prop :=
  match e.request with
  | .sendMail _ items money _ _ => cost items.length + money < 2 ^ 32
  | .takeMoney mailId => ∀ m, w.takableMail e.now e.player mailId = some m →
      (w.char e.player).money + m.money ≤ maxMoneyAmount
  | .takeItem mailId item _ => ∀ m, w.takableMail e.now e.player mailId = some m →
      item ∈ (w.char e.player).mailItems → item ∈ m.items
  | _ => True

def postage (w : World) (e : Event) : Nat :=
  match e.request with
  | .sendMail receiver items money _ permitted =>
    if w.acceptsMail e.player receiver items money permitted then cost items.length else 0
  | _ => 0

def mergedItem (w : World) (e : Event) : Option Nat :=
  match e.request with
  | .takeItem mailId item .merged =>
    match w.takableMail e.now e.player mailId with
    | some m => if m.cod ≤ (w.char e.player).money ∧ item ∈ (w.char e.player).mailItems then some item else none
    | none => none
  | _ => none

/-- No money but the postage and no item but a merged one is lost or made. -/
structure Conserves (delay : Nat) (w : World) (e : Event) : Prop where
  money : cash.total (w.step delay e) + postage w e = cash.total w
  items : ∀ x, (places x).total (w.step delay e) + (if mergedItem w e = some x then 1 else 0) = (places x).total w

/-! ## Conservation -/

section Requests

variable {w : World} {delay now player mailId : Nat}

theorem cost_pos (n : Nat) : 0 < cost n := by
  unfold cost
  split <;> omega

theorem Orderly.money_lt (h : Orderly w) (hp : player ∈ w.guids) : (w.char player).money < 2 ^ 31 := by
  have := h.capped player hp
  unfold maxMoneyAmount at this
  omega

theorem box_le_one {x : Nat} (h : (places x).total w ≤ 1) (hp : player ∈ w.guids) :
    (w.char player).inventory.count x + (places x).mails (w.char player).mails ≤ 1 :=
  (of_le_total (b := places x) hp).trans h

variable {m : Mail}

theorem find?_sound (h : Orderly w) (hp : player ∈ w.guids)
    (hfind : (w.char player).mails.find? (·.messageID = mailId) = some m) : m.Sound w :=
  h.mails player hp m (mem_of_find?_eq_some hfind)

variable {receiver money cod : Nat} {items : List Nat} {permitted : Bool}

theorem cash_handleSendMail (h : Orderly w) (hp : player ∈ w.guids)
    (haccept : w.acceptsMail player receiver items money permitted = true)
    (hfair : cost items.length + money < 2 ^ 32) :
    cash.total (w.handleSendMail delay now player receiver items money cod permitted) + cost items.length =
      cash.total w := by
  obtain ⟨-, -, hreq, -⟩ := acceptsMail_spec haccept
  obtain ⟨time, htotal⟩ := total_handleSendMail (b := cash) delay now cod hp haccept
  have hreq' : reqMoney items.length money = cost items.length + money := Nat.mod_eq_of_lt hfair
  have hpos := cost_pos items.length
  have hlt := h.money_lt hp
  have hpaid : cash.own (afterSending (w.char player) items money) =
      (w.char player).money - reqMoney items.length money :=
    modifyMoney_pay_pos (by omega) hreq (by omega) (by omega)
  have hmail (id : Nat) : cash.mail ((items.foldl MailDraft.addItem { money := money, cod := cod }).toMail id player
      receiver time) = money := foldl_addItem_money items _
  have hown : cash.own (w.char player) = (w.char player).money := rfl
  rw [hmail] at htotal
  omega

theorem places_handleSendMail (hp : player ∈ w.guids)
    (haccept : w.acceptsMail player receiver items money permitted = true) {x : Nat}
    (hsingle : (places x).total w ≤ 1) : (places x).total (w.handleSendMail delay now player receiver items money cod permitted) =
      (places x).total w := by
  obtain ⟨-, -, -, hitems⟩ := acceptsMail_spec haccept
  obtain ⟨time, htotal⟩ := total_handleSendMail (b := places x) delay now cod hp haccept
  have hle := box_le_one hsingle hp
  have hown : (places x).own (afterSending (w.char player) items money) =
      if x ∈ items then 0 else (w.char player).inventory.count x :=
    count_foldl_erase x items _ ((Nat.le_add_right _ _).trans hle)
  have hmail (id : Nat) : (places x).mail ((items.foldl MailDraft.addItem { money := money, cod := cod }).toMail id
      player receiver time) = if x ∈ items then 1 else 0 := by
    refine (count_foldl_addItem x items _).trans ?_
    simp
  have hown' : (places x).own (w.char player) = (w.char player).inventory.count x := rfl
  rw [hmail, hown] at htotal
  by_cases hx : x ∈ items
  · have := count_pos_iff.2 (hitems x hx)
    rw [if_pos hx, if_pos hx] at htotal
    omega
  · rw [if_neg hx, if_neg hx] at htotal
    omega

theorem modifyMoney_earn {amount : Nat} (h : money + amount ≤ maxMoneyAmount) :
    modifyMoney money (int32 amount) = money + amount := by
  unfold maxMoneyAmount at h
  have hint : int32 amount = amount := by
    unfold int32
    rw [if_pos (by omega)]
  have hcap : uint32 ((maxMoneyAmount : Int) - amount) = maxMoneyAmount - amount := by
    unfold uint32 maxMoneyAmount
    omega
  unfold modifyMoney
  rw [hint, if_neg (by omega), hcap]
  unfold maxMoneyAmount
  by_cases hlt : money < 0x7FFFFFFE - amount
  · rw [if_pos hlt]
    unfold uint32
    omega
  · rw [if_neg hlt]
    omega

variable {l : List Mail}

theorem purged_eq_zero {b : Weight} (h : ∀ m ∈ l, m.state ≠ .deleted) : b.purged l = 0 := by
  unfold purged
  rw [filter_eq_nil_iff.2 fun m hm => by simpa using h m hm]
  rfl

variable {g : Mail → Mail}

theorem mem_modifyMail {id : Nat} (h : m ∈ modifyMail id g l) :
    m ∈ l ∨ ∃ m' ∈ l, m'.messageID = id ∧ m = g m' := by
  induction l with
  | nil => exact absurd h not_mem_nil
  | cons m' l ih =>
    rw [modifyMail] at h
    by_cases hid : m'.messageID = id
    · rw [if_pos hid] at h
      rcases mem_cons.1 h with rfl | h
      · exact .inr ⟨m', mem_cons_self, hid, rfl⟩
      · exact .inl (mem_cons_of_mem _ h)
    · rw [if_neg hid] at h
      rcases mem_cons.1 h with rfl | h
      · exact .inl mem_cons_self
      · rcases ih h with h | ⟨m'', hm'', hid'', heq⟩
        · exact .inl (mem_cons_of_mem _ h)
        · exact .inr ⟨m'', mem_cons_of_mem _ hm'', hid'', heq⟩

theorem modifyMail_kept {id : Nat} (h : ∀ m ∈ l, m.state ≠ .deleted)
    (hg : ∀ m, (g m).state ≠ .deleted) : ∀ m ∈ modifyMail id g l, m.state ≠ .deleted := by
  intro m hm
  rcases mem_modifyMail hm with hm | ⟨m', -, -, rfl⟩
  · exact h m hm
  · exact hg m'

theorem places_handleMailTakeMoney (hp : player ∈ w.guids)
    (htake : w.takableMail now player mailId = some m) (x : Nat) :
    (places x).total (w.handleMailTakeMoney now player mailId) +
      (places x).purged (modifyMail mailId ({ · with money := 0, state := .changed }) (w.char player).mails) =
        (places x).total w := by
  have htotal := total_handleMailTakeMoney (b := places x) hp htake
  have hown : (places x).own ((w.char player).modifyMoney (int32 m.money)) =
    (places x).own (w.char player) := rfl
  have hmail : (places x).mail { m with money := 0 } = (places x).mail m := rfl
  omega

theorem Orderly.conserves_takeMoney (h : Orderly w) (hp : player ∈ w.guids)
    (htake : w.takableMail now player mailId = some m)
    (hfair : (w.char player).money + m.money ≤ maxMoneyAmount) :
    cash.total (w.handleMailTakeMoney now player mailId) = cash.total w ∧
      ∀ x, (places x).total (w.handleMailTakeMoney now player mailId) = (places x).total w := by
  have hkept : ∀ m' ∈ modifyMail mailId ({ · with money := 0, state := .changed }) (w.char player).mails,
      m'.state ≠ .deleted :=
    modifyMail_kept (fun m' hm' => (h.mails player hp m' hm').kept) fun _ h => noConfusion h
  constructor
  · have htotal := total_handleMailTakeMoney (b := cash) hp htake
    have hearn : cash.own ((w.char player).modifyMoney (int32 m.money)) = (w.char player).money + m.money :=
      modifyMoney_earn hfair
    have hown : cash.own (w.char player) = (w.char player).money := rfl
    have hmail : cash.mail m = m.money := rfl
    have hmail' : cash.mail { m with money := 0 } = 0 := rfl
    rw [purged_eq_zero hkept] at htotal
    omega
  · intro x
    have htotal := places_handleMailTakeMoney hp htake x
    rw [purged_eq_zero hkept] at htotal
    exact htotal

theorem places_handleMailReturnToSender_le (hp : player ∈ w.guids) (x : Nat) :
    (places x).total (w.handleMailReturnToSender delay now player mailId) ≤ (places x).total w := by
  cases htake : w.takableMail now player mailId with
  | none =>
    unfold handleMailReturnToSender
    rw [htake]
  | some m =>
    obtain ⟨-, hfind, -, -⟩ := takableMail_some htake
    by_cases hsent : m.messageType = .normal ∧ m.sender ∈ w.guids
    · obtain ⟨time, htotal⟩ := total_handleMailReturnToSender (b := places x) delay hp htake hsent.1 hsent.2
      have hdraft : (afterReturning (w.char player) m).2.items.count x ≤ m.items.count x := by
        refine (foldl_returnItem x m.items _ _).2.le.trans ?_
        split
        · rename_i hx
          exact (zero_add 1).le.trans (count_pos_iff.2 hx.1)
        · exact Nat.zero_le _
      have hmail (id time : Nat) : (places x).mail (MailDraft.toMail
          { (afterReturning (w.char player) m).2 with money := m.money } id m.receiver m.sender time) ≤
          (places x).mail m := hdraft
      have := hmail w.nextMailId time
      omega
    · obtain ⟨mailItems, heq⟩ := handleMailReturnToSender_lost delay htake hsent
      have hset := total_setChar (b := places x) hp
        { (w.char player).removeMail mailId with mailItems := mailItems }
      have herase := mails_eraseP (b := places x) hfind
      have hof : (places x).of { (w.char player).removeMail mailId with mailItems := mailItems } =
        (w.char player).inventory.count x +
          (places x).mails ((w.char player).mails.eraseP (·.messageID = mailId)) := rfl
      have hof' : (places x).of (w.char player) =
        (w.char player).inventory.count x + (places x).mails (w.char player).mails := rfl
      rw [heq]
      omega

theorem Orderly.conserves_returnToSender (h : Orderly w) (hp : player ∈ w.guids)
    (htake : w.takableMail now player mailId = some m) :
    cash.total (w.handleMailReturnToSender delay now player mailId) = cash.total w ∧
      ∀ x, (places x).total (w.handleMailReturnToSender delay now player mailId) = (places x).total w := by
  obtain ⟨hloaded, hfind, -, -⟩ := takableMail_some htake
  have hm := find?_sound h hp hfind
  constructor
  · obtain ⟨time, htotal⟩ := total_handleMailReturnToSender (b := cash) delay hp htake hm.normal hm.sender_mem
    exact add_right_cancel htotal
  · intro x
    obtain ⟨time, htotal⟩ := total_handleMailReturnToSender (b := places x) delay hp htake hm.normal hm.sender_mem
    have hmem := mem_of_find?_eq_some hfind
    have hle := le_mails (b := places x) hmem
    have hbox := box_le_one (h.single x) hp
    have hdraft : (afterReturning (w.char player) m).2.items.count x = m.items.count x := by
      refine (foldl_returnItem x m.items _ _).2.trans ?_
      have hbox' : m.items.count x ≤ 1 := (hle.trans (Nat.le_add_left _ _)).trans hbox
      by_cases hx : x ∈ m.items
      · have hin : x ∈ (w.char player).mailItems := h.opened player hp hloaded m hmem x hx
        have hpos := count_pos_iff.2 hx
        rw [if_pos ⟨hx, hin, not_mem_nil⟩, count_nil]
        omega
      · rw [if_neg fun hand => hx hand.1, count_nil, count_eq_zero_of_not_mem hx]
    have hmail (id time : Nat) : (places x).mail (MailDraft.toMail
        { (afterReturning (w.char player) m).2 with money := m.money } id m.receiver m.sender time) =
        (places x).mail m := hdraft
    rw [hmail] at htotal
    omega

theorem count_storeItem (c : Character) (item x : Nat) (store : StoreResult) :
    (c.storeItem item store).inventory.count x =
      c.inventory.count x + if store = .placed ∧ x = item then 1 else 0 := by
  unfold Character.storeItem
  by_cases hs : store = .placed
  · rw [if_pos hs]
    by_cases hx : x = item
    · simp [hs, hx]
    · simp [hs, hx, Ne.symm hx]
  · rw [if_neg hs, if_neg fun h => hs h.1, add_zero]

variable {item : Nat}

theorem count_erase_add {l : List Nat} (h : item ∈ l) (x : Nat) :
    (l.erase item).count x + (if x = item then 1 else 0) = l.count x := by
  by_cases hx : x = item
  · have hpos := count_pos_iff.2 h
    rw [if_pos hx, hx, count_erase_self]
    omega
  · rw [if_neg hx, count_erase_of_ne hx, add_zero]

/-- The request to take an item is accepted, from the mail `m`. -/
structure Accepted (w : World) (now player mailId item : Nat) (store : StoreResult) (m : Mail) : Prop where
  takable : w.takableMail now player mailId = some m
  affordable : m.cod ≤ (w.char player).money
  inBox : item ∈ (w.char player).mailItems
  storable : store ≠ .refused

variable {store : StoreResult}

theorem places_handleMailTakeItem (hp : player ∈ w.guids)
    (haccept : Accepted w now player mailId item store m) (hattached : item ∈ m.items)
    (hne : mailId ≠ w.nextMailId) (x : Nat) :
    (places x).total (w.handleMailTakeItem now player mailId item store) +
      (places x).purged (modifyMail mailId (withoutItem item) ((w.payCod now player m).char player).mails) +
      (if store = .merged ∧ x = item then 1 else 0) = (places x).total w := by
  have htotal := total_handleMailTakeItem (b := places x) hp haccept.takable haccept.affordable haccept.inBox
    haccept.storable hne
  have hown : (places x).own (((w.payCod now player m).char player).storeItem item store) =
      (places x).own ((w.payCod now player m).char player) + if store = .placed ∧ x = item then 1 else 0 :=
    count_storeItem _ _ _ _
  have hmail : (places x).mail { m.removeItem item with cod := 0 } + (if x = item then 1 else 0) =
      (places x).mail m := count_erase_add hattached x
  rw [places_payCod x hp] at htotal
  have hsplit : (if store = .placed ∧ x = item then 1 else 0) + (if store = .merged ∧ x = item then 1 else 0) =
      if x = item then 1 else 0 := by
    by_cases hx : x = item
    · cases store with
      | refused => exact absurd rfl haccept.storable
      | merged => simp [hx]
      | placed => simp [hx]
    · simp [hx]
  omega

theorem Orderly.conserves_takeItem (h : Orderly w) (hp : player ∈ w.guids)
    (htake : w.takableMail now player mailId = some m)
    (hcod : m.cod ≤ (w.char player).money) (hin : item ∈ (w.char player).mailItems) (hstore : store ≠ .refused)
    (hfair : item ∈ m.items) :
    cash.total (w.handleMailTakeItem now player mailId item store) = cash.total w ∧
      ∀ x, (places x).total (w.handleMailTakeItem now player mailId item store) +
        (if store = .merged ∧ x = item then 1 else 0) = (places x).total w := by
  obtain ⟨-, hfind, -, -⟩ := takableMail_some htake
  have hm := find?_sound h hp hfind
  have hne : mailId ≠ w.nextMailId := by
    have := hm.messageID_lt
    rw [messageID_of_find? hfind] at this
    omega
  have hkept : ∀ m' ∈ modifyMail mailId (withoutItem item) ((w.payCod now player m).char player).mails,
      m'.state ≠ .deleted := by
    refine modifyMail_kept (fun m' hm' => ?_) fun _ h => noConfusion h
    rcases mem_mails_payCod hm' with hm' | ⟨-, rfl⟩
    · exact (h.mails player hp m' hm').kept
    · exact fun h => noConfusion h
  constructor
  · have htotal := total_handleMailTakeItem (b := cash) hp htake hcod hin hstore hne
    have hown : cash.own (((w.payCod now player m).char player).storeItem item store) =
        cash.own ((w.payCod now player m).char player) := by
      unfold Character.storeItem
      split <;> rfl
    have hmail : cash.mail { m.removeItem item with cod := 0 } = cash.mail m := rfl
    rw [purged_eq_zero hkept, cash_payCod hp (fun _ => hm.sender_mem) hcod (h.money_lt hp)] at htotal
    omega
  · intro x
    have htotal := places_handleMailTakeItem hp ⟨htake, hcod, hin, hstore⟩ hfair hne x
    rw [purged_eq_zero hkept] at htotal
    exact htotal

/-! ## Order -/

theorem Mail.Sound.of_eq {m' : Mail} {w' : World} (h : m.Sound w) (hid : m'.messageID = m.messageID)
    (htype : m'.messageType = m.messageType) (hsender : m'.sender = m.sender)
    (hreceiver : m'.receiver = m.receiver) (hstate : m'.state ≠ .deleted) (hguids : w'.guids = w.guids) (hnext : w.nextMailId ≤ w'.nextMailId) : m'.Sound w' where
  messageID_lt := by rw [hid]; exact h.messageID_lt.trans_le hnext
  normal := htype.trans h.normal
  sender_mem := by rw [hsender, hguids]; exact h.sender_mem
  receiver_mem := by rw [hreceiver, hguids]; exact h.receiver_mem
  kept := hstate

variable {c : Character}

theorem Tidy.setChar (h : Tidy w) {g : Nat} (hcapped : c.money ≤ maxMoneyAmount)
    (hmails : ∀ m ∈ c.mails, m.Sound w) (hopened : c.Opened) : Tidy (w.setChar g c) := by
  have hchar (g' : Nat) : (w.setChar g c).char g' = if g' = g then c else w.char g' := char_setChar ..
  have hold {m : Mail} (hm : m.Sound w) : m.Sound (w.setChar g c) :=
    hm.of_eq rfl rfl rfl rfl hm.kept rfl le_rfl
  refine ⟨fun g' hg' => ?_, fun g' hg' m hm => ?_, fun g' hg' => ?_⟩
  · rw [hchar]
    split
    · exact hcapped
    · exact h.capped g' hg'
  · rw [hchar] at hm
    split at hm
    · exact hold (hmails m hm)
    · exact hold (h.mails g' hg' m hm)
  · rw [hchar]
    split
    · exact hopened
    · exact h.opened g' hg'

theorem opened_receiveMail (h : c.Opened) (m : Mail) : (c.receiveMail m).Opened := by
  intro hloaded m' hm' x hx
  have hitems : (c.receiveMail m).mailItems = c.mailItems ++ m.items := if_pos hloaded
  rw [hitems, mem_append]
  rcases mem_cons.1 hm' with rfl | hm'
  · exact .inr hx
  · exact .inl (h hloaded m' hm' x hx)

theorem Tidy.sendMailTo (h : Tidy w) {draft : MailDraft} {sender time : Nat} (hr : receiver ∈ w.guids)
    (hs : sender ∈ w.guids) : Tidy (w.sendMailTo draft receiver sender time) := by
  have hold {m : Mail} (hm : m.Sound w) : m.Sound (w.sendMailTo draft receiver sender time) :=
    hm.of_eq rfl rfl rfl rfl hm.kept rfl (Nat.le_succ _)
  have hnew : Mail.Sound (w.sendMailTo draft receiver sender time)
      (draft.toMail w.nextMailId sender receiver time) :=
    ⟨Nat.lt_succ_self _, rfl, hs, hr, fun h => noConfusion h⟩
  refine ⟨fun g hg => ?_, fun g hg m hm => ?_, fun g hg => ?_⟩
  · rw [char_sendMailTo]
    split <;> exact h.capped g hg
  · rw [char_sendMailTo] at hm
    split at hm
    · rcases mem_cons.1 hm with rfl | hm
      · exact hnew
      · exact hold (h.mails g hg m hm)
    · exact hold (h.mails g hg m hm)
  · rw [char_sendMailTo]
    split
    · exact opened_receiveMail (h.opened g hg) _
    · exact h.opened g hg

theorem sound_updateMail (h : ∀ m ∈ c.mails, m.Sound w)
    (hg : ∀ m, m.Sound w → (g m).Sound w) : ∀ m ∈ (c.updateMail mailId g).mails, m.Sound w := by
  intro m hm
  rcases mem_modifyMail hm with hm | ⟨m', hm', -, rfl⟩
  · exact h m hm
  · exact hg m' (h m' hm')

theorem opened_updateMail (h : c.Opened)
    (hg : ∀ m, ∀ x ∈ (g m).items, x ∈ m.items) : (c.updateMail mailId g).Opened := by
  intro hloaded m hm x hx
  rcases mem_modifyMail hm with hm | ⟨m', hm', -, rfl⟩
  · exact h hloaded m hm x hx
  · exact h hloaded m' hm' x (hg m' x hx)

theorem mem_saveMail (h : m ∈ c.saveMail.mails) :
    ∃ m' ∈ c.mails, m'.state ≠ .deleted ∧ (m = m' ∨ m = { m' with state := .unchanged }) := by
  obtain ⟨m', hm', rfl⟩ := mem_map.1 h
  obtain ⟨hmem, hstate⟩ := mem_filter.1 hm'
  refine ⟨m', hmem, by simpa using hstate, ?_⟩
  by_cases hchanged : m'.state = .changed
  · exact .inr (if_pos hchanged)
  · exact .inl (if_neg hchanged)

theorem sound_saveMail (h : ∀ m ∈ c.mails, m.Sound w) : ∀ m ∈ c.saveMail.mails, m.Sound w := by
  intro m hm
  obtain ⟨m', hm', -, rfl | rfl⟩ := mem_saveMail hm
  · exact h m hm'
  · exact (h m' hm').of_eq rfl rfl rfl rfl (fun h => noConfusion h) rfl le_rfl

theorem opened_saveMail (h : c.Opened) : c.saveMail.Opened := by
  intro hloaded m hm x hx
  obtain ⟨m', hm', -, rfl | rfl⟩ := mem_saveMail hm
  · exact h hloaded m hm' x hx
  · exact h hloaded m' hm' x hx

theorem Orderly.tidy_sendMail (h : Orderly w) (hp : player ∈ w.guids)
    (haccept : w.acceptsMail player receiver items money permitted = true)
    (hfair : cost items.length + money < 2 ^ 32) :
    Tidy (w.handleSendMail delay now player receiver items money cod permitted) := by
  obtain ⟨hr, -, hreq, -⟩ := acceptsMail_spec haccept
  obtain ⟨time, heq⟩ := handleSendMail_eq delay now cod haccept
  have hreq' : reqMoney items.length money = cost items.length + money := Nat.mod_eq_of_lt hfair
  have hpos := cost_pos items.length
  have hlt := h.money_lt hp
  have hcap := h.capped player hp
  have hpaid : (afterSending (w.char player) items money).money =
      (w.char player).money - reqMoney items.length money :=
    modifyMoney_pay_pos (by omega) hreq (by omega) (by omega)
  have hset : Tidy (w.setChar player (afterSending (w.char player) items money)) :=
    h.toTidy.setChar (by rw [hpaid]; omega) (h.mails player hp) (h.opened player hp)
  rw [heq]
  exact hset.sendMailTo hr hp

theorem Tidy.getMailList (h : Tidy w) (hp : player ∈ w.guids) : Tidy (w.handleGetMailList player) := by
  unfold handleGetMailList
  by_cases hloaded : (w.char player).mailsLoaded = true
  · rw [if_pos hloaded]
    exact h
  · rw [if_neg hloaded]
    refine h.setChar (h.capped player hp) (fun m hm => ?_) fun _ m hm x hx => ?_
    · obtain ⟨m', hm', rfl⟩ := mem_map.1 hm
      exact (h.mails player hp m' hm').of_eq rfl rfl rfl rfl (fun h => noConfusion h) rfl le_rfl
    · obtain ⟨m', hm', rfl⟩ := mem_map.1 hm
      exact mem_append.2 (.inr (mem_flatMap.2 ⟨m', hm', hx⟩))

theorem Tidy.markAsRead (h : Tidy w) (hp : player ∈ w.guids) : Tidy (w.handleMailMarkAsRead player mailId) := by
  unfold handleMailMarkAsRead
  cases (w.char player).getMail mailId with
  | none => exact h
  | some m =>
    refine h.setChar (h.capped player hp) (sound_updateMail (h.mails player hp) fun m hm => ?_)
      (opened_updateMail (h.opened player hp) fun _ _ hx => hx)
    exact hm.of_eq rfl rfl rfl rfl (fun h => noConfusion h) rfl le_rfl

theorem Orderly.tidy_takeMoney (h : Orderly w) (hp : player ∈ w.guids)
    (htake : w.takableMail now player mailId = some m)
    (hfair : (w.char player).money + m.money ≤ maxMoneyAmount) :
    Tidy (w.handleMailTakeMoney now player mailId) := by
  unfold handleMailTakeMoney
  rw [htake]
  refine h.toTidy.setChar ?_ (sound_saveMail (sound_updateMail (h.mails player hp) fun m hm => ?_))
    (opened_saveMail (opened_updateMail (h.opened player hp) fun _ _ hx => hx))
  · change modifyMoney (w.char player).money (int32 m.money) ≤ _
    rw [modifyMoney_earn hfair]
    exact hfair
  · exact hm.of_eq rfl rfl rfl rfl (fun h => noConfusion h) rfl le_rfl

theorem Orderly.tidy_returnToSender (h : Orderly w) (hp : player ∈ w.guids)
    (htake : w.takableMail now player mailId = some m) :
    Tidy (w.handleMailReturnToSender delay now player mailId) := by
  obtain ⟨hloaded, hfind, -, -⟩ := takableMail_some htake
  have hm := find?_sound h hp hfind
  have hmsg := messageID_of_find? hfind
  obtain ⟨time, heq⟩ := handleMailReturnToSender_eq delay htake hm.normal hm.sender_mem
  generalize hr : (afterReturning (w.char player) m).1 = c at heq
  have hc : c = { (w.char player).removeMail mailId with
      mailItems := (w.char player).mailItems.filter (· ∉ m.items) } := by
    rw [← hr, ← hmsg]
    exact (foldl_returnItem 0 m.items _ _).1
  have hset : Tidy (w.setChar player c) := by
    rw [hc]
    refine h.toTidy.setChar (h.capped player hp) (fun m' hm' => ?_) fun _ m' hm' x hx => ?_
    · exact h.mails player hp m' (mem_of_mem_eraseP hm')
    · have hold : x ∈ (w.char player).mailItems :=
        h.opened player hp hloaded m' (mem_of_mem_eraseP hm') x hx
      refine mem_filter.2 ⟨hold, decide_eq_true fun hxm => ?_⟩
      -- The item would be in both mails.
      have herase := mails_eraseP (b := places x) hfind
      have hle : (places x).mail m' ≤ (places x).mails ((w.char player).mails.eraseP (·.messageID = mailId)) :=
        le_mails hm'
      have hbox := box_le_one (h.single x) hp
      have h1 : 0 < (places x).mail m' := count_pos_iff.2 hx
      have h2 : 0 < (places x).mail m := count_pos_iff.2 hxm
      omega
  rw [heq]
  exact hset.sendMailTo hm.sender_mem hm.receiver_mem

theorem Orderly.tidy_payCod (h : Orderly w) (hp : player ∈ w.guids) (hm : m.Sound w)
    (hcod : m.cod ≤ (w.char player).money) : Tidy (w.payCod now player m) := by
  unfold payCod
  by_cases hpos : 0 < m.cod
  · simp only [hpos, hm.sender_mem, if_true]
    have hsent : Tidy (w.sendMailTo { money := m.cod } m.sender m.receiver now) :=
      h.toTidy.sendMailTo hm.sender_mem hm.receiver_mem
    have hmoney : ((w.sendMailTo { money := m.cod } m.sender m.receiver now).char player).money =
        (w.char player).money := by
      rw [char_sendMailTo]
      split <;> rfl
    refine hsent.setChar ?_ (hsent.mails player hp) (hsent.opened player hp)
    have hlt := h.money_lt hp
    have hcap := h.capped player hp
    change modifyMoney _ _ ≤ _
    rw [hmoney, modifyMoney_pay_pos hpos hcod (by omega) (by omega)]
    omega
  · simp only [hpos, if_false]
    exact h.toTidy

theorem Orderly.tidy_takeItem (h : Orderly w) (hp : player ∈ w.guids)
    (htake : w.takableMail now player mailId = some m)
    (hcod : m.cod ≤ (w.char player).money) (hin : item ∈ (w.char player).mailItems) (hstore : store ≠ .refused)
    (hfair : item ∈ m.items) : Tidy (w.handleMailTakeItem now player mailId item store) := by
  obtain ⟨-, hfind, -, -⟩ := takableMail_some htake
  have hm := find?_sound h hp hfind
  have hne : mailId ≠ w.nextMailId := by
    have := hm.messageID_lt
    rw [messageID_of_find? hfind] at this
    omega
  have hpaid : Tidy (w.payCod now player m) := h.tidy_payCod hp hm hcod
  have hfind' : ((w.payCod now player m).char player).mails.find? (·.messageID = mailId) = some m :=
    (find?_payCod hne).trans hfind
  have hp' : player ∈ (w.payCod now player m).guids := by rw [guids_payCod]; exact hp
  have hbox : (places item).mails ((w.payCod now player m).char player).mails ≤ 1 := by
    have hof := of_le_total (b := places item) hp'
    have hsingle := h.single item
    rw [places_payCod item hp] at hof
    have hle : (places item).mails ((w.payCod now player m).char player).mails ≤
      (places item).of ((w.payCod now player m).char player) := Nat.le_add_left _ _
    omega
  rw [handleMailTakeItem_eq htake hcod hin hstore]
  generalize w.payCod now player m = w' at hpaid hfind' hp' hbox ⊢
  -- No mail of the player lists the item any more.
  have hgone : (places item).mails (modifyMail mailId (withoutItem item) (w'.char player).mails) = 0 := by
    have hmails := mails_modifyMail (b := places item) hfind' (withoutItem item)
    have herase : (places item).mail (withoutItem item m) + 1 = (places item).mail m := by
      have := count_erase_add hfair item
      rw [if_pos rfl] at this
      exact this
    omega
  have hsound : ∀ m ∈ ((w'.char player).updateMail mailId (withoutItem item)).mails, m.Sound w' := by
    refine sound_updateMail (hpaid.mails player hp') fun m hm => ?_
    exact hm.of_eq rfl rfl rfl rfl (fun h => noConfusion h) rfl le_rfl
  have hupdated : ((w'.char player).updateMail mailId (withoutItem item)).Opened :=
    opened_updateMail (hpaid.opened player hp') fun _ _ hy => mem_of_mem_erase hy
  have hopened : (((w'.char player).updateMail mailId (withoutItem item)).removeMItem item).Opened := by
    intro hloaded m' hm' x hx
    have hold : x ∈ (w'.char player).mailItems := hupdated hloaded m' hm' x hx
    refine mem_filter.2 ⟨hold, decide_eq_true fun hxi => ?_⟩
    have hle : (places item).mail m' ≤
        (places item).mails (modifyMail mailId (withoutItem item) (w'.char player).mails) := le_mails hm'
    have hpos : 0 < (places item).mail m' := count_pos_iff.2 (hxi ▸ hx)
    omega
  have hmoney : ∀ c : Character, (c.storeItem item store).money = c.money := fun c => by
    unfold Character.storeItem
    split <;> rfl
  have hstored : ∀ c : Character, c.Opened → (c.storeItem item store).Opened := fun c hc => by
    unfold Character.storeItem
    split
    · exact hc
    · exact hc
  refine hpaid.setChar ?_ (sound_saveMail ?_) (opened_saveMail (hstored _ hopened))
  · change Character.money (Character.storeItem _ item store) ≤ _
    rw [hmoney]
    exact hpaid.capped player hp'
  · rw [mails_storeItem]
    exact hsound

/-! ## Runs -/

theorem takeItem_of_not_accepted (h : ∀ m, ¬ Accepted w now player mailId item store m) :
    w.handleMailTakeItem now player mailId item store = w := by
  refine handleMailTakeItem_refused fun m hm => ?_
  by_contra hnone
  push Not at hnone
  exact h m ⟨hm, by omega, hnone.2.1, hnone.2.2⟩

theorem mergedItem_some {x : Nat} (h : mergedItem w ⟨player, now, .takeItem mailId item store⟩ = some x) :
    store = .merged ∧ item = x ∧ ∃ m, Accepted w now player mailId item store m := by
  cases store with
  | refused => cases h
  | placed => cases h
  | merged =>
    dsimp only [mergedItem] at h
    split at h
    · split_ifs at h with hboth
      exact ⟨rfl, Option.some.inj h, _, ‹_›, hboth.1, hboth.2, nofun⟩
    · cases h

end Requests

variable {e : Event}

theorem Orderly.unchanged {w : World} (h : Orderly w) {delay : Nat} (hstep : w.step delay e = w)
    (hpostage : postage w e = 0) (hmerged : mergedItem w e = none) :
    Tidy (w.step delay e) ∧ Conserves delay w e := by
  refine ⟨by rw [hstep]; exact h.toTidy, by rw [hstep, hpostage]; rfl, fun x => ?_⟩
  rw [hstep, hmerged]
  rfl

/-- Every fair request conserves money and items. -/
theorem Orderly.step {w : World} (h : Orderly w) (delay : Nat) (hp : e.player ∈ w.guids)
    (hdelete : ∀ mailId, e.request ≠ .delete mailId) (hfair : Fair w e) :
    Tidy (w.step delay e) ∧ Conserves delay w e := by
  obtain ⟨player, now, request⟩ := e
  cases request with
  | sendMail receiver items money cod permitted =>
    by_cases haccept : w.acceptsMail player receiver items money permitted = true
    · refine ⟨h.tidy_sendMail hp haccept hfair, ?_, fun x => places_handleSendMail hp haccept (h.single x)⟩
      have hpostage : postage w ⟨player, now, .sendMail receiver items money cod permitted⟩ = cost items.length :=
        if_pos haccept
      rw [hpostage]
      exact cash_handleSendMail h hp haccept hfair
    · exact h.unchanged (if_neg haccept) (if_neg haccept) rfl
  | getMailList =>
    exact ⟨h.toTidy.getMailList hp, total_handleGetMailList hp, fun x => total_handleGetMailList hp⟩
  | markAsRead mailId =>
    exact ⟨h.toTidy.markAsRead hp, total_handleMailMarkAsRead hp, fun x => total_handleMailMarkAsRead hp⟩
  | delete mailId => exact absurd rfl (hdelete mailId)
  | returnToSender mailId =>
    cases htake : w.takableMail now player mailId with
    | none =>
      refine h.unchanged ?_ rfl rfl
      dsimp only [World.step, handleMailReturnToSender]
      rw [htake]
    | some m =>
      have hconserves : _ ∧ ∀ x, (places x).total (w.handleMailReturnToSender delay now player mailId) = _ :=
        h.conserves_returnToSender hp htake
      exact ⟨h.tidy_returnToSender hp htake, hconserves.1, hconserves.2⟩
  | takeItem mailId item store =>
    by_cases hex : ∃ m, Accepted w now player mailId item store m
    · obtain ⟨m, hm⟩ := hex
      have hattached : item ∈ m.items := hfair m hm.takable hm.inBox
      have hconserves := h.conserves_takeItem hp hm.takable hm.affordable hm.inBox hm.storable hattached
      refine ⟨h.tidy_takeItem hp hm.takable hm.affordable hm.inBox hm.storable hattached, hconserves.1, fun x => ?_⟩
      have hmerged : mergedItem w ⟨player, now, .takeItem mailId item store⟩ =
          if store = .merged then some item else none := by
        cases store with
        | refused => rfl
        | placed => rfl
        | merged =>
          dsimp only [mergedItem]
          rw [hm.takable]
          exact if_pos ⟨hm.affordable, hm.inBox⟩
      rw [hmerged, ← hconserves.2 x]
      by_cases hs : store = .merged
      · simp only [hs, if_true, true_and, Option.some.injEq, eq_comm]
        rfl
      · simp only [hs, if_false, false_and]
        rfl
    · have hnot : ∀ m, ¬ Accepted w now player mailId item store m := fun m hm => hex ⟨m, hm⟩
      refine h.unchanged (takeItem_of_not_accepted hnot) rfl (Option.eq_none_iff_forall_ne_some.2 fun x hx => ?_)
      exact hex (mergedItem_some hx).2.2
  | takeMoney mailId =>
    cases htake : w.takableMail now player mailId with
    | none =>
      refine h.unchanged ?_ rfl rfl
      dsimp only [World.step, handleMailTakeMoney]
      rw [htake]
    | some m =>
      have hconserves := h.conserves_takeMoney hp htake (hfair m htake)
      exact ⟨h.tidy_takeMoney hp htake (hfair m htake), hconserves.1, hconserves.2⟩

theorem Orderly.step_orderly {w : World} (h : Orderly w) (delay : Nat) (hp : e.player ∈ w.guids)
    (hdelete : ∀ mailId, e.request ≠ .delete mailId) (hfair : Fair w e) : Orderly (w.step delay e) := by
  obtain ⟨htidy, hconserves⟩ := h.step delay hp hdelete hfair
  refine ⟨htidy, fun x => ?_⟩
  have hitems := hconserves.items x
  have hsingle := h.single x
  omega

theorem guids_step (delay : Nat) (w : World) (e : Event) : (w.step delay e).guids = w.guids := by
  unfold World.step
  cases e.request with
  | sendMail receiver items money cod permitted =>
    dsimp only [handleSendMail]
    split <;> rfl
  | getMailList =>
    dsimp only [handleGetMailList]
    split <;> rfl
  | markAsRead mailId =>
    dsimp only [handleMailMarkAsRead]
    split <;> rfl
  | delete mailId =>
    dsimp only [handleMailDelete]
    split
    · rfl
    · split <;> rfl
  | returnToSender mailId =>
    dsimp only [handleMailReturnToSender]
    split
    · rfl
    · split
      · unfold sendReturnToSender
        split <;> rfl
      · rfl
  | takeItem mailId item store =>
    dsimp only [handleMailTakeItem]
    split
    · rfl
    · split
      · rfl
      · split
        · rfl
        · exact guids_payCod
  | takeMoney mailId =>
    dsimp only [handleMailTakeMoney]
    split <;> rfl

/-- **Mail conserves money and items.** In a run of fair requests, every request changes the money of all players
and mails by the postage of an accepted mail and nothing else, no item is ever in two places, and none is lost but
the object of a stack that is merged. -/
theorem mail_conserves (delay : Nat) (w : World) (h : Orderly w) (events : List Event)
    (hplayers : ∀ e ∈ events, e.player ∈ w.guids) (hdelete : ∀ e ∈ events, ∀ mailId, e.request ≠ .delete mailId)
    (hfair : Run.AllSteps (World.step delay) Fair w events) :
    (∀ pre, pre <+: events → ∀ x, (places x).total (Run.run (World.step delay) w pre) ≤ 1) ∧
      Run.AllSteps (World.step delay) (Conserves delay) w events := by
  have hboth := hfair.and_mem (C := fun e => e.player ∈ w.guids ∧ ∀ mailId, e.request ≠ .delete mailId)
    fun e he => ⟨hplayers e he, hdelete e he⟩
  have hstep (s : World) (e : Event) (hs : Orderly s ∧ s.guids = w.guids)
      (he : (e.player ∈ w.guids ∧ ∀ mailId, e.request ≠ .delete mailId) ∧ Fair s e) :
      Orderly (s.step delay e) ∧ (s.step delay e).guids = w.guids :=
    ⟨hs.1.step_orderly delay (hs.2 ▸ he.1.1) he.1.2 he.2, (guids_step delay s e).trans hs.2⟩
  constructor
  · rintro pre ⟨post, rfl⟩
    exact (hboth.reaches hstep ⟨h, rfl⟩).1.single
  · refine (hboth.strengthen hstep ⟨h, rfl⟩).mono ?_
    rintro s e ⟨⟨hs, hguids⟩, ⟨hp, hdel⟩, hf⟩
    exact (hs.step delay (hguids ▸ hp) hdel hf).2

def twoPlayers : World where
  guids := {1, 2}
  zero_notMem := by decide
  char g := if g = 1 then ⟨1, true, 1000, [7], [], [], true⟩ else ⟨2, true, 50, [], [], [], false⟩
  nextMailId := 1

theorem orderly_twoPlayers : Orderly twoPlayers := by
  have hguids {P : Nat → Prop} (h1 : P 1) (h2 : P 2) : ∀ g ∈ twoPlayers.guids, P g := by
    intro g hg
    rcases Finset.mem_insert.1 hg with rfl | hg
    · exact h1
    · obtain rfl := Finset.mem_singleton.1 hg
      exact h2
  refine ⟨⟨hguids (by decide) (by decide), hguids ?_ ?_, hguids ?_ ?_⟩, fun x => ?_⟩
  · exact fun m hm => absurd hm not_mem_nil
  · exact fun m hm => absurd hm not_mem_nil
  · exact fun _ m hm => absurd hm not_mem_nil
  · exact fun _ m hm => absurd hm not_mem_nil
  · have htotal : (places x).total twoPlayers = [7].count x := by
      rfl
    exact nodup_iff_count_le_one.1 (nodup_singleton 7) x

theorem mail_conserves_four :
    let events : List Event :=
      [⟨1, 10, .sendMail 2 [7] 100 0 true⟩, ⟨2, 20, .getMailList⟩, ⟨2, 30, .takeMoney 1⟩,
        ⟨2, 40, .takeItem 1 7 .placed⟩]
    (∀ pre, pre <+: events → ∀ x, (places x).total (Run.run (World.step 0) twoPlayers pre) ≤ 1) ∧
      Run.AllSteps (World.step 0) (Conserves 0) twoPlayers events := by
  refine mail_conserves 0 twoPlayers orderly_twoPlayers _ ?_ ?_ ⟨?_, trivial, ?_, ?_, trivial⟩
  · decide
  · intro e he mailId
    simp only [mem_cons, not_mem_nil, or_false] at he
    rcases he with rfl | rfl | rfl | rfl <;> exact fun h => nomatch h
  · change cost 1 + 100 < 2 ^ 32
    decide
  · intro m hm
    obtain rfl : (⟨1, .normal, 1, 2, [7], 10, 100, 0, .unchanged⟩ : Mail) = m := Option.some.inj hm
    decide
  · intro m hm _
    obtain rfl : (⟨1, .normal, 1, 2, [7], 10, 0, 0, .unchanged⟩ : Mail) = m := Option.some.inj hm
    decide

def twoMails : World where
  guids := {1, 2}
  zero_notMem := by decide
  char g :=
    if g = 1 then
      ⟨1, true, 1000, [],
        [⟨1, .normal, 2, 1, [], 0, 0, 0, .unchanged⟩, ⟨2, .normal, 2, 1, [7], 0, 0, 50, .unchanged⟩], [7], true⟩
    else ⟨2, true, 50, [], [], [], true⟩
  nextMailId := 3

/-- The money asked for a mail with 4294967295 copper is 29 copper, and an item that is taken with the number of
another mail is in two places. -/
theorem money_and_item_from_nothing :
    cash.total (twoPlayers.step 0 ⟨1, 0, .sendMail 2 [] 4294967295 0 true⟩) = 1050 - 29 + 4294967295 ∧
      ¬ Conserves 0 twoPlayers ⟨1, 0, .sendMail 2 [] 4294967295 0 true⟩ ∧
      (places 7).total (twoMails.step 0 ⟨1, 0, .takeItem 1 7 .placed⟩) = 2 := by
  have hmoney : cash.total (twoPlayers.step 0 ⟨1, 0, .sendMail 2 [] 4294967295 0 true⟩) =
      1050 - 29 + 4294967295 := by decide
  refine ⟨hmoney, fun h => ?_, by decide⟩
  have hkept := h.money
  exact absurd hkept (by decide)

end Axium.Mails
