import Axium.Mails.Conservation

/-!
# Cash on delivery and delivery delay

An item leaves a mail only when the mail has been delivered and is not deleted, and it reaches the inventory of
the receiver of a mail with cash on delivery only in a request that takes this money from him and mails it to the
sender. The checks of `HandleMailTakeItem` are about the mail that the request names, the item is looked up in the
whole mailbox: this holds in every run whose requests name an item that is attached to the mail they name.
-/

namespace Axium.Mails

open Weight World List

def Elsewhere (w : World) (messageID x : Nat) : Prop :=
  (∃ g ∈ w.guids, x ∈ (w.char g).inventory) ∨
    ∃ g ∈ w.guids, ∃ m ∈ (w.char g).mails, m.messageID ≠ messageID ∧ x ∈ m.items

/-- Cash on delivery was paid by `receiver`, for the mail `m`: he has that much less, and if the sender exists, a
new mail brings it to him. -/
structure PaidFor (w w' : World) (receiver : Nat) (m : Mail) : Prop where
  paid : (w'.char receiver).money + m.cod = (w.char receiver).money
  mailed : m.sender ∈ w.guids → ∃ pay ∈ (w'.char m.sender).mails,
    pay.messageID = w.nextMailId ∧ pay.money = m.cod ∧ pay.receiver = m.sender

/-- What is to hold of every mail of every receiver and every item attached to it, when the item leaves the mail. An
item that is merged into a stack has left it for the inventory as well. -/
def Guarded (delay : Nat) (w : World) (e : Event) : Prop :=
  ∀ receiver ∈ w.guids, ∀ m ∈ (w.char receiver).mails, ∀ x ∈ m.items,
    Elsewhere (w.step delay e) m.messageID x ∨ mergedItem w e = some x →
      m.deliverTime ≤ e.now ∧ m.state ≠ .deleted ∧
        (0 < m.cod → x ∈ ((w.step delay e).char receiver).inventory ∨ mergedItem w e = some x →
          PaidFor w (w.step delay e) receiver m)

/-- The item of a request is attached to the mail it names, and what is paid on delivery is an `int32`. -/
def Attached (w : World) (e : Event) : Prop :=
  match e.request with
  | .takeItem mailId item store => ∀ m, Accepted w e.now e.player mailId item store m →
      item ∈ m.items ∧ m.cod < 2 ^ 31
  | _ => True

/-- The balance is an `uint32`, and the numbers of the mails are below `n`. -/
structure Character.Numbered (n : Nat) (c : Character) : Prop where
  money_lt : c.money < 2 ^ 32
  messageID_lt : ∀ m ∈ c.mails, m.messageID < n

/-- Every item is in one place at most. -/
structure Housed (w : World) : Prop where
  single : ∀ x, (places x).total w ≤ 1
  numbered : ∀ g ∈ w.guids, (w.char g).Numbered w.nextMailId

theorem Housed.ne_nextMailId {w : World} (h : Housed w) {now player mailId : Nat} {m : Mail}
    (hp : player ∈ w.guids) (htake : w.takableMail now player mailId = some m) : mailId ≠ w.nextMailId := by
  have hfind := (takableMail_some htake).2.1
  have hlt := (h.numbered player hp).messageID_lt m (mem_of_find?_eq_some hfind)
  rw [messageID_of_find? hfind] at hlt
  exact hlt.ne

/-! ## One place -/

section Places

variable {w : World} {g messageID x : Nat} {m : Mail}

end Places

section Stays

variable {w : World} {delay now player mailId receiver x : Nat} {m : Mail}

variable {l : List Mail}

variable {m₀ : Mail}

end Stays

/-! ## One step -/

section Step

variable {w : World} {delay : Nat}

variable {e : Event}

theorem places_step_le (hhoused : Housed w) (hp : e.player ∈ w.guids) (hattached : Attached w e)
    (x : Nat) : (places x).total (w.step delay e) ≤ (places x).total w := by
  obtain ⟨player, now, request⟩ := e
  cases request with
  | sendMail receiver items money cod permitted =>
    by_cases haccept : w.acceptsMail player receiver items money permitted = true
    · exact (places_handleSendMail hp haccept (hhoused.single x)).le
    · exact (congrArg (places x).total (if_neg haccept)).le
  | getMailList => exact (total_handleGetMailList hp).le
  | markAsRead mailId => exact (total_handleMailMarkAsRead hp).le
  | delete mailId => exact (total_handleMailDelete hp).le
  | returnToSender mailId => exact places_handleMailReturnToSender_le hp x
  | takeItem mailId item store =>
    by_cases hex : ∃ m, Accepted w now player mailId item store m
    · obtain ⟨m, hm⟩ := hex
      have hne := hhoused.ne_nextMailId hp hm.takable
      exact (Nat.le_add_right _ _).trans ((Nat.le_add_right _ _).trans
        (places_handleMailTakeItem hp hm (hattached m hm).1 hne x).le)
    · exact (congrArg (places x).total (takeItem_of_not_accepted fun m hm => hex ⟨m, hm⟩)).le
  | takeMoney mailId =>
    change (places x).total (w.handleMailTakeMoney now player mailId) ≤ _
    cases htake : w.takableMail now player mailId with
    | none =>
      unfold handleMailTakeMoney
      rw [htake]
    | some m => exact (Nat.le_add_right _ _).trans (places_handleMailTakeMoney hp htake x).le

variable {n : Nat} {c : Character}

theorem Character.Numbered.of_mails {c' : Character} (h : c.Numbered n) (hmoney : c'.money < 2 ^ 32)
    (hmails : ∀ m' ∈ c'.mails, ∃ m ∈ c.mails, m'.messageID = m.messageID) : c'.Numbered n where
  money_lt := hmoney
  messageID_lt := fun m' hm' => by
    obtain ⟨m, hm, hid⟩ := hmails m' hm'
    rw [hid]
    exact h.messageID_lt m hm

theorem Character.Numbered.updateMail {mailId : Nat} {g : Mail → Mail} (h : c.Numbered n)
    (hg : ∀ m, (g m).messageID = m.messageID) : (c.updateMail mailId g).Numbered n := by
  refine h.of_mails h.money_lt fun m' hm' => ?_
  rcases mem_modifyMail hm' with hm' | ⟨m, hm, -, rfl⟩
  · exact ⟨m', hm', rfl⟩
  · exact ⟨m, hm, hg m⟩

theorem Character.Numbered.saveMail (h : c.Numbered n) : c.saveMail.Numbered n := by
  refine h.of_mails h.money_lt fun m' hm' => ?_
  obtain ⟨m, hm, -, rfl | rfl⟩ := mem_saveMail hm'
  · exact ⟨m', hm, rfl⟩
  · exact ⟨m, hm, rfl⟩

theorem modifyMoney_lt (money : Nat) (d : Int) : Guilds.modifyMoney money d < 2 ^ 32 := by
  have huint (z : Int) : Guilds.uint32 z < 2 ^ 32 := by
    unfold Guilds.uint32
    omega
  unfold Guilds.modifyMoney
  split
  · split
    · exact huint _
    · decide
  · split
    · exact huint _
    · decide

theorem Character.Numbered.modifyMoney (h : c.Numbered n) (d : Int) :
    (c.modifyMoney d).Numbered n := ⟨modifyMoney_lt _ _, h.messageID_lt⟩

theorem Character.Numbered.storeItem (h : c.Numbered n) (item : Nat)
    (store : StoreResult) : (c.storeItem item store).Numbered n := by
  unfold Character.storeItem
  split
  · exact ⟨h.money_lt, h.messageID_lt⟩
  · exact h

def AllNumbered (w : World) : Prop := ∀ g ∈ w.guids, (w.char g).Numbered w.nextMailId

theorem AllNumbered.setChar (h : AllNumbered w) {g : Nat} (hc : c.Numbered w.nextMailId) :
    AllNumbered (w.setChar g c) := by
  intro g' hg'
  rw [char_setChar]
  split
  · exact hc
  · exact h g' hg'

theorem AllNumbered.sendMailTo (h : AllNumbered w) (draft : MailDraft) (receiver sender time : Nat) :
    AllNumbered (w.sendMailTo draft receiver sender time) := by
  intro g hg
  have hold : (w.char g).Numbered (w.nextMailId + 1) :=
    ⟨(h g hg).money_lt, fun m hm => ((h g hg).messageID_lt m hm).trans (Nat.lt_succ_self _)⟩
  rw [char_sendMailTo]
  split
  · refine ⟨hold.money_lt, fun m hm => ?_⟩
    rcases mem_cons.1 hm with rfl | hm
    · exact Nat.lt_succ_self _
    · exact hold.messageID_lt m hm
  · exact hold

theorem AllNumbered.payCod (h : AllNumbered w) {now player : Nat} (hp : player ∈ w.guids) (m : Mail) :
    AllNumbered (w.payCod now player m) := by
  unfold World.payCod
  split
  · dsimp only
    split
    · have hsent := h.sendMailTo { money := m.cod } m.sender m.receiver now
      exact hsent.setChar ((hsent player hp).modifyMoney _)
    · exact h.setChar ((h player hp).modifyMoney _)
  · exact h

theorem AllNumbered.step (h : AllNumbered w) (hp : e.player ∈ w.guids) : AllNumbered (w.step delay e) := by
  obtain ⟨player, now, request⟩ := e
  have hplayer := h player hp
  cases request with
  | sendMail receiver items money cod permitted =>
    dsimp only [step, handleSendMail]
    split
    · refine AllNumbered.sendMailTo ?_ _ _ _ _
      exact h.setChar ⟨modifyMoney_lt _ _, hplayer.messageID_lt⟩
    · exact h
  | getMailList =>
    dsimp only [step, handleGetMailList]
    split
    · exact h
    · refine h.setChar (hplayer.of_mails hplayer.money_lt fun m' hm' => ?_)
      obtain ⟨m, hm, rfl⟩ := mem_map.1 hm'
      exact ⟨m, hm, rfl⟩
  | markAsRead mailId =>
    dsimp only [step, handleMailMarkAsRead]
    split
    · exact h
    · exact h.setChar (hplayer.updateMail fun _ => rfl)
  | delete mailId =>
    dsimp only [step, handleMailDelete]
    split
    · exact h
    · split
      · exact h
      · exact h.setChar (hplayer.updateMail fun _ => rfl)
  | returnToSender mailId =>
    have hremoved : ((w.char player).removeMail mailId).Numbered w.nextMailId :=
      hplayer.of_mails hplayer.money_lt fun m' hm' => ⟨m', mem_of_mem_eraseP hm', rfl⟩
    dsimp only [step, handleMailReturnToSender]
    split
    · exact h
    · split
      · rename_i m _ _
        have hset := h.setChar (g := player)
          (c := (m.items.foldl returnItem ((w.char player).removeMail mailId, {})).1) (by
            rw [(foldl_returnItem 0 m.items _ _).1]
            exact ⟨hremoved.money_lt, hremoved.messageID_lt⟩)
        unfold sendReturnToSender
        split
        · exact hset.sendMailTo _ _ _ _
        · exact hset
      · exact h.setChar hremoved
  | takeItem mailId item store =>
    by_cases hex : ∃ m, Accepted w now player mailId item store m
    · obtain ⟨m, htake, hcod, hin, hstore⟩ := hex
      have hpaid : AllNumbered (w.payCod now player m) := h.payCod hp m
      have heq := handleMailTakeItem_eq htake hcod hin hstore
      change AllNumbered (w.handleMailTakeItem now player mailId item store)
      rw [heq]
      have hupdated : (((w.payCod now player m).char player).updateMail mailId (withoutItem item)).Numbered
          (w.payCod now player m).nextMailId :=
        (hpaid player (by rw [guids_payCod]; exact hp)).updateMail fun _ => rfl
      refine hpaid.setChar (Character.Numbered.saveMail (Character.Numbered.storeItem ?_ item store))
      exact ⟨hupdated.money_lt, hupdated.messageID_lt⟩
    · have hstep : w.step delay ⟨player, now, .takeItem mailId item store⟩ = w :=
        takeItem_of_not_accepted fun m hm => hex ⟨m, hm⟩
      rw [hstep]
      exact h
  | takeMoney mailId =>
    dsimp only [step, handleMailTakeMoney]
    split
    · exact h
    · refine h.setChar (Character.Numbered.saveMail ?_)
      exact (hplayer.modifyMoney _).updateMail fun _ => rfl

/-- No request puts an item in a second place. -/
theorem Housed.step (hhoused : Housed w) (hp : e.player ∈ w.guids) (hattached : Attached w e) :
    Housed (w.step delay e) where
  single := fun x => (places_step_le hhoused hp hattached x).trans (hhoused.single x)
  numbered := AllNumbered.step hhoused.numbered hp

/-! ### Sending back -/

section Taking

variable {now player mailId item : Nat} {store : StoreResult} {m : Mail}

end Taking

end Step

/-! ## Runs -/

end Axium.Mails
