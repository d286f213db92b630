import Axium.Lib.Run
import Axium.Guilds.Bank
import Mathlib.Algebra.BigOperators.Group.Finset.Basic
import Mathlib.Data.List.Sort

/-!
# Mail

The requests of a mailbox, from `MailHandler.cpp`, `Mail.cpp` and `Player.cpp`: a player sends a mail with money
and items or cash on delivery, reads his mails, marks them, takes money or items out of them and sends them back.

A mailbox is `m_mail` with the map `mMitems` of the mailed items, once the player has opened it. Before that, the
mails are rows of the database; opening it reads them. The texts of a mail, its expiry and the marks for the
client are left out, as is the saving of what is in memory.
-/

namespace Axium.Mails

open Guilds (int32 modifyMoney)

inductive MailMessageType where
  | normal | auction | creature | gameobject | item
  deriving DecidableEq, Repr

inductive MailState where
  | unchanged | changed | deleted
  deriving DecidableEq, Repr

/-- `Mail`. An item is named by the low part of its guid. -/
structure Mail where
  messageID : Nat
  messageType : MailMessageType
  sender : Nat
  receiver : Nat
  items : List Nat
  deliverTime : Nat
  money : Nat
  cod : Nat
  state : MailState
  deriving DecidableEq, Repr

/-- A character: his account, his money, the items that `GetItemByGuid` finds, and his mailbox. -/
structure Character where
  account : Nat
  online : Bool
  money : Nat
  inventory : List Nat
  mails : List Mail
  mailItems : List Nat
  mailsLoaded : Bool
  deriving DecidableEq, Repr

structure World where
  guids : Finset Nat
  zero_notMem : 0 ∉ guids
  char : Nat → Character
  nextMailId : Nat

/-- `MailDraft`, less its texts. The items are a map, so that an item is in it once. -/
structure MailDraft where
  items : List Nat := []
  money : Nat := 0
  cod : Nat := 0
  deriving DecidableEq, Repr

def MailDraft.addItem (draft : MailDraft) (item : Nat) : MailDraft :=
  if item ∈ draft.items then draft else { draft with items := draft.items.orderedInsert (· ≤ ·) item }

/-- The mail that `SendMailTo` makes of a draft. -/
def MailDraft.toMail (draft : MailDraft) (id sender receiver deliverTime : Nat) : Mail where
  messageID := id
  messageType := .normal
  sender := sender
  receiver := receiver
  items := draft.items
  deliverTime := deliverTime
  money := draft.money
  cod := draft.cod
  state := .unchanged

def Mail.removeItem (m : Mail) (item : Nat) : Mail := { m with items := m.items.erase item }

/-- A write through the pointer that `GetMail` returns: to the first mail with the number. -/
def modifyMail (id : Nat) (g : Mail → Mail) : List Mail → List Mail
  | [] => []
  | m :: l => if m.messageID = id then g m :: l else m :: modifyMail id g l

/-- What `CanStoreItem` answers for an item: refused, into stacks that are there, or into a slot. -/
inductive StoreResult where
  | refused | merged | placed
  deriving DecidableEq, Repr

namespace Character

variable (c : Character)

def getMail (id : Nat) : Option Mail :=
  if c.mailsLoaded then c.mails.find? (·.messageID = id) else none

def receiveMail (m : Mail) : Character :=
  { c with
    mails := m :: c.mails
    mailItems := if c.mailsLoaded then c.mailItems ++ m.items else c.mailItems }

def removeMail (id : Nat) : Character := { c with mails := c.mails.eraseP (·.messageID = id) }

def removeMItem (item : Nat) : Character := { c with mailItems := c.mailItems.filter (· ≠ item) }

def updateMail (id : Nat) (g : Mail → Mail) : Character := { c with mails := modifyMail id g c.mails }

def modifyMoney (d : Int) : Character := { c with money := Guilds.modifyMoney c.money d }

/-- `MoveItemFromInventory`, for one item after the other. -/
def moveItemsFromInventory (items : List Nat) : Character :=
  { c with inventory := items.foldl List.erase c.inventory }

/-- `MoveItemToInventory`, with what `CanStoreItem` answered. -/
def storeItem (item : Nat) (store : StoreResult) : Character :=
  if store = .placed then { c with inventory := item :: c.inventory } else c

/-- `_SaveMail`: what is marked as deleted is thrown away. -/
def saveMail : Character :=
  { c with mails := (c.mails.filter (·.state ≠ .deleted)).map fun m =>
      if m.state = .changed then { m with state := .unchanged } else m }

def loadMail : Character :=
  { c with
    mails := c.mails.map ({ · with state := .unchanged })
    mailItems := c.mailItems ++ c.mails.flatMap (·.items)
    mailsLoaded := true }

end Character

namespace World

variable (w : World)

def setChar (g : Nat) (c : Character) : World := { w with char := Function.update w.char g c }

def modifyChar (g : Nat) (f : Character → Character) : World := w.setChar g (f (w.char g))

/-- `SendMailTo` an existing character. -/
def sendMailTo (draft : MailDraft) (receiver sender deliverTime : Nat) : World :=
  { w.modifyChar receiver (·.receiveMail (draft.toMail w.nextMailId sender receiver deliverTime)) with
    nextMailId := w.nextMailId + 1 }

/-- `SendReturnToSender`. The account of a receiver who is online is not looked up. -/
def sendReturnToSender (delay now : Nat) (draft : MailDraft) (senderAcc senderGuid receiverGuid : Nat) : World :=
  if receiverGuid ∈ w.guids then
    let receiver := w.char receiverGuid
    let rcAccount := if receiver.online then 0 else receiver.account
    let needItemDelay : Bool := !draft.items.isEmpty && senderAcc ≠ rcAccount
    w.sendMailTo draft receiverGuid senderGuid (now + if needItemDelay then delay else 0)
  else w

/-- The postage of a mail with `count` items. -/
def cost (count : Nat) : Nat := if count = 0 then 30 else 30 * count

def reqMoney (count money : Nat) : Nat := (cost count + money) % 2 ^ 32

/-- The checks of `HandleSendMail`. `permitted` stands for those that are about levels, teams, the number of
mails and the properties of the items. -/
def acceptsMail (player receiver : Nat) (items : List Nat) (money : Nat) (permitted : Bool) : Bool :=
  items.length ≤ 12 && (receiver ∈ w.guids && player ≠ receiver &&
    (reqMoney items.length money ≤ (w.char player).money && (items.all (· ∈ (w.char player).inventory) &&
      permitted)))

def handleSendMail (delay now player receiver : Nat) (items : List Nat) (money cod : Nat)
    (permitted : Bool) : World :=
  if w.acceptsMail player receiver items money permitted then
    let needItemDelay : Bool := !items.isEmpty && (w.char player).account ≠ (w.char receiver).account
    let draft := items.foldl MailDraft.addItem { money := money, cod := cod }
    let w := w.modifyChar player fun c =>
      (c.modifyMoney (-int32 (reqMoney items.length money))).moveItemsFromInventory items
    w.sendMailTo draft receiver player (now + if needItemDelay then delay else 0)
  else w

/-- `HandleGetMailList`, as far as it opens the mailbox. -/
def handleGetMailList (player : Nat) : World :=
  if (w.char player).mailsLoaded then w else w.modifyChar player Character.loadMail

def handleMailMarkAsRead (player mailId : Nat) : World :=
  match (w.char player).getMail mailId with
  | none => w
  | some _ => w.modifyChar player (·.updateMail mailId ({ · with state := .changed }))

def handleMailDelete (player mailId : Nat) : World :=
  match (w.char player).getMail mailId with
  | none => w
  | some m =>
    if m.cod ≠ 0 then w
    else w.modifyChar player (·.updateMail mailId ({ · with state := .deleted }))

def takableMail (now player mailId : Nat) : Option Mail :=
  match (w.char player).getMail mailId with
  | none => none
  | some m => if m.state = .deleted ∨ now < m.deliverTime then none else some m

def returnItem (r : Character × MailDraft) (item : Nat) : Character × MailDraft :=
  (r.1.removeMItem item, if item ∈ r.1.mailItems then r.2.addItem item else r.2)

def handleMailReturnToSender (delay now player mailId : Nat) : World :=
  match w.takableMail now player mailId with
  | none => w
  | some m =>
    let c := (w.char player).removeMail mailId
    if m.messageType = .normal ∧ m.sender ≠ 0 then
      let r := m.items.foldl returnItem (c, {})
      (w.setChar player r.1).sendReturnToSender delay now { r.2 with money := m.money } c.account m.receiver
        m.sender
    else w.setChar player c

def payCod (now player : Nat) (m : Mail) : World :=
  if 0 < m.cod then
    let w := if m.sender ∈ w.guids then w.sendMailTo { money := m.cod } m.sender m.receiver now else w
    w.modifyChar player (·.modifyMoney (-int32 m.cod))
  else w

def handleMailTakeItem (now player mailId item : Nat) (store : StoreResult) : World :=
  match w.takableMail now player mailId with
  | none => w
  | some m =>
    if (w.char player).money < m.cod then w
    else if item ∉ (w.char player).mailItems ∨ store = .refused then w
    else
      let taken := fun m : Mail => { m.removeItem item with cod := 0, state := .changed }
      (w.payCod now player m).modifyChar player fun c =>
        (((c.updateMail mailId taken).removeMItem item).storeItem item store).saveMail

def handleMailTakeMoney (now player mailId : Nat) : World :=
  match w.takableMail now player mailId with
  | none => w
  | some m => w.modifyChar player fun c =>
    ((c.modifyMoney (int32 m.money)).updateMail mailId ({ · with money := 0, state := .changed })).saveMail

end World

inductive Request where
  | sendMail (receiver : Nat) (items : List Nat) (money cod : Nat) (permitted : Bool)
  | getMailList
  | markAsRead (mailId : Nat)
  | delete (mailId : Nat)
  | returnToSender (mailId : Nat)
  | takeItem (mailId item : Nat) (store : StoreResult)
  | takeMoney (mailId : Nat)

structure Event where
  player : Nat
  now : Nat
  request : Request

/-- The requests of the players, one after the other. `delay` is `CONFIG_MAIL_DELIVERY_DELAY`. -/
def World.step (delay : Nat) (w : World) (e : Event) : World :=
  match e.request with
  | .sendMail receiver items money cod permitted =>
    w.handleSendMail delay e.now e.player receiver items money cod permitted
  | .getMailList => w.handleGetMailList e.player
  | .markAsRead mailId => w.handleMailMarkAsRead e.player mailId
  | .delete mailId => w.handleMailDelete e.player mailId
  | .returnToSender mailId => w.handleMailReturnToSender delay e.now e.player mailId
  | .takeItem mailId item store => w.handleMailTakeItem e.now e.player mailId item store
  | .takeMoney mailId => w.handleMailTakeMoney e.now e.player mailId

end Axium.Mails
