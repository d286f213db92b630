import Axium.Guilds.Guild

/-!
# The guild bank: allowances and money

What a member may still take from the bank today, and the money of the bank, translated from `Guild.cpp`,
`GuildHandler.cpp` and `Player::ModifyMoney`.

The allowance of a member is kept with the time at which it was renewed; to read it is to renew it when
more than a day has passed, so the functions that read it return the guild too. Scripts called on a
deposit or a withdrawal, and the logs, are left out.
-/

namespace Axium.Guilds

def maxMoneyAmount : Nat := 0x7FFFFFFE

/-- The conversion to `uint32`. -/
def uint32 (z : Int) : Nat := (z % 4294967296).toNat

def int32 (n : Nat) : Int := if n < 2147483648 then n else n - 4294967296

def modifyMoney (money : Nat) (d : Int) : Nat :=
  if d < 0 then if uint32 (-d) < money then uint32 (money + d) else 0
  else if money < uint32 (maxMoneyAmount - d) then uint32 (money + d)
  else maxMoneyAmount

def RemainingValue.expired (rv : RemainingValue) (now : Nat) : Prop :=
  (rv.resetTime + 1440) % 4294967296 < now

instance (rv : RemainingValue) (now : Nat) : Decidable (rv.expired now) :=
  inferInstanceAs (Decidable (_ < _))

def Member.setRemaining (m : Member) (a : Allowance) (rv : RemainingValue) : Member :=
  { m with bankRemaining := fun i => if i = a then rv else m.bankRemaining i }

def tabAllowance (tab : Fin 6) : Allowance := tab.castSucc

namespace Guild

variable (g : Guild)

/-! ## Allowances -/

def getRankBankMoneyPerDay (rankId : Nat) : Nat :=
  ((g.getRankInfo rankId).map (·.getBankMoneyPerDay)).getD 0

def getRankBankTabSlotsPerDay (rankId : Nat) (tab : Fin 6) : Nat :=
  if tab.val < g.purchasedTabs then
    ((g.getRankInfo rankId).map (·.getBankTabSlotsPerDay tab)).getD 0
  else 0

def getRankBankTabRights (rankId : Nat) (tab : Fin 6) : Nat :=
  ((g.getRankInfo rankId).map fun r => (r.bankTabRightsAndSlots tab).rights).getD 0

def perDay (rankId : Nat) (a : Allowance) : Nat :=
  if h : a.val < 6 then g.getRankBankTabSlotsPerDay rankId ⟨a, h⟩ else g.getRankBankMoneyPerDay rankId

def hidden (rankId : Nat) (a : Allowance) : Prop :=
  ∃ h : a.val < 6, g.getRankBankTabRights rankId ⟨a, h⟩ &&& rightViewTab ≠ rightViewTab

instance (rankId : Nat) (a : Allowance) : Decidable (g.hidden rankId a) :=
  inferInstanceAs (Decidable (∃ _ : _, _))

/-- `GetBankRemainingValue`: what is left for today, and the member with his allowance renewed if that was
due. -/
def getBankRemainingValue (m : Member) (a : Allowance) (now : Nat) : Nat × Member :=
  if m.rankId = guildMaster then (unlimited, m)
  else if g.hidden m.rankId a then (0, m)
  else if (m.bankRemaining a).expired now then
    (g.perDay m.rankId a,
      m.setRemaining a { value := g.perDay m.rankId a, resetTime := now })
  else ((m.bankRemaining a).value, m)

/-- `_GetMemberRemainingMoney` and `_GetMemberRemainingSlots`. -/
def getMemberRemaining (guid : Guid) (a : Allowance) (now : Nat) : Nat × Guild :=
  match g.members.find? guid with
  | some m =>
    let r := g.getBankRemainingValue m a now
    (r.1, { g with members := g.members.insert guid r.2 })
  | none => (0, g)

def decreaseBankRemainingValue (guid : Guid) (a : Allowance) (amount : Nat) : Guild :=
  { g with
    members := g.members.modify guid fun m =>
      m.setRemaining a
        { m.bankRemaining a with value := uint32 ((m.bankRemaining a).value - amount) } }

def decreaseMemberRemainingSlots (guid : Guid) (tab : Fin 6) (now : Nat) : Guild :=
  let r := g.getMemberRemaining guid (tabAllowance tab) now
  if r.1 ≠ 0 ∧ r.1 < unlimited then r.2.decreaseBankRemainingValue guid (tabAllowance tab) 1 else r.2

/-! ## Limits -/

def resetTimes (rankId : Nat) (which : Allowance → Bool) : Guild :=
  { g with
    members := g.members.mapVal fun _ m =>
      if m.rankId = rankId then
        { m with
          bankRemaining := fun a =>
            if which a then { m.bankRemaining a with resetTime := 0 } else m.bankRemaining a }
      else m }

def setRankBankMoneyPerDay (rankId moneyPerDay : Nat) : Guild :=
  match g.getRankInfo rankId with
  | some _ =>
    { g.resetTimes rankId (· = moneyTab) with
      ranks := g.ranks.modify rankId (·.setBankMoneyPerDay moneyPerDay) }
  | none => g

def setRankBankTabRightsAndSlots (rankId : Nat) (tab : Fin 6) (rightsAndSlots : RightsAndSlots) : Guild :=
  if g.purchasedTabs ≤ tab.val then g
  else match g.getRankInfo rankId with
    | some _ =>
      { g.resetTimes rankId (· ≠ moneyTab) with
        ranks := g.ranks.modify rankId (·.setBankTabSlotsAndRights tab rightsAndSlots) }
    | none => g

/-- `HandleSetRankInfo`. The handler of the opcode reads rights and slots for every tab. -/
def handleSetRankInfo (player : Guid) (rankId rights moneyPerDay : Nat)
    (rightsAndSlots : Fin 6 → RightsAndSlots) : Guild :=
  if g.isLeader player then
    match g.getRankInfo rankId with
    | some _ =>
      let g := { g with ranks := g.ranks.modify rankId (·.setRights rights) }
      let g := g.setRankBankMoneyPerDay rankId moneyPerDay
      (List.finRange 6).foldl
        (fun g tab => g.setRankBankTabRightsAndSlots rankId tab (rightsAndSlots tab)) g
    | none => g
  else g

/-! ## Money -/

def handleMemberDepositMoney (money amount : Nat) : Guild × Nat :=
  if g.purchasedTabs = 0 then (g, money)
  else
    ({ g with bankMoney := (g.bankMoney + amount) % 18446744073709551616 },
      modifyMoney money (-int32 amount))

/-- `HandleMemberWithdrawMoney`, with the money of the player; the last part says whether it was
allowed. -/
def handleMemberWithdrawMoney (player : Guid) (money amount : Nat) (repair : Bool) (now : Nat) :
    Guild × Nat × Bool :=
  if g.purchasedTabs = 0 then (g, money, false)
  else if g.bankMoney < amount then (g, money, false)
  else if ¬ g.hasRankRight player (if repair then rightWithdrawRepair else rightWithdrawGold) then
    (g, money, false)
  else
    let r := g.getMemberRemaining player moneyTab now
    if r.1 = 0 then (r.2, money, false)
    else if r.1 < amount then (r.2, money, false)
    else
      let g := if r.1 < unlimited then r.2.decreaseBankRemainingValue player moneyTab amount else r.2
      ({ g with bankMoney := g.bankMoney - amount },
        if repair then money else modifyMoney money (int32 amount), true)

/-- `HandleGuildBankDepositMoney`. `near` says that the player is at a guild bank. -/
def handleGuildBankDepositMoney (near : Bool) (money amount : Nat) : Guild × Nat :=
  if near ∧ amount ≠ 0 ∧ amount ≤ money then g.handleMemberDepositMoney money amount else (g, money)

def handleGuildBankWithdrawMoney (near : Bool) (player : Guid) (money amount now : Nat) : Guild × Nat × Bool :=
  if amount ≠ 0 ∧ near then g.handleMemberWithdrawMoney player money amount false now
  else (g, money, false)

/-! ## What a reading can do -/

variable {g}

theorem getRankInfo_modify (g : Guild) (rankId : Nat) (f : RankInfo → RankInfo) (r : Nat) :
    ({ g with ranks := g.ranks.modify rankId f } : Guild).getRankInfo r =
      if r = rankId then (g.getRankInfo r).map f else g.getRankInfo r := by
  unfold getRankInfo getRanksSize
  rw [List.length_modify]
  by_cases hlt : r < g.ranks.length % 256
  · rw [if_pos hlt, if_pos hlt]
    by_cases hr : r = rankId
    · subst hr
      simp
    · rw [if_neg hr]
      simp [Ne.symm hr]
  · rw [if_neg hlt, if_neg hlt]
    simp

theorem getBankRemainingValue_cases (g : Guild) (m : Member) (a : Allowance) (now : Nat) :
    (m.rankId = guildMaster ∧ g.getBankRemainingValue m a now = (unlimited, m)) ∨
    (m.rankId ≠ guildMaster ∧ g.hidden m.rankId a ∧ g.getBankRemainingValue m a now = (0, m)) ∨
    (m.rankId ≠ guildMaster ∧ ¬ g.hidden m.rankId a ∧ (m.bankRemaining a).expired now ∧
      g.getBankRemainingValue m a now =
        (g.perDay m.rankId a,
          m.setRemaining a { value := g.perDay m.rankId a, resetTime := now })) ∨
    (m.rankId ≠ guildMaster ∧ ¬ g.hidden m.rankId a ∧ ¬ (m.bankRemaining a).expired now ∧
      g.getBankRemainingValue m a now = ((m.bankRemaining a).value, m)) := by
  unfold getBankRemainingValue
  by_cases hr : m.rankId = guildMaster
  · rw [if_pos hr]
    exact .inl ⟨hr, rfl⟩
  · rw [if_neg hr]
    by_cases hh : g.hidden m.rankId a
    · rw [if_pos hh]
      exact .inr (.inl ⟨hr, hh, rfl⟩)
    · rw [if_neg hh]
      by_cases he : (m.bankRemaining a).expired now
      · rw [if_pos he]
        exact .inr (.inr (.inl ⟨hr, hh, he, rfl⟩))
      · rw [if_neg he]
        exact .inr (.inr (.inr ⟨hr, hh, he, rfl⟩))

@[simp] theorem setRemaining_self (m : Member) (a : Allowance) (rv : RemainingValue) :
    (m.setRemaining a rv).bankRemaining a = rv := by
  simp [Member.setRemaining]

theorem setRemaining_ne (m : Member) {a b : Allowance} (rv : RemainingValue) (h : b ≠ a) :
    (m.setRemaining a rv).bankRemaining b = m.bankRemaining b := by
  simp [Member.setRemaining, h]

theorem getBankRemainingValue_member (g : Guild) (m : Member) (a : Allowance) (now : Nat) :
    (g.getBankRemainingValue m a now).2 = m ∨
      (g.getBankRemainingValue m a now).2 =
        m.setRemaining a { value := g.perDay m.rankId a, resetTime := now } := by
  rcases getBankRemainingValue_cases g m a now with ⟨-, h⟩ | ⟨-, -, h⟩ | ⟨-, -, -, h⟩ | ⟨-, -, -, h⟩
  · exact .inl (congrArg Prod.snd h)
  · exact .inl (congrArg Prod.snd h)
  · exact .inr (congrArg Prod.snd h)
  · exact .inl (congrArg Prod.snd h)

end Guild

end Axium.Guilds
