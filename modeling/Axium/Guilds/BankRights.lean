import Axium.Guilds.BankItems

/-!
# Who can widen the rights of a rank

The operations on a guild that a member can ask for, translated from `Guild.cpp` and `GuildHandler.cpp`,
and what they do to the ranks: their rights, their money per day, and their rights and slots for the tabs
of the bank.

Of twenty operations only three write the ranks for a leader, and one for everybody: who buys a tab of
the bank gives his own rank full rights on it and all the money of the bank (`noWider_iff`).
-/

namespace Axium.Guilds

open Guild

def rightRemove : Nat := 0x60

def rightSetMotd : Nat := 0x1040

/-- `GR_RIGHT_EPNOTE`. -/
def rightPublicNote : Nat := 0x2040

/-- `GR_RIGHT_EOFFNOTE`. -/
def rightOfficerNote : Nat := 0x8040

def rightModifyGuildInfo : Nat := 0x10040

def emblemPrice : Nat := 100000

/-- `_GetGuildBankTabPrice`, in gold. -/
def getGuildBankTabPrice : Nat → Nat
  | 0 => 100
  | 1 => 250
  | 2 => 500
  | 3 => 1000
  | 4 => 2500
  | 5 => 5000
  | _ => 0

namespace Guild

variable (g : Guild)

/-- The checks of `HandleBuyBankTab` and of `_CreateNewBankTab`. -/
def canBuyBankTab (tabId money : Nat) : Prop :=
  tabId = g.purchasedTabs ∧ getGuildBankTabPrice tabId * 10000 ≠ 0 ∧
    getGuildBankTabPrice tabId * 10000 ≤ money ∧ g.purchasedTabs < 6

instance (tabId money : Nat) : Decidable (g.canBuyBankTab tabId money) :=
  inferInstanceAs (Decidable (_ ∧ _))

/-- `HandleBuyBankTab`, with the money of the player. -/
def handleBuyBankTab (player : Guid) (tabId money : Nat) : Guild × Nat :=
  if h : g.canBuyBankTab tabId money then
    let rank := g.playerRank player
    let g := { g with purchasedTabs := g.purchasedTabs + 1 }
    let g := g.setRankBankMoneyPerDay rank unlimited
    let g := g.setRankBankTabRightsAndSlots rank ⟨tabId, h.1 ▸ h.2.2.2⟩
      { rights := rightFull, slots := unlimited }
    (g, modifyMoney money (-int32 (getGuildBankTabPrice tabId * 10000)))
  else (g, money)

def handleDisband (player : Guid) : Guild := if g.isLeader player then g.disband else g

def handleLeaveMember (order : List Guid) (player : Guid) : Guild :=
  if g.isLeader player then if 1 < g.members.keys.length then g else g.disband
  else g.deleteMember order player

def handleRemoveMember (order : List Guid) (player : Guid) (name : String) : Guild :=
  if g.hasRankRight player rightRemove then
    match g.getMember order name with
    | some guid =>
      if g.playerRank guid = guildMaster then g
      else if g.playerRank guid ≤ g.playerRank player then g
      else g.deleteMember order guid
    | none => g
  else g

end Guild

structure TabInfo where
  name : String := ""
  icon : String := ""
  text : String := ""
  deriving DecidableEq, Repr

/-- The guild and its bank, with the texts that members can write. -/
structure Hall where
  vault : Vault
  motd : String := ""
  info : String := ""
  emblem : Nat := 0
  tabs : Nat → TabInfo := fun _ => {}
  publicNotes : Guid → String := fun _ => ""
  officerNotes : Guid → String := fun _ => ""

/-- What a member can ask for. An operation on money comes with the money of the player, one that
iterates over the members with their order. -/
inductive Operation
  | setMOTD (motd : String)
  | setInfo (info : String)
  | setEmblem (emblem money : Nat)
  | setLeader (order : List Guid) (name : String)
  | setBankTabInfo (tabId : Nat) (name icon : String)
  | setBankTabText (tabId : Nat) (text : String)
  | setMemberNote (order : List Guid) (name note : String) (officer : Bool)
  | setRankInfo (rankId rights moneyPerDay : Nat) (rightsAndSlots : Fin 6 → RightsAndSlots)
  | buyBankTab (tabId money : Nat)
  | inviteMember
  | leaveMember (order : List Guid)
  | removeMember (order : List Guid) (name : String)
  | updateMemberRank (order : List Guid) (name : String) (demote : Bool)
  | addNewRank
  | removeLowestRank
  | depositMoney (near : Bool) (money amount : Nat)
  | withdrawMoney (near : Bool) (money amount now : Nat)
  | repair (money amount now : Nat)
  | moveItems (R : Realm) (q : Vault.Request)
  | disband

namespace Hall

variable (h : Hall)

def guild : Guild := h.vault.guild

def withGuild (g : Guild) : Hall := { h with vault := { h.vault with guild := g } }

/-- `BankTab::SetInfo`, of a tab that was bought. -/
def setTabInfo (tabId : Nat) (f : TabInfo → TabInfo) : Hall :=
  if tabId < h.guild.purchasedTabs then
    { h with tabs := fun i => if i = tabId then f (h.tabs i) else h.tabs i }
  else h

def handleSetMemberNote (order : List Guid) (player : Guid) (name note : String) (officer : Bool) : Hall :=
  if h.guild.hasRankRight player (if officer then rightOfficerNote else rightPublicNote) then
    match h.guild.getMember order name with
    | some guid =>
      if officer then
        { h with officerNotes := fun i => if i = guid then note else h.officerNotes i }
      else { h with publicNotes := fun i => if i = guid then note else h.publicNotes i }
    | none => h
  else h

def perform (player : Guid) : Operation → Hall
  | .setMOTD motd => if h.guild.hasRankRight player rightSetMotd then { h with motd := motd } else h
  | .setInfo info => if h.guild.hasRankRight player rightModifyGuildInfo then { h with info := info } else h
  | .setEmblem emblem money =>
    if h.guild.isLeader player ∧ emblemPrice ≤ money then { h with emblem := emblem } else h
  | .setLeader order name => h.withGuild (h.guild.handleSetLeader order player name)
  | .setBankTabInfo tabId name icon => h.setTabInfo tabId ({ · with name := name, icon := icon })
  | .setBankTabText tabId text => h.setTabInfo tabId ({ · with text := text })
  | .setMemberNote order name note officer => h.handleSetMemberNote order player name note officer
  | .setRankInfo rankId rights moneyPerDay rightsAndSlots =>
    h.withGuild (h.guild.handleSetRankInfo player rankId rights moneyPerDay rightsAndSlots)
  | .buyBankTab tabId money => h.withGuild (h.guild.handleBuyBankTab player tabId money).1
  | .inviteMember => h
  | .leaveMember order => h.withGuild (h.guild.handleLeaveMember order player)
  | .removeMember order name => h.withGuild (h.guild.handleRemoveMember order player name)
  | .updateMemberRank order name demote => h.withGuild (h.guild.handleUpdateMemberRank order player name demote)
  | .addNewRank => h.withGuild (h.guild.handleAddNewRank player)
  | .removeLowestRank => h.withGuild (h.guild.handleRemoveLowestRank player)
  | .depositMoney near money amount => h.withGuild (h.guild.handleGuildBankDepositMoney near money amount).1
  | .withdrawMoney near money amount now =>
    h.withGuild (h.guild.handleGuildBankWithdrawMoney near player money amount now).1
  | .repair money amount now => h.withGuild (h.guild.handleMemberWithdrawMoney player money amount true now).1
  | .moveItems R q => { h with vault := (h.vault.request { R with player := player } q).2 }
  | .disband => h.withGuild (h.guild.handleDisband player)

end Hall

/-! ## Ranks that are not widened -/

def RankInfo.Within (r s : RankInfo) : Prop :=
  r.rights ≤ s.rights ∧ r.bankMoneyPerDay ≤ s.bankMoneyPerDay ∧
    ∀ tab, (r.bankTabRightsAndSlots tab).rights ≤ (s.bankTabRightsAndSlots tab).rights ∧
      (r.bankTabRightsAndSlots tab).slots ≤ (s.bankTabRightsAndSlots tab).slots

instance (r s : RankInfo) : Decidable (r.Within s) := inferInstanceAs (Decidable (_ ∧ _ ∧ _))

theorem RankInfo.within_refl (r : RankInfo) : r.Within r := ⟨le_rfl, le_rfl, fun _ => ⟨le_rfl, le_rfl⟩⟩

def RankInfo.buyer (r : RankInfo) (tab : Fin 6) : RankInfo :=
  (r.setBankMoneyPerDay unlimited).setBankTabSlotsAndRights tab
    { rights := rightFull, slots := unlimited }

def RankInfo.HasAll (r : RankInfo) (tab : Fin 6) : Prop :=
  unlimited ≤ r.bankMoneyPerDay ∧ rightFull ≤ (r.bankTabRightsAndSlots tab).rights ∧
    unlimited ≤ (r.bankTabRightsAndSlots tab).slots

instance (r : RankInfo) (tab : Fin 6) : Decidable (r.HasAll tab) := inferInstanceAs (Decidable (_ ∧ _))

theorem RankInfo.buyer_within_iff (r : RankInfo) (tab : Fin 6) : (r.buyer tab).Within r ↔ r.HasAll tab := by
  have hmoney : (r.buyer tab).bankMoneyPerDay = unlimited := ite_self _
  have hrights : (r.buyer tab).rights = r.rights := rfl
  have htab : (r.buyer tab).bankTabRightsAndSlots tab = { rights := rightFull, slots := unlimited } := by
    unfold RankInfo.buyer RankInfo.setBankTabSlotsAndRights
    dsimp only
    rw [if_pos rfl, ite_self]
  constructor
  · rintro ⟨-, hm, ht⟩
    have ht := ht tab
    rw [htab] at ht
    rw [hmoney] at hm
    exact ⟨hm, ht⟩
  · rintro ⟨hm, ht⟩
    refine ⟨hrights.le, hmoney ▸ hm, fun i => ?_⟩
    by_cases hi : i = tab
    · rw [hi, htab]
      exact ht
    · have hother : (r.buyer tab).bankTabRightsAndSlots i = r.bankTabRightsAndSlots i := if_neg hi
      rw [hother]
      exact ⟨le_rfl, le_rfl⟩

namespace Guild

def rankAt (g : Guild) (i : Nat) : RankInfo := (g.ranks[i]?).getD { rankId := i, rights := 0 }

def NoWider (g g' : Guild) : Prop := ∀ i, (g'.rankAt i).Within (g.rankAt i)

def Grants (g : Guild) (player : Guid) : Operation → Prop
  | .buyBankTab tabId money =>
    g.canBuyBankTab tabId money ∧ ∃ r, g.getRankInfo (g.playerRank player) = some r ∧
      ∃ h : tabId < 6, ¬ r.HasAll ⟨tabId, h⟩
  | _ => False

variable {g g' : Guild} {player : Guid}

theorem noWider_of_ranks (h : g'.ranks = g.ranks) : g.NoWider g' := by
  intro i
  unfold rankAt
  rw [h]
  exact RankInfo.within_refl _

theorem getRankInfo_eq_some {rankId : Nat} {r : RankInfo} (h : g.getRankInfo rankId = some r) :
    g.ranks[rankId]? = some r := by
  unfold getRankInfo at h
  by_cases hlt : rankId < g.getRanksSize
  · rwa [if_pos hlt] at h
  · rw [if_neg hlt] at h
    cases h

theorem getRankInfo_congr (h : g'.ranks = g.ranks) (rankId : Nat) :
    g'.getRankInfo rankId = g.getRankInfo rankId := by
  unfold getRankInfo getRanksSize
  rw [h]

theorem setRankBankMoneyPerDay_ranks (g : Guild) (rankId money : Nat) :
    (g.setRankBankMoneyPerDay rankId money).ranks =
      if (g.getRankInfo rankId).isSome then g.ranks.modify rankId (·.setBankMoneyPerDay money)
      else g.ranks := by
  unfold setRankBankMoneyPerDay
  cases g.getRankInfo rankId with
  | none => rfl
  | some r => rfl

theorem setRankBankMoneyPerDay_purchasedTabs (g : Guild) (rankId money : Nat) :
    (g.setRankBankMoneyPerDay rankId money).purchasedTabs = g.purchasedTabs := by
  unfold setRankBankMoneyPerDay
  cases g.getRankInfo rankId with
  | none => rfl
  | some r => rfl

theorem setRankBankTabRightsAndSlots_ranks (g : Guild) (rankId : Nat) (tab : Fin 6)
    (rightsAndSlots : RightsAndSlots) :
    (g.setRankBankTabRightsAndSlots rankId tab rightsAndSlots).ranks =
      if tab.val < g.purchasedTabs ∧ (g.getRankInfo rankId).isSome then
        g.ranks.modify rankId (·.setBankTabSlotsAndRights tab rightsAndSlots) else g.ranks := by
  unfold setRankBankTabRightsAndSlots
  by_cases htab : g.purchasedTabs ≤ tab.val
  · rw [if_pos htab, if_neg (fun hc => absurd hc.1 (not_lt.2 htab))]
  · rw [if_neg htab]
    cases hr : g.getRankInfo rankId with
    | none => simp
    | some r => rw [if_pos ⟨Nat.lt_of_not_le htab, rfl⟩]

theorem handleBuyBankTab_ranks {tabId money : Nat} (hbuy : g.canBuyBankTab tabId money) (htab : tabId < 6) :
    (g.handleBuyBankTab player tabId money).1.ranks =
      if (g.getRankInfo (g.playerRank player)).isSome then
        g.ranks.modify (g.playerRank player) (·.buyer ⟨tabId, htab⟩) else g.ranks := by
  unfold handleBuyBankTab
  rw [dif_pos hbuy]
  generalize g.playerRank player = rank
  have hnew : tabId < g.purchasedTabs + 1 := by
    have := hbuy.1
    omega
  rw [setRankBankTabRightsAndSlots_ranks, setRankBankMoneyPerDay_purchasedTabs]
  dsimp only
  -- the rank of the buyer is there after the first write if it was there before
  have hinfo := getRankInfo_congr (g := { g with
    ranks := if (g.getRankInfo rank).isSome then g.ranks.modify rank (·.setBankMoneyPerDay unlimited)
      else g.ranks }) (setRankBankMoneyPerDay_ranks { g with purchasedTabs := g.purchasedTabs + 1 } rank
        unlimited) rank
  rw [hinfo, setRankBankMoneyPerDay_ranks]
  have hsame : ({ g with purchasedTabs := g.purchasedTabs + 1 } : Guild).getRankInfo rank =
    g.getRankInfo rank := rfl
  rw [hsame]
  cases hr : g.getRankInfo rank with
  | none =>
    simp only [Option.isSome_none, Bool.false_eq_true, if_false]
    have hnone : ({ g with ranks := g.ranks } : Guild).getRankInfo rank = none := hr
    rw [if_neg]
    rw [hnone]
    exact fun hc => absurd hc.2 Bool.false_ne_true
  | some r =>
    simp only [Option.isSome_some, if_true]
    rw [getRankInfo_modify, if_pos rfl, hr, if_pos ⟨hnew, rfl⟩, List.modify_modify_eq]
    rfl

theorem rankAt_modify {rankId : Nat} {r : RankInfo} {f : RankInfo → RankInfo}
    (h : g'.ranks = g.ranks.modify rankId f) (hr : g.ranks[rankId]? = some r) (i : Nat) :
    g'.rankAt i = if i = rankId then f r else g.rankAt i := by
  unfold rankAt
  rw [h, List.getElem?_modify]
  by_cases hi : i = rankId
  · rw [hi, hr]
    simp
  · rw [if_neg hi]
    simp [Ne.symm hi]

theorem noWider_handleBuyBankTab {tabId money : Nat} :
    g.NoWider (g.handleBuyBankTab player tabId money).1 ↔ ¬ g.Grants player (.buyBankTab tabId money) := by
  unfold Grants
  by_cases hbuy : g.canBuyBankTab tabId money
  · have htab : tabId < 6 := hbuy.1 ▸ hbuy.2.2.2
    have hranks : (g.handleBuyBankTab player tabId money).1.ranks = _ := handleBuyBankTab_ranks hbuy htab
    cases hr : g.getRankInfo (g.playerRank player) with
    | none =>
      simp only [hr, Option.isSome_none, Bool.false_eq_true, if_false] at hranks
      simp [noWider_of_ranks hranks]
    | some r =>
      simp only [hr, Option.isSome_some, if_true] at hranks
      have hat := getRankInfo_eq_some hr
      have hcond : ¬ (g.canBuyBankTab tabId money ∧ ∃ r', some r = some r' ∧
          ∃ h : tabId < 6, ¬ r'.HasAll ⟨tabId, h⟩) ↔ r.HasAll ⟨tabId, htab⟩ := by
        simp [hbuy, htab]
      rw [hcond, ← RankInfo.buyer_within_iff]
      generalize g.playerRank player = rank at hranks hat
      have hrankAt := rankAt_modify hranks hat
      have hold : g.rankAt rank = r := by
        unfold rankAt
        rw [hat]
        rfl
      constructor
      · intro hno
        have hrank := hno rank
        rwa [hrankAt, if_pos rfl, hold] at hrank
      · intro hwithin i
        rw [hrankAt]
        by_cases hi : i = rank
        · rw [if_pos hi, hi, hold]
          exact hwithin
        · rw [if_neg hi]
          exact RankInfo.within_refl _
  · have hsame : (g.handleBuyBankTab player tabId money).1 = g := by
      unfold handleBuyBankTab
      rw [dif_neg hbuy]
    rw [hsame]
    simp [hbuy, noWider_of_ranks]

/-! ## The other operations -/

variable (order : List Guid)

theorem handleUpdateMemberRank_ranks (name : String) (demote : Bool) :
    (g.handleUpdateMemberRank order player name demote).ranks = g.ranks := by
  unfold handleUpdateMemberRank
  by_cases hright : g.hasRankRight player (if demote then rightDemote else rightPromote)
  · rw [if_pos hright]
    cases g.getMember order name with
    | none => rfl
    | some guid =>
      dsimp only
      split_ifs <;> rfl
  · rw [if_neg hright]

theorem deleteMember_ranks (guid : Guid) : (g.deleteMember order guid).ranks = g.ranks := by
  unfold deleteMember
  by_cases hl : g.leaderGuid = guid
  · rw [if_pos hl]
    cases g.newLeader order guid with
    | none => rfl
    | some i => rfl
  · rw [if_neg hl]

theorem handleLeaveMember_ranks : (g.handleLeaveMember order player).ranks = g.ranks := by
  unfold handleLeaveMember
  by_cases hl : g.isLeader player
  · rw [if_pos hl]
    split_ifs <;> rfl
  · rw [if_neg hl]
    exact deleteMember_ranks order player

theorem handleRemoveMember_ranks (name : String) :
    (g.handleRemoveMember order player name).ranks = g.ranks := by
  unfold handleRemoveMember
  by_cases hright : g.hasRankRight player rightRemove
  · rw [if_pos hright]
    cases g.getMember order name with
    | none => rfl
    | some guid =>
      dsimp only
      split_ifs
      · rfl
      · rfl
      · exact deleteMember_ranks order guid
  · rw [if_neg hright]

theorem getMemberRemaining_ranks (g : Guild) (guid : Guid) (a : Allowance) (now : Nat) :
    (g.getMemberRemaining guid a now).2.ranks = g.ranks := by
  unfold getMemberRemaining
  cases g.members.find? guid with
  | none => rfl
  | some m => rfl

theorem decreaseMemberRemainingSlots_ranks (g : Guild) (guid : Guid) (tab : Fin 6) (now : Nat) :
    (g.decreaseMemberRemainingSlots guid tab now).ranks = g.ranks := by
  unfold decreaseMemberRemainingSlots
  dsimp only
  split_ifs
  · exact getMemberRemaining_ranks ..
  · exact getMemberRemaining_ranks ..

theorem handleMemberWithdrawMoney_ranks (money amount : Nat) (repair : Bool) (now : Nat) :
    (g.handleMemberWithdrawMoney player money amount repair now).1.ranks = g.ranks := by
  have hread := getMemberRemaining_ranks g player moneyTab now
  unfold handleMemberWithdrawMoney
  split_ifs <;> dsimp only <;> split_ifs <;> first | rfl | exact hread

theorem handleGuildBankDepositMoney_ranks (near : Bool) (money amount : Nat) :
    (g.handleGuildBankDepositMoney near money amount).1.ranks = g.ranks := by
  unfold handleGuildBankDepositMoney handleMemberDepositMoney
  split_ifs <;> rfl

theorem handleGuildBankWithdrawMoney_ranks (near : Bool) (money amount now : Nat) :
    (g.handleGuildBankWithdrawMoney near player money amount now).1.ranks = g.ranks := by
  unfold handleGuildBankWithdrawMoney
  split_ifs
  · exact handleMemberWithdrawMoney_ranks money amount false now
  · rfl

end Guild

namespace Vault

variable {R : Realm} {v v' : Vault}

theorem removeItem_ranks (side other : Place) (it : Item) (m : Nat) :
    (v.removeItem R side other it m).guild.ranks = v.guild.ranks := by
  unfold removeItem
  dsimp only
  split_ifs
  · rfl
  · exact decreaseMemberRemainingSlots_ranks ..
  · rfl

theorem storeAt_keeps_guild (it : Item) (clone : Bool) (p : Place) (count : Nat) :
    (v.storeAt R it clone p count).guild = v.guild := by
  have hset : ∀ c : Item, (v.setItem R p c).guild = v.guild := by
    intro c
    unfold setItem
    split_ifs <;> rfl
  unfold storeAt
  cases v.itemAt R p with
  | some t => rfl
  | none =>
    split_ifs
    · cases Stacks.clone R.maxStack v.nextGuid it count with
      | none => rfl
      | some c => exact hset c
    · exact hset _

theorem storeItem_keeps_guild (it : Item) (vec : List (Place × Nat)) (v : Vault) :
    (storeItem R it vec v).guild = v.guild := by
  induction vec generalizing v with
  | nil => rfl
  | cons q rest ih =>
    unfold storeItem
    rw [ih, storeAt_keeps_guild]

theorem doItemsMove_ranks {src dest : Place} {it srcItem : Item} {destItem : Option Item} {m : Nat}
    (h : v.doItemsMove R src dest it srcItem destItem m = some v') : v'.guild.ranks = v.guild.ranks := by
  unfold doItemsMove at h
  cases hcan : v.canStore R dest srcItem destItem.isSome with
  | mk res vec =>
    rw [hcan] at h
    cases res with
    | ok =>
      cases destItem with
      | none =>
        cases h
        rw [storeItem_keeps_guild, removeItem_ranks]
      | some d =>
        dsimp only at h
        cases hcan' : v.canStore R src d true with
        | mk res' vec' =>
          rw [hcan'] at h
          cases res' with
          | ok =>
            cases h
            rw [storeItem_keeps_guild, storeItem_keeps_guild, removeItem_ranks, removeItem_ranks]
          | _ => cases h
    | _ => cases h

theorem hasWithdrawRights_ranks (side other : Place) :
    (v.hasWithdrawRights R side other).2.ranks = v.guild.ranks := by
  unfold hasWithdrawRights
  split_ifs
  · rfl
  · exact getMemberRemaining_ranks ..
  · rfl

variable (src dest : Place)

theorem swapMove_ranks (it : Item) : (v.swapMove R src dest it).2.guild.ranks = v.guild.ranks := by
  unfold swapMove
  cases v.initItem R dest with
  | none => rfl
  | some d =>
    dsimp only
    by_cases hstore : ¬ v.hasStoreRights R src dest
    · rw [if_pos hstore]
    rw [if_neg hstore]
    by_cases hwithdraw : ¬ (v.hasWithdrawRights R dest src).1
    · rw [if_pos hwithdraw]
      exact hasWithdrawRights_ranks dest src
    rw [if_neg hwithdraw]
    cases hmove : { v with guild := (v.hasWithdrawRights R dest src).2 }.doItemsMove R src dest it it
        (some d) 0 with
    | none => exact hasWithdrawRights_ranks dest src
    | some v' =>
      have hranks := doItemsMove_ranks hmove
      exact hranks.trans (hasWithdrawRights_ranks dest src)

theorem splitOrMerge_ranks (it : Item) (m : Nat) :
    (v.splitOrMerge R src dest it m).2.guild.ranks = v.guild.ranks := by
  unfold splitOrMerge
  by_cases hm : m ≠ 0
  · rw [if_pos hm]
    cases Stacks.clone R.maxStack v.nextGuid it m with
    | none => rfl
    | some c =>
      dsimp only
      cases hmove : { v with nextGuid := v.nextGuid + 1 }.doItemsMove R src dest it c none m with
      | none => rfl
      | some v' =>
        have hranks := doItemsMove_ranks hmove
        exact hranks
  · rw [if_neg hm]
    cases hmove : v.doItemsMove R src dest it it none 0 with
    | none => exact swapMove_ranks src dest it
    | some v' =>
      have hranks := doItemsMove_ranks hmove
      exact hranks

theorem moveItems_ranks (m : Nat) : (v.moveItems R src dest m).2.guild.ranks = v.guild.ranks := by
  unfold moveItems
  cases v.initItem R src with
  | none => rfl
  | some it =>
    dsimp only
    by_cases hm : it.count < m
    · rw [if_pos hm]
    rw [if_neg hm]
    by_cases hstore : ¬ v.hasStoreRights R dest src
    · rw [if_pos hstore]
    rw [if_neg hstore]
    by_cases hwithdraw : ¬ (v.hasWithdrawRights R src dest).1
    · rw [if_pos hwithdraw]
      exact hasWithdrawRights_ranks src dest
    rw [if_neg hwithdraw]
    exact (splitOrMerge_ranks src dest it _).trans (hasWithdrawRights_ranks src dest)

theorem request_ranks (q : Request) : (v.request R q).2.guild.ranks = v.guild.ranks := by
  cases q with
  | swapItems tab slot destTab destSlot m =>
    unfold request swapItems
    dsimp only
    split_ifs
    · rfl
    · rfl
    · exact moveItems_ranks ..
  | swapItemsWithInventory toChar tab slot playerBag playerSlot m =>
    unfold request swapItemsWithInventory
    dsimp only
    split_ifs
    · rfl
    · exact moveItems_ranks ..
    · exact moveItems_ranks ..

end Vault

namespace Hall

variable {h : Hall} {player : Guid}

theorem setTabInfo_guild (tabId : Nat) (f : TabInfo → TabInfo) : (h.setTabInfo tabId f).guild = h.guild := by
  unfold setTabInfo
  split_ifs <;> rfl

theorem handleSetMemberNote_guild (order : List Guid) (name note : String) (officer : Bool) :
    (h.handleSetMemberNote order player name note officer).guild = h.guild := by
  unfold handleSetMemberNote
  by_cases hright : h.guild.hasRankRight player (if officer then rightOfficerNote else rightPublicNote)
  · rw [if_pos hright]
    cases h.guild.getMember order name with
    | none => rfl
    | some guid => split_ifs <;> rfl
  · rw [if_neg hright]

theorem perform_ranks (hl : ¬ h.guild.isLeader player) (op : Operation)
    (hop : ∀ tabId money, op ≠ .buyBankTab tabId money) :
    (h.perform player op).guild.ranks = h.guild.ranks := by
  have hsame : ∀ {g : Guild}, g.ranks = h.guild.ranks → (h.withGuild g).guild.ranks = h.guild.ranks :=
    fun hg => hg
  cases op with
  | setMOTD motd =>
    dsimp only [perform]
    split_ifs <;> rfl
  | setInfo info =>
    dsimp only [perform]
    split_ifs <;> rfl
  | setEmblem emblem money =>
    dsimp only [perform]
    split_ifs <;> rfl
  | setLeader order name =>
    apply hsame
    unfold handleSetLeader
    rw [if_neg (fun hc => hl hc.1)]
  | setBankTabInfo tabId name icon => exact congrArg ranks (setTabInfo_guild tabId _)
  | setBankTabText tabId text => exact congrArg ranks (setTabInfo_guild tabId _)
  | setMemberNote order name note officer =>
    exact congrArg ranks (handleSetMemberNote_guild order name note officer)
  | setRankInfo rankId rights moneyPerDay rightsAndSlots =>
    apply hsame
    unfold handleSetRankInfo
    rw [if_neg hl]
  | buyBankTab tabId money => exact absurd rfl (hop tabId money)
  | inviteMember => rfl
  | leaveMember order => exact hsame (handleLeaveMember_ranks order)
  | removeMember order name => exact hsame (handleRemoveMember_ranks order name)
  | updateMemberRank order name demote => exact hsame (handleUpdateMemberRank_ranks order name demote)
  | addNewRank =>
    apply hsame
    unfold handleAddNewRank
    rw [if_neg (fun hc => hl hc.2)]
  | removeLowestRank =>
    apply hsame
    unfold handleRemoveLowestRank
    rw [if_neg (fun hc => hl hc.2)]
  | depositMoney near money amount => exact hsame (handleGuildBankDepositMoney_ranks near money amount)
  | withdrawMoney near money amount now =>
    exact hsame (handleGuildBankWithdrawMoney_ranks near money amount now)
  | repair money amount now => exact hsame (handleMemberWithdrawMoney_ranks money amount true now)
  | moveItems R q => exact Vault.request_ranks q
  | disband =>
    apply hsame
    unfold handleDisband
    rw [if_neg hl]

/-- An operation of a player who is not the leader widens a rank if and only if it is the purchase of a
tab, it goes through, and the rank of the buyer could do less before. -/
theorem noWider_iff (hl : ¬ h.guild.isLeader player) (op : Operation) :
    h.guild.NoWider (h.perform player op).guild ↔ ¬ h.guild.Grants player op := by
  by_cases hop : ∀ tabId money, op ≠ .buyBankTab tabId money
  · have hno := noWider_of_ranks (perform_ranks hl op hop)
    have hgrants : ¬ h.guild.Grants player op := by
      cases op with
      | buyBankTab tabId money => exact absurd rfl (hop tabId money)
      | _ => exact id
    exact ⟨fun _ => hgrants, fun _ => hno⟩
  · push Not at hop
    obtain ⟨tabId, money, rfl⟩ := hop
    exact noWider_handleBuyBankTab

def smallHall : Hall where
  vault :=
    { guild := (create 1 "Master").addMember 2 "Initiate" rankNone true
      slots := fun _ => none
      nextGuid := 1 }

/-- The initiate sets the name of a tab, and tries to edit his rank. -/
theorem smallHall_noWider :
    ¬ smallHall.guild.isLeader 2 ∧
    smallHall.guild.NoWider (smallHall.perform 2 (.setBankTabInfo 0 "Herbs" "Icon")).guild ∧
    smallHall.guild.NoWider (smallHall.perform 2 (.setRankInfo 4 rightAll unlimited fun _ => {})).guild := by
  have hl : ¬ smallHall.guild.isLeader 2 := by decide
  exact ⟨hl, (noWider_iff hl _).2 id, (noWider_iff hl _).2 id⟩

/-- The initiate buys the first tab for a hundred gold: his rank may now take all the money of the
bank. -/
theorem initiate_buys_tab :
    ¬ smallHall.guild.isLeader 2 ∧
    ¬ smallHall.guild.NoWider (smallHall.perform 2 (.buyBankTab 0 1000000)).guild := by
  refine ⟨by decide, fun hno => ?_⟩
  exact absurd (hno 4) (by decide)

end Hall

end Axium.Guilds
