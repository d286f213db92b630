import Axium.Guilds.Bank

/-!
# The money of a guild bank

A deposit and a withdrawal move one `uint32` amount between the 64-bit balance of the bank and the
saturating balance of the player, which takes it as an `int32`.
-/

namespace Axium.Guilds

theorem uint32_of_nonneg {z : Int} (h0 : 0 ≤ z) (h : z < 4294967296) : uint32 z = z.toNat := by
  unfold uint32
  rw [Int.emod_eq_of_lt h0 h]

theorem modifyMoney_pay {money amount : Nat} (hm : money ≤ maxMoneyAmount) (ha : amount ≤ money) :
    modifyMoney money (-int32 amount) = money - amount := by
  unfold maxMoneyAmount at hm
  have hsmall : int32 amount = amount := by
    unfold int32
    rw [if_pos (by omega)]
  unfold modifyMoney
  rw [hsmall]
  by_cases hneg : -(amount : Int) < 0
  · rw [if_pos hneg, uint32_of_nonneg (by omega) (by omega)]
    by_cases hlt : (- -(amount : Int)).toNat < money
    · rw [if_pos hlt, uint32_of_nonneg (by omega) (by omega)]
      omega
    · rw [if_neg hlt]
      omega
  · rw [if_neg hneg, uint32_of_nonneg (by unfold maxMoneyAmount; omega) (by unfold maxMoneyAmount; omega)]
    unfold maxMoneyAmount
    by_cases hlt : money < ((0x7FFFFFFE : Nat) - -(amount : Int)).toNat
    · rw [if_pos hlt, uint32_of_nonneg (by omega) (by omega)]
      omega
    · rw [if_neg hlt]
      omega

/-- Being paid. An amount from `2 ^ 31` on is taken for a payment, and only the amount `2 ^ 31 - 1` is not
cut at the cap: the comparison with the cap wraps there. -/
theorem modifyMoney_earn_iff {money amount : Nat} (hm : money ≤ maxMoneyAmount) (ha : amount < 4294967296) :
    modifyMoney money (int32 amount) = money + amount ↔
      amount = 2147483647 ∨ money + amount ≤ maxMoneyAmount := by
  unfold modifyMoney
  unfold maxMoneyAmount at hm ⊢
  by_cases hbig : amount < 2147483648
  · have hd : int32 amount = amount := by
      unfold int32
      rw [if_pos hbig]
    rw [hd, if_neg (by omega)]
    by_cases hwrap : amount = 2147483647
    · have hcap : uint32 (((0x7FFFFFFE : Nat) : Int) - (amount : Int)) = 4294967295 := by
        rw [hwrap]
        decide
      rw [if_pos (by omega), uint32_of_nonneg (by omega) (by omega)]
      omega
    · rw [uint32_of_nonneg (z := ((0x7FFFFFFE : Nat) : Int) - (amount : Int)) (by omega) (by omega)]
      by_cases hlt : money < (((0x7FFFFFFE : Nat) : Int) - (amount : Int)).toNat
      · rw [if_pos hlt, uint32_of_nonneg (by omega) (by omega)]
        omega
      · rw [if_neg hlt]
        omega
  · have hd : int32 amount = amount - 4294967296 := by
      unfold int32
      rw [if_neg hbig]
    rw [hd, if_pos (by omega), uint32_of_nonneg (by omega) (by omega)]
    by_cases hlt : (-((amount : Int) - 4294967296)).toNat < money
    · rw [if_pos hlt, uint32_of_nonneg (by omega) (by omega)]
      omega
    · rw [if_neg hlt]
      omega

namespace Guild

variable {g : Guild}

/-! ## Reading an allowance -/

/-- Nothing is different at this time: the members and their ranks, what is left to each of them today, and
the rest of the guild. -/
structure SameAt (now : Nat) (g g' : Guild) : Prop where
  rest : g' = { g with members := g'.members }
  members : ∀ guid, (g'.members.find? guid).map (fun m => (m.name, m.rankId)) =
    (g.members.find? guid).map fun m => (m.name, m.rankId)
  remaining : ∀ guid a, (g'.getMemberRemaining guid a now).1 = (g.getMemberRemaining guid a now).1

theorem SameAt.refl (now : Nat) (g : Guild) : SameAt now g g := ⟨rfl, fun _ => rfl, fun _ _ => rfl⟩

theorem getBankRemainingValue_again (g : Guild) (m : Member) (a b : Allowance) (now : Nat) :
    (g.getBankRemainingValue (g.getBankRemainingValue m a now).2 b now).1 =
      (g.getBankRemainingValue m b now).1 := by
  rcases getBankRemainingValue_cases g m a now with
    ⟨-, h⟩ | ⟨-, -, h⟩ | ⟨hr, hh, he, h⟩ | ⟨-, -, -, h⟩
  · rw [h]
  · rw [h]
  · by_cases hb : b = a
    · -- the renewed allowance is full, whether it is renewed a second time or not
      subst hb
      rw [h]
      unfold getBankRemainingValue
      have hrank : (m.setRemaining b { value := g.perDay m.rankId b, resetTime := now }).rankId =
          m.rankId := rfl
      rw [hrank, setRemaining_self, if_neg hr, if_neg hh]
      split
      · rfl
      · rfl
    · rw [h]
      unfold getBankRemainingValue
      rw [setRemaining_ne m _ hb]
      have hrank : (m.setRemaining a { value := g.perDay m.rankId a, resetTime := now }).rankId =
          m.rankId := rfl
      rw [hrank]
      repeat' split
      all_goals rfl
  · rw [h]

theorem sameAt_getMemberRemaining (g : Guild) (guid : Guid) (a : Allowance) (now : Nat) :
    SameAt now g (g.getMemberRemaining guid a now).2 := by
  unfold getMemberRemaining
  cases hm : g.members.find? guid with
  | none => exact SameAt.refl now g
  | some m =>
    refine ⟨rfl, fun k => ?_, fun k b => ?_⟩
    · change ((g.members.insert guid _).find? k).map _ = _
      rw [OrdMap.find?_insert]
      by_cases hk : guid = k
      · rw [if_pos hk, ← hk, hm]
        rcases getBankRemainingValue_member g m a now with h | h
        · rw [h]
        · rw [h]
          rfl
      · rw [if_neg hk]
    · unfold getMemberRemaining
      rw [OrdMap.find?_insert]
      by_cases hk : guid = k
      · subst hk
        rw [if_pos rfl, hm]
        exact getBankRemainingValue_again g m a b now
      · rw [if_neg hk]
        cases g.members.find? k with
        | none => rfl
        | some m' => rfl

theorem getMemberRemaining_frame (g : Guild) (guid : Guid) (a : Allowance) (now : Nat) :
    (g.getMemberRemaining guid a now).2.ranks = g.ranks ∧
      (g.getMemberRemaining guid a now).2.purchasedTabs = g.purchasedTabs ∧
      (g.getMemberRemaining guid a now).2.bankMoney = g.bankMoney := by
  rw [(sameAt_getMemberRemaining g guid a now).rest]
  exact ⟨rfl, rfl, rfl⟩

/-! ## Deposits and withdrawals -/

/-- A deposit that the handler admits keeps the sum, unless the 64 bits of the bank overflow. -/
theorem handleMemberDepositMoney_iff (g : Guild) {money amount : Nat}
    (hm : money ≤ maxMoneyAmount) (ha : amount ≤ money) :
    (g.handleMemberDepositMoney money amount).1.bankMoney + (g.handleMemberDepositMoney money amount).2
        = g.bankMoney + money ↔ g.purchasedTabs = 0 ∨ g.bankMoney + amount < 18446744073709551616 := by
  unfold handleMemberDepositMoney
  by_cases ht : g.purchasedTabs = 0
  · rw [if_pos ht]
    exact iff_of_true rfl (.inl ht)
  · rw [if_neg ht, modifyMoney_pay hm ha]
    dsimp only
    omega

def asksAllowance (g : Guild) (player : Guid) (amount : Nat) (repair : Bool) : Prop :=
  g.purchasedTabs ≠ 0 ∧ amount ≤ g.bankMoney ∧
    g.hasRankRight player (if repair then rightWithdrawRepair else rightWithdrawGold)

instance (g : Guild) (player : Guid) (amount : Nat) (repair : Bool) :
    Decidable (g.asksAllowance player amount repair) :=
  inferInstanceAs (Decidable (_ ∧ _ ∧ _))

/-- A withdrawal is refused before or after the allowance is read, or allowed, and then the bank pays. -/
theorem handleMemberWithdrawMoney_cases (g : Guild) (player : Guid) (money amount : Nat)
    (repair : Bool) (now : Nat) :
    (¬ g.asksAllowance player amount repair ∧
      g.handleMemberWithdrawMoney player money amount repair now = (g, money, false)) ∨
    (g.asksAllowance player amount repair ∧
      g.handleMemberWithdrawMoney player money amount repair now =
        ((g.getMemberRemaining player moneyTab now).2, money, false)) ∨
    (∃ g', g.asksAllowance player amount repair ∧
      amount ≤ (g.getMemberRemaining player moneyTab now).1 ∧
      (g.getMemberRemaining player moneyTab now).1 ≠ 0 ∧
      g.handleMemberWithdrawMoney player money amount repair now =
        (g', if repair then money else modifyMoney money (int32 amount), true) ∧
      g'.bankMoney = g.bankMoney - amount ∧
      g'.ranks = g.ranks ∧ g'.purchasedTabs = g.purchasedTabs ∧
      g'.members =
        if (g.getMemberRemaining player moneyTab now).1 < unlimited then
          ((g.getMemberRemaining player moneyTab now).2.decreaseBankRemainingValue player moneyTab
            amount).members else (g.getMemberRemaining player moneyTab now).2.members) := by
  obtain ⟨hranks, htabs, hbank⟩ := getMemberRemaining_frame g player moneyTab now
  unfold handleMemberWithdrawMoney
  by_cases ht : g.purchasedTabs = 0
  · rw [if_pos ht]
    exact .inl ⟨fun h => h.1 ht, rfl⟩
  · rw [if_neg ht]
    by_cases hb : g.bankMoney < amount
    · rw [if_pos hb]
      exact .inl ⟨fun h => absurd hb (not_lt.2 h.2.1), rfl⟩
    · rw [if_neg hb]
      by_cases hr : ¬ g.hasRankRight player (if repair then rightWithdrawRepair else rightWithdrawGold)
      · rw [if_pos hr]
        exact .inl ⟨fun h => hr h.2.2, rfl⟩
      · rw [if_neg hr]
        have hask : g.asksAllowance player amount repair := ⟨ht, not_lt.1 hb, not_not.1 hr⟩
        generalize g.getMemberRemaining player moneyTab now = r at hranks htabs hbank ⊢
        by_cases hz : r.1 = 0
        · rw [if_pos hz]
          exact .inr (.inl ⟨hask, rfl⟩)
        · rw [if_neg hz]
          by_cases hl : r.1 < amount
          · rw [if_pos hl]
            exact .inr (.inl ⟨hask, rfl⟩)
          · rw [if_neg hl]
            refine .inr (.inr ⟨_, hask, not_lt.1 hl, hz, rfl, ?_⟩)
            by_cases hu : r.1 < unlimited
            · rw [if_pos hu, if_pos hu]
              exact ⟨congrArg (· - amount) hbank, hranks, htabs, rfl⟩
            · rw [if_neg hu, if_neg hu]
              exact ⟨congrArg (· - amount) hbank, hranks, htabs, rfl⟩

/-- **The gold of a guild.** For a player under the gold cap and any amount: an admitted deposit keeps
the sum of the bank's and the player's money if and only if the guild has no tabs (nothing happens then)
or the bank does not overflow; a successful withdrawal keeps it if and only if the player stays under the
cap (or asks for `2 ^ 31 - 1`, for which the check of the cap wraps); a refused one changes nothing. -/
theorem gold_iff (g : Guild) {money amount : Nat} (hmoney : money ≤ maxMoneyAmount)
    (hamount : amount < 4294967296) (near : Bool) (player : Guid) (now : Nat) :
    ((g.handleGuildBankDepositMoney near money amount).1.bankMoney +
          (g.handleGuildBankDepositMoney near money amount).2 = g.bankMoney + money ↔
        (near ∧ amount ≠ 0 ∧ amount ≤ money →
          g.purchasedTabs = 0 ∨ g.bankMoney + amount < 18446744073709551616)) ∧
    ((g.handleGuildBankWithdrawMoney near player money amount now).2.2 = true →
      ((g.handleGuildBankWithdrawMoney near player money amount now).1.bankMoney +
          (g.handleGuildBankWithdrawMoney near player money amount now).2.1 = g.bankMoney + money ↔
        amount = 2147483647 ∨ money + amount ≤ maxMoneyAmount)) ∧
    ((g.handleGuildBankWithdrawMoney near player money amount now).2.2 = false →
      (g.handleGuildBankWithdrawMoney near player money amount now).2.1 = money ∧
        SameAt now g (g.handleGuildBankWithdrawMoney near player money amount now).1) := by
  refine ⟨?_, ?_⟩
  · unfold handleGuildBankDepositMoney
    by_cases hc : near ∧ amount ≠ 0 ∧ amount ≤ money
    · rw [if_pos hc, handleMemberDepositMoney_iff g hmoney hc.2.2]
      exact ⟨fun h _ => h, fun h => h hc⟩
    · rw [if_neg hc]
      exact iff_of_true rfl fun h => absurd h hc
  · unfold handleGuildBankWithdrawMoney
    by_cases hc : amount ≠ 0 ∧ near
    · rw [if_pos hc]
      rcases handleMemberWithdrawMoney_cases g player money amount false now with
        ⟨-, hw⟩ | ⟨-, hw⟩ | ⟨g', ⟨-, hb, -⟩, -, -, hw, hbank, -, -, -⟩
      · rw [hw]
        exact ⟨fun h => absurd h Bool.false_ne_true, fun _ => ⟨rfl, SameAt.refl now g⟩⟩
      · rw [hw]
        exact ⟨fun h => absurd h Bool.false_ne_true,
          fun _ => ⟨rfl, sameAt_getMemberRemaining g player moneyTab now⟩⟩
      · rw [hw]
        refine ⟨fun _ => ?_, fun h => absurd h.symm Bool.false_ne_true⟩
        have hearn := modifyMoney_earn_iff hmoney hamount
        dsimp only
        rw [if_neg Bool.false_ne_true]
        omega
    · rw [if_neg hc]
      exact ⟨fun h => absurd h Bool.false_ne_true, fun _ => ⟨rfl, SameAt.refl now g⟩⟩

def richGuild : Guild := { create 1 "Master" with purchasedTabs := 1, bankMoney := 4000000000 }

theorem richGuild_gold :
    (richGuild.handleGuildBankDepositMoney true 500 200).1.bankMoney +
        (richGuild.handleGuildBankDepositMoney true 500 200).2 = 4000000500 ∧
    (richGuild.handleGuildBankWithdrawMoney true 1 500 200 30000000).1.bankMoney +
        (richGuild.handleGuildBankWithdrawMoney true 1 500 200 30000000).2.1 = 4000000500 := by
  have hm : 500 ≤ maxMoneyAmount := by decide
  have ha : 200 < 4294967296 := by decide
  have h := gold_iff richGuild hm ha true 1 30000000
  exact ⟨h.1.2 fun _ => .inr (by decide), (h.2.1 (by decide)).2 (.inr (by decide))⟩

/-- The leader withdraws three hundred thousand gold: the bank pays them, and what the leader had is
gone as well. -/
theorem withdrawn_as_negative :
    (richGuild.handleGuildBankWithdrawMoney true 1 500 3000000000 30000000).2.2 = true ∧
    (richGuild.handleGuildBankWithdrawMoney true 1 500 3000000000 30000000).1.bankMoney +
        (richGuild.handleGuildBankWithdrawMoney true 1 500 3000000000 30000000).2.1 ≠
      richGuild.bankMoney + 500 := by
  decide

end Guild

end Axium.Guilds
