import Axium.Guilds.Gold
import Axium.Guilds.Ranks

/-!
# The daily limits of a guild bank

What is left to a member today is cached, with the time at which it was renewed. An edit of the limits of
a rank invalidates the cache of its members; a change of a member's rank does not, so that after it he
may have more left than his new rank allows in a day.

The state is the guild, the clock, and for each member and each allowance what he took since his most
recent change of rank, edit of the limit or daily reset (nothing, as long as none of these was seen).
-/

namespace Axium.Guilds

open Run OrdMap Option

variable (g : Guild) {rankId : Nat} {g' : Guild}

structure Day where
  guild : Guild
  now : Nat
  drawn : Guid → Allowance → Option Nat

/-- What happens to the allowances. `query` is any reading of an allowance: a packet that shows it, or a
withdrawal that is refused after it. -/
inductive DayEvent
  | withdrawMoney (player : Guid) (money amount : Nat) (repair : Bool)
  | withdrawItem (player : Guid) (tab : Fin 6)
  | query (player : Guid) (a : Allowance)
  | updateMemberRank (order : List Guid) (player : Guid) (name : String) (demote : Bool)
  | setLeader (order : List Guid) (player : Guid) (name : String)
  | changeMemberRank (guid : Guid) (newRank : Nat)
  | setRankInfo (player : Guid) (rankId rights moneyPerDay : Nat)
      (rightsAndSlots : Fin 6 → RightsAndSlots)
  | advance (minutes : Nat)

namespace Guild

variable (g : Guild)

def renews (guid : Guid) (a : Allowance) (now : Nat) : Bool :=
  (g.members.find? guid).any fun m =>
    decide (m.rankId ≠ guildMaster ∧ ¬ g.hidden m.rankId a ∧ (m.bankRemaining a).expired now)

def edits (player : Guid) (rankId : Nat) (a : Allowance) : Prop :=
  g.isLeader player ∧ (g.getRankInfo rankId).isSome ∧ (a.val < 6 → a.val < g.purchasedTabs)

instance (player : Guid) (rankId : Nat) (a : Allowance) : Decidable (g.edits player rankId a) :=
  inferInstanceAs (Decidable (_ ∧ _ ∧ (_ → _)))

end Guild

namespace Day

variable (s : Day)

def read (guid : Guid) (a : Allowance) : Day where
  guild := (s.guild.getMemberRemaining guid a s.now).2
  now := s.now
  drawn := fun k b =>
    if k = guid ∧ b = a ∧ s.guild.renews guid a s.now then some 0 else s.drawn k b

def take (guid : Guid) (a : Allowance) (n : Nat) (g : Guild) : Day where
  guild := g
  now := s.now
  drawn := fun k b => if k = guid ∧ b = a then (s.drawn k b).map (· + n) else s.drawn k b

def rerank (g : Guild) : Day where
  guild := g
  now := s.now
  drawn := fun k b => if g.playerRank k = s.guild.playerRank k then s.drawn k b else some 0

def step : DayEvent → Day
  | .withdrawMoney player money amount repair =>
    let w := s.guild.handleMemberWithdrawMoney player money amount repair s.now
    let r := if s.guild.asksAllowance player amount repair then s.read player moneyTab else s
    if w.2.2 then r.take player moneyTab amount w.1 else { r with guild := w.1 }
  | .withdrawItem player tab =>
    if tab.val < s.guild.purchasedTabs then
      let r := s.read player (tabAllowance tab)
      -- `HasWithdrawRights` reads, and `_DecreaseMemberRemainingSlots` reads again
      if (s.guild.getMemberRemaining player (tabAllowance tab) s.now).1 = 0 then r
      else
        (r.read player (tabAllowance tab)).take player (tabAllowance tab) 1
          (r.guild.decreaseMemberRemainingSlots player tab s.now)
    else s
  | .query player a => s.read player a
  | .updateMemberRank order player name demote =>
    s.rerank (s.guild.handleUpdateMemberRank order player name demote)
  | .setLeader order player name => s.rerank (s.guild.handleSetLeader order player name)
  | .changeMemberRank guid newRank => s.rerank (s.guild.changeMemberRank guid newRank)
  | .setRankInfo player rankId rights moneyPerDay rightsAndSlots =>
    { s with
      guild := s.guild.handleSetRankInfo player rankId rights moneyPerDay rightsAndSlots
      drawn := fun k a =>
        if s.guild.playerRank k = rankId ∧ s.guild.edits player rankId a then some 0
        else s.drawn k a }
  | .advance minutes => { s with now := s.now + minutes }

end Day

/-! ## One member -/

namespace Guild

variable {g g' : Guild} {m m' : Member} {a : Allowance} {o : Option Nat} {now : Nat}

/-- The rank has the same share of the allowance in both guilds. -/
def SameShare (g g' : Guild) (rankId : Nat) (a : Allowance) : Prop :=
  g'.perDay rankId a = g.perDay rankId a ∧ (g'.hidden rankId a ↔ g.hidden rankId a)

theorem SameShare.trans {g'' : Guild} (h : SameShare g g' rankId a) (h' : SameShare g' g'' rankId a) :
    SameShare g g'' rankId a := ⟨h'.1.trans h.1, h'.2.trans h.2⟩

theorem sameShare_of_ranks (hr : g'.ranks = g.ranks) (ht : g'.purchasedTabs = g.purchasedTabs)
    (rankId : Nat) (a : Allowance) : SameShare g g' rankId a := by
  unfold SameShare perDay hidden getRankBankTabSlotsPerDay getRankBankMoneyPerDay getRankBankTabRights getRankInfo
    getRanksSize
  rw [hr, ht]
  exact ⟨rfl, Iff.rfl⟩

/-- What is kept of a member with a limited allowance: what he took is within the limit, and with what is
left in the cache too, unless the cache is to be renewed or is for a tab that he does not see. -/
def Kept (g : Guild) (now : Nat) (m : Member) (a : Allowance) (o : Option Nat) : Prop :=
  ∀ n, o = some n → m.rankId ≠ guildMaster → g.perDay m.rankId a < unlimited →
    n ≤ g.perDay m.rankId a ∧ (g.hidden m.rankId a ∨ (m.bankRemaining a).expired now ∨
      n + (m.bankRemaining a).value ≤ g.perDay m.rankId a)

def Full (g : Guild) (m : Member) (a : Allowance) (o : Option Nat) : Prop :=
  ∀ n, o = some n → m.rankId ≠ guildMaster → g.perDay m.rankId a < unlimited →
    n + (m.bankRemaining a).value ≤ g.perDay m.rankId a

theorem Kept.congr (h : Kept g now m a o) (hr : m'.rankId = m.rankId)
    (hb : m'.bankRemaining a = m.bankRemaining a)
    (hs : SameShare g g' m.rankId a) : Kept g' now m' a o := by
  unfold Kept
  rw [hr, hb, hs.1, hs.2]
  exact h

/-- The count after a reading of the allowance of `m`. -/
def afterRead (g : Guild) (now : Nat) (m : Member) (a : Allowance) (o : Option Nat) : Option Nat :=
  if m.rankId ≠ guildMaster ∧ ¬ g.hidden m.rankId a ∧ (m.bankRemaining a).expired now then some 0
  else o

theorem Kept.read (h : Kept g now m a o) :
    Kept g now (g.getBankRemainingValue m a now).2 a (afterRead g now m a o) := by
  unfold afterRead
  rcases getBankRemainingValue_cases g m a now with
    ⟨hr, hv⟩ | ⟨-, hh, hv⟩ | ⟨hr, hh, he, hv⟩ | ⟨-, -, he, hv⟩
  · rw [hv, if_neg (fun hc => hc.1 hr)]
    exact h
  · rw [hv, if_neg (fun hc => hc.2.1 hh)]
    exact h
  · rw [hv, if_pos ⟨hr, hh, he⟩]
    intro n hn _ _
    cases hn
    refine ⟨Nat.zero_le _, .inr (.inr ?_)⟩
    rw [setRemaining_self, zero_add]
    exact le_refl _
  · rw [hv, if_neg (fun hc => he hc.2.2)]
    exact h

theorem Kept.read_full (h : Kept g now m a o) (h0 : (g.getBankRemainingValue m a now).1 ≠ 0) :
    Full g (g.getBankRemainingValue m a now).2 a (afterRead g now m a o) ∧
      ((g.getBankRemainingValue m a now).2.rankId ≠ guildMaster →
        (g.getBankRemainingValue m a now).1 = ((g.getBankRemainingValue m a now).2.bankRemaining a).value) := by
  unfold afterRead
  rcases getBankRemainingValue_cases g m a now with
    ⟨hr, hv⟩ | ⟨-, hh, hv⟩ | ⟨hr, hh, he, hv⟩ | ⟨-, hh, he, hv⟩
  · rw [hv]
    exact ⟨fun n _ hne => absurd hr hne, fun hne => absurd hr hne⟩
  · rw [hv] at h0
    exact absurd rfl h0
  · rw [hv, if_pos ⟨hr, hh, he⟩]
    refine ⟨fun n hn _ _ => ?_, fun _ => ?_⟩
    · cases hn
      rw [setRemaining_self, zero_add]
      exact le_refl _
    · rw [setRemaining_self]
  · rw [hv, if_neg (fun hc => he hc.2.2)]
    refine ⟨fun n hn hr hl => ?_, fun _ => rfl⟩
    exact ((h n hn hr hl).2.resolve_left hh).resolve_left he

theorem Full.take (h : Full g m a o) (now : Nat) {r amount : Nat}
    (hr : m.rankId ≠ guildMaster → r = (m.bankRemaining a).value) (ha : amount ≤ r) :
    (r < unlimited →
      Kept g now (m.setRemaining a
        { m.bankRemaining a with value := uint32 ((m.bankRemaining a).value - amount) }) a
        (o.map (· + amount))) ∧
    (¬ r < unlimited → Kept g now m a (o.map (· + amount))) := by
  have hunl : unlimited = 4294967295 := rfl
  refine ⟨fun hlt n hn hrank hlim => ?_, fun hge n hn hrank hlim => ?_⟩
  · obtain ⟨n0, hn0, rfl⟩ := map_eq_some_iff.1 hn
    have hfull := h n0 hn0 hrank hlim
    have hval := hr hrank
    change n0 + amount ≤ g.perDay m.rankId a ∧ _
    rw [setRemaining_self]
    have hsub : uint32 ((m.bankRemaining a).value - amount) = (m.bankRemaining a).value - amount := by
      rw [uint32_of_nonneg (by omega) (by omega)]
      omega
    refine ⟨by omega, .inr (.inr ?_)⟩
    change n0 + amount + uint32 ((m.bankRemaining a).value - amount) ≤ g.perDay m.rankId a
    omega
  · obtain ⟨n0, hn0, rfl⟩ := map_eq_some_iff.1 hn
    have hfull := h n0 hn0 hrank hlim
    omega

end Guild

/-! ## One event -/

namespace Day

open Guild

variable {s : Day}

/-- What a member drew and what is left to him are within the limit of his rank, for each allowance. -/
structure Good (s : Day) : Prop where
  clock : 1440 < s.now
  kept : s.guild.members.All fun guid m => ∀ a, Kept s.guild s.now m a (s.drawn guid a)

theorem find?_getMemberRemaining (guid k : Guid) (a : Allowance) (now : Nat) :
    (g.getMemberRemaining guid a now).2.members.find? k =
      if guid = k then (g.members.find? k).map fun m => (g.getBankRemainingValue m a now).2
      else g.members.find? k := by
  unfold getMemberRemaining
  by_cases hk : guid = k
  · subst hk
    rw [if_pos rfl]
    cases hm : g.members.find? guid with
    | none => exact hm
    | some m => exact find?_insert_self ..
  · rw [if_neg hk]
    cases g.members.find? guid with
    | none => rfl
    | some m => exact find?_insert_ne _ _ hk

variable {guid : Guid}

theorem drawn_read (s : Day) {m : Member} (hm : s.guild.members.find? guid = some m)
    (a : Allowance) : (s.read guid a).drawn guid a = afterRead s.guild s.now m a (s.drawn guid a) := by
  change (if guid = guid ∧ a = a ∧ s.guild.renews guid a s.now then some 0 else s.drawn guid a) = _
  unfold renews afterRead
  rw [hm]
  simp

theorem shares_read (s : Day) (guid : Guid) (a : Allowance) (rankId : Nat) (b : Allowance) :
    SameShare s.guild (s.read guid a).guild rankId b := by
  obtain ⟨hranks, htabs, -⟩ := getMemberRemaining_frame s.guild guid a s.now
  exact sameShare_of_ranks hranks htabs rankId b

theorem Good.read (h : Good s) (guid : Guid) (a : Allowance) : Good (s.read guid a) := by
  refine ⟨h.clock, fun k m' hm' b => ?_⟩
  change (s.guild.getMemberRemaining guid a s.now).2.members.find? k = some m' at hm'
  rw [find?_getMemberRemaining] at hm'
  by_cases hk : guid = k
  · subst hk
    rw [if_pos rfl] at hm'
    obtain ⟨m, hm, rfl⟩ := map_eq_some_iff.1 hm'
    have hrank : (s.guild.getBankRemainingValue m a s.now).2.rankId = m.rankId := by
      rcases getBankRemainingValue_member s.guild m a s.now with hv | hv
      · rw [hv]
      · rw [hv]
        rfl
    by_cases hb : b = a
    · subst hb
      rw [drawn_read s hm]
      exact (h.kept guid m hm b).read.congr rfl rfl (shares_read ..)
    · -- another allowance of the member is not touched
      have hd : (s.read guid a).drawn guid b = s.drawn guid b := if_neg fun hc => hb hc.2.1
      have hsame : (s.guild.getBankRemainingValue m a s.now).2.bankRemaining b = m.bankRemaining b := by
        rcases getBankRemainingValue_member s.guild m a s.now with hv | hv
        · rw [hv]
        · rw [hv, setRemaining_ne m _ hb]
      rw [hd]
      exact (h.kept guid m hm b).congr hrank hsame (shares_read ..)
  · rw [if_neg hk] at hm'
    have hd : (s.read guid a).drawn k b = s.drawn k b := if_neg fun hc => hk hc.1.symm
    rw [hd]
    exact (h.kept k m' hm' b).congr rfl rfl (shares_read ..)

theorem Good.read_take (h : Good s) {a : Allowance} {amount : Nat}
    (h0 : (s.guild.getMemberRemaining guid a s.now).1 ≠ 0)
    (ha : amount ≤ (s.guild.getMemberRemaining guid a s.now).1)
    (hranks : g'.ranks = s.guild.ranks) (htabs : g'.purchasedTabs = s.guild.purchasedTabs)
    (hmembers : g'.members =
      if (s.guild.getMemberRemaining guid a s.now).1 < unlimited then
        ((s.read guid a).guild.decreaseBankRemainingValue guid a amount).members
      else (s.read guid a).guild.members) : Good ((s.read guid a).take guid a amount g') := by
  have hread := h.read guid a
  obtain ⟨hreadRanks, hreadTabs, -⟩ := getMemberRemaining_frame s.guild guid a s.now
  have hlim : ∀ rankId b, SameShare (s.read guid a).guild g' rankId b :=
    sameShare_of_ranks (hranks.trans hreadRanks.symm) (htabs.trans hreadTabs.symm)
  refine ⟨h.clock, fun k m' hm' b => ?_⟩
  change g'.members.find? k = some m' at hm'
  rw [hmembers] at hm'
  by_cases hk : k = guid
  · subst hk
    -- the member, as the reading leaves him
    cases hm : s.guild.members.find? k with
    | none =>
      unfold getMemberRemaining at h0
      rw [hm] at h0
      exact absurd rfl h0
    | some m =>
      have hfind : (s.read k a).guild.members.find? k = some (s.guild.getBankRemainingValue m a s.now).2 := by
        change (s.guild.getMemberRemaining k a s.now).2.members.find? k = _
        rw [find?_getMemberRemaining, if_pos rfl, hm, map_some]
      have hval : (s.guild.getMemberRemaining k a s.now).1 = (s.guild.getBankRemainingValue m a s.now).1 := by
        unfold getMemberRemaining
        rw [hm]
      rw [hval] at h0 ha hm'
      obtain ⟨hfull, hshown⟩ := (h.kept k m hm a).read_full h0
      have htake := hfull.take s.now hshown ha
      have hdrawn := drawn_read s hm a
      by_cases hb : b = a
      · subst hb
        have hd : ((s.read k b).take k b amount g').drawn k b =
            (afterRead s.guild s.now m b (s.drawn k b)).map (· + amount) := by
          rw [← hdrawn]
          exact if_pos ⟨rfl, rfl⟩
        rw [hd]
        by_cases hu : (s.guild.getBankRemainingValue m b s.now).1 < unlimited
        · rw [if_pos hu] at hm'
          change ((s.read k b).guild.members.modify k _).find? k = some m' at hm'
          rw [find?_modify, if_pos rfl, hfind, map_some, some.injEq] at hm'
          subst hm'
          exact (htake.1 hu).congr rfl rfl (sameShare_of_ranks hranks htabs _ _)
        · rw [if_neg hu, hfind, some.injEq] at hm'
          subst hm'
          exact (htake.2 hu).congr rfl rfl (sameShare_of_ranks hranks htabs _ _)
      · have hd : ((s.read k a).take k a amount g').drawn k b = (s.read k a).drawn k b :=
          if_neg fun hc => hb hc.2
        rw [hd]
        by_cases hu : (s.guild.getBankRemainingValue m a s.now).1 < unlimited
        · rw [if_pos hu] at hm'
          change ((s.read k a).guild.members.modify k _).find? k = some m' at hm'
          rw [find?_modify, if_pos rfl, hfind, map_some, some.injEq] at hm'
          subst hm'
          exact (hread.kept k _ hfind b).congr rfl (setRemaining_ne _ _ hb) (hlim _ _)
        · rw [if_neg hu] at hm'
          exact (hread.kept k m' hm' b).congr rfl rfl (hlim _ _)
  · have hd : ((s.read guid a).take guid a amount g').drawn k b = (s.read guid a).drawn k b :=
      if_neg fun hc => hk hc.1
    rw [hd]
    have hm : (s.read guid a).guild.members.find? k = some m' := by
      by_cases hu : (s.guild.getMemberRemaining guid a s.now).1 < unlimited
      · rw [if_pos hu] at hm'
        change ((s.read guid a).guild.members.modify guid _).find? k = some m' at hm'
        rwa [find?_modify, if_neg (Ne.symm hk)] at hm'
      · rwa [if_neg hu] at hm'
    exact (hread.kept k m' hm b).congr rfl rfl (hlim _ _)

/-- What is left in the member's cache fits the rank: it is within the limit, or to be renewed first, or for a
tab that the rank does not see. -/
def Fits (g : Guild) (now : Nat) (m : Member) (rankId : Nat) : Prop :=
  ∀ a, rankId ≠ guildMaster → g.perDay rankId a < unlimited → ¬ g.hidden rankId a →
    (m.bankRemaining a).expired now ∨ (m.bankRemaining a).value ≤ g.perDay rankId a

theorem playerRank_of_find? {g : Guild} {m : Member}
    (h : g.members.find? guid = some m) : g.playerRank guid = m.rankId := by
  unfold playerRank
  rw [h, map_some, getD_some]

theorem Good.rerank (h : Good s) (hranks : g'.ranks = s.guild.ranks)
    (htabs : g'.purchasedTabs = s.guild.purchasedTabs)
    (hmembers : g'.members.All fun guid m' => ∃ m, s.guild.members.find? guid = some m ∧
      m'.bankRemaining = m.bankRemaining ∧
      (m'.rankId ≠ m.rankId → Fits s.guild s.now m m'.rankId)) : Good (s.rerank g') := by
  have hlim := sameShare_of_ranks hranks htabs
  refine ⟨h.clock, fun guid m' hm' a => ?_⟩
  change g'.members.find? guid = some m' at hm'
  obtain ⟨m, hm, hbank, hfits⟩ := hmembers guid m' hm'
  have hdrawn : (s.rerank g').drawn guid a = if m'.rankId = m.rankId then s.drawn guid a else some 0 := by
    change (if g'.playerRank guid = s.guild.playerRank guid then _ else _) = _
    rw [playerRank_of_find? hm, playerRank_of_find? hm']
  rw [hdrawn]
  by_cases hr : m'.rankId = m.rankId
  · rw [if_pos hr]
    exact (h.kept guid m hm a).congr hr (congrFun hbank a) (hlim _ _)
  · rw [if_neg hr]
    intro n hn hgm hlt
    cases hn
    change g'.perDay m'.rankId a < unlimited at hlt
    change 0 ≤ g'.perDay m'.rankId a ∧ (g'.hidden m'.rankId a ∨ _ ∨ 0 + _ ≤ g'.perDay m'.rankId a)
    rw [(hlim ..).1] at hlt
    rw [(hlim ..).1, (hlim ..).2, hbank, zero_add]
    exact ⟨Nat.zero_le _, or_iff_not_imp_left.2 (hfits hr a hgm hlt)⟩

/-! ## Limits -/

/-- What an edit of the rank does, by now to the allowances in `E`: their limits may be new, and the
members of the rank are to be renewed. -/
structure LimitEdit (rankId : Nat) (E : Allowance → Prop) (g g' : Guild) : Prop where
  tabs : g'.purchasedTabs = g.purchasedTabs
  limits : ∀ r a, r = rankId → E a ∨ SameShare g g' r a
  others : ∀ r a, r ≠ rankId → SameShare g g' r a
  members : g'.members.All fun guid m' => ∃ m, g.members.find? guid = some m ∧
    m'.rankId = m.rankId ∧ ∀ a, (m'.bankRemaining a).value = (m.bankRemaining a).value ∧
      ((m'.bankRemaining a).resetTime = (m.bankRemaining a).resetTime ∨
        (m'.bankRemaining a).resetTime = 0) ∧
      (m.rankId = rankId → E a → (m'.bankRemaining a).resetTime = 0)

namespace LimitEdit

variable {rankId : Nat} {E F : Allowance → Prop} {g g' g'' : Guild}

theorem trans (h : LimitEdit rankId E g g') (h' : LimitEdit rankId F g' g'') :
    LimitEdit rankId (fun a => E a ∨ F a) g g'' := by
  refine ⟨h'.tabs.trans h.tabs, fun r a hr => ?_, fun r a hr => ?_, fun guid m'' hm'' => ?_⟩
  · rcases h'.limits r a hr with hF | heq'
    · exact .inl (.inr hF)
    · rcases h.limits r a hr with hE | heq
      · exact .inl (.inl hE)
      · exact .inr (heq.trans heq')
  · exact (h.others r a hr).trans (h'.others r a hr)
  · obtain ⟨m', hm', hr', hb'⟩ := h'.members guid m'' hm''
    obtain ⟨m, hm, hr, hb⟩ := h.members guid m' hm'
    refine ⟨m, hm, hr'.trans hr, fun a => ⟨(hb' a).1.trans (hb a).1, ?_, fun hrank hEF => ?_⟩⟩
    · rcases (hb' a).2.1 with heq' | hz
      · rcases (hb a).2.1 with heq | hz
        · exact .inl (heq'.trans heq)
        · exact .inr (heq'.trans hz)
      · exact .inr hz
    · rcases hEF with hE | hF
      · rcases (hb' a).2.1 with heq' | hz
        · exact heq'.trans ((hb a).2.2 hrank hE)
        · exact hz
      · exact (hb' a).2.2 (hr.trans hrank) hF

theorem mono (h : LimitEdit rankId E g g') (hEF : ∀ a, E a ↔ F a) : LimitEdit rankId F g g' := by
  have : E = F := funext fun a => propext (hEF a)
  exact this ▸ h

theorem refl (rankId : Nat) (g : Guild) : LimitEdit rankId (fun _ => False) g g :=
  ⟨rfl, fun _ _ _ => .inr ⟨rfl, Iff.rfl⟩, fun _ _ _ => ⟨rfl, Iff.rfl⟩,
    fun _ m hm => ⟨m, hm, rfl, fun _ => ⟨rfl, .inl rfl, fun _ hf => hf.elim⟩⟩⟩

end LimitEdit

def rankPerDay (r : RankInfo) (a : Allowance) : Nat :=
  if h : a.val < 6 then r.getBankTabSlotsPerDay ⟨a, h⟩ else r.getBankMoneyPerDay

theorem perDay_eq (rankId : Nat) (a : Allowance) :
    g.perDay rankId a = if a.val < 6 ∧ g.purchasedTabs ≤ a.val then 0
      else ((g.getRankInfo rankId).map (rankPerDay · a)).getD 0 := by
  unfold perDay rankPerDay getRankBankTabSlotsPerDay getRankBankMoneyPerDay
  by_cases ha : a.val < 6
  · simp only [dif_pos ha]
    by_cases ht : a.val < g.purchasedTabs
    · rw [if_pos ht, if_neg (fun hc => absurd ht (not_lt.2 hc.2))]
    · rw [if_neg ht, if_pos ⟨ha, not_lt.1 ht⟩]
  · simp only [dif_neg ha]
    rw [if_neg (fun hc => ha hc.1)]

theorem limitEdit_modify {g g' : Guild} {f : RankInfo → RankInfo}
    {E : Allowance → Prop} {which : Allowance → Bool}
    (hranks : g'.ranks = g.ranks.modify rankId f) (htabs : g'.purchasedTabs = g.purchasedTabs)
    (hmembers : g'.members = (g.resetTimes rankId which).members)
    (hf : ∀ r a, ¬ E a → rankPerDay (f r) a = rankPerDay r a ∧ ∀ h : a.val < 6,
      ((f r).bankTabRightsAndSlots ⟨a, h⟩).rights = (r.bankTabRightsAndSlots ⟨a, h⟩).rights)
    (hE : ∀ a, E a → which a = true) :
    LimitEdit rankId E g g' := by
  have hinfo : ∀ r, g'.getRankInfo r = if r = rankId then (g.getRankInfo r).map f else g.getRankInfo r := by
    intro r
    rw [← getRankInfo_modify]
    unfold getRankInfo getRanksSize
    rw [hranks]
  refine ⟨htabs, fun r a hr => ?_, fun r a hr => ?_, ?_⟩
  · by_cases hEa : E a
    · exact .inl hEa
    · right
      unfold SameShare Guild.hidden getRankBankTabRights
      rw [perDay_eq, perDay_eq, hinfo, if_pos hr, htabs, map_map]
      have hcomp : (fun i : RankInfo => rankPerDay i a) ∘ f = fun i => rankPerDay i a :=
        funext fun i => (hf i a hEa).1
      refine ⟨by rw [hcomp], exists_congr fun h => ?_⟩
      have hrights : (fun i : RankInfo => (i.bankTabRightsAndSlots ⟨a, h⟩).rights) ∘ f =
          fun i => (i.bankTabRightsAndSlots ⟨a, h⟩).rights := funext fun i => (hf i a hEa).2 h
      rw [map_map, hrights]
  · unfold SameShare Guild.hidden getRankBankTabRights
    rw [perDay_eq, perDay_eq, hinfo, if_neg hr, htabs]
    exact ⟨rfl, Iff.rfl⟩
  · rw [hmembers]
    refine all_mapVal.2 fun guid m hm => ⟨m, hm, ?_⟩
    by_cases hr : m.rankId = rankId
    · rw [if_pos hr]
      refine ⟨rfl, fun a => ?_⟩
      cases hw : which a with
      | true => simp [hw]
      | false =>
        have hnE : ¬ E a := fun hEa => by
          rw [hE a hEa] at hw
          cases hw
        simp [hw, hnE]
    · rw [if_neg hr]
      exact ⟨rfl, fun a => ⟨rfl, .inl rfl, fun hc => absurd hc hr⟩⟩

theorem limitEdit_setRights (rankId rights : Nat) :
    LimitEdit rankId (fun _ => False) g
      { g with ranks := g.ranks.modify rankId (·.setRights rights) } := by
  have hid : (g.resetTimes rankId fun _ => false).members = g.members := by
    refine ext_find? fun guid => ?_
    unfold resetTimes
    rw [find?_mapVal]
    cases g.members.find? guid with
    | none => rfl
    | some m => simp
  exact limitEdit_modify rfl rfl hid.symm (fun _ _ _ => ⟨rfl, fun _ => rfl⟩) (fun _ hf => hf.elim)

theorem limitEdit_setRankBankMoneyPerDay {g : Guild}
    (hi : (g.getRankInfo rankId).isSome) (moneyPerDay : Nat) :
    LimitEdit rankId (· = moneyTab) g (g.setRankBankMoneyPerDay rankId moneyPerDay) := by
  obtain ⟨i, hi⟩ := isSome_iff_exists.1 hi
  unfold setRankBankMoneyPerDay
  rw [hi]
  refine limitEdit_modify rfl rfl rfl (fun r a ha => ?_) (fun a ha => decide_eq_true ha)
  have hlt : a.val < 6 := by
    have hne : a.val ≠ 6 := fun hc => ha (Fin.ext hc)
    omega
  refine ⟨?_, fun _ => rfl⟩
  unfold rankPerDay
  rw [dif_pos hlt, dif_pos hlt]
  rfl

theorem limitEdit_setRankBankTab {g : Guild}
    (hi : (g.getRankInfo rankId).isSome) (tab : Fin 6) (rightsAndSlots : RightsAndSlots) :
    LimitEdit rankId (fun a => a = tabAllowance tab ∧ tab.val < g.purchasedTabs) g
      (g.setRankBankTabRightsAndSlots rankId tab rightsAndSlots) := by
  obtain ⟨i, hi⟩ := isSome_iff_exists.1 hi
  unfold setRankBankTabRightsAndSlots
  by_cases ht : g.purchasedTabs ≤ tab.val
  · rw [if_pos ht]
    exact (LimitEdit.refl rankId g).mono fun a => ⟨False.elim, fun hc => absurd hc.2 (not_lt.2 ht)⟩
  · rw [if_neg ht, hi]
    refine limitEdit_modify rfl rfl rfl (fun r a ha => ?_) (fun a ha => ?_)
    · have hne : ∀ hlt : a.val < 6, (⟨a.val, hlt⟩ : Fin 6) ≠ tab := by
        intro hlt hc
        have hval : a.val = tab.val := congrArg Fin.val hc
        exact ha ⟨Fin.ext hval, not_le.1 ht⟩
      unfold rankPerDay RankInfo.getBankTabSlotsPerDay RankInfo.setBankTabSlotsAndRights
      refine ⟨?_, fun hlt => by simp only [if_neg (hne hlt)]⟩
      by_cases hlt : a.val < 6
      · rw [dif_pos hlt, dif_pos hlt]
        simp only [if_neg (hne hlt)]
      · rw [dif_neg hlt, dif_neg hlt]
        rfl
    · rw [decide_eq_true_iff]
      intro hc
      have := congrArg Fin.val (ha.1.symm.trans hc)
      simp only [tabAllowance, Fin.val_castSucc, moneyTab, Fin.val_last] at this
      omega

theorem isSome_modify {g : Guild} (hi : (g.getRankInfo rankId).isSome) {f : RankInfo → RankInfo} (hranks : g'.ranks = g.ranks.modify rankId f) :
    (g'.getRankInfo rankId).isSome := by
  have hinfo := getRankInfo_modify g rankId f rankId
  rw [if_pos rfl] at hinfo
  have heq : g'.getRankInfo rankId = (g.getRankInfo rankId).map f := by
    rw [← hinfo]
    unfold getRankInfo getRanksSize
    rw [hranks]
  rw [heq, isSome_map]
  exact hi

theorem isSome_setRankBankTab {g : Guild} (hi : (g.getRankInfo rankId).isSome)
    (tab : Fin 6) (rightsAndSlots : RightsAndSlots) :
    ((g.setRankBankTabRightsAndSlots rankId tab rightsAndSlots).getRankInfo rankId).isSome := by
  unfold setRankBankTabRightsAndSlots
  by_cases ht : g.purchasedTabs ≤ tab.val
  · rw [if_pos ht]
    exact hi
  · rw [if_neg ht]
    obtain ⟨i, hinfo⟩ := isSome_iff_exists.1 hi
    rw [hinfo]
    exact isSome_modify hi rfl

theorem limitEdit_tabs (rightsAndSlots : Fin 6 → RightsAndSlots) (l : List (Fin 6)) :
    ∀ {g : Guild}, (g.getRankInfo rankId).isSome →
    LimitEdit rankId (fun a => ∃ tab ∈ l, a = tabAllowance tab ∧ tab.val < g.purchasedTabs) g
      (l.foldl (fun g tab => g.setRankBankTabRightsAndSlots rankId tab (rightsAndSlots tab)) g) := by
  induction l with
  | nil =>
    intro g _
    exact (LimitEdit.refl rankId g).mono fun a => by simp
  | cons tab l ih =>
    intro g hi
    have hfirst := limitEdit_setRankBankTab hi tab (rightsAndSlots tab)
    have hrest := ih (isSome_setRankBankTab hi tab (rightsAndSlots tab))
    refine (hfirst.trans hrest).mono fun a => ?_
    rw [hfirst.tabs]
    simp

theorem limitEdit_handleSetRankInfo (player : Guid) (rankId rights moneyPerDay : Nat)
    (rightsAndSlots : Fin 6 → RightsAndSlots) :
    LimitEdit rankId (g.edits player rankId) g
      (g.handleSetRankInfo player rankId rights moneyPerDay rightsAndSlots) := by
  unfold handleSetRankInfo
  by_cases hl : g.isLeader player
  · rw [if_pos hl]
    cases hi : g.getRankInfo rankId with
    | none =>
      refine (LimitEdit.refl rankId g).mono fun a => ⟨False.elim, fun hc => ?_⟩
      rw [Guild.edits, hi] at hc
      cases hc.2.1
    | some i =>
      have hsome : (g.getRankInfo rankId).isSome := by
        rw [hi]
        rfl
      have h₁ := limitEdit_setRights g rankId rights
      have hsome₁ : (({ g with ranks := g.ranks.modify rankId (·.setRights rights) } :
          Guild).getRankInfo rankId).isSome :=
        isSome_modify hsome rfl
      have h₂ := limitEdit_setRankBankMoneyPerDay hsome₁ moneyPerDay
      have hsome₂ : ((setRankBankMoneyPerDay
          { g with ranks := g.ranks.modify rankId (·.setRights rights) } rankId
          moneyPerDay).getRankInfo rankId).isSome := by
        obtain ⟨j, hj⟩ := isSome_iff_exists.1 hsome₁
        unfold setRankBankMoneyPerDay
        rw [hj]
        exact isSome_modify hsome₁ rfl
      have h₃ := limitEdit_tabs rightsAndSlots (List.finRange 6) hsome₂
      refine ((h₁.trans h₂).trans h₃).mono fun a => ?_
      rw [h₂.tabs]
      -- the money and the tabs that the guild has
      constructor
      · rintro ((hf | rfl) | ⟨tab, -, rfl, ht⟩)
        · exact hf.elim
        · exact ⟨hl, hsome, fun hlt => absurd hlt (by decide)⟩
        · exact ⟨hl, hsome, fun _ => ht⟩
      · rintro ⟨-, -, ht⟩
        by_cases ha : a.val < 6
        · exact .inr ⟨⟨a, ha⟩, List.mem_finRange _, rfl, ht ha⟩
        · refine .inl (.inr (Fin.ext ?_))
          simp only [moneyTab, Fin.val_last]
          omega
  · rw [if_neg hl]
    exact (LimitEdit.refl rankId g).mono fun a => ⟨False.elim, fun hc => absurd hc.1 hl⟩

theorem Good.limitEdit (h : Good s) {E : Allowance → Prop}
    (he : LimitEdit rankId E s.guild g') {drawn : Guid → Allowance → Option Nat}
    (hedited : ∀ k a, s.guild.playerRank k = rankId → E a → drawn k a = some 0)
    (hrest : ∀ k a, ¬ (s.guild.playerRank k = rankId ∧ E a) → drawn k a = s.drawn k a) :
    Good { s with guild := g', drawn := drawn } := by
  refine ⟨h.clock, fun k m' hm' a => ?_⟩
  obtain ⟨m, hm, hrank, hbank⟩ := he.members k m' hm'
  obtain ⟨hvalue, hreset, hzero⟩ := hbank a
  have hclock := h.clock
  have hexpired : (m'.bankRemaining a).resetTime = 0 → (m'.bankRemaining a).expired s.now := by
    intro hz
    unfold RemainingValue.expired
    rw [hz]
    exact hclock
  have hplayer := playerRank_of_find? hm
  change Kept g' s.now m' a (drawn k a)
  by_cases hEa : s.guild.playerRank k = rankId ∧ E a
  · rw [hedited k a hEa.1 hEa.2]
    intro n hn _ _
    cases hn
    exact ⟨Nat.zero_le _, .inr (.inl (hexpired (hzero (hplayer ▸ hEa.1) hEa.2)))⟩
  · rw [hrest k a hEa]
    have hlim : SameShare s.guild g' m.rankId a := by
      by_cases hr : m.rankId = rankId
      · exact (he.limits m.rankId a hr).resolve_left fun hc => hEa ⟨hplayer.trans hr, hc⟩
      · exact he.others m.rankId a hr
    rcases hreset with hsame | hz
    · refine (h.kept k m hm a).congr hrank ?_ hlim
      cases hm'a : m'.bankRemaining a
      cases hma : m.bankRemaining a
      rw [hm'a, hma] at hvalue hsame
      exact congr (congrArg RemainingValue.mk hvalue) hsame
    · intro n hn hgm hlt
      rw [hrank] at hgm hlt ⊢
      rw [hlim.1] at hlt ⊢
      exact ⟨(h.kept k m hm a n hn hgm hlt).1, .inr (.inl (hexpired hz))⟩

/-! ## Runs -/

/-- Whoever gets another rank (a byte) has no more left in his cache than the new rank allows, or it is
to be renewed, or the rank does not see the tab. -/
def KeepsLimit (s : Day) : DayEvent → Prop
  | .updateMemberRank order player name demote =>
    ∀ guid m, s.guild.getMember order name = some guid → s.guild.members.find? guid = some m →
      s.guild.MayMove player guid demote → Fits s.guild s.now m (s.guild.movedTo guid demote % 256)
  | .setLeader order player name =>
    ∀ m, s.guild.members.find? player = some m → s.guild.isLeader player →
      (s.guild.getMember order name).isSome → m.rankId ≠ officer → Fits s.guild s.now m officer
  | .changeMemberRank guid newRank =>
    ∀ m, s.guild.members.find? guid = some m → newRank ≤ s.guild.getLowestRankId →
      newRank ≠ m.rankId → Fits s.guild s.now m newRank
  | _ => True

/-- What `Good.rerank` asks of the members. -/
def Reranked (now : Nat) (g g' : Guild) : Prop :=
  g'.members.All fun guid m' => ∃ m, g.members.find? guid = some m ∧
    m'.bankRemaining = m.bankRemaining ∧ (m'.rankId ≠ m.rankId → Fits g now m m'.rankId)

theorem Reranked.refl (now : Nat) (g : Guild) : Reranked now g g :=
  fun _ m hm => ⟨m, hm, rfl, fun hc => absurd rfl hc⟩

theorem reranked_changeRank {g : Guild} {now : Nat} {newRank : Nat}
    (hfits : ∀ m, g.members.find? guid = some m → newRank % 256 ≠ m.rankId →
      Fits g now m (newRank % 256)) : Reranked now g (g.changeRank guid newRank) := by
  refine all_modify.2 fun k m hm => ?_
  dsimp only
  by_cases hk : guid = k
  · rw [if_pos hk]
    exact ⟨m, hm, rfl, hfits m (hk ▸ hm)⟩
  · rw [if_neg hk]
    exact ⟨m, hm, rfl, fun hc => absurd rfl hc⟩

theorem reranked_handleUpdateMemberRank {order : List Guid} {player : Guid} {name : String}
    {demote : Bool} (hc : KeepsLimit s (.updateMemberRank order player name demote)) :
    Reranked s.now s.guild (s.guild.handleUpdateMemberRank order player name demote) := by
  rcases handleUpdateMemberRank_cases s.guild order player name demote with
    hsame | ⟨guid, hget, hmay, hset⟩
  · rw [hsame]
    exact Reranked.refl s.now s.guild
  · rw [hset]
    exact reranked_changeRank fun m hm _ => hc guid m hget hm hmay

theorem reranked_changeMemberRank {newRank : Nat} (hc : KeepsLimit s (.changeMemberRank guid newRank)) :
    Reranked s.now s.guild (s.guild.changeMemberRank guid newRank) := by
  unfold changeMemberRank
  by_cases hp : newRank ≤ s.guild.getLowestRankId ∧ s.guild.members.contains guid
  · rw [if_pos hp]
    have hbyte : newRank % 256 = newRank := by
      have hlow : s.guild.getLowestRankId < 256 := Nat.mod_lt _ (by decide)
      exact Nat.mod_eq_of_lt (lt_of_le_of_lt hp.1 hlow)
    refine reranked_changeRank fun m hm hne => ?_
    rw [hbyte] at hne ⊢
    exact hc m hm hp.1 hne
  · rw [if_neg hp]
    exact Reranked.refl s.now s.guild

theorem reranked_handleSetLeader {order : List Guid} {player : Guid} {name : String}
    (hc : KeepsLimit s (.setLeader order player name)) :
    Reranked s.now s.guild (s.guild.handleSetLeader order player name) := by
  rcases handleSetLeader_cases s.guild order player name with
    ⟨-, hsame⟩ | ⟨guid, hl, hget, hset⟩
  · rw [hsame]
    exact Reranked.refl s.now s.guild
  · rw [hset]
    have hsome : (s.guild.getMember order name).isSome := by
      rw [hget]
      rfl
    intro k m' hm'
    change ((s.guild.members.modify guid _).modify player _).find? k = some m' at hm'
    rw [find?_modify, find?_modify] at hm'
    by_cases hp : player = k
    · subst hp
      rw [if_pos rfl] at hm'
      obtain ⟨m₁, hm₁, rfl⟩ := map_eq_some_iff.1 hm'
      by_cases hg : guid = player
      · rw [if_pos hg] at hm₁
        obtain ⟨m, hm, rfl⟩ := map_eq_some_iff.1 hm₁
        exact ⟨m, hm, rfl, fun hne => hc m hm hl hsome (Ne.symm hne)⟩
      · rw [if_neg hg] at hm₁
        exact ⟨m₁, hm₁, rfl, fun hne => hc m₁ hm₁ hl hsome (Ne.symm hne)⟩
    · rw [if_neg hp] at hm'
      by_cases hg : guid = k
      · rw [if_pos hg] at hm'
        obtain ⟨m, hm, rfl⟩ := map_eq_some_iff.1 hm'
        exact ⟨m, hm, rfl, fun _ _ hne => absurd rfl hne⟩
      · rw [if_neg hg] at hm'
        exact ⟨m', hm', rfl, fun hne => absurd rfl hne⟩

theorem ranks_handleSetLeader (order : List Guid) (player : Guid) (name : String) :
    (g.handleSetLeader order player name).ranks = g.ranks ∧
      (g.handleSetLeader order player name).purchasedTabs = g.purchasedTabs := by
  rcases handleSetLeader_cases g order player name with ⟨-, hv⟩ | ⟨guid, -, -, hv⟩
  · rw [hv]
    exact ⟨rfl, rfl⟩
  · rw [hv]
    exact ⟨rfl, rfl⟩

theorem ranks_handleUpdateMemberRank (order : List Guid) (player : Guid) (name : String)
    (demote : Bool) :
    (g.handleUpdateMemberRank order player name demote).ranks = g.ranks ∧
      (g.handleUpdateMemberRank order player name demote).purchasedTabs = g.purchasedTabs := by
  rcases handleUpdateMemberRank_cases g order player name demote with hv | ⟨guid, -, -, hv⟩
  · rw [hv]
    exact ⟨rfl, rfl⟩
  · rw [hv]
    exact ⟨rfl, rfl⟩

theorem ranks_changeMemberRank (guid : Guid) (newRank : Nat) :
    (g.changeMemberRank guid newRank).ranks = g.ranks ∧
      (g.changeMemberRank guid newRank).purchasedTabs = g.purchasedTabs := by
  unfold changeMemberRank
  by_cases hp : newRank ≤ g.getLowestRankId ∧ g.members.contains guid
  · rw [if_pos hp]
    exact ⟨rfl, rfl⟩
  · rw [if_neg hp]
    exact ⟨rfl, rfl⟩

theorem Good.withdrawItem (h : Good s) (player : Guid) (tab : Fin 6)
    (h0 : (s.guild.getMemberRemaining player (tabAllowance tab) s.now).1 ≠ 0) :
    Good (((s.read player (tabAllowance tab)).read player (tabAllowance tab)).take player (tabAllowance tab) 1
      ((s.read player (tabAllowance tab)).guild.decreaseMemberRemainingSlots player tab s.now)) := by
  have hread := h.read player (tabAllowance tab)
  have hagain := (sameAt_getMemberRemaining s.guild player (tabAllowance tab) s.now).remaining
    player (tabAllowance tab)
  obtain ⟨hranks, htabs, -⟩ := getMemberRemaining_frame (s.read player (tabAllowance tab)).guild
    player (tabAllowance tab) s.now
  have h0' : ((s.read player (tabAllowance tab)).guild.getMemberRemaining player (tabAllowance tab)
      s.now).1 ≠ 0 := fun hz => h0 (hagain.symm.trans hz)
  refine hread.read_take h0' (Nat.one_le_iff_ne_zero.2 h0') ?_ ?_ ?_
  · unfold decreaseMemberRemainingSlots
    dsimp only
    split
    · exact hranks
    · exact hranks
  · unfold decreaseMemberRemainingSlots
    dsimp only
    split
    · exact htabs
    · exact htabs
  · unfold decreaseMemberRemainingSlots
    by_cases hu : ((s.read player (tabAllowance tab)).guild.getMemberRemaining player
        (tabAllowance tab) s.now).1 < unlimited
    · rw [if_pos ⟨h0', hu⟩]
      exact (if_pos hu).symm
    · rw [if_neg (fun hc => hu hc.2)]
      exact (if_neg hu).symm

/-- A request that keeps the limit leaves every member within his. -/
theorem Good.step (h : Good s) {e : DayEvent} (hc : KeepsLimit s e) : Good (s.step e) := by
  cases e with
  | withdrawMoney player money amount repair =>
    unfold Day.step
    dsimp only
    rcases handleMemberWithdrawMoney_cases s.guild player money amount repair s.now with
      ⟨hask, hw⟩ | ⟨hask, hw⟩ | ⟨g', hask, hle, h0, hw, -, hranks, htabs, hmembers⟩
    · rw [hw, if_neg hask]
      exact h
    · rw [hw, if_pos hask]
      exact h.read player moneyTab
    · rw [hw, if_pos hask]
      exact h.read_take h0 hle hranks htabs hmembers
  | withdrawItem player tab =>
    unfold Day.step
    dsimp only
    by_cases ht : tab.val < s.guild.purchasedTabs
    · rw [if_pos ht]
      by_cases hz : (s.guild.getMemberRemaining player (tabAllowance tab) s.now).1 = 0
      · rw [if_pos hz]
        exact h.read player (tabAllowance tab)
      · rw [if_neg hz]
        exact h.withdrawItem player tab hz
    · rw [if_neg ht]
      exact h
  | query player a => exact h.read player a
  | updateMemberRank order player name demote =>
    obtain ⟨hranks, htabs⟩ := ranks_handleUpdateMemberRank s.guild order player name demote
    exact h.rerank hranks htabs (reranked_handleUpdateMemberRank hc)
  | setLeader order player name =>
    obtain ⟨hranks, htabs⟩ := ranks_handleSetLeader s.guild order player name
    exact h.rerank hranks htabs (reranked_handleSetLeader hc)
  | changeMemberRank guid newRank =>
    obtain ⟨hranks, htabs⟩ := ranks_changeMemberRank s.guild guid newRank
    exact h.rerank hranks htabs (reranked_changeMemberRank hc)
  | setRankInfo player rankId rights moneyPerDay rightsAndSlots =>
    refine h.limitEdit
      (limitEdit_handleSetRankInfo s.guild player rankId rights moneyPerDay rightsAndSlots) ?_ ?_
    · exact fun k a hk ha => if_pos ⟨hk, ha⟩
    · exact fun k a hno => if_neg hno
  | advance minutes =>
    refine ⟨lt_of_lt_of_le h.clock (Nat.le_add_right ..), fun guid m hm a n hn hgm hlt => ?_⟩
    obtain ⟨hle, hrest⟩ := h.kept guid m hm a n hn hgm hlt
    refine ⟨hle, hrest.imp_right fun hrest => hrest.imp_left fun he => ?_⟩
    exact lt_of_lt_of_le he (Nat.le_add_right ..)

def start (g : Guild) (now : Nat) : Day where
  guild := g
  now := now
  drawn := fun _ _ => none

/-- What every member with a limited allowance took since his last change of rank, edit of the limit or
daily reset is within the limit of the rank that he holds. -/
def WithinLimit (s : Day) : Prop :=
  s.guild.members.All fun guid m => ∀ a n, s.drawn guid a = some n → m.rankId ≠ guildMaster →
    s.guild.perDay m.rankId a < unlimited → n ≤ s.guild.perDay m.rankId a

/-- **Daily limits.** From any guild, at any time after the first day of the clock: in every run of
withdrawals, changes of rank, edits of the limits and advances of the clock in which nobody gets a rank
that allows less than what is left in his cache, what was taken is within the limits in every state. -/
theorem withdrawn_within_limit (g : Guild) {now : Nat} (hnow : 1440 < now) {es : List DayEvent}
    (hes : AllSteps step KeepsLimit (start g now) es) {pre post : List DayEvent}
    (hpre : es = pre ++ post) : WithinLimit (run step (start g now) pre) := by
  have hstart : Good (start g now) := by
    refine ⟨hnow, fun guid m _ a n hn => ?_⟩
    cases hn
  subst hpre
  have hgood : Good (run step (start g now) pre) := hes.reaches (fun s e h hc => h.step hc) hstart
  exact fun guid m hm a n hn hgm hlt => (hgood.kept guid m hm a n hn hgm hlt).1

def paidGuild : Guild where
  leaderGuid := 1
  bankMoney := 100000
  purchasedTabs := 1
  ranks := [{ rankId := 0, rights := rightAll }, { rankId := 1, rights := rightAll, bankMoneyPerDay := 1000 },
    { rankId := 2, rights := rightChat, bankMoneyPerDay := 10 }, { rankId := 3, rights := rightChat },
    { rankId := 4, rights := rightChat }]
  members :=
    (OrdMap.empty.insert 1 { name := "Master", rankId := 0 }).insert 2 { name := "Officer", rankId := 1 }

def demotedLater : List DayEvent :=
  [.withdrawMoney 2 0 900 false, .advance 2880, .updateMemberRank [1, 2] 1 "Officer" true,
    .withdrawMoney 2 0 10 false]

theorem demotedLater_within :
    WithinLimit (run step (start paidGuild 30000000) demotedLater) ∧
    (run step (start paidGuild 30000000) demotedLater).drawn 2 moneyTab = some 10 := by
  have hes : AllSteps step KeepsLimit (start paidGuild 30000000) demotedLater := by
    refine ⟨trivial, trivial, fun guid m hget hm _ => ?_, trivial, trivial⟩
    obtain rfl : 2 = guid := some.inj hget
    obtain rfl : _ = m := some.inj hm
    unfold Fits
    decide
  refine ⟨withdrawn_within_limit paidGuild (by decide) hes (List.append_nil _).symm, ?_⟩
  decide

/-- The officer's share for today is cached when he is demoted, and he takes half of it then: fifty times
what his new rank allows in a day. -/
theorem demoted_with_his_share :
    ¬ WithinLimit (run step (start paidGuild 30000000)
      [.query 2 moneyTab, .updateMemberRank [1, 2] 1 "Officer" true, .withdrawMoney 2 0 500 false]) := by
  intro h
  have hle := h 2 _ rfl moneyTab 500 rfl (by decide) (by decide)
  exact absurd hle (by decide)

end Day

end Axium.Guilds
