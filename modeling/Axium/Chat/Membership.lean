import Axium.Chat.Channel

/-!
# Membership and ownership of a channel

On a channel with ownership there is one owner as long as there is anybody, and the players map holds who
joined, unless an owner with other members on the channel kicks himself (he is put back as an owner without
a guid), or somebody joins an empty channel that still names its last owner
(**`channel_sound_iff`**). Who has no power over a channel gets none (**`powerless_run`**).
-/

namespace Axium.Chat

open Run Function OrdMap Option

variable {env : Env} {c : Channel} {w : World} {p q : Guid}

/-! ## The invariant -/

/-- One player is the owner: he has the guid and the flags, and nobody else has the flag. -/
def Channel.Owned (c : Channel) : Prop :=
  ∃ info, c.players.find? c.ownerGUID = some info ∧ info.flags.owner = true ∧
    info.flags.moderator = true ∧
    ∀ p info', c.players.find? p = some info' → info'.flags.owner = true → p = c.ownerGUID

structure Channel.Proper (c : Channel) : Prop where
  keys : ∀ p info, c.players.find? p = some info → info.player = p
  banned : ∀ p, c.isOn p = true → c.isBanned p = false

/-- The players map holds who joined, nobody on the channel is banned, and an owned channel with players has one
owner. -/
structure Sound (w : World) : Prop where
  members : ∀ p, w.channel.isOn p = w.joined p
  proper : w.channel.Proper
  owned : w.channel.ownership = true → w.channel.players.isEmpty = false → w.channel.Owned

namespace Channel

/-! ## The entries -/

theorem isOn_iff : c.isOn p = true ↔ ∃ info, c.players.find? p = some info := isSome_iff_exists

theorem isEmpty_false_of_isOn (h : c.isOn p = true) : c.players.isEmpty = false := by
  obtain ⟨info, h⟩ := isOn_iff.1 h
  exact isEmpty_of_find? h

theorem entryAt_of_find? {info : PlayerInfo} (h : c.players.find? p = some info) : c.entryAt p = info := by
  rw [entryAt, h]
  rfl

theorem find?_modifyAt (c : Channel) (p q : Guid) (f : PlayerInfo → PlayerInfo) :
    (c.modifyAt p f).players.find? q = if p = q then some (f (c.entryAt p)) else c.players.find? q :=
  find?_insert ..

@[simp] theorem banned_modifyAt (c : Channel) (p : Guid) (f : PlayerInfo → PlayerInfo) :
    (c.modifyAt p f).banned = c.banned := rfl

@[simp] theorem ownerGUID_modifyAt (c : Channel) (p : Guid) (f : PlayerInfo → PlayerInfo) :
    (c.modifyAt p f).ownerGUID = c.ownerGUID := rfl

theorem isOn_modifyAt (c : Channel) (p q : Guid) (f : PlayerInfo → PlayerInfo) :
    (c.modifyAt p f).isOn q = (decide (p = q) || c.isOn q) := by
  unfold isOn
  rw [find?_modifyAt]
  by_cases h : p = q
  · rw [if_pos h, decide_eq_true h]
    rfl
  · rw [if_neg h, decide_eq_false h, Bool.false_or]

def guidAt (c : Channel) (p : Guid) : Option Guid := (c.players.find? p).map (·.player)

theorem isOn_eq_guidAt (c : Channel) (p : Guid) : c.isOn p = (c.guidAt p).isSome := isSome_map.symm

variable {f : PlayerInfo → PlayerInfo}

theorem guidAt_modifyAt (hp : c.isOn p = true)
    (hf : ∀ i, (f i).player = i.player) : (c.modifyAt p f).guidAt = c.guidAt := by
  funext q
  unfold guidAt
  rw [find?_modifyAt]
  split
  · rename_i heq
    subst heq
    obtain ⟨info, hp⟩ := isOn_iff.1 hp
    rw [entryAt_of_find? hp, hp, map_some, map_some, hf]
  · rfl

theorem guidAt_modify (c : Channel) (p : Guid)
    (hf : ∀ i, (f i).player = i.player) : (c.setPlayers (c.players.modify p f)).guidAt = c.guidAt := by
  funext q
  unfold guidAt setPlayers
  rw [find?_modify]
  split
  · rw [map_map]
    exact congrArg (Option.map · _) (funext hf)
  · rfl

theorem Proper.of_guidAt (h : c.Proper) {c' : Channel} (hguid : c'.guidAt = c.guidAt)
    (hbanned : ∀ q, c'.isBanned q = true → c.isBanned q = true) : c'.Proper where
  keys q info hq := by
    have hsame := congrFun hguid q
    unfold guidAt at hsame
    rw [hq] at hsame
    obtain ⟨info', hq', heq⟩ := map_eq_some_iff.1 hsame.symm
    exact heq.symm.trans (h.keys q info' hq')
  banned q hq := by
    rw [isOn_eq_guidAt, hguid, ← isOn_eq_guidAt] at hq
    exact Bool.eq_false_iff.2 fun hb => absurd (hbanned q hb) (by simp [h.banned q hq])

/-! ## A new owner -/

def FlagsOwner (c : Channel) : Prop :=
  ∀ p info, c.players.find? p = some info → info.flags.owner = true → p = c.ownerGUID ∧ c.ownerGUID ≠ 0

theorem setOwner_eq (hp : p ≠ 0) : ∃ c₁ : Channel, c.setOwner p =
      ((c₁.setOwnerGUID p).modifyAt p (.setModerator true)).modifyAt p (.setOwner true) ∧
    c₁.guidAt = c.guidAt ∧ c₁.banned = c.banned ∧ c₁.ownership = c.ownership ∧
    (c.FlagsOwner → ∀ q info, c₁.players.find? q = some info → info.flags.owner = false) := by
  refine ⟨_, if_pos hp, ?_, ?_, ?_, ?_⟩
  · split
    · exact guidAt_modify c _ fun _ => rfl
    · rfl
  · split <;> rfl
  · split <;> rfl
  · intro hflags q info hq
    by_contra howner
    rw [Bool.not_eq_false] at howner
    by_cases hzero : c.ownerGUID ≠ 0
    · rw [if_pos hzero] at hq
      unfold setPlayers at hq
      dsimp only at hq
      rw [find?_modify] at hq
      split at hq
      · obtain ⟨info', -, rfl⟩ := map_eq_some_iff.1 hq
        cases howner
      · rename_i hne
        exact hne (hflags q info hq howner).1.symm
    · rw [if_neg hzero] at hq
      exact hzero (hflags q info hq howner).2

theorem guidAt_setOwner (hp : p ≠ 0) (hon : c.isOn p = true) : (c.setOwner p).guidAt = c.guidAt := by
  obtain ⟨c₁, heq, hguid, -⟩ := setOwner_eq (c := c) hp
  have hon₁ : (c₁.setOwnerGUID p).isOn p = true := by
    rw [isOn_eq_guidAt] at hon ⊢
    exact (congrArg Option.isSome (congrFun hguid p)).trans hon
  have hon₂ : ((c₁.setOwnerGUID p).modifyAt p (.setModerator true)).isOn p = true := by
    rw [isOn_modifyAt, hon₁, Bool.or_true]
  rw [heq, guidAt_modifyAt hon₂ (f := .setOwner true) fun _ => rfl,
    guidAt_modifyAt hon₁ (f := .setModerator true) fun _ => rfl]
  exact hguid

theorem frame_setOwner (hp : p ≠ 0) :
    (c.setOwner p).banned = c.banned ∧ (c.setOwner p).ownership = c.ownership := by
  obtain ⟨c₁, heq, -, hbanned, hownership, -⟩ := setOwner_eq (c := c) hp
  rw [heq]
  exact ⟨hbanned, hownership⟩

theorem owned_setOwner (hp : p ≠ 0) (hflags : c.FlagsOwner) : (c.setOwner p).Owned := by
  obtain ⟨c₁, heq, -, -, -, hnone⟩ := setOwner_eq (c := c) hp
  have hnone := hnone hflags
  rw [heq]
  refine ⟨_, (find?_modifyAt ..).trans (if_pos rfl), rfl, ?_, fun q info hq howner => ?_⟩
  · change (entryAt _ p).flags.moderator = true
    rw [entryAt_of_find? ((find?_modifyAt ..).trans (if_pos rfl))]
    rfl
  · by_contra hne
    rw [find?_modifyAt, if_neg fun h => hne h.symm, find?_modifyAt, if_neg fun h => hne h.symm] at hq
    exact absurd howner (by simp [hnone q info hq])

theorem Owned.isOn (h : c.Owned) : c.isOn c.ownerGUID = true := by
  obtain ⟨info, h, -⟩ := h
  exact isOn_iff.2 ⟨info, h⟩

theorem Owned.flagsOwner (h : c.Owned) (hzero : c.isOn 0 = false) : c.FlagsOwner := by
  obtain ⟨info, howner, -, -, hunique⟩ := h
  refine fun q info' hq hflag => ⟨hunique q info' hq hflag, fun hguid => ?_⟩
  rw [hguid] at howner
  exact absurd (isOn_iff.2 ⟨info, howner⟩) (by simp [hzero])

theorem FlagsOwner.modifyAt (h : c.FlagsOwner)
    (hf : ∀ i, (f i).flags.owner = i.flags.owner) : (c.modifyAt p f).FlagsOwner := by
  intro q info hq hflag
  rw [find?_modifyAt] at hq
  split at hq
  · rename_i heq
    subst heq
    rw [← some.inj hq, hf] at hflag
    cases hp : c.players.find? p with
    | none =>
      rw [entryAt, hp] at hflag
      cases hflag
    | some info' =>
      rw [entryAt_of_find? hp] at hflag
      exact h p info' hp hflag
  · exact h q info hq hflag

theorem Owned.modifyAt (h : c.Owned) (hp : c.isOn p = true) (howner : ∀ i, (f i).flags.owner = i.flags.owner)
    (hmoderator : p = c.ownerGUID → ∀ i, i.flags.moderator = true → (f i).flags.moderator = true) :
    (c.modifyAt p f).Owned := by
  obtain ⟨info, hfind, hflag, hmod, hunique⟩ := h
  have hall : ∀ q info', (c.modifyAt p f).players.find? q = some info' → info'.flags.owner = true →
      q = c.ownerGUID := by
    intro q info' hq hflag'
    rw [find?_modifyAt] at hq
    split at hq
    · rename_i heq
      subst heq
      obtain ⟨info'', hp⟩ := isOn_iff.1 hp
      rw [← some.inj hq, howner, entryAt_of_find? hp] at hflag'
      exact hunique p info'' hp hflag'
    · exact hunique q info' hq hflag'
  by_cases heq : p = c.ownerGUID
  · refine ⟨f info, ?_, (howner info).trans hflag, hmoderator heq info hmod, hall⟩
    rw [ownerGUID_modifyAt, find?_modifyAt, if_pos heq, heq, entryAt_of_find? hfind]
  · refine ⟨info, ?_, hflag, hmod, hall⟩
    rw [ownerGUID_modifyAt, find?_modifyAt, if_neg heq, hfind]

def withoutMember (c : Channel) (p : Guid) : Channel := c.setPlayers (c.players.erase p)

theorem Owned.withoutMember (h : c.Owned) (hp : p ≠ c.ownerGUID) : (c.withoutMember p).Owned := by
  obtain ⟨info, hfind, hflag, hmod, hunique⟩ := h
  refine ⟨info, (find?_erase_ne _ hp).trans hfind, hflag, hmod, fun q info' hq => ?_⟩
  refine hunique q info' ?_
  have hq : (c.players.erase p).find? q = some info' := hq
  rw [find?_erase] at hq
  split at hq
  · cases hq
  · exact hq

theorem Owned.flags_withoutMember (h : c.Owned) : (c.withoutMember c.ownerGUID).FlagsOwner := by
  obtain ⟨-, -, -, -, hunique⟩ := h
  intro q info hq hflag
  have hq : (c.players.erase c.ownerGUID).find? q = some info := hq
  rw [find?_erase] at hq
  split at hq
  · cases hq
  · rename_i hne
    exact absurd (hunique q info hq hflag).symm hne

theorem Proper.withoutMember (h : c.Proper) (p : Guid) : (c.withoutMember p).Proper := by
  have hfind : ∀ q info, (c.players.erase p).find? q = some info → c.players.find? q = some info := by
    intro q info hq
    rw [find?_erase] at hq
    split at hq
    · cases hq
    · exact hq
  refine ⟨fun q info hq => h.keys q info (hfind q info hq), fun q hq => ?_⟩
  obtain ⟨info, hq⟩ := isOn_iff.1 hq
  exact h.banned q (isOn_iff.2 ⟨info, hfind q info hq⟩)

theorem isOn_withoutMember (c : Channel) (p q : Guid) :
    (c.withoutMember p).isOn q = (!decide (p = q) && c.isOn q) := by
  unfold isOn withoutMember setPlayers
  rw [find?_erase]
  by_cases h : p = q
  · rw [if_pos h, decide_eq_true h]
    rfl
  · rw [if_neg h, decide_eq_false h]
    rfl

theorem guidAt_promote (hp : p ≠ 0) (hon : c.isOn p = true) :
    ((c.modifyAt p (.setModerator true)).setOwner p).guidAt = c.guidAt := by
  have hon' : (c.modifyAt p (.setModerator true)).isOn p = true := by
    rw [isOn_modifyAt, hon, Bool.or_true]
  rw [guidAt_setOwner hp hon']
  exact guidAt_modifyAt hon (f := .setModerator true) fun _ => rfl

theorem isOn_promote (hp : p ≠ 0) (hon : c.isOn p = true) (q : Guid) :
    ((c.modifyAt p (.setModerator true)).setOwner p).isOn q = c.isOn q := by
  rw [isOn_eq_guidAt, isOn_eq_guidAt, guidAt_promote hp hon]

theorem Proper.promote (h : c.Proper) (hp : p ≠ 0) (hon : c.isOn p = true) :
    ((c.modifyAt p (.setModerator true)).setOwner p).Proper := by
  refine h.of_guidAt (guidAt_promote hp hon) fun q hq => ?_
  unfold isBanned at hq
  rw [(frame_setOwner hp).1] at hq
  exact hq

theorem owned_promote (hp : p ≠ 0) (hflags : c.FlagsOwner) :
    ((c.modifyAt p (.setModerator true)).setOwner p).Owned :=
  owned_setOwner hp (hflags.modifyAt (f := .setModerator true) fun _ => rfl)

/-! ## The requests -/

/-- `Join` up to the new owner. -/
def withMember (c : Channel) (p : Guid) : Channel := c.setPlayers (c.players.insert p { player := p })

theorem join_eq {pass : String} (h : c.Admits p pass) : c.join p pass =
    if c.ownerGUID = 0 && c.ownership then ((c.withMember p).setOwner p).modifyAt p (.setModerator true)
    else c.withMember p := if_pos h

theorem isOn_withMember (c : Channel) (p q : Guid) : (c.withMember p).isOn q = (decide (p = q) || c.isOn q) :=
  isOn_modifyAt c p q fun _ => { player := p }

theorem Proper.withMember (h : c.Proper) (hban : c.isBanned p = false) : (c.withMember p).Proper where
  keys q info hq := by
    have hq := (find?_insert c.players p q { player := p }).symm.trans hq
    split at hq
    · rename_i heq
      rw [← some.inj hq, ← heq]
    · exact h.keys q info hq
  banned q hq := by
    rw [isOn_withMember] at hq
    by_cases heq : p = q
    · exact heq ▸ hban
    · rw [decide_eq_false heq] at hq
      exact h.banned q hq

theorem flags_withMember {info : PlayerInfo} (hq : (c.withMember p).players.find? q = some info)
    (hflag : info.flags.owner = true) : q ≠ p ∧ c.players.find? q = some info := by
  have hq := (find?_insert c.players p q { player := p }).symm.trans hq
  split at hq
  · rw [← some.inj hq] at hflag
    cases hflag
  · rename_i hne
    exact ⟨fun h => hne h.symm, hq⟩

theorem Owned.withMember (h : c.Owned) (hp : c.isOn p = false) : (c.withMember p).Owned := by
  obtain ⟨info, hfind, hflag, hmod, hunique⟩ := h
  have hne : p ≠ c.ownerGUID := by
    rintro rfl
    exact absurd (isOn_iff.2 ⟨info, hfind⟩) (by simp [hp])
  exact ⟨info, (find?_insert_ne _ _ hne).trans hfind, hflag, hmod, fun q info' hq hflag' =>
    hunique q info' (flags_withMember hq hflag').2 hflag'⟩

theorem not_owned_withMember (hempty : c.players.isEmpty = true) : ¬ (c.withMember p).Owned := by
  rintro ⟨info, hfind, hflag, -⟩
  have hfind := (flags_withMember hfind hflag).2
  rw [isEmpty_iff.1 hempty] at hfind
  cases hfind

/-- `KickOrBan` without the ban. -/
def kicked (c : Channel) (good bad : Guid) : Channel :=
  if c.ownerGUID = bad && c.ownership && !(c.withoutMember bad).players.isEmpty then
    ((c.withoutMember bad).modifyAt good (.setModerator true)).setOwner good
  else c.withoutMember bad

theorem setOwner_setBanned (c : Channel) (b : OrdMap Guid Unit) (p : Guid) :
    (c.setBanned b).setOwner p = (c.setOwner p).setBanned b := by
  by_cases hp : p ≠ 0 <;> by_cases hguid : c.ownerGUID ≠ 0 <;>
    simp [setOwner, setBanned, setPlayers, setOwnerGUID, modifyAt, entryAt, hp, hguid]

theorem kicked_setBanned (c : Channel) (b : OrdMap Guid Unit) (good bad : Guid) :
    (c.setBanned b).kicked good bad = (c.kicked good bad).setBanned b := by
  unfold kicked
  rw [apply_ite (setBanned · b), ← setOwner_setBanned]
  rfl

variable {badname : String}

theorem kickOrBan_eq {good bad : Guid} {ban : Bool}
    (h : c.kicks env good badname = some bad) : c.kickOrBan env good badname ban =
      if ban && !c.isBanned bad then (c.kicked good bad).setBanned (c.banned.insert bad ())
      else c.kicked good bad := by
  unfold kickOrBan
  rw [h, ← kicked_setBanned]
  dsimp only
  split <;> rfl

theorem banned_kicked (c : Channel) {good : Guid} (bad : Guid) (hgood : good ≠ 0) :
    (c.kicked good bad).banned = c.banned := by
  unfold kicked
  split
  · exact (frame_setOwner hgood).1
  · rfl

theorem kicks_spec {good bad : Guid} (h : c.kicks env good badname = some bad) :
    env.findPlayerByName badname = some bad ∧ c.isOn good = true ∧ c.isOn bad = true := by
  unfold kicks at h
  split at h
  · cases h
  rename_i hgood
  split at h
  · cases h
  cases hname : env.findPlayerByName badname with
  | none =>
    rw [hname] at h
    cases h
  | some bad' =>
    rw [hname] at h
    dsimp only at h
    split at h
    · cases h
    rename_i hbad
    split at h
    · cases h
    obtain rfl := some.inj h
    exact ⟨rfl, Bool.not_eq_false _ ▸ hgood, Bool.not_eq_false _ ▸ hbad⟩

theorem kicks_self {good : Guid} (hname : env.findPlayerByName badname = some good)
    (hon : c.isOn good = true) (hmod : (c.entryAt good).flags.moderator = true)
    (howner : good = c.ownerGUID) : c.kicks env good badname = some good := by
  unfold kicks
  rw [if_neg (by simp [hon]), if_neg (by simp [hmod]), hname]
  dsimp only
  rw [if_neg (by simp [hon]), if_neg (by simp [← howner])]

end Channel

namespace World

open Channel

theorem sound_join_iff (h : Sound w) (hzero : w.joined 0 = false) (hp : p ≠ 0) {pass : String} :
    Sound (w.step (env, .join p pass)) ↔ (w.channel.Admits p pass → w.channel.ownership = true →
      w.channel.players.isEmpty = true → w.channel.ownerGUID = 0) := by
  by_cases hadmits : w.channel.Admits p pass
  swap
  · have hsame : w.step (env, .join p pass) = w := by
      change World.mk (w.channel.join p pass) _ = w
      rw [show w.channel.join p pass = w.channel from if_neg hadmits]
      exact congrArg (World.mk _) (if_neg hadmits)
    rw [hsame]
    exact ⟨fun _ h => absurd h hadmits, fun _ => h⟩
  have hjoined : (w.step (env, .join p pass)).joined = update w.joined p true := if_pos hadmits
  have hmembers : ∀ q, (w.channel.withMember p).isOn q = update w.joined p true q := by
    intro q
    rw [isOn_withMember, h.members]
    by_cases hq : p = q
    · rw [hq, update_self, decide_eq_true rfl, Bool.true_or]
    · rw [update_of_ne fun h => hq h.symm, decide_eq_false hq, Bool.false_or]
  have hon : (w.channel.withMember p).isOn p = true := by
    rw [hmembers, update_self]
  have hproper : (w.channel.withMember p).Proper := h.proper.withMember hadmits.2.1
  have hchannel := join_eq hadmits
  by_cases hnew : w.channel.ownerGUID = 0 ∧ w.channel.ownership = true
  · -- the channel has no owner: the player becomes it
    rw [if_pos (by simp [hnew])] at hchannel
    refine ⟨fun _ _ _ _ => hnew.1, fun _ => ?_⟩
    have hflags : (w.channel.withMember p).FlagsOwner := by
      intro q info hq hflag
      have hmem := (flags_withMember hq hflag).2
      have hempty := isEmpty_false_of_isOn (isOn_iff.2 ⟨info, hmem⟩)
      have howner := (h.owned hnew.2 hempty).isOn
      rw [hnew.1, h.members, hzero] at howner
      cases howner
    have hguid := guidAt_setOwner hp hon
    have hon' : ((w.channel.withMember p).setOwner p).isOn p = true := by
      rw [isOn_eq_guidAt, hguid, ← isOn_eq_guidAt]
      exact hon
    have hguid' : (w.step (env, .join p pass)).channel.guidAt = (w.channel.withMember p).guidAt := by
      refine (congrArg guidAt hchannel).trans ?_
      rw [guidAt_modifyAt hon' (f := .setModerator true) fun _ => rfl, hguid]
    refine ⟨fun q => ?_, hproper.of_guidAt hguid' fun q hq => ?_, fun _ _ => ?_⟩
    · rw [isOn_eq_guidAt, hguid', ← isOn_eq_guidAt, hmembers, hjoined]
    · have hq : (w.channel.join p pass).isBanned q = true := hq
      rw [hchannel] at hq
      unfold isBanned at hq
      rw [banned_modifyAt, (frame_setOwner hp).1] at hq
      exact hq
    · change (w.channel.join p pass).Owned
      rw [hchannel]
      exact (owned_setOwner hp hflags).modifyAt (f := .setModerator true) hon' (fun _ => rfl) fun _ _ _ => rfl
  · rw [if_neg (by simpa using hnew)] at hchannel
    have hstep : (w.step (env, .join p pass)).channel = w.channel.withMember p := hchannel
    have hmembers' : ∀ q, (w.step (env, .join p pass)).channel.isOn q =
        (w.step (env, .join p pass)).joined q := by
      intro q
      rw [hstep, hjoined, hmembers]
    constructor
    · intro hsound _ hownership hempty
      have howned := hsound.owned (by rw [hstep]; exact hownership)
        (by rw [hstep]; exact isEmpty_false_of_isOn hon)
      rw [hstep] at howned
      exact absurd howned (not_owned_withMember hempty)
    · intro hcond
      refine ⟨hmembers', by rw [hstep]; exact hproper, fun hownership _ => ?_⟩
      rw [hstep] at hownership ⊢
      cases hempty : w.channel.players.isEmpty with
      | true => exact absurd ⟨hcond hadmits hownership hempty, hownership⟩ hnew
      | false => exact (h.owned hownership hempty).withMember hadmits.1

theorem members_withoutMember (h : Sound w) (p q : Guid) :
    (w.channel.withoutMember p).isOn q = update w.joined p false q := by
  rw [isOn_withoutMember, h.members]
  by_cases hq : p = q
  · rw [hq, update_self, decide_eq_true rfl]
    rfl
  · rw [update_of_ne fun h => hq h.symm, decide_eq_false hq]
    rfl

theorem sound_withoutMember (h : Sound w) (p : Guid)
    (howner : w.channel.ownership = true → (w.channel.withoutMember p).players.isEmpty = false →
      p ≠ w.channel.ownerGUID) : Sound ⟨w.channel.withoutMember p, update w.joined p false⟩ := by
  refine ⟨members_withoutMember h p, h.proper.withoutMember p, fun hownership hrest => ?_⟩
  obtain ⟨first, hfirst⟩ := first?_of_not_isEmpty hrest
  obtain ⟨info, hfirst⟩ := mem_keys.1 (first?_mem hfirst)
  have hon : (w.channel.withoutMember p).isOn first = true := isOn_iff.2 ⟨info, hfirst⟩
  rw [isOn_withoutMember, Bool.and_eq_true] at hon
  exact (h.owned hownership (isEmpty_false_of_isOn hon.2)).withoutMember (howner hownership hrest)

theorem sound_promote (h : Sound w) (hzero : w.joined 0 = false) (howned : w.channel.Owned) {new : Guid}
    (hon : (w.channel.withoutMember w.channel.ownerGUID).isOn new = true) :
    Sound ⟨((w.channel.withoutMember w.channel.ownerGUID).modifyAt new (.setModerator true)).setOwner new,
      update w.joined w.channel.ownerGUID false⟩ := by
  have hnew : new ≠ 0 := by
    rintro rfl
    rw [isOn_withoutMember, h.members, hzero, Bool.and_false] at hon
    cases hon
  refine ⟨fun q => ?_, ?_, fun _ _ => owned_promote hnew howned.flags_withoutMember⟩
  · exact (isOn_promote hnew hon q).trans (members_withoutMember h _ q)
  · exact (h.proper.withoutMember _).promote hnew hon

theorem sound_leave (h : Sound w) (hzero : w.joined 0 = false) : Sound (w.step (env, .leave p)) := by
  by_cases hon : w.channel.isOn p = true
  swap
  · have hoff : w.channel.isOn p = false := Bool.not_eq_true _ ▸ hon
    have hsame : w.step (env, .leave p) = w := by
      change World.mk (w.channel.leave p) (update w.joined p false) = w
      rw [show w.channel.leave p = w.channel from if_neg hon, update_eq_self_iff.2]
      exact ((h.members p).symm.trans hoff).symm
    rw [hsame]
    exact h
  have hleave : w.channel.leave p = _ := if_pos hon
  have hwithout : w.channel.setPlayers (w.channel.players.erase p) = w.channel.withoutMember p := rfl
  have hownership : (w.channel.withoutMember p).ownership = w.channel.ownership := rfl
  dsimp only at hleave
  rw [hwithout, hownership] at hleave
  obtain ⟨info, hfind⟩ := isOn_iff.1 hon
  change Sound ⟨w.channel.leave p, update w.joined p false⟩
  cases hfirst : (w.channel.withoutMember p).players.first? with
  | none =>
    rw [hfirst] at hleave
    rw [hleave]
    refine sound_withoutMember h p fun _ hrest => ?_
    obtain ⟨first, hsome⟩ := first?_of_not_isEmpty hrest
    rw [hsome] at hfirst
    cases hfirst
  | some first =>
    rw [hfirst] at hleave
    obtain ⟨info', hfirst⟩ := mem_keys.1 (first?_mem hfirst)
    have hkey : ((w.channel.withoutMember p).entryAt first).player = first := by
      rw [entryAt_of_find? hfirst]
      exact (h.proper.withoutMember p).keys first info' hfirst
    dsimp only at hleave
    rw [hkey, entryAt_of_find? hfind] at hleave
    by_cases hnew : info.flags.owner = true ∧ w.channel.ownership = true
    · rw [if_pos (by simp [hnew])] at hleave
      have howned := h.owned hnew.2 (isEmpty_false_of_isOn hon)
      obtain rfl : p = w.channel.ownerGUID := by
        obtain ⟨-, -, -, -, hunique⟩ := howned
        exact hunique p info hfind hnew.1
      rw [hleave]
      exact sound_promote h hzero howned (isOn_iff.2 ⟨info', hfirst⟩)
    · rw [if_neg (by simpa using hnew)] at hleave
      rw [hleave]
      refine sound_withoutMember h p fun hownership _ heq => hnew ⟨?_, hownership⟩
      obtain ⟨info'', hfind', hflag, -⟩ := h.owned hownership (isEmpty_false_of_isOn hon)
      rw [← heq, hfind] at hfind'
      exact some.inj hfind' ▸ hflag

theorem sound_setBanned_iff {joined : Guid → Bool} (hoff : joined p = false) :
    Sound ⟨c.setBanned (c.banned.insert p ()), joined⟩ ↔ Sound ⟨c, joined⟩ := by
  have hbanned : ∀ q, (c.setBanned (c.banned.insert p ())).isBanned q = (decide (p = q) || c.isBanned q) := by
    intro q
    unfold isBanned setBanned
    rw [find?_insert]
    by_cases h : p = q
    · rw [if_pos h, decide_eq_true h]
      rfl
    · rw [if_neg h, decide_eq_false h, Bool.false_or]
  constructor
  · intro h
    refine ⟨h.members, ⟨h.proper.keys, fun q hq => ?_⟩, h.owned⟩
    have hfree := h.proper.banned q hq
    rw [hbanned, Bool.or_eq_false_iff] at hfree
    exact hfree.2
  · intro h
    refine ⟨h.members, ⟨h.proper.keys, fun q hq => ?_⟩, h.owned⟩
    have hq : c.isOn q = true := hq
    rw [hbanned, h.proper.banned q hq, Bool.or_false, decide_eq_false_iff_not]
    rintro rfl
    exact absurd ((h.members p).symm.trans hq) (by simp [hoff])

theorem nowJoined_kickOrBan (w : World) (env : Env) (good : Guid) (badname : String) (ban : Bool) :
    w.nowJoined env (.kickOrBan good badname ban) = match w.channel.kicks env good badname with
      | none => w.joined
      | some bad => update w.joined bad false := rfl

theorem sound_kickOrBan_iff (h : Sound w) (hzero : w.joined 0 = false) {good : Guid} {badname : String}
    {ban : Bool} : Sound (w.step (env, .kickOrBan good badname ban)) ↔
      (env.findPlayerByName badname = some good → w.channel.isOn good = true →
        good = w.channel.ownerGUID → w.channel.ownership = true →
        (w.channel.withoutMember good).players.isEmpty = true) := by
  change Sound ⟨w.channel.kickOrBan env good badname ban, w.nowJoined env (.kickOrBan good badname ban)⟩ ↔ _
  cases hkicks : w.channel.kicks env good badname with
  | none =>
    have hsame : w.channel.kickOrBan env good badname ban = w.channel ∧
        w.nowJoined env (.kickOrBan good badname ban) = w.joined := by
      rw [nowJoined_kickOrBan]
      unfold kickOrBan
      rw [hkicks]
      exact ⟨rfl, rfl⟩
    rw [hsame.1, hsame.2]
    refine ⟨fun _ hname hon howner hownership => ?_, fun _ => h⟩
    obtain ⟨info, hfind, -, hmod, -⟩ := h.owned hownership (isEmpty_false_of_isOn hon)
    rw [← howner] at hfind
    rw [kicks_self hname hon (entryAt_of_find? hfind ▸ hmod) howner] at hkicks
    cases hkicks
  | some bad =>
    obtain ⟨hname, hgood, hbad⟩ := kicks_spec hkicks
    have hnonzero : good ≠ 0 := by
      rintro rfl
      rw [h.members, hzero] at hgood
      cases hgood
    have hjoined : w.nowJoined env (.kickOrBan good badname ban) = update w.joined bad false := by
      rw [nowJoined_kickOrBan, hkicks]
    rw [hjoined, kickOrBan_eq hkicks]
    have hban : Sound ⟨if ban && !w.channel.isBanned bad then (w.channel.kicked good bad).setBanned
        (w.channel.banned.insert bad ()) else w.channel.kicked good bad, update w.joined bad false⟩ ↔
        Sound ⟨w.channel.kicked good bad, update w.joined bad false⟩ := by
      split
      · rw [← banned_kicked w.channel bad hnonzero]
        exact sound_setBanned_iff (update_self ..)
      · rfl
    rw [hban]
    by_cases hover : w.channel.ownerGUID = bad ∧ w.channel.ownership = true ∧
        (w.channel.withoutMember bad).players.isEmpty = false
    · obtain ⟨rfl, hownership, hrest⟩ := hover
      have howned := h.owned hownership (isEmpty_false_of_isOn hbad)
      rw [kicked, if_pos (by simp [hownership, hrest])]
      by_cases hself : good = w.channel.ownerGUID
      · -- the entry is made again, without a guid
        constructor
        · intro hsound
          have hon := hsound.members good
          have hback : ((w.channel.withoutMember w.channel.ownerGUID).modifyAt good
              (.setModerator true)).isOn good = true := by
            rw [isOn_modifyAt, decide_eq_true rfl, Bool.true_or]
          rw [isOn_eq_guidAt, guidAt_setOwner hnonzero hback, ← isOn_eq_guidAt, hback, hself] at hon
          exact absurd (hon.trans (update_self ..)) (by decide)
        · intro hcond
          have hempty := hcond (hself ▸ hname) hgood hself hownership
          rw [hself, hrest] at hempty
          cases hempty
      · refine ⟨fun _ hname' => absurd (some.inj (hname'.symm.trans hname)) hself, fun _ => ?_⟩
        refine sound_promote h hzero howned ?_
        rw [isOn_withoutMember, hgood, decide_eq_false fun h => hself h.symm]
        rfl
    · rw [kicked, if_neg (by simpa using hover)]
      refine ⟨fun _ hname' _ howner hownership => ?_, fun _ => ?_⟩
      · obtain rfl : good = bad := some.inj (hname'.symm.trans hname)
        by_contra hrest
        exact hover ⟨howner.symm, hownership, Bool.not_eq_true _ ▸ hrest⟩
      · exact sound_withoutMember h bad fun hownership hrest heq => hover ⟨heq.symm, hownership, hrest⟩

theorem sound_of_guidAt (h : Sound w) {c : Channel} (hguid : c.guidAt = w.channel.guidAt)
    (hbanned : ∀ q, c.isBanned q = true → w.channel.isBanned q = true)
    (hownership : c.ownership = w.channel.ownership) (howned : w.channel.Owned → c.Owned) :
    Sound ⟨c, w.joined⟩ := by
  have hon : ∀ q, c.isOn q = w.channel.isOn q := by
    intro q
    rw [isOn_eq_guidAt, hguid, isOn_eq_guidAt]
  refine ⟨fun q => (hon q).trans (h.members q), h.proper.of_guidAt hguid hbanned, fun hset hsome => ?_⟩
  obtain ⟨first, hfirst⟩ := first?_of_not_isEmpty hsome
  obtain ⟨info, hfirst⟩ := mem_keys.1 (first?_mem hfirst)
  have hmember : w.channel.isOn first = true := (hon first).symm.trans (isOn_iff.2 ⟨info, hfirst⟩)
  exact howned (h.owned (hownership.symm.trans hset) (isEmpty_false_of_isOn hmember))

theorem sound_unBan (h : Sound w) {good : Guid} {badname : String} :
    Sound (w.step (env, .unBan good badname)) := by
  change Sound ⟨w.channel.unBan env good badname, w.joined⟩
  have hcases : w.channel.unBan env good badname = w.channel ∨
      ∃ bad, w.channel.unBan env good badname = w.channel.setBanned (w.channel.banned.erase bad) := by
    unfold unBan
    split
    · exact .inl rfl
    split
    · exact .inl rfl
    cases env.findPlayerByName badname with
    | none => exact .inl rfl
    | some bad =>
      dsimp only
      split
      · exact .inl rfl
      · exact .inr ⟨bad, rfl⟩
  obtain hsame | ⟨bad, hsome⟩ := hcases
  · rw [hsame]
    exact h
  · rw [hsome]
    refine sound_of_guidAt h rfl (fun q hq => ?_) rfl id
    have hq : ((w.channel.banned.erase bad).find? q).isSome = true := hq
    rw [find?_erase] at hq
    split at hq
    · cases hq
    · exact hq

theorem sound_modifyAt (h : Sound w) (hon : w.channel.isOn p = true) {f : PlayerInfo → PlayerInfo}
    (hguid : ∀ i, (f i).player = i.player) (howner : ∀ i, (f i).flags.owner = i.flags.owner)
    (hmoderator : p = w.channel.ownerGUID → ∀ i, i.flags.moderator = true → (f i).flags.moderator = true) :
    Sound ⟨w.channel.modifyAt p f, w.joined⟩ :=
  sound_of_guidAt h (guidAt_modifyAt hon hguid) (fun _ hq => hq) rfl fun howned =>
    howned.modifyAt hon howner hmoderator

theorem sound_setMode (h : Sound w) {p2n : String} {mod set : Bool} :
    Sound (w.step (env, .setMode p p2n mod set)) := by
  change Sound ⟨w.channel.setMode env p p2n mod set, w.joined⟩
  unfold setMode
  split
  · exact h
  split
  · exact h
  split
  · exact h
  cases env.findPlayerByName p2n with
  | none => exact h
  | some newp =>
    dsimp only
    split
    · exact h
    rename_i hself
    split
    · exact h
    rename_i hon
    have hon : w.channel.isOn newp = true := Bool.not_eq_false _ ▸ hon
    split
    · exact h
    split
    · exact h
    rename_i hother
    split
    · rename_i hmod
      have hnew : newp ≠ w.channel.ownerGUID := by
        rintro rfl
        by_cases hp : p = w.channel.ownerGUID
        · exact hself (by simp [hp, hmod])
        · exact hother (by simp [Ne.symm hp])
      unfold setModerator
      split
      · exact sound_modifyAt h hon (fun _ => rfl) (fun _ => rfl) fun heq => absurd heq hnew
      · exact sound_modifyAt h hon (fun _ => rfl) (fun _ => rfl) fun heq => absurd heq hnew
    · unfold setMute
      split
      · exact sound_modifyAt h hon (fun _ => rfl) (fun _ => rfl) fun _ _ hi => hi
      · exact sound_modifyAt h hon (fun _ => rfl) (fun _ => rfl) fun _ _ hi => hi

theorem sound_setOwner (h : Sound w) (hzero : w.joined 0 = false) {newname : String} :
    Sound (w.step (env, .setOwner p newname)) := by
  change Sound ⟨w.channel.setOwnerByName env p newname, w.joined⟩
  unfold setOwnerByName
  split
  · exact h
  split
  · exact h
  split
  · exact h
  cases env.findPlayerByName newname with
  | none => exact h
  | some newp =>
    dsimp only
    split
    · exact h
    rename_i hon
    have hon : w.channel.isOn newp = true := Bool.not_eq_false _ ▸ hon
    split
    · exact h
    have hoff : w.channel.isOn 0 = false := (h.members 0).trans hzero
    have hnew : newp ≠ 0 := by
      rintro rfl
      rw [hoff] at hon
      cases hon
    have hframe := frame_setOwner (c := w.channel.modifyAt newp (.setModerator true)) hnew
    refine sound_of_guidAt h (guidAt_promote hnew hon) (fun q hq => ?_) hframe.2 fun howned =>
      owned_promote hnew (howned.flagsOwner hoff)
    unfold isBanned at hq
    rw [hframe.1] at hq
    exact hq

/-! ## Runs -/

/-- No owner kicks himself off a channel with other members, and nobody joins an empty channel that still
names an owner. -/
def Orderly (w : World) : Env × Request → Prop
  | (_, .join p pass) => w.channel.Admits p pass → w.channel.ownership = true →
      w.channel.players.isEmpty = true → w.channel.ownerGUID = 0
  | (env, .kickOrBan good badname _) => env.findPlayerByName badname = some good →
      w.channel.isOn good = true → good = w.channel.ownerGUID → w.channel.ownership = true →
      (w.channel.players.erase good).isEmpty = true
  | _ => True

instance (w : World) : ∀ e, Decidable (w.Orderly e)
  | (_, .join ..) => inferInstanceAs (Decidable (_ → _))
  | (_, .kickOrBan ..) => inferInstanceAs (Decidable (_ → _))
  | (_, .leave _) | (_, .unBan ..) | (_, .setMode ..) | (_, .setOwner ..) => inferInstanceAs (Decidable True)

def Player : Env × Request → Prop
  | (_, .join p _) => p ≠ 0
  | _ => True

instance : ∀ e, Decidable (Player e)
  | (_, .join ..) => inferInstanceAs (Decidable (¬ _))
  | (_, .leave _) | (_, .kickOrBan ..) | (_, .unBan ..) | (_, .setMode ..) | (_, .setOwner ..) =>
    inferInstanceAs (Decidable True)

/-- A request keeps a sound channel sound exactly when it is orderly. -/
theorem sound_step_iff (h : Sound w) (hzero : w.joined 0 = false) {e : Env × Request} (hplayer : Player e) :
    Sound (w.step e) ↔ w.Orderly e := by
  obtain ⟨env, r⟩ := e
  cases r with
  | join p pass => exact sound_join_iff h hzero hplayer
  | leave p => exact iff_of_true (sound_leave h hzero) trivial
  | kickOrBan good badname ban => exact sound_kickOrBan_iff h hzero
  | unBan good badname => exact iff_of_true (sound_unBan h) trivial
  | setMode p p2n mod set => exact iff_of_true (sound_setMode h) trivial
  | setOwner p newname => exact iff_of_true (sound_setOwner h hzero) trivial

theorem joined_zero (hzero : w.joined 0 = false) {e : Env × Request} (hplayer : Player e) :
    (w.step e).joined 0 = false := by
  obtain ⟨env, r⟩ := e
  have hupdate : ∀ p, update w.joined p false 0 = false := by
    intro p
    rw [update_apply, hzero, ite_self]
  cases r with
  | join p pass =>
    change (if w.channel.Admits p pass then update w.joined p true else w.joined) 0 = false
    split
    · rw [update_of_ne (Ne.symm hplayer), hzero]
    · exact hzero
  | leave p => exact hupdate p
  | kickOrBan good badname ban =>
    change w.nowJoined env (.kickOrBan good badname ban) 0 = false
    rw [nowJoined_kickOrBan]
    cases w.channel.kicks env good badname with
    | none => exact hzero
    | some bad => exact hupdate bad
  | unBan good badname => exact hzero
  | setMode p p2n mod set => exact hzero
  | setOwner p newname => exact hzero

end World

theorem sound_new (hempty : c.players.isEmpty = true) : Sound ⟨c, fun _ => false⟩ := by
  have hnone : ∀ p, c.players.find? p = none := isEmpty_iff.1 hempty
  have hoff : ∀ p, c.isOn p = false := by
    intro p
    rw [Channel.isOn, hnone]
    rfl
  refine ⟨hoff, ⟨fun p info hp => ?_, fun p hp => ?_⟩, fun _ hsome => ?_⟩
  · rw [hnone] at hp
    cases hp
  · rw [hoff] at hp
    cases hp
  · exact absurd hempty (by simp [hsome])

/-- **Who is on a channel.** On a channel that nobody has joined yet, requests of players, in any order and
whoever is online, keep the members and the owner in order if and only if no owner kicks himself while
others are on the channel and nobody joins the empty channel while it names an owner. -/
theorem channel_sound_iff {es : List (Env × Request)} (hempty : c.players.isEmpty = true)
    (hplayers : ∀ e ∈ es, World.Player e) :
    (∀ pre, pre <+: es → Sound (run World.step ⟨c, fun _ => false⟩ pre)) ↔
      AllSteps World.step World.Orderly ⟨c, fun _ => false⟩ es := by
  have hall : AllSteps World.step (fun _ => World.Player) ⟨c, fun _ => false⟩ es :=
    ((allSteps_true ..).and_mem hplayers).mono fun _ _ h => h.1
  have hzero : (World.mk c fun _ => false).joined 0 = false := rfl
  have hiff := AllSteps.always_iff (I := Sound) (J := fun w => w.joined 0 = false)
    (fun _ _ _ h => World.joined_zero h) (fun _ _ h hz => World.sound_step_iff h hz) hzero hall
  exact hiff.trans (and_iff_right (sound_new hempty))

theorem channel_sound_handed : Sound (run World.step { channel := {} } [({}, .join 1 ""), ({}, .join 2 ""),
    ({ findPlayerByName := fun _ => some 2 }, .setOwner 1 "B"), ({}, .leave 1)]) :=
  (channel_sound_iff (c := {}) (by decide) (by decide)).2 (by decide) _ (List.prefix_refl _)

/-- The owner kicks himself: he is the owner of a channel that he is not on, under a guid of zero. -/
theorem channel_kicks_itself :
    let w := run World.step { channel := {} } [({}, .join 1 ""), ({}, .join 2 ""),
      ({ findPlayerByName := fun _ => some 1 }, .kickOrBan 1 "A" false)]
    w.joined 1 = false ∧
      w.channel.players.find? 1 = some { player := 0, flags := { owner := true, moderator := true } } ∧
      ¬ Sound w := by
  refine ⟨by decide, by decide, fun h => ?_⟩
  exact absurd (h.members 1) (by decide)

/-! ## Players without powers -/

def Request.requester : Request → Guid
  | .join p _ | .leave p | .kickOrBan p _ _ | .unBan p _ | .setMode p _ _ _ | .setOwner p _ => p

variable {S : Set Guid} {c' c'' : Channel}

/-- Somebody else owns the channel, and no player of `S` has a power over it. -/
structure Powerless (S : Set Guid) (c : Channel) : Prop where
  owned : c.ownership = true → c.ownerGUID ≠ 0
  owner : c.ownerGUID ∉ S
  flags : ∀ p ∈ S, (c.entryAt p).flags.owner = false ∧ (c.entryAt p).flags.moderator = false

/-- Only entries of players of `S` differ, and who was banned has not come back. -/
structure Spared (S : Set Guid) (c c' : Channel) : Prop where
  others : ∀ q, q ∉ S → c'.players.find? q = c.players.find? q
  rest : c'.setPlayers c.players = c
  stayOut : ∀ q, c.isBanned q = true → c.isOn q = false → c'.isOn q = false

theorem Spared.refl (S : Set Guid) (c : Channel) : Spared S c c := ⟨fun _ _ => rfl, rfl, fun _ _ h => h⟩

theorem Spared.trans (h : Spared S c c') (h' : Spared S c' c'') : Spared S c c'' where
  others q hq := (h'.others q hq).trans (h.others q hq)
  rest := (congrArg (·.setPlayers c.players) h'.rest).trans h.rest
  stayOut q hban hoff := by
    have hbanned : c'.banned = c.banned := (congrArg Channel.banned h.rest :)
    exact h'.stayOut q (by rwa [Channel.isBanned, hbanned]) (h.stayOut q hban hoff)

/-- The entry of `p` is replaced by `x`, which has no flags. -/
theorem spared_setPlayers (h : Powerless S c) (hp : p ∈ S) {players : OrdMap Guid PlayerInfo}
    {x : Option PlayerInfo} (hfind : ∀ q, players.find? q = if p = q then x else c.players.find? q)
    (hflags : (x.getD {}).flags = {}) (hban : x.isSome = true → c.isBanned p = false) :
    Powerless S (c.setPlayers players) ∧ Spared S c (c.setPlayers players) := by
  refine ⟨⟨h.owned, h.owner, fun q hq => ?_⟩, fun q hq => ?_, rfl, fun q hq hoff => ?_⟩
  · unfold Channel.entryAt Channel.setPlayers
    rw [hfind]
    split
    · rw [hflags]
      exact ⟨rfl, rfl⟩
    · exact h.flags q hq
  · exact (hfind q).trans (if_neg (ne_of_mem_of_not_mem hp hq))
  · unfold Channel.isOn Channel.setPlayers
    rw [hfind]
    split
    · rename_i heq
      exact Bool.eq_false_iff.2 fun hx => Bool.noConfusion ((hban hx).symm.trans (heq ▸ hq))
    · exact hoff

theorem spared_request (h : Powerless S w.channel) {r : Request} (hp : r.requester ∈ S)
    (hgm : env.isGM r.requester = false) :
    Powerless S (w.request env r) ∧ Spared S w.channel (w.request env r) := by
  have hrefused : ∀ p ∈ S, env.isGM p = false →
      (!(w.channel.entryAt p).flags.moderator && !env.isGM p) = true := by
    intro p hp hgm
    rw [(h.flags p hp).2, hgm]
    rfl
  have hsame : w.request env r = w.channel → Powerless S (w.request env r) ∧ Spared S w.channel (w.request env r) :=
    fun heq => heq.symm ▸ ⟨h, .refl S _⟩
  cases r with
  | join p pass =>
    by_cases hadmits : w.channel.Admits p pass
    · have hjoin : w.request env (.join p pass) = w.channel.withMember p := by
        refine (Channel.join_eq hadmits).trans (if_neg fun hnew => ?_)
        rw [Bool.and_eq_true, decide_eq_true_iff] at hnew
        exact h.owned hnew.2 hnew.1
      rw [hjoin]
      exact spared_setPlayers h hp (find?_insert _ p · _) rfl fun _ => hadmits.2.1
    · exact hsame (if_neg hadmits)
  | leave p =>
    by_cases hon : w.channel.isOn p = true
    · have hleave : w.request env (.leave p) = w.channel.withoutMember p := by
        refine (if_pos hon).trans ?_
        rw [(h.flags p hp).1]
        dsimp only
        split <;> rfl
      rw [hleave]
      exact spared_setPlayers h hp (find?_erase _ p) rfl nofun
    · exact hsame (if_neg hon)
  | kickOrBan p badname ban =>
    refine hsame ?_
    have hkicks : w.channel.kicks env p badname = none := by
      unfold Channel.kicks
      rw [if_pos (hrefused p hp hgm), ite_self]
    unfold World.request Channel.kickOrBan
    dsimp only
    rw [hkicks]
  | unBan p badname =>
    refine hsame ?_
    unfold World.request Channel.unBan
    dsimp only
    rw [if_pos (hrefused p hp hgm), ite_self]
  | setMode p p2n mod set =>
    refine hsame ?_
    unfold World.request Channel.setMode
    dsimp only
    rw [if_pos (hrefused p hp hgm), ite_self, ite_self]
  | setOwner p newname =>
    refine hsame ?_
    have hother : (!env.isGM p && p ≠ w.channel.ownerGUID) = true := by
      rw [show env.isGM p = false from hgm]
      exact decide_eq_true (ne_of_mem_of_not_mem hp h.owner)
    unfold World.request Channel.setOwnerByName
    dsimp only
    rw [if_pos hother, ite_self, ite_self]

/-- **Who has no power over a channel gets none**, and changes nothing but his own entry, whatever he asks for. -/
theorem powerless_run (h : Powerless S w.channel) {es : List (Env × Request)}
    (hes : ∀ e ∈ es, e.2.requester ∈ S ∧ e.1.isGM e.2.requester = false) :
    Powerless S (run World.step w es).channel ∧ Spared S w.channel (run World.step w es).channel := by
  induction es generalizing w with
  | nil => exact ⟨h, .refl S _⟩
  | cons e es ih =>
    obtain ⟨hp, hgm⟩ := hes e List.mem_cons_self
    obtain ⟨hnext, hstep⟩ := spared_request h hp hgm
    obtain ⟨hlast, hrest⟩ := ih (w := w.step e) hnext fun e he => hes e (List.mem_cons_of_mem _ he)
    exact ⟨hlast, hstep.trans hrest⟩

/-- A guest makes himself a moderator and bans the owner, or so he asks. -/
def guestRequests : List (Env × Request) :=
  [({}, .join 2 ""), ({ findPlayerByName := fun _ => some 2 }, .setMode 2 "B" true true),
   ({ findPlayerByName := fun _ => some 1 }, .kickOrBan 2 "A" true)]

theorem powerless_guest :
    (run World.step { channel := ({} : Channel).join 1 "" } guestRequests).channel.isOn 2 = true ∧
    Powerless {2} (run World.step { channel := ({} : Channel).join 1 "" } guestRequests).channel := by
  refine ⟨by decide, (powerless_run ⟨by decide, fun h => absurd h ?_, ?_⟩ ?_).1⟩
  · decide
  · rintro _ rfl
    decide
  · simp [guestRequests, Request.requester, Env.isGM]

end Axium.Chat
