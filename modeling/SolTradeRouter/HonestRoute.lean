import SolTradeRouter.RouteSettlement
import SolTradeRouter.Transfers
import SolTradeRouter.UserAccounts

/-!
# Honest runs of a route

A route is carried out honestly if the fee's own transfer moves the fee, and
every leg takes the input it encodes and brings at least the minimum it
encodes – or, with a fixed output, takes no more than the maximum. Balances
are kept in purses, since the lamports of an account and the tokens in it
are two balances under one address.

A route settles if the final check of the spend accepts every honest run.
Whether it does is a question of which purses coincide: the fee must leave
the purse it is charged to, the first leg must take from that purse, and
nothing else may touch it.
-/

namespace Sdk

open Outcome Transfers

/-! ## Purses -/

/-- **A purse**: the lamports of an account, or the tokens in it. -/
structure Purse where
  native : Bool
  account : Pubkey
  deriving DecidableEq

/-- A PumpFun V1 buy takes lamports. -/
def LegFormat.takesLamports : LegFormat → Bool
  | pumpfunBuy => true
  | _ => false

/-- A PumpFun V1 sale pays lamports. -/
def LegFormat.paysLamports : LegFormat → Bool
  | pumpfunSell => true
  | _ => false

/-- **The transfer a leg encodes.** -/
def Leg.Plans (leg : Leg) (user : Pubkey) (t : Transfer Purse) : Prop :=
  ∃ format source destination sent received,
    Swaps leg format user source destination sent received
      ∧ t = ⟨⟨format.takesLamports, source⟩, sent.toNat, ⟨format.paysLamports, destination⟩,
        received.toNat⟩

/-- A leg encodes one transfer. -/
theorem Leg.Plans.unique {leg : Leg} {user : Pubkey} {t t' : Transfer Purse}
    (h : leg.Plans user t) (h' : leg.Plans user t') : t = t' := by
  obtain ⟨_, _, _, _, _, hswaps, rfl⟩ := h
  obtain ⟨_, _, _, _, _, hswaps', rfl⟩ := h'
  obtain ⟨rfl, rfl, rfl, rfl, rfl⟩ := hswaps.unique hswaps'
  rfl

/-- So do the legs of a route. -/
theorem plans_unique {user : Pubkey} {legs : List Leg} {ts ts' : List (Transfer Purse)}
    (h : List.Forall₂ (Leg.Plans · user ·) legs ts)
    (h' : List.Forall₂ (Leg.Plans · user ·) legs ts') : ts = ts' := by
  induction h generalizing ts' with
  | nil =>
    cases h'
    rfl
  | cons hleg _ ih =>
    cases h' with
    | cons hleg' hlegs' => rw [hleg.unique hleg', ih hlegs']

/-- The purse the fee of a route is charged to. -/
def BuiltHeader.source (header : BuiltHeader) : Purse :=
  ⟨header.feeAsset = feeAssetSol, header.accounts.feeSource⟩

/-- The purse the fee of a route goes to. -/
def BuiltHeader.destination (header : BuiltHeader) : Purse :=
  ⟨header.feeAsset = feeAssetSol, header.accounts.feeDestination⟩

/-! ## Settling -/

/-- **An honest run of a route**: the fee is moved, then the legs are carried
out. The balance of the fee's source is taken before and after. -/
structure HonestRun (feeBps : UInt16) (header : BuiltHeader) (legs : List Leg)
    (fee before after : UInt64) : Prop where
  fee_eq : Program.checkedFee header.amountIn feeBps = .ok fee
  run : ∃ ts b b₁ b', List.Forall₂ (Leg.Plans · header.accounts.payer ·) legs ts
    ∧ Moved b b₁ header.source fee.toNat header.destination fee.toNat
    ∧ Runs header.exactOut ts b₁ b'
    ∧ b header.source = before.toNat ∧ b' header.source = after.toNat

/-- **A route settles** if the check of the spend accepts every honest run. -/
def Settles (feeBps : UInt16) (header : BuiltHeader) (legs : List Leg) : Prop :=
  ∀ fee before after, HonestRun feeBps header legs fee before after →
    Program.validateSpend before after header.amountIn fee header.exactOut = .ok ()

/-- **What the check of the spend accepts**: an exact input is spent to the
unit, and what is spent of a budget covers the fee. -/
def Accepted (exactOut : Bool) (amountIn fee before after : ℕ) : Prop :=
  after ≤ before ∧ (exactOut = false → before = after + amountIn)
    ∧ (exactOut = true → after + fee ≤ before ∧ before ≤ after + amountIn)

theorem validateSpend_iff {before after amountIn fee : UInt64} {exactOut : Bool} :
    Program.validateSpend before after amountIn fee exactOut = .ok () ↔
      Accepted exactOut amountIn.toNat fee.toNat before.toNat after.toNat := by
  rw [Program.validateSpend_eq_ok, UInt64.le_iff_toNat_le]
  refine and_congr_right fun hle => ?_
  have hsub := UInt64.toNat_sub_of_le _ _ (UInt64.le_iff_toNat_le.mpr hle)
  rw [UInt64.le_iff_toNat_le, UInt64.le_iff_toNat_le, hsub]
  refine and_congr (imp_congr_right fun _ => ?_) (imp_congr_right fun _ => ?_)
  · omega
  · omega

/-- **The purses a trade moves between**: its legs meet in the middle, if there
are two, perhaps under two names. -/
inductive Plan (source paid taken target : Purse) (sent : ℕ) :
    Bool → List (Transfer Purse) → Prop
  | direct {least : ℕ} : Plan source paid taken target sent false [⟨source, sent, target, least⟩]
  | bridged {mid least : ℕ} : Plan source paid taken target sent true
    [⟨source, sent, paid, mid⟩, ⟨taken, mid, target, least⟩]

/-- **The fee's source is clear**: the fee leaves it, the first leg takes from
it, unless the input is a budget, and nothing else touches it. -/
structure Clear (header : BuiltHeader) (fee : ℕ) (source paid taken target : Purse)
    (needsBridge : Bool) : Prop where
  leaves : fee = 0 ∨ header.destination ≠ header.source
  source : header.exactOut = true ∨ source = header.source
  target : target ≠ header.source
  middle : needsBridge = true → paid ≠ header.source ∧ taken ≠ header.source

section Settling

variable {feeBps : UInt16} {header : BuiltHeader} {legs : List Leg} {fee : UInt64}
  {source paid taken target : Purse} {sent : ℕ} {needsBridge : Bool}
  {ts : List (Transfer Purse)}

/-- **Enough for a route to settle**: the fee leaves its source, the first leg
takes the rest from there, and nothing else touches it. -/
theorem Plan.settles (h : Plan source paid taken target sent needsBridge ts)
    (hplans : List.Forall₂ (Leg.Plans · header.accounts.payer ·) legs ts)
    (hfee : Program.checkedFee header.amountIn feeBps = .ok fee)
    (hamount : header.amountIn.toNat = fee.toNat + sent)
    (hclear : Clear header fee.toNat source paid taken target needsBridge) :
    Settles feeBps header legs := by
  obtain ⟨hleaves, hsource, htarget, hmiddle⟩ := hclear
  rintro fee' before after ⟨hfee', ts', b, b₁, b', hplans', hmoved, hruns, hbefore, hafter⟩
  cases hfee.symm.trans hfee'
  cases plans_unique hplans hplans'
  -- The fee leaves its source.
  have hcharged : b₁ header.source + fee.toNat = b header.source := by
    have hbalance := hmoved.balance header.source
    rw [if_pos rfl] at hbalance
    rcases hleaves with hzero | hne
    · rw [hzero, ite_self] at hbalance
      rw [hzero]
      exact hbalance
    · rwa [if_neg hne.symm] at hbalance
  -- The legs take what the first of them takes there.
  obtain ⟨s, hmost, hall, hspent⟩ : ∃ s, s ≤ sent ∧ (header.exactOut = false → s = sent)
      ∧ b' header.source + (if header.source = source then s else 0) = b₁ header.source := by
    cases h with
    | direct => exact hruns.spent htarget.symm fun t ht => absurd ht List.not_mem_nil
    | bridged =>
      obtain ⟨hpaid, htaken⟩ := hmiddle rfl
      refine hruns.spent hpaid.symm fun t ht => ?_
      rw [List.mem_singleton.mp ht]
      exact ⟨htaken.symm, htarget.symm⟩
  rw [validateSpend_iff]
  rcases hsource with hexact | rfl
  · refine ⟨?_, fun hx => absurd (hexact.symm.trans hx) (by decide), fun _ => ?_⟩
    · split at hspent <;> omega
    · split at hspent <;> omega
  · rw [if_pos rfl] at hspent
    refine ⟨by omega, fun hx => ?_, fun _ => by omega⟩
    have hs := hall hx
    omega

/-! ## What a route that settles needs -/

/-- What the fee takes from its source. -/
def BuiltHeader.charge (header : BuiltHeader) (fee : ℕ) : ℕ :=
  if header.source = header.destination then 0 else fee

/-- The fee is charged to a source that can pay it. -/
theorem exists_charged (header : BuiltHeader) {fee before rest : ℕ} (h : fee ≤ before) :
    ∃ b b₁, b header.source = before
      ∧ Moved b b₁ header.source fee header.destination fee
      ∧ Stocked b₁ header.source (before - header.charge fee) rest := by
  have hstart : Stocked (fun p => if p = header.source then before else fee + rest)
      header.source before (fee + rest) :=
    ⟨if_pos rfl, fun q hq => (if_neg hq).ge⟩
  obtain ⟨b₁, hmoved, hstocked⟩ := @hstart.exists_moved _ _ _ _ header.source
    header.destination _ _ fee fee fun _ => h
  refine ⟨_, b₁, hstart.holds, hmoved, ?_⟩
  have hleft : before - fee + (if header.source = header.destination then fee else 0)
      = before - header.charge fee := by
    unfold BuiltHeader.charge
    split <;> omega
  rwa [if_pos rfl, hleft] at hstocked

/-- The check judges an honest run by what it leaves at the fee's source. -/
theorem Settles.accepted (h : Settles feeBps header legs)
    (hplans : List.Forall₂ (Leg.Plans · header.accounts.payer ·) legs ts)
    (hfee : Program.checkedFee header.amountIn feeBps = .ok fee) {b b₁ b' : Purse → ℕ}
    {before after : ℕ}
    (hmoved : Moved b b₁ header.source fee.toNat header.destination fee.toNat)
    (hruns : Runs header.exactOut ts b₁ b') (hbefore : b header.source = before)
    (hafter : b' header.source = after) (hbefore64 : before < 2 ^ 64)
    (hafter64 : after < 2 ^ 64) :
    Accepted header.exactOut header.amountIn.toNat fee.toNat before after := by
  have hb := U64.toNat_ofNat hbefore64
  have ha := U64.toNat_ofNat hafter64
  have haccepts := h fee (.ofNat before) (.ofNat after) ⟨hfee, ts, b, b₁, b', hplans, hmoved,
    hruns, hbefore.trans hb.symm, hafter.trans ha.symm⟩
  rwa [validateSpend_iff, hb, ha] at haccepts

/-- What a leg leaves of a balance at the fee's source. -/
def BuiltHeader.leaves (header : BuiltHeader) (source target : Purse) (sent got n : ℕ) : ℕ :=
  n - (if header.source = source then sent else 0)
    + (if header.source = target then got else 0)

/-- **A run of one leg**, with amounts of one's choice. -/
theorem Settles.direct {least : ℕ} (h : Settles feeBps header legs)
    (hplans : List.Forall₂ (Leg.Plans · header.accounts.payer ·) legs
      [⟨source, sent, target, least⟩])
    (hfee : Program.checkedFee header.amountIn feeBps = .ok fee) (before s g : ℕ)
    (hmost : s ≤ sent) (hall : header.exactOut = false → s = sent) (hleast : least ≤ g)
    (hcharge : fee.toNat ≤ before)
    (hfunded : header.source = source → s ≤ before - header.charge fee.toNat)
    (hbefore64 : before < 2 ^ 64)
    (hafter64 : header.leaves source target s g (before - header.charge fee.toNat) < 2 ^ 64) :
    Accepted header.exactOut header.amountIn.toNat fee.toNat before
      (header.leaves source target s g (before - header.charge fee.toNat)) := by
  obtain ⟨b, b₁, hbefore, hmoved, hstocked⟩ := @exists_charged header _ _ (s + 0) hcharge
  obtain ⟨b', hleg, hleft⟩ := @hstocked.exists_moved _ _ _ _ source target _ _ s g hfunded
  exact h.accepted hplans hfee hmoved (.cons hmost hall hleast hleg .nil) hbefore hleft.holds
    hbefore64 hafter64

/-- **A run of two legs**, with amounts of one's choice. -/
theorem Settles.bridged {mid least : ℕ} (h : Settles feeBps header legs)
    (hplans : List.Forall₂ (Leg.Plans · header.accounts.payer ·) legs
      [⟨source, sent, paid, mid⟩, ⟨taken, mid, target, least⟩])
    (hfee : Program.checkedFee header.amountIn feeBps = .ok fee) (before g₁ g₂ left : ℕ)
    (hmid : mid ≤ g₁) (hleast : least ≤ g₂) (hcharge : fee.toNat ≤ before)
    (hfunded : header.source = source → sent ≤ before - header.charge fee.toNat)
    (hleft : header.leaves source paid sent g₁ (before - header.charge fee.toNat) = left)
    (hfunded' : header.source = taken → mid ≤ left) (hbefore64 : before < 2 ^ 64)
    (hafter64 : header.leaves taken target mid g₂ left < 2 ^ 64) :
    Accepted header.exactOut header.amountIn.toNat fee.toNat before
      (header.leaves taken target mid g₂ left) := by
  obtain ⟨b, b₁, hbefore, hmoved, hstocked⟩ :=
    @exists_charged header _ _ (sent + (mid + 0)) hcharge
  obtain ⟨b₂, hfirst, hstocked⟩ := @hstocked.exists_moved _ _ _ _ source paid _ _ sent g₁ hfunded
  change Stocked b₂ _ (header.leaves source paid sent g₁ _) _ at hstocked
  rw [hleft] at hstocked
  obtain ⟨b', hsecond, hlast⟩ := @hstocked.exists_moved _ _ _ _ taken target _ _ mid g₂ hfunded'
  exact h.accepted hplans hfee hmoved (.cons le_rfl (fun _ => rfl) hmid hfirst
    (.cons le_rfl (fun _ => rfl) hleast hsecond .nil)) hbefore hlast.holds hbefore64 hafter64

theorem Leg.Plans.lt {leg : Leg} {user : Pubkey} {t : Transfer Purse} (h : leg.Plans user t) :
    t.most < 2 ^ 64 ∧ t.least < 2 ^ 64 := by
  obtain ⟨_, _, _, sent, received, _, rfl⟩ := h
  exact ⟨sent.toNat_lt, received.toNat_lt⟩

/-- The fee leaves its source, or nothing does. -/
theorem charge_cases (header : BuiltHeader) (fee : ℕ) :
    header.charge fee = fee ∧ (fee = 0 ∨ header.destination ≠ header.source)
      ∨ header.charge fee = 0 ∧ 0 < fee ∧ header.destination = header.source := by
  unfold BuiltHeader.charge
  split
  · rename_i h
    rcases Nat.eq_zero_or_pos fee with rfl | hpos
    · exact .inl ⟨rfl, .inl rfl⟩
    · exact .inr ⟨rfl, hpos, h.symm⟩
  · rename_i h
    exact .inl ⟨rfl, .inr (Ne.symm h)⟩

/-- **What a route of one leg needs to settle.** -/
theorem Settles.direct_needs {least : ℕ} (h : Settles feeBps header legs)
    (hplans : List.Forall₂ (Leg.Plans · header.accounts.payer ·) legs
      [⟨source, sent, target, least⟩])
    (hfee : Program.checkedFee header.amountIn feeBps = .ok fee)
    (hamount : header.amountIn.toNat = fee.toNat + sent) (hsmall : fee.toNat ≤ sent)
    (hapart : source ≠ header.source → 0 < sent ∧ target ≠ header.source) :
    (fee.toNat = 0 ∨ header.destination ≠ header.source)
      ∧ (header.exactOut = true ∨ source = header.source) ∧ target ≠ header.source := by
  obtain ⟨hmost, hleast⟩ : sent < 2 ^ 64 ∧ least < 2 ^ 64 := by
    cases hplans with
    | cons hleg _ => exact hleg.lt
  have hlt := header.amountIn.toNat_lt
  have hcases := charge_cases header fee.toNat
  -- What a leg pays into the fee's source is gained there on top of the spend.
  have htarget : target ≠ header.source := by
    intro htarget
    have hsource : source = header.source := not_not.mp fun hne => (hapart hne).2 htarget
    have hleaves : ∀ s g n, header.leaves source target s g n = n - s + g := fun s g n => by
      rw [BuiltHeader.leaves, if_pos hsource.symm, if_pos htarget.symm]
    cases hexact : header.exactOut with
    | false =>
      have haccepted := h.direct hplans hfee (header.charge fee.toNat + sent) sent (max least 1)
        le_rfl (fun _ => rfl) (le_max_left ..) (by omega) (fun _ => by omega) (by omega)
        (by rw [hleaves]; omega)
      rw [hleaves] at haccepted
      have hspent := haccepted.2.1 hexact
      omega
    | true =>
      rcases hcases with ⟨hcharge, -⟩ | ⟨hcharge, hpos, -⟩
      · have haccepted := h.direct hplans hfee fee.toNat 0 (max least 1) (Nat.zero_le _)
          (fun hx => absurd (hexact.symm.trans hx) (by decide)) (le_max_left ..) le_rfl
          (fun _ => Nat.zero_le _) (by omega) (by rw [hleaves]; omega)
        rw [hleaves] at haccepted
        have hspent := haccepted.2.2 hexact
        omega
      · have haccepted := h.direct hplans hfee sent sent (max least sent) le_rfl
          (fun _ => rfl) (le_max_left ..) hsmall (fun _ => by omega) hmost
          (by rw [hleaves]; omega)
        rw [hleaves] at haccepted
        have hspent := haccepted.2.2 hexact
        omega
  have hleaves : ∀ s g n, header.leaves source target s g n
      = n - (if header.source = source then s else 0) := fun s g n => by
    rw [BuiltHeader.leaves, if_neg htarget.symm, Nat.add_zero]
  refine ⟨?_, ?_, htarget⟩
  · refine not_not.mp fun hnot => ?_
    obtain ⟨hcharge, hpos, -⟩ := hcases.resolve_left fun hleaves => hnot hleaves.2
    cases hexact : header.exactOut with
    | false =>
      have haccepted := h.direct hplans hfee header.amountIn.toNat sent least le_rfl
        (fun _ => rfl) le_rfl (by omega) (fun _ => by omega) hlt (by rw [hleaves]; omega)
      rw [hleaves] at haccepted
      have hspent := haccepted.2.1 hexact
      split at hspent <;> omega
    | true =>
      have haccepted := h.direct hplans hfee header.amountIn.toNat 0 least (Nat.zero_le _)
        (fun hx => absurd (hexact.symm.trans hx) (by decide)) le_rfl (by omega)
        (fun _ => Nat.zero_le _) hlt (by rw [hleaves]; omega)
      rw [hleaves, ite_self] at haccepted
      have hspent := haccepted.2.2 hexact
      omega
  · refine not_not.mp fun hnot => ?_
    obtain ⟨hexact, hsource⟩ := not_or.mp hnot
    rw [Bool.not_eq_true] at hexact
    have hpos := (hapart hsource).1
    have haccepted := h.direct hplans hfee header.amountIn.toNat sent least le_rfl
      (fun _ => rfl) le_rfl (by omega) (fun hs => absurd hs.symm hsource) hlt
      (by rw [hleaves]; omega)
    rw [hleaves, if_neg (Ne.symm hsource)] at haccepted
    have hspent := haccepted.2.1 hexact
    omega

/-- **What a route of two legs needs to settle**, if the legs meet in one purse
or stay clear of the fee's source. -/
theorem Settles.bridged_needs {mid least : ℕ} (h : Settles feeBps header legs)
    (hplans : List.Forall₂ (Leg.Plans · header.accounts.payer ·) legs
      [⟨source, sent, paid, mid⟩, ⟨taken, mid, target, least⟩])
    (hfee : Program.checkedFee header.amountIn feeBps = .ok fee)
    (hexact : header.exactOut = false)
    (hamount : header.amountIn.toNat = fee.toNat + sent) (hsmall : fee.toNat ≤ sent)
    (hapart : source ≠ header.source → 0 < sent ∧ target ≠ header.source)
    (hmeets : paid = taken ∨ paid ≠ header.source ∧ taken ≠ header.source)
    (hclear : source ≠ header.source → paid ≠ header.source ∧ taken ≠ header.source) :
    (fee.toNat = 0 ∨ header.destination ≠ header.source) ∧ source = header.source
      ∧ target ≠ header.source ∧ paid ≠ header.source ∧ taken ≠ header.source := by
  obtain ⟨hmid, hleast⟩ : mid < 2 ^ 64 ∧ least < 2 ^ 64 := by
    cases hplans with
    | cons _ hlegs =>
      cases hlegs with
      | cons hleg _ => exact hleg.lt
  have hlt := header.amountIn.toNat_lt
  have hcases := charge_cases header fee.toNat
  have hne : ∀ {p q : Purse} {s g n : ℕ}, p ≠ header.source → q ≠ header.source →
      header.leaves p q s g n = n := fun hp hq => by
    rw [BuiltHeader.leaves, if_neg hp.symm, if_neg hq.symm, Nat.sub_zero, Nat.add_zero]
  -- A first leg that takes from elsewhere leaves the input unspent.
  have hsource : source = header.source := by
    refine not_not.mp fun hsource => ?_
    obtain ⟨hpos, htarget⟩ := hapart hsource
    obtain ⟨hpaid, htaken⟩ := hclear hsource
    have haccepted := h.bridged hplans hfee header.amountIn.toNat mid least _ le_rfl le_rfl
      (by omega) (fun hs => absurd hs.symm hsource) (hne hsource hpaid)
      (fun hs => absurd hs.symm htaken) hlt (by rw [hne htaken htarget]; omega)
    rw [hne htaken htarget] at haccepted
    have hspent := haccepted.2.1 hexact
    omega
  subst hsource
  have hboth : paid = header.source ∧ taken = header.source
      ∨ paid ≠ header.source ∧ taken ≠ header.source := by
    rcases hmeets with rfl | hne
    · exact (Decidable.em (paid = header.source)).imp (fun hp => ⟨hp, hp⟩) fun hp => ⟨hp, hp⟩
    · exact .inr hne
  have hfunds : header.charge fee.toNat + sent - header.charge fee.toNat = sent := by omega
  -- So does what the last leg pays into the fee's source.
  have htarget : target ≠ header.source := by
    rintro rfl
    obtain ⟨left, hleft, hmid, hlast⟩ : ∃ left,
        header.leaves header.source paid sent mid sent = left
          ∧ (header.source = taken → mid ≤ left)
          ∧ header.leaves taken header.source mid (max least 1) left = max least 1 := by
      unfold BuiltHeader.leaves
      rcases hboth with ⟨rfl, rfl⟩ | ⟨hpaid, htaken⟩
      · exact ⟨mid, by simp, fun _ => le_rfl, by simp⟩
      · exact ⟨0, by simp [hpaid.symm], fun hs => absurd hs.symm htaken, by simp⟩
    have haccepted := h.bridged hplans hfee (header.charge fee.toNat + sent) mid (max least 1)
      left le_rfl (le_max_left ..) (by omega) (fun _ => hfunds.ge) (by rw [hfunds]; exact hleft)
      hmid (by omega) (by rw [hlast]; omega)
    rw [hlast] at haccepted
    have hspent := haccepted.2.1 hexact
    omega
  have hleaves : ∀ p s g n, header.leaves p target s g n
      = n - (if header.source = p then s else 0) := fun p s g n => by
    rw [BuiltHeader.leaves, if_neg htarget.symm, Nat.add_zero]
  -- Of what is paid into it on the way, the second leg leaves the surplus.
  have hmiddle : paid ≠ header.source ∧ taken ≠ header.source := by
    refine hboth.resolve_left ?_
    rintro ⟨rfl, rfl⟩
    have hleft : header.leaves header.source header.source sent (mid + 1) sent = mid + 1 := by
      rw [BuiltHeader.leaves, if_pos rfl, if_pos rfl]
      omega
    have haccepted := h.bridged hplans hfee (header.charge fee.toNat + sent) (mid + 1) least _
      (Nat.le_succ _) le_rfl (by omega) (fun _ => hfunds.ge) (by rw [hfunds]; exact hleft)
      (fun _ => Nat.le_succ _) (by omega) (by rw [hleaves, if_pos rfl]; omega)
    rw [hleaves, if_pos rfl] at haccepted
    have hspent := haccepted.2.1 hexact
    omega
  obtain ⟨hpaid, htaken⟩ := hmiddle
  refine ⟨?_, rfl, htarget, hpaid, htaken⟩
  refine not_not.mp fun hnot => ?_
  obtain ⟨hcharge, hpos, -⟩ := hcases.resolve_left fun hleaves => hnot hleaves.2
  have hleft : header.leaves header.source paid sent mid
      (header.amountIn.toNat - header.charge fee.toNat)
        = header.amountIn.toNat - header.charge fee.toNat - sent := by
    rw [BuiltHeader.leaves, if_pos rfl, if_neg hpaid.symm, Nat.add_zero]
  have haccepted := h.bridged hplans hfee header.amountIn.toNat mid least _ le_rfl le_rfl
    (by omega) (fun _ => by omega) hleft (fun hs => absurd hs.symm htaken) hlt
    (by rw [hne htaken htarget]; omega)
  rw [hne htaken htarget] at haccepted
  have hspent := haccepted.2.1 hexact
  omega

/-- **A route that settles keeps the fee's source clear**, if no leg reaches
that purse past a first leg that misses it, and the legs meet in one purse or
stay clear of it. -/
theorem Plan.clear (h : Plan source paid taken target sent needsBridge ts)
    (hplans : List.Forall₂ (Leg.Plans · header.accounts.payer ·) legs ts)
    (hfee : Program.checkedFee header.amountIn feeBps = .ok fee)
    (hamount : header.amountIn.toNat = fee.toNat + sent) (hsmall : fee.toNat ≤ sent)
    (hexact : needsBridge = true → header.exactOut = false)
    (hapart : source ≠ header.source → 0 < sent ∧ target ≠ header.source
      ∧ (needsBridge = true → paid ≠ header.source ∧ taken ≠ header.source))
    (hmeets : needsBridge = true →
      paid = taken ∨ paid ≠ header.source ∧ taken ≠ header.source)
    (hsettles : Settles feeBps header legs) :
    Clear header fee.toNat source paid taken target needsBridge := by
  cases h with
  | direct =>
    obtain ⟨hleaves, hsource, htarget⟩ := hsettles.direct_needs hplans hfee hamount hsmall
      fun hne => ⟨(hapart hne).1, (hapart hne).2.1⟩
    exact ⟨hleaves, hsource, htarget, fun hx => by cases hx⟩
  | bridged =>
    obtain ⟨hleaves, hsource, htarget, hmiddle⟩ := hsettles.bridged_needs hplans hfee
      (hexact rfl) hamount hsmall (fun hne => ⟨(hapart hne).1, (hapart hne).2.1⟩) (hmeets rfl)
      fun hne => (hapart hne).2.2 rfl
    exact ⟨hleaves, .inr hsource, htarget, fun _ => hmiddle⟩

end Settling

end Sdk
