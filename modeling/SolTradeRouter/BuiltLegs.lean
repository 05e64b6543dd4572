import SolTradeRouter.LegFormat
import SolTradeRouter.TradeParts
import SolTradeRouter.WireFormat

/-!
# Legs out of the builders

A leg of any exchange fits the wire format, and nobody but the user signs it. So
do the legs of every trade, which come out of the same builders.
-/

namespace Sdk

open Outcome Bytes WireFormat

/-! ## What a builder makes -/

/-- Nobody but the user is asked to sign. -/
def OnlySigner (user : Pubkey) (metas : List AccountMeta) : Prop :=
  ∀ x ∈ metas, x.isSigner = true → x.pubkey = user

/-- **A leg that fits its route**: it is within the limits of the format, and
signed by the user alone. -/
structure Fits (user : Pubkey) (leg : Leg) : Prop where
  sized : WellSized leg
  signed : OnlySigner user leg.accounts

section

variable {user : Pubkey} {metas metas' : List AccountMeta}

/-- Signers of a joined list are signers of its parts. -/
theorem onlySigner_append (h : OnlySigner user metas) (h' : OnlySigner user metas') :
    OnlySigner user (metas ++ metas') := fun x hx =>
  (List.mem_append.mp hx).elim (h x) (h' x)

/-- Only the signers matter. -/
theorem onlySigner_of_filter {signers : List AccountMeta}
    (h : metas.filter AccountMeta.isSigner = signers) (hs : ∀ x ∈ signers, x.pubkey = user) :
    OnlySigner user metas := fun x hx hsigner =>
  hs x (h ▸ List.mem_filter.mpr ⟨hx, hsigner⟩)

/-- Nobody signs an empty list. -/
theorem onlySigner_nil : OnlySigner user [] := fun _ hx => by cases hx

/-- Accounts that are only written sign nothing. -/
theorem onlySigner_map (keys : List Pubkey) :
    OnlySigner user (keys.map (fun key => .new key false)) := by
  intro x hx hsigner
  obtain ⟨key, -, rfl⟩ := List.mem_map.mp hx
  cases hsigner

/-- Two amounts take sixteen bytes after the discriminator. -/
theorem length_encodeU64Pair (disc : List UInt8) (a b : UInt64) :
    (encodeU64Pair disc a b).length = disc.length + 16 := by
  simp only [encodeU64Pair, List.length_append, length_ofUInt64]

end

/-- Accounts that are counted, and of which one signs. -/
theorem Fits.of_count {user : Pubkey} {leg : Leg} {signer : AccountMeta}
    (hcount : ∃ n, leg.accounts.length = n ∧ 0 < n ∧ n ≤ 64)
    (hsigner : leg.accounts.filter AccountMeta.isSigner = [signer])
    (huser : signer.pubkey = user) (hdata : leg.data.length < 2 ^ 16) : Fits user leg := by
  obtain ⟨n, rfl, hpos, hle⟩ := hcount
  exact ⟨⟨hpos, hle, hdata⟩, onlySigner_of_filter hsigner (List.forall_mem_singleton.mpr huser)⟩

/-! ## The exchanges -/

section Builders

variable [Pda] {user : Pubkey} {leg : Leg} {a b : UInt64}

omit [Pda] in
/-- LaunchLab's leg has eighteen accounts, in either direction. -/
theorem launchlabLeg_fits {disc : List UInt8} (hdisc : disc.length = 8) (pool : LaunchLabPool)
    (base quote : Pubkey) : Fits user (launchlabLeg disc user pool a b base quote) := by
  refine .of_count ⟨18, rfl, by decide, by decide⟩ rfl rfl ?_
  simp only [launchlabLeg, encodeU64Triple, List.length_append, length_ofUInt64, hdisc]
  decide

omit [Pda] in
/-- CPMM's has thirteen, whichever amount is the fixed one. -/
theorem cpmmLeg_fits {disc : List UInt8} (hdisc : disc.length = 8) {pool : CpmmPool}
    {input output source destination : Pubkey}
    (h : cpmmLeg disc user pool a b input output source destination = .ok leg) :
    Fits user leg := by
  obtain ⟨_, -, h⟩ := bind_eq_ok.mp h
  obtain ⟨⟨_, _, _, _⟩, -, h⟩ := bind_eq_ok.mp h
  cases h
  refine .of_count ⟨13, rfl, by decide, by decide⟩ rfl rfl ?_
  rw [length_encodeU64Pair, hdisc]
  decide

/-- A buy on the bonding curve has eighteen. -/
theorem pumpfunBuyLeg_fits (pool : PumpFunPool) (account : Pubkey) :
    Fits user (pumpfunBuyLeg user pool a b account) := by
  refine .of_count ⟨18, rfl, by decide, by decide⟩ rfl rfl ?_
  rw [pumpfunBuyLeg, List.length_append, length_encodeU64Pair]
  exact (by decide : (26 : ℕ) < 2 ^ 16)

/-- **A sale on the bonding curve** has sixteen accounts, and one more for a
coin that pays its cashback. -/
theorem pumpfunSellLeg_fits (pool : PumpFunPool) (account : Pubkey) :
    Fits user (pumpfunSellLeg user pool a b account) := by
  have hdata : (pumpfunSellLeg user pool a b account).data.length < 2 ^ 16 := by
    rw [pumpfunSellLeg, length_encodeU64Pair]
    decide
  have haccounts : ∀ {c : Bool}, pool.isCashbackCoin = c →
      (pumpfunSellLeg user pool a b account).accounts.length = 16 + c.toNat := by
    rintro c rfl
    cases hc : pool.isCashbackCoin <;> simp [pumpfunSellLeg, hc]
  refine ⟨⟨?_, ?_, hdata⟩, ?_⟩
  · rw [haccounts rfl]
    exact Nat.lt_of_lt_of_le (by decide) (Nat.le_add_right 16 _)
  · rw [haccounts rfl]
    exact (Nat.add_le_add_left (Bool.toNat_le _) 16).trans (by decide)
  · refine onlySigner_append (onlySigner_append (onlySigner_of_filter rfl
      (List.forall_mem_singleton.mpr rfl)) ?_) (onlySigner_of_filter rfl fun _ h => by cases h)
    split
    · exact onlySigner_of_filter rfl fun _ h => by cases h
    · exact onlySigner_nil

/-- The second generation's legs have twenty-six accounts, and one more to buy.
-/
theorem pumpfunV2Leg_fits {pool : PumpFunPool} {isBuy : Bool}
    (haccounts : leg.accounts = pumpfunV2Accounts user pool isBuy)
    (hdata : leg.data.length < 2 ^ 16) : Fits user leg := by
  cases isBuy with
  | false =>
    exact .of_count ⟨26, by rw [haccounts]; rfl, by decide, by decide⟩
      (by rw [haccounts]; rfl) rfl hdata
  | true =>
    exact .of_count ⟨27, by rw [haccounts]; rfl, by decide, by decide⟩
      (by rw [haccounts]; rfl) rfl hdata

/-- **PumpSwap's accounts** are counted by the builder, since cashback, the
pool's version and the direction each add some; what is added never signs. -/
theorem pumpswapAccounts_fits [Upstream] {pool : PumpSwapPool} {isBuy : Bool}
    {metas : List AccountMeta} (h : pumpswapAccounts user pool isBuy = .ok metas) :
    (0 < metas.length ∧ metas.length ≤ Program.maxLegAccounts) ∧ OnlySigner user metas := by
  obtain ⟨_, -, h⟩ := bind_eq_ok.mp h
  obtain ⟨_, -, h⟩ := bind_eq_ok.mp h
  obtain ⟨⟨accumulator, _⟩, -, h⟩ := bind_eq_ok.mp h
  obtain ⟨poolV2, hpoolV2, h⟩ := bind_eq_ok.mp h
  obtain ⟨_, hbudget, h⟩ := bind_eq_ok.mp h
  cases h
  refine ⟨ensureLegAccountBudget_eq_ok hbudget, ?_⟩
  have hreadonly : OnlySigner user poolV2 := by
    unfold pumpswapPoolV2Metas at hpoolV2
    split at hpoolV2
    · obtain ⟨⟨_, _⟩, -, hpoolV2⟩ := bind_eq_ok.mp hpoolV2
      cases hpoolV2
      exact onlySigner_of_filter rfl fun _ h => by cases h
    · cases hpoolV2
      exact onlySigner_nil
  refine onlySigner_append (onlySigner_append (onlySigner_append (onlySigner_append
    (onlySigner_append (onlySigner_of_filter rfl (List.forall_mem_singleton.mpr rfl)) ?_)
    (onlySigner_of_filter rfl fun _ h => by cases h)) ?_) hreadonly)
    (onlySigner_of_filter rfl fun _ h => by cases h)
  · split
    · exact onlySigner_of_filter rfl fun _ h => by cases h
    · exact onlySigner_nil
  · split
    · cases isBuy <;> exact onlySigner_of_filter rfl fun _ h => by cases h
    · exact onlySigner_nil

/-- A leg with PumpSwap's accounts and short data fits. -/
theorem pumpswapLeg_fits [Upstream] {pool : PumpSwapPool} {isBuy : Bool}
    (haccounts : pumpswapAccounts user pool isBuy = .ok leg.accounts)
    (hdata : leg.data.length < 2 ^ 16) : Fits user leg := by
  obtain ⟨hcount, hsigned⟩ := pumpswapAccounts_fits haccounts
  exact ⟨⟨hcount.1, hcount.2, hdata⟩, hsigned⟩

/-- AMM V4's leg has eight accounts, under either tag. -/
theorem raydiumAmmV4Leg_fits {tag : UInt8} {pool : RaydiumAmmV4Pool} {input : Pubkey}
    (h : raydiumAmmV4Leg tag user pool a b input = .ok leg) : Fits user leg := by
  obtain ⟨_, -, h⟩ := bind_eq_ok.mp h
  obtain ⟨_, -, h⟩ := bind_eq_ok.mp h
  obtain ⟨_, -, h⟩ := bind_eq_ok.mp h
  cases h
  refine .of_count ⟨8, rfl, by decide, by decide⟩ rfl rfl ?_
  simp only [List.length_append, length_ofUInt64, List.length_singleton]
  decide

/-- **DAMM V2's leg** has fourteen accounts, and the sysvar of the rate limiter
where the pool has one. The referral account is optional, and no signer. -/
theorem meteoraDammV2SwapLeg_fits {pool : MeteoraDammV2Pool} {input : Pubkey}
    (h : meteoraDammV2SwapLeg user pool a b input = .ok leg) : Fits user leg := by
  obtain ⟨_, -, h⟩ := bind_eq_ok.mp h
  obtain ⟨_, -, h⟩ := bind_eq_ok.mp h
  obtain ⟨_, -, h⟩ := bind_eq_ok.mp h
  obtain ⟨forward, -, h⟩ := bind_eq_ok.mp h
  cases h
  have hreferral : (dammReferralMeta pool.referralTokenAccount).isSigner = false := by
    unfold dammReferralMeta
    cases pool.referralTokenAccount with
    | none => rfl
    | some key => exact (apply_ite AccountMeta.isSigner _ _ _).trans (ite_self _)
  have hdata : (encodeU64Pair meteoraDammV2Swap2 a b ++ [pool.swapMode]).length < 2 ^ 16 := by
    rw [List.length_append, length_encodeU64Pair]
    exact (by decide : (25 : ℕ) < 2 ^ 16)
  refine ⟨⟨Nat.succ_pos _, ?_, hdata⟩, onlySigner_append (onlySigner_of_filter
    (?_ : _ = [.newReadonly user true]) (List.forall_mem_singleton.mpr rfl)) ?_⟩
  · have hlimiter : (if pool.includeRateLimiterSysvar then [sysvarInstructionsMeta]
        else []).length ≤ 1 := by
      split <;> decide
    rw [List.length_append]
    exact (Nat.add_le_add_left hlimiter 14).trans (by decide)
  · simp only [List.filter_cons, hreferral]
    rfl
  · split
    · exact onlySigner_of_filter rfl fun _ h => by cases h
    · exact onlySigner_nil

/-- **CLMM's leg** carries its tick arrays, which the builder counts. -/
theorem raydiumClmmSwapLeg_fits {pool : RaydiumClmmPool} {input : Pubkey}
    (h : raydiumClmmSwapLeg user pool a b input = .ok leg) : Fits user leg := by
  obtain ⟨_, -, h⟩ := bind_eq_ok.mp h
  obtain ⟨_, -, h⟩ := bind_eq_ok.mp h
  obtain ⟨_, -, h⟩ := bind_eq_ok.mp h
  obtain ⟨_, -, h⟩ := bind_eq_ok.mp h
  obtain ⟨forward, -, h⟩ := bind_eq_ok.mp h
  obtain ⟨_, hbudget, h⟩ := bind_eq_ok.mp h
  cases h
  obtain ⟨hpos, hle⟩ := ensureLegAccountBudget_eq_ok hbudget
  refine ⟨⟨hpos, hle, ?_⟩, onlySigner_append (onlySigner_append (onlySigner_of_filter rfl
    (List.forall_mem_singleton.mpr rfl)) (onlySigner_map _)) (onlySigner_map _)⟩
  simp only [List.length_append, length_encodeU64Pair, ofU128, length_toLE,
    List.length_singleton]
  decide

/-- **Whirlpool's leg** also says in its data how many tick arrays are
supplementary. -/
theorem whirlpoolSwapLeg_fits {pool : WhirlpoolPool} {input : Pubkey}
    (h : whirlpoolSwapLeg user pool a b input = .ok leg) : Fits user leg := by
  obtain ⟨_, -, h⟩ := bind_eq_ok.mp h
  obtain ⟨_, -, h⟩ := bind_eq_ok.mp h
  obtain ⟨_, -, h⟩ := bind_eq_ok.mp h
  obtain ⟨_, -, h⟩ := bind_eq_ok.mp h
  obtain ⟨forward, -, h⟩ := bind_eq_ok.mp h
  obtain ⟨_, -, h⟩ := bind_eq_ok.mp h
  obtain ⟨_, -, h⟩ := bind_eq_ok.mp h
  obtain ⟨_, -, h⟩ := bind_eq_ok.mp h
  obtain ⟨_, hbudget, h⟩ := bind_eq_ok.mp h
  cases h
  obtain ⟨hpos, hle⟩ := ensureLegAccountBudget_eq_ok hbudget
  have hinfo : ∀ arrays, (whirlpoolRemainingAccountsInfo arrays).length ≤ 7 := by
    intro arrays
    unfold whirlpoolRemainingAccountsInfo
    split
    · exact (by decide : 1 ≤ 7)
    · exact le_rfl
  refine ⟨⟨hpos, hle, ?_⟩, onlySigner_append (onlySigner_of_filter rfl
    (List.forall_mem_singleton.mpr rfl)) (onlySigner_map _)⟩
  simp only [List.length_append, length_encodeU64Pair, ofU128, length_toLE,
    List.length_cons, List.length_nil]
  exact (Nat.add_le_add_left (hinfo _) _).trans_lt (by decide)

/-- **DLMM's leg** carries its bin arrays; the bitmap extension is optional, and
no signer. -/
theorem meteoraDlmmSwapLeg_fits [Upstream] {pool : MeteoraDlmmPool} {input : Pubkey}
    (h : meteoraDlmmSwapLeg user pool a b input = .ok leg) : Fits user leg := by
  obtain ⟨_, -, h⟩ := bind_eq_ok.mp h
  obtain ⟨_, -, h⟩ := bind_eq_ok.mp h
  obtain ⟨_, -, h⟩ := bind_eq_ok.mp h
  obtain ⟨_, -, h⟩ := bind_eq_ok.mp h
  obtain ⟨forward, -, h⟩ := bind_eq_ok.mp h
  obtain ⟨_, hbudget, h⟩ := bind_eq_ok.mp h
  cases h
  obtain ⟨hpos, hle⟩ := ensureLegAccountBudget_eq_ok hbudget
  have hbitmap : (dlmmBitmapMeta pool.bitmapExtension).isSigner = false := by
    unfold dlmmBitmapMeta
    cases pool.bitmapExtension with
    | none => rfl
    | some key => exact (apply_ite AccountMeta.isSigner _ _ _).trans (ite_self _)
  refine ⟨⟨hpos, hle, ?_⟩, onlySigner_append (onlySigner_of_filter
    (?_ : _ = [.newReadonly user true]) (List.forall_mem_singleton.mpr rfl)) (onlySigner_map _)⟩
  · rw [List.length_append, length_encodeU64Pair]
    exact (by decide : (28 : ℕ) < 2 ^ 16)
  · simp only [List.filter_cons, hbitmap]
    rfl

end Builders

/-! ## The legs of a trade -/

/-- All legs fit. -/
def AllFit (user : Pubkey) (legs : List Leg) : Prop := ∀ leg ∈ legs, Fits user leg

namespace RouterClient

variable [Pda] [Upstream] {client : RouterClient} {opts : TradeOpts} {amount : UInt64}
  {s : TradeSetup} {market : RoutedMarket}

/-- **Every exchange's leg fits**, whatever is done to set it up. -/
theorem fits_parts : Parts client (Fits client.payer) (fun _ => True) where
  launchlabBuy _ _ _ _ _ := launchlabLeg_fits rfl _ _ _
  launchlabSell _ _ _ _ _ := launchlabLeg_fits rfl _ _ _
  cpmm _ _ _ _ _ _ _ := fun _ => cpmmLeg_fits rfl
  cpmmExactOut _ _ _ _ _ _ _ := fun _ => cpmmLeg_fits rfl
  pumpfunBuy pool _ _ account := pumpfunBuyLeg_fits pool account
  pumpfunSell pool _ _ account := pumpfunSellLeg_fits pool account
  pumpfunBuyV2 pool amountIn minOut := by
    refine pumpfunV2Leg_fits rfl ?_
    rw [pumpfunBuyV2Leg, List.length_append, length_encodeU64Pair]
    decide
  pumpfunSellV2 pool amountIn minOut := by
    refine pumpfunV2Leg_fits rfl ?_
    rw [pumpfunSellV2Leg, length_encodeU64Pair]
    decide
  pumpswapBuy pool amountIn minOut := by
    refine yields_bind fun accounts haccounts => yields_pure (pumpswapLeg_fits haccounts ?_)
    rw [List.length_append, length_encodeU64Pair]
    decide
  pumpswapBuyExactOut pool amountOut maxAmountIn := by
    refine yields_bind fun accounts haccounts => yields_pure (pumpswapLeg_fits haccounts ?_)
    rw [List.length_append, length_encodeU64Pair]
    decide
  pumpswapSell pool amountIn minOut := by
    refine yields_bind fun accounts haccounts => yields_pure (pumpswapLeg_fits haccounts ?_)
    rw [length_encodeU64Pair]
    decide
  raydiumAmmV4 _ _ _ _ := fun _ => raydiumAmmV4Leg_fits
  raydiumAmmV4ExactOut _ _ _ _ := fun _ => raydiumAmmV4Leg_fits
  meteoraDammV2 _ _ _ _ := fun _ => meteoraDammV2SwapLeg_fits
  raydiumClmm _ _ _ _ := fun _ => raydiumClmmSwapLeg_fits
  whirlpool _ _ _ _ := fun _ => whirlpoolSwapLeg_fits
  meteoraDlmm _ _ _ _ := fun _ => meteoraDlmmSwapLeg_fits
  noted _ := id
  created _ _ _ _ := id
  prepared _ _ := id

/-- **The legs of a buy fit.** -/
theorem buildBuyLegs_fits : Yields (fun built => AllFit client.payer built.legs)
    (client.buildBuyLegs amount market opts s) :=
  fun built hbuilt => (fits_parts.buildBuyLegs trivial built hbuilt).1

/-- **The legs of a sale fit.** -/
theorem buildSellLegs_fits : Yields (fun built => AllFit client.payer built.legs)
    (client.buildSellLegs amount market opts s) :=
  fun built hbuilt => (fits_parts.buildSellLegs trivial built hbuilt).1

end RouterClient

end Sdk
