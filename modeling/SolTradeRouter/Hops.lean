import SolTradeRouter.LegFormat
import SolTradeRouter.Trade

/-!
# Hops

A hop is one swap of a trade: the instruction it is, the two sides of the
user it moves amounts between, and the quote of what it brings. A market
offers one hop for each asset it can be bought with and for each asset it
can be sold to; a bridge offers one for each of its mints.

Every single swap of the SDK is built for the hop of its pool. With an
exact input the leg encodes the amount and a minimum, and the minimum is
the caller's or what the slippage leaves of the hop's quote. With a fixed
output the leg is the exact-out instruction of the same exchange.
-/

namespace Sdk

open Outcome Bytes

/-- **One swap of a trade.** -/
structure Hop where
  format : LegFormat
  input : Side
  output : Side
  quote : UInt64 → Result UInt64

/-- A leg moves two amounts between the sides of a hop. -/
def Hop.Trades (hop : Hop) (user : Pubkey) (leg : Leg) (sent received : UInt64) : Prop :=
  Swaps leg hop.format user hop.input.account hop.output.account sent received

/-- The exact-out instruction of the same exchange. -/
def LegFormat.fixed : LegFormat → Option LegFormat
  | swap .cpmm => some cpmmBaseOut
  | swap .pumpswapBuy => some pumpswapExactOut
  | swap .ammV4 => some ammV4BaseOut
  | swap .damm => some dammExactOut
  | _ => none

/-! ## The hops of a pool -/

section Pools

variable [Pda]

/-- The user's lamports. -/
def Side.native (user : Pubkey) : Side := ⟨user, systemProgram, systemProgram⟩

/-- The quote a snapshot carries: for one input mint and one amount. -/
def snapshotQuote (quotedInputMint : Option Pubkey)
    (expectedOut quotedAmountIn : Option UInt64) (dex : String) (input : Pubkey)
    (amountIn : UInt64) : Result UInt64 := do
  bailIf (quotedInputMint ≠ some input) "quote input mint/direction is missing or mismatched"
  snapshotExpectedOut expectedOut quotedAmountIn amountIn dex

/-- A buy on the curve, out of the user's account for its quote. -/
def LaunchLabPool.buyHop (pool : LaunchLabPool) (user : Pubkey) : Hop where
  format := .swap .launchlabBuy
  input := .ofAta user pool.quoteMint pool.quoteTokenProgram
  output := .ofAta user pool.baseMint pool.baseTokenProgram
  quote := launchlabBuyBaseOut pool

/-- And a sale. -/
def LaunchLabPool.sellHop (pool : LaunchLabPool) (user : Pubkey) : Hop where
  format := .launchlabSell
  input := .ofAta user pool.baseMint pool.baseTokenProgram
  output := .ofAta user pool.quoteMint pool.quoteTokenProgram
  quote := launchlabSellQuoteOut pool

/-- The user's account for a mint of the pool. -/
def CpmmPool.side (pool : CpmmPool) (user mint : Pubkey) : Side :=
  .ofAta user mint (Sdk.tokenProgramFor pool mint)

/-- A swap on a CPMM pool, out of either mint. -/
def CpmmPool.hop (pool : CpmmPool) (user input : Pubkey) : Hop where
  format := .swap .cpmm
  input := pool.side user input
  output := pool.side user (pool.pair.outputMint input)
  quote n := cpmmOut pool n (input = pool.baseMint)

/-- A buy with lamports, or with the quote in the user's account. -/
def PumpFunPool.buyHop (pool : PumpFunPool) (user : Pubkey) (native : Bool) : Hop where
  format := if native then .pumpfunBuy else .pumpfunBuyV2
  input := if native then .native user else .ofAta user pool.quoteMint pool.quoteTokenProgram
  output := .ofAta user pool.mint pool.mintTokenProgram
  quote := pumpfunBuyTokenOut pool

/-- A sale for lamports, or for the quote. -/
def PumpFunPool.sellHop (pool : PumpFunPool) (user : Pubkey) (native : Bool) : Hop where
  format := if native then .pumpfunSell else .pumpfunSellV2
  input := .ofAta user pool.mint pool.mintTokenProgram
  output := if native then .native user else .ofAta user pool.quoteMint pool.quoteTokenProgram
  quote := pumpfunSellSolOut pool

/-- A buy on PumpSwap. -/
def PumpSwapPool.buyHop (pool : PumpSwapPool) (user : Pubkey) : Hop where
  format := .swap .pumpswapBuy
  input := .ofAta user pool.quoteMint pool.quoteTokenProgram
  output := .ofAta user pool.baseMint pool.baseTokenProgram
  quote := pumpswapBuyBaseOut pool

/-- And a sale. -/
def PumpSwapPool.sellHop (pool : PumpSwapPool) (user : Pubkey) : Hop where
  format := .swap .pumpswapSell
  input := .ofAta user pool.baseMint pool.baseTokenProgram
  output := .ofAta user pool.quoteMint pool.quoteTokenProgram
  quote := pumpswapSellQuoteOut pool

/-- A swap on AMM V4. -/
def RaydiumAmmV4Pool.hop (pool : RaydiumAmmV4Pool) (user input : Pubkey) : Hop where
  format := .swap .ammV4
  input := pool.pair.input user input
  output := pool.pair.output user input
  quote n := raydiumAmmV4Out pool n (input = pool.coinMint)

/-- On DAMM V2, at the quote of its snapshot. -/
def MeteoraDammV2Pool.hop (pool : MeteoraDammV2Pool) (user input : Pubkey) : Hop where
  format := .swap .damm
  input := pool.pair.input user input
  output := pool.pair.output user input
  quote n := meteoraDammV2Out pool n (input = pool.tokenAMint)

/-- On CLMM. -/
def RaydiumClmmPool.hop (pool : RaydiumClmmPool) (user input : Pubkey) : Hop where
  format := .swap .clmm
  input := pool.pair.input user input
  output := pool.pair.output user input
  quote := snapshotQuote pool.quotedInputMint pool.expectedOut pool.quotedAmountIn
    "Raydium CLMM" input

/-- On Whirlpool. -/
def WhirlpoolPool.hop (pool : WhirlpoolPool) (user input : Pubkey) : Hop where
  format := .swap .whirlpool
  input := pool.pair.input user input
  output := pool.pair.output user input
  quote := snapshotQuote pool.quotedInputMint pool.expectedOut pool.quotedAmountIn
    "Orca Whirlpool" input

/-- And on DLMM. -/
def MeteoraDlmmPool.hop (pool : MeteoraDlmmPool) (user input : Pubkey) : Hop where
  format := .swap .dlmm
  input := pool.pair.input user input
  output := pool.output user input
  quote := snapshotQuote pool.quotedInputMint pool.expectedOut pool.quotedAmountIn
    "Meteora DLMM" input

/-! ## The hops of a market -/

/-- **The hop that buys the meme** for a token, or for lamports. -/
def Market.buyHop (market : Market) (user : Pubkey) (asset : Option Pubkey) : Hop :=
  let input := asset.getD wsolMint
  match market with
  | .launchLabInner pool => pool.buyHop user
  | .cpmmOuter pool => pool.hop user input
  | .pumpFunInner pool => pool.buyHop user asset.isNone
  | .pumpSwapOuter pool => pool.buyHop user
  | .raydiumAmmV4 pool => pool.hop user input
  | .meteoraDammV2 pool => pool.hop user input
  | .raydiumClmm pool => pool.hop user input
  | .whirlpool pool => pool.hop user input
  | .meteoraDlmm pool => pool.hop user input

/-- **The hop that sells the meme** for a token, or for lamports. -/
def Market.sellHop (market : Market) (user : Pubkey) (asset : Option Pubkey) : Hop :=
  let output := asset.getD wsolMint
  match market with
  | .launchLabInner pool => pool.sellHop user
  | .cpmmOuter pool => pool.hop user (pool.pair.outputMint output)
  | .pumpFunInner pool => pool.sellHop user asset.isNone
  | .pumpSwapOuter pool => pool.sellHop user
  | .raydiumAmmV4 pool => pool.hop user (pool.pair.outputMint output)
  | .meteoraDammV2 pool => pool.hop user (pool.pair.outputMint output)
  | .raydiumClmm pool => pool.hop user (pool.pair.outputMint output)
  | .whirlpool pool => pool.hop user (pool.pair.outputMint output)
  | .meteoraDlmm pool => pool.hop user (pool.pair.outputMint output)

/-- The hop of a bridge from one of its mints to the other. -/
def BridgePool.hop (bridge : BridgePool) (user input : Pubkey) : Hop :=
  match bridge with
  | .cpmm pool => pool.hop user input
  | .ammV4 pool => pool.hop user input

/-- The asset a buy pays with on its first hop; `none` are lamports. -/
def RoutedMarket.payAsset (market : RoutedMarket) : BuyWith → Option Pubkey
  | .token mint => some mint
  | .wsol => some wsolMint
  | .sol => if market.market.isPumpNativeSol then none else some wsolMint

/-- The asset a sale brings on its last hop; `none` are lamports. -/
def RoutedMarket.receiveAsset (market : RoutedMarket) : SellTo → Option Pubkey
  | .token mint => some mint
  | .wsol => some wsolMint
  | .sol => if market.market.isPumpNativeSol then none else some wsolMint

/-- The exchanges whose swap is quoted even if the caller gives a minimum. -/
def Market.alwaysQuoted : Market → Bool
  | .launchLabInner _ | .cpmmOuter _ | .pumpSwapOuter _ | .raydiumAmmV4 _ => true
  | .pumpFunInner _ | .meteoraDammV2 _ | .raydiumClmm _ | .whirlpool _ | .meteoraDlmm _ =>
    false

end Pools

/-! ## Minimums -/

/-- **What the slippage leaves of a quote**: a share of it, but at least one
unit of a positive quote. -/
theorem applySlippageMinOut_toNat (amount slippageBps : UInt64) :
    (applySlippageMinOut amount slippageBps).toNat =
      if amount.toNat = 0 then 0
      else max (amount.toNat * (10000 - min slippageBps.toNat 9999) / 10000) 1 := by
  have hclamp : (clampSlippageBps slippageBps).toNat = min slippageBps.toNat 9999 := by
    show (if slippageBps ≤ maxSlippageBps then slippageBps else maxSlippageBps).toNat = _
    split
    · rename_i hle
      exact (Nat.min_eq_left (UInt64.le_iff_toNat_le.mp hle)).symm
    · rename_i hle
      exact (Nat.min_eq_right (Nat.le_of_not_le (mt UInt64.le_iff_toNat_le.mpr hle))).symm
  have hshare : 10000 - min slippageBps.toNat 9999 < 2 ^ 64 := by omega
  have hle : amount.toNat * (10000 - min slippageBps.toNat 9999) / 10000 ≤ amount.toNat :=
    Nat.div_le_of_le_mul (Nat.mul_comm _ _ ▸ Nat.mul_le_mul_right _ (Nat.sub_le ..))
  have hlt : amount.toNat * (10000 - min slippageBps.toNat 9999) / 10000 < 2 ^ 64 :=
    hle.trans_lt amount.toNat_lt
  have hsat : ∀ n, n < 2 ^ 64 → U64.sat n = n := fun n hn =>
    le_antisymm (Nat.min_le_left ..) (U64.le_sat le_rfl hn)
  unfold applySlippageMinOut
  dsimp only
  rw [hclamp, U128.satMul_eq amount.toNat_lt hshare, hsat _ hlt]
  by_cases hzero : amount = 0
  · subst hzero
    rfl
  · rw [if_neg hzero, if_neg (U64.pos_iff.mp hzero).ne']
    have hout := U64.toNat_ofNat hlt
    generalize UInt64.ofNat _ = out at hout
    rw [← hout]
    show (if out ≤ 1 then 1 else out).toNat = max out.toNat 1
    split
    · rename_i hle
      exact (Nat.max_eq_right (UInt64.le_iff_toNat_le.mp hle)).symm
    · rename_i hle
      exact (Nat.max_eq_left (Nat.le_of_not_le (mt UInt64.le_iff_toNat_le.mpr hle))).symm

/-- A tolerance never raises a minimum above its quote. -/
theorem applySlippageMinOut_le (amount slippageBps : UInt64) :
    applySlippageMinOut amount slippageBps ≤ amount := by
  have hle : amount.toNat * (10000 - min slippageBps.toNat 9999) / 10000 ≤ amount.toNat :=
    Nat.div_le_of_le_mul (Nat.mul_comm _ _ ▸ Nat.mul_le_mul_right _ (Nat.sub_le ..))
  rw [UInt64.le_iff_toNat_le, applySlippageMinOut_toNat]
  split
  · exact Nat.zero_le _
  · rename_i hzero
    exact Nat.max_le.mpr ⟨hle, Nat.pos_of_ne_zero hzero⟩

/-- And never makes it zero. -/
theorem applySlippageMinOut_eq_zero {amount slippageBps : UInt64} :
    applySlippageMinOut amount slippageBps = 0 ↔ amount = 0 := by
  rw [← UInt64.toNat_inj, applySlippageMinOut_toNat, ← UInt64.toNat_inj]
  show _ = 0 ↔ amount.toNat = 0
  split
  · rename_i hzero
    exact iff_of_true rfl hzero
  · rename_i hzero
    exact iff_of_false (by omega) hzero

/-- Without slippage the minimum is the quote. -/
theorem applySlippageMinOut_zero (amount : UInt64) : applySlippageMinOut amount 0 = amount := by
  rw [← UInt64.toNat_inj, applySlippageMinOut_toNat]
  show (if amount.toNat = 0 then 0 else max (amount.toNat * 10000 / 10000) 1) = amount.toNat
  rw [Nat.mul_div_cancel _ (by decide)]
  split
  · rename_i hzero
    exact hzero.symm
  · rename_i hzero
    exact Nat.max_eq_left (Nat.pos_of_ne_zero hzero)

/-- **The minimum of a swap**: the caller's, or what the slippage leaves of
the quote. -/
def TradeOpts.Floor (opts : TradeOpts) (quote : Result UInt64) (minOut : UInt64) : Prop :=
  match opts.minOut with
  | some minimum => minOut = minimum
  | none => ∃ e, quote = .ok e ∧ minOut = applySlippageMinOut e opts.slippageBps

namespace TradeOpts

variable {opts : TradeOpts} {quote : Result UInt64} {minOut expected : UInt64}

/-- A quote less the slippage is a floor for it. -/
theorem floor_of_quote (h : quote = .ok expected) : opts.Floor quote (opts.floor expected) := by
  unfold Floor floor
  cases opts.minOut with
  | some minimum => rfl
  | none => exact ⟨expected, h, rfl⟩

/-- A minimum that needed a quote had one. -/
theorem quotedMinOut_eq_ok (h : opts.quotedMinOut quote = .ok minOut) :
    opts.Floor quote minOut ∧ ∃ e, quote = .ok e := by
  obtain ⟨expected, hquote, h⟩ := bind_eq_ok.mp h
  cases h
  exact ⟨floor_of_quote hquote, expected, hquote⟩

/-- An explicit minimum needs none. -/
theorem minOutOr_eq_ok (h : opts.minOutOr quote = .ok minOut) : opts.Floor quote minOut := by
  unfold minOutOr at h
  unfold Floor
  cases hmin : opts.minOut with
  | some minimum =>
    rw [hmin] at h
    cases h
    rfl
  | none =>
    rw [hmin] at h
    obtain ⟨expected, hquote, h⟩ := bind_eq_ok.mp h
    cases h
    exact ⟨expected, hquote, rfl⟩

/-- A swap on a concentrated pool takes the quote of the snapshot. -/
theorem concentrated_floor {quotedInputMint : Option Pubkey}
    {expectedOut quotedAmountIn : Option UInt64} {dex : String} {input : Pubkey}
    {amountIn : UInt64} {u : Unit}
    (hdirection : assertQuoteDirection quotedInputMint input opts.minOut = .ok u)
    (h : concentratedMinOut expectedOut quotedAmountIn amountIn opts.minOut opts.slippageBps
      dex = .ok minOut) :
    opts.Floor (snapshotQuote quotedInputMint expectedOut quotedAmountIn dex input amountIn)
      minOut := by
  unfold concentratedMinOut at h
  unfold Floor
  cases hmin : opts.minOut with
  | some minimum =>
    rw [hmin] at h
    cases h
    rfl
  | none =>
    rw [hmin] at h hdirection
    have hinput : ¬ (quotedInputMint ≠ some input) := fun hne =>
      failIf_eq_ok.mp hdirection ⟨rfl, hne⟩
    cases hqin : quotedAmountIn with
    | none =>
      rw [hqin] at h
      cases h
    | some qin =>
      rw [hqin] at h
      obtain ⟨_, hamount, h⟩ := bind_eq_ok.mp h
      obtain ⟨expected, hexpected, h⟩ := bind_eq_ok.mp h
      cases h
      have hqin : qin = amountIn := not_not.mp (failIf_eq_ok.mp hamount)
      refine ⟨expected, ?_, rfl⟩
      unfold snapshotQuote snapshotExpectedOut
      simp only [bailIf, failIf, if_neg hinput, ok_bind, okOr_eq_ok.mp hexpected, okOr_some]
      exact if_pos hqin

end TradeOpts

end Sdk
