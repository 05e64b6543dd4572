import SolTradeRouter.MergeSnapshots
import SolTradeRouter.PumpFunSnapshot
import SolTradeRouter.StrictGuard

/-!
# Markets from events

A bot follows the exchanges as a stream of decoded events, and trades on the
snapshots it builds from them. An event says which accounts a pool has, and
often what somebody has just paid there. What somebody has paid is no price:
a snapshot that an event fills in leaves the fee rates, the reserves or the
quote open wherever the event does not state the present ones.

What is shown is that this holds through a whole run. A market is read off an
event, further swaps of its pool are merged in, and the caller supplies parts
of a quote; as long as the mint or the output is withheld, a trade that sets
neither a minimum nor an output is refused, on every exchange but Pump.fun and – for
purchases – PumpSwap, whose events state the reserves they leave.

The events are those of the parser crate, with the fields that are read here.
-/

namespace Sdk

open Outcome

/-! ## Events -/

/-- The constant of the parser crate that is read here: the mint it writes for
a curve quoted in SOL. -/
class ParserSdk where
  pumpfunSolscanSolQuoteMint : Pubkey

/-- A trade on a PumpFun curve, as it is streamed. -/
structure PumpFunTradeEvent where
  ixName : String
  mint : Pubkey
  tokenProgram : Pubkey
  quoteMint : Pubkey
  quoteTokenProgram : Pubkey
  bondingCurve : Pubkey
  associatedBondingCurve : Pubkey
  creatorVault : Pubkey
  feeRecipient : Pubkey
  buybackFeeRecipient : Pubkey
  global : Pubkey
  eventAuthority : Pubkey
  globalVolumeAccumulator : Pubkey
  feeConfig : Pubkey
  feeProgram : Pubkey
  bondingCurveV2 : Pubkey
  creator : Pubkey
  virtualTokenReserves : UInt64
  virtualQuoteReserves : UInt64
  virtualSolReserves : UInt64
  realTokenReserves : UInt64
  feeBasisPoints : UInt64
  creatorFeeBasisPoints : UInt64
  cashbackFeeBasisPoints : UInt64
  isCashbackCoin : Bool

/-- A PumpSwap buy or sale. The two events are distinct types with the same
fields, as far as these are read. -/
structure PumpSwapTradeEvent where
  pool : Pubkey
  baseMint : Pubkey
  quoteMint : Pubkey
  poolBaseTokenAccount : Pubkey
  poolQuoteTokenAccount : Pubkey
  baseTokenProgram : Pubkey
  quoteTokenProgram : Pubkey
  coinCreatorVaultAta : Pubkey
  coinCreatorVaultAuthority : Pubkey
  coinCreator : Pubkey
  poolBaseTokenReserves : UInt64
  poolQuoteTokenReserves : UInt64
  virtualQuoteReserves : BitVec 128
  lpFeeBasisPoints : UInt64
  protocolFeeBasisPoints : UInt64
  coinCreatorFeeBasisPoints : UInt64
  cashbackFeeBasisPoints : UInt64
  protocolFeeRecipient : Pubkey
  feeRecipient : Pubkey

/-- A trade on a LaunchLab curve. -/
structure RaydiumLaunchlabTradeEvent where
  poolState : Pubkey
  baseMint : Pubkey
  quoteMint : Pubkey
  baseTokenProgram : Pubkey
  quoteTokenProgram : Pubkey
  baseVault : Pubkey
  quoteVault : Pubkey
  platformConfig : Pubkey
  platformAssociatedAccount : Pubkey
  creatorAssociatedAccount : Pubkey
  globalConfig : Pubkey
  virtualBase : UInt64
  virtualQuote : UInt64
  realBaseAfter : UInt64
  realQuoteAfter : UInt64
  totalBaseSell : UInt64

/-- The state of a CPMM pool. -/
structure RaydiumCpmmPoolStateAccountEvent where
  pubkey : Pubkey
  ammConfig : Pubkey
  observationKey : Pubkey
  token0Mint : Pubkey
  token1Mint : Pubkey
  token0Vault : Pubkey
  token1Vault : Pubkey
  token0Program : Pubkey
  token1Program : Pubkey

/-- A CLMM swap, with what a merge does not read. -/
structure RaydiumClmmSwap extends RaydiumClmmSwapEvent where
  inputMint : Pubkey
  outputMint : Pubkey
  inputVault : Pubkey
  outputVault : Pubkey
  transferFee0 : UInt64
  transferFee1 : UInt64

/-- The state of a CLMM pool. -/
structure RaydiumClmmPoolStateAccountEvent where
  pubkey : Pubkey
  ammConfig : Pubkey
  observationKey : Pubkey
  tokenMint0 : Pubkey
  tokenMint1 : Pubkey
  tokenVault0 : Pubkey
  tokenVault1 : Pubkey

/-- The state of a Whirlpool. -/
structure OrcaWhirlpoolAccountEvent where
  pubkey : Pubkey
  tokenMintA : Pubkey
  tokenMintB : Pubkey
  tokenVaultA : Pubkey
  tokenVaultB : Pubkey
  /-- In hundredths of a basis point. -/
  feeRate : UInt16

/-- A swap on DLMM. -/
structure MeteoraDlmmSwapEvent where
  pool : Pubkey
  bitmapExtension : Option Pubkey
  reserveX : Pubkey
  reserveY : Pubkey
  tokenXMint : Pubkey
  tokenYMint : Pubkey
  tokenXProgram : Pubkey
  tokenYProgram : Pubkey
  oracle : Pubkey
  binArrays : List Pubkey
  amountIn : UInt64

/-- A swap on DAMM V2. -/
structure MeteoraDammV2SwapEvent where
  pool : Pubkey
  tokenAVault : Pubkey
  tokenBVault : Pubkey
  tokenAMint : Pubkey
  tokenBMint : Pubkey
  tokenAProgram : Pubkey
  tokenBProgram : Pubkey
  amountIn : UInt64
  referralTokenAccount : Option Pubkey

/-- A swap on AMM V4. -/
structure RaydiumAmmV4SwapEvent where
  amm : Pubkey
  poolCoinTokenAccount : Pubkey
  poolPcTokenAccount : Pubkey
  tokenProgram : Pubkey

/-- **A decoded event.** A CPMM swap carries nothing that is read, and the
events that no market comes from are one case here. -/
inductive DexEvent where
  | pumpFunTrade (e : PumpFunTradeEvent)
  | pumpFunBuy (e : PumpFunTradeEvent)
  | pumpFunSell (e : PumpFunTradeEvent)
  | pumpFunBuyExactSolIn (e : PumpFunTradeEvent)
  | pumpSwapBuy (e : PumpSwapTradeEvent)
  | pumpSwapSell (e : PumpSwapTradeEvent)
  | raydiumLaunchlabTrade (e : RaydiumLaunchlabTradeEvent)
  | raydiumCpmmSwap
  | raydiumCpmmPoolStateAccount (e : RaydiumCpmmPoolStateAccountEvent)
  | raydiumClmmSwap (e : RaydiumClmmSwap)
  | raydiumClmmPoolStateAccount (e : RaydiumClmmPoolStateAccountEvent)
  | orcaWhirlpoolSwap (e : OrcaWhirlpoolSwapEvent)
  | orcaWhirlpoolAccount (e : OrcaWhirlpoolAccountEvent)
  | meteoraDlmmSwap (e : MeteoraDlmmSwapEvent)
  | meteoraDammV2Swap (e : MeteoraDammV2SwapEvent)
  | raydiumAmmV4Swap (e : RaydiumAmmV4SwapEvent)
  | other

/-! ## Pools -/

/-- A key that was not streamed is the fallback. -/
def orDefault (pk fallback : Pubkey) : Pubkey := if pk = Pubkey.default then fallback else pk

/-- An unnamed token program is the classic one. -/
def tpOrSpl (pk : Pubkey) : Pubkey := orDefault pk tokenProgram

/-- The input of an observed swap, if there was one. -/
def observedAmountIn (amount : UInt64) : Option UInt64 := (some amount).filter (0 < ·)

/-- Best-effort token program for a known mint without RPC. Classic quote mints
have known owners; an unknown mint stays unresolved. -/
def knownMintTokenProgram (mint : Pubkey) : Pubkey :=
  if mint ∈ [wsolMint, usdcMint, usdtMint] then tokenProgram else Pubkey.default

/-- The instructions of the first generation. -/
def pumpfunV1Names : List String := ["buy", "sell", "buy_exact_sol_in"]

/-- And of the second. -/
def pumpfunV2Names : List String := ["buy_v2", "sell_v2", "buy_exact_quote_in_v2"]

/-- Unchecked field conversion. Prefer `tryPumpfunFromTrade` for events received
directly from a subscription; zero fields remain incomplete. -/
def pumpfunFromTrade [ParserSdk] (e : PumpFunTradeEvent) : PumpFunPool :=
  let quoteMint := if e.quoteMint = ParserSdk.pumpfunSolscanSolQuoteMint then wsolMint
    else e.quoteMint
  { mint := e.mint
    mintTokenProgram := e.tokenProgram
    quoteMint
    quoteTokenProgram :=
      if e.ixName ∈ pumpfunV1Names ∧ quoteMint = wsolMint then tpOrSpl e.quoteTokenProgram
      else e.quoteTokenProgram
    useV2 := e.ixName ∈ pumpfunV2Names ∨ quoteMint ≠ wsolMint
    bondingCurve := e.bondingCurve
    associatedBondingCurve := e.associatedBondingCurve
    creatorVault := e.creatorVault
    feeRecipient := e.feeRecipient
    buybackFeeRecipient := orDefault e.buybackFeeRecipient pumpfunBuybackFeeRecipient
    global := orDefault e.global pumpfunGlobal
    eventAuthority := orDefault e.eventAuthority pumpfunEventAuthority
    globalVolumeAccumulator :=
      orDefault e.globalVolumeAccumulator pumpfunGlobalVolumeAccumulator
    feeConfig := orDefault e.feeConfig pumpfunFeeConfig
    feeProgram := orDefault e.feeProgram pumpfunFeeProgram
    bondingCurveV2 := e.bondingCurveV2
    virtualTokenReserves := e.virtualTokenReserves
    virtualSolReserves :=
      if e.virtualQuoteReserves ≠ 0 then e.virtualQuoteReserves else e.virtualSolReserves
    realTokenReserves := e.realTokenReserves
    protocolFeeBps := e.feeBasisPoints
    creatorFeeBps := e.creatorFeeBasisPoints
    feeRatesKnown := e.ixName ∈ pumpfunV1Names ++ pumpfunV2Names
    hasCreator := e.creator ≠ Pubkey.default
    isCashbackCoin := e.isCashbackCoin ∨ e.cashbackFeeBasisPoints > 0 }

/-- **A V1/V2 market usable by the router's quote/build path.** Input-only route
callbacks and unresolved ALT accounts require a current cached snapshot. V3 uses
the explicit V3 pool instead of a legacy market. -/
def tryPumpfunFromTrade [ParserSdk] (e : PumpFunTradeEvent) : Option PumpFunPool :=
  if e.ixName ∉ pumpfunV1Names ++ pumpfunV2Names
      ∨ Pubkey.default ∈ [e.mint, e.quoteMint, e.bondingCurve, e.associatedBondingCurve,
        e.creatorVault, e.feeRecipient, e.tokenProgram]
      ∨ "_v2".toList <:+ e.ixName.toList ∧ e.quoteTokenProgram = Pubkey.default then none
  else
    let pool := pumpfunFromTrade e
    if pool.virtualTokenReserves > 0 ∧ pool.virtualSolReserves > 0 then some pool else none

/-- The pool of a PumpSwap trade. An event does not state the fees that the
quote vault holds back. -/
def pumpswapFromTrade (e : PumpSwapTradeEvent) : PumpSwapPool where
  pool := e.pool
  baseMint := e.baseMint
  quoteMint := e.quoteMint
  poolBaseTokenAccount := e.poolBaseTokenAccount
  poolQuoteTokenAccount := e.poolQuoteTokenAccount
  baseTokenProgram := e.baseTokenProgram
  quoteTokenProgram := e.quoteTokenProgram
  coinCreatorVaultAta := e.coinCreatorVaultAta
  coinCreatorVaultAuthority := e.coinCreatorVaultAuthority
  coinCreator := e.coinCreator
  baseReserve := e.poolBaseTokenReserves
  quoteReserve := e.poolQuoteTokenReserves
  virtualQuoteReserves := e.virtualQuoteReserves
  quoteFeeReserves := none
  lpFeeBps := e.lpFeeBasisPoints
  protocolFeeBps := e.protocolFeeBasisPoints
  creatorFeeBps := U64.satAdd e.coinCreatorFeeBasisPoints e.cashbackFeeBasisPoints
  isCashbackCoin := e.cashbackFeeBasisPoints > 0
  protocolFeeRecipient := e.protocolFeeRecipient
  buybackFeeRecipient := orDefault e.feeRecipient pumpfunBuybackFeeRecipient

/-- A pool from a buy on it. -/
def pumpswapFromBuy (e : PumpSwapTradeEvent) : PumpSwapPool := pumpswapFromTrade e

/-- And from a sale. -/
def pumpswapFromSell (e : PumpSwapTradeEvent) : PumpSwapPool := pumpswapFromTrade e

/-- PDA: platform fee vault for LaunchLab. -/
def launchlabPlatformAssociatedAccount [Pda] (platformConfig quoteMint : Pubkey) :
    Option Pubkey :=
  (Pda.tryFind [platformConfig.bytes, quoteMint.bytes] launchlabProgram).map Prod.fst

/-- A trade states the curve's reserves, but none of the fee rates. -/
def launchlabFromTrade [Pda] (e : RaydiumLaunchlabTradeEvent) : Option LaunchLabPool :=
  if e.poolState = Pubkey.default ∨ e.baseMint = Pubkey.default then none
  else some
    { baseMint := e.baseMint
      quoteMint := orDefault e.quoteMint wsolMint
      baseTokenProgram := tpOrSpl e.baseTokenProgram
      quoteTokenProgram := tpOrSpl e.quoteTokenProgram
      poolState := e.poolState
      baseVault := e.baseVault
      quoteVault := e.quoteVault
      platformConfig := e.platformConfig
      platformAssociatedAccount :=
        if e.platformAssociatedAccount = Pubkey.default then
          (launchlabPlatformAssociatedAccount e.platformConfig e.quoteMint).getD Pubkey.default
        else e.platformAssociatedAccount
      creatorAssociatedAccount := e.creatorAssociatedAccount
      globalConfig := e.globalConfig
      virtualBase := .ofNat 128 e.virtualBase.toNat
      virtualQuote := .ofNat 128 e.virtualQuote.toNat
      realBase := .ofNat 128 e.realBaseAfter.toNat
      realQuote := .ofNat 128 e.realQuoteAfter.toNat
      totalBaseSell := .ofNat 128 e.totalBaseSell.toNat
      curveType := 0
      feeRatesKnown := false
      tradeFeeRate := 0
      platformFeeRate := 0
      creatorFeeRate := 0
      baseTransferFee := .none
      quoteTransferFee := .none }

/-- Preserve the token programs recorded in the pool state, including
Token-2022. Reserves, current config and mint fee state still require an external
overlay. -/
def cpmmFromPoolState (e : RaydiumCpmmPoolStateAccountEvent) : CpmmPool where
  poolState := e.pubkey
  ammConfig := e.ammConfig
  observationState := e.observationKey
  baseMint := e.token0Mint
  quoteMint := e.token1Mint
  baseVault := e.token0Vault
  quoteVault := e.token1Vault
  baseTokenProgram := e.token0Program
  quoteTokenProgram := e.token1Program
  baseReserve := 0
  quoteReserve := 0
  feeRatesKnown := false
  tradeFeeRate := 0
  creatorFeeRate := 0
  creatorFeeOn := 0
  enableCreatorFee := false
  baseTransferFee := .none
  quoteTransferFee := .none

/-- Overlay Token-2022 / SPL programs onto a CLMM snapshot (call after mint
owners are known). -/
def clmmApplyTokenPrograms (pool : RaydiumClmmPool) (token0Program token1Program : Pubkey) :
    RaydiumClmmPool :=
  { pool with token0Program, token1Program }

/-- A non-zero transfer fee on a side strongly implies Token-2022 for that mint;
otherwise unknown owners are left unresolved. -/
def clmmMintProgram (transferFee : UInt64) (mint : Pubkey) : Pubkey :=
  if transferFee > 0 then token2022Program else knownMintTokenProgram mint

/-- A CLMM pool from a swap on it, which says no price. -/
def clmmFromSwap (e : RaydiumClmmSwap) : Option RaydiumClmmPool :=
  if e.poolState = Pubkey.default ∨ e.tickArrays = [] then none
  else
    let token0Mint := if e.zeroForOne then e.inputMint else e.outputMint
    let token1Mint := if e.zeroForOne then e.outputMint else e.inputMint
    some
      { ammConfig := e.ammConfig
        poolState := e.poolState
        observationState := e.observationState
        token0Mint
        token1Mint
        token0Vault := if e.zeroForOne then e.inputVault else e.outputVault
        token1Vault := if e.zeroForOne then e.outputVault else e.inputVault
        token0Program := clmmMintProgram e.transferFee0 token0Mint
        token1Program := clmmMintProgram e.transferFee1 token1Mint
        tickArrays := e.tickArrays
        tickArrayBitmapExtension := e.tickArrayBitmapExtension
        quotedAmountIn := observedAmountIn (if e.zeroForOne then e.amount0 else e.amount1)
        quotedInputMint := none
        -- Observed historical output is not a current quote.
        expectedOut := none
        feeBps := 0 }

/-- And from its state. -/
def clmmFromPoolState (e : RaydiumClmmPoolStateAccountEvent) : RaydiumClmmPool where
  ammConfig := e.ammConfig
  poolState := e.pubkey
  observationState := e.observationKey
  token0Mint := e.tokenMint0
  token1Mint := e.tokenMint1
  token0Vault := e.tokenVault0
  token1Vault := e.tokenVault1
  token0Program := knownMintTokenProgram e.tokenMint0
  token1Program := knownMintTokenProgram e.tokenMint1
  tickArrays := []
  tickArrayBitmapExtension := none
  quotedAmountIn := none
  quotedInputMint := none
  expectedOut := none
  feeBps := 0

/-- A Whirlpool from a swap on it. -/
def whirlpoolFromSwap (e : OrcaWhirlpoolSwapEvent) : Option WhirlpoolPool :=
  let ticks := [e.tickArray0, e.tickArray1, e.tickArray2]
  if e.whirlpool = Pubkey.default ∨ Pubkey.default ∈ ticks then none
  else some
    { whirlpool := e.whirlpool
      mintA := e.tokenMintA
      mintB := e.tokenMintB
      vaultA := e.tokenVaultA
      vaultB := e.tokenVaultB
      tokenProgramA := e.tokenProgramA
      tokenProgramB := e.tokenProgramB
      tickArrays := ticks
      quotedAmountIn := observedAmountIn e.inputAmount
      quotedInputMint := none
      expectedOut := none
      feeBps := 0 }

/-- And from its state. -/
def whirlpoolFromAccount (e : OrcaWhirlpoolAccountEvent) : WhirlpoolPool where
  whirlpool := e.pubkey
  mintA := e.tokenMintA
  mintB := e.tokenMintB
  vaultA := e.tokenVaultA
  vaultB := e.tokenVaultB
  tokenProgramA := knownMintTokenProgram e.tokenMintA
  tokenProgramB := knownMintTokenProgram e.tokenMintB
  tickArrays := []
  quotedAmountIn := none
  quotedInputMint := none
  expectedOut := none
  feeBps := e.feeRate / 100

/-- A DLMM pool from a swap on it. -/
def dlmmFromSwap (e : MeteoraDlmmSwapEvent) : Option MeteoraDlmmPool :=
  if e.pool = Pubkey.default ∨ e.binArrays = [] then none
  else some
    { lbPair := e.pool
      bitmapExtension := e.bitmapExtension
      reserveX := e.reserveX
      reserveY := e.reserveY
      tokenXMint := e.tokenXMint
      tokenYMint := e.tokenYMint
      tokenXProgram := tpOrSpl e.tokenXProgram
      tokenYProgram := tpOrSpl e.tokenYProgram
      oracle := e.oracle
      binArrays := e.binArrays
      quotedAmountIn := observedAmountIn e.amountIn
      quotedInputMint := none
      expectedOut := none }

/-- A DAMM V2 pool from a swap on it. -/
def dammV2FromSwap (e : MeteoraDammV2SwapEvent) : Option MeteoraDammV2Pool :=
  if e.pool = Pubkey.default ∨ e.tokenAMint = Pubkey.default then none
  else some
    { pool := e.pool
      tokenAVault := e.tokenAVault
      tokenBVault := e.tokenBVault
      tokenAMint := e.tokenAMint
      tokenBMint := e.tokenBMint
      tokenAProgram := tpOrSpl e.tokenAProgram
      tokenBProgram := tpOrSpl e.tokenBProgram
      quotedAmountIn := observedAmountIn e.amountIn
      quotedInputMint := none
      expectedOut := none
      swapMode := meteoraDammV2ExactIn
      referralTokenAccount := e.referralTokenAccount
      includeRateLimiterSysvar := true }

/-- SwapBaseInV2 has no mint accounts – fill from vault mints / AmmInfo cache. -/
def ammV4FromSwap (e : RaydiumAmmV4SwapEvent) : Option RaydiumAmmV4Pool :=
  if e.amm = Pubkey.default ∨ e.poolCoinTokenAccount = Pubkey.default then none
  else some
    { amm := e.amm
      coinMint := Pubkey.default
      pcMint := Pubkey.default
      tokenCoin := e.poolCoinTokenAccount
      tokenPc := e.poolPcTokenAccount
      tokenProgram := tpOrSpl e.tokenProgram
      coinReserve := 0
      pcReserve := 0
      tradeFeeNumerator := 25
      swapFeeNumerator := 25
      swapFeeDenominator := 10000 }

section Markets

variable [Pda] [ParserSdk]

/-- **Best-effort market snapshot from a single parser event.** There is none for
non-trade and incomplete events. Concentrated-liquidity snapshots retain account
topology, but historical output is not a current quote. Does not check the
pool. -/
def marketFromDexEvent : DexEvent → Option Market
  | .pumpFunTrade e | .pumpFunBuy e | .pumpFunSell e | .pumpFunBuyExactSolIn e =>
    (tryPumpfunFromTrade e).map .pumpFunInner
  | .pumpSwapBuy e => some (.pumpSwapOuter (pumpswapFromBuy e))
  | .pumpSwapSell e => some (.pumpSwapOuter (pumpswapFromSell e))
  | .raydiumLaunchlabTrade e => (launchlabFromTrade e).map .launchLabInner
  -- A swap log identifies neither the mints' order nor the present rates.
  | .raydiumCpmmSwap => none
  | .raydiumCpmmPoolStateAccount e => some (.cpmmOuter (cpmmFromPoolState e))
  | .raydiumClmmSwap e => (clmmFromSwap e).map .raydiumClmm
  | .raydiumClmmPoolStateAccount e => some (.raydiumClmm (clmmFromPoolState e))
  | .orcaWhirlpoolSwap e => (whirlpoolFromSwap e).map .whirlpool
  | .orcaWhirlpoolAccount e => some (.whirlpool (whirlpoolFromAccount e))
  | .meteoraDlmmSwap e => (dlmmFromSwap e).map .meteoraDlmm
  | .meteoraDammV2Swap e => (dammV2FromSwap e).map .meteoraDammV2
  | .raydiumAmmV4Swap e => (ammV4FromSwap e).map .raydiumAmmV4
  | .other => none

/-- Like `marketFromDexEvent`, but drops snapshots that fail the pool guard. -/
def marketFromDexEventChecked (event : DexEvent) (policy : PoolGuardPolicy) :
    Option Market := do
  let market ← marketFromDexEvent event
  match assertMarketOk market policy with
  | .ok () => some market
  | .error _ => none

end Markets

/-! ## What events leave open -/

/-- A part of a quote that a caller may hold back. The amount is none: a swap
fills it in. -/
inductive QuotePart where
  | inputMint
  | output
  deriving DecidableEq

/-- A quote without that part. -/
def CachedQuote.Lacks (q : CachedQuote) : QuotePart → Prop
  | .inputMint => q.quotedInputMint = none
  | .output => q.expectedOut = none

/-- A quote that lacks a part cannot be used. -/
theorem CachedQuote.Lacks.unusable {q : CachedQuote} {part : QuotePart} (h : q.Lacks part) :
    q.Unusable := by
  cases part with
  | inputMint => exact .inl h
  | output => exact .inr h

/-- An edit that does not supply that part. -/
def QuoteEdit.Withholds (part : QuotePart) : QuoteEdit → Prop
  | .quotedAmountIn _ => True
  | .quotedInputMint _ => part ≠ .inputMint
  | .expectedOut _ => part ≠ .output

/-- A step in which the caller does not supply that part. -/
def SnapshotStep.Withholds {Event : Type} (part : QuotePart) : SnapshotStep Event → Prop
  | .swap _ => True
  | .supply edit => edit.Withholds part

/-- What is withheld stays missing. -/
theorem CachedQuote.Lacks.edit {q : CachedQuote} {part : QuotePart} {edit : QuoteEdit}
    (h : q.Lacks part) (hedit : edit.Withholds part) : (q.edit edit).Lacks part := by
  cases part <;> cases edit <;> first | exact h | exact absurd rfl hedit

/-- The quote of a DAMM V2 snapshot. -/
def MeteoraDammV2Pool.quote (pool : MeteoraDammV2Pool) : CachedQuote :=
  ⟨pool.quotedAmountIn, pool.quotedInputMint, pool.expectedOut⟩

/-- The caller supplies a part of it. -/
def MeteoraDammV2Pool.supply (pool : MeteoraDammV2Pool) (edit : QuoteEdit) : MeteoraDammV2Pool :=
  let q := pool.quote.edit edit
  { pool with
    quotedAmountIn := q.quotedAmountIn
    quotedInputMint := q.quotedInputMint
    expectedOut := q.expectedOut }

/-- The quote of a DLMM snapshot. -/
def MeteoraDlmmPool.quote (pool : MeteoraDlmmPool) : CachedQuote :=
  ⟨pool.quotedAmountIn, pool.quotedInputMint, pool.expectedOut⟩

/-- The caller supplies a part of it. -/
def MeteoraDlmmPool.supply (pool : MeteoraDlmmPool) (edit : QuoteEdit) : MeteoraDlmmPool :=
  let q := pool.quote.edit edit
  { pool with
    quotedAmountIn := q.quotedAmountIn
    quotedInputMint := q.quotedInputMint
    expectedOut := q.expectedOut }

/-- **A step keeps what is withheld missing.** -/
theorem SwapFeed.Lawful.lacks_step {Pool Event : Type} {feed : SwapFeed Pool Event}
    (h : feed.Lawful) {part : QuotePart} {pool : Pool} {step : SnapshotStep Event}
    (hstep : step.Withholds part) (hpool : (feed.quote pool).Lacks part) :
    (feed.quote (feed.step pool step)).Lacks part := by
  cases step with
  | swap event =>
    show (feed.quote (feed.merge pool event)).Lacks part
    by_cases hsame : feed.SamePool pool event
    · cases part with
      | inputMint => exact (h.quote_merge pool event hsame).1
      | output => exact (h.quote_merge pool event hsame).2
    · rw [h.merge_foreign pool event hsame]
      exact hpool
  | supply edit =>
    show (feed.quote (feed.withQuote pool _)).Lacks part
    rw [h.quote_withQuote]
    exact hpool.edit hstep

/-- A step keeps the address. -/
theorem SwapFeed.Lawful.address_step {Pool Event : Type} {feed : SwapFeed Pool Event}
    (h : feed.Lawful) (pool : Pool) (step : SnapshotStep Event) :
    feed.address (feed.step pool step) = feed.address pool :=
  h.address_run pool [step]

/-- A Pump.fun snapshot that can be priced and traded: its fee rates are known,
its curve has reserves, and the accounts of a leg are filled in. -/
structure PumpFunPool.Complete (pool : PumpFunPool) : Prop where
  feeRatesKnown : pool.feeRatesKnown = true
  virtualTokenReserves : 0 < pool.virtualTokenReserves
  virtualSolReserves : 0 < pool.virtualSolReserves
  accounts : Pubkey.default ∉ [pool.mint, pool.bondingCurve, pool.associatedBondingCurve,
    pool.creatorVault, pool.feeRecipient, pool.mintTokenProgram, pool.buybackFeeRecipient,
    pool.global, pool.eventAuthority, pool.globalVolumeAccumulator, pool.feeConfig,
    pool.feeProgram]

/-- **What a snapshot read off events lacks**, exchange by exchange: the fee
rates, the fees held back, the reserves, or the withheld part of a quote. -/
def Market.Bare (withheld : QuotePart) : Market → Prop
  | .launchLabInner pool => pool.feeRatesKnown = false
  | .cpmmOuter pool => pool.feeRatesKnown = false
  | .pumpFunInner pool => pool.Complete
  | .pumpSwapOuter pool => pool.quoteFeeReserves = none
  | .raydiumAmmV4 pool => pool.coinReserve = 0
  | .meteoraDammV2 pool => pool.quote.Lacks withheld
  | .raydiumClmm pool => (clmmFeed.quote pool).Lacks withheld
  | .whirlpool pool => (whirlpoolFeed.quote pool).Lacks withheld
  | .meteoraDlmm pool => pool.quote.Lacks withheld

/-- A fallback that names something always leaves something named. -/
theorem orDefault_ne {pk fallback : Pubkey} (h : fallback ≠ Pubkey.default) :
    orDefault pk fallback ≠ Pubkey.default := by
  unfold orDefault
  split
  · exact h
  · rename_i hpk
    exact hpk

/-- A Pump.fun trade gives a snapshot that can be priced, or none. -/
theorem tryPumpfunFromTrade_complete [ParserSdk] {e : PumpFunTradeEvent} {pool : PumpFunPool}
    (h : tryPumpfunFromTrade e = some pool) : pool.Complete := by
  unfold tryPumpfunFromTrade at h
  split at h
  · cases h
  · rename_i hfilled
    rw [not_or, not_or, not_not] at hfilled
    obtain ⟨hname, haccounts, -⟩ := hfilled
    dsimp only at h
    split at h
    · rename_i hreserves
      cases h
      refine ⟨decide_eq_true hname, hreserves.1, hreserves.2, ?_⟩
      simp only [List.mem_cons, List.not_mem_nil, or_false, not_or] at haccounts ⊢
      obtain ⟨hmint, -, hcurve, haccount, hvault, hrecipient, hprogram⟩ := haccounts
      exact ⟨hmint, hcurve, haccount, hvault, hrecipient, hprogram,
        (orDefault_ne (by decide)).symm, (orDefault_ne (by decide)).symm,
        (orDefault_ne (by decide)).symm, (orDefault_ne (by decide)).symm,
        (orDefault_ne (by decide)).symm, (orDefault_ne (by decide)).symm⟩
    · cases h

/-- **A market read off an event lacks a price**, unless it is of Pump.fun. -/
theorem marketFromDexEvent_bare [Pda] [ParserSdk] {event : DexEvent} {market : Market}
    (withheld : QuotePart) (h : marketFromDexEvent event = some market) :
    market.Bare withheld := by
  have hpump : ∀ e, (tryPumpfunFromTrade e).map .pumpFunInner = some market →
      market.Bare withheld := by
    intro e h
    obtain ⟨pool, hpool, rfl⟩ := Option.map_eq_some_iff.mp h
    exact tryPumpfunFromTrade_complete hpool
  cases event with
  | pumpFunTrade e | pumpFunBuy e | pumpFunSell e | pumpFunBuyExactSolIn e => exact hpump e h
  | pumpSwapBuy e | pumpSwapSell e | raydiumCpmmPoolStateAccount e =>
    cases h
    rfl
  | raydiumClmmPoolStateAccount e | orcaWhirlpoolAccount e =>
    cases h
    cases withheld <;> rfl
  | raydiumCpmmSwap | other => cases h
  | raydiumLaunchlabTrade e =>
    obtain ⟨pool, hpool, rfl⟩ := Option.map_eq_some_iff.mp h
    unfold launchlabFromTrade at hpool
    split at hpool <;> cases hpool
    rfl
  | raydiumClmmSwap e =>
    obtain ⟨pool, hpool, rfl⟩ := Option.map_eq_some_iff.mp h
    unfold clmmFromSwap at hpool
    split at hpool <;> cases hpool
    cases withheld <;> rfl
  | orcaWhirlpoolSwap e =>
    obtain ⟨pool, hpool, rfl⟩ := Option.map_eq_some_iff.mp h
    unfold whirlpoolFromSwap at hpool
    dsimp only at hpool
    split at hpool <;> cases hpool
    cases withheld <;> rfl
  | meteoraDlmmSwap e =>
    obtain ⟨pool, hpool, rfl⟩ := Option.map_eq_some_iff.mp h
    unfold dlmmFromSwap at hpool
    split at hpool <;> cases hpool
    cases withheld <;> rfl
  | meteoraDammV2Swap e =>
    obtain ⟨pool, hpool, rfl⟩ := Option.map_eq_some_iff.mp h
    unfold dammV2FromSwap at hpool
    split at hpool <;> cases hpool
    cases withheld <;> rfl
  | raydiumAmmV4Swap e =>
    obtain ⟨pool, hpool, rfl⟩ := Option.map_eq_some_iff.mp h
    unfold ammV4FromSwap at hpool
    split at hpool <;> cases hpool
    rfl

/-! ## Trades without a price -/

/-- The caller sets neither a minimum nor an output. -/
def TradeOpts.Unpriced (opts : TradeOpts) : Prop := opts.minOut = none ∧ opts.fixedOutput = none

/-- A sale for SOL on a market that has no SOL side. -/
def TradeOpts.BridgedSale (market : Market) (opts : TradeOpts) : Prop :=
  RoutedMarket.needsBridge ⟨market, none⟩ opts.sellTo.receiveMint = true

section Refused

variable [Pda] [Upstream]

/-- No purchase is built on the market under such options. -/
def Market.RefusesBuys (market : Market) (P : TradeOpts → Prop) : Prop :=
  ∀ (client : RouterClient) (amountIn : UInt64) (bridge : Option BridgePool) (opts : TradeOpts),
    P opts → Refuses (client.buyWithOpts amountIn ⟨market, bridge⟩ opts)

/-- No sale is. -/
def Market.RefusesSales (market : Market) (P : TradeOpts → Prop) : Prop :=
  ∀ (client : RouterClient) (amountIn : UInt64) (bridge : Option BridgePool) (opts : TradeOpts),
    P opts → Refuses (client.sellWithOpts amountIn ⟨market, bridge⟩ opts)

/-- Buys are refused if their legs are: what comes before has no panic. -/
theorem refusesBuys_of_legs {market : Market} {P : TradeOpts → Prop}
    (h : ∀ (client : RouterClient) bridge (opts : TradeOpts) spend s, P opts →
      Refuses (client.buildBuyLegs spend ⟨market, bridge⟩ opts s)) : market.RefusesBuys P :=
  fun client _ bridge opts hP => refuses_buyWithOpts fun spend s => h client bridge opts spend s hP

/-- And so are sales. -/
theorem refusesSales_of_legs {market : Market} {P : TradeOpts → Prop}
    (h : ∀ (client : RouterClient) bridge (opts : TradeOpts) sellAmt s, P opts →
      Refuses (client.buildSellLegs sellAmt ⟨market, bridge⟩ opts s)) : market.RefusesSales P :=
  fun client _ bridge opts hP => refuses_sellWithOpts fun sellAmt s =>
    h client bridge opts sellAmt s hP

/-- A market without automatic trades refuses unpriced buys. -/
theorem Market.RefusesAutomatic.buys {market : Market} (h : market.RefusesAutomatic) :
    market.RefusesBuys TradeOpts.Unpriced :=
  fun client amountIn bridge opts hopts => (h client amountIn bridge opts).1 hopts.1

/-- And unpriced or bridged sales. -/
theorem Market.RefusesAutomatic.sales {market : Market} (h : market.RefusesAutomatic) :
    market.RefusesSales fun opts => opts.Unpriced ∨ opts.BridgedSale market := by
  intro client amountIn bridge opts hopts
  obtain ⟨-, hsell, hbridged⟩ := h client amountIn bridge opts
  exact hopts.elim (fun hnone => hsell hnone.1) hbridged

omit [Pda] [Upstream] in
/-- Without a minimum, a quote that is refused refuses. -/
theorem refuses_minOutOr {opts : TradeOpts} {quote : Result UInt64} (hopts : opts.minOut = none)
    (h : Refuses quote) : Refuses (opts.minOutOr quote) := by
  unfold TradeOpts.minOutOr
  rw [hopts]
  exact h.bind

/-! ### Quotes -/

omit [Pda] [Upstream] in
/-- Without its rates a LaunchLab curve has no fee. -/
theorem refuses_launchlabTotalFeeRate {pool : LaunchLabPool} (h : pool.feeRatesKnown = false)
    (shareFeeRate : UInt64) : Refuses (launchlabTotalFeeRate pool shareFeeRate) :=
  (refuses_failIf h).bind

omit [Pda] [Upstream] in
/-- So there is no quote to buy at. -/
theorem refuses_launchlabBuyQuote {pool : LaunchLabPool} (h : pool.feeRatesKnown = false)
    (amountIn shareFeeRate : UInt64) :
    Refuses (launchlabBuyQuote pool amountIn shareFeeRate) := by
  refine Refuses.bind ?_
  exact refuses_bind calm_failIf fun _ _ => refuses_bind calm_failIf fun _ _ =>
    (refuses_launchlabTotalFeeRate h shareFeeRate).bind

omit [Pda] [Upstream] in
/-- Nor to sell at. -/
theorem refuses_launchlabSellQuoteOut {pool : LaunchLabPool} (h : pool.feeRatesKnown = false)
    (baseIn : UInt64) : Refuses (launchlabSellQuoteOut pool baseIn) :=
  refuses_bind calm_failIf fun _ _ => refuses_bind calm_failIf fun _ _ =>
    refuses_bind calm_okOr fun _ _ => refuses_bind calm_failIf fun _ _ =>
    refuses_bind calm_okOr fun _ _ => refuses_bind calm_okOr fun _ _ =>
    refuses_bind calm_failIf fun _ _ => refuses_bind calm_okOr fun _ _ =>
    refuses_bind calm_okOr fun _ _ => refuses_bind calm_failIf fun _ _ =>
    (refuses_launchlabTotalFeeRate h 0).bind

omit [Pda] [Upstream] in
/-- Without its rates a CPMM pool has no quote. -/
theorem refuses_cpmmOut {pool : CpmmPool} (h : pool.feeRatesKnown = false) (amountIn : UInt64)
    (inputIsBase : Bool) : Refuses (cpmmOut pool amountIn inputIsBase) :=
  (refuses_failIf h).bind

omit [Pda] [Upstream] in
/-- Without reserves an AMM V4 pool has none. -/
theorem refuses_raydiumAmmV4Out {pool : RaydiumAmmV4Pool} (h : pool.coinReserve = 0)
    (amountIn : UInt64) (inputIsCoin : Bool) :
    Refuses (raydiumAmmV4Out pool amountIn inputIsCoin) := by
  refine refuses_bind calm_failIf fun _ _ => (refuses_failIf ?_).bind
  cases inputIsCoin with
  | true => exact .inl h
  | false => exact .inr h

omit [Pda] [Upstream] in
/-- Without a usable quote in its snapshot a DAMM V2 pool has none. -/
theorem refuses_meteoraDammV2Out {pool : MeteoraDammV2Pool} (h : pool.quote.Unusable)
    (amountIn : UInt64) (inputIsA : Bool) :
    Refuses (meteoraDammV2Out pool amountIn inputIsA) := by
  rcases h with hmint | hout
  · have hmint : pool.quotedInputMint = none := hmint
    exact (refuses_failIf (by rw [hmint]; nofun)).bind
  · have hout : pool.expectedOut = none := hout
    refine refuses_bind calm_failIf fun _ _ => Refuses.bind ?_
    rw [hout]
    exact refuses_fail

omit [Pda] [Upstream] in
/-- Without its reserved fees a PumpSwap pool has none to sell at. -/
theorem refuses_pumpswapSellQuoteOut {pool : PumpSwapPool} (h : pool.quoteFeeReserves = none)
    (baseIn : UInt64) : Refuses (pumpswapSellQuoteOut pool baseIn) := by
  refine refuses_bind calm_failIf fun _ _ => Refuses.bind ?_
  rw [h]
  exact refuses_fail

/-! ### Exchanges -/

/-- **Without its fee rates a LaunchLab curve is not traded**, whatever the
caller sets: a leg is quoted even if its minimum is given. -/
theorem launchlab_refuses {pool : LaunchLabPool} (h : pool.feeRatesKnown = false) :
    (Market.launchLabInner pool).RefusesBuys (fun _ => True)
      ∧ (Market.launchLabInner pool).RefusesSales (fun _ => True) := by
  have hbuy (client : RouterClient) (spend : UInt64) (opts : TradeOpts) (memeAta quoteAta : Pubkey)
      (s : TradeSetup) : Refuses (client.buyLaunchlab spend pool opts memeAta quoteAta s) :=
    (refuses_launchlabBuyQuote h spend 0).bind
  have hsell (client : RouterClient) (sellAmt : UInt64) (opts : TradeOpts)
      (memeAta quoteAta : Pubkey) (s : TradeSetup) :
      Refuses (client.sellLaunchlab sellAmt pool opts memeAta quoteAta s) :=
    (refuses_launchlabSellQuoteOut h sellAmt).bind.bind
  refine ⟨refusesBuys_of_legs fun client bridge opts spend s _ => ?_,
    refusesSales_of_legs fun client bridge opts sellAmt s _ => ?_⟩
  · show Refuses (client.buyLaunchlabMarket spend pool _ opts _ s)
    unfold RouterClient.buyLaunchlabMarket
    split
    · exact refuses_bind calm_failIf fun _ _ => hbuy client spend opts _ _ _
    all_goals
      split
      · exact hbuy client spend opts _ _ s
      · refine refuses_bind calm_okOr fun bridge _ => ?_
        exact refuses_bind calm_failIf fun _ _ => refuses_bind calm_bridgeQuoteOut fun _ _ =>
          (refuses_launchlabBuyQuote h _ 0).bind
  · show Refuses (client.sellLaunchlabMarket sellAmt pool _ opts _ s)
    unfold RouterClient.sellLaunchlabMarket
    split
    · exact refuses_bind calm_failIf fun _ _ => hsell client sellAmt opts _ _ _
    all_goals
      split
      · exact hsell client sellAmt opts _ _ s
      · exact refuses_bind calm_okOr fun bridge _ => refuses_bind calm_failIf fun _ _ =>
          (refuses_launchlabSellQuoteOut h sellAmt).bind

omit [Pda] [Upstream] in
/-- The shared mint is found, or refused. -/
theorem calm_resolveSharedMint {pool : CpmmPool} {bridge : BridgePool} :
    Calm (resolveSharedMint pool bridge) := by
  cases bridge with
  | cpmm _ | ammV4 _ => exact calm_ite calm_ok (calm_ite calm_ok calm_fail)

/-- **Without its fee rates a CPMM pool is swapped for a fixed output only.** -/
theorem cpmm_refuses {pool : CpmmPool} (h : pool.feeRatesKnown = false) :
    (Market.cpmmOuter pool).RefusesBuys TradeOpts.Unpriced
      ∧ (Market.cpmmOuter pool).RefusesSales fun opts =>
        opts.Unpriced ∨ opts.BridgedSale (.cpmmOuter pool) := by
  have hswap (client : RouterClient) (amount : UInt64) (input output : Pubkey) (opts : TradeOpts)
      (hopts : opts.Unpriced) : Refuses (client.swapCpmm amount pool input output opts) := by
    unfold RouterClient.swapCpmm
    dsimp only
    rw [hopts.2]
    exact (refuses_cpmmOut h amount _).bind.bind
  refine ⟨refusesBuys_of_legs fun client bridge opts spend s hopts => ?_,
    refusesSales_of_legs fun client bridge opts sellAmt s hopts => ?_⟩
  · show Refuses (client.buyCpmmMarket spend pool _ opts s)
    unfold RouterClient.buyCpmmMarket
    split
    · exact (hswap client spend _ _ opts hopts).bind
    all_goals
      split
      · exact (hswap client spend _ _ opts hopts).bind
      · refine refuses_bind calm_okOr fun bridge _ => ?_
        exact refuses_bind calm_resolveSharedMint fun _ _ => refuses_bind calm_failIf fun _ _ =>
          refuses_bind calm_bridgeQuoteOut fun _ _ => refuses_bind calm_bridgeSwapLeg fun _ _ =>
          (refuses_cpmmOut h _ _).bind.bind
  · show Refuses (client.sellCpmmMarket sellAmt pool _ opts s)
    unfold RouterClient.sellCpmmMarket
    split
    · rename_i mint hto
      refine (hswap client sellAmt _ _ opts (hopts.resolve_right fun hbridged => ?_)).bind
      rw [TradeOpts.BridgedSale, hto] at hbridged
      cases hbridged
    all_goals
      split
      · rename_i hneeds
        refine (hswap client sellAmt _ _ opts (hopts.resolve_right fun hbridged => ?_)).bind
        rw [TradeOpts.BridgedSale, RoutedMarket.needsBridge, Bool.and_eq_true] at hbridged
        simp [hbridged.2] at hneeds
      · exact refuses_bind calm_okOr fun bridge _ => refuses_bind calm_resolveSharedMint
          fun _ _ => refuses_bind calm_failIf fun _ _ => (refuses_cpmmOut h _ _).bind

/-- A pool of two mints whose swaps and bridged legs are refused. -/
theorem refuses_pair {market : Market} {programOf : Pubkey → Pubkey}
    {buy : RouterClient → TradeOpts → UInt64 → Pubkey → Result (List Leg × UInt64)}
    {sell : RouterClient → TradeOpts → UInt64 → Pubkey → Result (List Leg × UInt64 × Pubkey)}
    (hbuyLegs : ∀ (client : RouterClient) bridge (opts : TradeOpts) spend s,
      client.buildBuyLegs spend ⟨market, bridge⟩ opts s
        = client.buyPair programOf (buy client opts spend) spend ⟨market, bridge⟩ opts s)
    (hsellLegs : ∀ (client : RouterClient) bridge (opts : TradeOpts) sellAmt s,
      client.buildSellLegs sellAmt ⟨market, bridge⟩ opts s
        = client.sellPair programOf (sell client opts sellAmt) sellAmt ⟨market, bridge⟩ opts s)
    (hbuy : ∀ client (opts : TradeOpts) amount mint, opts.Unpriced →
      Refuses (buy client opts amount mint))
    (hsell : ∀ client (opts : TradeOpts) amount mint, opts.Unpriced →
      Refuses (sell client opts amount mint))
    (hbridgedBuy : ∀ (client : RouterClient) quote mid (opts : TradeOpts), opts.Unpriced →
      Refuses (client.bridgedBuyLeg market quote mid opts))
    (hbridgedSell : ∀ (client : RouterClient) quote amount,
      Refuses (client.bridgedSellLeg market quote amount)) :
    market.RefusesBuys TradeOpts.Unpriced
      ∧ market.RefusesSales fun opts => opts.Unpriced ∨ opts.BridgedSale market := by
  refine ⟨refusesBuys_of_legs fun client bridge opts spend s hopts => ?_,
    refusesSales_of_legs fun client bridge opts sellAmt s hopts => ?_⟩
  · rw [hbuyLegs]
    exact refuses_buyPair (fun mint => hbuy client opts spend mint hopts)
      fun quote mid => hbridgedBuy client quote mid opts hopts
  · rw [hsellLegs]
    refine refuses_sellPair ?_ fun quote => hbridgedSell client quote sellAmt
    exact hopts.symm.imp_right fun hnone mint => hsell client opts sellAmt mint hnone

/-- Without reserves there is no AMM V4 swap but for a fixed output. -/
theorem raydiumAmmV4_refuses {pool : RaydiumAmmV4Pool} (h : pool.coinReserve = 0) :
    (Market.raydiumAmmV4 pool).RefusesBuys TradeOpts.Unpriced
      ∧ (Market.raydiumAmmV4 pool).RefusesSales fun opts =>
        opts.Unpriced ∨ opts.BridgedSale (.raydiumAmmV4 pool) := by
  have hswap (client : RouterClient) (opts : TradeOpts) (amount : UInt64) (mint : Pubkey)
      (hopts : opts.Unpriced) : Refuses (client.buyRaydiumV4WithMint amount pool mint opts) := by
    unfold RouterClient.buyRaydiumV4WithMint
    rw [hopts.2]
    exact (refuses_raydiumAmmV4Out h amount _).bind.bind
  refine refuses_pair (fun _ _ _ _ _ => rfl) (fun _ _ _ _ _ => rfl)
    (fun client opts amount mint hopts => hswap client opts amount mint hopts)
    (fun client opts amount mint hopts => ?_)
    (fun _ _ _ _ _ => (refuses_raydiumAmmV4Out h _ _).bind.bind)
    (fun _ _ _ => (refuses_raydiumAmmV4Out h _ _).bind)
  exact refuses_bind (calm_ite calm_ok (calm_ite calm_ok calm_fail)) fun input _ =>
    (hswap client opts amount input hopts).bind

/-- **A DAMM V2 pool is quoted by what its snapshot carries**, so without a mint or
an output it takes a minimum or a fixed output. -/
theorem meteoraDammV2_refuses {pool : MeteoraDammV2Pool} (h : pool.quote.Unusable) :
    (Market.meteoraDammV2 pool).RefusesBuys TradeOpts.Unpriced
      ∧ (Market.meteoraDammV2 pool).RefusesSales fun opts =>
        opts.Unpriced ∨ opts.BridgedSale (.meteoraDammV2 pool) := by
  have hswap (client : RouterClient) (opts : TradeOpts) (amount : UInt64) (mint : Pubkey)
      (hopts : opts.Unpriced) : Refuses (client.buyMeteoraV2WithMint amount pool mint opts) := by
    unfold RouterClient.buyMeteoraV2WithMint
    rw [hopts.2]
    exact (refuses_minOutOr hopts.1 (refuses_meteoraDammV2Out h amount _)).bind
  refine refuses_pair (fun _ _ _ _ _ => rfl) (fun _ _ _ _ _ => rfl)
    (fun client opts amount mint hopts => hswap client opts amount mint hopts)
    (fun client opts amount mint hopts => ?_)
    (fun _ _ _ _ hopts => (refuses_minOutOr hopts.1 (refuses_meteoraDammV2Out h _ _)).bind)
    (fun _ _ _ => (refuses_meteoraDammV2Out h _ _).bind)
  exact refuses_pairInput fun _ => (hswap client opts amount _ hopts).bind

/-- So is a DLMM pool. -/
theorem meteoraDlmm_refuses {pool : MeteoraDlmmPool} (hq : pool.quote.Unusable) :
    (Market.meteoraDlmm pool).RefusesBuys TradeOpts.Unpriced
      ∧ (Market.meteoraDlmm pool).RefusesSales fun opts =>
        opts.Unpriced ∨ opts.BridgedSale (.meteoraDlmm pool) := by
  have hswap (client : RouterClient) (opts : TradeOpts) (amount : UInt64) (mint : Pubkey)
      (hopts : opts.Unpriced) : Refuses (client.buyMeteoraDlmmWithMint amount pool mint opts) := by
    unfold RouterClient.buyMeteoraDlmmWithMint RouterClient.buyConcentrated
    rw [hopts.1]
    exact refuses_automatic hq _
  refine refuses_pair (fun _ _ _ _ _ => rfl) (fun _ _ _ _ _ => rfl)
    (fun client opts amount mint hopts => hswap client opts amount mint hopts)
    (fun client opts amount mint hopts => ?_) (fun _ _ _ opts hopts => Refuses.bind ?_)
    (fun _ _ _ => refuses_automatic hq _)
  · exact refuses_pairInput fun _ => (hswap client opts amount _ hopts).bind
  · rw [hopts.1]
    exact refuses_fail

/-- Without the fees that its vault holds back, a PumpSwap pool is not quoted
for a sale. -/
theorem pumpswap_refuses {pool : PumpSwapPool} (h : pool.quoteFeeReserves = none) :
    (Market.pumpSwapOuter pool).RefusesSales fun opts =>
      opts.Unpriced ∨ opts.BridgedSale (.pumpSwapOuter pool) := by
  refine refusesSales_of_legs fun client bridge opts sellAmt s hopts => ?_
  refine refuses_sellPair (hopts.symm.imp_right fun hnone mint => ?_)
    fun _ => (refuses_pumpswapSellQuoteOut h sellAmt).bind
  exact refuses_bind calm_failIf fun _ _ =>
    (refuses_minOutOr hnone.1 (refuses_pumpswapSellQuoteOut h sellAmt)).bind

/-- The events of the market's exchange state the price of a purchase. -/
def Market.PricesBuys : Market → Prop
  | .pumpFunInner pool => pool.Complete
  | .pumpSwapOuter _ => True
  | _ => False

/-- They state that of a sale. -/
def Market.PricesSales : Market → Prop
  | .pumpFunInner pool => pool.Complete
  | _ => False

/-- **What lacks a price is not traded at one.** -/
theorem Market.Bare.refuses {withheld : QuotePart} {market : Market} (h : market.Bare withheld) :
    (market.PricesBuys ∨ market.RefusesBuys TradeOpts.Unpriced)
      ∧ (market.PricesSales
        ∨ market.RefusesSales fun opts => opts.Unpriced ∨ opts.BridgedSale market) := by
  cases market with
  | launchLabInner pool =>
    obtain ⟨hbuy, hsell⟩ := launchlab_refuses h
    exact ⟨.inr fun client amountIn bridge opts _ => hbuy client amountIn bridge opts trivial,
      .inr fun client amountIn bridge opts _ => hsell client amountIn bridge opts trivial⟩
  | cpmmOuter pool => exact (cpmm_refuses h).imp .inr .inr
  | pumpFunInner pool => exact ⟨.inl h, .inl h⟩
  | pumpSwapOuter pool => exact ⟨.inl trivial, .inr (pumpswap_refuses h)⟩
  | raydiumAmmV4 pool => exact (raydiumAmmV4_refuses h).imp .inr .inr
  | meteoraDammV2 pool =>
    exact (meteoraDammV2_refuses (CachedQuote.Lacks.unusable h)).imp .inr .inr
  | raydiumClmm pool =>
    have hrefuses := clmm_refusesAutomatic (CachedQuote.Lacks.unusable h)
    exact ⟨.inr hrefuses.buys, .inr hrefuses.sales⟩
  | whirlpool pool =>
    have hrefuses := whirlpool_refusesAutomatic (CachedQuote.Lacks.unusable h)
    exact ⟨.inr hrefuses.buys, .inr hrefuses.sales⟩
  | meteoraDlmm pool =>
    exact (meteoraDlmm_refuses (CachedQuote.Lacks.unusable h)).imp .inr .inr

end Refused

/-! ## Following a stream -/

/-- **A market that a bot holds.** It passed the pool guard when it was read off
an event; since then swaps of its pool have been merged in, token programs laid
over it, and parts of a quote supplied to it, but never the one that is withheld:
the mint, or the output. -/
inductive Observed [Pda] [ParserSdk] (policy : PoolGuardPolicy) (withheld : QuotePart) :
    Market → Prop
  | parsed {event : DexEvent} {market : Market} :
    marketFromDexEventChecked event policy = some market → Observed policy withheld market
  | clmm {pool : RaydiumClmmPool} (step : SnapshotStep RaydiumClmmSwapEvent) :
    step.Withholds withheld → Observed policy withheld (.raydiumClmm pool) →
    Observed policy withheld (.raydiumClmm (clmmFeed.step pool step))
  | clmmPrograms {pool : RaydiumClmmPool} (token0Program token1Program : Pubkey) :
    Observed policy withheld (.raydiumClmm pool) →
    Observed policy withheld
      (.raydiumClmm (clmmApplyTokenPrograms pool token0Program token1Program))
  | whirlpool {pool : WhirlpoolPool} (step : SnapshotStep OrcaWhirlpoolSwapEvent) :
    step.Withholds withheld → Observed policy withheld (.whirlpool pool) →
    Observed policy withheld (.whirlpool (whirlpoolFeed.step pool step))
  | meteoraDammV2 {pool : MeteoraDammV2Pool} (edit : QuoteEdit) :
    edit.Withholds withheld → Observed policy withheld (.meteoraDammV2 pool) →
    Observed policy withheld (.meteoraDammV2 (pool.supply edit))
  | meteoraDlmm {pool : MeteoraDlmmPool} (edit : QuoteEdit) :
    edit.Withholds withheld → Observed policy withheld (.meteoraDlmm pool) →
    Observed policy withheld (.meteoraDlmm (pool.supply edit))

section Stream

variable [Pda] [ParserSdk] {policy : PoolGuardPolicy} {withheld : QuotePart} {market : Market}

/-- The checked parser is the parser, then the guard. -/
theorem marketFromDexEventChecked_eq_some {event : DexEvent} :
    marketFromDexEventChecked event policy = some market ↔
      marketFromDexEvent event = some market ∧ assertMarketOk market policy = .ok () := by
  unfold marketFromDexEventChecked
  rw [Option.bind_eq_bind, Option.bind_eq_some_iff]
  constructor
  · rintro ⟨m, hm, h⟩
    split at h
    · rename_i hok
      cases h
      exact ⟨hm, hok⟩
    · cases h
  · rintro ⟨hm, hok⟩
    refine ⟨market, hm, ?_⟩
    rw [hok]

/-- **The guard's verdict lasts**: it reads the address only, which no step
changes. -/
theorem Observed.admitted (h : Observed policy withheld market) :
    assertMarketOk market policy = .ok () := by
  induction h with
  | parsed hparsed => exact (marketFromDexEventChecked_eq_some.mp hparsed).2
  | @clmm pool step _ _ ih =>
    show assertAmmListed policy (clmmFeed.address (clmmFeed.step pool step)) _ = .ok ()
    rw [clmmFeed_lawful.address_step]
    exact ih
  | clmmPrograms _ _ _ ih => exact ih
  | @whirlpool pool step _ _ ih =>
    show assertAmmListed policy (whirlpoolFeed.address (whirlpoolFeed.step pool step)) _ = .ok ()
    rw [whirlpoolFeed_lawful.address_step]
    exact ih
  | meteoraDammV2 _ _ _ ih => exact ih
  | meteoraDlmm _ _ _ ih => exact ih

/-- **What events leave open stays open** until the caller fills it in. -/
theorem Observed.bare (h : Observed policy withheld market) : market.Bare withheld := by
  induction h with
  | parsed hparsed =>
    exact marketFromDexEvent_bare withheld (marketFromDexEventChecked_eq_some.mp hparsed).1
  | clmm step hstep _ ih => exact clmmFeed_lawful.lacks_step hstep ih
  | clmmPrograms _ _ _ ih => exact ih
  | whirlpool step hstep _ ih => exact whirlpoolFeed_lawful.lacks_step hstep ih
  | meteoraDammV2 _ hedit _ ih => exact CachedQuote.Lacks.edit ih hedit
  | meteoraDlmm _ hedit _ ih => exact CachedQuote.Lacks.edit ih hedit

/-- **No observed price is traded at.** Every market a bot holds, with the mint or
the output of its quote withheld, is admitted by its policy. Unless its events
state the reserves they leave, a trade on it that sets neither a minimum nor an
output is refused, in either direction and through any bridge, and so is every
bridged sale; and a LaunchLab curve is not traded at all before its fee rates are
filled in. -/
theorem observed_never_priced [Upstream] (h : Observed policy withheld market) :
    market.Admitted policy
      ∧ (market.PricesBuys ∨ market.RefusesBuys TradeOpts.Unpriced)
      ∧ (market.PricesSales
        ∨ market.RefusesSales fun opts => opts.Unpriced ∨ opts.BridgedSale market)
      ∧ ∀ pool, market = .launchLabInner pool →
        market.RefusesBuys (fun _ => True) ∧ market.RefusesSales (fun _ => True) := by
  obtain ⟨hbuys, hsales⟩ := h.bare.refuses
  refine ⟨assertMarketOk_iff.mp h.admitted, hbuys, hsales, ?_⟩
  rintro pool rfl
  exact launchlab_refuses h.bare

end Stream

/-- A swap that names its pool's tick arrays. -/
def completeWhirlpoolSwap : OrcaWhirlpoolSwapEvent :=
  { sampleWhirlpoolSwap with
    tickArray0 := sampleKey 2
    tickArray1 := sampleKey 3
    tickArray2 := sampleKey 4 }

/-- The snapshot of a swap, with an output supplied and no mint. -/
theorem completeWhirlpoolSwap_unpriced :
    letI := BuiltSwaps.lastSeedPda
    letI := sampleUpstream
    ∃ pool, whirlpoolFromSwap completeWhirlpoolSwap = some pool
      ∧ (Market.whirlpool (whirlpoolFeed.step pool (.supply (.expectedOut 500)))).RefusesBuys
        TradeOpts.Unpriced := by
  let := BuiltSwaps.lastSeedPda
  let := sampleUpstream
  let : ParserSdk := ⟨sampleKey 9⟩
  obtain ⟨pool, hpool⟩ := Option.isSome_iff_exists.mp
    (show (whirlpoolFromSwap completeWhirlpoolSwap).isSome by decide)
  have hread : marketFromDexEventChecked (.orcaWhirlpoolSwap completeWhirlpoolSwap) .disabled
      = some (.whirlpool pool) :=
    marketFromDexEventChecked_eq_some.mpr ⟨Option.map_eq_some_iff.mpr ⟨pool, hpool, rfl⟩, rfl⟩
  have hstep : (SnapshotStep.supply (.expectedOut 500) :
      SnapshotStep OrcaWhirlpoolSwapEvent).Withholds .inputMint := nofun
  obtain ⟨-, hbuys, -⟩ := observed_never_priced (.whirlpool _ hstep (.parsed hread))
  exact ⟨pool, hpool, hbuys.resolve_left id⟩

end Sdk
