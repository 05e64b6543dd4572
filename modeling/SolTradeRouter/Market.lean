import SolTradeRouter.Constants

/-!
# Pool snapshots

What the SDK knows of a pool when it builds a trade: the addresses, mints
and token programs of the pool's accounts, and the reserves and fee rates
its quotes are computed from. A snapshot is filled from events or a cache
and never from the chain, so nothing here is checked; a market is one pool,
and a routed market is a pool with an optional bridge between SOL and the
mint the pool is quoted in.

Which mint of a pool is traded and which one pays for it is decided here,
by the accessors of `Market` and `RoutedMarket`. Every leg builder decides
it once more, from the pool's own fields.
-/

namespace Sdk

/-- Active Token-2022 transfer fee for the epoch in which pool state was
loaded. -/
structure TokenTransferFee where
  basisPoints : UInt16
  maximumFee : UInt64
  deriving DecidableEq, Repr

/-- LaunchLab / StonkFun **inner** bonding curve pool. -/
structure LaunchLabPool where
  baseMint : Pubkey
  quoteMint : Pubkey
  baseTokenProgram : Pubkey
  quoteTokenProgram : Pubkey
  poolState : Pubkey
  baseVault : Pubkey
  quoteVault : Pubkey
  platformConfig : Pubkey
  platformAssociatedAccount : Pubkey
  creatorAssociatedAccount : Pubkey
  globalConfig : Pubkey
  virtualBase : BitVec 128
  virtualQuote : BitVec 128
  realBase : BitVec 128
  realQuote : BitVec 128
  /-- Graduation cap on base sold (0 = ignore clamp). -/
  totalBaseSell : BitVec 128
  /-- 0 = constant-product (only type we quote). -/
  curveType : UInt8
  feeRatesKnown : Bool
  tradeFeeRate : UInt64
  platformFeeRate : UInt64
  creatorFeeRate : UInt64
  baseTransferFee : TokenTransferFee
  quoteTransferFee : TokenTransferFee

/-- A curve priced in SOL is traded without a bridge. -/
def LaunchLabPool.isSolQuote (pool : LaunchLabPool) : Bool := pool.quoteMint = wsolMint

/-- Raydium CPMM pool – StonkFun **outer** / SOL↔stock bridge. -/
structure CpmmPool where
  poolState : Pubkey
  ammConfig : Pubkey
  observationState : Pubkey
  baseMint : Pubkey
  quoteMint : Pubkey
  baseVault : Pubkey
  quoteVault : Pubkey
  baseTokenProgram : Pubkey
  quoteTokenProgram : Pubkey
  baseReserve : UInt64
  quoteReserve : UInt64
  feeRatesKnown : Bool
  tradeFeeRate : UInt64
  creatorFeeRate : UInt64
  /-- 0 = always on input; 1 = on input when base_in; 2 = on input when
  quote_in. -/
  creatorFeeOn : UInt8
  enableCreatorFee : Bool
  baseTransferFee : TokenTransferFee
  quoteTransferFee : TokenTransferFee

namespace CpmmPool

/-- The pool's other mint, if the given one is the pool's. -/
def otherMint (pool : CpmmPool) (mint : Pubkey) : Option Pubkey :=
  if mint = pool.baseMint then some pool.quoteMint
  else if mint = pool.quoteMint then some pool.baseMint
  else none

/-- The token program the pool lists for one of its mints. -/
def tokenProgramFor (pool : CpmmPool) (mint : Pubkey) : Option Pubkey :=
  if mint = pool.baseMint then some pool.baseTokenProgram
  else if mint = pool.quoteMint then some pool.quoteTokenProgram
  else none

/-- Non-WSOL side when SOL-paired; otherwise `none` (use bridge / explicit
meme). -/
def memeMintSolPaired (pool : CpmmPool) : Option Pubkey :=
  if pool.baseMint = wsolMint then some pool.quoteMint
  else if pool.quoteMint = wsolMint then some pool.baseMint
  else none

/-- Meme for SOL-paired pools; for stock pairs prefer
`RoutedMarket.memeMint`. -/
def memeMint (pool : CpmmPool) : Pubkey := pool.memeMintSolPaired.getD pool.baseMint

/-- The mint a buy pays in: WSOL where the pool has it, the quote elsewhere. -/
def payMint (pool : CpmmPool) : Pubkey :=
  if pool.baseMint = wsolMint ∨ pool.quoteMint = wsolMint then wsolMint
  else pool.quoteMint

end CpmmPool

/-- PumpFun inner bonding curve. Non-WSOL quote pools always use V2. -/
structure PumpFunPool where
  mint : Pubkey
  mintTokenProgram : Pubkey
  quoteMint : Pubkey
  quoteTokenProgram : Pubkey
  /-- Opt into V2 for WSOL-quote pools when settling via the WSOL ATA. -/
  useV2 : Bool
  bondingCurve : Pubkey
  associatedBondingCurve : Pubkey
  creatorVault : Pubkey
  feeRecipient : Pubkey
  buybackFeeRecipient : Pubkey
  global : Pubkey
  eventAuthority : Pubkey
  globalVolumeAccumulator : Pubkey
  feeConfig : Pubkey
  feeProgram : Pubkey
  bondingCurveV2 : Pubkey
  virtualTokenReserves : UInt64
  /-- Virtual *quote* reserves (lamports for WSOL quote; USDC units for USDC
  quote V2). -/
  virtualSolReserves : UInt64
  realTokenReserves : UInt64
  protocolFeeBps : UInt64
  creatorFeeBps : UInt64
  feeRatesKnown : Bool
  hasCreator : Bool
  /-- Cashback coins need `user_volume_accumulator` on sell + track_volume=1
  on buy. -/
  isCashbackCoin : Bool

namespace PumpFunPool

/-- A cashback coin asks for its volume to be tracked. -/
def trackVolumeByte (pool : PumpFunPool) : UInt8 := if pool.isCashbackCoin then 1 else 0

/-- Non-WSOL quote always V2. -/
def usesV2 (pool : PumpFunPool) : Bool := pool.useV2 ∨ pool.quoteMint ≠ wsolMint

/-- WSOL quote mint is the native-SOL sentinel. -/
def isNativeSolQuote (pool : PumpFunPool) : Bool := pool.quoteMint = wsolMint

/-- Explicit WSOL-ATA settlement on a SOL-paired curve. -/
def usesWsolAtaSettlement (pool : PumpFunPool) : Bool :=
  pool.isNativeSolQuote && pool.useV2

end PumpFunPool

/-- **A PumpSwap pool**: its accounts, its reserves and the fees they are quoted
with. -/
structure PumpSwapPool where
  pool : Pubkey
  baseMint : Pubkey
  quoteMint : Pubkey
  poolBaseTokenAccount : Pubkey
  poolQuoteTokenAccount : Pubkey
  baseTokenProgram : Pubkey
  quoteTokenProgram : Pubkey
  coinCreatorVaultAta : Pubkey
  coinCreatorVaultAuthority : Pubkey
  coinCreator : Pubkey
  baseReserve : UInt64
  /-- Raw quote-vault balance, including fees reserved for future sweeps. -/
  quoteReserve : UInt64
  /-- A signed 128-bit number. -/
  virtualQuoteReserves : BitVec 128
  /-- Protocol + creator fees held in the quote vault. -/
  quoteFeeReserves : Option UInt64
  lpFeeBps : UInt64
  protocolFeeBps : UInt64
  creatorFeeBps : UInt64
  isCashbackCoin : Bool
  protocolFeeRecipient : Pubkey
  buybackFeeRecipient : Pubkey

/-- **A Raydium AMM V4 pool**, whose fee is a fraction of its own. -/
structure RaydiumAmmV4Pool where
  amm : Pubkey
  coinMint : Pubkey
  pcMint : Pubkey
  tokenCoin : Pubkey
  tokenPc : Pubkey
  /-- SPL Token or Token-2022 – must match vault owners (SwapBaseInV2
  account 0). -/
  tokenProgram : Pubkey
  coinReserve : UInt64
  pcReserve : UInt64
  tradeFeeNumerator : UInt64
  /-- SwapBaseInV2 input fee from AmmInfo (not a fee on output). -/
  swapFeeNumerator : UInt64
  swapFeeDenominator : UInt64

/-- **A Meteora DAMM V2 pool**, with the quote it was last seen with. -/
structure MeteoraDammV2Pool where
  pool : Pubkey
  tokenAVault : Pubkey
  tokenBVault : Pubkey
  tokenAMint : Pubkey
  tokenBMint : Pubkey
  tokenAProgram : Pubkey
  tokenBProgram : Pubkey
  /-- Input size this `expectedOut` was quoted for (required when using
  expected_out). -/
  quotedAmountIn : Option UInt64
  quotedInputMint : Option Pubkey
  expectedOut : Option UInt64
  /-- `swap2` mode: 0 (exact-in) or 2 (exact-out); partial-fill mode 1 is
  rejected. -/
  swapMode : UInt8
  referralTokenAccount : Option Pubkey
  includeRateLimiterSysvar : Bool

/-- **A Raydium CLMM pool**, with the tick arrays of its next swap and a quote.
-/
structure RaydiumClmmPool where
  ammConfig : Pubkey
  poolState : Pubkey
  observationState : Pubkey
  token0Mint : Pubkey
  token1Mint : Pubkey
  token0Vault : Pubkey
  token1Vault : Pubkey
  token0Program : Pubkey
  token1Program : Pubkey
  tickArrays : List Pubkey
  tickArrayBitmapExtension : Option Pubkey
  quotedAmountIn : Option UInt64
  quotedInputMint : Option Pubkey
  expectedOut : Option UInt64
  feeBps : UInt16

/-- **An Orca Whirlpool**, with the tick arrays of its next swap and a quote. -/
structure WhirlpoolPool where
  whirlpool : Pubkey
  mintA : Pubkey
  mintB : Pubkey
  vaultA : Pubkey
  vaultB : Pubkey
  tokenProgramA : Pubkey
  tokenProgramB : Pubkey
  /-- Three fixed tick arrays followed by up to three supplemental tick
  arrays. -/
  tickArrays : List Pubkey
  quotedAmountIn : Option UInt64
  quotedInputMint : Option Pubkey
  expectedOut : Option UInt64
  feeBps : UInt16

/-- **A Meteora DLMM pool**, with the bin arrays of its next swap and a quote.
-/
structure MeteoraDlmmPool where
  lbPair : Pubkey
  bitmapExtension : Option Pubkey
  reserveX : Pubkey
  reserveY : Pubkey
  tokenXMint : Pubkey
  tokenYMint : Pubkey
  tokenXProgram : Pubkey
  tokenYProgram : Pubkey
  oracle : Pubkey
  binArrays : List Pubkey
  quotedAmountIn : Option UInt64
  quotedInputMint : Option Pubkey
  expectedOut : Option UInt64

/-! ## Bridges -/

/-- **SOL↔quote bridge** when the meme market does not quote SOL: CPMM or
Raydium AMM V4. -/
inductive BridgePool where
  | cpmm (pool : CpmmPool)
  | ammV4 (pool : RaydiumAmmV4Pool)

namespace BridgePool

/-- The two mints a bridge connects. -/
def mints : BridgePool → Pubkey × Pubkey
  | cpmm p => (p.baseMint, p.quoteMint)
  | ammV4 p => (p.coinMint, p.pcMint)

/-- Whether the bridge has the mint on one of its sides. -/
def containsMint (bridge : BridgePool) (mint : Pubkey) : Bool :=
  mint = bridge.mints.1 ∨ mint = bridge.mints.2

/-- The mint across the bridge. -/
def otherMint (bridge : BridgePool) (mint : Pubkey) : Option Pubkey :=
  if mint = bridge.mints.1 then some bridge.mints.2
  else if mint = bridge.mints.2 then some bridge.mints.1
  else none

end BridgePool

/-! ## Markets -/

/-- **Target market** (inner or outer). -/
inductive Market where
  | launchLabInner (pool : LaunchLabPool)
  | cpmmOuter (pool : CpmmPool)
  | pumpFunInner (pool : PumpFunPool)
  | pumpSwapOuter (pool : PumpSwapPool)
  | raydiumAmmV4 (pool : RaydiumAmmV4Pool)
  | meteoraDammV2 (pool : MeteoraDammV2Pool)
  | raydiumClmm (pool : RaydiumClmmPool)
  | whirlpool (pool : WhirlpoolPool)
  | meteoraDlmm (pool : MeteoraDlmmPool)

/-- Of two mints, the one that is traded: neither WSOL nor, failing that, USDC.
-/
def pairBase (a b : Pubkey) : Pubkey :=
  if a = wsolMint then b
  else if b = wsolMint then a
  else if a = usdcMint then b
  else a

/-- And the one it is traded for. -/
def pairQuote (a b : Pubkey) : Pubkey :=
  if a = wsolMint ∨ b = wsolMint then wsolMint
  else if a = usdcMint then usdcMint
  else b

namespace Market

/-- The mint a market trades. -/
def baseMint : Market → Pubkey
  | launchLabInner p => p.baseMint
  | cpmmOuter p => p.memeMint
  | pumpFunInner p => p.mint
  | pumpSwapOuter p => p.baseMint
  | raydiumAmmV4 p => pairBase p.coinMint p.pcMint
  | meteoraDammV2 p => pairBase p.tokenAMint p.tokenBMint
  | raydiumClmm p => pairBase p.token0Mint p.token1Mint
  | whirlpool p => pairBase p.mintA p.mintB
  | meteoraDlmm p => pairBase p.tokenXMint p.tokenYMint

/-- And the mint it is traded for. -/
def quoteMint : Market → Pubkey
  | launchLabInner p => p.quoteMint
  | cpmmOuter p => p.payMint
  | pumpFunInner p => p.quoteMint
  | pumpSwapOuter p => p.quoteMint
  | raydiumAmmV4 p => pairQuote p.coinMint p.pcMint
  | meteoraDammV2 p => pairQuote p.tokenAMint p.tokenBMint
  | raydiumClmm p => pairQuote p.token0Mint p.token1Mint
  | whirlpool p => pairQuote p.mintA p.mintB
  | meteoraDlmm p => pairQuote p.tokenXMint p.tokenYMint

/-- A market without a WSOL side is reached from SOL over a bridge. -/
def needsSolBridge : Market → Bool
  | launchLabInner p => !p.isSolQuote
  | cpmmOuter p => p.baseMint ≠ wsolMint ∧ p.quoteMint ≠ wsolMint
  | pumpFunInner p => p.quoteMint ≠ wsolMint
  | pumpSwapOuter p => p.quoteMint ≠ wsolMint
  | raydiumAmmV4 p => p.coinMint ≠ wsolMint ∧ p.pcMint ≠ wsolMint
  | meteoraDammV2 p => p.tokenAMint ≠ wsolMint ∧ p.tokenBMint ≠ wsolMint
  | raydiumClmm p => p.token0Mint ≠ wsolMint ∧ p.token1Mint ≠ wsolMint
  | whirlpool p => p.mintA ≠ wsolMint ∧ p.mintB ≠ wsolMint
  | meteoraDlmm p => p.tokenXMint ≠ wsolMint ∧ p.tokenYMint ≠ wsolMint

/-- The token program of the mint that is traded. -/
def baseTokenProgram (market : Market) : Pubkey :=
  match market with
  | launchLabInner p => p.baseTokenProgram
  | cpmmOuter p => (p.tokenProgramFor p.memeMint).getD p.baseTokenProgram
  | pumpFunInner p => p.mintTokenProgram
  | pumpSwapOuter p => p.baseTokenProgram
  | raydiumAmmV4 p => p.tokenProgram
  | meteoraDammV2 p =>
    if market.baseMint = p.tokenAMint then p.tokenAProgram else p.tokenBProgram
  | raydiumClmm p =>
    if market.baseMint = p.token0Mint then p.token0Program else p.token1Program
  | whirlpool p =>
    if market.baseMint = p.mintA then p.tokenProgramA else p.tokenProgramB
  | meteoraDlmm p =>
    if market.baseMint = p.tokenXMint then p.tokenXProgram else p.tokenYProgram

/-- And of the one it is traded for. -/
def quoteTokenProgram (market : Market) : Pubkey :=
  match market with
  | launchLabInner p => p.quoteTokenProgram
  | cpmmOuter p => (p.tokenProgramFor p.payMint).getD p.quoteTokenProgram
  | pumpFunInner p => p.quoteTokenProgram
  | pumpSwapOuter p => p.quoteTokenProgram
  | raydiumAmmV4 p => p.tokenProgram
  | meteoraDammV2 p =>
    if market.quoteMint = p.tokenAMint then p.tokenAProgram else p.tokenBProgram
  | raydiumClmm p =>
    if market.quoteMint = p.token0Mint then p.token0Program else p.token1Program
  | whirlpool p =>
    if market.quoteMint = p.mintA then p.tokenProgramA else p.tokenProgramB
  | meteoraDlmm p =>
    if market.quoteMint = p.tokenXMint then p.tokenXProgram else p.tokenYProgram

end Market

/-- **A market with the bridge its trades may need.** -/
structure RoutedMarket where
  market : Market
  bridge : Option BridgePool

/-- The mint two CPMM pools share, the quote before the base. -/
def sharedMint (pool bridge : CpmmPool) : Option Pubkey :=
  if pool.quoteMint ∈ [bridge.baseMint, bridge.quoteMint] then some pool.quoteMint
  else if pool.baseMint ∈ [bridge.baseMint, bridge.quoteMint] then some pool.baseMint
  else none

/-- The mint a pool shares with a bridge. -/
def sharedMintWithBridge (pool : CpmmPool) : BridgePool → Option Pubkey
  | .cpmm b => sharedMint pool b
  | .ammV4 b =>
    if pool.quoteMint ∈ [b.coinMint, b.pcMint] then some pool.quoteMint
    else if pool.baseMint ∈ [b.coinMint, b.pcMint] then some pool.baseMint
    else none

namespace RoutedMarket

/-- The meme of a pool bridged through a pool that shares one of its mints
is the other mint. -/
def memeMint (routed : RoutedMarket) : Pubkey :=
  match routed.market, routed.bridge with
  | .cpmmOuter pool, some bridge =>
    if routed.market.needsSolBridge then
      match sharedMintWithBridge pool bridge with
      | some stock => (pool.otherMint stock).getD pool.memeMint
      | none => pool.memeMint
    else pool.memeMintSolPaired.getD pool.baseMint
  | .cpmmOuter pool, none => pool.memeMintSolPaired.getD pool.baseMint
  | _, _ => routed.market.baseMint

/-- The token program of the meme, which on a CPMM pool may be either side's. -/
def memeTokenProgram (routed : RoutedMarket) : Pubkey :=
  match routed.market with
  | .cpmmOuter pool =>
    (pool.tokenProgramFor routed.memeMint).getD routed.market.baseTokenProgram
  | _ => routed.market.baseTokenProgram

/-- Payment/receive mint for this routed market. A CPMM bridge can select
either pool side as quote; raw base/quote ordering is not trade
direction. -/
def quoteMint (routed : RoutedMarket) : Pubkey :=
  match routed.market with
  | .cpmmOuter pool => (pool.otherMint routed.memeMint).getD pool.payMint
  | _ => routed.market.quoteMint

/-- Token program for the payment/receive mint selected by this routed
market. -/
def quoteTokenProgram (routed : RoutedMarket) : Pubkey :=
  match routed.market with
  | .cpmmOuter pool =>
    (pool.tokenProgramFor routed.quoteMint).getD routed.market.quoteTokenProgram
  | _ => routed.market.quoteTokenProgram

end RoutedMarket

end Sdk
