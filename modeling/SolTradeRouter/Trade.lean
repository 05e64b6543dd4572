import SolTradeRouter.TradeLegs

/-!
# Building a trade

`buyWithOpts` and `sellWithOpts` turn an amount, a market and the options
into the instructions of one transaction: the setup, the route and the
cleanup. The router's fee is taken off the amount first, and the legs spend
the rest. A buy whose legs spend less than the rest takes a smaller amount
into the route, the least one whose rest is what the legs spend.
-/

namespace Sdk

open Outcome

def solFeeProgram : Pubkey := systemProgram

/-- Pick Token vs Token-2022 for fee CPI based on the fee_source ATA's token
program. -/
def tokenFeeProgram (program : Pubkey) : Pubkey :=
  if program = token2022Program then token2022Program else tokenProgram

/-- **Ready-to-sign instruction bundle.** -/
structure BuiltTrade where
  setup : List Instruction
  route : Option Instruction
  cleanup : List Instruction

/-! ## Checks of the market -/

def validateInnerMarketPrograms (market : RoutedMarket) (quoteAta : Bool) : Result Unit :=
  match market.market with
  | .launchLabInner pool =>
    requireMintPrograms [(pool.baseMint, pool.baseTokenProgram),
      (pool.quoteMint, pool.quoteTokenProgram)] "LaunchLab"
  | .pumpFunInner pool => do
    requireTokenPrograms [pool.mintTokenProgram] "PumpFun"
    -- Native SOL settlement uses lamports, not the quote mint's token program.
    if !pool.isNativeSolQuote || quoteAta then do
      requireTokenPrograms [pool.quoteTokenProgram] "PumpFun quote"
      bailIf (pool.isNativeSolQuote ∧ pool.quoteTokenProgram ≠ tokenProgram)
        "PumpFun WSOL ATA settlement requires classic WSOL token program"
    else pure ()
  | _ => .ok ()

def validateBridgeQuoteProgram (market : RoutedMarket) : Result Unit := do
  let bridge ← okOr market.bridge "missing SOL/WSOL bridge"
  let quote := market.quoteMint
  let bridgeProgram :=
    match bridge with
    | .cpmm pool => pool.tokenProgramFor quote
    -- AMM V4's leg builder retains the legacy classic-program default.
    | .ammV4 pool => if bridge.containsMint quote then some pool.legTokenProgram else none
  bailIf (bridgeProgram ≠ some market.quoteTokenProgram)
    "bridge quote token program does not match target market"

/-- The markets with an exact-out leg. PumpSwap has one for buys alone. -/
def Market.supportsFixedOutput (market : Market) (isBuy : Bool) : Bool :=
  match market with
  | .cpmmOuter _ | .raydiumAmmV4 _ | .meteoraDammV2 _ => true
  | .pumpSwapOuter _ => isBuy
  | _ => false

/-- A PumpFun curve quoted in native SOL. -/
def Market.isPumpNativeSol : Market → Bool
  | .pumpFunInner pool => pool.isNativeSolQuote
  | _ => false

/-- A PumpFun curve settled through the user's WSOL account. -/
def Market.isPumpWsolAta : Market → Bool
  | .pumpFunInner pool => pool.usesWsolAtaSettlement
  | _ => false

/-- Whether a trade against an asset needs the bridge. A token must be the
market's quote, and needs none. -/
def RoutedMarket.pathNeedsBridge (market : RoutedMarket) (asset : Option Pubkey)
    (option : String) : Result Bool :=
  match asset with
  | some mint => do
    bailIf (mint = market.memeMint) s!"{option} token cannot be the meme mint"
    bailIf (mint ≠ market.quoteMint)
      s!"{option} token {mint} is not this market's quote {market.quoteMint}"
    pure false
  | none => .ok market.market.needsSolBridge

/-- The checks of a path: a fixed output is supported on it, and the bridge
it needs is there and agrees with the market. -/
def RoutedMarket.checkPath (market : RoutedMarket) (needsBridge isBuy : Bool)
    (opts : TradeOpts) (missing : String) : Result Unit := do
  opts.validateFixedOutput (!needsBridge && market.market.supportsFixedOutput isBuy)
  bailIf (needsBridge = true ∧ market.bridge.isNone) missing
  if needsBridge then validateBridgeQuoteProgram market else pure ()

/-- The token a buy pays with, if it does not pay SOL or WSOL. -/
def BuyWith.payMint : BuyWith → Option Pubkey
  | token mint => some mint
  | sol | wsol => none

/-- The token a sale is paid in, if it is not paid in SOL or WSOL. -/
def SellTo.receiveMint : SellTo → Option Pubkey
  | token mint => some mint
  | sol | wsol => none

/-! ## Amounts -/

/-- **Smallest amount that leaves `spend` after the fee.** -/
def routeAmountInForSpend (spend : UInt64) (feeBps : UInt16) : Result UInt64 := do
  bailIf (feeBps ≥ 10000) "router fee must be below 10_000 bps"
  if spend = 0 then pure 0
  else do
    -- On-chain fees round down, so net = ceil(gross * (10000 - bps) / 10000).
    let denominator := 10000 - feeBps.toNat
    let amount := (spend.toNat - 1) * 10000 / denominator + 1
    okOr (U64.tryOf amount) "router input including fee exceeds u64"

/-- What is left of an amount after the fee. -/
def spendAfterFee (amountIn : UInt64) (feeBps : UInt16) : Result UInt64 := do
  bailIf (amountIn = 0) "amount_in is zero"
  let spend := U64.satSub amountIn (feeAmount amountIn feeBps)
  bailIf (spend = 0) "amount after fee is zero"
  pure spend

/-- The amount of a route whose legs spend `spent` of the `spend` they were
given. -/
def routeAmountInFor (amountIn spend spent : UInt64) (feeBps : UInt16) : Result UInt64 :=
  if spent = spend then .ok amountIn else routeAmountInForSpend spent feeBps

namespace RouterClient

variable [Pda] [Upstream] (client : RouterClient)

/-! ## Buying -/

omit [Pda] [Upstream] in
/-- The asset must be one the curve settles in. -/
def checkPumpBuyAsset (market : Market) (buyWith : BuyWith) : Result Unit :=
  if market.isPumpNativeSol then
    match buyWith with
    | .sol => .ok ()
    | .wsol => bailIf (market.isPumpWsolAta = false)
        "PumpFun WSOL-quote native settlement uses BuyWith::Sol; set use_v2 for WSOL ATA"
    | .token _ => bail "PumpFun WSOL-quote buy does not accept stock/quote token"
  else .ok ()

/-- The setup of a buy before its legs are built. -/
def buySetup (market : RoutedMarket) (opts : TradeOpts) : TradeSetup :=
  let meme := market.memeMint
  let memeTp := market.memeTokenProgram
  let s := (TradeSetup.mk [] TouchedAtas.default).touchMeme meme memeTp
  let s := s.pushCreateAta opts.ata .meme client.payer meme memeTp
  let willUseWsol : Bool :=
    match opts.buyWith with
    | .sol => !market.market.isPumpNativeSol
    | .wsol => true
    | .token _ => false
  if willUseWsol then
    s.touchWsol.pushCreateAta opts.ata .wsol client.payer wsolMint tokenProgram
  else s

/-- The fee's half of a route: what it is charged in, and the accounts. -/
structure FeeAccounts where
  feeAsset : UInt8
  feeDestination : Pubkey
  feeSource : Pubkey
  feeProgram : Pubkey
  feeMint : Pubkey

/-- A fee in tokens, from the payer's account to the recipient's. -/
def tokenFee (mint program feeProgram : Pubkey) : FeeAccounts where
  feeAsset := feeAssetToken
  feeDestination := ata client.feeRecipient mint program
  feeSource := ata client.payer mint program
  feeProgram := feeProgram
  feeMint := mint

/-- **Where the fee of a buy comes from.** PumpFun's native-SOL settlement
stays lamports; other SOL and WSOL fees come from WSOL. -/
def buyFee (market : RoutedMarket) (opts : TradeOpts) : FeeAccounts :=
  match opts.buyWith with
  | .token mint =>
    let tp := if mint = wsolMint then tokenProgram else market.quoteTokenProgram
    client.tokenFee mint tp (tokenFeeProgram tp)
  | .sol =>
    if market.market.isPumpNativeSol then
      -- The fee's mint is a placeholder.
      ⟨feeAssetSol, client.feeRecipient, client.payer, solFeeProgram, solFeeProgram⟩
    else client.tokenFee wsolMint tokenProgram tokenProgram
  | .wsol => client.tokenFee wsolMint tokenProgram tokenProgram

/-- The setup with the recipient's account made ready when a fee is charged,
and the payer's account of a token it pays with. -/
def prepareFee (market : RoutedMarket) (opts : TradeOpts) (fee : UInt64) (s : TradeSetup) :
    TradeSetup :=
  let wsolFee :=
    if fee > 0 || opts.ata.createWsol then
      s.push [createAtaIdempotent client.payer client.feeRecipient wsolMint tokenProgram]
    else s
  match opts.buyWith with
  | .token mint =>
    let tp := if mint = wsolMint then tokenProgram else market.quoteTokenProgram
    let kind := if mint = wsolMint then AtaKind.wsol else .quote
    let s := if mint = wsolMint then s.touchWsol else s.touchQuote mint tp
    let s := if fee > 0 || opts.ata.allows kind then
        s.push [createAtaIdempotent client.payer client.feeRecipient mint tp] else s
    s.pushCreateAta opts.ata kind client.payer mint tp
  | .sol => if market.market.isPumpNativeSol then s else wsolFee
  | .wsol => wsolFee

/-- **Generic buy with explicit options.** -/
def buyWithOpts (amountIn : UInt64) (market : RoutedMarket) (opts : TradeOpts) :
    Result BuiltTrade := do
  validateRouterFeeBps client.feeBps
  assertRoutedMarketOk market client.poolGuard
  validateInnerMarketPrograms market (opts.buyWith ≠ .sol)
  let spend ← spendAfterFee amountIn client.feeBps
  let needsBridge ← market.pathNeedsBridge opts.buyWith.payMint "buy_with"
  market.checkPath needsBridge true opts
    "SOL/WSOL path needs stock bridge; or use buy_with_token(mint)"
  checkPumpBuyAsset market.market opts.buyWith
  let built ← client.buildBuyLegs spend market opts (client.buySetup market opts)
  bailIf (opts.minOut = none ∧ built.minOut = 0)
    "automatic buy quote rounds to zero output; increase input"
  let routeAmountIn ← routeAmountInFor amountIn spend built.spent client.feeBps
  -- Wrapped after the legs, so that a graduation clamp can shrink the amount.
  let s := if opts.buyWith = .sol ∧ market.market.isPumpNativeSol = false then
      built.setup.push (wrapSolWithOptions client.payer routeAmountIn false)
    else built.setup
  let s := client.prepareFee market opts (feeAmount amountIn client.feeBps) s
  let fee := client.buyFee market opts
  let route := buildRouteInstructionEx client.programId
    { payer := client.payer
      feeDestination := fee.feeDestination
      feeSource := fee.feeSource
      outputTokenAccount := ata client.payer market.memeMint market.memeTokenProgram
      feeProgram := fee.feeProgram
      feeMint := fee.feeMint }
    routeAmountIn built.minOut fee.feeAsset opts.fixedOutput.isSome market.memeMint built.legs
  pure ⟨s.setup, some route, opts.ata.buildCleanup client.payer s.touched⟩

/-! ## Selling -/

omit [Pda] [Upstream] in
/-- The asset must be one the curve settles in. -/
def checkPumpSellAsset (market : Market) (sellTo : SellTo) : Result Unit :=
  if market.isPumpNativeSol then
    match sellTo with
    | .sol => .ok ()
    | .wsol => bailIf (market.isPumpWsolAta = false)
        "PumpFun WSOL-quote native settlement uses SellTo::Sol; set use_v2 for WSOL ATA"
    | .token _ => bail "PumpFun WSOL-quote sell only returns SOL/WSOL"
  else .ok ()

/-- The setup of a sale before its legs are built. -/
def sellSetup (market : RoutedMarket) (opts : TradeOpts) (fee : UInt64) : TradeSetup :=
  let meme := market.memeMint
  let memeTp := market.memeTokenProgram
  let s := (TradeSetup.mk [] TouchedAtas.default).touchMeme meme memeTp
  -- The recipient's account of the meme is required when a fee is charged.
  let s := if fee > 0 || opts.ata.createMeme then
      s.push [createAtaIdempotent client.payer client.feeRecipient meme memeTp] else s
  if (opts.sellTo.isSolFamily && !market.market.isPumpNativeSol)
      || (opts.sellTo = .wsol && market.market.isPumpWsolAta) then
    s.touchWsol.pushCreateAta opts.ata .wsol client.payer wsolMint tokenProgram
  else
    match opts.sellTo with
    | .token mint => s.useAta opts.ata client.payer mint market.quoteTokenProgram
    | .sol | .wsol => s

/-- The mint a sale is paid in, and the account. Native SOL is credited to
the payer, whose lamports the router compares. -/
def sellOutput (market : RoutedMarket) (sellTo : SellTo) (outputAta : Pubkey) :
    Pubkey × Pubkey :=
  match sellTo with
  | .sol => if market.market.isPumpNativeSol then (systemProgram, client.payer)
    else (wsolMint, outputAta)
  | .wsol => (wsolMint, outputAta)
  | .token mint => (mint, outputAta)

/-- **Generic sell with explicit options.** -/
def sellWithOpts (amountIn : UInt64) (market : RoutedMarket) (opts : TradeOpts) :
    Result BuiltTrade := do
  validateRouterFeeBps client.feeBps
  assertRoutedMarketOk market client.poolGuard
  validateInnerMarketPrograms market (opts.sellTo ≠ .sol)
  let sellAmt ← spendAfterFee amountIn client.feeBps
  let needsBridge ← market.pathNeedsBridge opts.sellTo.receiveMint "sell_to"
  market.checkPath needsBridge false opts
    "SOL/WSOL receive needs stock bridge; or use sell_to_token(mint)"
  checkPumpSellAsset market.market opts.sellTo
  let s := client.sellSetup market opts (feeAmount amountIn client.feeBps)
  let built ← client.buildSellLegs sellAmt market opts s
  bailIf (opts.minOut = none ∧ built.minOut = 0)
    "automatic sell quote rounds to zero output; increase input"
  let (expectedOutputMint, outputTokenAccount) :=
    client.sellOutput market opts.sellTo built.outputAta
  let meme := market.memeMint
  let fee := client.tokenFee meme market.memeTokenProgram
    (tokenFeeProgram market.memeTokenProgram)
  let route := buildRouteInstructionEx client.programId
    { payer := client.payer
      feeDestination := fee.feeDestination
      feeSource := fee.feeSource
      outputTokenAccount := outputTokenAccount
      feeProgram := fee.feeProgram
      feeMint := fee.feeMint }
    amountIn built.minOut fee.feeAsset opts.fixedOutput.isSome expectedOutputMint built.legs
  pure ⟨built.setup.setup, some route,
    opts.ata.buildCleanup client.payer built.setup.touched⟩

end RouterClient

end Sdk
