import SolTradeRouter.Legs
import SolTradeRouter.PoolGuard
import SolTradeRouter.Quote

/-!
# The legs of a trade

A trade swaps on its market, or first on a bridge between SOL and the mint
the market is quoted in and then on the market; a sale goes the other way.
Here the market, the payment asset and the options choose the swaps, the
quotes choose the amounts, and the leg builders encode both.

The setup instructions and the accounts a trade touches are collected on
the way. They are passed along as a value and returned with the legs. Where
the source threads the slippage, the explicit minimum, the fixed output and
the account policy through its calls one by one, the options are passed
whole.

The source lists its branches by payment asset and market together. They
are grouped by market here; the branches of one market keep their order.
-/

namespace Sdk

open Outcome

/-- What the user pays with on **buy**. -/
inductive BuyWith where
  /-- Native SOL. Wrap to WSOL when the DEX needs it; PumpFun spends native
  SOL. -/
  | sol
  /-- Existing WSOL ATA – no wrap. -/
  | wsol
  /-- Already-held quote/stock token – single hop, no SOL→stock leg. -/
  | token (mint : Pubkey)
  deriving DecidableEq

/-- What the user receives on **sell**. -/
inductive SellTo where
  /-- Unwrap WSOL → native SOL. -/
  | sol
  /-- Keep WSOL in ATA – no unwrap/close. -/
  | wsol
  /-- Stop at quote/stock – no stock→SOL leg. -/
  | token (mint : Pubkey)
  deriving DecidableEq

/-- Proceeds in SOL, wrapped or not. -/
def SellTo.isSolFamily : SellTo → Bool
  | sol | wsol => true
  | token _ => false

/-- **The options of a trade.** -/
structure TradeOpts where
  slippageBps : UInt64
  /-- Explicit minimum output. Without one, the minimum is the quote less
  the slippage; zero explicitly allows zero output. -/
  minOut : Option UInt64
  /-- Positive exact-out target; the amount is then the maximum input. -/
  fixedOutput : Option UInt64
  buyWith : BuyWith
  sellTo : SellTo
  ata : AtaPolicy

namespace TradeOpts

/-- A fixed output is positive, not below the minimum, and supported by the
path. -/
def validateFixedOutput (opts : TradeOpts) (supported : Bool) : Result Unit :=
  match opts.fixedOutput with
  | some target => do
    bailIf (target = 0) "fixed_output must be positive"
    bailIf (opts.minOut.any (fun minimum => minimum > target))
      "min_out exceeds fixed_output target"
    bailIf (supported = false) "fixed_output is unsupported for this trade path"
  | none => .ok ()

/-- The explicit minimum, or what the slippage leaves of a quote. -/
def floor (opts : TradeOpts) (expected : UInt64) : UInt64 :=
  opts.minOut.getD (applySlippageMinOut expected opts.slippageBps)

/-- The minimum of a swap that is always quoted. -/
def quotedMinOut (opts : TradeOpts) (quote : Result UInt64) : Result UInt64 := do
  let expected ← quote
  pure (opts.floor expected)

/-- The minimum of a swap that is quoted only for want of an explicit
minimum. -/
def minOutOr (opts : TradeOpts) (quote : Result UInt64) : Result UInt64 :=
  match opts.minOut with
  | some minimum => .ok minimum
  | none => do
    let expected ← quote
    pure (applySlippageMinOut expected opts.slippageBps)

end TradeOpts

/-- **Client for the router program.** -/
structure RouterClient where
  /-- Transaction fee payer / trade authority. -/
  payer : Pubkey
  programId : Pubkey
  feeRecipient : Pubkey
  /-- Must match the on-chain config (used for local fee netting). -/
  feeBps : UInt16
  /-- Reject wild / non-canonical pools before building legs. -/
  poolGuard : PoolGuardPolicy

/-! ## Setup -/

/-- The setup instructions so far, and the accounts used so far. -/
structure TradeSetup where
  setup : List Instruction
  touched : TouchedAtas

namespace TradeSetup

/-- The meme's account is used. -/
def touchMeme (s : TradeSetup) (mint tokenProgram : Pubkey) : TradeSetup :=
  { s with touched := s.touched.touchMeme mint tokenProgram }

/-- The quote's account is used. -/
def touchQuote (s : TradeSetup) (mint tokenProgram : Pubkey) : TradeSetup :=
  { s with touched := s.touched.touchQuote mint tokenProgram }

/-- The account for wrapped SOL is used. -/
def touchWsol (s : TradeSetup) : TradeSetup := { s with touched := s.touched.touchWsol }

/-- More instructions before the route. -/
def push (s : TradeSetup) (instructions : List Instruction) : TradeSetup :=
  { s with setup := s.setup ++ instructions }

variable [Pda]

/-- Create an account of the payer's, if the policy does. -/
def pushCreateAta (s : TradeSetup) (policy : AtaPolicy) (kind : AtaKind)
    (payer mint tokenProgram : Pubkey) : TradeSetup :=
  if policy.allows kind then s.push [createAtaIdempotent payer payer mint tokenProgram] else s

/-- Touch the user's account of a payment or receive mint, and create it if
the policy allows. -/
def useAta (s : TradeSetup) (policy : AtaPolicy) (payer mint tokenProgram : Pubkey) :
    TradeSetup :=
  if mint = wsolMint then
    s.touchWsol.pushCreateAta policy .wsol payer mint tokenProgram
  else
    (s.touchQuote mint tokenProgram).pushCreateAta policy .quote payer mint tokenProgram

end TradeSetup

/-- Keep protocol setup rent outside native input/output measurement. Both
instructions are idempotent; plain V1 sells do not need a volume account. -/
def preparePumpfunNativeAccounts [Pda] (router payer : Pubkey) (pool : PumpFunPool)
    (initializeVolume : Bool) (s : TradeSetup) : TradeSetup :=
  let volume := pumpfunUserVolumeAccumulator payer
  let prepareVolume : List Instruction :=
    [⟨pumpfunProgram,
      [.new payer true, .newReadonly payer false, .new volume false,
        .newReadonly systemProgram false, .newReadonly pumpfunEventAuthority false,
        .newReadonly pumpfunProgram false],
      [94, 6, 202, 115, 255, 96, 232, 183]⟩]
  s.push ((if initializeVolume then prepareVolume else [])
    ++ [⟨router,
      [.new payer true, .newReadonly pool.bondingCurve false, .new pool.creatorVault false,
        .newReadonly systemProgram false],
      [tagPreparePumpfun]⟩])

/-- The legs of a buy, the minimum of the last, and what the first spends. -/
structure BuyLegs where
  legs : List Leg
  minOut : UInt64
  spent : UInt64
  setup : TradeSetup

/-- The legs of a sale, the minimum of the last, and the account it pays. -/
structure SellLegs where
  legs : List Leg
  minOut : UInt64
  outputAta : Pubkey
  setup : TradeSetup

/-! ## Quotes of concentrated pools -/

/-- Without an explicit minimum, the quote must be for this direction. -/
def assertQuoteDirection (quotedInput : Option Pubkey) (input : Pubkey)
    (explicit : Option UInt64) : Result Unit :=
  bailIf (explicit = none ∧ quotedInput ≠ some input)
    ("quote input mint/direction is missing or mismatched; "
      ++ "refresh quote or provide min_out")

/-- **The minimum of a concentrated swap**: the explicit one, or the snapshot's
quote for this amount less the slippage. -/
def concentratedMinOut (expected quotedAmountIn : Option UInt64) (amountIn : UInt64)
    (explicit : Option UInt64) (slippageBps : UInt64) (dex : String) : Result UInt64 :=
  match explicit with
  | some min => .ok min
  | none => do
    match quotedAmountIn with
    | some qin =>
      bailIf (qin ≠ amountIn) (s!"{dex} expected_out was quoted for amount_in={qin}, "
        ++ s!"got {amountIn}; refresh snapshot")
    | none => bail (s!"{dex} snapshot missing quoted_amount_in; "
        ++ "refresh snapshot (required even with with_min_out)")
    let expected ← okOr expected
      s!"{dex} snapshot has no expected_out; provide TradeOpts::with_min_out"
    pure (applySlippageMinOut expected slippageBps)

/-- Intermediate bridge hop: pin the local quote (no slippage haircut). -/
def bridgeIntermediateMinOut (quoted : UInt64) : UInt64 := quoted

/-- Bridged CL hop2 amount ≠ streamer single-hop size – never reuse
`expectedOut`. -/
def bridgedConcentratedMinOut (explicit : Option UInt64) (dex : String) : Result UInt64 :=
  okOr explicit (s!"bridged {dex} requires TradeOpts::with_min_out "
    ++ "(do not reuse single-hop expected_out)")

/-- The other mint of a pool, with the token program of the output. -/
def pairInputAndOutputProgram (output a b programA programB : Pubkey) (dex : String) :
    Result (Pubkey × Pubkey) :=
  if output = a then .ok (b, programA)
  else if output = b then .ok (a, programB)
  else bail s!"{dex} output mint does not match pool"

/-! ## Bridges -/

/-- The mint a bridge and a pool share, the pool's quote before its base. -/
def resolveSharedMint (pool : CpmmPool) : BridgePool → Result Pubkey
  | .cpmm b =>
    if pool.quoteMint ∈ [b.baseMint, b.quoteMint] then .ok pool.quoteMint
    else if pool.baseMint ∈ [b.baseMint, b.quoteMint] then .ok pool.baseMint
    else bail "bridge and market pool share no mint"
  | .ammV4 b =>
    if pool.quoteMint ∈ [b.coinMint, b.pcMint] then .ok pool.quoteMint
    else if pool.baseMint ∈ [b.coinMint, b.pcMint] then .ok pool.baseMint
    else bail "bridge and market pool share no mint"

/-- What a bridge brings for an amount. -/
def bridgeQuoteOut (bridge : BridgePool) (amountIn : UInt64) (inputMint : Pubkey) :
    Result UInt64 := do
  bailIf (bridge.containsMint inputMint = false) "bridge input mint mismatch"
  match bridge with
  | .cpmm p => cpmmOut p amountIn (inputMint = p.baseMint)
  | .ammV4 p => raydiumAmmV4Out p amountIn (inputMint = p.coinMint)

/-- And the amount it takes to bring another. -/
def bridgeInForOut (bridge : BridgePool) (amountOut : UInt64) (inputMint : Pubkey) :
    Result UInt64 := do
  bailIf (bridge.containsMint inputMint = false) "bridge input mint mismatch"
  match bridge with
  | .cpmm p => cpmmInForOut p amountOut (inputMint = p.baseMint)
  | .ammV4 p => raydiumAmmV4InForOut p amountOut (inputMint = p.coinMint)

/-- An AMM V4 leg derives the user's accounts itself. -/
def bridgeSwapLeg [Pda] (user : Pubkey) (bridge : BridgePool) (amountIn minOut : UInt64)
    (inputMint outputMint userSrc userDst : Pubkey) : Result Leg :=
  match bridge with
  | .cpmm p => cpmmSwapLeg user p amountIn minOut inputMint outputMint userSrc userDst
  | .ammV4 p => raydiumAmmV4SwapLeg user p amountIn minOut inputMint

/-- The pool's other mint. -/
def otherMint (pool : CpmmPool) (mint : Pubkey) : Pubkey :=
  if mint = pool.baseMint then pool.quoteMint else pool.baseMint

/-- The token program the pool lists for a mint. -/
def tokenProgramFor (pool : CpmmPool) (mint : Pubkey) : Pubkey :=
  if mint = pool.baseMint then pool.baseTokenProgram else pool.quoteTokenProgram

/-- A DAMM V2 pool in the given swap mode. -/
def MeteoraDammV2Pool.withMode (pool : MeteoraDammV2Pool) (mode : UInt8) :
    MeteoraDammV2Pool :=
  { pool with swapMode := mode }

/-! ## Single swaps -/

namespace RouterClient

variable [Pda] [Upstream] (client : RouterClient)

omit [Upstream] in
/-- A LaunchLab buy spends no more than what remains for sale costs. -/
def buyLaunchlab (spend : UInt64) (pool : LaunchLabPool) (opts : TradeOpts)
    (memeAta quoteAta : Pubkey) (s : TradeSetup) : Result BuyLegs := do
  let q ← launchlabBuyQuote pool spend 0
  let minOut := opts.floor q.amountOut
  pure ⟨[launchlabBuyLeg client.payer pool q.amountIn minOut memeAta quoteAta], minOut,
    q.amountIn, s⟩

omit [Upstream] in
/-- The same with the curve's own quote, out of the payer's account. -/
def buyLaunchlabWithQuote (spend : UInt64) (pool : LaunchLabPool) (payMint : Pubkey)
    (opts : TradeOpts) (memeAta : Pubkey) (s : TradeSetup) : Result BuyLegs := do
  bailIf (payMint ≠ pool.quoteMint) "LaunchLab pay mint must be pool quote"
  let quoteAta := ata client.payer payMint pool.quoteTokenProgram
  let s := s.useAta opts.ata client.payer payMint pool.quoteTokenProgram
  client.buyLaunchlab spend pool opts memeAta quoteAta s

omit [Upstream] in
/-- A LaunchLab sale, into the account given. -/
def sellLaunchlab (sellAmt : UInt64) (pool : LaunchLabPool) (opts : TradeOpts)
    (memeAta quoteAta : Pubkey) (s : TradeSetup) : Result SellLegs := do
  let minOut ← opts.quotedMinOut (launchlabSellQuoteOut pool sellAmt)
  pure ⟨[launchlabSellLeg client.payer pool sellAmt minOut memeAta quoteAta], minOut,
    quoteAta, s⟩

omit [Upstream] in
/-- And into the payer's account for the curve's quote. -/
def sellLaunchlabToQuote (sellAmt : UInt64) (pool : LaunchLabPool) (outMint : Pubkey)
    (opts : TradeOpts) (memeAta : Pubkey) (s : TradeSetup) : Result SellLegs := do
  bailIf (outMint ≠ pool.quoteMint) "LaunchLab receive mint must be pool quote"
  let quoteAta := ata client.payer outMint pool.quoteTokenProgram
  let s := s.useAta opts.ata client.payer outMint pool.quoteTokenProgram
  client.sellLaunchlab sellAmt pool opts memeAta quoteAta s

/-- A PumpSwap buy, for a fixed output or a fixed input. -/
def buyPumpswapWithQuote (spend : UInt64) (pool : PumpSwapPool) (payMint : Pubkey)
    (opts : TradeOpts) : Result (List Leg × UInt64) := do
  bailIf (payMint ≠ pool.quoteMint) "PumpSwap pay mint must be pool quote"
  match opts.fixedOutput with
  | some amountOut =>
    let leg ← pumpswapBuyExactOutLeg client.payer pool amountOut spend
    pure ([leg], amountOut)
  | none =>
    let minOut ← opts.quotedMinOut (pumpswapBuyBaseOut pool spend)
    let leg ← pumpswapBuyLeg client.payer pool spend minOut
    pure ([leg], minOut)

/-- A PumpSwap sale. -/
def sellPumpswapToQuote (sellAmt : UInt64) (pool : PumpSwapPool) (outMint : Pubkey)
    (opts : TradeOpts) : Result (List Leg × UInt64 × Pubkey) := do
  bailIf (outMint ≠ pool.quoteMint) "PumpSwap receive mint must be pool quote"
  let minOut ← opts.minOutOr (pumpswapSellQuoteOut pool sellAmt)
  let outputAta := ata client.payer outMint pool.quoteTokenProgram
  let leg ← pumpswapSellLeg client.payer pool sellAmt minOut
  pure ([leg], minOut, outputAta)

omit [Upstream] in
/-- An AMM V4 buy, for a fixed output or a fixed input. -/
def buyRaydiumV4WithMint (spend : UInt64) (pool : RaydiumAmmV4Pool) (inputMint : Pubkey)
    (opts : TradeOpts) : Result (List Leg × UInt64) :=
  match opts.fixedOutput with
  | some amountOut => do
    let leg ← raydiumAmmV4SwapExactOutLeg client.payer pool amountOut spend inputMint
    pure ([leg], amountOut)
  | none => do
    let minOut ← opts.quotedMinOut
      (raydiumAmmV4Out pool spend (inputMint = pool.coinMint))
    let leg ← raydiumAmmV4SwapLeg client.payer pool spend minOut inputMint
    pure ([leg], minOut)

omit [Pda] [Upstream] in
/-- The mint that is swapped into the other. -/
def raydiumV4Input (pool : RaydiumAmmV4Pool) (outputMint : Pubkey) : Result Pubkey :=
  if outputMint = pool.coinMint then .ok pool.pcMint
  else if outputMint = pool.pcMint then .ok pool.coinMint
  else bail "Raydium AMM V4 output mint does not match pool"

omit [Upstream] in
/-- A sale is the swap of the other mint, with or without a fixed output. -/
def sellRaydiumV4ToMint (sellAmt : UInt64) (pool : RaydiumAmmV4Pool) (outputMint : Pubkey)
    (opts : TradeOpts) : Result (List Leg × UInt64 × Pubkey) := do
  let inputMint ← raydiumV4Input pool outputMint
  let (legs, minimum) ← client.buyRaydiumV4WithMint sellAmt pool inputMint opts
  pure (legs, minimum, ata client.payer outputMint tokenProgram)

omit [Upstream] in
/-- The pool's own mode is replaced: the option alone decides which amount is
exact. -/
def buyMeteoraV2WithMint (spend : UInt64) (pool : MeteoraDammV2Pool) (inputMint : Pubkey)
    (opts : TradeOpts) : Result (List Leg × UInt64) :=
  match opts.fixedOutput with
  | some amountOut => do
    -- amount_0 = output in exact-out mode, amount_1 = maximum input
    let leg ← meteoraDammV2SwapLeg client.payer (pool.withMode meteoraDammV2ExactOut)
      amountOut spend inputMint
    pure ([leg], amountOut)
  | none => do
    let minOut ← opts.minOutOr (meteoraDammV2Out pool spend (inputMint = pool.tokenAMint))
    let leg ← meteoraDammV2SwapLeg client.payer (pool.withMode meteoraDammV2ExactIn) spend
      minOut inputMint
    pure ([leg], minOut)

omit [Upstream] in
/-- A DAMM V2 sale: the swap of the other mint. -/
def sellMeteoraV2ToMint (sellAmt : UInt64) (pool : MeteoraDammV2Pool) (outputMint : Pubkey)
    (opts : TradeOpts) : Result (List Leg × UInt64 × Pubkey) := do
  let (inputMint, outputProgram) ← pairInputAndOutputProgram outputMint pool.tokenAMint
    pool.tokenBMint pool.tokenAProgram pool.tokenBProgram "Meteora DAMM V2"
  let (legs, minimum) ← client.buyMeteoraV2WithMint sellAmt pool inputMint opts
  pure (legs, minimum, ata client.payer outputMint outputProgram)

omit [Pda] [Upstream] in
/-- A swap on a concentrated pool, whose snapshot carries the quote. -/
def buyConcentrated (quotedInputMint : Option Pubkey) (expectedOut quotedAmountIn : Option UInt64)
    (dex : String) (swapLeg : UInt64 → Result Leg) (amount : UInt64) (input : Pubkey)
    (opts : TradeOpts) : Result (List Leg × UInt64) := do
  assertQuoteDirection quotedInputMint input opts.minOut
  let min ← concentratedMinOut expectedOut quotedAmountIn amount opts.minOut opts.slippageBps
    dex
  let leg ← swapLeg min
  pure ([leg], min)

omit [Upstream] in
/-- A CLMM buy, at the snapshot's quote. -/
def buyRaydiumClmmWithMint (amount : UInt64) (pool : RaydiumClmmPool) (input : Pubkey)
    (opts : TradeOpts) : Result (List Leg × UInt64) :=
  buyConcentrated pool.quotedInputMint pool.expectedOut pool.quotedAmountIn "Raydium CLMM"
    (fun min => raydiumClmmSwapLeg client.payer pool amount min input) amount input opts

omit [Upstream] in
/-- A Whirlpool buy. -/
def buyWhirlpoolWithMint (amount : UInt64) (pool : WhirlpoolPool) (input : Pubkey)
    (opts : TradeOpts) : Result (List Leg × UInt64) :=
  buyConcentrated pool.quotedInputMint pool.expectedOut pool.quotedAmountIn "Orca Whirlpool"
    (fun min => whirlpoolSwapLeg client.payer pool amount min input) amount input opts

/-- A DLMM buy. -/
def buyMeteoraDlmmWithMint (amount : UInt64) (pool : MeteoraDlmmPool) (input : Pubkey)
    (opts : TradeOpts) : Result (List Leg × UInt64) :=
  buyConcentrated pool.quotedInputMint pool.expectedOut pool.quotedAmountIn "Meteora DLMM"
    (fun min => meteoraDlmmSwapLeg client.payer pool amount min input) amount input opts

omit [Upstream] in
/-- A CLMM sale: the swap of the other mint. -/
def sellRaydiumClmmToMint (amount : UInt64) (pool : RaydiumClmmPool) (output : Pubkey)
    (opts : TradeOpts) : Result (List Leg × UInt64 × Pubkey) := do
  let (input, outputProgram) ← pairInputAndOutputProgram output pool.token0Mint
    pool.token1Mint pool.token0Program pool.token1Program "Raydium CLMM"
  let (legs, min) ← client.buyRaydiumClmmWithMint amount pool input opts
  pure (legs, min, ata client.payer output outputProgram)

omit [Upstream] in
/-- A Whirlpool sale. -/
def sellWhirlpoolToMint (amount : UInt64) (pool : WhirlpoolPool) (output : Pubkey)
    (opts : TradeOpts) : Result (List Leg × UInt64 × Pubkey) := do
  let (input, outputProgram) ← pairInputAndOutputProgram output pool.mintA pool.mintB
    pool.tokenProgramA pool.tokenProgramB "Orca Whirlpool"
  let (legs, min) ← client.buyWhirlpoolWithMint amount pool input opts
  pure (legs, min, ata client.payer output outputProgram)

/-- A DLMM sale. -/
def sellMeteoraDlmmToMint (amount : UInt64) (pool : MeteoraDlmmPool) (output : Pubkey)
    (opts : TradeOpts) : Result (List Leg × UInt64 × Pubkey) := do
  let (input, outputProgram) ← pairInputAndOutputProgram output pool.tokenXMint
    pool.tokenYMint pool.tokenXProgram pool.tokenYProgram "Meteora DLMM"
  let (legs, min) ← client.buyMeteoraDlmmWithMint amount pool input opts
  pure (legs, min, ata client.payer output outputProgram)

omit [Upstream] in
/-- A CPMM swap, with a fixed output if the options ask for one. -/
def swapCpmm (amount : UInt64) (pool : CpmmPool) (inputMint outputMint : Pubkey)
    (opts : TradeOpts) : Result (List Leg × UInt64 × Pubkey) :=
  let userIn := ata client.payer inputMint (tokenProgramFor pool inputMint)
  let userOut := ata client.payer outputMint (tokenProgramFor pool outputMint)
  match opts.fixedOutput with
  | some amountOut => do
    let leg ← cpmmSwapExactOutLeg client.payer pool amount amountOut inputMint outputMint
      userIn userOut
    pure ([leg], amountOut, userOut)
  | none => do
    let minOut ← opts.quotedMinOut (cpmmOut pool amount (inputMint = pool.baseMint))
    let leg ← cpmmSwapLeg client.payer pool amount minOut inputMint outputMint userIn userOut
    pure ([leg], minOut, userOut)

omit [Upstream] in
/-- A CPMM buy, out of the payer's account for the input. -/
def buyCpmmWithMint (spend : UInt64) (pool : CpmmPool) (inputMint outputMint : Pubkey)
    (opts : TradeOpts) (s : TradeSetup) : Result BuyLegs := do
  let outputTp := tokenProgramFor pool outputMint
  -- Buy path: the output is the meme, which is touched already.
  let s :=
    if outputMint = wsolMint then
      s.touchWsol.pushCreateAta opts.ata .wsol client.payer outputMint outputTp
    else (s.touchMeme outputMint outputTp).pushCreateAta opts.ata .meme client.payer
      outputMint outputTp
  let (legs, minOut, _) ← client.swapCpmm spend pool inputMint outputMint opts
  pure ⟨legs, minOut, spend, s⟩

omit [Upstream] in
/-- A CPMM sale, into the payer's account for the output. -/
def sellCpmmToMint (sellAmt : UInt64) (pool : CpmmPool) (inputMint outputMint : Pubkey)
    (opts : TradeOpts) (s : TradeSetup) : Result SellLegs := do
  let s := s.useAta opts.ata client.payer outputMint (tokenProgramFor pool outputMint)
  let (legs, minOut, userOut) ← client.swapCpmm sellAmt pool inputMint outputMint opts
  pure ⟨legs, minOut, userOut, s⟩

/-! ## Two swaps -/

omit [Pda] [Upstream] in
/-- Near graduation LaunchLab clamps amount_in < provisional – shrink hop1 so
stock_ata is not left with residual quote. -/
def shrinkToCurve (spend : UInt64) (pool : LaunchLabPool) (bridge : BridgePool)
    (provisionalStock : UInt64) (q0 : LaunchLabBuyQuote) :
    Result (UInt64 × LaunchLabBuyQuote) :=
  if q0.amountIn < provisionalStock then do
    let wsol ← bridgeInForOut bridge q0.amountIn wsolMint
    let stockOut ← bridgeQuoteOut bridge wsol wsolMint
    let q ← launchlabBuyQuote pool (min stockOut q0.amountIn) 0
    pure (wsol, q)
  else .ok (spend, q0)

omit [Upstream] in
/-- **SOL → stock → LaunchLab.** The first hop is shrunk to what the second
can spend. -/
def buyViaBridgeLaunchlab (spend : UInt64) (pool : LaunchLabPool) (bridge : BridgePool)
    (opts : TradeOpts) (s : TradeSetup) : Result BuyLegs := do
  let stock := pool.quoteMint
  let stockTp := pool.quoteTokenProgram
  let stockAta := ata client.payer stock stockTp
  let wsolAta := ata client.payer wsolMint tokenProgram
  let memeAta := ata client.payer pool.baseMint pool.baseTokenProgram
  let s := s.useAta opts.ata client.payer stock stockTp
  bailIf (bridge.otherMint wsolMint ≠ some stock)
    "bridge does not connect WSOL to LaunchLab quote"
  let provisionalStock ← bridgeQuoteOut bridge spend wsolMint
  let q0 ← launchlabBuyQuote pool provisionalStock 0
  let (wsolSpent, q) ← shrinkToCurve spend pool bridge provisionalStock q0
  let hop1Min := bridgeIntermediateMinOut q.amountIn
  let leg1 ← bridgeSwapLeg client.payer bridge wsolSpent hop1Min wsolMint stock wsolAta
    stockAta
  let hop2In := min hop1Min q.amountIn
  let q2 ← launchlabBuyQuote pool hop2In 0
  let minMeme := opts.floor q2.amountOut
  let leg2 := launchlabBuyLeg client.payer pool hop2In minMeme memeAta stockAta
  pure ⟨[leg1, leg2], minMeme, wsolSpent, s⟩

/-- The second hop of a bridged buy, for the proceeds of the first. -/
def bridgedBuyLeg (market : Market) (quote : Pubkey) (hop1Min : UInt64) (opts : TradeOpts) :
    Result (Leg × UInt64) :=
  match market with
  | .pumpFunInner pool =>
    if pool.usesV2 then do
      bailIf (pool.quoteMint ≠ quote) "PumpFun V2 bridge quote mismatch"
      let min ← opts.minOutOr (pumpfunBuyTokenOut pool hop1Min)
      pure (pumpfunBuyV2Leg client.payer pool hop1Min min, min)
    else bail "unsupported mainstream bridge market"
  | .pumpSwapOuter pool => do
    let min ← opts.quotedMinOut (pumpswapBuyBaseOut pool hop1Min)
    let leg ← pumpswapBuyLeg client.payer pool hop1Min min
    pure (leg, min)
  | .raydiumAmmV4 pool => do
    let min ← opts.quotedMinOut (raydiumAmmV4Out pool hop1Min (quote = pool.coinMint))
    let leg ← raydiumAmmV4SwapLeg client.payer pool hop1Min min quote
    pure (leg, min)
  | .meteoraDammV2 pool => do
    let min ← opts.minOutOr (meteoraDammV2Out pool hop1Min (quote = pool.tokenAMint))
    let leg ← meteoraDammV2SwapLeg client.payer (pool.withMode meteoraDammV2ExactIn) hop1Min
      min quote
    pure (leg, min)
  -- Bridged CL hop2 input size ≠ streamer single-hop size → require explicit min_out.
  | .raydiumClmm pool => do
    let min ← bridgedConcentratedMinOut opts.minOut "Raydium CLMM"
    let leg ← raydiumClmmSwapLeg client.payer pool hop1Min min quote
    pure (leg, min)
  | .whirlpool pool => do
    let min ← bridgedConcentratedMinOut opts.minOut "Orca Whirlpool"
    let leg ← whirlpoolSwapLeg client.payer pool hop1Min min quote
    pure (leg, min)
  | .meteoraDlmm pool => do
    let min ← bridgedConcentratedMinOut opts.minOut "Meteora DLMM"
    let leg ← meteoraDlmmSwapLeg client.payer pool hop1Min min quote
    pure (leg, min)
  | .launchLabInner _ | .cpmmOuter _ => bail "unsupported mainstream bridge market"

/-- **SOL over a bridge to a market**: the second leg spends what the first is
quoted to bring. -/
def buyViaBridgeMainstream (spend : UInt64) (market : Market) (bridge : BridgePool)
    (opts : TradeOpts) (s : TradeSetup) : Result BuyLegs := do
  let quote := market.quoteMint
  let quoteTp := market.quoteTokenProgram
  let quoteAta := ata client.payer quote quoteTp
  let wsolAta := ata client.payer wsolMint tokenProgram
  let s := (s.touchQuote quote quoteTp).pushCreateAta opts.ata .quote client.payer quote quoteTp
  bailIf (bridge.otherMint wsolMint ≠ some quote)
    "bridge does not connect WSOL to market quote"
  let quoteOut ← bridgeQuoteOut bridge spend wsolMint
  -- Intermediate hop pins quoted stock/quote out; slippage applies only on
  -- final hop.
  let hop1Min := bridgeIntermediateMinOut quoteOut
  let leg1 ← bridgeSwapLeg client.payer bridge spend hop1Min wsolMint quote wsolAta quoteAta
  let (leg2, minOut) ← client.bridgedBuyLeg market quote hop1Min opts
  pure ⟨[leg1, leg2], minOut, spend, s⟩

omit [Upstream] in
/-- **SOL over a bridge to a CPMM pool.** -/
def buyViaBridgeCpmm (spend : UInt64) (pool : CpmmPool) (bridge : BridgePool)
    (opts : TradeOpts) (s : TradeSetup) : Result BuyLegs := do
  let stock ← resolveSharedMint pool bridge
  let meme := otherMint pool stock
  let stockTp := tokenProgramFor pool stock
  let memeTp := tokenProgramFor pool meme
  let stockAta := ata client.payer stock stockTp
  let memeAta := ata client.payer meme memeTp
  let wsolAta := ata client.payer wsolMint tokenProgram
  let s := s.useAta opts.ata client.payer stock stockTp
  -- Meme create is handled in buyWithOpts.
  let s := s.touchMeme meme memeTp
  bailIf (bridge.otherMint wsolMint ≠ some stock)
    "bridge does not connect WSOL to shared stock mint"
  let stockOut ← bridgeQuoteOut bridge spend wsolMint
  let hop1Min := bridgeIntermediateMinOut stockOut
  let leg1 ← bridgeSwapLeg client.payer bridge spend hop1Min wsolMint stock wsolAta stockAta
  let minMeme ← opts.quotedMinOut (cpmmOut pool hop1Min (stock = pool.baseMint))
  let leg2 ← cpmmSwapLeg client.payer pool hop1Min minMeme stock meme stockAta memeAta
  pure ⟨[leg1, leg2], minMeme, spend, s⟩

omit [Upstream] in
/-- The second hop of a bridged sale, from the intermediate mint to WSOL. -/
def bridgeToSol (bridge : BridgePool) (hop1Min : UInt64) (stock stockAta : Pubkey)
    (opts : TradeOpts) : Result (Leg × UInt64) := do
  let minSol ← opts.quotedMinOut (bridgeQuoteOut bridge hop1Min stock)
  let leg2 ← bridgeSwapLeg client.payer bridge hop1Min minSol stock wsolMint stockAta
    (ata client.payer wsolMint tokenProgram)
  pure (leg2, minSol)

omit [Upstream] in
/-- **A LaunchLab sale over a bridge back to SOL.** -/
def sellViaBridgeLaunchlab (sellAmt : UInt64) (pool : LaunchLabPool) (bridge : BridgePool)
    (opts : TradeOpts) (s : TradeSetup) : Result SellLegs := do
  let stock := pool.quoteMint
  let stockAta := ata client.payer stock pool.quoteTokenProgram
  let memeAta := ata client.payer pool.baseMint pool.baseTokenProgram
  let wsolAta := ata client.payer wsolMint tokenProgram
  let s := s.useAta opts.ata client.payer stock pool.quoteTokenProgram
  bailIf (bridge.otherMint stock ≠ some wsolMint)
    "bridge does not connect LaunchLab quote to WSOL"
  let stockOut ← launchlabSellQuoteOut pool sellAmt
  let hop1Min := bridgeIntermediateMinOut stockOut
  let leg1 := launchlabSellLeg client.payer pool sellAmt hop1Min memeAta stockAta
  let (leg2, minSol) ← client.bridgeToSol bridge hop1Min stock stockAta opts
  pure ⟨[leg1, leg2], minSol, wsolAta, s⟩

omit [Pda] [Upstream] in
/-- The first hop of a bridged sale on a concentrated pool. Intermediate CL
hop pins the expected output (no slippage), whatever minimum the options
give for the last hop. -/
def bridgedConcentratedSellLeg (quotedInputMint : Option Pubkey)
    (expectedOut quotedAmountIn : Option UInt64) (dex : String)
    (swapLeg : UInt64 → Result Leg) (sellAmt : UInt64) (input : Pubkey) :
    Result (Leg × UInt64) := do
  assertQuoteDirection quotedInputMint input none
  let quoteEst ← concentratedMinOut expectedOut quotedAmountIn sellAmt none 0 dex
  let leg ← swapLeg quoteEst
  pure (leg, quoteEst)

/-- The first hop of a bridged sale, with its quote as its minimum. -/
def bridgedSellLeg (market : Market) (quote : Pubkey) (sellAmt : UInt64) :
    Result (Leg × UInt64) :=
  let input := market.baseMint
  match market with
  | .pumpFunInner pool =>
    if pool.usesV2 then do
      bailIf (pool.quoteMint ≠ quote) "PumpFun V2 bridge quote mismatch"
      let expected ← pumpfunSellSolOut pool sellAmt
      let hop1Min := bridgeIntermediateMinOut expected
      pure (pumpfunSellV2Leg client.payer pool sellAmt hop1Min, hop1Min)
    else bail "unsupported mainstream bridge market"
  | .pumpSwapOuter pool => do
    let expected ← pumpswapSellQuoteOut pool sellAmt
    let hop1Min := bridgeIntermediateMinOut expected
    let leg ← pumpswapSellLeg client.payer pool sellAmt hop1Min
    pure (leg, hop1Min)
  | .raydiumAmmV4 pool => do
    let expected ← raydiumAmmV4Out pool sellAmt (input = pool.coinMint)
    let hop1Min := bridgeIntermediateMinOut expected
    let leg ← raydiumAmmV4SwapLeg client.payer pool sellAmt hop1Min input
    pure (leg, hop1Min)
  | .meteoraDammV2 pool => do
    let expected ← meteoraDammV2Out pool sellAmt (input = pool.tokenAMint)
    let hop1Min := bridgeIntermediateMinOut expected
    let leg ← meteoraDammV2SwapLeg client.payer (pool.withMode meteoraDammV2ExactIn) sellAmt
      hop1Min input
    pure (leg, hop1Min)
  | .raydiumClmm pool =>
    bridgedConcentratedSellLeg pool.quotedInputMint pool.expectedOut pool.quotedAmountIn
      "Raydium CLMM" (fun min => raydiumClmmSwapLeg client.payer pool sellAmt min input)
      sellAmt input
  | .whirlpool pool =>
    bridgedConcentratedSellLeg pool.quotedInputMint pool.expectedOut pool.quotedAmountIn
      "Orca Whirlpool" (fun min => whirlpoolSwapLeg client.payer pool sellAmt min input)
      sellAmt input
  | .meteoraDlmm pool =>
    bridgedConcentratedSellLeg pool.quotedInputMint pool.expectedOut pool.quotedAmountIn
      "Meteora DLMM" (fun min => meteoraDlmmSwapLeg client.payer pool sellAmt min input)
      sellAmt input
  | .launchLabInner _ | .cpmmOuter _ => bail "unsupported mainstream bridge market"

/-- **A sale over a bridge back to SOL.** -/
def sellViaBridgeMainstream (sellAmt : UInt64) (market : Market) (bridge : BridgePool)
    (opts : TradeOpts) (s : TradeSetup) : Result SellLegs := do
  let quote := market.quoteMint
  let quoteTp := market.quoteTokenProgram
  let quoteAta := ata client.payer quote quoteTp
  let wsolAta := ata client.payer wsolMint tokenProgram
  let s := (s.touchQuote quote quoteTp).pushCreateAta opts.ata .quote client.payer quote quoteTp
  bailIf (bridge.otherMint wsolMint ≠ some quote)
    "bridge does not connect market quote to WSOL"
  let (leg1, quoteOut) ← client.bridgedSellLeg market quote sellAmt
  let (leg2, minSol) ← client.bridgeToSol bridge quoteOut quote quoteAta opts
  pure ⟨[leg1, leg2], minSol, wsolAta, s⟩

omit [Upstream] in
/-- **A CPMM sale over a bridge back to SOL.** -/
def sellViaBridgeCpmm (sellAmt : UInt64) (pool : CpmmPool) (bridge : BridgePool)
    (opts : TradeOpts) (s : TradeSetup) : Result SellLegs := do
  let stock ← resolveSharedMint pool bridge
  let meme := otherMint pool stock
  let stockTp := tokenProgramFor pool stock
  let memeTp := tokenProgramFor pool meme
  let stockAta := ata client.payer stock stockTp
  let memeAta := ata client.payer meme memeTp
  let wsolAta := ata client.payer wsolMint tokenProgram
  let s := s.useAta opts.ata client.payer stock stockTp
  bailIf (bridge.otherMint stock ≠ some wsolMint)
    "bridge does not connect shared stock mint to WSOL"
  let stockOut ← cpmmOut pool sellAmt (meme = pool.baseMint)
  let hop1Min := bridgeIntermediateMinOut stockOut
  let leg1 ← cpmmSwapLeg client.payer pool sellAmt hop1Min meme stock memeAta stockAta
  let (leg2, minSol) ← client.bridgeToSol bridge hop1Min stock stockAta opts
  pure ⟨[leg1, leg2], minSol, wsolAta, s⟩

/-! ## Choosing the path -/

/-- A PumpFun buy pays lamports, the user's WSOL or the curve's quote, or
goes through a bridge to the quote. -/
def buyPumpfun (spend : UInt64) (pool : PumpFunPool) (market : RoutedMarket)
    (opts : TradeOpts) (memeAta : Pubkey) (s : TradeSetup) : Result BuyLegs :=
  match opts.buyWith with
  | .sol =>
    if pool.isNativeSolQuote then do
      -- Native SOL always uses the V1 layout.
      let s := preparePumpfunNativeAccounts client.programId client.payer pool true s
      let minOut ← opts.minOutOr (pumpfunBuyTokenOut pool spend)
      pure ⟨[pumpfunBuyLeg client.payer pool spend minOut memeAta], minOut, spend, s⟩
    else if pool.usesV2 && !pool.isNativeSolQuote then bridged
    else unsupported
  | .wsol =>
    if pool.usesWsolAtaSettlement then v2
    else if pool.usesV2 && !pool.isNativeSolQuote then bridged
    else unsupported
  | .token payMint =>
    if pool.usesV2 then do
      bailIf (payMint ≠ pool.quoteMint) "PumpFun V2 pay mint must be pool quote"
      bailIf pool.isNativeSolQuote
        "PumpFun WSOL-quote: use BuyWith::Sol (native) or BuyWith::Wsol (use_v2)"
      v2
    else unsupported
where
  v2 : Result BuyLegs := do
    let minOut ← opts.minOutOr (pumpfunBuyTokenOut pool spend)
    pure ⟨[pumpfunBuyV2Leg client.payer pool spend minOut], minOut, spend, s⟩
  bridged : Result BuyLegs := do
    let bridge ← okOr market.bridge "PumpFun V2 non-WSOL quote needs SOL↔quote bridge"
    client.buyViaBridgeMainstream spend market.market bridge opts s
  unsupported : Result BuyLegs := bail "unsupported buy path for this buy_with / market"

/-- A PumpFun sale brings lamports, WSOL in the user's account or the curve's
quote, or goes through a bridge from the quote. -/
def sellPumpfun (sellAmt : UInt64) (pool : PumpFunPool) (market : RoutedMarket)
    (opts : TradeOpts) (memeAta : Pubkey) (s : TradeSetup) : Result SellLegs :=
  match opts.sellTo with
  | .sol =>
    if pool.isNativeSolQuote then do
      -- Native SOL always uses the V1 layout.
      let s := preparePumpfunNativeAccounts client.programId client.payer pool
        pool.isCashbackCoin s
      let minOut ← opts.minOutOr (pumpfunSellSolOut pool sellAmt)
      -- The account is unused: sellWithOpts takes the payer for native SOL.
      pure ⟨[pumpfunSellLeg client.payer pool sellAmt minOut memeAta], minOut, memeAta, s⟩
    else if pool.usesV2 && !pool.isNativeSolQuote then bridged
    else unsupported
  | .wsol =>
    if pool.usesWsolAtaSettlement then v2 (ata client.payer wsolMint tokenProgram)
    else if pool.usesV2 && !pool.isNativeSolQuote then bridged
    else unsupported
  | .token outMint =>
    if pool.usesV2 then do
      bailIf pool.isNativeSolQuote
        "PumpFun WSOL-quote: use SellTo::Sol (native) or SellTo::Wsol (use_v2)"
      bailIf (outMint ≠ pool.quoteMint) "PumpFun V2 receive mint must be pool quote"
      v2 (ata client.payer outMint pool.quoteTokenProgram)
    else unsupported
where
  v2 (outputAta : Pubkey) : Result SellLegs := do
    let minOut ← opts.minOutOr (pumpfunSellSolOut pool sellAmt)
    pure ⟨[pumpfunSellV2Leg client.payer pool sellAmt minOut], minOut, outputAta, s⟩
  bridged : Result SellLegs := do
    let bridge ← okOr market.bridge "PumpFun V2 non-WSOL quote needs quote↔SOL bridge"
    client.sellViaBridgeMainstream sellAmt market.market bridge opts s
  unsupported : Result SellLegs := bail "unsupported sell path for this sell_to / market"

/-- The three ways to buy on a pool of two mints: pay its quote, pay WSOL on
its WSOL side, or go through a bridge. -/
def buyPair (tokenProgramOf : Pubkey → Pubkey)
    (swap : Pubkey → Result (List Leg × UInt64)) (spend : UInt64) (market : RoutedMarket)
    (opts : TradeOpts) (s : TradeSetup) : Result BuyLegs :=
  match opts.buyWith with
  | .token payMint => do
    let s := s.useAta opts.ata client.payer payMint (tokenProgramOf payMint)
    let (legs, min) ← swap payMint
    pure ⟨legs, min, spend, s⟩
  | .sol | .wsol =>
    if !market.market.needsSolBridge then do
      let (legs, min) ← swap wsolMint
      pure ⟨legs, min, spend, s⟩
    else do
      let bridge ← okOr market.bridge "missing SOL↔quote bridge"
      client.buyViaBridgeMainstream spend market.market bridge opts s

/-- The three ways to sell on a pool of two mints. -/
def sellPair (tokenProgramOf : Pubkey → Pubkey)
    (swap : Pubkey → Result (List Leg × UInt64 × Pubkey)) (sellAmt : UInt64)
    (market : RoutedMarket) (opts : TradeOpts) (s : TradeSetup) : Result SellLegs :=
  match opts.sellTo with
  | .token outMint => do
    let s := s.useAta opts.ata client.payer outMint (tokenProgramOf outMint)
    let (legs, min, outputAta) ← swap outMint
    pure ⟨legs, min, outputAta, s⟩
  | .sol | .wsol =>
    if !market.market.needsSolBridge then do
      let (legs, min, outputAta) ← swap wsolMint
      pure ⟨legs, min, outputAta, s⟩
    else do
      let bridge ← okOr market.bridge "missing SOL↔quote bridge"
      client.sellViaBridgeMainstream sellAmt market.market bridge opts s

omit [Upstream] in
/-- A LaunchLab buy pays the curve's quote, WSOL on a curve quoted in SOL, or
goes through a bridge to the quote. -/
def buyLaunchlabMarket (spend : UInt64) (pool : LaunchLabPool) (market : RoutedMarket)
    (opts : TradeOpts) (memeAta : Pubkey) (s : TradeSetup) : Result BuyLegs :=
  match opts.buyWith with
  | .token payMint => client.buyLaunchlabWithQuote spend pool payMint opts memeAta s
  | .sol | .wsol =>
    if pool.isSolQuote then
      client.buyLaunchlab spend pool opts memeAta
        (ata client.payer wsolMint pool.quoteTokenProgram) s
    else do
      let bridge ← okOr market.bridge "missing SOL↔stock bridge"
      client.buyViaBridgeLaunchlab spend pool bridge opts s

omit [Upstream] in
/-- A LaunchLab sale, to the curve's quote or to SOL. -/
def sellLaunchlabMarket (sellAmt : UInt64) (pool : LaunchLabPool) (market : RoutedMarket)
    (opts : TradeOpts) (memeAta : Pubkey) (s : TradeSetup) : Result SellLegs :=
  match opts.sellTo with
  | .token outMint => client.sellLaunchlabToQuote sellAmt pool outMint opts memeAta s
  | .sol | .wsol =>
    if pool.isSolQuote then
      client.sellLaunchlab sellAmt pool opts memeAta
        (ata client.payer wsolMint pool.quoteTokenProgram) s
    else do
      let bridge ← okOr market.bridge "missing SOL↔stock bridge"
      client.sellViaBridgeLaunchlab sellAmt pool bridge opts s

omit [Upstream] in
/-- A CPMM buy pays the other mint, WSOL on a pool with a WSOL side, or goes
through a bridge to the mint it shares with the pool. -/
def buyCpmmMarket (spend : UInt64) (pool : CpmmPool) (market : RoutedMarket)
    (opts : TradeOpts) (s : TradeSetup) : Result BuyLegs :=
  match opts.buyWith with
  | .token payMint => client.buyCpmmWithMint spend pool payMint market.memeMint opts s
  | .sol | .wsol =>
    if !market.market.needsSolBridge then
      client.buyCpmmWithMint spend pool wsolMint pool.memeMint opts s
    else do
      let bridge ← okOr market.bridge "missing SOL↔stock bridge"
      client.buyViaBridgeCpmm spend pool bridge opts s

omit [Upstream] in
/-- A CPMM sale, to a mint of the pool or to SOL. -/
def sellCpmmMarket (sellAmt : UInt64) (pool : CpmmPool) (market : RoutedMarket)
    (opts : TradeOpts) (s : TradeSetup) : Result SellLegs :=
  match opts.sellTo with
  | .token outMint => client.sellCpmmToMint sellAmt pool market.memeMint outMint opts s
  | .sol | .wsol =>
    if !market.market.needsSolBridge then
      client.sellCpmmToMint sellAmt pool pool.memeMint wsolMint opts s
    else do
      let bridge ← okOr market.bridge "missing SOL↔stock bridge"
      client.sellViaBridgeCpmm sellAmt pool bridge opts s

/-- **The legs of a buy.** -/
def buildBuyLegs (spend : UInt64) (market : RoutedMarket) (opts : TradeOpts)
    (s : TradeSetup) : Result BuyLegs :=
  let memeAta := ata client.payer market.memeMint market.memeTokenProgram
  match market.market with
  | .pumpFunInner pool => client.buyPumpfun spend pool market opts memeAta s
  | .launchLabInner pool => client.buyLaunchlabMarket spend pool market opts memeAta s
  | .cpmmOuter pool => client.buyCpmmMarket spend pool market opts s
  | .pumpSwapOuter pool =>
    client.buyPair (fun _ => pool.quoteTokenProgram)
      (fun mint => client.buyPumpswapWithQuote spend pool mint opts) spend market opts s
  | .raydiumAmmV4 pool =>
    client.buyPair (fun _ => tokenProgram)
      (fun mint => client.buyRaydiumV4WithMint spend pool mint opts) spend market opts s
  | .meteoraDammV2 pool =>
    client.buyPair
      (fun mint => if mint = pool.tokenAMint then pool.tokenAProgram else pool.tokenBProgram)
      (fun mint => client.buyMeteoraV2WithMint spend pool mint opts) spend market opts s
  | .raydiumClmm pool =>
    client.buyPair
      (fun mint => if mint = pool.token0Mint then pool.token0Program else pool.token1Program)
      (fun mint => client.buyRaydiumClmmWithMint spend pool mint opts) spend market opts s
  | .whirlpool pool =>
    client.buyPair
      (fun mint => if mint = pool.mintA then pool.tokenProgramA else pool.tokenProgramB)
      (fun mint => client.buyWhirlpoolWithMint spend pool mint opts) spend market opts s
  | .meteoraDlmm pool =>
    client.buyPair
      (fun mint => if mint = pool.tokenXMint then pool.tokenXProgram else pool.tokenYProgram)
      (fun mint => client.buyMeteoraDlmmWithMint spend pool mint opts) spend market opts s

/-- **The legs of a sale.** -/
def buildSellLegs (sellAmt : UInt64) (market : RoutedMarket) (opts : TradeOpts)
    (s : TradeSetup) : Result SellLegs :=
  let memeAta := ata client.payer market.memeMint market.memeTokenProgram
  match market.market with
  | .pumpFunInner pool => client.sellPumpfun sellAmt pool market opts memeAta s
  | .launchLabInner pool => client.sellLaunchlabMarket sellAmt pool market opts memeAta s
  | .cpmmOuter pool => client.sellCpmmMarket sellAmt pool market opts s
  | .pumpSwapOuter pool =>
    client.sellPair (fun _ => pool.quoteTokenProgram)
      (fun mint => client.sellPumpswapToQuote sellAmt pool mint opts) sellAmt market opts s
  | .raydiumAmmV4 pool =>
    client.sellPair (fun _ => tokenProgram)
      (fun mint => client.sellRaydiumV4ToMint sellAmt pool mint opts) sellAmt market opts s
  | .meteoraDammV2 pool =>
    client.sellPair
      (fun mint => if mint = pool.tokenAMint then pool.tokenAProgram else pool.tokenBProgram)
      (fun mint => client.sellMeteoraV2ToMint sellAmt pool mint opts) sellAmt market opts s
  | .raydiumClmm pool =>
    client.sellPair
      (fun mint => if mint = pool.token0Mint then pool.token0Program else pool.token1Program)
      (fun mint => client.sellRaydiumClmmToMint sellAmt pool mint opts) sellAmt market opts s
  | .whirlpool pool =>
    client.sellPair
      (fun mint => if mint = pool.mintA then pool.tokenProgramA else pool.tokenProgramB)
      (fun mint => client.sellWhirlpoolToMint sellAmt pool mint opts) sellAmt market opts s
  | .meteoraDlmm pool =>
    client.sellPair
      (fun mint => if mint = pool.tokenXMint then pool.tokenXProgram else pool.tokenYProgram)
      (fun mint => client.sellMeteoraDlmmToMint sellAmt pool mint opts) sellAmt market opts s

end RouterClient

end Sdk
