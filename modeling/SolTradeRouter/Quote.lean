import SolTradeRouter.Machine
import SolTradeRouter.Market
import SolTradeRouter.RouteIx
import SolTradeRouter.Search

/-!
# Quotes

What a swap is expected to bring, computed from a pool's snapshot. The
constant-product exchanges are quoted from their reserves and fee rates; the
others carry a quote made elsewhere, which is used only for the very amount
it was made for.

Amounts are 64-bit and intermediate results are 128-bit. Where the source
uses an unchecked operator the operands keep it in range, and it is the
operator of the natural numbers here; where it checks, saturates or narrows,
so do the definitions. No divisor is zero: each is a positive constant, or a
sum that a check in front of it makes positive.
-/

namespace Sdk

open Outcome

/-! ## Token-2022 transfer fees -/

namespace TokenTransferFee

/-- No transfer fee. -/
protected def none : TokenTransferFee := ⟨0, 0⟩

/-- The fee on an amount, at most the maximum. -/
def calculate (fee : TokenTransferFee) (amount : UInt64) : UInt64 :=
  if fee.basisPoints = 0 ∨ amount = 0 ∨ fee.maximumFee = 0 then 0
  else
    let numerator := U128.satMul amount.toNat fee.basisPoints.toNat
    UInt64.ofNat (min (numerator ⌈/⌉ 10000) fee.maximumFee.toNat)

/-- Fee that must be added so the recipient receives `postFeeAmount`. -/
def calculateInverse (fee : TokenTransferFee) (postFeeAmount : UInt64) : UInt64 :=
  if fee.basisPoints = 0 ∨ postFeeAmount = 0 ∨ fee.maximumFee = 0 then 0
  else if fee.basisPoints ≥ 10000 then fee.maximumFee
  else
    let numerator := U128.satMul postFeeAmount.toNat fee.basisPoints.toNat
    UInt64.ofNat (min (numerator ⌈/⌉ (10000 - fee.basisPoints.toNat)) fee.maximumFee.toNat)

end TokenTransferFee

/-! ## Fees and slippage -/

/-- Max slippage 99.99%. Positive quotes retain at least one raw output
unit. -/
def maxSlippageBps : UInt64 := 9999

/-- Rates are in millionths. -/
def feeDenom : ℕ := 1000000

/-- Match the router config's maximum fee (10%). -/
def validateRouterFeeBps (feeBps : UInt16) : Result Unit :=
  bailIf (feeBps > 1000) "router fee exceeds the on-chain maximum of 1_000 bps"

/-- A tolerance stays below the whole amount. -/
def clampSlippageBps (slippageBps : UInt64) : UInt64 := min slippageBps maxSlippageBps

/-- **Apply the clamped tolerance in raw token units.** Positive quotes
retain one unit when flooring would otherwise remove the entire output
requirement. -/
def applySlippageMinOut (amount slippageBps : UInt64) : UInt64 :=
  let slip := (clampSlippageBps slippageBps).toNat
  let out := UInt64.ofNat (U64.sat (U128.satMul amount.toNat (10000 - slip) / 10000))
  if amount = 0 then 0 else max out 1

/-- The router's own fee, rounded down. -/
def feeAmount (amount : UInt64) (feeBps : UInt16) : UInt64 :=
  UInt64.ofNat (U64.sat (U128.satMul amount.toNat feeBps.toNat / 10000))

/-- Ceiling fee: `ceil(amount * rate / 1e6)`. -/
def feeCeil (amount rate : ℕ) : ℕ := U128.satMul amount rate ⌈/⌉ feeDenom

/-- PumpFun-style fee with split ceil. -/
def computeFeeBps (amount feeBasisPoints : ℕ) : ℕ :=
  match U128.checkedMul (amount / 10000) feeBasisPoints,
      U128.checkedMul (amount % 10000) feeBasisPoints with
  | some whole, some rem =>
    let remCeil := if rem % 10000 = 0 then rem / 10000 else rem / 10000 + 1
    U128.satAdd whole remCeil
  | _, _ => U128.max

/-- CPMM's trade fee, rounded up. -/
def cpmmTradeFee (amount feeRate : UInt64) : UInt64 :=
  UInt64.ofNat ((U128.satMul amount.toNat feeRate.toNat + feeDenom - 1) / feeDenom)

/-! ## LaunchLab -/

/-- What a LaunchLab buy takes and brings. -/
structure LaunchLabBuyQuote where
  /-- May be lower than requested near graduation. -/
  amountIn : UInt64
  amountOut : UInt64
  deriving DecidableEq, Repr

/-- The curve's fees together, if they are known and at most everything. -/
def launchlabTotalFeeRate (pool : LaunchLabPool) (shareFeeRate : UInt64) : Result ℕ := do
  bailIf (pool.feeRatesKnown = false)
    "LaunchLab current Global/Platform/mint fee state is missing"
  let rate := U128.satAdd (U128.satAdd
    (U128.satAdd pool.tradeFeeRate.toNat pool.platformFeeRate.toNat)
    pool.creatorFeeRate.toNat) shareFeeRate.toNat
  bailIf (rate > feeDenom) "LaunchLab total fee rate exceeds 1_000_000"
  pure rate

/-- The least amount that leaves `post_fee` after the fee. -/
def preFeeAmount (postFee feeRate : ℕ) : Result ℕ := do
  let denom ← okOr ((U128.checkedSub feeDenom feeRate).filter (0 < ·))
    "LaunchLab fee rate must be below 1_000_000"
  pure (U128.satMul postFee feeDenom ⌈/⌉ denom)

/-- A buy on the curve, before it is clamped. -/
structure LaunchLabCurve where
  totalFeeRate : ℕ
  inputReserve : ℕ
  outputReserve : ℕ
  quotedOutput : ℕ
  deriving DecidableEq, Repr

/-- **The output of the curve** for an input net of the transfer fee and of
the curve's fees. -/
def launchlabCurve (pool : LaunchLabPool) (amountIn shareFeeRate : UInt64) :
    Result LaunchLabCurve := do
  bailIf (amountIn = 0) "quote_in is zero"
  bailIf (pool.curveType ≠ 0) s!"unsupported LaunchLab curve_type {pool.curveType}"
  let totalFeeRate ← launchlabTotalFeeRate pool shareFeeRate
  let quoteXfer := pool.quoteTransferFee.calculate amountIn
  let vaultInput ← okOr (U64.checkedSub amountIn quoteXfer)
    "LaunchLab quote transfer fee exceeds input"
  let fee := feeCeil vaultInput.toNat totalFeeRate
  let curveInput ← okOr (U128.checkedSub vaultInput.toNat fee) "LaunchLab fees exceed input"
  let inputReserve ← okOr (U128.checkedAdd pool.virtualQuote.toNat pool.realQuote.toNat)
    "LaunchLab quote reserve overflow"
  let outputReserve ← okOr (U128.checkedSub pool.virtualBase.toNat pool.realBase.toNat)
    "LaunchLab base reserve underflow"
  bailIf (inputReserve = 0 ∨ outputReserve = 0) "invalid launchlab reserves"
  let denominator ← okOr (U128.checkedAdd inputReserve curveInput)
    "LaunchLab buy denominator overflow"
  let quotedOutput ← okOr ((U128.checkedMul curveInput outputReserve).map (· / denominator))
    "Failed to quote LaunchLab buy"
  pure ⟨totalFeeRate, inputReserve, outputReserve, quotedOutput⟩

/-- The input that buys what remains, and what remains. -/
def launchlabGraduation (pool : LaunchLabPool) (amountIn : UInt64) (curve : LaunchLabCurve)
    (remaining : ℕ) : Result (UInt64 × ℕ) := do
  let outputAfter ← okOr ((U128.checkedSub curve.outputReserve remaining).filter (0 < ·))
    "LaunchLab graduation exhausts reserve"
  let requiredCurve ← okOr
    ((U128.checkedMul curve.inputReserve remaining).map (· ⌈/⌉ outputAfter))
    "LaunchLab graduation input overflow"
  let requiredVault ← preFeeAmount requiredCurve curve.totalFeeRate
  let requiredVault ← okOr (U64.tryOf requiredVault) "LaunchLab graduation input exceeds u64"
  let inverse := pool.quoteTransferFee.calculateInverse requiredVault
  let actual ← okOr (U64.checkedAdd requiredVault inverse)
    "LaunchLab transfer-fee input overflow"
  pure (min actual amountIn, remaining)

/-- The input and output of a buy, with the output clamped to what remains
for sale. -/
def launchlabClamp (pool : LaunchLabPool) (amountIn : UInt64) (curve : LaunchLabCurve) :
    Result (UInt64 × ℕ) :=
  if pool.totalBaseSell.toNat = 0 then .ok (amountIn, curve.quotedOutput)
  else do
    let remaining ← okOr (U128.checkedSub pool.totalBaseSell.toNat pool.realBase.toNat)
      "LaunchLab sold amount exceeds total_base_sell"
    if curve.quotedOutput ≤ remaining then pure (amountIn, curve.quotedOutput)
    else launchlabGraduation pool amountIn curve remaining

/-- **LaunchLab buy quote** (constant-product). -/
def launchlabBuyQuote (pool : LaunchLabPool) (amountIn shareFeeRate : UInt64) :
    Result LaunchLabBuyQuote := do
  let curve ← launchlabCurve pool amountIn shareFeeRate
  let (actualIn, grossOut) ← launchlabClamp pool amountIn curve
  let grossOut ← okOr (U64.tryOf grossOut) "LaunchLab buy out > u64"
  let received := U64.satSub grossOut (pool.baseTransferFee.calculate grossOut)
  pure ⟨actualIn, received⟩

/-- What a buy brings. -/
def launchlabBuyBaseOut (pool : LaunchLabPool) (quoteIn : UInt64) : Result UInt64 := do
  let quote ← launchlabBuyQuote pool quoteIn 0
  pure quote.amountOut

/-- **What a sale brings**, net of the curve's fees and of the mints' own. -/
def launchlabSellQuoteOut (pool : LaunchLabPool) (baseIn : UInt64) : Result UInt64 := do
  bailIf (baseIn = 0) "base_in is zero"
  bailIf (pool.curveType ≠ 0) s!"unsupported LaunchLab curve_type {pool.curveType}"
  let baseXfer := pool.baseTransferFee.calculate baseIn
  let curveInput ← okOr (U64.checkedSub baseIn baseXfer)
    "LaunchLab base transfer fee exceeds input"
  -- Compare the credited amount after the input transfer fee, not the wallet
  -- debit.
  bailIf (curveInput.toNat > pool.realBase.toNat)
    "LaunchLab sell input exceeds base previously sold"
  let inputReserve ← okOr (U128.checkedSub pool.virtualBase.toNat pool.realBase.toNat)
    "LaunchLab base reserve underflow"
  let outputReserve ← okOr (U128.checkedAdd pool.virtualQuote.toNat pool.realQuote.toNat)
    "LaunchLab quote reserve overflow"
  bailIf (inputReserve = 0) "invalid launchlab reserves"
  let denominator ← okOr (U128.checkedAdd inputReserve curveInput.toNat)
    "LaunchLab sell denominator overflow"
  let gross ← okOr ((U128.checkedMul curveInput.toNat outputReserve).map (· / denominator))
    "Failed to quote LaunchLab sell"
  -- Virtual liquidity prices the curve but cannot pay users or accrue fees.
  bailIf (gross > pool.realQuote.toNat)
    "LaunchLab real quote reserve cannot cover gross output"
  let rate ← launchlabTotalFeeRate pool 0
  let vaultOut ← okOr (U128.checkedSub gross (feeCeil gross rate)) "LaunchLab fees exceed output"
  let vaultOut ← okOr (U64.tryOf vaultOut) "LaunchLab sell out > u64"
  pure (U64.satSub vaultOut (pool.quoteTransferFee.calculate vaultOut))

/-! ## Raydium CPMM -/

/-- Whether the creator's fee is taken from the input. -/
def creatorFeeOnInput (pool : CpmmPool) (inputIsBase : Bool) : Result Bool :=
  -- A creator fee of zero is treated as one on the input side.
  if pool.enableCreatorFee = false ∨ pool.creatorFeeRate = 0 then .ok true
  else if pool.creatorFeeOn = 0 then .ok true
  else if pool.creatorFeeOn = 1 then .ok inputIsBase
  else if pool.creatorFeeOn = 2 then .ok (!inputIsBase)
  else bail s!"invalid CPMM creator_fee_on {pool.creatorFeeOn}"

/-- The creator's rate, if the fee is enabled. -/
def CpmmPool.creatorRate (pool : CpmmPool) : UInt64 :=
  if pool.enableCreatorFee then pool.creatorFeeRate else 0

/-- The curve's output for what is left of the input, in 64 bits. -/
def cpmmSwapped (inputReserve outputReserve inputLess : UInt64) : UInt64 :=
  UInt64.ofNat (U128.satMul outputReserve.toNat inputLess.toNat
    / U128.satAdd inputReserve.toNat inputLess.toNat)

/-- The reserves and transfer fees of a swap, input first. -/
def CpmmPool.sides (pool : CpmmPool) (inputIsBase : Bool) :
    UInt64 × UInt64 × TokenTransferFee × TokenTransferFee :=
  if inputIsBase then
    (pool.baseReserve, pool.quoteReserve, pool.baseTransferFee, pool.quoteTransferFee)
  else (pool.quoteReserve, pool.baseReserve, pool.quoteTransferFee, pool.baseTransferFee)

/-- The curve's output after the pool's fees. The creator's fee is taken
with the trade fee from the input, or by itself from the output. -/
def cpmmOutputSwapped (pool : CpmmPool) (onInput : Bool)
    (inputReserve outputReserve actualIn : UInt64) : UInt64 :=
  let creatorRate := pool.creatorRate
  if onInput then
    let totalRate := U64.satAdd pool.tradeFeeRate creatorRate
    let totalFee := cpmmTradeFee actualIn totalRate
    let inputLess := U64.satSub actualIn totalFee
    cpmmSwapped inputReserve outputReserve inputLess
  else
    let tradeFee := cpmmTradeFee actualIn pool.tradeFeeRate
    let inputLess := U64.satSub actualIn tradeFee
    let outSwapped := cpmmSwapped inputReserve outputReserve inputLess
    let creatorFee := cpmmTradeFee outSwapped creatorRate
    U64.satSub outSwapped creatorFee

/-- **CPMM swap quote**, with creator and transfer fees. -/
def cpmmOut (pool : CpmmPool) (amountIn : UInt64) (inputIsBase : Bool) : Result UInt64 := do
  bailIf (pool.feeRatesKnown = false) "CPMM current config and mint fee state is missing"
  bailIf (pool.tradeFeeRate.toNat + pool.creatorRate.toNat ≥ feeDenom
      ∨ pool.baseTransferFee.basisPoints > 10000 ∨ pool.quoteTransferFee.basisPoints > 10000)
    "invalid CPMM fee configuration"
  bailIf (amountIn = 0) "amount_in is zero"
  let (inputReserve, outputReserve, inFee, outFee) := pool.sides inputIsBase
  bailIf (inputReserve = 0 ∨ outputReserve = 0) "empty cpmm reserves"
  let actualIn ← okOr (U64.checkedSub amountIn (inFee.calculate amountIn))
    "CPMM input fee exceeds amount"
  let _ ← okOr (U64.checkedAdd inputReserve actualIn)
    "CPMM input reserve overflows token balance"
  let onInput ← creatorFeeOnInput pool inputIsBase
  let outputSwapped := cpmmOutputSwapped pool onInput inputReserve outputReserve actualIn
  pure (U64.satSub outputSwapped (outFee.calculate outputSwapped))

/-- Whether the vault has room for an input. The vault receives input net of
the mint's transfer fee, but includes pool fees. -/
def cpmmCredits (pool : CpmmPool) (inputIsBase : Bool) (mid : ℕ) : Result Bool := do
  let inputReserve := if inputIsBase then pool.baseReserve else pool.quoteReserve
  let inputFee := if inputIsBase then pool.baseTransferFee else pool.quoteTransferFee
  let capacity := U64.max - inputReserve.toNat
  let credit ← orPanic (U64.checkedSub (UInt64.ofNat mid)
    (inputFee.calculate (UInt64.ofNat mid)))
  pure (decide (credit.toNat ≤ capacity))

/-- Whether an input is quoted at least the wanted output. -/
def cpmmReaches (pool : CpmmPool) (amountOut : UInt64) (inputIsBase : Bool) (n : ℕ) :
    Result Bool := do
  let out ← cpmmOut pool (UInt64.ofNat n) inputIsBase
  pure (decide (amountOut ≤ out))

/-- **Exact-out inverse of `cpmmOut`**: three loops, each for at most `fuel`
tests. -/
def cpmmInForOutWithin (fuel : ℕ) (pool : CpmmPool) (amountOut : UInt64)
    (inputIsBase : Bool) : Result UInt64 :=
  if amountOut = 0 then .ok 0
  else do
    let outputReserve := if inputIsBase then pool.quoteReserve else pool.baseReserve
    bailIf (amountOut ≥ outputReserve) "cpmm amount_out exceeds reserve"
    let inputReserve := if inputIsBase then pool.baseReserve else pool.quoteReserve
    -- Quote errors must not be mistaken for zero output. If one unit cannot
    -- fit, no positive output is reachable.
    let _ ← cpmmOut pool 1 inputIsBase
    -- Find the largest gross input whose vault credit fits u64.
    let maxInput ← Search.greatest (cpmmCredits pool inputIsBase) fuel 0 U64.max
    let unreachable ← anyOf [.ok (decide (maxInput = 0)),
      do let reached ← cpmmReaches pool amountOut inputIsBase maxInput; pure (!reached)]
    bailIf unreachable "cpmm amount_out is unreachable within token vault capacity"
    let naive := U128.satMul amountOut.toNat inputReserve.toNat
      ⌈/⌉ (outputReserve.toNat - amountOut.toNat)
    let lo ← okOr (U64.tryOf naive) "cpmm exact-out input exceeds u64"
    let lo := max lo.toNat 1
    let hi := min (U64.sat (U64.sat (lo * 2) + 10000)) maxInput
    let hi ← Search.widen (cpmmReaches pool amountOut inputIsBase)
      (fun hi => min (max (U64.sat (hi * 2)) (U64.sat (hi + 1))) maxInput) fuel hi
    let lo ← Search.least (cpmmReaches pool amountOut inputIsBase) fuel lo hi
    pure (UInt64.ofNat lo)

/-- No loop of the inverse makes more than 64 rounds. -/
def cpmmInForOut (pool : CpmmPool) (amountOut : UInt64) (inputIsBase : Bool) :
    Result UInt64 :=
  cpmmInForOutWithin 65 pool amountOut inputIsBase

/-! ## PumpFun -/

/-- The protocol's and the creator's fee, if current and below everything. -/
def pumpfunRates (pool : PumpFunPool) : Result (ℕ × ℕ) := do
  bailIf (pool.feeRatesKnown = false)
    "PumpFun current fee rates are missing; supply current rates or explicit min_out"
  let protocol := pool.protocolFeeBps.toNat
  let creator := if pool.hasCreator then pool.creatorFeeBps.toNat else 0
  bailIf (protocol + creator ≥ 10000) "invalid PumpFun fee rates"
  pure (protocol, creator)

/-- Matches `buy_exact_sol_in` math for pre-graduation V1/V2 trades. -/
def pumpfunBuyTokenOut (pool : PumpFunPool) (quoteIn : UInt64) : Result UInt64 := do
  let (protocol, creator) ← pumpfunRates pool
  bailIf (quoteIn = 0 ∨ pool.virtualTokenReserves = 0 ∨ pool.virtualSolReserves = 0)
    "invalid PumpFun input or reserves"
  -- Invert total fees, correct split-ceil excess, then subtract one from net
  -- input.
  let net := quoteIn.toNat * 10000 / (10000 + protocol + creator)
  let total := net + computeFeeBps net protocol + computeFeeBps net creator
  let net ← okOr (if total > quoteIn.toNat then U128.checkedSub net (total - quoteIn.toNat)
    else some net) "PumpFun input cannot cover fees"
  let curveIn ← okOr (U128.checkedSub net 1) "PumpFun input too small after fees"
  let tokens := curveIn * pool.virtualTokenReserves.toNat
    / (pool.virtualSolReserves.toNat + curveIn)
  let tokens := UInt64.ofNat (min tokens pool.realTokenReserves.toNat)
  bailIf (tokens = 0) "PumpFun quote output rounds to zero"
  pure tokens

/-- **What a sale on the bonding curve brings.** -/
def pumpfunSellSolOut (pool : PumpFunPool) (tokenIn : UInt64) : Result UInt64 := do
  let (protocol, creator) ← pumpfunRates pool
  bailIf (tokenIn = 0 ∨ pool.virtualTokenReserves = 0 ∨ pool.virtualSolReserves = 0)
    "invalid PumpFun input or reserves"
  let gross := tokenIn.toNat * pool.virtualSolReserves.toNat
    / (pool.virtualTokenReserves.toNat + tokenIn.toNat)
  -- The protocol and creator buckets are rounded separately.
  let fees := computeFeeBps gross protocol + computeFeeBps gross creator
  let out ← okOr (U128.checkedSub gross fees) "PumpFun fees exceed output"
  okOr (U64.tryOf out) "PumpFun output exceeds u64"

/-! ## PumpSwap -/

/-- The quote reserve a PumpSwap pool prices with: the real one and the virtual.
-/
def pumpswapEffectiveQuote (pool : PumpSwapPool) : Result UInt64 := do
  let effective := (pool.quoteReserve.toNat : ℤ) + pool.virtualQuoteReserves.toInt
  bailIf (effective < -2 ^ 127 ∨ 2 ^ 127 ≤ effective)
    "PumpSwap effective quote reserve overflow"
  bailIf (effective ≤ 0 ∨ 2 ^ 64 ≤ effective) "invalid PumpSwap effective quote reserve"
  pure (UInt64.ofNat effective.toNat)

/-- **What a PumpSwap buy brings.** The input is first cleared of its fees, each
rounded up. -/
def pumpswapBuyBaseOut (pool : PumpSwapPool) (quoteIn : UInt64) : Result UInt64 := do
  bailIf (quoteIn = 0 ∨ pool.baseReserve = 0 ∨ pool.quoteReserve = 0)
    "invalid PumpSwap input or reserves"
  let totalFeeBps ← okOr ((U64.checkedAdd pool.lpFeeBps pool.protocolFeeBps).bind
    (U64.checkedAdd · pool.creatorFeeBps)) "PumpSwap fee bps overflow"
  let denominator ← okOr (U64.checkedAdd 10000 totalFeeBps) "PumpSwap fee denominator overflow"
  let effectiveIn := U128.satMul quoteIn.toNat 10000 / denominator.toNat
  let totalWithFees := U128.satAdd (U128.satAdd (U128.satAdd effectiveIn
    (computeFeeBps effectiveIn pool.lpFeeBps.toNat))
    (computeFeeBps effectiveIn pool.protocolFeeBps.toNat))
    (computeFeeBps effectiveIn pool.creatorFeeBps.toNat)
  let effectiveIn :=
    if totalWithFees > quoteIn.toNat then effectiveIn - (totalWithFees - quoteIn.toNat)
    else effectiveIn
  let curveIn ← okOr (U128.checkedSub effectiveIn 1)
    "PumpSwap quote input is too small after fees"
  let effectiveQuote ← pumpswapEffectiveQuote pool
  pure (UInt64.ofNat (U64.sat (U128.satMul pool.baseReserve.toNat curveIn
    / U128.satAdd effectiveQuote.toNat curveIn)))

/-- **What a PumpSwap sale brings**, if the vault can pay it. -/
def pumpswapSellQuoteOut (pool : PumpSwapPool) (baseIn : UInt64) : Result UInt64 := do
  bailIf (baseIn = 0 ∨ pool.baseReserve = 0 ∨ pool.quoteReserve = 0)
    "invalid PumpSwap input or reserves"
  let reserved ← okOr pool.quoteFeeReserves
    "PumpSwap sell quote requires current Pool reserved fees"
  let realQuote ← okOr (U64.checkedSub pool.quoteReserve reserved)
    "PumpSwap reserved fees exceed quote vault balance"
  let effectiveQuote ← pumpswapEffectiveQuote pool
  let gross := U128.satMul effectiveQuote.toNat baseIn.toNat
    / U128.satAdd pool.baseReserve.toNat baseIn.toNat
  let fees := U128.satAdd (U128.satAdd (computeFeeBps gross pool.lpFeeBps.toNat)
    (computeFeeBps gross pool.protocolFeeBps.toNat))
    (computeFeeBps gross pool.creatorFeeBps.toNat)
  let out ← okOr (U128.checkedSub gross fees) "PumpSwap fees exceed gross output"
  let out ← okOr (U64.tryOf out) "PumpSwap output exceeds u64"
  bailIf (gross - computeFeeBps gross pool.lpFeeBps.toNat > realQuote.toNat)
    "PumpSwap real quote reserve cannot cover output"
  pure out

/-! ## Raydium AMM V4 -/

/-- **What an AMM V4 swap brings**, net of the pool's fee. -/
def raydiumAmmV4Out (pool : RaydiumAmmV4Pool) (amountIn : UInt64) (inputIsCoin : Bool) :
    Result UInt64 := do
  bailIf (amountIn = 0) "amount_in is zero"
  let inputReserve := if inputIsCoin then pool.coinReserve else pool.pcReserve
  let outputReserve := if inputIsCoin then pool.pcReserve else pool.coinReserve
  bailIf (inputReserve = 0 ∨ outputReserve = 0) "empty Raydium AMM V4 reserves"
  let feeNum := pool.swapFeeNumerator
  let feeDen := pool.swapFeeDenominator
  bailIf (feeDen = 0 ∨ feeNum ≥ feeDen) "invalid Raydium AMM V4 swap fee fraction"
  let _ ← okOr (U64.checkedAdd inputReserve amountIn)
    "Raydium AMM V4 input reserve overflows token balance"
  let tradeFee := UInt64.ofNat ((amountIn.toNat * feeNum.toNat) ⌈/⌉ feeDen.toNat)
  let netIn := U64.satSub amountIn tradeFee
  let swapped := U128.satMul outputReserve.toNat netIn.toNat
    / U128.satAdd inputReserve.toNat netIn.toNat
  pure (UInt64.ofNat (U64.sat swapped))

/-- Inverse of `raydiumAmmV4Out`: gross input needed for at least
`amountOut`. -/
def raydiumAmmV4InForOut (pool : RaydiumAmmV4Pool) (amountOut : UInt64) (inputIsCoin : Bool) :
    Result UInt64 := do
  bailIf (amountOut = 0) "amount_out is zero"
  let inputReserve := if inputIsCoin then pool.coinReserve else pool.pcReserve
  let outputReserve := if inputIsCoin then pool.pcReserve else pool.coinReserve
  bailIf (inputReserve = 0 ∨ outputReserve = 0) "empty Raydium AMM V4 reserves"
  bailIf (amountOut ≥ outputReserve) "Raydium AMM V4 amount_out exceeds output reserve"
  let denom := outputReserve.toNat - amountOut.toNat
  let netIn := U128.satMul amountOut.toNat inputReserve.toNat ⌈/⌉ denom
  let tradeNum := pool.swapFeeNumerator.toNat
  let feeDen := pool.swapFeeDenominator.toNat
  bailIf (feeDen = 0 ∨ tradeNum ≥ feeDen) "invalid Raydium AMM V4 swap fee fraction"
  let netIn ← okOr (U64.tryOf netIn) "Raydium AMM V4 exact-out net input exceeds u64"
  -- Pool fees round up: net = floor(gross * (fee_den - trade_num) / fee_den).
  let amountIn := (netIn.toNat * feeDen) ⌈/⌉ (feeDen - tradeNum)
  let amountIn ← okOr (U64.tryOf amountIn) "Raydium AMM V4 exact-out gross input exceeds u64"
  let out ← raydiumAmmV4Out pool amountIn inputIsCoin
  bailIf (out < amountOut) "Raydium AMM V4 exact-out quote cannot reach target"
  pure amountIn

/-! ## Snapshots with a quote of their own -/

/-- A quote that came with the snapshot, for the amount it was made for and no
other. -/
def snapshotExpectedOut (expectedOut quotedAmountIn : Option UInt64) (amountIn : UInt64)
    (dex : String) : Result UInt64 := do
  let expected ← okOr expectedOut
    s!"{dex} snapshot has no expected_out; provide TradeOpts::with_min_out"
  match quotedAmountIn with
  | some qin =>
    if qin = amountIn then pure expected
    else bail s!"{dex} expected_out quoted for {qin}, got amount_in {amountIn}"
  | none => bail s!"{dex} snapshot missing quoted_amount_in; provide TradeOpts::with_min_out"

/-- DAMM V2 is priced by the quote of its snapshot, in the direction it was made
for. -/
def meteoraDammV2Out (pool : MeteoraDammV2Pool) (amountIn : UInt64) (inputIsA : Bool) :
    Result UInt64 := do
  -- Vault reserves alone are not an authoritative quote.
  let input := if inputIsA then pool.tokenAMint else pool.tokenBMint
  bailIf (pool.quotedInputMint ≠ some input)
    "Meteora DAMM V2 quote input mint/direction is missing or mismatched"
  snapshotExpectedOut pool.expectedOut pool.quotedAmountIn amountIn "Meteora DAMM V2"

/-- And so is CLMM. -/
def raydiumClmmOut (pool : RaydiumClmmPool) (amountIn : UInt64) : Result UInt64 :=
  snapshotExpectedOut pool.expectedOut pool.quotedAmountIn amountIn "Raydium CLMM"

/-- And Whirlpool. -/
def whirlpoolOut (pool : WhirlpoolPool) (amountIn : UInt64) : Result UInt64 :=
  snapshotExpectedOut pool.expectedOut pool.quotedAmountIn amountIn "Orca Whirlpool"

/-- And DLMM. -/
def meteoraDlmmOut (pool : MeteoraDlmmPool) (amountIn : UInt64) : Result UInt64 :=
  snapshotExpectedOut pool.expectedOut pool.quotedAmountIn amountIn "Meteora DLMM"

end Sdk
