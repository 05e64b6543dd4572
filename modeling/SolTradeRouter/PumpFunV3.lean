import SolTradeRouter.Ata
import SolTradeRouter.Quote
import SolTradeRouter.Unchecked

/-!
# Pump V3 quotes

A V3 curve is bought through its graduation: what a budget leaves once the
curve is sold out buys from the pool that the curve becomes. A buy is quoted
for a budget or for an amount of tokens, and the two quotes price the curve
and the pool-to-be by separate formulas. A sale is quoted by the formula of
the earlier versions.

The quotes compute with plain 128-bit operators, which panic here where they
would leave their range.
-/

namespace Sdk

open Outcome

/-- Current curve/config/mint snapshot. -/
structure PumpFunV3Pool where
  curve : PumpFunPool
  complete : Bool
  /-- Allow the post-completion quote and buy path. -/
  supportsGraduation : Bool
  realQuoteReserves : UInt64
  curveBaseTokenBalance : UInt64
  poolMigrationFee : UInt64
  mayhemMode : Bool

/-! ## Fees -/

/-- The two fees of an amount, each rounded up. -/
def v3Fees (amount protocol creator : ℕ) : Result ℕ := do
  let protocolProduct ← U128.mul amount protocol
  let creatorProduct ← U128.mul amount creator
  U128.add (protocolProduct ⌈/⌉ 10000) (creatorProduct ⌈/⌉ 10000)

/-- `10_000 + protocol + creator` -/
def v3Divisor (protocol creator : ℕ) : Result ℕ := do
  let sum ← U128.add 10000 protocol
  U128.add sum creator

/-- What a budget leaves for the curve after the fees. -/
def netQuote (budget protocol creator : ℕ) : Result ℕ := do
  let scaled ← U128.mul budget 10000
  let divisor ← v3Divisor protocol creator
  let net := scaled / divisor
  let fees ← v3Fees net protocol creator
  let total ← U128.add net fees
  okOr (U128.checkedSub net (total - budget)) "V3 budget cannot cover fees"

def positiveU64 (value : ℕ) : Result UInt64 := do
  let value ← okOr (U64.tryOf value) "Pump V3 quote exceeds u64"
  bailIf (value = 0) "Pump V3 quote rounds to zero"
  pure value

namespace PumpFunV3Pool

/-! ## Validation -/

/-- The curve's address, derived from the mint. -/
def derivedCurve [Pda] (pool : PumpFunV3Pool) : Pubkey :=
  (Pda.find [ascii "bonding-curve", pool.curve.mint.bytes] pumpfunProgram).1

def validate [Pda] (pool : PumpFunV3Pool) : Result Unit := do
  let p := pool.curve
  bailIf (pool.complete = true) "completed Pump curves must migrate before further trades"
  bailIf (p.isCashbackCoin = true) "Pump V3 rejects cashback coins; use V1/V2"
  bailIf (p.feeRatesKnown = false) "Pump V3 requires current FeeConfig rates"
  bailIf ([p.mintTokenProgram, p.quoteTokenProgram].any (fun program =>
      program ≠ tokenProgram && program ≠ token2022Program))
    "Pump V3 mint owner missing or unsupported"
  bailIf (p.quoteMint = wsolMint ∧ p.quoteTokenProgram ≠ tokenProgram)
    "Pump V3 native quote requires classic WSOL mint"
  bailIf (p.mint = Pubkey.default ∨ p.quoteMint = p.mint) "invalid Pump V3 mints"
  bailIf (p.bondingCurve ≠ pool.derivedCurve
      ∨ p.associatedBondingCurve ≠ ata pool.derivedCurve p.mint p.mintTokenProgram)
    "Pump V3 curve/base vault is not canonical"
  bailIf (p.buybackFeeRecipient = Pubkey.default) "Pump V3 buyback recipient missing"

/-- The creator's rate, if the coin has a creator. -/
def creatorBps (pool : PumpFunV3Pool) : ℕ :=
  if pool.curve.hasCreator then pool.curve.creatorFeeBps.toNat else 0

def rates [Pda] (pool : PumpFunV3Pool) : Result (ℕ × ℕ) := do
  pool.validate
  let protocol := pool.curve.protocolFeeBps.toNat
  let creator := pool.creatorBps
  let sum ← U128.add protocol creator
  bailIf (sum ≥ 10000) "invalid Pump V3 fee schedule"
  pure (protocol, creator)

/-! ## Buying -/

/-- What is raised when the curve is sold out, less the migration fee of a
native quote. -/
def raisedQuote (pool : PumpFunV3Pool) (raised : ℕ) : Option ℕ :=
  if pool.curve.quoteMint = wsolMint then U128.checkedSub raised pool.poolMigrationFee.toNat
  else some raised

/-- The rest of a budget buys from the pool-to-be. -/
def poolToBeQuote (pool : PumpFunV3Pool) (protocol creator curveNet left : ℕ) :
    Result UInt64 := do
  let remaining := pool.curve.realTokenReserves.toNat
  let poolBase ← okOr ((U128.checkedSub pool.curveBaseTokenBalance.toNat remaining).filter
    (0 < ·)) "empty Pump V3 pool-to-be base reserve"
  let raised ← okOr ((U128.checkedAdd pool.realQuoteReserves.toNat curveNet).filter
    (· ≤ U64.max)) "Pump V3 pool-to-be quote overflow"
  let poolQuote ← okOr ((pool.raisedQuote raised).filter (0 < ·))
    "empty Pump V3 pool-to-be quote reserve"
  let net ← netQuote left protocol creator
  let legIn ← okOr (U128.checkedSub net 1) "Pump V3 post-completion budget too small"
  let product ← U128.mul legIn poolBase
  let divisor ← U128.add poolQuote legIn
  let tokens ← U128.add remaining (product / divisor)
  positiveU64 tokens

/-- A budget that buys more than the curve has left. -/
def graduationQuote (pool : PumpFunV3Pool) (budget protocol creator : ℕ) :
    Result UInt64 := do
  let base := pool.curve.virtualTokenReserves.toNat
  let quote := pool.curve.virtualSolReserves.toNat
  let remaining := pool.curve.realTokenReserves.toNat
  bailIf (pool.supportsGraduation = false) "Pump V3 graduation is disabled for this pool"
  bailIf (pool.mayhemMode = true)
    "Pump V3 Mayhem graduation requires partial fill, unsupported by this exact-budget route"
  let after ← okOr ((U128.checkedSub base remaining).filter (0 < ·))
    "Pump V3 graduation exhausts virtual reserve"
  -- Official curve exact-out uses floor + 1, including divisible cases.
  let product ← U128.mul remaining quote
  let curveNet ← U128.add (product / after) 1
  let fees ← v3Fees curveNet protocol creator
  let cost ← U128.add curveNet fees
  let left := (U128.checkedSub budget cost).getD 0
  let scaled ← U128.mul left 10000
  let divisor ← v3Divisor protocol creator
  if scaled / divisor < 2 then positiveU64 remaining
  else pool.poolToBeQuote protocol creator curveNet left

/-- **The tokens a budget buys**, including graduation. -/
def buyQuote [Pda] (pool : PumpFunV3Pool) (budget : UInt64) : Result UInt64 := do
  let (protocol, creator) ← pool.rates
  let net ← netQuote budget.toNat protocol creator
  let base := pool.curve.virtualTokenReserves.toNat
  let quote := pool.curve.virtualSolReserves.toNat
  bailIf (base = 0 ∨ quote = 0) "empty Pump V3 reserves"
  let input ← okOr ((U128.checkedSub net 1).filter (0 < ·)) "Pump V3 budget too small"
  let product ← U128.mul input base
  let divisor ← U128.add quote input
  let tokens := product / divisor
  if tokens ≤ pool.curve.realTokenReserves.toNat then positiveU64 tokens
  else pool.graduationQuote budget.toNat protocol creator

/-- What the tokens past the curve cost in the pool-to-be, on top of the
curve's cost. -/
def pastCurveQuote (pool : PumpFunV3Pool) (amount protocol creator net curveTotal : ℕ) :
    Result UInt64 := do
  let remaining := pool.curve.realTokenReserves.toNat
  bailIf (pool.supportsGraduation = false) "Pump V3 graduation is disabled for this pool"
  let past ← U128.sub amount remaining
  let base ← okOr ((U128.checkedSub pool.curveBaseTokenBalance.toNat remaining).filter
    (past < ·)) "Pump V3 output exhausts pool-to-be"
  let raised ← U128.add pool.realQuoteReserves.toNat net
  let quote ← okOr ((pool.raisedQuote raised).filter (fun v => 0 < v ∧ v ≤ U64.max))
    "invalid Pump V3 pool-to-be quote reserve"
  let product ← U128.mul quote past
  let rest ← U128.sub base past
  let legNet := product ⌈/⌉ rest
  let cost ← U128.add curveTotal legNet
  let fees ← v3Fees legNet protocol creator
  let total ← U128.add cost fees
  positiveU64 total

/-- **What an amount of tokens costs**, fees included. -/
def buyQuoteForTokens [Pda] (pool : PumpFunV3Pool) (amount : UInt64) : Result UInt64 := do
  let (protocol, creator) ← pool.rates
  bailIf (amount = 0) "Pump V3 output must be positive"
  let remaining := pool.curve.realTokenReserves.toNat
  bailIf (pool.mayhemMode = true ∧ amount.toNat > remaining)
    "Pump V3 Mayhem cannot fulfill output beyond the curve"
  bailIf (pool.curve.virtualSolReserves = 0) "empty Pump V3 quote reserve"
  let curveTokens := min amount.toNat remaining
  let after ← okOr ((U128.checkedSub pool.curve.virtualTokenReserves.toNat curveTokens).filter
    (0 < ·)) "Pump V3 curve reserve exhausted"
  let product ← U128.mul curveTokens pool.curve.virtualSolReserves.toNat
  let net ← U128.add (product / after) 1
  let fees ← v3Fees net protocol creator
  let curveTotal ← U128.add net fees
  if amount.toNat ≤ remaining then positiveU64 curveTotal
  else pool.pastCurveQuote amount.toNat protocol creator net curveTotal

/-! ## Selling -/

def sellQuote [Pda] (pool : PumpFunV3Pool) (amount : UInt64) : Result UInt64 := do
  pool.validate
  pumpfunSellSolOut pool.curve amount

end PumpFunV3Pool

/-- A curve with a tenth of its tokens left. -/
def sampleCurve : PumpFunPool where
  mint := sampleKey 4
  mintTokenProgram := tokenProgram
  quoteMint := wsolMint
  quoteTokenProgram := tokenProgram
  useV2 := false
  bondingCurve := sampleKey 2
  associatedBondingCurve := sampleKey 2
  creatorVault := sampleKey 6
  feeRecipient := sampleKey 7
  buybackFeeRecipient := sampleKey 8
  global := sampleKey 9
  eventAuthority := sampleKey 10
  globalVolumeAccumulator := sampleKey 11
  feeConfig := sampleKey 12
  feeProgram := sampleKey 13
  bondingCurveV2 := sampleKey 14
  virtualTokenReserves := 1000000
  virtualSolReserves := 100000
  realTokenReserves := 100000
  protocolFeeBps := 95
  creatorFeeBps := 5
  feeRatesKnown := true
  hasCreator := true
  isCashbackCoin := false

end Sdk
