import SolTradeRouter.PumpFunV3
import SolTradeRouter.Trade

/-!
# Pump V3 trades

The legs of a V3 curve, and the routes of one leg around them. A buy names a
budget, of which the router's fee is a part; its leg spends the rest, either
exactly or as the most it may take for a fixed amount of tokens. Rent and
token accounts are paid for in a setup, outside of what the router measures.

A curve quoted in WSOL settles in the lamports of the user. Any other quote is
kept in a token account.
-/

namespace Sdk

open Outcome Bytes

/-- `[225, 247, 80, 30, 213, 179, 132, 136]` -/
def pumpfunBuyExactQuoteInV3 : List UInt8 := [225, 247, 80, 30, 213, 179, 132, 136]

/-- `[7, 5, 29, 196, 245, 23, 101, 80]` -/
def pumpfunBuyV3 : List UInt8 := [7, 5, 29, 196, 245, 23, 101, 80]

/-- `[28, 146, 222, 119, 38, 196, 105, 213]` -/
def pumpfunSellV3 : List UInt8 := [28, 146, 222, 119, 38, 196, 105, 213]

/-- **A snapshot with what only its setup reads.** -/
structure PumpFunV3Snapshot extends PumpFunV3Pool where
  needsCurveExtension : Bool
  /-- Hint for token-quoted trades; native buys and sells always initialize
  idempotently. -/
  needsVolumeInitialization : Bool

/-- **A V3 trade.** Rent and ATA initialization run outside the router's input
budget check. -/
structure PumpFunV3Trade where
  setup : List Instruction
  route : Instruction

/-- The setup, and then the route. -/
def PumpFunV3Trade.intoInstructions (trade : PumpFunV3Trade) : List Instruction :=
  trade.setup ++ [trade.route]

namespace PumpFunV3Pool

variable [Pda]

/-! ## Legs -/

/-- Whether the curve is quoted in WSOL, and settles in lamports. -/
def native (pool : PumpFunV3Pool) : Bool := pool.curve.quoteMint = wsolMint

/-- An owner's account of the quote. -/
def quoteAta (pool : PumpFunV3Pool) (owner : Pubkey) : Pubkey :=
  ata owner pool.curve.quoteMint pool.curve.quoteTokenProgram

/-- An owner's account of the coin. -/
def coinAta (pool : PumpFunV3Pool) (owner : Pubkey) : Pubkey :=
  ata owner pool.curve.mint pool.curve.mintTokenProgram

def accounts (pool : PumpFunV3Pool) (user : Pubkey) : Result (List AccountMeta) := do
  pool.validate
  let p := pool.curve
  let buyback := if p.quoteMint = wsolMint then p.buybackFeeRecipient
    else pool.quoteAta p.buybackFeeRecipient
  pure [
    .newReadonly pumpfunGlobal false,
    .newReadonly p.mint false,
    .newReadonly p.quoteMint false,
    .newReadonly p.mintTokenProgram false,
    .newReadonly p.quoteTokenProgram false,
    .new p.bondingCurve false,
    .new p.associatedBondingCurve false,
    .new (pool.quoteAta p.bondingCurve) false,
    .new user true,
    .new (pool.coinAta user) false,
    .new (pool.quoteAta user) false,
    .new (pumpfunUserVolumeAccumulator user) false,
    .newReadonly pumpfunFeeConfig false,
    .new buyback false,
    .newReadonly systemProgram false,
    .newReadonly pumpfunEventAuthority false,
    .newReadonly pumpfunProgram false]

/-- The amounts of a trade must be positive. -/
def checkAmounts (a b : UInt64) : Result Unit :=
  bailIf (a = 0 ∨ b = 0) "Pump V3 amounts must be positive"

def buyLeg (pool : PumpFunV3Pool) (user : Pubkey) (budget minimum : UInt64) : Result Leg := do
  checkAmounts budget minimum
  let _ ← pool.buyQuote budget
  let accounts ← pool.accounts user
  pure {
    programId := pumpfunProgram
    accounts := accounts
    -- OptionBool(false), no partial fills.
    data := encodeU64Pair pumpfunBuyExactQuoteInV3 budget minimum ++ [0] }

/-- Exact output V3 buy, including a graduation leg when available. -/
def buyExactOutLeg (pool : PumpFunV3Pool) (user : Pubkey) (amount maximum : UInt64) :
    Result Leg := do
  checkAmounts amount maximum
  let _ ← pool.buyQuoteForTokens amount
  let accounts ← pool.accounts user
  pure {
    programId := pumpfunProgram
    accounts := accounts
    data := encodeU64Pair pumpfunBuyV3 amount maximum ++ [0] }

def sellLeg (pool : PumpFunV3Pool) (user : Pubkey) (amount minimum : UInt64) : Result Leg := do
  checkAmounts amount minimum
  let accounts ← pool.accounts user
  pure {
    programId := pumpfunProgram
    accounts := accounts
    data := encodeU64Pair pumpfunSellV3 amount minimum }

end PumpFunV3Pool

namespace PumpFunV3Snapshot

variable [Pda]

/-! ## Setup -/

/-- Extend the curve's account. -/
def extendCurve (pool : PumpFunV3Snapshot) (user : Pubkey) : Instruction where
  programId := pumpfunProgram
  accounts := [
    .new pool.curve.bondingCurve false,
    .new user true,
    .newReadonly systemProgram false,
    .newReadonly pumpfunEventAuthority false,
    .newReadonly pumpfunProgram false]
  data := [234, 102, 194, 203, 150, 72, 62, 229]

/-- Initialize the user's volume account. -/
def initializeVolume (user : Pubkey) : Instruction where
  programId := pumpfunProgram
  accounts := [
    .new user true,
    .newReadonly user false,
    .new (pumpfunUserVolumeAccumulator user) false,
    .newReadonly systemProgram false,
    .newReadonly pumpfunEventAuthority false,
    .newReadonly pumpfunProgram false]
  data := [94, 6, 202, 115, 255, 96, 232, 183]

/-- What runs ahead of a trade. -/
def setup (pool : PumpFunV3Snapshot) (user : Pubkey) (buy : Bool) : List Instruction :=
  let p := pool.curve
  (if pool.needsCurveExtension then [pool.extendCurve user] else [])
    ++ (if pool.needsVolumeInitialization ∨ p.quoteMint = wsolMint then
      [initializeVolume user] else [])
    ++ (if buy then [createAta user user p.mint p.mintTokenProgram] else [])
    ++ (if p.quoteMint ≠ wsolMint then
        (if !buy then [createAta user user p.quoteMint p.quoteTokenProgram] else [])
          ++ [createAta user p.buybackFeeRecipient p.quoteMint p.quoteTokenProgram]
      else [])

/-! ## Routes -/

/-- What the fee leaves of an amount. -/
def spendOf (amount : UInt64) (feeBps : UInt16) (text : String) : Result UInt64 :=
  okOr ((U64.checkedSub amount (feeAmount amount feeBps)).filter (0 < ·)) text

def buildBuyRouteInner (pool : PumpFunV3Snapshot) (router user feeRecipient : Pubkey)
    (budget : UInt64) (feeBps : UInt16) (minimum : UInt64) (exactOut : Bool) :
    Result PumpFunV3Trade := do
  validateRouterFeeBps feeBps
  let spend ← spendOf budget feeBps "router fee consumes V3 budget"
  let p := pool.curve
  let input := if pool.native then user else pool.quoteAta user
  let destination := if pool.native then feeRecipient else pool.quoteAta feeRecipient
  let feeProgram := if pool.native then systemProgram else p.quoteTokenProgram
  let leg ← (if exactOut then pool.buyExactOutLeg user minimum spend
    else pool.buyLeg user spend minimum)
  let setup := pool.setup user true
    ++ (if !pool.native ∧ feeBps > 0 then
      [createAta user feeRecipient p.quoteMint p.quoteTokenProgram] else [])
  let route := buildRouteInstructionEx router
    { payer := user
      feeDestination := destination
      feeSource := input
      outputTokenAccount := pool.coinAta user
      feeProgram := feeProgram
      feeMint := p.quoteMint }
    budget minimum (if pool.native then 0 else 1) true p.mint [leg]
  pure ⟨setup, route⟩

/-- **A protected V3 buy.** The router charges its fee on the declared budget
and enforces that at most the budget is spent; V3 may leave rounding dust
unspent. -/
def buildBuyRoute (pool : PumpFunV3Snapshot) (router user feeRecipient : Pubkey)
    (budget : UInt64) (feeBps : UInt16) (minimum : UInt64) : Result PumpFunV3Trade :=
  pool.buildBuyRouteInner router user feeRecipient budget feeBps minimum false

/-- **An exact output, protected by a maximum.** Router fees are calculated on
the maximum. -/
def buildBuyExactOutRoute (pool : PumpFunV3Snapshot) (router user feeRecipient : Pubkey)
    (maximum : UInt64) (feeBps : UInt16) (amount : UInt64) : Result PumpFunV3Trade :=
  pool.buildBuyRouteInner router user feeRecipient maximum feeBps amount true

/-- **A protected V3 sale.** -/
def buildSellRoute (pool : PumpFunV3Snapshot) (router user feeRecipient : Pubkey)
    (amount : UInt64) (feeBps : UInt16) (minimum : UInt64) : Result PumpFunV3Trade := do
  validateRouterFeeBps feeBps
  let spend ← spendOf amount feeBps "router fee consumes V3 input"
  let p := pool.curve
  let output := if p.quoteMint = wsolMint then user else pool.quoteAta user
  let expected := if p.quoteMint = wsolMint then systemProgram else p.quoteMint
  let leg ← pool.sellLeg user spend minimum
  let setup := pool.setup user false
    ++ (if feeBps > 0 then [createAta user feeRecipient p.mint p.mintTokenProgram] else [])
  let route := buildRouteInstructionEx router
    { payer := user
      feeDestination := pool.coinAta feeRecipient
      feeSource := pool.coinAta user
      outputTokenAccount := output
      feeProgram := p.mintTokenProgram
      feeMint := p.mint }
    amount minimum 1 false expected [leg]
  pure ⟨setup, route⟩

end PumpFunV3Snapshot

end Sdk
