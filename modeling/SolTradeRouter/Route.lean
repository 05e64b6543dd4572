import SolTradeRouter.DynamicLeg
import SolTradeRouter.RouterConfig

/-!
# The route instruction

Take the platform fee, call each leg in turn, and check what the route
spent and what it brought. Three tags run this code: a static route of one
to four legs, a dynamic route of two, and a dynamic route of three, whose
later legs spend what the leg before them actually credited. The number of
intermediate accounts – zero, one or two – tells them apart.

The instruction is cut into the parts it is made of: the header, the fixed
accounts, the configuration, the fee, the snapshots, the legs, and the
settlement. Parsing does not look into the accounts it hands out, so the
parser is generic in what an account is: the chain runs it on views, and
the SDK's encoder is compared with it on metas.
-/

namespace Program

open Outcome Bytes

def maxLegs : ℕ := 4

/-- Must stay in sync with the SDK's bound. -/
def maxLegAccounts : ℕ := 64

/-- Input, minimum, fee asset, number of legs, output mint. -/
def routeHeaderLen : ℕ := 50

/-! ## Header -/

/-- **The header of a route.** -/
structure RouteHeader where
  amountIn : UInt64
  minAmountOut : UInt64
  feeAssetByte : UInt8
  numLegs : ℕ
  expectedOutputMint : Pubkey
  intermediateMinOut : UInt64
  secondIntermediateMinOut : UInt64
  deriving DecidableEq

namespace RouteHeader

/-- Low bit = asset (0 SOL / 1 SPL). -/
def feeAsset (h : RouteHeader) : UInt8 := h.feeAssetByte &&& 0x01

/-- Bit 7 = exact-out: the input amount is a maximum budget. -/
def exactOut (h : RouteHeader) : Bool := h.feeAssetByte &&& 0x80 ≠ 0

end RouteHeader

/-- A minimum of the header, where the route has it. -/
def readMinimum (wanted : Bool) (data : List UInt8) (offset : ℕ) : Read UInt64 :=
  if wanted then readU64 data offset else pure 0

/-- Read the header. -/
def readHeader (data : List UInt8) (dynamicIntermediates : ℕ) : Read RouteHeader := do
  rejectIf (data.length < routeHeaderLen + 8 * dynamicIntermediates)
    .invalidInstructionData
  let amountIn ← readU64 data 0
  let minAmountOut ← readU64 data 8
  let feeAssetByte ← index data 16
  let numLegs ← index data 17
  let expectedOutputMint ← readAddress data 18
  let intermediateMinOut ← readMinimum (dynamicIntermediates ≠ 0) data routeHeaderLen
  let secondIntermediateMinOut ← readMinimum (dynamicIntermediates = 2) data
    (routeHeaderLen + 8)
  pure {
    amountIn := amountIn
    minAmountOut := minAmountOut
    feeAssetByte := feeAssetByte
    numLegs := numLegs.toNat
    expectedOutputMint := expectedOutputMint
    intermediateMinOut := intermediateMinOut
    secondIntermediateMinOut := secondIntermediateMinOut }

/-- Check the header. -/
def checkHeader (h : RouteHeader) (dynamicIntermediates : ℕ) : Read Unit := do
  rejectIf (h.amountIn = 0) .invalidInstructionData
  rejectIf (¬ (1 ≤ h.numLegs ∧ h.numLegs ≤ maxLegs)) .tooManyLegs
  rejectIf (dynamicIntermediates ≠ 0
    ∧ (h.numLegs ≠ dynamicIntermediates + 1
      ∨ h.feeAssetByte ≠ 1
      ∨ h.intermediateMinOut = 0
      ∨ (dynamicIntermediates = 2 ∧ h.secondIntermediateMinOut = 0)
      ∨ h.minAmountOut = 0)) .invalidInstructionData

/-! ## Accounts -/

/-- **The accounts of a route**: the fixed ones, the intermediates of a
dynamic route, and those the legs draw from. -/
structure RouteAccounts (α : Type) where
  user : α
  config : α
  feeDestination : α
  feeSource : α
  userOutput : α
  feeProgram : α
  intermediate : Option α
  secondIntermediate : Option α
  remaining : List α

/-- `split_first_mut().ok_or(InsufficientAccounts)`. -/
def splitFirst {α : Type} : List α → Read (α × List α)
  | [] => reject .insufficientAccounts
  | a :: rest => .ok (a, rest)

@[simp] theorem splitFirst_eq_ok {α : Type} {accounts rest : List α} {a : α} :
    splitFirst accounts = .ok (a, rest) ↔ accounts = a :: rest := by
  cases accounts <;> simp [splitFirst, fail]

/-- The first account, if there is to be one. -/
def splitFirstIf {α : Type} (wanted : Bool) (accounts : List α) :
    Read (Option α × List α) :=
  if wanted then do
    let (a, rest) ← splitFirst accounts
    pure (some a, rest)
  else
    pure (none, accounts)

/-- Name the accounts. -/
def splitAccounts {α : Type} (accounts : List α) (dynamicIntermediates : ℕ) :
    Read (RouteAccounts α) := do
  let (user, rest) ← splitFirst accounts
  let (config, rest) ← splitFirst rest
  let (feeDestination, rest) ← splitFirst rest
  let (feeSource, rest) ← splitFirst rest
  let (userOutput, rest) ← splitFirst rest
  let (feeProgram, remaining) ← splitFirst rest
  let (intermediate, remaining) ← splitFirstIf (dynamicIntermediates ≠ 0) remaining
  let (secondIntermediate, remaining) ← splitFirstIf (dynamicIntermediates = 2) remaining
  pure {
    user := user
    config := config
    feeDestination := feeDestination
    feeSource := feeSource
    userOutput := userOutput
    feeProgram := feeProgram
    intermediate := intermediate
    secondIntermediate := secondIntermediate
    remaining := remaining }

/-! ## Configuration -/

/-- **The configuration a route trusts.** The account must be owned by
this program, and must be the address that the bump stored in it
derives; no bump is searched for. -/
def checkConfig [Pda] (l : Ledger) (programId : Address) (config : AccountView) :
    Read RouterConfig := do
  rejectIf (config.owner l ≠ programId) .invalidConfig
  let cfg ← RouterConfig.read l config
  let expectedConfig ← okOrReject (Pda.create [configSeed, [cfg.bump]] programId)
    .invalidConfig
  rejectIf (config.address ≠ expectedConfig) .invalidConfig
  rejectIf (cfg.paused ≠ 0) .paused
  pure cfg

/-! ## Output -/

/-- Check the output account, and say whether it is native SOL. -/
def validateOutput (l : Ledger) (user output : AccountView) (expectedMint : Pubkey)
    (dynamic : Bool) : Read Bool :=
  if expectedMint = systemProgramId then do
    -- Dynamic routes settle only in tokens; native SOL must belong to the signer.
    rejectIf (dynamic ∨ output.address ≠ user.address) .invalidOutputAccount
    pure true
  else do
    rejectIf (!isTokenProgram (output.owner l)) .invalidOutputAccount
    let mint ← tokenMint l output
    rejectIf (mint ≠ expectedMint) .invalidOutputMint
    let foreign ← allOf [.ok dynamic, (· ≠ user.address) <$> tokenOwner l output]
    rejectIf foreign .invalidOutputAccount
    pure false

/-- The balance of the output account. -/
def outputBalance (l : Ledger) (output : AccountView) (nativeSol : Bool) : Read UInt64 :=
  if nativeSol then pure (output.lamports l) else tokenAmount l output

/-! ## Fee -/

/-- The balance of `fee_source` before the fee, once the account is known
to be the user's. -/
def feeSourceBefore (l : Ledger) (feeAsset : UInt8) (user feeSource : AccountView) :
    Read UInt64 :=
  if feeAsset = 0 then do
    rejectIf (feeSource.address ≠ user.address) .invalidFeeAsset
    pure (feeSource.lamports l)
  else if feeAsset = 1 then do
    rejectIf (!isTokenProgram (feeSource.owner l)) .invalidFeeAsset
    let owner ← tokenOwner l feeSource
    rejectIf (owner ≠ user.address) .invalidFeeAsset
    tokenAmount l feeSource
  else
    reject .invalidFeeAsset

/-- The balance of `fee_source`, in the asset the fee is paid in. -/
def feeSourceBalance (l : Ledger) (feeAsset : UInt8) (feeSource : AccountView) :
    Read UInt64 :=
  if feeAsset = 0 then pure (feeSource.lamports l)
  else if feeAsset = 1 then tokenAmount l feeSource
  else reject .invalidFeeAsset

/-- The transfer of a fee in SOL. -/
def solFeeTransfer (cfg : RouterConfig) (fee : UInt64) (a : RouteAccounts AccountView) :
    Read CpiCall := do
  rejectIf (a.feeProgram.address ≠ systemProgramId) .invalidProgramId
  rejectIf (a.feeDestination.address ≠ cfg.feeRecipient) .invalidFeeAsset
  rejectIf (a.feeSource.address ≠ a.user.address) .invalidFeeAsset
  pure (systemTransfer a.feeSource a.feeDestination fee)

/-- `TransferChecked` through the Token-2022 program, whose extensions may
require the mint. -/
def checkedTokenTransfer (l : Ledger) (fee : UInt64) (mint : AccountView)
    (a : RouteAccounts AccountView) : Read CpiCall := do
  rejectIf (mint.owner l ≠ a.feeProgram.address) .invalidFeeAsset
  let uninitialized ← anyOf [.ok ((mint.data l).length < 82),
    indexIs (mint.data l) 45 (· ≠ 1)]
  rejectIf uninitialized .invalidFeeAsset
  let decimals ← index (mint.data l) 44
  pure {
    programId := a.feeProgram.address
    metas := [⟨a.feeSource.address, false, true⟩, ⟨mint.address, false, false⟩,
      ⟨a.feeDestination.address, false, true⟩, ⟨a.user.address, true, false⟩]
    data := 12 :: (ofUInt64 fee ++ [decimals]) }

/-- The account of the fee's mint among the remaining accounts, where the
fee is paid through Token-2022. -/
def feeMintAccount (mint : Address) (a : RouteAccounts AccountView) : Option AccountView :=
  (a.remaining.find? (·.address = mint)).filter
    (fun _ => a.feeProgram.address = token2022ProgramId)

/-- The transfer of a fee in tokens. -/
def tokenFeeTransfer (l : Ledger) (cfg : RouterConfig) (fee : UInt64)
    (a : RouteAccounts AccountView) : Read CpiCall := do
  rejectIf (a.feeProgram.address ≠ tokenProgramId
    ∧ a.feeProgram.address ≠ token2022ProgramId) .invalidProgramId
  rejectIf (a.feeProgram.address ≠ a.feeSource.owner l) .invalidProgramId
  rejectIf (!isTokenProgram (a.feeDestination.owner l)) .invalidFeeAsset
  rejectIf (a.feeDestination.owner l ≠ a.feeSource.owner l) .invalidFeeAsset
  let recipient ← tokenOwner l a.feeDestination
  rejectIf (recipient ≠ cfg.feeRecipient) .invalidFeeAsset
  let destinationMint ← tokenMint l a.feeDestination
  let sourceMint ← tokenMint l a.feeSource
  rejectIf (destinationMint ≠ sourceMint) .invalidFeeAsset
  let mintAddress ← tokenMint l a.feeSource
  match feeMintAccount mintAddress a with
  | some mint => checkedTokenTransfer l fee mint a
  | none => pure (tokenTransfer a.feeSource a.feeDestination a.user fee a.feeProgram.address)

/-- The transfer of the fee. -/
def feeTransfer (l : Ledger) (cfg : RouterConfig) (feeAsset : UInt8) (fee : UInt64)
    (a : RouteAccounts AccountView) : Read CpiCall :=
  if feeAsset = 0 then solFeeTransfer cfg fee a
  else if feeAsset = 1 then tokenFeeTransfer l cfg fee a
  else reject .invalidFeeAsset

/-- Take the fee, unless it is zero. -/
def chargeFee (rt : Runtime) (cfg : RouterConfig) (feeAsset : UInt8) (fee : UInt64)
    (a : RouteAccounts AccountView) : Exec Unit :=
  if fee > 0 then do
    let l ← currentLedger
    let call ← feeTransfer l cfg feeAsset fee a
    invoke rt call
  else
    pure ()

/-! ## Intermediates -/

/-- The balance of an intermediate account before the legs, once it is
known to be the user's, writable, and none of the accounts it must differ
from. -/
def intermediateSnapshot (l : Ledger) (a : RouteAccounts AccountView)
    (first : Option AccountView) : Option AccountView → Read UInt64
  | none => pure 0
  | some account => do
    let invalid ← anyOf [
      .ok (!account.isWritable),
      .ok (!isTokenProgram (account.owner l)),
      (· ≠ a.user.address) <$> tokenOwner l account,
      .ok (account.address = a.feeSource.address),
      .ok (account.address = a.userOutput.address),
      .ok (first.any (account.address = ·.address))]
    rejectIf invalid .invalidIntermediateAccount
    tokenAmount l account

/-- The snapshot of the first intermediate account. -/
def quoteBefore (l : Ledger) (a : RouteAccounts AccountView) : Read UInt64 :=
  intermediateSnapshot l a none a.intermediate

/-- The snapshot of the second, which must also differ from the first. -/
def secondIntermediateBefore (l : Ledger) (a : RouteAccounts AccountView) : Read UInt64 :=
  intermediateSnapshot l a a.intermediate a.secondIntermediate

/-! ## Legs -/

/-- **A leg as the parser hands it out.** -/
structure ParsedLeg (α : Type) where
  programId : Address
  numAccounts : ℕ
  data : List UInt8
  accounts : List α

/-- The two cursors of the parser: into the data, and into the remaining
accounts. -/
structure LegCursor where
  cursor : ℕ
  remainingOffset : ℕ
  deriving DecidableEq

/-- **Parse one leg.** -/
def parseLeg {α : Type} (data : List UInt8) (remaining : List α) (pos : LegCursor) :
    Read (ParsedLeg α × LegCursor) := do
  let cursor ← usizeAdd pos.cursor 32
  let programBytes ← okOrReject (range? data pos.cursor cursor) .invalidLeg
  let programId ← orPanic (Pubkey.ofBytes? programBytes)
  let numAccounts ← okOrReject data[cursor]? .invalidLeg
  let cursor ← usizeAdd cursor 1
  let dataLen ← readU16 data cursor
  let cursor ← usizeAdd cursor 2
  rejectIf (numAccounts.toNat = 0 ∨ numAccounts.toNat > maxLegAccounts) .invalidLeg
  let dataEnd ← usizeAdd cursor dataLen.toNat
  let legData ← okOrReject (range? data cursor dataEnd) .invalidLeg
  let stop ← okOrReject
    (if pos.remainingOffset + numAccounts.toNat < 2 ^ 64
      then some (pos.remainingOffset + numAccounts.toNat) else none) .arithmeticOverflow
  rejectIf (stop > remaining.length) .insufficientAccounts
  let legAccounts ← slice remaining pos.remainingOffset stop
  pure (⟨programId, numAccounts.toNat, legData, legAccounts⟩, ⟨dataEnd, stop⟩)

/-- **What stays fixed while the legs run.** -/
structure RouteFrame where
  header : RouteHeader
  dynamicIntermediates : ℕ
  accounts : RouteAccounts AccountView
  quoteBefore : UInt64
  secondIntermediateBefore : UInt64

namespace RouteFrame

def dynamic (f : RouteFrame) : Bool := f.dynamicIntermediates ≠ 0

def threeHop (f : RouteFrame) : Bool := f.dynamicIntermediates = 2

end RouteFrame

/-- The data of the middle leg of a three-hop route. -/
def middleLegData (l : Ledger) (f : RouteFrame) (leg : ParsedLeg AccountView)
    (quoteReceived : UInt64) : Read (List UInt8) := do
  let input ← okOrReject f.accounts.intermediate .invalidIntermediateAccount
  let output ← okOrReject f.accounts.secondIntermediate .invalidIntermediateAccount
  rejectIf (leg.programId = launchlabProgramId) .invalidDynamicLeg
  let layout ← dynamicSecondLeg leg.programId leg.data
  let nonzero ← not <$> sliceIs leg.data layout.amountOffset (layout.amountOffset + 8)
    (List.replicate 8 0)
  rejectIf nonzero .invalidDynamicLeg
  validateDynamicAccounts l layout leg.accounts f.accounts.user input output
  patchSecondLegAmount leg.data quoteReceived layout.amountOffset
    (List.replicate maxDynamicLegData 0)

/-- The data of the last leg of a dynamic route. -/
def lastLegData (l : Ledger) (f : RouteFrame) (leg : ParsedLeg AccountView)
    (quoteReceived : UInt64) : Read (List UInt8) := do
  let intermediate ← okOrReject
    (if f.threeHop then f.accounts.secondIntermediate else f.accounts.intermediate)
    .invalidIntermediateAccount
  let layout ← dynamicSecondLeg leg.programId leg.data
  let nonzero ← allOf [.ok f.threeHop,
    not <$> sliceIs leg.data layout.amountOffset (layout.amountOffset + 8)
      (List.replicate 8 0)]
  rejectIf nonzero .invalidDynamicLeg
  validateDynamicAccounts l layout leg.accounts f.accounts.user intermediate
    f.accounts.userOutput
  patchSecondLegAmount leg.data quoteReceived layout.amountOffset
    (List.replicate maxDynamicLegData 0)

/-- Whether a leg's accounts list an address as writable. -/
def writes (legAccounts : List AccountView) (account : AccountView) : Bool :=
  legAccounts.any (fun acc => acc.address = account.address && acc.isWritable)

/-- The first leg of a dynamic route must be able to credit the first
intermediate account, and not the second. -/
def checkFirstLeg (f : RouteFrame) (leg : ParsedLeg AccountView) : Read Unit := do
  let intermediate ← okOrReject f.accounts.intermediate .invalidIntermediateAccount
  rejectIf (!writes leg.accounts intermediate
    || (f.threeHop && f.accounts.secondIntermediate.any (writes leg.accounts)))
    .invalidIntermediateAccount

/-- Whether a leg is the last of a dynamic route: the index of the last leg is
computed only there. -/
def isLastLeg (f : RouteFrame) (legIndex : ℕ) : Read Bool :=
  if f.dynamic then do
    let last ← usizeSub f.header.numLegs 1
    pure (legIndex = last)
  else
    pure false

/-- The data a leg is called with. -/
def legInvokeData (l : Ledger) (f : RouteFrame) (legIndex : ℕ)
    (leg : ParsedLeg AccountView) (quoteReceived : UInt64) : Read (List UInt8) :=
  if f.threeHop ∧ legIndex = 1 then
    middleLegData l f leg quoteReceived
  else do
    let last ← isLastLeg f legIndex
    if last then
      lastLegData l f leg quoteReceived
    else if f.dynamic ∧ legIndex = 0 then do
      checkFirstLeg f leg
      pure leg.data
    else
      pure leg.data

/-- Write the accounts' metas into a buffer, from the given entry on. -/
def writeMetas : List AccountView → ℕ → List (Option AccountMeta) →
    Read (List (Option AccountMeta))
  | [], _, buf => .ok buf
  | acc :: accs, i, buf =>
    if i < buf.length then writeMetas accs (i + 1) (buf.set i (some acc.toMeta))
    else panicked

/-- **The metas of a leg's call**, read back from a buffer of which only
the entries written are initialized. -/
def buildMetas (legAccounts : List AccountView) (numAccounts : ℕ) :
    Read (List AccountMeta) := do
  let metas ← writeMetas legAccounts 0 (List.replicate maxLegAccounts none)
  let metas ← slice metas 0 numAccounts
  orPanic (metas.mapM id)

/-- What the next leg will spend, once a leg has run. -/
def quoteAfterLeg (l : Ledger) (f : RouteFrame) (legIndex : ℕ) (quoteReceived : UInt64) :
    Read UInt64 :=
  if f.dynamic ∧ legIndex = 0 then do
    let intermediate ← okOrReject f.accounts.intermediate .invalidIntermediateAccount
    let after ← tokenAmount l intermediate
    receivedQuote f.quoteBefore after f.header.intermediateMinOut
  else if f.threeHop ∧ legIndex = 1 then do
    let intermediate ← okOrReject f.accounts.secondIntermediate
      .invalidIntermediateAccount
    let after ← tokenAmount l intermediate
    receivedQuote f.secondIntermediateBefore after f.header.secondIntermediateMinOut
  else
    pure quoteReceived

/-- What the loop over the legs carries along. -/
structure LegLoop where
  pos : LegCursor
  quoteReceived : UInt64

/-- **One leg**: parse it, check it, call its program, and measure what it
brought. -/
def legStep (rt : Runtime) (data : List UInt8) (f : RouteFrame) (legIndex : ℕ)
    (s : LegLoop) : Exec LegLoop := do
  let parsed ← parseLeg data f.accounts.remaining s.pos
  let l ← currentLedger
  let invokeData ← legInvokeData l f legIndex parsed.1 s.quoteReceived
  let metas ← buildMetas parsed.1.accounts parsed.1.numAccounts
  invoke rt ⟨parsed.1.programId, metas, invokeData⟩
  let l ← currentLedger
  let quoteReceived ← quoteAfterLeg l f legIndex s.quoteReceived
  pure ⟨parsed.2, quoteReceived⟩

/-- The legs from an index on. -/
def runLegs (rt : Runtime) (data : List UInt8) (f : RouteFrame) :
    ℕ → ℕ → LegLoop → Exec LegLoop
  | 0, _, s => pure s
  | left + 1, legIndex, s => do
    let s ← legStep rt data f legIndex s
    runLegs rt data f left (legIndex + 1) s

/-! ## Settlement -/

/-- An intermediate account must end with the balance it started with. -/
def checkUnspent (l : Ledger) (before : UInt64) : Option AccountView → Read Unit
  | none => pure ()
  | some account => do
    let after ← tokenAmount l account
    rejectIf (after ≠ before) .intermediateNotSpent

/-- **What the route spent**: exactly the input amount, or, when the input
amount is a budget, at least the fee and at most the budget. -/
def validateSpend (before after amountIn fee : UInt64) (exactOut : Bool) : Read Unit := do
  let spent ← okOrReject (if after ≤ before then some (before - after) else none)
    .feeSourceMismatch
  rejectIf ((exactOut ∧ (spent > amountIn ∨ spent < fee)) ∨ (¬ exactOut ∧ spent ≠ amountIn))
    .feeSourceMismatch

/-- `after.saturating_sub(before)`. -/
def saturatingSub (after before : UInt64) : UInt64 :=
  if before ≤ after then after - before else 0

/-- The output must have grown by the minimum. -/
def checkReceived (before after minAmountOut : UInt64) : Read Unit :=
  rejectIf (saturatingSub after before < minAmountOut) .slippageExceeded

/-- **The route.** -/
def processInner [Pda] (rt : Runtime) (programId : Address)
    (accounts : List AccountView) (data : List UInt8) (dynamicIntermediates : ℕ) :
    Exec Unit := do
  let header ← readHeader data dynamicIntermediates
  checkHeader header dynamicIntermediates
  let a ← splitAccounts accounts dynamicIntermediates
  failIf (!a.user.isSigner) ProgramError.missingRequiredSignature
  let entry ← currentLedger
  let cfg ← checkConfig entry programId a.config
  let nativeSolOut ← validateOutput entry a.user a.userOutput header.expectedOutputMint
    (dynamicIntermediates ≠ 0)
  let fee ← checkedFee header.amountIn cfg.feeBps
  let sourceBefore ← feeSourceBefore entry header.feeAsset a.user a.feeSource
  chargeFee rt cfg header.feeAsset fee a
  let charged ← currentLedger
  let outputBefore ← outputBalance charged a.userOutput nativeSolOut
  let quote ← quoteBefore charged a
  let second ← secondIntermediateBefore charged a
  let final ← runLegs rt data ⟨header, dynamicIntermediates, a, quote, second⟩
    header.numLegs 0 ⟨⟨routeHeaderLen + 8 * dynamicIntermediates, 0⟩, 0⟩
  rejectIf (dynamicIntermediates ≠ 0 ∧ final.pos.cursor ≠ data.length)
    .invalidInstructionData
  let last ← currentLedger
  checkUnspent last quote a.intermediate
  checkUnspent last second a.secondIntermediate
  let sourceAfter ← feeSourceBalance last header.feeAsset a.feeSource
  validateSpend sourceBefore sourceAfter header.amountIn fee header.exactOut
  let outputAfter ← outputBalance last a.userOutput nativeSolOut
  checkReceived outputBefore outputAfter header.minAmountOut

end Program
