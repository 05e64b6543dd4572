import SolTradeRouter.Legs

/-!
# What a leg moves

A leg takes an amount out of one of the user's accounts and brings an
amount to another. Which accounts these are, and where in the data the two
amounts stand, depends on the instruction the leg is. `LegFormat` lists the
instructions the SDK builds, with the positions of both; nine of them are
the swaps of `SwapKind`, and their positions are those of its table.

Every builder is described by one lemma. A swap with an exact input is an
`ExactInput`: besides the accounts and the amounts, it says that the mints
and the token programs among the leg's accounts are those of the two sides.
What the other builders yield is a `Swaps`, and so is every `ExactInput`.
-/

namespace Sdk

open Outcome Bytes

/-! ## The sides of a swap -/

/-- **A user's side of a swap**: the account, its mint and its token
program. -/
structure Side where
  account : Pubkey
  mint : Pubkey
  tokenProgram : Pubkey

/-- The user's associated account for a mint. -/
def Side.ofAta [Pda] (user mint tokenProgram : Pubkey) : Side :=
  ⟨ata user mint tokenProgram, mint, tokenProgram⟩

/-- **The two mints of a pool**, with their token programs. -/
structure PoolPair where
  first : Pubkey
  firstProgram : Pubkey
  second : Pubkey
  secondProgram : Pubkey

namespace PoolPair

/-- The token program of the side that takes the input. -/
def inputProgram (pair : PoolPair) (input : Pubkey) : Pubkey :=
  if input = pair.first then pair.firstProgram else pair.secondProgram

/-- The mint of the other side. -/
def outputMint (pair : PoolPair) (input : Pubkey) : Pubkey :=
  if input = pair.first then pair.second else pair.first

/-- The token program of the other side. -/
def outputProgram (pair : PoolPair) (input : Pubkey) : Pubkey :=
  if input = pair.first then pair.secondProgram else pair.firstProgram

/-- The side of a user that pays. -/
def input [Pda] (pair : PoolPair) (user input : Pubkey) : Side :=
  .ofAta user input (pair.inputProgram input)

/-- The side of a user that is paid. -/
def output [Pda] (pair : PoolPair) (user input : Pubkey) : Side :=
  .ofAta user (pair.outputMint input) (pair.outputProgram input)

end PoolPair

/-- The two sides of a CPMM pool. -/
def CpmmPool.pair (pool : CpmmPool) : PoolPair :=
  ⟨pool.baseMint, pool.baseTokenProgram, pool.quoteMint, pool.quoteTokenProgram⟩

/-- Of an AMM V4 pool. -/
def RaydiumAmmV4Pool.pair (pool : RaydiumAmmV4Pool) : PoolPair :=
  ⟨pool.coinMint, pool.legTokenProgram, pool.pcMint, pool.legTokenProgram⟩

/-- Of a DAMM V2 pool. -/
def MeteoraDammV2Pool.pair (pool : MeteoraDammV2Pool) : PoolPair :=
  ⟨pool.tokenAMint, pool.tokenAProgram, pool.tokenBMint, pool.tokenBProgram⟩

/-- Of a CLMM pool. -/
def RaydiumClmmPool.pair (pool : RaydiumClmmPool) : PoolPair :=
  ⟨pool.token0Mint, pool.token0Program, pool.token1Mint, pool.token1Program⟩

/-- Of a Whirlpool. -/
def WhirlpoolPool.pair (pool : WhirlpoolPool) : PoolPair :=
  ⟨pool.mintA, pool.tokenProgramA, pool.mintB, pool.tokenProgramB⟩

/-- And of a DLMM pool. -/
def MeteoraDlmmPool.pair (pool : MeteoraDlmmPool) : PoolPair :=
  ⟨pool.tokenXMint, pool.tokenXProgram, pool.tokenYMint, pool.tokenYProgram⟩

/-- A DLMM leg takes the token program of both sides from the mint alone,
and the first of two equal mints. -/
def MeteoraDlmmPool.output [Pda] (pool : MeteoraDlmmPool) (user input : Pubkey) : Side where
  account := ata user (pool.pair.outputMint input)
    (pool.pair.inputProgram (pool.pair.outputMint input))
  mint := pool.pair.outputMint input
  tokenProgram := pool.pair.outputProgram input

/-! ## Formats -/

/-- **The instructions the SDK builds legs of.** -/
inductive LegFormat where
  | swap (kind : SwapKind)
  | launchlabSell
  | cpmmBaseOut
  | pumpswapExactOut
  | ammV4BaseOut
  | dammExactOut
  | pumpfunBuy
  | pumpfunSell
  | pumpfunBuyV2
  | pumpfunSellV2
  deriving DecidableEq, Repr

/-- **Where the user's accounts and the two amounts of a leg stand.** With
an exact output, the amount sent is the most the leg may take. -/
structure UserLayout where
  source : ℕ
  destination : ℕ
  signer : ℕ
  sentAt : ℕ
  receivedAt : ℕ
  exactOut : Bool
  deriving DecidableEq, Repr

namespace LegFormat

/-- The program and the data that mark a leg as an instruction. -/
def Marks : LegFormat → Pubkey → List UInt8 → Prop
  | swap kind, program, data => kind.Accepts program data
  | launchlabSell, program, data =>
    program = launchlabProgram ∧ range? data 0 8 = some sellExactInLaunchlab
  | cpmmBaseOut, program, data =>
    program = raydiumCpmmProgram ∧ range? data 0 8 = some cpmmSwapBaseOut
  | pumpswapExactOut, program, data =>
    program = pumpswapProgram ∧ range? data 0 8 = some pumpswapBuy
  | ammV4BaseOut, program, data =>
    program = raydiumAmmV4Program ∧ data[0]? = some raydiumAmmV4SwapBaseOutV2
  | dammExactOut, program, data =>
    program = meteoraDammV2Program ∧ range? data 0 8 = some meteoraDammV2Swap2
      ∧ data[24]? = some meteoraDammV2ExactOut
  | pumpfunBuy, program, data =>
    program = pumpfunProgram ∧ range? data 0 8 = some pumpfunBuyExactSolIn
  | pumpfunSell, program, data =>
    program = pumpfunProgram ∧ range? data 0 8 = some Sdk.pumpfunSell
  | pumpfunBuyV2, program, data =>
    program = pumpfunProgram ∧ range? data 0 8 = some pumpfunBuyExactQuoteInV2
  | pumpfunSellV2, program, data =>
    program = pumpfunProgram ∧ range? data 0 8 = some Sdk.pumpfunSellV2

/-- The positions of an instruction. A PumpFun V1 swap pays or is paid in
lamports of the user. -/
def layout : LegFormat → List UInt8 → UserLayout
  | swap kind, data =>
    let s := kind.layout data
    ⟨s.input, s.output, s.signer, s.amountOffset, s.amountOffset + 8, false⟩
  | launchlabSell, _ => ⟨5, 6, 0, 8, 16, false⟩
  | cpmmBaseOut, _ => ⟨4, 5, 0, 8, 16, true⟩
  | pumpswapExactOut, _ => ⟨6, 5, 1, 16, 8, true⟩
  | ammV4BaseOut, _ => ⟨5, 6, 7, 1, 9, true⟩
  | dammExactOut, _ => ⟨2, 3, 8, 16, 8, true⟩
  | pumpfunBuy, _ => ⟨6, 5, 6, 8, 16, false⟩
  | pumpfunSell, _ => ⟨5, 6, 6, 8, 16, false⟩
  | pumpfunBuyV2, _ => ⟨15, 14, 13, 8, 16, false⟩
  | pumpfunSellV2, _ => ⟨14, 15, 13, 8, 16, false⟩

end LegFormat

/-- **What a leg moves**: up to `sent` out of `source`, for `received` into
`destination`. -/
structure Swaps (leg : Leg) (format : LegFormat) (user source destination : Pubkey)
    (sent received : UInt64) : Prop where
  marks : format.Marks leg.programId leg.data
  signs : Lists leg.accounts (format.layout leg.data).signer user AccountMeta.isSigner
  spends : Lists leg.accounts (format.layout leg.data).source source AccountMeta.isWritable
  receives : Lists leg.accounts (format.layout leg.data).destination destination
    AccountMeta.isWritable
  sent_eq : range? leg.data (format.layout leg.data).sentAt
    ((format.layout leg.data).sentAt + 8) = some (ofUInt64 sent)
  received_eq : range? leg.data (format.layout leg.data).receivedAt
    ((format.layout leg.data).receivedAt + 8) = some (ofUInt64 received)

/-- **A swap with an exact input**, on two given sides. -/
structure ExactInput (leg : Leg) (kind : SwapKind) (user : Pubkey) (input output : Side)
    (amountIn minOut : UInt64) : Prop where
  accepts : kind.Accepts leg.programId leg.data
  count : kind.minimumAccounts leg.data ≤ leg.accounts.length
  budget : leg.accounts.length ≤ 64
  signs : Lists leg.accounts (kind.layout leg.data).signer user AccountMeta.isSigner
  spends : Lists leg.accounts (kind.layout leg.data).input input.account
    AccountMeta.isWritable
  receives : Lists leg.accounts (kind.layout leg.data).output output.account
    AccountMeta.isWritable
  agrees : (kind.layout leg.data).Agrees (leg.accounts.map AccountMeta.pubkey) input.mint
    input.tokenProgram output.mint output.tokenProgram
  amount : range? leg.data (kind.layout leg.data).amountOffset
    ((kind.layout leg.data).amountOffset + 8) = some (ofUInt64 amountIn)
  minimum : range? leg.data ((kind.layout leg.data).amountOffset + 8)
    ((kind.layout leg.data).amountOffset + 16) = some (ofUInt64 minOut)

/-- A swap with an exact input moves its two amounts. -/
theorem ExactInput.swaps {leg : Leg} {kind : SwapKind} {user : Pubkey}
    {input output : Side} {amountIn minOut : UInt64}
    (h : ExactInput leg kind user input output amountIn minOut) :
    Swaps leg (.swap kind) user input.account output.account amountIn minOut where
  marks := h.accepts
  signs := h.signs
  spends := h.spends
  receives := h.receives
  sent_eq := h.amount
  received_eq := h.minimum

/-! ## Swaps with an exact input -/

namespace PoolPair

variable (pair : PoolPair) {input : Pubkey} {forward : Bool}

/-- A builder's choice by direction is the pair's choice by mint. -/
theorem ite_inputProgram (h : forward = decide (input = pair.first)) :
    (if forward = true then pair.firstProgram else pair.secondProgram)
      = pair.inputProgram input := by
  subst h
  simp only [decide_eq_true_eq, inputProgram]

/-- Forward, the output is the second mint. -/
theorem ite_outputMint (h : forward = decide (input = pair.first)) :
    (if forward = true then pair.second else pair.first) = pair.outputMint input := by
  subst h
  simp only [decide_eq_true_eq, outputMint]

/-- And its program the second one. -/
theorem ite_outputProgram (h : forward = decide (input = pair.first)) :
    (if forward = true then pair.secondProgram else pair.firstProgram)
      = pair.outputProgram input := by
  subst h
  simp only [decide_eq_true_eq, outputProgram]

/-- **A pool listed in its own order agrees with either direction.** -/
theorem agrees {s : SwapLayout} {keys : List Pubkey} (hinput : input = pair.first
      ∨ input = pair.second) (hpaired : s.paired = true)
    (h : s.Forward keys pair.first pair.firstProgram pair.second pair.secondProgram) :
    s.Agrees keys input (pair.inputProgram input) (pair.outputMint input)
      (pair.outputProgram input) := by
  unfold inputProgram outputMint outputProgram
  by_cases hfirst : input = pair.first
  · rw [if_pos hfirst, if_pos hfirst, if_pos hfirst, hfirst]
    exact .inl h
  · rw [if_neg hfirst, if_neg hfirst, if_neg hfirst, hinput.resolve_left hfirst]
    exact .inr ⟨hpaired, h⟩

end PoolPair

/-- The mint that was given is on one side of the pool. -/
theorem inputIsFirst_eq_ok {first second input : Pubkey} {text : String} {forward : Bool}
    (h : inputIsFirst first second input text = .ok forward) :
    forward = decide (input = first) ∧ (input = first ∨ input = second) := by
  unfold inputIsFirst at h
  split at h
  · rename_i hfirst
    cases h
    exact ⟨(decide_eq_true hfirst).symm, .inl hfirst⟩
  · rename_i hfirst
    split at h
    · rename_i hsecond
      cases h
      exact ⟨(decide_eq_false hfirst).symm, .inr hsecond⟩
    · cases h

/-- A leg within the budget has accounts, and at most sixty-four. -/
theorem ensureLegAccountBudget_eq_ok {n : ℕ} {u : Unit}
    (h : ensureLegAccountBudget n = .ok u) : 0 < n ∧ n ≤ 64 := by
  have hnot := failIf_eq_ok.mp h
  simp only [maxLegAccounts, not_or, gt_iff_lt, Nat.not_lt] at hnot
  exact ⟨Nat.pos_of_ne_zero hnot.1, hnot.2⟩

/-- LaunchLab's buy. -/
theorem launchlabBuyLeg_exactInput (user : Pubkey) (pool : LaunchLabPool)
    (amountIn minOut : UInt64) (userBaseAta userQuoteAta : Pubkey) :
    ExactInput (launchlabBuyLeg user pool amountIn minOut userBaseAta userQuoteAta)
      .launchlabBuy user ⟨userQuoteAta, pool.quoteMint, pool.quoteTokenProgram⟩
      ⟨userBaseAta, pool.baseMint, pool.baseTokenProgram⟩ amountIn minOut where
  accepts := ⟨rfl, rfl, rfl, rfl⟩
  count := show 13 ≤ 18 by decide
  budget := show 18 ≤ 64 by decide
  signs := ⟨_, rfl, rfl, rfl⟩
  spends := ⟨_, rfl, rfl, rfl⟩
  receives := ⟨_, rfl, rfl, rfl⟩
  agrees := .inl ⟨fun _ h => by cases h; rfl, fun _ h => by cases h; rfl,
    fun _ h => by cases h; rfl, fun _ h => by cases h; rfl⟩
  amount := rfl
  minimum := rfl

/-- The sides of a CPMM swap are those of the pool's pair. -/
theorem cpmmSides_eq_ok {pool : CpmmPool} {inputMint outputMint inputVault outputVault
    inputTp outputTp : Pubkey}
    (h : cpmmSides pool inputMint outputMint
      = .ok (inputVault, outputVault, inputTp, outputTp)) :
    outputMint = pool.pair.outputMint inputMint
      ∧ inputTp = pool.pair.inputProgram inputMint
      ∧ outputTp = pool.pair.outputProgram inputMint
      ∧ (inputMint = pool.baseMint ∨ inputMint = pool.quoteMint) := by
  unfold cpmmSides at h
  split at h
  · rename_i hforward
    obtain ⟨rfl, rfl⟩ := hforward
    cases h
    exact ⟨(if_pos rfl).symm, (if_pos rfl).symm, (if_pos rfl).symm, .inl rfl⟩
  · rename_i hforward
    split at h
    · rename_i hbackward
      obtain ⟨rfl, rfl⟩ := hbackward
      -- Equal mints were taken forward above.
      have hne : pool.quoteMint ≠ pool.baseMint := fun heq => hforward ⟨heq, heq.symm⟩
      cases h
      exact ⟨(if_neg hne).symm, (if_neg hne).symm, (if_neg hne).symm, .inr rfl⟩
    · cases h

/-- CPMM's swap, from either side. -/
theorem cpmmSwapLeg_exactInput {user : Pubkey} {pool : CpmmPool} {amountIn minOut : UInt64}
    {inputMint outputMint userInputAta userOutputAta : Pubkey} {leg : Leg}
    (h : cpmmSwapLeg user pool amountIn minOut inputMint outputMint userInputAta
      userOutputAta = .ok leg) :
    ExactInput leg .cpmm user
      ⟨userInputAta, inputMint, pool.pair.inputProgram inputMint⟩
      ⟨userOutputAta, outputMint, pool.pair.outputProgram inputMint⟩ amountIn minOut := by
  obtain ⟨_, -, h⟩ := bind_eq_ok.mp h
  obtain ⟨⟨inputVault, outputVault, inputTp, outputTp⟩, hsides, h⟩ := bind_eq_ok.mp h
  obtain ⟨-, rfl, rfl, -⟩ := cpmmSides_eq_ok hsides
  cases h
  exact {
    accepts := ⟨rfl, rfl, rfl⟩
    count := show 12 ≤ 13 by decide
    budget := show 13 ≤ 64 by decide
    signs := ⟨_, rfl, rfl, rfl⟩
    spends := ⟨_, rfl, rfl, rfl⟩
    receives := ⟨_, rfl, rfl, rfl⟩
    agrees := .inl ⟨fun _ h => by cases h; rfl, fun _ h => by cases h; rfl,
      fun _ h => by cases h; rfl, fun _ h => by cases h; rfl⟩
    amount := rfl
    minimum := rfl }

section PumpSwap

variable [Pda] [Upstream] {user : Pubkey} {pool : PumpSwapPool} {leg : Leg}

/-- **The accounts of a PumpSwap leg**: the fixed ones, in order, and then
those that depend on the coin. -/
theorem pumpswapAccounts_eq_ok {isBuy : Bool} {accounts : List AccountMeta}
    (h : pumpswapAccounts user pool isBuy = .ok accounts) :
    ∃ rest, accounts = [
        .new pool.pool false,
        .new user true,
        pumpswapGlobalMeta,
        .newReadonly pool.baseMint false,
        .newReadonly pool.quoteMint false,
        .new (ata user pool.baseMint pool.baseTokenProgram) false,
        .new (ata user pool.quoteMint pool.quoteTokenProgram) false,
        .new pool.poolBaseTokenAccount false,
        .new pool.poolQuoteTokenAccount false,
        .newReadonly pool.protocolFeeRecipient false,
        .new (ata pool.protocolFeeRecipient pool.quoteMint pool.quoteTokenProgram) false,
        .newReadonly pool.baseTokenProgram false,
        .newReadonly pool.quoteTokenProgram false] ++ rest
      ∧ accounts.length ≤ 64 := by
  obtain ⟨_, -, h⟩ := bind_eq_ok.mp h
  obtain ⟨_, -, h⟩ := bind_eq_ok.mp h
  obtain ⟨⟨accumulator, _⟩, -, h⟩ := bind_eq_ok.mp h
  obtain ⟨poolV2Metas, -, h⟩ := bind_eq_ok.mp h
  obtain ⟨_, hbudget, h⟩ := bind_eq_ok.mp h
  cases h
  exact ⟨_, rfl, (ensureLegAccountBudget_eq_ok hbudget).2⟩

/-- PumpSwap's buy. -/
theorem pumpswapBuyLeg_exactInput {quoteIn minBaseOut : UInt64}
    (h : pumpswapBuyLeg user pool quoteIn minBaseOut = .ok leg) :
    ExactInput leg .pumpswapBuy user
      (.ofAta user pool.quoteMint pool.quoteTokenProgram)
      (.ofAta user pool.baseMint pool.baseTokenProgram) quoteIn minBaseOut := by
  obtain ⟨accounts, haccounts, h⟩ := bind_eq_ok.mp h
  obtain ⟨rest, rfl, hbudget⟩ := pumpswapAccounts_eq_ok haccounts
  cases h
  exact {
    accepts := ⟨rfl, rfl, rfl, rfl⟩
    count := Nat.le_add_left 13 _
    budget := hbudget
    signs := ⟨_, rfl, rfl, rfl⟩
    spends := ⟨_, rfl, rfl, rfl⟩
    receives := ⟨_, rfl, rfl, rfl⟩
    agrees := .inl ⟨fun _ h => by cases h; rfl, fun _ h => by cases h; rfl,
      fun _ h => by cases h; rfl, fun _ h => by cases h; rfl⟩
    amount := rfl
    minimum := rfl }

/-- And its sale. -/
theorem pumpswapSellLeg_exactInput {baseIn minQuoteOut : UInt64}
    (h : pumpswapSellLeg user pool baseIn minQuoteOut = .ok leg) :
    ExactInput leg .pumpswapSell user
      (.ofAta user pool.baseMint pool.baseTokenProgram)
      (.ofAta user pool.quoteMint pool.quoteTokenProgram) baseIn minQuoteOut := by
  obtain ⟨accounts, haccounts, h⟩ := bind_eq_ok.mp h
  obtain ⟨rest, rfl, hbudget⟩ := pumpswapAccounts_eq_ok haccounts
  cases h
  exact {
    accepts := ⟨rfl, rfl, rfl⟩
    count := Nat.le_add_left 13 _
    budget := hbudget
    signs := ⟨_, rfl, rfl, rfl⟩
    spends := ⟨_, rfl, rfl, rfl⟩
    receives := ⟨_, rfl, rfl, rfl⟩
    agrees := .inl ⟨fun _ h => by cases h; rfl, fun _ h => by cases h; rfl,
      fun _ h => by cases h; rfl, fun _ h => by cases h; rfl⟩
    amount := rfl
    minimum := rfl }

end PumpSwap

section Pairs

variable [Pda] {user : Pubkey} {amountIn minOut : UInt64} {inputMint : Pubkey} {leg : Leg}

/-- AMM V4's swap. -/
theorem raydiumAmmV4SwapLeg_exactInput {pool : RaydiumAmmV4Pool}
    (h : raydiumAmmV4SwapLeg user pool amountIn minOut inputMint = .ok leg) :
    ExactInput leg .ammV4 user (pool.pair.input user inputMint)
      (pool.pair.output user inputMint) amountIn minOut := by
  obtain ⟨_, -, h⟩ := bind_eq_ok.mp h
  obtain ⟨forward, hforward, h⟩ := bind_eq_ok.mp h
  obtain ⟨_, -, h⟩ := bind_eq_ok.mp h
  obtain ⟨hdirection, -⟩ := inputIsFirst_eq_ok hforward
  -- Both sides have the pool's one token program.
  have hinput : pool.pair.inputProgram inputMint = pool.legTokenProgram := ite_self _
  have houtput : pool.pair.outputProgram inputMint = pool.legTokenProgram := ite_self _
  have hmint : (if forward = true then pool.pcMint else pool.coinMint)
      = pool.pair.outputMint inputMint := pool.pair.ite_outputMint hdirection
  simp only [hmint] at h
  cases h
  rw [PoolPair.input, PoolPair.output, hinput, houtput]
  exact {
    accepts := ⟨rfl, rfl, rfl⟩
    count := show 8 ≤ 8 by decide
    budget := show 8 ≤ 64 by decide
    signs := ⟨_, rfl, rfl, rfl⟩
    spends := ⟨_, rfl, rfl, rfl⟩
    receives := ⟨_, rfl, rfl, rfl⟩
    agrees := .inl ⟨fun _ h => (by cases h), fun _ h => (by cases h),
      fun _ h => by cases h; rfl, fun _ h => by cases h; rfl⟩
    amount := rfl
    minimum := rfl }

/-- DAMM V2's, in the mode that fixes the input. -/
theorem meteoraDammV2SwapLeg_exactInput {pool : MeteoraDammV2Pool}
    (hmode : pool.swapMode = meteoraDammV2ExactIn)
    (h : meteoraDammV2SwapLeg user pool amountIn minOut inputMint = .ok leg) :
    ExactInput leg .damm user (pool.pair.input user inputMint)
      (pool.pair.output user inputMint) amountIn minOut := by
  obtain ⟨_, -, h⟩ := bind_eq_ok.mp h
  obtain ⟨_, -, h⟩ := bind_eq_ok.mp h
  obtain ⟨_, -, h⟩ := bind_eq_ok.mp h
  obtain ⟨aToB, haToB, h⟩ := bind_eq_ok.mp h
  obtain ⟨hdirection, hmint⟩ := inputIsFirst_eq_ok haToB
  have hinputProgram : (if aToB = true then pool.tokenAProgram else pool.tokenBProgram)
      = pool.pair.inputProgram inputMint := pool.pair.ite_inputProgram hdirection
  have houtputMint : (if aToB = true then pool.tokenBMint else pool.tokenAMint)
      = pool.pair.outputMint inputMint := pool.pair.ite_outputMint hdirection
  have houtputProgram : (if aToB = true then pool.tokenBProgram else pool.tokenAProgram)
      = pool.pair.outputProgram inputMint := pool.pair.ite_outputProgram hdirection
  simp only [hinputProgram, houtputMint, houtputProgram, hmode] at h
  generalize hsysvar : (if pool.includeRateLimiterSysvar = true
    then [sysvarInstructionsMeta] else []) = sysvar at h
  have hsize : sysvar.length ≤ 1 := by
    subst hsysvar
    split <;> decide
  cases h
  exact {
    accepts := ⟨rfl, rfl, rfl, rfl⟩
    count := show 11 ≤ sysvar.length + 14 by omega
    budget := show sysvar.length + 14 ≤ 64 by omega
    signs := ⟨_, rfl, rfl, rfl⟩
    spends := ⟨_, rfl, rfl, rfl⟩
    receives := ⟨_, rfl, rfl, rfl⟩
    agrees := pool.pair.agrees hmint rfl ⟨fun _ h => by cases h; rfl,
      fun _ h => by cases h; rfl, fun _ h => by cases h; rfl, fun _ h => by cases h; rfl⟩
    amount := rfl
    minimum := rfl }

/-- CLMM's, whose data also have a price limit and a flag. -/
theorem raydiumClmmSwapLeg_exactInput {pool : RaydiumClmmPool}
    (h : raydiumClmmSwapLeg user pool amountIn minOut inputMint = .ok leg) :
    ExactInput leg .clmm user (pool.pair.input user inputMint)
      (pool.pair.output user inputMint) amountIn minOut := by
  obtain ⟨_, -, h⟩ := bind_eq_ok.mp h
  obtain ⟨_, -, h⟩ := bind_eq_ok.mp h
  obtain ⟨_, -, h⟩ := bind_eq_ok.mp h
  obtain ⟨_, -, h⟩ := bind_eq_ok.mp h
  obtain ⟨zeroForOne, hzeroForOne, h⟩ := bind_eq_ok.mp h
  obtain ⟨_, hbudget, h⟩ := bind_eq_ok.mp h
  obtain ⟨hdirection, -⟩ := inputIsFirst_eq_ok hzeroForOne
  have hinputProgram : (if zeroForOne = true then pool.token0Program else pool.token1Program)
      = pool.pair.inputProgram inputMint := pool.pair.ite_inputProgram hdirection
  have houtputMint : (if zeroForOne = true then pool.token1Mint else pool.token0Mint)
      = pool.pair.outputMint inputMint := pool.pair.ite_outputMint hdirection
  have houtputProgram : (if zeroForOne = true then pool.token1Program
      else pool.token0Program) = pool.pair.outputProgram inputMint :=
    pool.pair.ite_outputProgram hdirection
  have hle := (ensureLegAccountBudget_eq_ok hbudget).2
  simp only [hinputProgram, houtputMint, houtputProgram] at h hle
  cases h
  exact {
    accepts := ⟨rfl, rfl, rfl, rfl⟩
    count := by
      simp only [SwapKind.minimumAccounts, List.length_append, List.length_cons]
      omega
    budget := hle
    signs := ⟨_, rfl, rfl, rfl⟩
    spends := ⟨_, rfl, rfl, rfl⟩
    receives := ⟨_, rfl, rfl, rfl⟩
    agrees := .inl ⟨fun _ h => by cases h; rfl, fun _ h => by cases h; rfl,
      fun _ h => (by cases h), fun _ h => (by cases h)⟩
    amount := rfl
    minimum := rfl }

/-- DLMM's, between the pool's two reserves. -/
theorem meteoraDlmmSwapLeg_exactInput [Upstream] {pool : MeteoraDlmmPool}
    (h : meteoraDlmmSwapLeg user pool amountIn minOut inputMint = .ok leg) :
    ExactInput leg .dlmm user (pool.pair.input user inputMint)
      (pool.output user inputMint) amountIn minOut := by
  obtain ⟨_, -, h⟩ := bind_eq_ok.mp h
  obtain ⟨_, -, h⟩ := bind_eq_ok.mp h
  obtain ⟨_, -, h⟩ := bind_eq_ok.mp h
  obtain ⟨_, -, h⟩ := bind_eq_ok.mp h
  obtain ⟨xToY, hxToY, h⟩ := bind_eq_ok.mp h
  obtain ⟨_, hbudget, h⟩ := bind_eq_ok.mp h
  obtain ⟨hdirection, hmint⟩ := inputIsFirst_eq_ok hxToY
  have houtputMint : (if xToY = true then pool.tokenYMint else pool.tokenXMint)
      = pool.pair.outputMint inputMint := pool.pair.ite_outputMint hdirection
  have hle := (ensureLegAccountBudget_eq_ok hbudget).2
  simp only [houtputMint] at h hle
  cases h
  exact {
    accepts := ⟨rfl, rfl, rfl, rfl⟩
    count := by
      simp only [SwapKind.minimumAccounts, List.length_append, List.length_cons]
      omega
    budget := hle
    signs := ⟨_, rfl, rfl, rfl⟩
    spends := ⟨_, rfl, rfl, rfl⟩
    receives := ⟨_, rfl, rfl, rfl⟩
    agrees := pool.pair.agrees hmint rfl ⟨fun _ h => by cases h; rfl,
      fun _ h => by cases h; rfl, fun _ h => by cases h; rfl, fun _ h => by cases h; rfl⟩
    amount := rfl
    minimum := rfl }

omit [Pda] in
/-- **The tail of a Whirlpool swap's data** is one of the two that are
recognized, and announces the supplemental tick arrays that are listed. -/
theorem whirlpoolTail_encode (amountIn minOut : UInt64) (sqrtLimit : ℕ) (direction : UInt8)
    {supplemental : List Pubkey} (h : supplemental.length ≤ 3) :
    let data := encodeU64Pair whirlpoolSwapV2 amountIn minOut ++ ofU128 sqrtLimit
      ++ [1, direction] ++ whirlpoolRemainingAccountsInfo supplemental
    SwapKind.WhirlpoolTail data
      ∧ SwapKind.minimumAccounts .whirlpool data = 15 + supplemental.length := by
  match supplemental, h with
  | [], _ => exact ⟨.inl ⟨rfl, rfl⟩, rfl⟩
  | [_], _ => exact ⟨.inr ⟨rfl, rfl, rfl⟩, rfl⟩
  | [_, _], _ => exact ⟨.inr ⟨rfl, rfl, rfl⟩, rfl⟩
  | [_, _, _], _ => exact ⟨.inr ⟨rfl, rfl, rfl⟩, rfl⟩

/-- Whirlpool's, which lists the two sides in the pool's order, whatever the
direction. -/
theorem whirlpoolSwapLeg_exactInput {pool : WhirlpoolPool}
    (h : whirlpoolSwapLeg user pool amountIn minOut inputMint = .ok leg) :
    ExactInput leg .whirlpool user (pool.pair.input user inputMint)
      (pool.pair.output user inputMint) amountIn minOut := by
  obtain ⟨_, -, h⟩ := bind_eq_ok.mp h
  obtain ⟨_, -, h⟩ := bind_eq_ok.mp h
  obtain ⟨_, hticks, h⟩ := bind_eq_ok.mp h
  obtain ⟨_, -, h⟩ := bind_eq_ok.mp h
  obtain ⟨aToB, haToB, h⟩ := bind_eq_ok.mp h
  obtain ⟨tick0, -, h⟩ := bind_eq_ok.mp h
  obtain ⟨tick1, -, h⟩ := bind_eq_ok.mp h
  obtain ⟨tick2, -, h⟩ := bind_eq_ok.mp h
  obtain ⟨_, hbudget, h⟩ := bind_eq_ok.mp h
  have hle := (ensureLegAccountBudget_eq_ok hbudget).2
  have hsupplemental : (pool.tickArrays.drop 3).length ≤ 3 := by
    have hsix : ¬ pool.tickArrays.length > 6 := failIf_eq_ok.mp hticks
    rw [List.length_drop]
    omega
  cases h
  -- The direction byte decides where the two sides of the user stand.
  obtain ⟨hdirection, hmint⟩ := inputIsFirst_eq_ok haToB
  cases aToB with
  | true =>
    have hfirst : inputMint = pool.mintA := of_decide_eq_true hdirection.symm
    obtain ⟨htail, hcount⟩ := whirlpoolTail_encode amountIn minOut whirlpoolMinSqrtPriceX64 1
      hsupplemental
    rw [PoolPair.input, PoolPair.output, ← pool.pair.ite_inputProgram hdirection,
      ← pool.pair.ite_outputMint hdirection, ← pool.pair.ite_outputProgram hdirection, hfirst]
    exact {
      accepts := ⟨rfl, htail, rfl, rfl, rfl⟩
      count := hcount.trans_le (by
        simp only [List.length_append, List.length_cons, List.length_map]
        omega)
      budget := hle
      signs := ⟨_, rfl, rfl, rfl⟩
      spends := ⟨_, rfl, rfl, rfl⟩
      receives := ⟨_, rfl, rfl, rfl⟩
      agrees := .inl ⟨fun _ h => by cases h; rfl, fun _ h => by cases h; rfl,
        fun _ h => by cases h; rfl, fun _ h => by cases h; rfl⟩
      amount := by
        rw [SwapKind.layout_whirlpool_amountOffset]
        rfl
      minimum := by
        rw [SwapKind.layout_whirlpool_amountOffset]
        rfl }
  | false =>
    have hsecond : inputMint = pool.mintB :=
      hmint.resolve_left (of_decide_eq_false hdirection.symm)
    obtain ⟨htail, hcount⟩ := whirlpoolTail_encode amountIn minOut whirlpoolMaxSqrtPriceX64 0
      hsupplemental
    rw [PoolPair.input, PoolPair.output, ← pool.pair.ite_inputProgram hdirection,
      ← pool.pair.ite_outputMint hdirection, ← pool.pair.ite_outputProgram hdirection, hsecond]
    exact {
      accepts := ⟨rfl, htail, rfl, rfl, rfl⟩
      count := hcount.trans_le (by
        simp only [List.length_append, List.length_cons, List.length_map]
        omega)
      budget := hle
      signs := ⟨_, rfl, rfl, rfl⟩
      spends := ⟨_, rfl, rfl, rfl⟩
      receives := ⟨_, rfl, rfl, rfl⟩
      agrees := .inl ⟨fun _ h => by cases h; rfl, fun _ h => by cases h; rfl,
        fun _ h => by cases h; rfl, fun _ h => by cases h; rfl⟩
      amount := by
        rw [SwapKind.layout_whirlpool_amountOffset]
        rfl
      minimum := by
        rw [SwapKind.layout_whirlpool_amountOffset]
        rfl }

end Pairs

/-! ## The other swaps -/

/-- LaunchLab's sale. -/
theorem launchlabSellLeg_swaps (user : Pubkey) (pool : LaunchLabPool)
    (amountIn minOut : UInt64) (userBaseAta userQuoteAta : Pubkey) :
    Swaps (launchlabSellLeg user pool amountIn minOut userBaseAta userQuoteAta)
      .launchlabSell user userBaseAta userQuoteAta amountIn minOut where
  marks := ⟨rfl, rfl⟩
  signs := ⟨_, rfl, rfl, rfl⟩
  spends := ⟨_, rfl, rfl, rfl⟩
  receives := ⟨_, rfl, rfl, rfl⟩
  sent_eq := rfl
  received_eq := rfl

/-- CPMM's swap for a fixed output, with the largest input first. -/
theorem cpmmSwapExactOutLeg_swaps {user : Pubkey} {pool : CpmmPool}
    {maxAmountIn amountOut : UInt64}
    {inputMint outputMint userInputAta userOutputAta : Pubkey} {leg : Leg}
    (h : cpmmSwapExactOutLeg user pool maxAmountIn amountOut inputMint outputMint
      userInputAta userOutputAta = .ok leg) :
    Swaps leg .cpmmBaseOut user userInputAta userOutputAta maxAmountIn amountOut := by
  obtain ⟨_, -, h⟩ := bind_eq_ok.mp h
  obtain ⟨⟨inputVault, outputVault, inputTp, outputTp⟩, -, h⟩ := bind_eq_ok.mp h
  cases h
  exact {
    marks := ⟨rfl, rfl⟩
    signs := ⟨_, rfl, rfl, rfl⟩
    spends := ⟨_, rfl, rfl, rfl⟩
    receives := ⟨_, rfl, rfl, rfl⟩
    sent_eq := rfl
    received_eq := rfl }

section

variable [Pda] {user : Pubkey} {leg : Leg}

/-- PumpSwap's, with the output first. -/
theorem pumpswapBuyExactOutLeg_swaps [Upstream] {pool : PumpSwapPool}
    {baseAmountOut maxQuoteIn : UInt64}
    (h : pumpswapBuyExactOutLeg user pool baseAmountOut maxQuoteIn = .ok leg) :
    Swaps leg .pumpswapExactOut user (ata user pool.quoteMint pool.quoteTokenProgram)
      (ata user pool.baseMint pool.baseTokenProgram) maxQuoteIn baseAmountOut := by
  obtain ⟨accounts, haccounts, h⟩ := bind_eq_ok.mp h
  obtain ⟨rest, rfl, -⟩ := pumpswapAccounts_eq_ok haccounts
  cases h
  exact {
    marks := ⟨rfl, rfl⟩
    signs := ⟨_, rfl, rfl, rfl⟩
    spends := ⟨_, rfl, rfl, rfl⟩
    receives := ⟨_, rfl, rfl, rfl⟩
    sent_eq := rfl
    received_eq := rfl }

/-- AMM V4's, under a tag of its own. -/
theorem raydiumAmmV4SwapExactOutLeg_swaps {pool : RaydiumAmmV4Pool}
    {amountOut maxAmountIn : UInt64} {inputMint : Pubkey}
    (h : raydiumAmmV4SwapExactOutLeg user pool amountOut maxAmountIn inputMint = .ok leg) :
    Swaps leg .ammV4BaseOut user (pool.pair.input user inputMint).account
      (pool.pair.output user inputMint).account maxAmountIn amountOut := by
  obtain ⟨_, -, h⟩ := bind_eq_ok.mp h
  obtain ⟨forward, hforward, h⟩ := bind_eq_ok.mp h
  obtain ⟨_, -, h⟩ := bind_eq_ok.mp h
  obtain ⟨hdirection, -⟩ := inputIsFirst_eq_ok hforward
  have hinput : pool.pair.inputProgram inputMint = pool.legTokenProgram := ite_self _
  have houtput : pool.pair.outputProgram inputMint = pool.legTokenProgram := ite_self _
  have hmint : (if forward = true then pool.pcMint else pool.coinMint)
      = pool.pair.outputMint inputMint := pool.pair.ite_outputMint hdirection
  simp only [hmint] at h
  cases h
  rw [PoolPair.input, PoolPair.output, hinput, houtput]
  exact {
    marks := ⟨rfl, rfl⟩
    signs := ⟨_, rfl, rfl, rfl⟩
    spends := ⟨_, rfl, rfl, rfl⟩
    receives := ⟨_, rfl, rfl, rfl⟩
    sent_eq := rfl
    received_eq := rfl }

/-- In exact-out mode the first amount is what is received. -/
theorem meteoraDammV2SwapLeg_swaps {pool : MeteoraDammV2Pool}
    {amountOut maxAmountIn : UInt64} {inputMint : Pubkey}
    (hmode : pool.swapMode = meteoraDammV2ExactOut)
    (h : meteoraDammV2SwapLeg user pool amountOut maxAmountIn inputMint = .ok leg) :
    Swaps leg .dammExactOut user (pool.pair.input user inputMint).account
      (pool.pair.output user inputMint).account maxAmountIn amountOut := by
  obtain ⟨_, -, h⟩ := bind_eq_ok.mp h
  obtain ⟨_, -, h⟩ := bind_eq_ok.mp h
  obtain ⟨_, -, h⟩ := bind_eq_ok.mp h
  obtain ⟨aToB, haToB, h⟩ := bind_eq_ok.mp h
  obtain ⟨hdirection, -⟩ := inputIsFirst_eq_ok haToB
  have hinputProgram : (if aToB = true then pool.tokenAProgram else pool.tokenBProgram)
      = pool.pair.inputProgram inputMint := pool.pair.ite_inputProgram hdirection
  have houtputMint : (if aToB = true then pool.tokenBMint else pool.tokenAMint)
      = pool.pair.outputMint inputMint := pool.pair.ite_outputMint hdirection
  have houtputProgram : (if aToB = true then pool.tokenBProgram else pool.tokenAProgram)
      = pool.pair.outputProgram inputMint := pool.pair.ite_outputProgram hdirection
  simp only [hinputProgram, houtputMint, houtputProgram, hmode] at h
  cases h
  exact {
    marks := ⟨rfl, rfl, rfl⟩
    signs := ⟨_, rfl, rfl, rfl⟩
    spends := ⟨_, rfl, rfl, rfl⟩
    receives := ⟨_, rfl, rfl, rfl⟩
    sent_eq := rfl
    received_eq := rfl }

variable (user) (pool : PumpFunPool) (amountIn minOut : UInt64)

/-- The bonding curve's buy, out of the user's lamports. -/
theorem pumpfunBuyLeg_swaps (userTokenAta : Pubkey) :
    Swaps (pumpfunBuyLeg user pool amountIn minOut userTokenAta) .pumpfunBuy user user
      userTokenAta amountIn minOut where
  marks := ⟨rfl, rfl⟩
  signs := ⟨_, rfl, rfl, rfl⟩
  spends := ⟨_, rfl, rfl, rfl⟩
  receives := ⟨_, rfl, rfl, rfl⟩
  sent_eq := rfl
  received_eq := rfl

/-- Its sale, into them. -/
theorem pumpfunSellLeg_swaps (userTokenAta : Pubkey) :
    Swaps (pumpfunSellLeg user pool amountIn minOut userTokenAta) .pumpfunSell user
      userTokenAta user amountIn minOut where
  marks := ⟨rfl, rfl⟩
  signs := ⟨_, rfl, rfl, rfl⟩
  spends := ⟨_, rfl, rfl, rfl⟩
  receives := ⟨_, rfl, rfl, rfl⟩
  sent_eq := rfl
  received_eq := rfl

/-- The second generation's buy, out of an account. -/
theorem pumpfunBuyV2Leg_swaps :
    Swaps (pumpfunBuyV2Leg user pool amountIn minOut) .pumpfunBuyV2 user
      (ata user pool.quoteMint pool.quoteTokenProgram)
      (ata user pool.mint pool.mintTokenProgram) amountIn minOut where
  marks := ⟨rfl, rfl⟩
  signs := ⟨_, rfl, rfl, rfl⟩
  spends := ⟨_, rfl, rfl, rfl⟩
  receives := ⟨_, rfl, rfl, rfl⟩
  sent_eq := rfl
  received_eq := rfl

/-- And its sale, into one. -/
theorem pumpfunSellV2Leg_swaps :
    Swaps (pumpfunSellV2Leg user pool amountIn minOut) .pumpfunSellV2 user
      (ata user pool.mint pool.mintTokenProgram)
      (ata user pool.quoteMint pool.quoteTokenProgram) amountIn minOut where
  marks := ⟨rfl, rfl⟩
  signs := ⟨_, rfl, rfl, rfl⟩
  spends := ⟨_, rfl, rfl, rfl⟩
  receives := ⟨_, rfl, rfl, rfl⟩
  sent_eq := rfl
  received_eq := rfl

end

end Sdk
