import SolTradeRouter.BuiltSwaps
import SolTradeRouter.HopLegs

/-!
# Dynamic buys

A buy through two pools that the caller names: WSOL for a quote on the
first, and the quote for the target on the second, which spends what the
first brought. Seven kinds of pool can come first and three second, and
each of the two builders finds the side of its pool by itself.

The legs are read back as swaps between the payer's associated accounts.
What the first brings is what the second takes in: one mint under one token
program.
-/

namespace Sdk

open Outcome

/-- The route instruction and the two user ATAs that must exist before it
runs. -/
structure DynamicBuyRoute where
  instruction : Instruction
  quoteMint : Pubkey
  quoteTokenProgram : Pubkey
  quoteAta : Pubkey
  outputMint : Pubkey
  outputTokenProgram : Pubkey
  outputAta : Pubkey

/-! ## The legs -/

/-- The other mint of a pool of two different mints. -/
def other (input a b : Pubkey) : Result Pubkey :=
  if input = a ∧ a ≠ b then .ok b
  else if input = b ∧ a ≠ b then .ok a
  else bail "first-hop pool does not pair WSOL with another mint"

/-- The quote of a pool with a WSOL side, and its token program. -/
def wsolQuote (first second firstProgram secondProgram : Pubkey) (dex : String) :
    Result (Pubkey × Pubkey) := do
  let quote ← other wsolMint first second
  let sourceProgram := if first = wsolMint then firstProgram else secondProgram
  bailIf (sourceProgram ≠ tokenProgram) s!"{dex} WSOL must use the classic Token Program"
  pure (quote, if first = quote then firstProgram else secondProgram)

section Builders

variable [Pda] [Upstream]

/-- The leg that buys the quote with WSOL, the quote, and its token program. -/
def wsolToQuoteLeg (user : Pubkey) (pool : Market) (amountIn minOut : UInt64) :
    Result (Leg × Pubkey × Pubkey) :=
  match pool with
  | .cpmmOuter p => do
    let quote ← okOr (p.otherMint wsolMint) "CPMM bridge lacks WSOL"
    bailIf (p.tokenProgramFor wsolMint ≠ some tokenProgram)
      "WSOL must use the classic Token Program"
    let program ← okOr (p.tokenProgramFor quote) "CPMM quote program missing"
    let leg ← cpmmSwapLeg user p amountIn minOut wsolMint quote
      (ata user wsolMint tokenProgram) (ata user quote program)
    pure (leg, quote, program)
  | .raydiumAmmV4 p => do
    bailIf (p.tokenProgram ≠ tokenProgram) "AMM V4 WSOL must use the classic Token Program"
    let quote ← other wsolMint p.coinMint p.pcMint
    let leg ← raydiumAmmV4SwapLeg user p amountIn minOut wsolMint
    pure (leg, quote, p.tokenProgram)
  | .raydiumClmm p => do
    let (quote, program) ← wsolQuote p.token0Mint p.token1Mint p.token0Program
      p.token1Program "CLMM"
    let leg ← raydiumClmmSwapLeg user p amountIn minOut wsolMint
    pure (leg, quote, program)
  | .whirlpool p => do
    let (quote, program) ← wsolQuote p.mintA p.mintB p.tokenProgramA p.tokenProgramB
      "Whirlpool"
    let leg ← whirlpoolSwapLeg user p amountIn minOut wsolMint
    pure (leg, quote, program)
  | .meteoraDlmm p => do
    let (quote, program) ← wsolQuote p.tokenXMint p.tokenYMint p.tokenXProgram
      p.tokenYProgram "DLMM"
    let leg ← meteoraDlmmSwapLeg user p amountIn minOut wsolMint
    pure (leg, quote, program)
  | .meteoraDammV2 p => do
    bailIf (p.swapMode ≠ 0) "DAMM v2 bridge must use exact-in mode"
    let (quote, program) ← wsolQuote p.tokenAMint p.tokenBMint p.tokenAProgram
      p.tokenBProgram "DAMM v2"
    let leg ← meteoraDammV2SwapLeg user p amountIn minOut wsolMint
    pure (leg, quote, program)
  | .pumpSwapOuter p =>
    if p.quoteMint = wsolMint ∧ p.quoteTokenProgram = tokenProgram then do
      let leg ← pumpswapBuyLeg user p amountIn minOut
      pure (leg, p.baseMint, p.baseTokenProgram)
    else if p.baseMint = wsolMint ∧ p.baseTokenProgram = tokenProgram then do
      let leg ← pumpswapSellLeg user p amountIn minOut
      pure (leg, p.quoteMint, p.quoteTokenProgram)
    else bail "PumpSwap bridge lacks classic-program WSOL"
  | .launchLabInner _ | .pumpFunInner _ => bail "unsupported first-hop quote pool"

/-- The leg that buys the target with the quote, the target, and its token
program. The program replaces the input of one unit by what the first leg
brings. -/
def quoteToTargetLeg (user : Pubkey) (pool : Market) (quoteMint quoteProgram : Pubkey)
    (minOut : UInt64) : Result (Leg × Pubkey × Pubkey) :=
  match pool with
  | .pumpSwapOuter p =>
    if p.quoteMint = quoteMint ∧ p.quoteTokenProgram = quoteProgram then do
      let leg ← pumpswapBuyLeg user p 1 minOut
      pure (leg, p.baseMint, p.baseTokenProgram)
    else if p.baseMint = quoteMint ∧ p.baseTokenProgram = quoteProgram then do
      let leg ← pumpswapSellLeg user p 1 minOut
      pure (leg, p.quoteMint, p.quoteTokenProgram)
    else bail "target PumpSwap mint/token program does not match first hop"
  | .launchLabInner p => do
    requireMintPrograms [(p.baseMint, p.baseTokenProgram),
      (p.quoteMint, p.quoteTokenProgram)] "LaunchLab"
    bailIf (p.quoteMint ≠ quoteMint ∨ p.quoteTokenProgram ≠ quoteProgram)
      "LaunchLab quote mint/program does not match first hop"
    let outputAta := ata user p.baseMint p.baseTokenProgram
    let quoteAta := ata user quoteMint quoteProgram
    pure (launchlabBuyLeg user p 1 minOut outputAta quoteAta, p.baseMint, p.baseTokenProgram)
  | .cpmmOuter p => do
    let outputMint ← okOr (p.otherMint quoteMint)
      "target CPMM pool lacks the first hop quote mint"
    bailIf (p.tokenProgramFor quoteMint ≠ some quoteProgram)
      "target CPMM quote token program does not match first hop"
    let outputProgram ← okOr (p.tokenProgramFor outputMint)
      "target CPMM output token program missing"
    let leg ← cpmmSwapLeg user p 1 minOut quoteMint outputMint
      (ata user quoteMint quoteProgram) (ata user outputMint outputProgram)
    pure (leg, outputMint, outputProgram)
  | _ => bail "second hop must be PumpSwap, LaunchLab or Raydium CPMM"

/-- The accounts of a dynamic buy: the fee comes out of the payer's WSOL. -/
def dynamicBuyAccounts (payer feeRecipient outputMint outputProgram : Pubkey) :
    RouteAccounts where
  payer := payer
  feeDestination := ata feeRecipient wsolMint tokenProgram
  feeSource := ata payer wsolMint tokenProgram
  outputTokenAccount := ata payer outputMint outputProgram
  feeProgram := tokenProgram
  feeMint := wsolMint

/-- **Build WSOL → quote → target-mint using explicit, already-resolved
pools.** The caller supplies a fresh quote floor and a final output floor,
plus all ATA/WSOL setup instructions. -/
def buildDynamicQuoteBuy (programId payer feeRecipient : Pubkey)
    (routeAmountIn firstLegAmountIn quoteMinOut minTargetOut : UInt64)
    (quotePool targetPool : Market) : Result DynamicBuyRoute := do
  bailIf (firstLegAmountIn = 0 ∨ firstLegAmountIn > routeAmountIn)
    "first leg amount must be within the Route input budget"
  let (first, quoteMint, quoteProgram) ← wsolToQuoteLeg payer quotePool firstLegAmountIn
    quoteMinOut
  let (second, outputMint, outputProgram) ← quoteToTargetLeg payer targetPool quoteMint
    quoteProgram minTargetOut
  let instruction ← buildDynamicRouteInstruction programId
    (dynamicBuyAccounts payer feeRecipient outputMint outputProgram)
    (ata payer quoteMint quoteProgram) routeAmountIn quoteMinOut minTargetOut outputMint first
    second
  pure {
    instruction := instruction
    quoteMint := quoteMint
    quoteTokenProgram := quoteProgram
    quoteAta := ata payer quoteMint quoteProgram
    outputMint := outputMint
    outputTokenProgram := outputProgram
    outputAta := ata payer outputMint outputProgram }

end Builders

/-! ## The first leg -/

theorem other_eq_ok {input a b quote : Pubkey} (h : other input a b = .ok quote) :
    a ≠ b ∧ (input = a ∧ quote = b ∨ input = b ∧ quote = a) := by
  unfold other at h
  split at h
  · rename_i hfirst
    cases h
    exact ⟨hfirst.2, .inl ⟨hfirst.1, rfl⟩⟩
  · split at h
    · rename_i hsecond
      cases h
      exact ⟨hsecond.2, .inr ⟨hsecond.1, rfl⟩⟩
    · cases h

/-- What is not the first of a pool's mints is on the other side. -/
theorem PoolPair.sides_of_other (pair : PoolPair) {quote : Pubkey}
    (h : other wsolMint pair.first pair.second = .ok quote) :
    pair.outputMint wsolMint = quote
      ∧ pair.inputProgram wsolMint
        = (if pair.first = wsolMint then pair.firstProgram else pair.secondProgram)
      ∧ pair.outputProgram wsolMint
        = (if pair.first = quote then pair.firstProgram else pair.secondProgram)
      ∧ pair.inputProgram quote
        = (if pair.first = quote then pair.firstProgram else pair.secondProgram) := by
  unfold PoolPair.inputProgram PoolPair.outputMint PoolPair.outputProgram
  obtain ⟨hne, ⟨hfirst, rfl⟩ | ⟨hsecond, rfl⟩⟩ := other_eq_ok h
  · rw [hfirst, if_pos rfl, if_pos rfl, if_pos rfl, if_neg hne, if_neg hne.symm]
    exact ⟨rfl, rfl, rfl, rfl⟩
  · rw [hsecond, if_neg hne.symm, if_neg hne.symm, if_neg hne.symm, if_neg hne, if_pos rfl]
    exact ⟨rfl, rfl, rfl, rfl⟩

/-- **The quote is the other side of the pool's pair**, from WSOL under the
classic program; and its own mint gives the same token program. -/
theorem wsolQuote_eq_ok (pair : PoolPair) {dex : String} {quote program : Pubkey}
    (h : wsolQuote pair.first pair.second pair.firstProgram pair.secondProgram dex
      = .ok (quote, program)) :
    pair.inputProgram wsolMint = tokenProgram ∧ pair.outputMint wsolMint = quote
      ∧ pair.outputProgram wsolMint = program ∧ pair.inputProgram quote = program := by
  obtain ⟨quote', hother, h⟩ := bind_eq_ok.mp h
  obtain ⟨_, hprogram, h⟩ := bind_eq_ok.mp h
  cases h
  obtain ⟨hmint, hinput, houtput, hquote⟩ := pair.sides_of_other hother
  exact ⟨hinput.trans (not_not.mp (failIf_eq_ok.mp hprogram)), hmint, houtput, hquote⟩

/-- **What a CPMM pool says of a mint and of the other one**, in the pool's
own order. -/
theorem CpmmPool.pair_of_otherMint {pool : CpmmPool} {input output inputProgram
    outputProgram : Pubkey} (hother : pool.otherMint input = some output)
    (hinput : pool.tokenProgramFor input = some inputProgram)
    (houtput : pool.tokenProgramFor output = some outputProgram)
    (hsame : pool.baseMint = pool.quoteMint → pool.baseTokenProgram = pool.quoteTokenProgram) :
    pool.pair.inputProgram input = inputProgram
      ∧ pool.pair.outputProgram input = outputProgram := by
  unfold CpmmPool.otherMint at hother
  unfold CpmmPool.tokenProgramFor at hinput houtput
  unfold PoolPair.inputProgram PoolPair.outputProgram CpmmPool.pair
  by_cases hbase : input = pool.baseMint
  · rw [if_pos hbase, Option.some.injEq] at hother hinput
    subst hother
    rw [if_pos hbase, if_pos hbase]
    refine ⟨hinput, ?_⟩
    by_cases heq : pool.quoteMint = pool.baseMint
    · rw [if_pos heq, Option.some.injEq] at houtput
      rw [← houtput, hsame heq.symm]
    · rw [if_neg heq, if_pos rfl, Option.some.injEq] at houtput
      exact houtput
  · rw [if_neg hbase] at hother hinput
    rw [if_neg hbase, if_neg hbase]
    by_cases hquote : input = pool.quoteMint
    · rw [if_pos hquote, Option.some.injEq] at hother hinput
      subst hother
      rw [if_pos rfl, Option.some.injEq] at houtput
      exact ⟨hinput, houtput⟩
    · rw [if_neg hquote] at hother
      cases hother

section Legs

variable [Pda] [Upstream] {user quoteMint quoteProgram outputMint outputProgram : Pubkey}
  {amountIn minOut : UInt64} {leg : Leg} {pool : Market}

omit [Upstream] in
theorem PoolPair.sides_of_wsolQuote (pair : PoolPair) (user : Pubkey) {dex : String}
    (h : wsolQuote pair.first pair.second pair.firstProgram pair.secondProgram dex
      = .ok (quoteMint, quoteProgram)) :
    pair.input user wsolMint = .ofAta user wsolMint tokenProgram
      ∧ pair.output user wsolMint = .ofAta user quoteMint quoteProgram := by
  obtain ⟨hinput, hmint, hprogram, -⟩ := wsolQuote_eq_ok pair h
  rw [PoolPair.input, PoolPair.output, hinput, hmint, hprogram]
  exact ⟨rfl, rfl⟩

omit [Pda] [Upstream] in
/-- A CPMM pool of WSOL alone has one token program for both sides. -/
theorem cpmmSwapLeg_sameProgram {pool : CpmmPool} {inputMint inputAta outputAta : Pubkey}
    (hinput : inputMint = wsolMint)
    (hother : pool.otherMint inputMint = some outputMint)
    (h : cpmmSwapLeg user pool amountIn minOut inputMint outputMint inputAta outputAta
      = .ok leg) :
    pool.baseMint = pool.quoteMint → pool.baseTokenProgram = pool.quoteTokenProgram := by
  intro heq
  obtain ⟨_, hprograms, -⟩ := bind_eq_ok.mp h
  have hwsol := requireMintPrograms_eq_ok hprograms
  have hbase : pool.baseMint = wsolMint := by
    unfold CpmmPool.otherMint at hother
    rw [← heq] at hother
    split at hother
    · rename_i hb
      rw [← hb, hinput]
    · cases hother
  have h₁ := hwsol (pool.baseMint, pool.baseTokenProgram) (by simp) hbase
  have h₂ := hwsol (pool.quoteMint, pool.quoteTokenProgram) (by simp) (heq.symm.trans hbase)
  exact h₁.trans h₂.symm

/-- **The first leg takes WSOL in and brings the quote**, between the payer's
associated accounts. -/
theorem wsolToQuoteLeg_ok
    (h : wsolToQuoteLeg user pool amountIn minOut = .ok (leg, quoteMint, quoteProgram)) :
    ∃ kind, ExactInput leg kind user (.ofAta user wsolMint tokenProgram)
      (.ofAta user quoteMint quoteProgram) amountIn minOut := by
  cases pool with
  | launchLabInner p => cases h
  | pumpFunInner p => cases h
  | cpmmOuter p =>
    obtain ⟨quote, hquote, h⟩ := bind_eq_ok.mp h
    obtain ⟨_, hwsol, h⟩ := bind_eq_ok.mp h
    obtain ⟨program, hprogram, h⟩ := bind_eq_ok.mp h
    obtain ⟨leg', hleg, h⟩ := bind_eq_ok.mp h
    cases h
    have hother := okOr_eq_ok.mp hquote
    have hexact := cpmmSwapLeg_exactInput hleg
    obtain ⟨hinput, houtput⟩ := CpmmPool.pair_of_otherMint hother
      (not_not.mp (failIf_eq_ok.mp hwsol)) (okOr_eq_ok.mp hprogram)
      (cpmmSwapLeg_sameProgram rfl hother hleg)
    rw [hinput, houtput] at hexact
    exact ⟨_, hexact⟩
  | raydiumAmmV4 p =>
    obtain ⟨_, hclassic, h⟩ := bind_eq_ok.mp h
    obtain ⟨quote, hquote, h⟩ := bind_eq_ok.mp h
    obtain ⟨leg', hleg, h⟩ := bind_eq_ok.mp h
    cases h
    have hexact := raydiumAmmV4SwapLeg_exactInput hleg
    have hprogram : p.tokenProgram = tokenProgram := not_not.mp (failIf_eq_ok.mp hclassic)
    have hlegProgram : p.legTokenProgram = tokenProgram := by
      unfold RaydiumAmmV4Pool.legTokenProgram
      rw [hprogram, ite_self]
    obtain ⟨hmint, -⟩ := p.pair.sides_of_other hquote
    have hinput : p.pair.inputProgram wsolMint = tokenProgram :=
      (ite_self _).trans hlegProgram
    have houtput : p.pair.outputProgram wsolMint = p.tokenProgram :=
      ((ite_self _).trans hlegProgram).trans hprogram.symm
    rw [PoolPair.input, PoolPair.output, hinput, houtput, hmint] at hexact
    exact ⟨_, hexact⟩
  | raydiumClmm p =>
    obtain ⟨⟨quote, program⟩, hquote, h⟩ := bind_eq_ok.mp h
    obtain ⟨leg', hleg, h⟩ := bind_eq_ok.mp h
    cases h
    have hexact := raydiumClmmSwapLeg_exactInput hleg
    obtain ⟨hinput, houtput⟩ := p.pair.sides_of_wsolQuote user hquote
    rw [hinput, houtput] at hexact
    exact ⟨_, hexact⟩
  | whirlpool p =>
    obtain ⟨⟨quote, program⟩, hquote, h⟩ := bind_eq_ok.mp h
    obtain ⟨leg', hleg, h⟩ := bind_eq_ok.mp h
    cases h
    have hexact := whirlpoolSwapLeg_exactInput hleg
    obtain ⟨hinput, houtput⟩ := p.pair.sides_of_wsolQuote user hquote
    rw [hinput, houtput] at hexact
    exact ⟨_, hexact⟩
  | meteoraDlmm p =>
    obtain ⟨⟨quote, program⟩, hquote, h⟩ := bind_eq_ok.mp h
    obtain ⟨leg', hleg, h⟩ := bind_eq_ok.mp h
    cases h
    have hexact := meteoraDlmmSwapLeg_exactInput hleg
    obtain ⟨hinput, -⟩ := p.pair.sides_of_wsolQuote user hquote
    obtain ⟨-, hmint, hprogram, hquoteProgram⟩ := wsolQuote_eq_ok p.pair hquote
    rw [hinput, MeteoraDlmmPool.output, hmint, hprogram, hquoteProgram] at hexact
    exact ⟨_, hexact⟩
  | meteoraDammV2 p =>
    obtain ⟨_, hmode, h⟩ := bind_eq_ok.mp h
    obtain ⟨⟨quote, program⟩, hquote, h⟩ := bind_eq_ok.mp h
    obtain ⟨leg', hleg, h⟩ := bind_eq_ok.mp h
    cases h
    have hexact := meteoraDammV2SwapLeg_exactInput (not_not.mp (failIf_eq_ok.mp hmode)) hleg
    obtain ⟨hinput, houtput⟩ := p.pair.sides_of_wsolQuote user hquote
    rw [hinput, houtput] at hexact
    exact ⟨_, hexact⟩
  | pumpSwapOuter p =>
    simp only [wsolToQuoteLeg] at h
    split at h
    · rename_i hquote
      obtain ⟨leg', hleg, h⟩ := bind_eq_ok.mp h
      cases h
      have hexact := pumpswapBuyLeg_exactInput hleg
      rw [hquote.1, hquote.2] at hexact
      exact ⟨_, hexact⟩
    · split at h
      · rename_i hbase
        obtain ⟨leg', hleg, h⟩ := bind_eq_ok.mp h
        cases h
        have hexact := pumpswapSellLeg_exactInput hleg
        rw [hbase.1, hbase.2] at hexact
        exact ⟨_, hexact⟩
      · cases h

/-! ## The second leg -/

/-- The payer's account on a side of the target pool. -/
def Market.targetSides (market : Market) (user : Pubkey) : List Side :=
  match market with
  | .pumpSwapOuter p =>
    [.ofAta user p.baseMint p.baseTokenProgram, .ofAta user p.quoteMint p.quoteTokenProgram]
  | .launchLabInner p =>
    [.ofAta user p.baseMint p.baseTokenProgram, .ofAta user p.quoteMint p.quoteTokenProgram]
  | .cpmmOuter p =>
    [.ofAta user p.baseMint p.baseTokenProgram, .ofAta user p.quoteMint p.quoteTokenProgram]
  | _ => []

/-- **The second leg takes the quote in and brings the target**, between the
payer's associated accounts; and these are the sides of the target pool. -/
theorem quoteToTargetLeg_ok
    (h : quoteToTargetLeg user pool quoteMint quoteProgram minOut
      = .ok (leg, outputMint, outputProgram))
    (hne : ata user quoteMint quoteProgram ≠ ata user outputMint outputProgram) :
    (∃ kind, ExactInput leg kind user (.ofAta user quoteMint quoteProgram)
        (.ofAta user outputMint outputProgram) 1 minOut)
      ∧ ∀ side, side ∈ pool.targetSides user ↔ side = .ofAta user quoteMint quoteProgram
        ∨ side = .ofAta user outputMint outputProgram := by
  have hpair : ∀ a b side : Side, side ∈ [a, b] ↔ side = a ∨ side = b :=
    fun a b side => List.mem_pair
  have hpair' : ∀ a b side : Side, side ∈ [a, b] ↔ side = b ∨ side = a :=
    fun a b side => List.mem_pair.trans or_comm
  cases pool with
  | pumpSwapOuter p =>
    simp only [quoteToTargetLeg] at h
    split at h
    · rename_i hquote
      obtain ⟨leg', hleg, h⟩ := bind_eq_ok.mp h
      cases h
      obtain ⟨rfl, rfl⟩ := hquote
      exact ⟨⟨_, pumpswapBuyLeg_exactInput hleg⟩, hpair' _ _⟩
    · split at h
      · rename_i hbase
        obtain ⟨leg', hleg, h⟩ := bind_eq_ok.mp h
        cases h
        obtain ⟨rfl, rfl⟩ := hbase
        exact ⟨⟨_, pumpswapSellLeg_exactInput hleg⟩, hpair _ _⟩
      · cases h
  | launchLabInner p =>
    obtain ⟨_, -, h⟩ := bind_eq_ok.mp h
    obtain ⟨_, hquote, h⟩ := bind_eq_ok.mp h
    cases h
    obtain ⟨hmint, hprogram⟩ := not_or.mp (failIf_eq_ok.mp hquote)
    rw [← not_not.mp hmint, ← not_not.mp hprogram]
    exact ⟨⟨_, launchlabBuyLeg_exactInput _ _ _ _ _ _⟩, hpair' _ _⟩
  | cpmmOuter p =>
    obtain ⟨output, houtput, h⟩ := bind_eq_ok.mp h
    obtain ⟨_, hprogram, h⟩ := bind_eq_ok.mp h
    obtain ⟨program, houtputProgram, h⟩ := bind_eq_ok.mp h
    obtain ⟨leg', hleg, h⟩ := bind_eq_ok.mp h
    cases h
    have hother := okOr_eq_ok.mp houtput
    have hinput := not_not.mp (failIf_eq_ok.mp hprogram)
    have houtputProgram := okOr_eq_ok.mp houtputProgram
    -- A pool of one mint leads back to the account the quote is in.
    have hdistinct : p.baseMint ≠ p.quoteMint := by
      intro heq
      refine hne ?_
      unfold CpmmPool.otherMint at hother
      rw [← heq] at hother
      split at hother
      · rename_i hbase
        cases hother
        rw [hbase, houtputProgram] at hinput
        rw [hbase, Option.some.inj hinput]
      · cases hother
    obtain ⟨hin, hout⟩ := CpmmPool.pair_of_otherMint hother hinput houtputProgram
      (fun heq => absurd heq hdistinct)
    have hexact := cpmmSwapLeg_exactInput hleg
    rw [hin, hout] at hexact
    refine ⟨⟨_, hexact⟩, ?_⟩
    unfold CpmmPool.otherMint at hother
    unfold CpmmPool.tokenProgramFor at hinput houtputProgram
    split at hother
    · rename_i hbase
      cases hother
      rw [if_pos hbase] at hinput
      rw [if_neg (Ne.symm hdistinct), if_pos rfl] at houtputProgram
      cases hinput
      cases houtputProgram
      rw [hbase]
      exact hpair _ _
    · rename_i hbase
      rw [if_neg hbase] at hinput
      split at hother
      · rename_i hquote
        cases hother
        rw [if_pos hquote] at hinput
        rw [if_pos rfl] at houtputProgram
        cases hinput
        cases houtputProgram
        rw [hquote]
        exact hpair' _ _
      · cases hother
  | _ => cases h

end Legs

end Sdk
