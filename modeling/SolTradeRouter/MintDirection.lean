import SolTradeRouter.MarketAccounts

/-!
# The direction of a market

A snapshot lists the two mints of a pool in the pool's order, which is not
the direction it is traded in. Four functions find that: `pairBase` and
`pairQuote` from WSOL and USDC, `sharedMintWithBridge` from the mints of a
bridge, and `resolveSharedMint` once more in the builders of trades.

On a pool of two distinct mints they agree. One mint is the meme, the other
one the quote, and each keeps the token program that the snapshot stores
for it.
-/

namespace Sdk

open Outcome

/-! ## The sides of a pool -/

namespace PoolPair

/-- The first mint of a pool, with its token program. -/
def firstSide (pair : PoolPair) : Pubkey × Pubkey := (pair.first, pair.firstProgram)

/-- The second mint of a pool, with its token program. -/
def secondSide (pair : PoolPair) : Pubkey × Pubkey := (pair.second, pair.secondProgram)

/-- **A pool is traded in a direction**: one of its sides is the meme, and
the other one the quote. -/
def Directed (pair : PoolPair) (meme quote : Pubkey × Pubkey) : Prop :=
  (meme = pair.firstSide ∧ quote = pair.secondSide)
    ∨ (meme = pair.secondSide ∧ quote = pair.firstSide)

variable {pair : PoolPair}

/-- **A mint of the pool directs it**, as the meme of the other one. -/
theorem Directed.of_mem (h : pair.first ≠ pair.second) {mint : Pubkey}
    (hmint : mint = pair.first ∨ mint = pair.second) :
    pair.Directed (mint, pair.inputProgram mint)
      (pair.outputMint mint, pair.inputProgram (pair.outputMint mint)) := by
  unfold Directed firstSide secondSide inputProgram outputMint
  rcases hmint with rfl | rfl
  · left
    rw [if_pos rfl, if_pos rfl, if_neg h.symm]
    exact ⟨rfl, rfl⟩
  · right
    rw [if_neg h.symm, if_neg h.symm, if_pos rfl]
    exact ⟨rfl, rfl⟩

/-- The base of a pool is one of its mints. -/
theorem pairBase_mem (pair : PoolPair) :
    pairBase pair.first pair.second = pair.first
      ∨ pairBase pair.first pair.second = pair.second := by
  unfold pairBase
  grind

/-- **WSOL and USDC direct a pool** of two distinct mints. -/
theorem Directed.of_pair (h : pair.first ≠ pair.second) :
    pair.Directed
      (pairBase pair.first pair.second, pair.inputProgram (pairBase pair.first pair.second))
      (pairQuote pair.first pair.second,
        pair.inputProgram (pairQuote pair.first pair.second)) := by
  rw [← pair.outputMint_pairBase]
  exact .of_mem h pair.pairBase_mem

/-- The meme and the quote of a pool of two distinct mints are distinct. -/
theorem Directed.ne {meme quote : Pubkey × Pubkey} (h : pair.first ≠ pair.second)
    (hdirected : pair.Directed meme quote) : meme.1 ≠ quote.1 := by
  rcases hdirected with ⟨rfl, rfl⟩ | ⟨rfl, rfl⟩
  · exact h
  · exact h.symm

end PoolPair

/-! ## The sides of a market -/

/-- **The two mints of a market's pool**, with the programs its snapshot
stores for them. An AMM V4 snapshot stores one for both. -/
def Market.pair : Market → PoolPair
  | .launchLabInner p => ⟨p.baseMint, p.baseTokenProgram, p.quoteMint, p.quoteTokenProgram⟩
  | .cpmmOuter p => p.pair
  | .pumpFunInner p => ⟨p.mint, p.mintTokenProgram, p.quoteMint, p.quoteTokenProgram⟩
  | .pumpSwapOuter p => ⟨p.baseMint, p.baseTokenProgram, p.quoteMint, p.quoteTokenProgram⟩
  | .raydiumAmmV4 p => ⟨p.coinMint, p.tokenProgram, p.pcMint, p.tokenProgram⟩
  | .meteoraDammV2 p => p.pair
  | .raydiumClmm p => p.pair
  | .whirlpool p => p.pair
  | .meteoraDlmm p => p.pair

/-- The snapshot itself says which of the mints is the quote. -/
def Market.QuoteStored : Market → Prop
  | .launchLabInner _ | .pumpFunInner _ | .pumpSwapOuter _ => True
  | _ => False

/-- **Elsewhere** a bridge is needed where neither side is WSOL. -/
theorem Market.needsSolBridge_iff {market : Market} (h : ¬ market.QuoteStored) :
    market.needsSolBridge = true
      ↔ market.pair.first ≠ wsolMint ∧ market.pair.second ≠ wsolMint := by
  cases market with
  | launchLabInner pool => exact absurd trivial h
  | pumpFunInner pool => exact absurd trivial h
  | pumpSwapOuter pool => exact absurd trivial h
  | _ => exact decide_eq_true_iff

namespace RoutedMarket

/-- The mint a market trades, with its token program. -/
def memeSide (market : RoutedMarket) : Pubkey × Pubkey :=
  (market.memeMint, market.memeTokenProgram)

/-- The mint a market is paid in, with its token program. -/
def quoteSide (market : RoutedMarket) : Pubkey × Pubkey :=
  (market.quoteMint, market.quoteTokenProgram)

variable {market : RoutedMarket}

/-- **The accessors of a market direct its pool.** -/
theorem directed (h : market.market.pair.first ≠ market.market.pair.second) :
    market.market.pair.Directed market.memeSide market.quoteSide := by
  obtain ⟨m, bridge⟩ := market
  cases m with
  | launchLabInner pool => exact .inl ⟨rfl, rfl⟩
  | pumpFunInner pool => exact .inl ⟨rfl, rfl⟩
  | pumpSwapOuter pool => exact .inl ⟨rfl, rfl⟩
  | cpmmOuter pool =>
    obtain ⟨-, hquote, hmemeProgram, hquoteProgram⟩ :=
      @cpmm_mints ⟨.cpmmOuter pool, bridge⟩ pool rfl
    rw [memeSide, quoteSide, hmemeProgram, hquoteProgram, ← hquote]
    exact .of_mem h (cpmm_meme rfl)
  | raydiumAmmV4 pool =>
    have hprogram : ∀ mint, pool.tokenProgram
        = (Market.raydiumAmmV4 pool).pair.inputProgram mint := fun _ => (ite_self _).symm
    have hdirected := PoolPair.Directed.of_pair h
    rwa [← hprogram, ← hprogram] at hdirected
  | meteoraDammV2 pool => exact .of_pair h
  | raydiumClmm pool => exact .of_pair h
  | whirlpool pool => exact .of_pair h
  | meteoraDlmm pool => exact .of_pair h

/-- **A market is paid in WSOL** just if it needs no bridge. -/
theorem quoteMint_eq_wsol_iff :
    market.quoteMint = wsolMint ↔ market.market.needsSolBridge = false := by
  refine ⟨fun hquote => ?_, quoteMint_of_direct⟩
  rw [← Bool.not_eq_true]
  exact fun hneeds => quoteMint_ne_wsol hneeds hquote

/-- **A pool that stores no quote** is paid in WSOL just if it lists WSOL. -/
theorem quoteMint_eq_wsol_iff_listed (hstored : ¬ market.market.QuoteStored) :
    market.quoteMint = wsolMint
      ↔ market.market.pair.first = wsolMint ∨ market.market.pair.second = wsolMint := by
  rw [quoteMint_eq_wsol_iff, ← Bool.not_eq_true, Market.needsSolBridge_iff hstored]
  tauto

/-- **A builder resolves the same mints** behind a bridge as the market
does. -/
theorem resolved_mints {pool : CpmmPool} {bridge : BridgePool} {stock : Pubkey}
    (hmarket : market.market = .cpmmOuter pool) (hbridge : market.bridge = some bridge)
    (hneeds : market.market.needsSolBridge = true)
    (hstock : resolveSharedMint pool bridge = .ok stock) :
    (stock, tokenProgramFor pool stock) = market.quoteSide
      ∧ (otherMint pool stock, tokenProgramFor pool (otherMint pool stock))
        = market.memeSide := by
  obtain ⟨hmeme, hquote, hmemeProgram, hquoteProgram⟩ :=
    cpmm_bridged hmarket hbridge hneeds hstock
  rw [quoteSide, memeSide, hmeme, hquote, hmemeProgram, hquoteProgram]
  exact ⟨rfl, rfl⟩

/-- **The direction of a market is unambiguous.** On a pool of two distinct
mints the meme and the quote are the two mints, each with its program. The
quote is WSOL just if no bridge is needed, which a pool that stores no quote
decides by its mints. Behind a bridge the builders resolve the same mints. -/
theorem mint_direction (market : RoutedMarket)
    (h : market.market.pair.first ≠ market.market.pair.second) :
    market.market.pair.Directed market.memeSide market.quoteSide
      ∧ market.memeMint ≠ market.quoteMint
      ∧ (market.quoteMint = wsolMint ↔ market.market.needsSolBridge = false)
      ∧ (¬ market.market.QuoteStored → (market.quoteMint = wsolMint
        ↔ market.market.pair.first = wsolMint ∨ market.market.pair.second = wsolMint))
      ∧ ∀ pool bridge stock, market.market = .cpmmOuter pool → market.bridge = some bridge →
        market.market.needsSolBridge = true → resolveSharedMint pool bridge = .ok stock →
          (stock, tokenProgramFor pool stock) = market.quoteSide
            ∧ (otherMint pool stock, tokenProgramFor pool (otherMint pool stock))
              = market.memeSide :=
  ⟨directed h, (directed h).ne h, quoteMint_eq_wsol_iff, quoteMint_eq_wsol_iff_listed,
    fun _ _ _ => resolved_mints⟩

/-- A pool of two tokens, the first of which a bridge trades for WSOL. -/
def sampleStock : RoutedMarket where
  market := .cpmmOuter {
    poolState := sampleKey 1
    ammConfig := .default
    observationState := sampleKey 2
    baseMint := sampleKey 10
    quoteMint := sampleKey 12
    baseVault := sampleKey 3
    quoteVault := sampleKey 4
    baseTokenProgram := tokenProgram
    quoteTokenProgram := token2022Program
    baseReserve := 1000000
    quoteReserve := 1000000
    feeRatesKnown := true
    tradeFeeRate := 2500
    creatorFeeRate := 0
    creatorFeeOn := 0
    enableCreatorFee := false
    baseTransferFee := ⟨0, 0⟩
    quoteTransferFee := ⟨0, 0⟩ }
  bridge := some (.ammV4 {
    amm := sampleKey 20
    coinMint := wsolMint
    pcMint := sampleKey 10
    tokenCoin := sampleKey 21
    tokenPc := sampleKey 22
    tokenProgram := tokenProgram
    coinReserve := 1000000
    pcReserve := 1000000
    tradeFeeNumerator := 25
    swapFeeNumerator := 25
    swapFeeDenominator := 10000 })

/-- The bridge makes the base of the pool its quote. -/
theorem sampleStock_direction :
    sampleStock.market.pair.Directed sampleStock.memeSide sampleStock.quoteSide
      ∧ sampleStock.memeMint ≠ sampleStock.quoteMint
      ∧ (sampleKey 10, tokenProgram) = sampleStock.quoteSide
      ∧ (sampleKey 12, token2022Program) = sampleStock.memeSide := by
  obtain ⟨hdirected, hne, -, -, hresolved⟩ := mint_direction sampleStock (by decide)
  obtain ⟨hquote, hmeme⟩ := hresolved _ _ (sampleKey 10) rfl rfl (by decide) rfl
  exact ⟨hdirected, hne, hquote, hmeme⟩

end RoutedMarket

end Sdk
