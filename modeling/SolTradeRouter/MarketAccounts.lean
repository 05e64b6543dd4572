import SolTradeRouter.ListedMints

/-!
# The accounts of a market

A routed market derives the user's accounts for its meme and for its quote
from its accessors. The hops of its pool derive them from the pool's fields.

They are the same accounts whenever the accessors and the hops take the same
token program for a mint. They do not where an AMM V4 snapshot leaves its
token program unset, which the leg takes for the classic program and the
accessors do not; and where a pool lists one mint twice, under two programs.
-/

namespace Sdk

open Outcome

/-! ## One program for each mint -/

/-- A pool that lists one mint twice lists it under one program. -/
def PoolPair.Unambiguous (pair : PoolPair) : Prop :=
  pair.first = pair.second → pair.firstProgram = pair.secondProgram

/-- **The accessors of a market and its legs take the same programs.** A DLMM
or CPMM leg takes the program by the mint, like the accessors. -/
def Market.ProgramsAgree : Market → Prop
  | .raydiumAmmV4 pool => pool.tokenProgram ≠ Pubkey.default
  | .meteoraDammV2 pool => pool.pair.Unambiguous
  | .raydiumClmm pool => pool.pair.Unambiguous
  | .whirlpool pool => pool.pair.Unambiguous
  | _ => True

instance (pair : PoolPair) : Decidable pair.Unambiguous :=
  inferInstanceAs (Decidable (_ → _))

instance : DecidablePred Market.ProgramsAgree
  | .raydiumAmmV4 _ => inferInstanceAs (Decidable (_ ≠ _))
  | .meteoraDammV2 pool => inferInstanceAs (Decidable pool.pair.Unambiguous)
  | .raydiumClmm pool => inferInstanceAs (Decidable pool.pair.Unambiguous)
  | .whirlpool pool => inferInstanceAs (Decidable pool.pair.Unambiguous)
  | .launchLabInner _ | .cpmmOuter _ | .pumpFunInner _ | .pumpSwapOuter _
  | .meteoraDlmm _ => inferInstanceAs (Decidable True)

/-- An AMM V4 snapshot has its token program set. -/
def Market.TokenProgramSet : Market → Prop
  | .raydiumAmmV4 pool => pool.tokenProgram ≠ Pubkey.default
  | _ => True

instance : DecidablePred Market.TokenProgramSet
  | .raydiumAmmV4 _ => inferInstanceAs (Decidable (_ ≠ _))
  | .launchLabInner _ | .cpmmOuter _ | .pumpFunInner _ | .pumpSwapOuter _
  | .meteoraDammV2 _ | .raydiumClmm _ | .whirlpool _ | .meteoraDlmm _ =>
    inferInstanceAs (Decidable True)

theorem Market.ProgramsAgree.tokenProgramSet {market : Market} (h : market.ProgramsAgree) :
    market.TokenProgramSet := by
  cases market with
  | raydiumAmmV4 pool => exact h
  | _ => trivial

namespace PoolPair

variable {pair : PoolPair}

/-- Either way the other mint has one program. -/
theorem outputProgram_eq (h : pair.Unambiguous) (mint : Pubkey) :
    pair.outputProgram mint = pair.inputProgram (pair.outputMint mint) := by
  unfold Unambiguous at h
  unfold outputProgram inputProgram outputMint
  grind

/-- The quote of a pool is one of its mints. -/
theorem pairQuote_mem (pair : PoolPair) :
    pairQuote pair.first pair.second = pair.first
      ∨ pairQuote pair.first pair.second = pair.second := by
  unfold pairQuote
  grind

/-- So the mint opposite to the base is the quote. -/
theorem outputMint_pairBase (pair : PoolPair) :
    pair.outputMint (pairBase pair.first pair.second) = pairQuote pair.first pair.second := by
  rw [← pair.outputMint_pairQuote]
  exact pair.outputMint_outputMint pair.pairQuote_mem

end PoolPair

/-! ## The accounts of a market -/

section Accounts

variable [Pda]

/-- The user's account of the market's meme, as the market derives it. -/
def RoutedMarket.memeAccount (market : RoutedMarket) (user : Pubkey) : Pubkey :=
  ata user market.memeMint market.memeTokenProgram

/-- The user's account of the market's quote, as the market derives it. -/
def RoutedMarket.quoteAccount (market : RoutedMarket) (user : Pubkey) : Pubkey :=
  ata user market.quoteMint market.quoteTokenProgram

/-- **The hops of a market move between its two accounts.** -/
structure RoutedMarket.SidesAgree (market : RoutedMarket) (user : Pubkey) : Prop where
  buyInput : (market.market.buyHop user (some market.quoteMint)).input.account
    = market.quoteAccount user
  buyOutput : (market.market.buyHop user (some market.quoteMint)).output.account
    = market.memeAccount user
  sellInput : (market.market.sellHop user (some market.quoteMint)).input.account
    = market.memeAccount user
  sellOutput : (market.market.sellHop user (some market.quoteMint)).output.account
    = market.quoteAccount user
  receive : (market.market.receiveSide user (some market.quoteMint)).account
    = market.quoteAccount user

omit [Pda] in
/-- The meme of a CPMM market is one of its pool's mints. -/
theorem RoutedMarket.cpmm_meme {market : RoutedMarket} {pool : CpmmPool}
    (hmarket : market.market = .cpmmOuter pool) :
    market.memeMint = pool.baseMint ∨ market.memeMint = pool.quoteMint := by
  obtain ⟨m, bridge⟩ := market
  cases hmarket
  have hpaired : pool.memeMintSolPaired.getD pool.baseMint = pool.baseMint
      ∨ pool.memeMintSolPaired.getD pool.baseMint = pool.quoteMint := by
    unfold CpmmPool.memeMintSolPaired
    grind
  cases bridge with
  | none => exact hpaired
  | some bridge =>
    unfold RoutedMarket.memeMint
    dsimp only
    split
    · cases sharedMintWithBridge pool bridge with
      | none => exact hpaired
      | some stock =>
        dsimp only
        unfold CpmmPool.memeMint CpmmPool.otherMint
        grind
    · exact hpaired

omit [Pda] in
/-- **The mints of a CPMM market** are the two of its pool, and so are their
programs. -/
theorem RoutedMarket.cpmm_mints {market : RoutedMarket} {pool : CpmmPool}
    (hmarket : market.market = .cpmmOuter pool) :
    pool.pair.outputMint market.quoteMint = market.memeMint
      ∧ pool.pair.outputMint market.memeMint = market.quoteMint
      ∧ market.memeTokenProgram = tokenProgramFor pool market.memeMint
      ∧ market.quoteTokenProgram = tokenProgramFor pool market.quoteMint := by
  have hmeme := RoutedMarket.cpmm_meme hmarket
  have hquote : market.quoteMint = pool.pair.outputMint market.memeMint := by
    unfold RoutedMarket.quoteMint CpmmPool.otherMint PoolPair.outputMint CpmmPool.pair
    rw [hmarket]
    grind
  have hback : pool.pair.outputMint market.quoteMint = market.memeMint := by
    rw [hquote]
    exact pool.pair.outputMint_outputMint hmeme
  refine ⟨hback, hquote.symm, ?_, ?_⟩
  · unfold RoutedMarket.memeTokenProgram CpmmPool.tokenProgramFor tokenProgramFor
    rw [hmarket]
    grind
  · have hmem : market.quoteMint = pool.baseMint ∨ market.quoteMint = pool.quoteMint := by
      rw [hquote]
      exact (ite_eq_or_eq _ _ _).symm
    unfold RoutedMarket.quoteTokenProgram CpmmPool.tokenProgramFor tokenProgramFor
    rw [hmarket]
    grind

/-- **On a pool of two mints** the hops move between the accounts of its base
and of its quote, if the program of an account depends on its mint alone. -/
theorem RoutedMarket.SidesAgree.of_pair {market : RoutedMarket} {user : Pubkey}
    (pair : PoolPair) (hop : Pubkey → Hop)
    (hinput : ∀ mint, (hop mint).input.account = ata user mint (pair.inputProgram mint))
    (houtput : ∀ mint, (hop mint).output.account
      = ata user (pair.outputMint mint) (pair.inputProgram (pair.outputMint mint)))
    (hbuy : market.market.buyHop user (some market.quoteMint) = hop market.quoteMint)
    (hsell : market.market.sellHop user (some market.quoteMint)
      = hop (pair.outputMint market.quoteMint))
    (hreceive : (market.market.receiveSide user (some market.quoteMint)).account
      = ata user market.quoteMint (pair.inputProgram market.quoteMint))
    (hmeme : pair.outputMint market.quoteMint = market.memeMint)
    (hquote : pair.outputMint market.memeMint = market.quoteMint)
    (hmemeProgram : market.memeTokenProgram = pair.inputProgram market.memeMint)
    (hquoteProgram : market.quoteTokenProgram = pair.inputProgram market.quoteMint) :
    market.SidesAgree user := by
  rw [hmeme] at hsell
  exact {
    buyInput := by rw [hbuy, hinput, RoutedMarket.quoteAccount, hquoteProgram]
    buyOutput := by rw [hbuy, houtput, hmeme, RoutedMarket.memeAccount, hmemeProgram]
    sellInput := by rw [hsell, hinput, RoutedMarket.memeAccount, hmemeProgram]
    sellOutput := by rw [hsell, houtput, hquote, RoutedMarket.quoteAccount, hquoteProgram]
    receive := by rw [hreceive, RoutedMarket.quoteAccount, hquoteProgram] }

/-- **Where the programs agree, so do the accounts.** -/
theorem RoutedMarket.sides_agree {market : RoutedMarket} (h : market.market.ProgramsAgree)
    (user : Pubkey) : market.SidesAgree user := by
  have houtput : ∀ {pair : PoolPair}, pair.Unambiguous → ∀ mint,
      (pair.output user mint).account
        = ata user (pair.outputMint mint) (pair.inputProgram (pair.outputMint mint)) :=
    fun hpair mint => congrArg (ata user _) (PoolPair.outputProgram_eq hpair mint)
  obtain ⟨m, bridge⟩ := market
  cases m with
  | launchLabInner pool => exact ⟨rfl, rfl, rfl, rfl, rfl⟩
  | pumpFunInner pool => exact ⟨rfl, rfl, rfl, rfl, rfl⟩
  | pumpSwapOuter pool => exact ⟨rfl, rfl, rfl, rfl, rfl⟩
  | cpmmOuter pool =>
    obtain ⟨hmeme, hquote, hmemeProgram, hquoteProgram⟩ :=
      @RoutedMarket.cpmm_mints ⟨.cpmmOuter pool, bridge⟩ pool rfl
    exact .of_pair pool.pair (pool.hop user) (fun _ => rfl) (fun _ => rfl) rfl rfl rfl hmeme
      hquote hmemeProgram hquoteProgram
  | raydiumAmmV4 pool =>
    have hprogram : ∀ mint, pool.tokenProgram = pool.pair.inputProgram mint := fun mint =>
      ((ite_self _).trans (if_neg h)).symm
    exact .of_pair pool.pair (pool.hop user) (fun _ => rfl) (houtput fun _ => rfl) rfl rfl rfl
      pool.pair.outputMint_pairQuote pool.pair.outputMint_pairBase (hprogram _) (hprogram _)
  | meteoraDammV2 pool =>
    exact .of_pair pool.pair (pool.hop user) (fun _ => rfl) (houtput h) rfl rfl rfl
      pool.pair.outputMint_pairQuote pool.pair.outputMint_pairBase rfl rfl
  | raydiumClmm pool =>
    exact .of_pair pool.pair (pool.hop user) (fun _ => rfl) (houtput h) rfl rfl rfl
      pool.pair.outputMint_pairQuote pool.pair.outputMint_pairBase rfl rfl
  | whirlpool pool =>
    exact .of_pair pool.pair (pool.hop user) (fun _ => rfl) (houtput h) rfl rfl rfl
      pool.pair.outputMint_pairQuote pool.pair.outputMint_pairBase rfl rfl
  | meteoraDlmm pool =>
    exact .of_pair pool.pair (pool.hop user) (fun _ => rfl) (fun _ => rfl) rfl rfl rfl
      pool.pair.outputMint_pairQuote pool.pair.outputMint_pairBase rfl rfl

/-- **A hop takes from an account of the market** already where the token
program is set, whatever it pays into. -/
theorem RoutedMarket.inputs_agree {market : RoutedMarket} (h : market.market.TokenProgramSet)
    (user : Pubkey) :
    (market.market.buyHop user (some market.quoteMint)).input.account = market.quoteAccount user
      ∧ (market.market.sellHop user (some market.quoteMint)).input.account
        = market.memeAccount user := by
  have hpair : ∀ pair : PoolPair, (pair.input user (pair.outputMint
      (pairQuote pair.first pair.second))).account
        = ata user (pairBase pair.first pair.second)
          (pair.inputProgram (pairBase pair.first pair.second)) := by
    intro pair
    rw [pair.outputMint_pairQuote]
    rfl
  obtain ⟨m, bridge⟩ := market
  cases m with
  | launchLabInner pool => exact ⟨rfl, rfl⟩
  | pumpFunInner pool => exact ⟨rfl, rfl⟩
  | pumpSwapOuter pool => exact ⟨rfl, rfl⟩
  | cpmmOuter pool =>
    have hsides := @RoutedMarket.sides_agree _ ⟨.cpmmOuter pool, bridge⟩ trivial user
    exact ⟨hsides.buyInput, hsides.sellInput⟩
  | raydiumAmmV4 pool =>
    have hprogram : ∀ mint, pool.pair.inputProgram mint = pool.tokenProgram := fun mint =>
      (ite_self _).trans (if_neg h)
    exact ⟨congrArg (ata user _) (hprogram _), (hpair pool.pair).trans
      (congrArg (ata user _) (hprogram _))⟩
  | meteoraDammV2 pool => exact ⟨rfl, hpair pool.pair⟩
  | raydiumClmm pool => exact ⟨rfl, hpair pool.pair⟩
  | whirlpool pool => exact ⟨rfl, hpair pool.pair⟩
  | meteoraDlmm pool => exact ⟨rfl, hpair pool.pair⟩

/-! ## The asset a trade takes or brings -/

omit [Pda] in
/-- A market that needs no bridge is quoted in WSOL. -/
theorem RoutedMarket.quoteMint_of_direct {market : RoutedMarket}
    (h : market.market.needsSolBridge = false) : market.quoteMint = wsolMint := by
  have hpair : ∀ {a b : Pubkey}, decide (a ≠ wsolMint ∧ b ≠ wsolMint) = false →
      pairQuote a b = wsolMint := by
    intro a b hab
    rw [decide_eq_false_iff_not] at hab
    exact if_pos (by tauto)
  obtain ⟨m, bridge⟩ := market
  cases m with
  | launchLabInner pool =>
    rw [Market.needsSolBridge, Bool.not_eq_false'] at h
    exact of_decide_eq_true h
  | pumpFunInner pool => exact not_not.mp (of_decide_eq_false h)
  | pumpSwapOuter pool => exact not_not.mp (of_decide_eq_false h)
  | cpmmOuter pool =>
    have hmeme : RoutedMarket.memeMint ⟨.cpmmOuter pool, bridge⟩
        = pool.memeMintSolPaired.getD pool.baseMint := by
      cases bridge with
      | none => rfl
      | some bridge =>
        unfold RoutedMarket.memeMint
        dsimp only
        rw [h]
        rfl
    obtain ⟨-, hquote, -⟩ := @RoutedMarket.cpmm_mints ⟨.cpmmOuter pool, bridge⟩ pool rfl
    have hwsol : ¬ (pool.baseMint ≠ wsolMint ∧ pool.quoteMint ≠ wsolMint) :=
      of_decide_eq_false h
    rw [← hquote, hmeme]
    unfold PoolPair.outputMint CpmmPool.pair CpmmPool.memeMintSolPaired
    grind
  | raydiumAmmV4 pool => exact hpair h
  | meteoraDammV2 pool => exact hpair h
  | raydiumClmm pool => exact hpair h
  | whirlpool pool => exact hpair h
  | meteoraDlmm pool => exact hpair h

omit [Pda] in
/-- A market that needs a bridge is not quoted in WSOL. -/
theorem RoutedMarket.quoteMint_ne_wsol {market : RoutedMarket}
    (h : market.market.needsSolBridge = true) : market.quoteMint ≠ wsolMint := by
  have hpair : ∀ {a b : Pubkey}, decide (a ≠ wsolMint ∧ b ≠ wsolMint) = true →
      pairQuote a b ≠ wsolMint := by
    intro a b hab
    rw [decide_eq_true_eq] at hab
    unfold pairQuote
    grind
  obtain ⟨m, bridge⟩ := market
  cases m with
  | launchLabInner pool =>
    rw [Market.needsSolBridge, Bool.not_eq_true'] at h
    exact of_decide_eq_false h
  | pumpFunInner pool => exact of_decide_eq_true h
  | pumpSwapOuter pool => exact of_decide_eq_true h
  | cpmmOuter pool =>
    obtain ⟨hbase, hquote⟩ : pool.baseMint ≠ wsolMint ∧ pool.quoteMint ≠ wsolMint :=
      of_decide_eq_true h
    obtain ⟨-, hmint, -⟩ := @RoutedMarket.cpmm_mints ⟨.cpmmOuter pool, bridge⟩ pool rfl
    rw [← hmint]
    unfold PoolPair.outputMint CpmmPool.pair
    split
    · exact hquote
    · exact hbase
  | raydiumAmmV4 pool => exact hpair h
  | meteoraDammV2 pool => exact hpair h
  | raydiumClmm pool => exact hpair h
  | whirlpool pool => exact hpair h
  | meteoraDlmm pool => exact hpair h

omit [Pda] in
/-- A curve quoted in native SOL needs no bridge. -/
theorem Market.needsSolBridge_of_native {market : Market}
    (h : market.isPumpNativeSol = true) : market.needsSolBridge = false := by
  cases market with
  | pumpFunInner pool => exact decide_eq_false (not_not.mpr (of_decide_eq_true h))
  | _ => cases h

omit [Pda] in
/-- **What a path trades against**: WSOL behind a bridge, and else the
market's quote or lamports. -/
theorem PathChecked.asset_eq {market : RoutedMarket} {token asset : Option Pubkey}
    {needsBridge isBuy : Bool} {opts : TradeOpts}
    (h : PathChecked market token needsBridge isBuy opts)
    (htoken : ∀ mint, token = some mint → asset = some mint)
    (hsol : token = none → asset = some wsolMint
      ∨ asset = none ∧ market.market.isPumpNativeSol = true) :
    if needsBridge then asset = some wsolMint
    else asset = some market.quoteMint ∨ asset = none := by
  cases token with
  | some mint =>
    obtain ⟨hquote, rfl⟩ := h.token_eq mint rfl
    exact .inl ((htoken mint rfl).trans (congrArg some hquote))
  | none =>
    have hneeds := h.sol rfl
    rcases hsol rfl with hasset | ⟨hasset, hnative⟩
    · cases needsBridge with
      | true => exact hasset
      | false =>
        exact .inl (by rw [hasset, market.quoteMint_of_direct hneeds.symm])
    · rw [Market.needsSolBridge_of_native hnative] at hneeds
      subst hneeds
      exact .inr hasset

omit [Pda] in
/-- Only PumpFun's native settlement pays lamports. -/
theorem RoutedMarket.payAsset_eq_none {market : RoutedMarket} {buyWith : BuyWith} :
    market.payAsset buyWith = none
      ↔ buyWith = .sol ∧ market.market.isPumpNativeSol = true := by
  cases buyWith with
  | sol => simp [RoutedMarket.payAsset]
  | wsol => simp [RoutedMarket.payAsset]
  | token mint => simp [RoutedMarket.payAsset]

omit [Pda] in
/-- Only PumpFun's native settlement brings lamports. -/
theorem RoutedMarket.receiveAsset_eq_none {market : RoutedMarket} {sellTo : SellTo} :
    market.receiveAsset sellTo = none
      ↔ sellTo = .sol ∧ market.market.isPumpNativeSol = true := by
  cases sellTo with
  | sol => simp [RoutedMarket.receiveAsset]
  | wsol => simp [RoutedMarket.receiveAsset]
  | token mint => simp [RoutedMarket.receiveAsset]

omit [Pda] in
theorem RoutedMarket.payAsset_eq {market : RoutedMarket} {buyWith : BuyWith}
    {needsBridge isBuy : Bool} {opts : TradeOpts}
    (h : PathChecked market buyWith.payMint needsBridge isBuy opts) :
    if needsBridge then market.payAsset buyWith = some wsolMint
    else market.payAsset buyWith = some market.quoteMint ∨ market.payAsset buyWith = none := by
  cases buyWith with
  | token mint => exact h.asset_eq (fun _ hmint => hmint) fun hnone => by cases hnone
  | wsol => exact h.asset_eq (fun _ hmint => by cases hmint) fun _ => .inl rfl
  | sol =>
    refine h.asset_eq (fun _ hmint => by cases hmint) fun _ => ?_
    cases hnative : market.market.isPumpNativeSol <;> simp [RoutedMarket.payAsset, hnative]

omit [Pda] in
theorem RoutedMarket.receiveAsset_eq {market : RoutedMarket} {sellTo : SellTo}
    {needsBridge isBuy : Bool} {opts : TradeOpts}
    (h : PathChecked market sellTo.receiveMint needsBridge isBuy opts) :
    if needsBridge then market.receiveAsset sellTo = some wsolMint
    else market.receiveAsset sellTo = some market.quoteMint
      ∨ market.receiveAsset sellTo = none := by
  cases sellTo with
  | token mint => exact h.asset_eq (fun _ hmint => hmint) fun hnone => by cases hnone
  | wsol => exact h.asset_eq (fun _ hmint => by cases hmint) fun _ => .inl rfl
  | sol =>
    refine h.asset_eq (fun _ hmint => by cases hmint) fun _ => ?_
    cases hnative : market.market.isPumpNativeSol <;> simp [RoutedMarket.receiveAsset, hnative]

omit [Pda] in
/-- A market lists its quote, with its token program. -/
theorem RoutedMarket.quote_listed {market : RoutedMarket} (h : market.market.TokenProgramSet) :
    (market.quoteMint, market.quoteTokenProgram) ∈ market.market.listed := by
  have hpair : ∀ {pair : PoolPair} {mint : Pubkey}, mint = pair.first ∨ mint = pair.second →
      (mint, pair.inputProgram mint) ∈ pair.mints := by
    intro pair mint hmint
    unfold PoolPair.inputProgram PoolPair.mints
    grind
  obtain ⟨m, bridge⟩ := market
  cases m with
  | launchLabInner pool => exact List.mem_cons_of_mem _ (List.mem_singleton_self _)
  | pumpFunInner pool => exact List.mem_singleton_self _
  | pumpSwapOuter pool => exact List.mem_cons_of_mem _ (List.mem_singleton_self _)
  | cpmmOuter pool =>
    obtain ⟨-, hquote, -, hprogram⟩ :=
      @RoutedMarket.cpmm_mints ⟨.cpmmOuter pool, bridge⟩ pool rfl
    rw [hprogram]
    exact hpair (by rw [← hquote]; exact (ite_eq_or_eq _ _ _).symm)
  | raydiumAmmV4 pool =>
    have hprogram : pool.tokenProgram
        = pool.pair.inputProgram (pairQuote pool.coinMint pool.pcMint) :=
      ((ite_self _).trans (if_neg h)).symm
    have hmem := hpair pool.pair.pairQuote_mem
    rwa [show pool.pair.inputProgram (pairQuote pool.pair.first pool.pair.second)
      = pool.tokenProgram from hprogram.symm] at hmem
  | meteoraDammV2 pool => exact hpair pool.pair.pairQuote_mem
  | raydiumClmm pool => exact hpair pool.pair.pairQuote_mem
  | whirlpool pool => exact hpair pool.pair.pairQuote_mem
  | meteoraDlmm pool => exact hpair pool.pair.pairQuote_mem

/-- The accounts of a native settlement. -/
theorem RoutedMarket.native_sides {market : RoutedMarket}
    (h : market.market.isPumpNativeSol = true) (user : Pubkey) :
    (market.market.buyHop user none).input.account = user
      ∧ (market.market.buyHop user none).output.account = market.memeAccount user
      ∧ (market.market.sellHop user none).input.account = market.memeAccount user
      ∧ (market.market.sellHop user none).output.account = user := by
  obtain ⟨m, bridge⟩ := market
  cases m with
  | pumpFunInner pool => exact ⟨rfl, rfl, rfl, rfl⟩
  | _ => cases h

/-! ## Where the programs do not agree -/

/-- The token programs a market may take for one mint. -/
def Market.programs : Market → List Pubkey
  | .raydiumAmmV4 pool => [pool.tokenProgram, pool.legTokenProgram]
  | .meteoraDammV2 pool => [pool.tokenAProgram, pool.tokenBProgram]
  | .raydiumClmm pool => [pool.token0Program, pool.token1Program]
  | .whirlpool pool => [pool.tokenProgramA, pool.tokenProgramB]
  | _ => []

/-- **The user's accounts of the meme under different programs are
different**, as derived addresses are. -/
def RoutedMarket.Separates (market : RoutedMarket) (user : Pubkey) : Prop :=
  ∀ p ∈ market.market.programs, ∀ q ∈ market.market.programs,
    ata user market.memeMint p = ata user market.memeMint q → p = q

instance (market : RoutedMarket) (user : Pubkey) : Decidable (market.Separates user) :=
  inferInstanceAs (Decidable (∀ p ∈ _, ∀ q ∈ _, _ → _))

/-- **A pool that lists one mint under two programs** is bought and sold with
the second where the accessors take the first. -/
theorem PoolPair.sides_differ {pair : PoolPair} {user : Pubkey} (h : ¬ pair.Unambiguous)
    (hseparates : ∀ p ∈ [pair.firstProgram, pair.secondProgram],
      ∀ q ∈ [pair.firstProgram, pair.secondProgram],
        ata user (pairBase pair.first pair.second) p
          = ata user (pairBase pair.first pair.second) q → p = q) :
    (pair.output user (pairQuote pair.first pair.second)).account
        ≠ ata user (pairBase pair.first pair.second)
          (pair.inputProgram (pairBase pair.first pair.second))
      ∧ (pair.output user (pairBase pair.first pair.second)).account
        ≠ ata user (pairQuote pair.first pair.second)
          (pair.inputProgram (pairQuote pair.first pair.second)) := by
  unfold Unambiguous at h
  rw [Classical.not_imp] at h
  obtain ⟨hsame, hprograms⟩ := h
  have hbase : pairBase pair.first pair.second = pair.first := by
    unfold pairBase
    grind
  have hquote : pairQuote pair.first pair.second = pair.first := by
    unfold pairQuote
    grind
  have hne : ata user pair.first pair.secondProgram ≠ ata user pair.first pair.firstProgram := by
    rw [hbase] at hseparates
    exact fun heq => hprograms (hseparates _ (by simp) _ (by simp) heq).symm
  have houtput : (pair.output user pair.first).account
      = ata user pair.first pair.secondProgram := by
    show ata user (pair.outputMint _) (pair.outputProgram _) = _
    rw [outputMint, outputProgram, if_pos rfl, if_pos rfl, hsame]
  have hinput : pair.inputProgram pair.first = pair.firstProgram := if_pos rfl
  rw [hbase, hquote, houtput, hinput]
  exact ⟨hne, hne⟩

/-- **Where the programs do not agree, the accounts differ**: a buy pays into
another account than the market's, and a sale takes from another one, or
pays into another one than it announces. -/
theorem RoutedMarket.sides_differ {market : RoutedMarket} {user : Pubkey}
    (h : ¬ market.market.ProgramsAgree) (hseparates : market.Separates user) :
    (market.market.buyHop user (some market.quoteMint)).output.account
        ≠ market.memeAccount user
      ∧ ((market.market.sellHop user (some market.quoteMint)).input.account
          ≠ market.memeAccount user
        ∨ (market.market.sellHop user (some market.quoteMint)).output.account
            ≠ market.quoteAccount user
          ∧ (market.market.receiveSide user (some market.quoteMint)).account
            = market.quoteAccount user) := by
  obtain ⟨m, bridge⟩ := market
  cases m with
  | raydiumAmmV4 pool =>
    have hunset : pool.tokenProgram = Pubkey.default := not_not.mp h
    have hleg : pool.legTokenProgram = tokenProgram := if_pos hunset
    have hne : ata user (pairBase pool.coinMint pool.pcMint) pool.legTokenProgram
        ≠ ata user (pairBase pool.coinMint pool.pcMint) pool.tokenProgram := by
      intro heq
      have hsame := hseparates _ (List.mem_cons_of_mem _ (List.mem_singleton_self _)) _
        List.mem_cons_self heq
      rw [hleg, hunset] at hsame
      exact absurd hsame (by decide)
    have hprogram : ∀ mint, pool.pair.outputProgram mint = pool.legTokenProgram :=
      fun _ => ite_self _
    have hprogram' : ∀ mint, pool.pair.inputProgram mint = pool.legTokenProgram :=
      fun _ => ite_self _
    refine ⟨?_, .inl ?_⟩
    · show ata user (pool.pair.outputMint (pairQuote pool.pair.first pool.pair.second))
        (pool.pair.outputProgram _) ≠ _
      rw [pool.pair.outputMint_pairQuote, hprogram]
      exact hne
    · show ata user (pool.pair.outputMint (pairQuote pool.pair.first pool.pair.second))
        (pool.pair.inputProgram _) ≠ _
      rw [pool.pair.outputMint_pairQuote, hprogram']
      exact hne
  | meteoraDammV2 pool =>
    obtain ⟨hbuy, hsell⟩ := PoolPair.sides_differ h hseparates
    rw [← pool.pair.outputMint_pairQuote] at hsell
    exact ⟨hbuy, .inr ⟨hsell, rfl⟩⟩
  | raydiumClmm pool =>
    obtain ⟨hbuy, hsell⟩ := PoolPair.sides_differ h hseparates
    rw [← pool.pair.outputMint_pairQuote] at hsell
    exact ⟨hbuy, .inr ⟨hsell, rfl⟩⟩
  | whirlpool pool =>
    obtain ⟨hbuy, hsell⟩ := PoolPair.sides_differ h hseparates
    rw [← pool.pair.outputMint_pairQuote] at hsell
    exact ⟨hbuy, .inr ⟨hsell, rfl⟩⟩
  | _ => exact absurd trivial h

end Accounts

end Sdk
