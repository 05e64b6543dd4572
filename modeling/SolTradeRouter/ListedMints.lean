import SolTradeRouter.BuiltTrades

/-!
# The mints a market lists

A snapshot lists the mints of a pool, each with the program its tokens
belong to. WSOL belongs to the classic token program, and every leg builder
refuses a pool that lists it under another one. A trade that takes SOL or
WSOL on the market itself has been through such a builder, so that its
market lists WSOL under the classic program, as the header of its route
assumes.
-/

namespace Sdk

open Outcome

/-- The mints of a pool, with their token programs. -/
def PoolPair.mints (pair : PoolPair) : List (Pubkey × Pubkey) :=
  [(pair.first, pair.firstProgram), (pair.second, pair.secondProgram)]

/-- **The mints a market lists**, with the token programs its legs take for
them. Of a PumpFun curve it is the quote that may be WSOL's. -/
def Market.listed : Market → List (Pubkey × Pubkey)
  | .launchLabInner pool =>
    [(pool.baseMint, pool.baseTokenProgram), (pool.quoteMint, pool.quoteTokenProgram)]
  | .cpmmOuter pool => pool.pair.mints
  | .pumpFunInner pool => [(pool.quoteMint, pool.quoteTokenProgram)]
  | .pumpSwapOuter pool =>
    [(pool.baseMint, pool.baseTokenProgram), (pool.quoteMint, pool.quoteTokenProgram)]
  | .raydiumAmmV4 pool => pool.pair.mints
  | .meteoraDammV2 pool => pool.pair.mints
  | .raydiumClmm pool => pool.pair.mints
  | .whirlpool pool => pool.pair.mints
  | .meteoraDlmm pool => pool.pair.mints

/-- WSOL is listed under the classic token program, if at all. -/
def WsolClassic (mints : List (Pubkey × Pubkey)) : Prop :=
  ∀ m ∈ mints, m.1 = wsolMint → m.2 = tokenProgram

/-! ## Every swap checks it -/

/-- What begins with the check of the mints has checked them. -/
theorem classic_of_requires {mints : List (Pubkey × Pubkey)} {dex : String} {α : Type}
    {rest : Unit → Result α} {a : α} (h : (requireMintPrograms mints dex >>= rest) = .ok a) :
    WsolClassic mints := by
  obtain ⟨_, hprograms, -⟩ := bind_eq_ok.mp h
  exact requireMintPrograms_eq_ok hprograms

section Swaps

variable [Pda] [Upstream] {client : RouterClient} {opts : TradeOpts} {amount minOut : UInt64}
  {legs : List Leg} {mint account : Pubkey}

/-- A buy on PumpSwap, with its output fixed or not. -/
theorem buyPumpswapWithQuote_classic {pool : PumpSwapPool}
    (h : client.buyPumpswapWithQuote amount pool mint opts = .ok (legs, minOut)) :
    WsolClassic (Market.pumpSwapOuter pool).listed := by
  obtain ⟨_, -, h⟩ := bind_eq_ok.mp h
  split at h
  · obtain ⟨leg, hleg, -⟩ := bind_eq_ok.mp h
    obtain ⟨_, haccounts, -⟩ := bind_eq_ok.mp hleg
    exact classic_of_requires haccounts
  · obtain ⟨_, -, h⟩ := bind_eq_ok.mp h
    obtain ⟨leg, hleg, -⟩ := bind_eq_ok.mp h
    obtain ⟨_, haccounts, -⟩ := bind_eq_ok.mp hleg
    exact classic_of_requires haccounts

/-- A sale there. -/
theorem sellPumpswapToQuote_classic {pool : PumpSwapPool}
    (h : client.sellPumpswapToQuote amount pool mint opts = .ok (legs, minOut, account)) :
    WsolClassic (Market.pumpSwapOuter pool).listed := by
  obtain ⟨_, -, h⟩ := bind_eq_ok.mp h
  obtain ⟨_, -, h⟩ := bind_eq_ok.mp h
  obtain ⟨leg, hleg, -⟩ := bind_eq_ok.mp h
  obtain ⟨_, haccounts, -⟩ := bind_eq_ok.mp hleg
  exact classic_of_requires haccounts

omit [Upstream] in
/-- An AMM V4 leg takes the classic program for every mint. -/
theorem buyRaydiumV4WithMint_classic {pool : RaydiumAmmV4Pool}
    (h : client.buyRaydiumV4WithMint amount pool mint opts = .ok (legs, minOut)) :
    WsolClassic pool.pair.mints := by
  have hprogram : pool.legTokenProgram = tokenProgram := buyRaydiumV4WithMint_program h
  simp [WsolClassic, PoolPair.mints, RaydiumAmmV4Pool.pair, hprogram]

omit [Upstream] in
/-- A buy on DAMM V2, with its output fixed or not. -/
theorem buyMeteoraV2WithMint_classic {pool : MeteoraDammV2Pool}
    (h : client.buyMeteoraV2WithMint amount pool mint opts = .ok (legs, minOut)) :
    WsolClassic pool.pair.mints := by
  unfold RouterClient.buyMeteoraV2WithMint at h
  split at h
  · obtain ⟨leg, hleg, -⟩ := bind_eq_ok.mp h
    exact classic_of_requires hleg
  · obtain ⟨_, -, h⟩ := bind_eq_ok.mp h
    obtain ⟨leg, hleg, -⟩ := bind_eq_ok.mp h
    exact classic_of_requires hleg

omit [Pda] [Upstream] in
/-- A swap on a concentrated pool has built its leg. -/
theorem buyConcentrated_leg {quotedInputMint : Option Pubkey}
    {expectedOut quotedAmountIn : Option UInt64} {dex : String}
    {swapLeg : UInt64 → Result Leg}
    (h : RouterClient.buyConcentrated quotedInputMint expectedOut quotedAmountIn dex swapLeg
      amount mint opts = .ok (legs, minOut)) : ∃ min leg, swapLeg min = .ok leg := by
  obtain ⟨_, -, h⟩ := bind_eq_ok.mp h
  obtain ⟨min, -, h⟩ := bind_eq_ok.mp h
  obtain ⟨leg, hleg, -⟩ := bind_eq_ok.mp h
  exact ⟨min, leg, hleg⟩

omit [Upstream] in
/-- On CLMM. -/
theorem buyRaydiumClmmWithMint_classic {pool : RaydiumClmmPool}
    (h : client.buyRaydiumClmmWithMint amount pool mint opts = .ok (legs, minOut)) :
    WsolClassic pool.pair.mints := by
  obtain ⟨_, _, hleg⟩ := buyConcentrated_leg h
  exact classic_of_requires hleg

omit [Upstream] in
/-- On Whirlpool. -/
theorem buyWhirlpoolWithMint_classic {pool : WhirlpoolPool}
    (h : client.buyWhirlpoolWithMint amount pool mint opts = .ok (legs, minOut)) :
    WsolClassic pool.pair.mints := by
  obtain ⟨_, _, hleg⟩ := buyConcentrated_leg h
  exact classic_of_requires hleg

/-- On DLMM. -/
theorem buyMeteoraDlmmWithMint_classic {pool : MeteoraDlmmPool}
    (h : client.buyMeteoraDlmmWithMint amount pool mint opts = .ok (legs, minOut)) :
    WsolClassic pool.pair.mints := by
  obtain ⟨_, _, hleg⟩ := buyConcentrated_leg h
  exact classic_of_requires hleg

omit [Upstream] in
/-- And a swap on CPMM, with its output fixed or not. -/
theorem swapCpmm_classic {pool : CpmmPool} {output : Pubkey}
    (h : client.swapCpmm amount pool mint output opts = .ok (legs, minOut, account)) :
    WsolClassic pool.pair.mints := by
  unfold RouterClient.swapCpmm at h
  dsimp only at h
  split at h
  · obtain ⟨leg, hleg, -⟩ := bind_eq_ok.mp h
    exact classic_of_requires hleg
  · obtain ⟨_, -, h⟩ := bind_eq_ok.mp h
    obtain ⟨leg, hleg, -⟩ := bind_eq_ok.mp h
    exact classic_of_requires hleg

end Swaps

/-! ## And every trade without a bridge -/

section Trades

variable [Pda] [Upstream] {client : RouterClient} {opts : TradeOpts} {market : RoutedMarket}
  {amount : UInt64} {s : TradeSetup}

/-- A buy on a pool of two mints without a bridge is one swap. -/
theorem exists_swap_of_buyPair {programOf : Pubkey → Pubkey}
    {swap : Pubkey → Result (List Leg × UInt64)} {built : BuyLegs}
    (hdirect : opts.buyWith.payMint = none → market.market.needsSolBridge = false)
    (h : client.buyPair programOf swap amount market opts s = .ok built) :
    ∃ mint swapped, swap mint = .ok swapped := by
  unfold RouterClient.buyPair at h
  cases hbuy : opts.buyWith with
  | token mint =>
    rw [hbuy] at h
    obtain ⟨swapped, hswapped, -⟩ := bind_eq_ok.mp h
    exact ⟨mint, swapped, hswapped⟩
  | _ =>
    rw [hbuy] at h hdirect
    dsimp only at h
    rw [hdirect rfl] at h
    obtain ⟨swapped, hswapped, -⟩ := bind_eq_ok.mp h
    exact ⟨wsolMint, swapped, hswapped⟩

/-- A sale on a pair has made its swap, unless it went over the bridge. -/
theorem exists_swap_of_sellPair {programOf : Pubkey → Pubkey}
    {swap : Pubkey → Result (List Leg × UInt64 × Pubkey)} {built : SellLegs}
    (hdirect : opts.sellTo.receiveMint = none → market.market.needsSolBridge = false)
    (h : client.sellPair programOf swap amount market opts s = .ok built) :
    ∃ mint swapped, swap mint = .ok swapped := by
  unfold RouterClient.sellPair at h
  cases hsell : opts.sellTo with
  | token mint =>
    rw [hsell] at h
    obtain ⟨swapped, hswapped, -⟩ := bind_eq_ok.mp h
    exact ⟨mint, swapped, hswapped⟩
  | _ =>
    rw [hsell] at h hdirect
    dsimp only at h
    rw [hdirect rfl] at h
    obtain ⟨swapped, hswapped, -⟩ := bind_eq_ok.mp h
    exact ⟨wsolMint, swapped, hswapped⟩

omit [Upstream] in
/-- A buy on a CPMM pool itself is one of its swaps. -/
theorem buyCpmmWithMint_classic {pool : CpmmPool} {input output : Pubkey} {built : BuyLegs}
    (h : client.buyCpmmWithMint amount pool input output opts s = .ok built) :
    WsolClassic pool.pair.mints := by
  obtain ⟨⟨legs, minOut, account⟩, hswap, -⟩ := bind_eq_ok.mp h
  exact swapCpmm_classic hswap

omit [Upstream] in
/-- And so is a sale. -/
theorem sellCpmmToMint_classic {pool : CpmmPool} {input output : Pubkey} {built : SellLegs}
    (h : client.sellCpmmToMint amount pool input output opts s = .ok built) :
    WsolClassic pool.pair.mints := by
  obtain ⟨⟨legs, minOut, account⟩, hswap, -⟩ := bind_eq_ok.mp h
  exact swapCpmm_classic hswap

omit [Upstream] in
/-- A buy on a CPMM market, unless it goes over the bridge. -/
theorem buyCpmmMarket_classic {pool : CpmmPool} {built : BuyLegs}
    (hdirect : opts.buyWith.payMint = none → market.market.needsSolBridge = false)
    (h : client.buyCpmmMarket amount pool market opts s = .ok built) :
    WsolClassic pool.pair.mints := by
  unfold RouterClient.buyCpmmMarket at h
  cases hbuy : opts.buyWith with
  | token mint =>
    rw [hbuy] at h
    exact buyCpmmWithMint_classic h
  | _ =>
    rw [hbuy] at h hdirect
    dsimp only at h
    rw [hdirect rfl] at h
    exact buyCpmmWithMint_classic h

omit [Upstream] in
/-- And a sale on one. -/
theorem sellCpmmMarket_classic {pool : CpmmPool} {built : SellLegs}
    (hdirect : opts.sellTo.receiveMint = none → market.market.needsSolBridge = false)
    (h : client.sellCpmmMarket amount pool market opts s = .ok built) :
    WsolClassic pool.pair.mints := by
  unfold RouterClient.sellCpmmMarket at h
  cases hsell : opts.sellTo with
  | token mint =>
    rw [hsell] at h
    exact sellCpmmToMint_classic h
  | _ =>
    rw [hsell] at h hdirect
    dsimp only at h
    rw [hdirect rfl] at h
    exact sellCpmmToMint_classic h

omit [Pda] [Upstream] in
/-- The curves check their mints before a leg is built. A PumpFun curve that
settles in lamports need not list WSOL's program. -/
theorem curve_classic {quoteAta : Bool}
    (hquote : quoteAta = true ∨ market.market.isPumpNativeSol = false)
    (h : validateInnerMarketPrograms market quoteAta = .ok ()) :
    (∀ pool, market.market = .launchLabInner pool → WsolClassic market.market.listed)
      ∧ ∀ pool, market.market = .pumpFunInner pool → WsolClassic market.market.listed := by
  refine ⟨fun pool hmarket => ?_, fun pool hmarket => ?_⟩
  · unfold validateInnerMarketPrograms at h
    rw [hmarket] at h ⊢
    exact requireMintPrograms_eq_ok h
  · rw [hmarket] at hquote ⊢
    intro m hm hwsol
    rw [List.mem_singleton.mp hm] at hwsol ⊢
    have hnative : pool.isNativeSolQuote = true := decide_eq_true hwsol
    rcases hquote with rfl | hnot
    · exact RouterClient.validateInnerMarketPrograms_pumpFun hmarket hnative h
    · exact absurd (hnative.symm.trans hnot) (by decide)

/-- **A buy that takes a token on its market lists WSOL's program.** -/
theorem buildBuyLegs_classic {built : BuyLegs}
    (hprograms : validateInnerMarketPrograms market (opts.buyWith ≠ .sol) = .ok ())
    (hasset : market.payAsset opts.buyWith ≠ none)
    (hdirect : opts.buyWith.payMint = none → market.market.needsSolBridge = false)
    (h : client.buildBuyLegs amount market opts s = .ok built) :
    WsolClassic market.market.listed := by
  have hquote : decide (opts.buyWith ≠ .sol) = true ∨ market.market.isPumpNativeSol = false := by
    cases hbuy : opts.buyWith with
    | sol =>
      rw [hbuy, RoutedMarket.payAsset] at hasset
      exact .inr (by simpa using hasset)
    | _ => exact .inl rfl
  obtain ⟨hlaunch, hpump⟩ := curve_classic hquote hprograms
  unfold RouterClient.buildBuyLegs at h
  dsimp only at h
  split at h <;> rename_i pool hmarket
  case h_1 => exact hpump pool hmarket
  case h_2 => exact hlaunch pool hmarket
  case h_3 =>
    rw [hmarket]
    exact buyCpmmMarket_classic hdirect h
  case h_4 =>
    obtain ⟨_, _, hswap⟩ := exists_swap_of_buyPair hdirect h
    rw [hmarket]
    exact buyPumpswapWithQuote_classic hswap
  case h_5 =>
    obtain ⟨_, _, hswap⟩ := exists_swap_of_buyPair hdirect h
    rw [hmarket]
    exact buyRaydiumV4WithMint_classic hswap
  case h_6 =>
    obtain ⟨_, _, hswap⟩ := exists_swap_of_buyPair hdirect h
    rw [hmarket]
    exact buyMeteoraV2WithMint_classic hswap
  case h_7 =>
    obtain ⟨_, _, hswap⟩ := exists_swap_of_buyPair hdirect h
    rw [hmarket]
    exact buyRaydiumClmmWithMint_classic hswap
  case h_8 =>
    obtain ⟨_, _, hswap⟩ := exists_swap_of_buyPair hdirect h
    rw [hmarket]
    exact buyWhirlpoolWithMint_classic hswap
  case h_9 =>
    obtain ⟨_, _, hswap⟩ := exists_swap_of_buyPair hdirect h
    rw [hmarket]
    exact buyMeteoraDlmmWithMint_classic hswap

/-- **A sale that brings a token on its market lists WSOL's program.** -/
theorem buildSellLegs_classic {built : SellLegs}
    (hprograms : validateInnerMarketPrograms market (opts.sellTo ≠ .sol) = .ok ())
    (hasset : market.receiveAsset opts.sellTo ≠ none)
    (hdirect : opts.sellTo.receiveMint = none → market.market.needsSolBridge = false)
    (h : client.buildSellLegs amount market opts s = .ok built) :
    WsolClassic market.market.listed := by
  have hquote : decide (opts.sellTo ≠ .sol) = true ∨ market.market.isPumpNativeSol = false := by
    cases hsell : opts.sellTo with
    | sol =>
      rw [hsell, RoutedMarket.receiveAsset] at hasset
      exact .inr (by simpa using hasset)
    | _ => exact .inl rfl
  obtain ⟨hlaunch, hpump⟩ := curve_classic hquote hprograms
  unfold RouterClient.buildSellLegs at h
  dsimp only at h
  split at h <;> rename_i pool hmarket
  case h_1 => exact hpump pool hmarket
  case h_2 => exact hlaunch pool hmarket
  case h_3 =>
    rw [hmarket]
    exact sellCpmmMarket_classic hdirect h
  case h_4 =>
    obtain ⟨_, _, hswap⟩ := exists_swap_of_sellPair hdirect h
    rw [hmarket]
    exact sellPumpswapToQuote_classic hswap
  case h_5 =>
    obtain ⟨_, _, hswap⟩ := exists_swap_of_sellPair hdirect h
    obtain ⟨_, -, hswap⟩ := bind_eq_ok.mp hswap
    obtain ⟨_, hswap, -⟩ := bind_eq_ok.mp hswap
    rw [hmarket]
    exact buyRaydiumV4WithMint_classic hswap
  case h_6 =>
    obtain ⟨_, _, hswap⟩ := exists_swap_of_sellPair hdirect h
    obtain ⟨_, -, hswap⟩ := bind_eq_ok.mp hswap
    obtain ⟨_, hswap, -⟩ := bind_eq_ok.mp hswap
    rw [hmarket]
    exact buyMeteoraV2WithMint_classic hswap
  case h_7 =>
    obtain ⟨_, _, hswap⟩ := exists_swap_of_sellPair hdirect h
    obtain ⟨_, -, hswap⟩ := bind_eq_ok.mp hswap
    obtain ⟨_, hswap, -⟩ := bind_eq_ok.mp hswap
    rw [hmarket]
    exact buyRaydiumClmmWithMint_classic hswap
  case h_8 =>
    obtain ⟨_, _, hswap⟩ := exists_swap_of_sellPair hdirect h
    obtain ⟨_, -, hswap⟩ := bind_eq_ok.mp hswap
    obtain ⟨_, hswap, -⟩ := bind_eq_ok.mp hswap
    rw [hmarket]
    exact buyWhirlpoolWithMint_classic hswap
  case h_9 =>
    obtain ⟨_, _, hswap⟩ := exists_swap_of_sellPair hdirect h
    obtain ⟨_, -, hswap⟩ := bind_eq_ok.mp hswap
    obtain ⟨_, hswap, -⟩ := bind_eq_ok.mp hswap
    rw [hmarket]
    exact buyMeteoraDlmmWithMint_classic hswap

/-- **So does every buy without a bridge**, and every sale. -/
theorem buyWithOpts_classic {amountIn : UInt64} {trade : BuiltTrade}
    (h : client.buyWithOpts amountIn market opts = .ok trade)
    (hasset : market.payAsset opts.buyWith ≠ none)
    (hdirect : opts.buyWith.payMint = none → market.market.needsSolBridge = false) :
    WsolClassic market.market.listed := by
  obtain ⟨_, -, h⟩ := bind_eq_ok.mp h
  obtain ⟨_, -, h⟩ := bind_eq_ok.mp h
  obtain ⟨_, hprograms, h⟩ := bind_eq_ok.mp h
  obtain ⟨_, -, h⟩ := bind_eq_ok.mp h
  obtain ⟨_, -, h⟩ := bind_eq_ok.mp h
  obtain ⟨_, -, h⟩ := bind_eq_ok.mp h
  obtain ⟨_, -, h⟩ := bind_eq_ok.mp h
  obtain ⟨_, hbuilt, -⟩ := bind_eq_ok.mp h
  exact buildBuyLegs_classic hprograms hasset hdirect hbuilt

/-- **And every sale that was built does.** -/
theorem sellWithOpts_classic {amountIn : UInt64} {trade : BuiltTrade}
    (h : client.sellWithOpts amountIn market opts = .ok trade)
    (hasset : market.receiveAsset opts.sellTo ≠ none)
    (hdirect : opts.sellTo.receiveMint = none → market.market.needsSolBridge = false) :
    WsolClassic market.market.listed := by
  obtain ⟨_, -, h⟩ := bind_eq_ok.mp h
  obtain ⟨_, -, h⟩ := bind_eq_ok.mp h
  obtain ⟨_, hprograms, h⟩ := bind_eq_ok.mp h
  obtain ⟨_, -, h⟩ := bind_eq_ok.mp h
  obtain ⟨_, -, h⟩ := bind_eq_ok.mp h
  obtain ⟨_, -, h⟩ := bind_eq_ok.mp h
  obtain ⟨_, -, h⟩ := bind_eq_ok.mp h
  obtain ⟨_, hbuilt, -⟩ := bind_eq_ok.mp h
  exact buildSellLegs_classic hprograms hasset hdirect hbuilt

/-- A buy without a bridge, once it is built. -/
theorem RouterClient.Bought.classic {amountIn spend spent routeAmountIn minOut : UInt64}
    {trade : BuiltTrade} {needsBridge : Bool} {legs : List Leg} {s : TradeSetup}
    (hb : client.Bought amountIn market opts trade needsBridge spend spent routeAmountIn minOut
      legs s)
    (h : client.buyWithOpts amountIn market opts = .ok trade)
    (hasset : market.payAsset opts.buyWith ≠ none) (hneeds : needsBridge = false) :
    WsolClassic market.market.listed :=
  buyWithOpts_classic h hasset fun hnone => (hb.path.sol hnone).symm.trans hneeds

/-- A sale without a bridge, once it is built. -/
theorem RouterClient.Sold.classic {amountIn sellAmt minOut : UInt64} {account : Pubkey}
    {trade : BuiltTrade} {needsBridge : Bool} {legs : List Leg} {s : TradeSetup}
    (hs : client.Sold amountIn market opts trade needsBridge sellAmt minOut account legs s)
    (h : client.sellWithOpts amountIn market opts = .ok trade)
    (hasset : market.receiveAsset opts.sellTo ≠ none) (hneeds : needsBridge = false) :
    WsolClassic market.market.listed :=
  sellWithOpts_classic h hasset fun hnone => (hs.path.sol hnone).symm.trans hneeds

end Trades

end Sdk
