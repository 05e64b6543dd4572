import SolTradeRouter.Hops

/-!
# The legs built for hops

Each function that builds a single swap builds it for the hop of its pool:
the leg moves its amounts between the sides of the hop, and its minimum
comes from the hop's quote. The same holds for a leg on a bridge, and for
the leg on the market of a bridged trade.
-/

namespace Sdk

open Outcome Bytes

/-! ## Single swaps -/

/-- **One leg for a hop**: with the amount as its exact input, or as the
most it may take for a fixed output. -/
inductive Single (user : Pubkey) (opts : TradeOpts) (hop : Hop) (amount : UInt64) :
    List Leg → UInt64 → Prop
  | exactIn {leg : Leg} {minOut : UInt64} (hfixed : opts.fixedOutput = none)
    (hleg : hop.Trades user leg amount minOut)
    (hfloor : opts.Floor (hop.quote amount) minOut) : Single user opts hop amount [leg] minOut
  | fixedOut {leg : Leg} {target : UInt64} {format : LegFormat}
    (hfixed : opts.fixedOutput = some target) (hformat : hop.format.fixed = some format)
    (hleg : Swaps leg format user hop.input.account hop.output.account amount target) :
    Single user opts hop amount [leg] target

/-- The programs of a pool's mints are supported, and WSOL's is the classic
one. -/
theorem requireMintPrograms_eq_ok {mints : List (Pubkey × Pubkey)} {dex : String} {u : Unit}
    (h : requireMintPrograms mints dex = .ok u) :
    ∀ m ∈ mints, m.1 = wsolMint → m.2 = tokenProgram := by
  induction mints with
  | nil => exact fun m hm => absurd hm List.not_mem_nil
  | cons m mints ih =>
    obtain ⟨mint, program⟩ := m
    obtain ⟨_, -, h⟩ := bind_eq_ok.mp h
    obtain ⟨_, hwsol, h⟩ := bind_eq_ok.mp h
    intro m hm hmint
    rcases List.mem_cons.mp hm with rfl | hm
    · exact not_not.mp fun hne => failIf_eq_ok.mp hwsol ⟨hmint, hne⟩
    · exact ih h m hm hmint

section Swaps

variable [Pda] {client : RouterClient} {opts : TradeOpts} {amount minOut : UInt64}
  {legs : List Leg} {account : Pubkey}

/-- A buy on PumpSwap. -/
theorem buyPumpswapWithQuote_single [Upstream] {pool : PumpSwapPool} {mint : Pubkey}
    (h : client.buyPumpswapWithQuote amount pool mint opts = .ok (legs, minOut)) :
    Single client.payer opts (pool.buyHop client.payer) amount legs minOut := by
  obtain ⟨_, -, h⟩ := bind_eq_ok.mp h
  cases hfixed : opts.fixedOutput with
  | some target =>
    rw [hfixed] at h
    obtain ⟨leg, hleg, h⟩ := bind_eq_ok.mp h
    cases h
    exact .fixedOut hfixed rfl (pumpswapBuyExactOutLeg_swaps hleg)
  | none =>
    rw [hfixed] at h
    obtain ⟨min, hmin, h⟩ := bind_eq_ok.mp h
    obtain ⟨leg, hleg, h⟩ := bind_eq_ok.mp h
    cases h
    exact .exactIn hfixed (pumpswapBuyLeg_exactInput hleg).swaps
      (TradeOpts.quotedMinOut_eq_ok hmin).1

/-- A sale there. -/
theorem sellPumpswapToQuote_single [Upstream] {pool : PumpSwapPool} {mint : Pubkey}
    (hfixed : opts.fixedOutput = none)
    (h : client.sellPumpswapToQuote amount pool mint opts = .ok (legs, minOut, account)) :
    Single client.payer opts (pool.sellHop client.payer) amount legs minOut
      ∧ account = (pool.sellHop client.payer).output.account := by
  obtain ⟨_, hmint, h⟩ := bind_eq_ok.mp h
  obtain ⟨min, hmin, h⟩ := bind_eq_ok.mp h
  obtain ⟨leg, hleg, h⟩ := bind_eq_ok.mp h
  cases h
  refine ⟨.exactIn hfixed (pumpswapSellLeg_exactInput hleg).swaps
    (TradeOpts.minOutOr_eq_ok hmin), ?_⟩
  rw [not_not.mp (failIf_eq_ok.mp hmint)]
  rfl

/-- A buy on AMM V4. -/
theorem buyRaydiumV4WithMint_single {pool : RaydiumAmmV4Pool} {input : Pubkey}
    (h : client.buyRaydiumV4WithMint amount pool input opts = .ok (legs, minOut)) :
    Single client.payer opts (pool.hop client.payer input) amount legs minOut := by
  unfold RouterClient.buyRaydiumV4WithMint at h
  cases hfixed : opts.fixedOutput with
  | some target =>
    rw [hfixed] at h
    obtain ⟨leg, hleg, h⟩ := bind_eq_ok.mp h
    cases h
    exact .fixedOut hfixed rfl (raydiumAmmV4SwapExactOutLeg_swaps hleg)
  | none =>
    rw [hfixed] at h
    obtain ⟨min, hmin, h⟩ := bind_eq_ok.mp h
    obtain ⟨leg, hleg, h⟩ := bind_eq_ok.mp h
    cases h
    exact .exactIn hfixed (raydiumAmmV4SwapLeg_exactInput hleg).swaps
      (TradeOpts.quotedMinOut_eq_ok hmin).1

/-- A buy on DAMM V2, whose mode says which amount is fixed. -/
theorem buyMeteoraV2WithMint_single {pool : MeteoraDammV2Pool} {input : Pubkey}
    (h : client.buyMeteoraV2WithMint amount pool input opts = .ok (legs, minOut)) :
    Single client.payer opts (pool.hop client.payer input) amount legs minOut := by
  unfold RouterClient.buyMeteoraV2WithMint at h
  cases hfixed : opts.fixedOutput with
  | some target =>
    rw [hfixed] at h
    obtain ⟨leg, hleg, h⟩ := bind_eq_ok.mp h
    cases h
    have hswaps := meteoraDammV2SwapLeg_swaps rfl hleg
    exact .fixedOut hfixed rfl hswaps
  | none =>
    rw [hfixed] at h
    obtain ⟨min, hmin, h⟩ := bind_eq_ok.mp h
    obtain ⟨leg, hleg, h⟩ := bind_eq_ok.mp h
    cases h
    have hexact := meteoraDammV2SwapLeg_exactInput rfl hleg
    exact .exactIn hfixed hexact.swaps (TradeOpts.minOutOr_eq_ok hmin)

omit [Pda] in
/-- A swap on a concentrated pool is a single swap, for a hop with the
snapshot's quote. -/
theorem buyConcentrated_single {hop : Hop} {user : Pubkey} {quotedInputMint : Option Pubkey}
    {expectedOut quotedAmountIn : Option UInt64} {dex : String}
    {swapLeg : UInt64 → Result Leg} {input : Pubkey} (hfixed : opts.fixedOutput = none)
    (hquote : hop.quote = snapshotQuote quotedInputMint expectedOut quotedAmountIn dex input)
    (hleg : ∀ min leg, swapLeg min = .ok leg → hop.Trades user leg amount min)
    (h : RouterClient.buyConcentrated quotedInputMint expectedOut quotedAmountIn dex swapLeg
      amount input opts = .ok (legs, minOut)) :
    Single user opts hop amount legs minOut := by
  obtain ⟨_, hdirection, h⟩ := bind_eq_ok.mp h
  obtain ⟨min, hmin, h⟩ := bind_eq_ok.mp h
  obtain ⟨leg, hswap, h⟩ := bind_eq_ok.mp h
  cases h
  exact .exactIn hfixed (hleg _ _ hswap)
    (hquote ▸ TradeOpts.concentrated_floor hdirection hmin)

/-- On CLMM. -/
theorem buyRaydiumClmmWithMint_single {pool : RaydiumClmmPool} {input : Pubkey}
    (hfixed : opts.fixedOutput = none)
    (h : client.buyRaydiumClmmWithMint amount pool input opts = .ok (legs, minOut)) :
    Single client.payer opts (pool.hop client.payer input) amount legs minOut :=
  buyConcentrated_single hfixed rfl
    (fun _ _ hleg => (raydiumClmmSwapLeg_exactInput hleg).swaps) h

/-- On Whirlpool. -/
theorem buyWhirlpoolWithMint_single {pool : WhirlpoolPool} {input : Pubkey}
    (hfixed : opts.fixedOutput = none)
    (h : client.buyWhirlpoolWithMint amount pool input opts = .ok (legs, minOut)) :
    Single client.payer opts (pool.hop client.payer input) amount legs minOut :=
  buyConcentrated_single hfixed rfl
    (fun _ _ hleg => (whirlpoolSwapLeg_exactInput hleg).swaps) h

/-- And on DLMM. -/
theorem buyMeteoraDlmmWithMint_single [Upstream] {pool : MeteoraDlmmPool} {input : Pubkey}
    (hfixed : opts.fixedOutput = none)
    (h : client.buyMeteoraDlmmWithMint amount pool input opts = .ok (legs, minOut)) :
    Single client.payer opts (pool.hop client.payer input) amount legs minOut :=
  buyConcentrated_single hfixed rfl
    (fun _ _ hleg => (meteoraDlmmSwapLeg_exactInput hleg).swaps) h

omit [Pda] in
/-- The two mints of a CPMM swap are the pool's. -/
theorem cpmmLeg_mints {disc : List UInt8} {user : Pubkey} {pool : CpmmPool} {a b : UInt64}
    {inputMint outputMint userIn userOut : Pubkey} {leg : Leg}
    (h : cpmmLeg disc user pool a b inputMint outputMint userIn userOut = .ok leg) :
    outputMint = pool.pair.outputMint inputMint
      ∧ (inputMint = pool.baseMint ∨ inputMint = pool.quoteMint) := by
  obtain ⟨_, -, h⟩ := bind_eq_ok.mp h
  obtain ⟨⟨inputVault, outputVault, inputTp, outputTp⟩, hsides, h⟩ := bind_eq_ok.mp h
  obtain ⟨hout, -, -, hin⟩ := cpmmSides_eq_ok hsides
  exact ⟨hout, hin⟩

/-- **A swap on CPMM**, out of one of the pool's mints and into the other. -/
theorem swapCpmm_single {pool : CpmmPool} {input output : Pubkey}
    (h : client.swapCpmm amount pool input output opts = .ok (legs, minOut, account)) :
    Single client.payer opts (pool.hop client.payer input) amount legs minOut
      ∧ output = pool.pair.outputMint input
      ∧ (input = pool.baseMint ∨ input = pool.quoteMint)
      ∧ account = (pool.hop client.payer input).output.account := by
  unfold RouterClient.swapCpmm at h
  cases hfixed : opts.fixedOutput with
  | some target =>
    rw [hfixed] at h
    obtain ⟨leg, hleg, h⟩ := bind_eq_ok.mp h
    obtain ⟨rfl, hinput⟩ := cpmmLeg_mints hleg
    cases h
    exact ⟨.fixedOut hfixed rfl (cpmmSwapExactOutLeg_swaps hleg), rfl, hinput, rfl⟩
  | none =>
    rw [hfixed] at h
    obtain ⟨min, hmin, h⟩ := bind_eq_ok.mp h
    obtain ⟨leg, hleg, h⟩ := bind_eq_ok.mp h
    obtain ⟨rfl, hinput⟩ := cpmmLeg_mints hleg
    cases h
    exact ⟨.exactIn hfixed (cpmmSwapLeg_exactInput hleg).swaps
      (TradeOpts.quotedMinOut_eq_ok hmin).1, rfl, hinput, rfl⟩

end Swaps

/-! ## Bridges -/

/-- The token program of a bridge for one of its mints. -/
def BridgePool.programFor (bridge : BridgePool) (mint : Pubkey) : Pubkey :=
  match bridge with
  | .cpmm pool => tokenProgramFor pool mint
  | .ammV4 pool => pool.legTokenProgram

/-- The mint on the other side of a bridge is the other mint of its pool. -/
theorem BridgePool.otherMint_eq_some {bridge : BridgePool} {input output : Pubkey}
    (h : bridge.otherMint input = some output) :
    output = (if input = bridge.mints.1 then bridge.mints.2 else bridge.mints.1)
      ∧ (input = bridge.mints.1 ∨ input = bridge.mints.2) := by
  unfold BridgePool.otherMint at h
  split at h
  · rename_i hfirst
    cases h
    exact ⟨(if_pos hfirst).symm, .inl hfirst⟩
  · rename_i hfirst
    split at h
    · rename_i hsecond
      cases h
      exact ⟨(if_neg hfirst).symm, .inr hsecond⟩
    · cases h

/-- The other mint of the other mint is the mint. -/
theorem BridgePool.otherMint_comm {bridge : BridgePool} {input output : Pubkey}
    (h : bridge.otherMint input = some output) : bridge.otherMint output = some input := by
  obtain ⟨hout, hin⟩ := BridgePool.otherMint_eq_some h
  unfold BridgePool.otherMint
  grind

section Bridges

variable [Pda] {bridge : BridgePool} {user input output : Pubkey}

/-- The hop of a bridge goes between the user's own accounts. -/
theorem BridgePool.hop_accounts (h : bridge.otherMint input = some output) :
    (bridge.hop user input).input = .ofAta user input (bridge.programFor input)
      ∧ (bridge.hop user input).output = .ofAta user output (bridge.programFor output) := by
  obtain ⟨rfl, -⟩ := BridgePool.otherMint_eq_some h
  cases bridge with
  | cpmm pool => exact ⟨rfl, rfl⟩
  | ammV4 pool =>
    have hinput : pool.pair.inputProgram input = pool.legTokenProgram := ite_self _
    have houtput : pool.pair.outputProgram input = pool.legTokenProgram := ite_self _
    constructor
    · show Side.ofAta _ _ _ = _
      rw [hinput]
      rfl
    · show Side.ofAta _ _ _ = _
      rw [houtput]
      rfl

/-- **A leg on a bridge moves its amounts between the sides of its hop**, if
the accounts it is given are those of the bridge's token programs. -/
theorem bridgeSwapLeg_trades {sent received : UInt64} {inputProgram outputProgram : Pubkey}
    {leg : Leg} (hmint : bridge.otherMint input = some output)
    (hinput : bridge.programFor input = inputProgram)
    (houtput : bridge.programFor output = outputProgram)
    (h : bridgeSwapLeg user bridge sent received input output (ata user input inputProgram)
      (ata user output outputProgram) = .ok leg) :
    (bridge.hop user input).Trades user leg sent received := by
  subst hinput houtput
  unfold Hop.Trades
  rw [(BridgePool.hop_accounts hmint).1, (BridgePool.hop_accounts hmint).2]
  cases bridge with
  | cpmm pool => exact (cpmmSwapLeg_exactInput h).swaps
  | ammV4 pool =>
    have hswaps := (raydiumAmmV4SwapLeg_exactInput h).swaps
    have hsides := @BridgePool.hop_accounts _ _ user _ _ hmint
    rwa [show pool.pair.input user input = _ from hsides.1,
      show pool.pair.output user input = _ from hsides.2] at hswaps

/-- A leg on a bridge takes WSOL under the classic token program. -/
theorem bridgeSwapLeg_wsolProgram {sent received : UInt64} {source destination : Pubkey}
    {leg : Leg} (hmint : bridge.otherMint input = some output)
    (h : bridgeSwapLeg user bridge sent received input output source destination = .ok leg)
    (hwsol : input = wsolMint ∨ output = wsolMint) :
    bridge.programFor wsolMint = tokenProgram := by
  obtain ⟨hout, hin⟩ := BridgePool.otherMint_eq_some hmint
  cases bridge with
  | cpmm pool =>
    obtain ⟨_, hprograms, -⟩ := bind_eq_ok.mp h
    have hclassic := requireMintPrograms_eq_ok hprograms
    simp only [List.forall_mem_cons] at hclassic
    obtain ⟨hbase, hquote, -⟩ := hclassic
    simp only [BridgePool.mints] at hout hin
    show tokenProgramFor pool wsolMint = tokenProgram
    unfold tokenProgramFor
    by_cases hb : wsolMint = pool.baseMint
    · rw [if_pos hb]
      exact hbase hb.symm
    · rw [if_neg hb]
      exact hquote (by grind)
  | ammV4 pool =>
    obtain ⟨_, -, h⟩ := bind_eq_ok.mp h
    obtain ⟨forward, -, h⟩ := bind_eq_ok.mp h
    obtain ⟨_, hclassic, -⟩ := bind_eq_ok.mp h
    exact not_not.mp (failIf_eq_ok.mp hclassic)

omit [Pda] in
/-- The token program the bridge and the market agree on. -/
theorem validateBridgeQuoteProgram_eq_ok {market : RoutedMarket} {u : Unit}
    (hbridge : market.bridge = some bridge)
    (h : validateBridgeQuoteProgram market = .ok u) :
    bridge.programFor market.quoteMint = market.quoteTokenProgram := by
  obtain ⟨b, hb, h⟩ := bind_eq_ok.mp h
  rw [okOr_eq_ok, hbridge, Option.some.injEq] at hb
  subst hb
  have hprogram := not_not.mp (failIf_eq_ok.mp h)
  cases bridge with
  | cpmm pool =>
    show tokenProgramFor pool market.quoteMint = _
    change pool.tokenProgramFor market.quoteMint = _ at hprogram
    unfold CpmmPool.tokenProgramFor at hprogram
    unfold tokenProgramFor
    split at hprogram
    · rename_i hbase
      rw [if_pos hbase]
      exact Option.some.inj hprogram
    · rename_i hbase
      rw [if_neg hbase]
      split at hprogram
      · exact Option.some.inj hprogram
      · cases hprogram
  | ammV4 pool =>
    dsimp only at hprogram
    split at hprogram
    · exact Option.some.inj hprogram
    · cases hprogram

end Bridges

/-! ## The market's hop of a bridged trade -/

section Bridged

variable [Pda] [Upstream] {client : RouterClient} {opts : TradeOpts} {market : Market}
  {amount minOut : UInt64} {leg : Leg}

omit [Pda] [Upstream] in
/-- A minimum that must be given is the one that was given. -/
theorem floor_of_explicit {quote : Result UInt64} {dex : String}
    (h : bridgedConcentratedMinOut opts.minOut dex = .ok minOut) : opts.Floor quote minOut := by
  have hmin := okOr_eq_ok.mp h
  unfold TradeOpts.Floor
  rw [hmin]

omit [Pda] [Upstream] in
/-- The first hop of a bridged sale on a concentrated pool has the
snapshot's quote as its minimum. -/
theorem bridgedConcentratedSellLeg_trades {hop : Hop} {user : Pubkey}
    {quotedInputMint : Option Pubkey} {expectedOut quotedAmountIn : Option UInt64}
    {dex : String} {swapLeg : UInt64 → Result Leg} {input : Pubkey}
    (hquote : hop.quote = snapshotQuote quotedInputMint expectedOut quotedAmountIn dex input)
    (hleg : ∀ min leg, swapLeg min = .ok leg → hop.Trades user leg amount min)
    (h : RouterClient.bridgedConcentratedSellLeg quotedInputMint expectedOut quotedAmountIn dex
      swapLeg amount input = .ok (leg, minOut)) :
    hop.Trades user leg amount minOut ∧ hop.quote amount = .ok minOut := by
  obtain ⟨_, hdirection, h⟩ := bind_eq_ok.mp h
  obtain ⟨min, hmin, h⟩ := bind_eq_ok.mp h
  obtain ⟨leg, hswap, h⟩ := bind_eq_ok.mp h
  cases h
  let plain : TradeOpts := ⟨0, none, none, .sol, .sol, .default⟩
  obtain ⟨e, he, hslip⟩ : plain.Floor _ _ := TradeOpts.concentrated_floor hdirection hmin
  rw [applySlippageMinOut_zero] at hslip
  exact ⟨hleg _ _ hswap, by rw [hquote, he, hslip]⟩

/-- **The second leg of a bridged buy** is for the market's hop from its
quote mint. Some exchanges are quoted even if there is a minimum. -/
theorem bridgedBuyLeg_trades
    (h : client.bridgedBuyLeg market market.quoteMint amount opts = .ok (leg, minOut)) :
    (market.buyHop client.payer (some market.quoteMint)).Trades client.payer leg amount minOut
      ∧ opts.Floor ((market.buyHop client.payer (some market.quoteMint)).quote amount) minOut
      ∧ (market.alwaysQuoted = true →
        ∃ e, (market.buyHop client.payer (some market.quoteMint)).quote amount = .ok e) := by
  cases market with
  | launchLabInner pool => cases h
  | cpmmOuter pool => cases h
  | pumpFunInner pool =>
    change (if pool.usesV2 then _ else _) = _ at h
    split at h
    · obtain ⟨_, -, h⟩ := bind_eq_ok.mp h
      obtain ⟨min, hmin, h⟩ := bind_eq_ok.mp h
      cases h
      exact ⟨pumpfunBuyV2Leg_swaps _ _ _ _, TradeOpts.minOutOr_eq_ok hmin, fun h => by cases h⟩
    · cases h
  | pumpSwapOuter pool =>
    obtain ⟨min, hmin, h⟩ := bind_eq_ok.mp h
    obtain ⟨leg, hleg, h⟩ := bind_eq_ok.mp h
    cases h
    obtain ⟨hfloor, hquoted⟩ := TradeOpts.quotedMinOut_eq_ok hmin
    exact ⟨(pumpswapBuyLeg_exactInput hleg).swaps, hfloor, fun _ => hquoted⟩
  | raydiumAmmV4 pool =>
    obtain ⟨min, hmin, h⟩ := bind_eq_ok.mp h
    obtain ⟨leg, hleg, h⟩ := bind_eq_ok.mp h
    cases h
    obtain ⟨hfloor, hquoted⟩ := TradeOpts.quotedMinOut_eq_ok hmin
    exact ⟨(raydiumAmmV4SwapLeg_exactInput hleg).swaps, hfloor, fun _ => hquoted⟩
  | meteoraDammV2 pool =>
    obtain ⟨min, hmin, h⟩ := bind_eq_ok.mp h
    obtain ⟨leg, hleg, h⟩ := bind_eq_ok.mp h
    cases h
    have hexact := meteoraDammV2SwapLeg_exactInput rfl hleg
    exact ⟨hexact.swaps, TradeOpts.minOutOr_eq_ok hmin, fun h => by cases h⟩
  | raydiumClmm pool =>
    obtain ⟨min, hmin, h⟩ := bind_eq_ok.mp h
    obtain ⟨leg, hleg, h⟩ := bind_eq_ok.mp h
    cases h
    exact ⟨(raydiumClmmSwapLeg_exactInput hleg).swaps, floor_of_explicit hmin,
      fun h => by cases h⟩
  | whirlpool pool =>
    obtain ⟨min, hmin, h⟩ := bind_eq_ok.mp h
    obtain ⟨leg, hleg, h⟩ := bind_eq_ok.mp h
    cases h
    exact ⟨(whirlpoolSwapLeg_exactInput hleg).swaps, floor_of_explicit hmin,
      fun h => by cases h⟩
  | meteoraDlmm pool =>
    obtain ⟨min, hmin, h⟩ := bind_eq_ok.mp h
    obtain ⟨leg, hleg, h⟩ := bind_eq_ok.mp h
    cases h
    exact ⟨(meteoraDlmmSwapLeg_exactInput hleg).swaps, floor_of_explicit hmin,
      fun h => by cases h⟩

omit [Pda] [Upstream] in
/-- The base of a pool is the other mint than its quote. -/
theorem PoolPair.outputMint_pairQuote (pair : PoolPair) :
    pair.outputMint (pairQuote pair.first pair.second) = pairBase pair.first pair.second := by
  unfold PoolPair.outputMint pairBase pairQuote
  grind

/-! The market's hop to its quote mint takes in its base mint. -/

omit [Upstream] in
/-- The sale of a market is the pool's hop out of its base. -/
theorem sellHop_raydiumAmmV4 (pool : RaydiumAmmV4Pool) (user : Pubkey) :
    Market.sellHop (.raydiumAmmV4 pool) user (some (Market.quoteMint (.raydiumAmmV4 pool)))
      = pool.hop user (Market.baseMint (.raydiumAmmV4 pool)) :=
  congrArg (pool.hop user) pool.pair.outputMint_pairQuote

omit [Upstream] in
/-- On DAMM V2. -/
theorem sellHop_meteoraDammV2 (pool : MeteoraDammV2Pool) (user : Pubkey) :
    Market.sellHop (.meteoraDammV2 pool) user (some (Market.quoteMint (.meteoraDammV2 pool)))
      = pool.hop user (Market.baseMint (.meteoraDammV2 pool)) :=
  congrArg (pool.hop user) pool.pair.outputMint_pairQuote

omit [Upstream] in
/-- On CLMM. -/
theorem sellHop_raydiumClmm (pool : RaydiumClmmPool) (user : Pubkey) :
    Market.sellHop (.raydiumClmm pool) user (some (Market.quoteMint (.raydiumClmm pool)))
      = pool.hop user (Market.baseMint (.raydiumClmm pool)) :=
  congrArg (pool.hop user) pool.pair.outputMint_pairQuote

omit [Upstream] in
/-- On Whirlpool. -/
theorem sellHop_whirlpool (pool : WhirlpoolPool) (user : Pubkey) :
    Market.sellHop (.whirlpool pool) user (some (Market.quoteMint (.whirlpool pool)))
      = pool.hop user (Market.baseMint (.whirlpool pool)) :=
  congrArg (pool.hop user) pool.pair.outputMint_pairQuote

omit [Upstream] in
/-- And on DLMM. -/
theorem sellHop_meteoraDlmm (pool : MeteoraDlmmPool) (user : Pubkey) :
    Market.sellHop (.meteoraDlmm pool) user (some (Market.quoteMint (.meteoraDlmm pool)))
      = pool.hop user (Market.baseMint (.meteoraDlmm pool)) :=
  congrArg (pool.hop user) pool.pair.outputMint_pairQuote

/-- **The first leg of a bridged sale** is for the market's hop to its quote
mint, and its minimum is the quote of what it sends. -/
theorem bridgedSellLeg_trades
    (h : client.bridgedSellLeg market market.quoteMint amount = .ok (leg, minOut)) :
    (market.sellHop client.payer (some market.quoteMint)).Trades client.payer leg amount minOut
      ∧ (market.sellHop client.payer (some market.quoteMint)).quote amount = .ok minOut := by
  cases market with
  | launchLabInner pool => cases h
  | cpmmOuter pool => cases h
  | pumpFunInner pool =>
    change (if pool.usesV2 then _ else _) = _ at h
    split at h
    · obtain ⟨_, -, h⟩ := bind_eq_ok.mp h
      obtain ⟨min, hmin, h⟩ := bind_eq_ok.mp h
      cases h
      exact ⟨pumpfunSellV2Leg_swaps _ _ _ _, hmin⟩
    · cases h
  | pumpSwapOuter pool =>
    obtain ⟨min, hmin, h⟩ := bind_eq_ok.mp h
    obtain ⟨leg, hleg, h⟩ := bind_eq_ok.mp h
    cases h
    exact ⟨(pumpswapSellLeg_exactInput hleg).swaps, hmin⟩
  | raydiumAmmV4 pool =>
    obtain ⟨min, hmin, h⟩ := bind_eq_ok.mp h
    obtain ⟨leg, hleg, h⟩ := bind_eq_ok.mp h
    cases h
    rw [sellHop_raydiumAmmV4]
    exact ⟨(raydiumAmmV4SwapLeg_exactInput hleg).swaps, hmin⟩
  | meteoraDammV2 pool =>
    obtain ⟨min, hmin, h⟩ := bind_eq_ok.mp h
    obtain ⟨leg, hleg, h⟩ := bind_eq_ok.mp h
    cases h
    rw [sellHop_meteoraDammV2]
    have hexact := meteoraDammV2SwapLeg_exactInput rfl hleg
    exact ⟨hexact.swaps, hmin⟩
  | raydiumClmm pool =>
    rw [sellHop_raydiumClmm]
    exact bridgedConcentratedSellLeg_trades rfl
      (fun _ _ hleg => (raydiumClmmSwapLeg_exactInput hleg).swaps) h
  | whirlpool pool =>
    rw [sellHop_whirlpool]
    exact bridgedConcentratedSellLeg_trades rfl
      (fun _ _ hleg => (whirlpoolSwapLeg_exactInput hleg).swaps) h
  | meteoraDlmm pool =>
    rw [sellHop_meteoraDlmm]
    exact bridgedConcentratedSellLeg_trades rfl
      (fun _ _ hleg => (meteoraDlmmSwapLeg_exactInput hleg).swaps) h

end Bridged

end Sdk
