import SolTradeRouter.QuoteInverse
import SolTradeRouter.TradeAmounts

/-!
# Streamed swaps

A snapshot of a concentrated pool carries a quote that was computed
elsewhere: an output, the input it is for, and the mint of that input. The
swaps of the pool arrive as events and are merged into the snapshot. A swap
moves the price, so a merge takes the output and the mint away; the amount
it leaves, or fills in with the amount of the swap.

What is shown is that no quote outlives a swap. Whatever events follow, and
whatever parts of a quote the caller supplies in between, a trade that needs
the quote is refused until the mint and the output have both been supplied
again.
-/

namespace Sdk

open Outcome

/-! ## Events -/

/-- A streamed Whirlpool swap. -/
structure OrcaWhirlpoolSwapEvent where
  whirlpool : Pubkey
  inputAmount : UInt64
  tokenMintA : Pubkey
  tokenMintB : Pubkey
  tokenVaultA : Pubkey
  tokenVaultB : Pubkey
  tokenProgramA : Pubkey
  tokenProgramB : Pubkey
  tickArray0 : Pubkey
  tickArray1 : Pubkey
  tickArray2 : Pubkey

/-- A streamed CLMM swap. -/
structure RaydiumClmmSwapEvent where
  poolState : Pubkey
  ammConfig : Pubkey
  observationState : Pubkey
  tickArrays : List Pubkey
  tickArrayBitmapExtension : Option Pubkey
  zeroForOne : Bool
  amount0 : UInt64
  amount1 : UInt64

/-- The streamed key, or the cached one if the event lacks it. -/
def overlay (cached streamed : Pubkey) : Pubkey :=
  if streamed ≠ Pubkey.default then streamed else cached

/-- **Merge same-pool swap topology into a snapshot and invalidate its cached
quote.** Events with a missing or different pool address are ignored. Ticks
update as a full triplet. -/
def mergeWhirlpoolSwap (pool : WhirlpoolPool) (e : OrcaWhirlpoolSwapEvent) : WhirlpoolPool :=
  if e.whirlpool = Pubkey.default ∨ e.whirlpool ≠ pool.whirlpool then pool
  else
    let ticks := [e.tickArray0, e.tickArray1, e.tickArray2]
    { pool with
      tickArrays := if ∀ key ∈ ticks, key ≠ Pubkey.default then ticks else pool.tickArrays
      vaultA := overlay pool.vaultA e.tokenVaultA
      vaultB := overlay pool.vaultB e.tokenVaultB
      mintA := overlay pool.mintA e.tokenMintA
      mintB := overlay pool.mintB e.tokenMintB
      tokenProgramA := overlay pool.tokenProgramA e.tokenProgramA
      tokenProgramB := overlay pool.tokenProgramB e.tokenProgramB
      quotedAmountIn := if e.inputAmount > 0 then some e.inputAmount else pool.quotedAmountIn
      quotedInputMint := none
      expectedOut := none }

/-- **Merge same-pool swap topology and invalidate the cached quote.** Events
with a missing or different pool address leave the snapshot unchanged. -/
def mergeClmmSwap (pool : RaydiumClmmPool) (e : RaydiumClmmSwapEvent) : RaydiumClmmPool :=
  if e.poolState = Pubkey.default ∨ e.poolState ≠ pool.poolState then pool
  else
    let amountIn := if e.zeroForOne then e.amount0 else e.amount1
    { pool with
      tickArrays := if e.tickArrays ≠ [] then e.tickArrays else pool.tickArrays
      tickArrayBitmapExtension := if e.tickArrayBitmapExtension.isSome
        then e.tickArrayBitmapExtension else pool.tickArrayBitmapExtension
      ammConfig := overlay pool.ammConfig e.ammConfig
      observationState := overlay pool.observationState e.observationState
      quotedAmountIn := if amountIn > 0 then some amountIn else pool.quotedAmountIn
      quotedInputMint := none
      expectedOut := none }

/-! ## Feeds -/

/-- The quote a snapshot carries. -/
structure CachedQuote where
  quotedAmountIn : Option UInt64
  quotedInputMint : Option Pubkey
  expectedOut : Option UInt64

/-- A part of a quote that the caller supplies. -/
inductive QuoteEdit where
  | quotedAmountIn (amount : UInt64)
  | quotedInputMint (mint : Pubkey)
  | expectedOut (amount : UInt64)

/-- What a caller does to a cached quote by hand. -/
def CachedQuote.edit (q : CachedQuote) : QuoteEdit → CachedQuote
  | .quotedAmountIn amount => { q with quotedAmountIn := some amount }
  | .quotedInputMint mint => { q with quotedInputMint := some mint }
  | .expectedOut amount => { q with expectedOut := some amount }

/-- A quote without the mint of its input, or without an output. -/
def CachedQuote.Unusable (q : CachedQuote) : Prop :=
  q.quotedInputMint = none ∨ q.expectedOut = none

/-- **A feed**: snapshots of one kind of pool, and the events that are merged
into them. -/
structure SwapFeed (Pool Event : Type) where
  address : Pool → Pubkey
  /-- The pool an event is of. -/
  source : Event → Pubkey
  merge : Pool → Event → Pool
  /-- The mints, vaults, configuration, observation and token programs. -/
  keys : Pool → List Pubkey
  quote : Pool → CachedQuote
  withQuote : Pool → CachedQuote → Pool
  market : Pool → Market

/-- The swaps of Raydium CLMM. -/
def clmmFeed : SwapFeed RaydiumClmmPool RaydiumClmmSwapEvent where
  address := (·.poolState)
  source := (·.poolState)
  merge := mergeClmmSwap
  keys pool := [pool.ammConfig, pool.observationState, pool.token0Mint, pool.token1Mint,
    pool.token0Vault, pool.token1Vault, pool.token0Program, pool.token1Program]
  quote pool := ⟨pool.quotedAmountIn, pool.quotedInputMint, pool.expectedOut⟩
  withQuote pool q := { pool with
    quotedAmountIn := q.quotedAmountIn
    quotedInputMint := q.quotedInputMint
    expectedOut := q.expectedOut }
  market := .raydiumClmm

/-- The swaps of Orca Whirlpool. -/
def whirlpoolFeed : SwapFeed WhirlpoolPool OrcaWhirlpoolSwapEvent where
  address := (·.whirlpool)
  source := (·.whirlpool)
  merge := mergeWhirlpoolSwap
  keys pool := [pool.mintA, pool.mintB, pool.vaultA, pool.vaultB, pool.tokenProgramA,
    pool.tokenProgramB]
  quote pool := ⟨pool.quotedAmountIn, pool.quotedInputMint, pool.expectedOut⟩
  withQuote pool q := { pool with
    quotedAmountIn := q.quotedAmountIn
    quotedInputMint := q.quotedInputMint
    expectedOut := q.expectedOut }
  market := .whirlpool

/-- What happens to a snapshot: a swap is merged, or the caller supplies a
part of a quote. -/
inductive SnapshotStep (Event : Type) where
  | swap (event : Event)
  | supply (edit : QuoteEdit)

namespace SwapFeed

variable {Pool Event : Type} (feed : SwapFeed Pool Event)

/-- A swap is merged, an edit applied. -/
def step (pool : Pool) : SnapshotStep Event → Pool
  | .swap event => feed.merge pool event
  | .supply edit => feed.withQuote pool ((feed.quote pool).edit edit)

/-- One step after the other, from a cached pool. -/
def run (pool : Pool) (steps : List (SnapshotStep Event)) : Pool := steps.foldl feed.step pool

/-- An event of the pool of a snapshot. -/
def SamePool (pool : Pool) (event : Event) : Prop :=
  feed.source event ≠ Pubkey.default ∧ feed.source event = feed.address pool

/-- **What a merge may do**: an event of another pool does nothing, an event of
the same pool clears the mint and the output of the quote, and none changes
the address or puts the default key in a field. -/
structure Lawful : Prop where
  address_merge : ∀ pool event, feed.address (feed.merge pool event) = feed.address pool
  address_withQuote : ∀ pool q, feed.address (feed.withQuote pool q) = feed.address pool
  quote_withQuote : ∀ pool q, feed.quote (feed.withQuote pool q) = q
  merge_foreign : ∀ pool event, ¬ feed.SamePool pool event → feed.merge pool event = pool
  keys_merge : ∀ pool event, List.Forall₂
    (fun before after => after = before ∨ after ≠ Pubkey.default)
    (feed.keys pool) (feed.keys (feed.merge pool event))
  quote_merge : ∀ pool event, feed.SamePool pool event →
    (feed.quote (feed.merge pool event)).quotedInputMint = none
      ∧ (feed.quote (feed.merge pool event)).expectedOut = none

end SwapFeed

/-- A streamed key replaces the cached one only if it names something. -/
theorem overlay_keeps (cached streamed : Pubkey) :
    overlay cached streamed = cached ∨ overlay cached streamed ≠ Pubkey.default := by
  unfold overlay
  split
  · rename_i h
    exact .inr h
  · exact .inl rfl

/-- **Merging a CLMM swap** clears its quote and keeps its address. -/
theorem clmmFeed_lawful : clmmFeed.Lawful where
  address_merge pool event := by
    show (mergeClmmSwap pool event).poolState = pool.poolState
    unfold mergeClmmSwap
    split <;> rfl
  address_withQuote _ _ := rfl
  quote_withQuote _ _ := rfl
  merge_foreign pool event h := if_pos (by grind [SwapFeed.SamePool, clmmFeed])
  keys_merge pool event := by
    show List.Forall₂ _ _ (clmmFeed.keys (mergeClmmSwap pool event))
    unfold mergeClmmSwap
    split
    · exact List.forall₂_same.mpr fun _ _ => .inl rfl
    · exact .cons (overlay_keeps ..) (.cons (overlay_keeps ..)
        (List.forall₂_same.mpr fun _ _ => .inl rfl))
  quote_merge pool event h := by
    have hsame : ¬ (event.poolState = Pubkey.default ∨ event.poolState ≠ pool.poolState) :=
      not_or.mpr ⟨h.1, not_not.mpr h.2⟩
    show (clmmFeed.quote (mergeClmmSwap pool event)).quotedInputMint = none
      ∧ (clmmFeed.quote (mergeClmmSwap pool event)).expectedOut = none
    rw [mergeClmmSwap, if_neg hsame]
    exact ⟨rfl, rfl⟩

/-- **Merging a Whirlpool swap** does, too. -/
theorem whirlpoolFeed_lawful : whirlpoolFeed.Lawful where
  address_merge pool event := by
    show (mergeWhirlpoolSwap pool event).whirlpool = pool.whirlpool
    unfold mergeWhirlpoolSwap
    split <;> rfl
  address_withQuote _ _ := rfl
  quote_withQuote _ _ := rfl
  merge_foreign pool event h := if_pos (by grind [SwapFeed.SamePool, whirlpoolFeed])
  keys_merge pool event := by
    show List.Forall₂ _ _ (whirlpoolFeed.keys (mergeWhirlpoolSwap pool event))
    unfold mergeWhirlpoolSwap
    split
    · exact List.forall₂_same.mpr fun _ _ => .inl rfl
    · exact .cons (overlay_keeps ..) (.cons (overlay_keeps ..) (.cons (overlay_keeps ..)
        (.cons (overlay_keeps ..) (.cons (overlay_keeps ..) (.cons (overlay_keeps ..) .nil)))))
  quote_merge pool event h := by
    have hsame : ¬ (event.whirlpool = Pubkey.default ∨ event.whirlpool ≠ pool.whirlpool) :=
      not_or.mpr ⟨h.1, not_not.mpr h.2⟩
    show (whirlpoolFeed.quote (mergeWhirlpoolSwap pool event)).quotedInputMint = none
      ∧ (whirlpoolFeed.quote (mergeWhirlpoolSwap pool event)).expectedOut = none
    rw [mergeWhirlpoolSwap, if_neg hsame]
    exact ⟨rfl, rfl⟩

/-! ## Runs -/

namespace SwapFeed

variable {Pool Event : Type} {feed : SwapFeed Pool Event}

/-- The address is kept over a run, by induction on its steps. -/
theorem Lawful.address_run (h : feed.Lawful) (pool : Pool) (steps : List (SnapshotStep Event)) :
    feed.address (feed.run pool steps) = feed.address pool := by
  unfold run
  induction steps generalizing pool with
  | nil => rfl
  | cons step steps ih =>
    rw [List.foldl_cons, ih]
    cases step with
    | swap event => exact h.address_merge pool event
    | supply edit => exact h.address_withQuote pool _

/-- **What a merge clears stays cleared**, as long as the caller does not
supply it. -/
theorem Lawful.run_missing (h : feed.Lawful) (missing : CachedQuote → Prop)
    (hmerge : ∀ pool event, feed.SamePool pool event →
      missing (feed.quote (feed.merge pool event)))
    {steps : List (SnapshotStep Event)}
    (hedits : ∀ edit, .supply edit ∈ steps → ∀ q, missing q → missing (q.edit edit))
    {pool : Pool} (hpool : missing (feed.quote pool)) :
    missing (feed.quote (feed.run pool steps)) := by
  unfold run
  induction steps generalizing pool with
  | nil => exact hpool
  | cons step steps ih =>
    refine ih (fun edit hmem => hedits edit (List.mem_cons_of_mem _ hmem)) ?_
    cases step with
    | swap event =>
      show missing (feed.quote (feed.merge pool event))
      by_cases hsame : feed.SamePool pool event
      · exact hmerge pool event hsame
      · rw [h.merge_foreign pool event hsame]
        exact hpool
    | supply edit =>
      show missing (feed.quote (feed.withQuote pool _))
      rw [h.quote_withQuote]
      exact hedits edit (List.mem_cons_self ..) _ hpool

/-- The caller supplies no mint, or no output. -/
def Unsupplied (steps : List (SnapshotStep Event)) : Prop :=
  (∀ mint, SnapshotStep.supply (.quotedInputMint mint) ∉ steps)
    ∨ ∀ amount, SnapshotStep.supply (.expectedOut amount) ∉ steps

/-- **No quote outlives a swap of its pool.** -/
theorem Lawful.unusable (h : feed.Lawful) {pool : Pool}
    {before after : List (SnapshotStep Event)} {event : Event}
    (hsame : feed.SamePool (feed.run pool before) event) (hafter : Unsupplied after) :
    (feed.quote (feed.run pool (before ++ .swap event :: after))).Unusable := by
  have hrun : feed.run pool (before ++ .swap event :: after)
      = feed.run (feed.merge (feed.run pool before) event) after := by
    unfold run
    rw [List.foldl_append, List.foldl_cons]
    rfl
  rw [hrun]
  refine hafter.imp (fun hmint => ?_) fun hout => ?_
  · refine h.run_missing (fun q => q.quotedInputMint = none)
      (fun pool event hsame => (h.quote_merge pool event hsame).1) (fun edit hmem q hq => ?_)
      (h.quote_merge _ event hsame).1
    cases edit with
    | quotedInputMint mint => exact absurd hmem (hmint mint)
    | _ => exact hq
  · refine h.run_missing (fun q => q.expectedOut = none)
      (fun pool event hsame => (h.quote_merge pool event hsame).2) (fun edit hmem q hq => ?_)
      (h.quote_merge _ event hsame).2
    cases edit with
    | expectedOut amount => exact absurd hmem (hout amount)
    | _ => exact hq

end SwapFeed

/-! ## Checks before the legs -/

/-- The check of the mints' programs has errors of its own. -/
theorem calm_requireMintPrograms {mints : List (Pubkey × Pubkey)} {dex : String} :
    Calm (requireMintPrograms mints dex) := by
  induction mints with
  | nil => exact calm_ok
  | cons m mints ih =>
    exact calm_bind calm_failIf fun _ _ => calm_bind calm_failIf fun _ _ => ih

section Checks

variable [Pda]

omit [Pda] in
/-- So has the comparison with a derived account. -/
theorem calm_rejectDerived {derived : Option Pubkey} {account : Pubkey} {name : String} :
    Calm (rejectDerived derived account name) := by
  unfold rejectDerived
  split
  · exact calm_ite calm_fail calm_ok
  · exact calm_ok

omit [Pda] in
/-- So has the trust of a pool. -/
theorem calm_requireTrustedOr {policy : PoolGuardPolicy} {pool : Pubkey} {label : String} :
    Calm (requireTrustedOr policy pool label) :=
  calm_ite calm_ok (calm_ite calm_fail calm_ok)

omit [Pda] in
/-- So has the list of pools. -/
theorem calm_assertAmmListed {policy : PoolGuardPolicy} {pool : Pubkey} {label : String} :
    Calm (assertAmmListed policy pool label) :=
  calm_ite calm_ok calm_requireTrustedOr

/-- A CPMM pool is checked without a panic. -/
theorem calm_assertCpmmOk {pool : CpmmPool} {policy : PoolGuardPolicy} :
    Calm (assertCpmmOk pool policy) := by
  refine calm_ite calm_ok (calm_ite calm_ok ?_)
  refine calm_bind calm_requireTrustedOr fun _ _ => calm_ite calm_fail ?_
  refine calm_bind calm_rejectDerived fun _ _ => ?_
  exact calm_bind calm_rejectDerived fun _ _ => calm_rejectDerived

/-- **A market is checked without a panic**, of whatever kind. -/
theorem calm_assertMarketOk {market : Market} {policy : PoolGuardPolicy} :
    Calm (assertMarketOk market policy) := by
  cases market with
  | launchLabInner pool =>
    refine calm_ite calm_ok (calm_ite calm_ok (calm_ite calm_fail ?_))
    refine calm_bind calm_okOr fun _ _ => calm_ite calm_fail ?_
    exact calm_bind calm_rejectDerived fun _ _ => calm_rejectDerived
  | pumpFunInner pool =>
    refine calm_ite calm_ok (calm_ite calm_ok ?_)
    exact calm_bind calm_okOr fun _ _ => calm_ite calm_fail calm_ok
  | pumpSwapOuter pool =>
    refine calm_ite calm_ok (calm_ite calm_ok (calm_ite ?_ ?_))
    · exact calm_ite calm_ok calm_fail
    · exact calm_requireTrustedOr
  | cpmmOuter pool => exact calm_assertCpmmOk
  | _ => exact calm_assertAmmListed

/-- And so is one with its bridge. -/
theorem calm_assertRoutedMarketOk {market : RoutedMarket} {policy : PoolGuardPolicy} :
    Calm (assertRoutedMarketOk market policy) := by
  refine calm_bind calm_assertMarketOk fun _ _ => ?_
  split
  · exact calm_ok
  · exact calm_assertCpmmOk
  · exact calm_assertAmmListed

omit [Pda] in
/-- The programs of a bonding curve have errors of their own. -/
theorem calm_validateInnerMarketPrograms {market : RoutedMarket} {quoteAta : Bool} :
    Calm (validateInnerMarketPrograms market quoteAta) := by
  unfold validateInnerMarketPrograms
  split
  · exact calm_requireMintPrograms
  · refine calm_bind calm_failIf fun _ _ => calm_ite ?_ calm_ok
    exact calm_bind calm_failIf fun _ _ => calm_failIf
  · exact calm_ok

omit [Pda] in
/-- A fee is refused, not overflowed by. -/
theorem calm_spendAfterFee {amountIn : UInt64} {feeBps : UInt16} :
    Calm (spendAfterFee amountIn feeBps) :=
  calm_bind calm_failIf fun _ _ => calm_bind calm_failIf fun _ _ => calm_ok

omit [Pda] in
/-- Whether a path needs the bridge is decided without a panic. -/
theorem calm_pathNeedsBridge {market : RoutedMarket} {asset : Option Pubkey} {option : String} :
    Calm (market.pathNeedsBridge asset option) := by
  cases asset with
  | none => exact calm_ok
  | some mint =>
    exact calm_bind calm_failIf fun _ _ => calm_bind calm_failIf fun _ _ => calm_ok

omit [Pda] in
/-- And so is whether it may be taken. -/
theorem calm_checkPath {market : RoutedMarket} {needsBridge isBuy : Bool} {opts : TradeOpts}
    {missing : String} : Calm (market.checkPath needsBridge isBuy opts missing) := by
  refine calm_bind ?_ fun _ _ => calm_bind calm_failIf fun _ _ => calm_ite ?_ calm_ok
  · unfold TradeOpts.validateFixedOutput
    split
    · exact calm_bind calm_failIf fun _ _ =>
        calm_bind calm_failIf fun _ _ => calm_failIf
    · exact calm_ok
  · exact calm_bind calm_okOr fun _ _ => calm_failIf

/-- A buy is refused if its legs are. -/
theorem refuses_buyWithOpts [Upstream] {client : RouterClient} {amountIn : UInt64}
    {market : RoutedMarket} {opts : TradeOpts}
    (h : ∀ spend s, Refuses (client.buildBuyLegs spend market opts s)) :
    Refuses (client.buyWithOpts amountIn market opts) := by
  refine refuses_bind calm_failIf fun _ _ => ?_
  refine refuses_bind calm_assertRoutedMarketOk fun _ _ => ?_
  refine refuses_bind calm_validateInnerMarketPrograms fun _ _ => ?_
  refine refuses_bind calm_spendAfterFee fun spend _ => ?_
  refine refuses_bind calm_pathNeedsBridge fun _ _ => ?_
  refine refuses_bind calm_checkPath fun _ _ => ?_
  refine refuses_bind ?_ fun _ _ => (h spend _).bind
  unfold RouterClient.checkPumpBuyAsset
  refine calm_ite ?_ calm_ok
  split
  · exact calm_ok
  · exact calm_failIf
  · exact calm_fail

/-- A sale is refused if its legs are. -/
theorem refuses_sellWithOpts [Upstream] {client : RouterClient} {amountIn : UInt64}
    {market : RoutedMarket} {opts : TradeOpts}
    (h : ∀ sellAmt s, Refuses (client.buildSellLegs sellAmt market opts s)) :
    Refuses (client.sellWithOpts amountIn market opts) := by
  refine refuses_bind calm_failIf fun _ _ => ?_
  refine refuses_bind calm_assertRoutedMarketOk fun _ _ => ?_
  refine refuses_bind calm_validateInnerMarketPrograms fun _ _ => ?_
  refine refuses_bind calm_spendAfterFee fun sellAmt _ => ?_
  refine refuses_bind calm_pathNeedsBridge fun _ _ => ?_
  refine refuses_bind calm_checkPath fun _ _ => ?_
  refine refuses_bind ?_ fun _ _ => (h sellAmt _).bind
  unfold RouterClient.checkPumpSellAsset
  refine calm_ite ?_ calm_ok
  split
  · exact calm_ok
  · exact calm_failIf
  · exact calm_fail

end Checks

/-! ## Legs without a quote -/

section Legs

variable [Pda] {client : RouterClient} {opts : TradeOpts} {amount : UInt64} {s : TradeSetup}

omit [Pda] in
/-- **Without a mint or an output there is no automatic minimum.** -/
theorem refuses_automatic {q : CachedQuote} (hq : q.Unusable) {slippageBps : UInt64}
    {dex : String} {input : Pubkey} {α : Type} (rest : UInt64 → Result α) :
    Refuses (do
      assertQuoteDirection q.quotedInputMint input none
      let min ← concentratedMinOut q.expectedOut q.quotedAmountIn amount none slippageBps dex
      rest min) := by
  rcases hq with hmint | hout
  · exact (refuses_failIf ⟨rfl, by rw [hmint]; nofun⟩).bind
  · refine refuses_bind calm_failIf fun _ _ => Refuses.bind ?_
    rw [hout]
    unfold concentratedMinOut
    cases q.quotedAmountIn with
    | none => exact refuses_fail
    | some qin => exact refuses_bind calm_failIf fun _ _ => refuses_fail

omit [Pda] in
/-- A CPMM leg is built or refused. -/
theorem calm_cpmmLeg {disc : List UInt8} {user : Pubkey} {pool : CpmmPool}
    {amountIn amountOut : UInt64} {input output source destination : Pubkey} :
    Calm (cpmmLeg disc user pool amountIn amountOut input output source destination) := by
  refine calm_bind calm_requireMintPrograms fun _ _ => calm_bind ?_ fun _ _ => calm_ok
  exact calm_ite calm_ok (calm_ite calm_ok calm_fail)

/-- And so is one of AMM V4. -/
theorem calm_raydiumAmmV4Leg {tag : UInt8} {user : Pubkey} {pool : RaydiumAmmV4Pool}
    {amountIn amountOut : UInt64} {input : Pubkey} :
    Calm (raydiumAmmV4Leg tag user pool amountIn amountOut input) := by
  refine calm_bind calm_failIf fun _ _ => calm_bind ?_ fun _ _ => ?_
  · exact calm_ite calm_ok (calm_ite calm_ok calm_fail)
  · exact calm_bind calm_failIf fun _ _ => calm_ok

omit [Pda] in
/-- A bridge is quoted or refuses. -/
theorem calm_bridgeQuoteOut {bridge : BridgePool} {sent : UInt64} {input : Pubkey} :
    Calm (bridgeQuoteOut bridge sent input) := by
  refine calm_bind calm_failIf fun _ _ => ?_
  split
  · exact calm_cpmmOut
  · exact calm_raydiumAmmV4Out

/-- And its leg is built or refused. -/
theorem calm_bridgeSwapLeg {bridge : BridgePool} {user : Pubkey} {sent received : UInt64}
    {input output source destination : Pubkey} :
    Calm (bridgeSwapLeg user bridge sent received input output source destination) := by
  cases bridge with
  | cpmm pool => exact calm_cpmmLeg
  | ammV4 pool => exact calm_raydiumAmmV4Leg

variable [Upstream] {market : RoutedMarket} {programOf : Pubkey → Pubkey}

/-- **A buy on a pool of two mints is refused if its swap is**, directly and as
the second of two. -/
theorem refuses_buyPair {swap : Pubkey → Result (List Leg × UInt64)}
    (hswap : ∀ mint, Refuses (swap mint))
    (hbridged : ∀ quote mid, Refuses (client.bridgedBuyLeg market.market quote mid opts)) :
    Refuses (client.buyPair programOf swap amount market opts s) := by
  have hbridge : ∀ bridge,
      Refuses (client.buyViaBridgeMainstream amount market.market bridge opts s) := by
    intro bridge
    refine refuses_bind calm_failIf fun _ _ => ?_
    refine refuses_bind calm_bridgeQuoteOut fun mid _ => ?_
    exact refuses_bind calm_bridgeSwapLeg fun _ _ => (hbridged _ _).bind
  unfold RouterClient.buyPair
  split
  · exact (hswap _).bind
  all_goals
    split
    · exact (hswap _).bind
    · exact refuses_bind calm_okOr fun bridge _ => hbridge bridge

/-- A bridged sale is refused where its first leg is, after checks that do not
panic. -/
theorem refuses_sellViaBridgeMainstream {bridge : BridgePool}
    (h : ∀ quote, Refuses (client.bridgedSellLeg market.market quote amount)) :
    Refuses (client.sellViaBridgeMainstream amount market.market bridge opts s) :=
  refuses_bind calm_failIf fun _ _ => (h _).bind

/-- **So is a sale.** Through the bridge it is refused if its first leg is. -/
theorem refuses_sellPair {swap : Pubkey → Result (List Leg × UInt64 × Pubkey)}
    (hswap : market.needsBridge opts.sellTo.receiveMint = true ∨ ∀ mint, Refuses (swap mint))
    (hbridged : ∀ quote, Refuses (client.bridgedSellLeg market.market quote amount)) :
    Refuses (client.sellPair programOf swap amount market opts s) := by
  unfold RouterClient.sellPair
  revert hswap
  cases opts.sellTo with
  | token mint =>
    intro hswap
    have hdirect := hswap.resolve_left (fun h => by cases h)
    exact (hdirect mint).bind
  | _ =>
    intro hswap
    dsimp only
    split
    · rename_i hneeds
      have hdirect := hswap.resolve_left fun h => by
        rw [show market.market.needsSolBridge = true from h] at hneeds
        cases hneeds
      exact (hdirect wsolMint).bind
    · exact refuses_bind calm_okOr fun bridge _ => refuses_sellViaBridgeMainstream hbridged

end Legs

/-! ## No usable stale quote -/

/-- **A market that cannot be traded without a minimum**: automatic trades are
refused, and so is every sale through a bridge. -/
def Market.RefusesAutomatic [Pda] [Upstream] (market : Market) : Prop :=
  ∀ (client : RouterClient) (amountIn : UInt64) (bridge : Option BridgePool) (opts : TradeOpts),
    (opts.minOut = none → Refuses (client.buyWithOpts amountIn ⟨market, bridge⟩ opts))
    ∧ (opts.minOut = none → Refuses (client.sellWithOpts amountIn ⟨market, bridge⟩ opts))
    ∧ (RoutedMarket.needsBridge ⟨market, bridge⟩ opts.sellTo.receiveMint = true →
      Refuses (client.sellWithOpts amountIn ⟨market, bridge⟩ opts))

section Markets

variable [Pda] [Upstream]

/-- **A market refuses automatic trades if its legs do**: what comes before the
legs has no panic to hide behind. -/
theorem refusesAutomatic_of_legs {market : Market}
    (hbuy : ∀ (client : RouterClient) bridge (opts : TradeOpts) spend s, opts.minOut = none →
      Refuses (client.buildBuyLegs spend ⟨market, bridge⟩ opts s))
    (hsell : ∀ (client : RouterClient) bridge (opts : TradeOpts) sellAmt s,
      RoutedMarket.needsBridge ⟨market, bridge⟩ opts.sellTo.receiveMint = true
        ∨ opts.minOut = none →
      Refuses (client.buildSellLegs sellAmt ⟨market, bridge⟩ opts s)) :
    market.RefusesAutomatic := by
  intro client amountIn bridge opts
  refine ⟨fun hmin => ?_, fun hmin => ?_, fun hneeds => ?_⟩
  · exact refuses_buyWithOpts fun spend s => hbuy client bridge opts spend s hmin
  · exact refuses_sellWithOpts fun sellAmt s => hsell client bridge opts sellAmt s (.inr hmin)
  · exact refuses_sellWithOpts fun sellAmt s => hsell client bridge opts sellAmt s (.inl hneeds)

omit [Pda] [Upstream] in
/-- What refuses either input refuses the one that is found. -/
theorem refuses_pairInput {output a b programA programB : Pubkey} {dex : String} {α : Type}
    {rest : Pubkey × Pubkey → Result α} (h : ∀ p, Refuses (rest p)) :
    Refuses (pairInputAndOutputProgram output a b programA programB dex >>= rest) :=
  refuses_bind (calm_ite calm_ok (calm_ite calm_ok calm_fail)) fun p _ => h p

/-- **A CLMM pool without a usable quote** is not traded at automatically. -/
theorem clmm_refusesAutomatic {pool : RaydiumClmmPool}
    (hq : (clmmFeed.quote pool).Unusable) : (clmmFeed.market pool).RefusesAutomatic := by
  have hswap (client : RouterClient) (opts : TradeOpts) (hmin : opts.minOut = none)
      (amount : UInt64) (input : Pubkey) :
      Refuses (client.buyRaydiumClmmWithMint amount pool input opts) := by
    unfold RouterClient.buyRaydiumClmmWithMint RouterClient.buyConcentrated
    rw [hmin]
    exact refuses_automatic hq _
  refine refusesAutomatic_of_legs (fun client bridge opts spend s hmin => ?_)
    fun client bridge opts sellAmt s h => ?_
  · refine refuses_buyPair (hswap client opts hmin spend) fun _ _ => Refuses.bind ?_
    rw [hmin]
    exact refuses_fail
  · refine refuses_sellPair (h.imp_right fun hmin mint => ?_) fun _ => refuses_automatic hq _
    exact refuses_pairInput fun _ => (hswap client opts hmin _ _).bind

/-- **Nor is a Whirlpool.** -/
theorem whirlpool_refusesAutomatic {pool : WhirlpoolPool}
    (hq : (whirlpoolFeed.quote pool).Unusable) :
    (whirlpoolFeed.market pool).RefusesAutomatic := by
  have hswap (client : RouterClient) (opts : TradeOpts) (hmin : opts.minOut = none)
      (amount : UInt64) (input : Pubkey) :
      Refuses (client.buyWhirlpoolWithMint amount pool input opts) := by
    unfold RouterClient.buyWhirlpoolWithMint RouterClient.buyConcentrated
    rw [hmin]
    exact refuses_automatic hq _
  refine refusesAutomatic_of_legs (fun client bridge opts spend s hmin => ?_)
    fun client bridge opts sellAmt s h => ?_
  · refine refuses_buyPair (hswap client opts hmin spend) fun _ _ => Refuses.bind ?_
    rw [hmin]
    exact refuses_fail
  · refine refuses_sellPair (h.imp_right fun hmin mint => ?_) fun _ => refuses_automatic hq _
    exact refuses_pairInput fun _ => (hswap client opts hmin _ _).bind

end Markets

/-- **Merged snapshots.** In any run of swaps and parts of quotes, the address
stays. An event of another pool, or of none, changes nothing, and an event of
the same pool sets no key to the default. After one, automatic trades and
bridged sales are refused until the caller has supplied a mint and an output
again. -/
structure SwapFeed.NeverStale {Pool Event : Type} [Pda] [Upstream] (feed : SwapFeed Pool Event) :
    Prop where
  address : ∀ pool steps, feed.address (feed.run pool steps) = feed.address pool
  foreign : ∀ pool event,
    feed.source event = Pubkey.default ∨ feed.source event ≠ feed.address pool →
      feed.merge pool event = pool
  keys : ∀ pool event, List.Forall₂
    (fun before after => after = before ∨ after ≠ Pubkey.default)
    (feed.keys pool) (feed.keys (feed.merge pool event))
  stale : ∀ pool before event after, feed.SamePool (feed.run pool before) event →
    SwapFeed.Unsupplied after →
      (feed.market (feed.run pool (before ++ .swap event :: after))).RefusesAutomatic

/-- **A lawful feed is never stale**, where its markets refuse what has no
usable quote. -/
theorem SwapFeed.Lawful.neverStale {Pool Event : Type} [Pda] [Upstream]
    {feed : SwapFeed Pool Event} (h : feed.Lawful)
    (hmarket : ∀ pool, (feed.quote pool).Unusable → (feed.market pool).RefusesAutomatic) :
    feed.NeverStale where
  address := h.address_run
  foreign pool event hother := h.merge_foreign pool event fun hsame =>
    hother.elim hsame.1 fun hne => hne hsame.2
  keys := h.keys_merge
  stale _ _ _ _ hsame hafter := hmarket _ (h.unusable hsame hafter)

/-- **Merging swaps leaves no usable stale quote.** -/
theorem merges_never_stale [Pda] [Upstream] :
    clmmFeed.NeverStale ∧ whirlpoolFeed.NeverStale :=
  ⟨clmmFeed_lawful.neverStale fun _ => clmm_refusesAutomatic,
    whirlpoolFeed_lawful.neverStale fun _ => whirlpool_refusesAutomatic⟩

/-- A swap of 990 on the sample pool, which says nothing else of it. -/
def sampleWhirlpoolSwap : OrcaWhirlpoolSwapEvent where
  whirlpool := sampleKey 1
  inputAmount := 990
  tokenMintA := .default
  tokenMintB := .default
  tokenVaultA := .default
  tokenVaultB := .default
  tokenProgramA := .default
  tokenProgramB := .default
  tickArray0 := .default
  tickArray1 := .default
  tickArray2 := .default

/-- A mint and an output, and no amount. -/
def sampleSupplies : List (SnapshotStep OrcaWhirlpoolSwapEvent) :=
  [.supply (.quotedInputMint (sampleKey 5)), .supply (.expectedOut 500)]

/-- **The amount need not be supplied again**: the swap has filled it in, and
a trade of that amount is built with the caller's mint and output. -/
theorem sampleWhirlpool_refilled :
    letI := BuiltSwaps.lastSeedPda
    letI := sampleUpstream
    whirlpoolFeed.SamePool BuiltSwaps.sampleWhirlpool sampleWhirlpoolSwap
      ∧ (∀ amount, SnapshotStep.supply (.quotedAmountIn amount) ∉ sampleSupplies)
      ∧ ∃ trade, sampleClient.buyWithOpts 1000
          ⟨whirlpoolFeed.market (whirlpoolFeed.run BuiltSwaps.sampleWhirlpool
            (.swap sampleWhirlpoolSwap :: sampleSupplies)), none⟩
          { sampleOpts with buyWith := .token (sampleKey 5) } = .ok trade := by
  let := BuiltSwaps.lastSeedPda
  let := sampleUpstream
  refine ⟨⟨by decide, rfl⟩, fun amount hmem => ?_, exists_ok_of_toBool (by decide +kernel)⟩
  rcases List.mem_pair.mp hmem with h | h <;> cases h

end Sdk
