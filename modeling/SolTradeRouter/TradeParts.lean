import SolTradeRouter.TradeLegs

/-!
# What a trade is made of

Whatever path a trade takes, its legs come out of the builders of the exchanges,
and its setup grows by a few kinds of steps. So a property that the leg of each
exchange has, and one that each of these steps keeps, are properties of every
trade: they are shown of the parts one by one, and the paths need to be followed
only once, here.
-/

namespace Sdk

open Outcome

variable [Pda] [Upstream]

/-- **What holds of the parts of a trade**: `P` of the leg of each exchange, and
`Q` of a setup, through each of the steps a path may add to it. -/
structure Parts (client : RouterClient) (P : Leg → Prop) (Q : TradeSetup → Prop) : Prop where
  launchlabBuy (pool : LaunchLabPool) (amountIn minOut : UInt64) (base quote : Pubkey) :
    P (launchlabBuyLeg client.payer pool amountIn minOut base quote)
  launchlabSell (pool : LaunchLabPool) (amountIn minOut : UInt64) (base quote : Pubkey) :
    P (launchlabSellLeg client.payer pool amountIn minOut base quote)
  cpmm (pool : CpmmPool) (amountIn minOut : UInt64)
    (input output source destination : Pubkey) :
    Yields P (cpmmSwapLeg client.payer pool amountIn minOut input output source destination)
  cpmmExactOut (pool : CpmmPool) (maxAmountIn amountOut : UInt64)
    (input output source destination : Pubkey) :
    Yields P (cpmmSwapExactOutLeg client.payer pool maxAmountIn amountOut input output source
      destination)
  pumpfunBuy (pool : PumpFunPool) (amountIn minOut : UInt64) (account : Pubkey) :
    P (pumpfunBuyLeg client.payer pool amountIn minOut account)
  pumpfunSell (pool : PumpFunPool) (amountIn minOut : UInt64) (account : Pubkey) :
    P (pumpfunSellLeg client.payer pool amountIn minOut account)
  pumpfunBuyV2 (pool : PumpFunPool) (amountIn minOut : UInt64) :
    P (pumpfunBuyV2Leg client.payer pool amountIn minOut)
  pumpfunSellV2 (pool : PumpFunPool) (amountIn minOut : UInt64) :
    P (pumpfunSellV2Leg client.payer pool amountIn minOut)
  pumpswapBuy (pool : PumpSwapPool) (amountIn minOut : UInt64) :
    Yields P (pumpswapBuyLeg client.payer pool amountIn minOut)
  pumpswapBuyExactOut (pool : PumpSwapPool) (amountOut maxAmountIn : UInt64) :
    Yields P (pumpswapBuyExactOutLeg client.payer pool amountOut maxAmountIn)
  pumpswapSell (pool : PumpSwapPool) (amountIn minOut : UInt64) :
    Yields P (pumpswapSellLeg client.payer pool amountIn minOut)
  raydiumAmmV4 (pool : RaydiumAmmV4Pool) (amountIn minOut : UInt64) (input : Pubkey) :
    Yields P (raydiumAmmV4SwapLeg client.payer pool amountIn minOut input)
  raydiumAmmV4ExactOut (pool : RaydiumAmmV4Pool) (amountOut maxAmountIn : UInt64)
    (input : Pubkey) :
    Yields P (raydiumAmmV4SwapExactOutLeg client.payer pool amountOut maxAmountIn input)
  meteoraDammV2 (pool : MeteoraDammV2Pool) (amountIn minOut : UInt64) (input : Pubkey) :
    Yields P (meteoraDammV2SwapLeg client.payer pool amountIn minOut input)
  raydiumClmm (pool : RaydiumClmmPool) (amountIn minOut : UInt64) (input : Pubkey) :
    Yields P (raydiumClmmSwapLeg client.payer pool amountIn minOut input)
  whirlpool (pool : WhirlpoolPool) (amountIn minOut : UInt64) (input : Pubkey) :
    Yields P (whirlpoolSwapLeg client.payer pool amountIn minOut input)
  meteoraDlmm (pool : MeteoraDlmmPool) (amountIn minOut : UInt64) (input : Pubkey) :
    Yields P (meteoraDlmmSwapLeg client.payer pool amountIn minOut input)
  noted {s : TradeSetup} (touched : TouchedAtas) : Q s → Q { s with touched := touched }
  created {s : TradeSetup} (policy : AtaPolicy) (kind : AtaKind) (mint program : Pubkey) :
    Q s → Q (s.pushCreateAta policy kind client.payer mint program)
  prepared {s : TradeSetup} (pool : PumpFunPool) (initializeVolume : Bool) :
    Q s → Q (preparePumpfunNativeAccounts client.programId client.payer pool initializeVolume s)

omit [Pda] [Upstream] in
/-- **The legs and the setup of a buy.** -/
def BuyLegs.Made (P : Leg → Prop) (Q : TradeSetup → Prop) (built : BuyLegs) : Prop :=
  (∀ leg ∈ built.legs, P leg) ∧ Q built.setup

omit [Pda] [Upstream] in
/-- And of a sale. -/
def SellLegs.Made (P : Leg → Prop) (Q : TradeSetup → Prop) (built : SellLegs) : Prop :=
  (∀ leg ∈ built.legs, P leg) ∧ Q built.setup

omit [Pda] [Upstream] in
/-- One leg of the kind. -/
theorem forall_mem_leg {P : Leg → Prop} {leg : Leg} (h : P leg) : ∀ l ∈ [leg], P l :=
  List.forall_mem_singleton.mpr h

omit [Pda] [Upstream] in
/-- And two of them. -/
theorem forall_mem_legs {P : Leg → Prop} {first second : Leg} (h : P first) (h' : P second) :
    ∀ l ∈ [first, second], P l :=
  List.forall_mem_cons.mpr ⟨h, forall_mem_leg h'⟩

omit [Pda] [Upstream] in
/-- **A builder that computes a minimum, and then a leg.** -/
theorem yields_leg {α β : Type} {P : Leg → Prop} {x : Result α} {leg : α → Result Leg}
    {result : α → Leg → List Leg × β} (hleg : ∀ a, Yields P (leg a))
    (hresult : ∀ a l, (result a l).1 = [l]) :
    Yields (fun r => ∀ l ∈ r.1, P l) (do
      let a ← x
      let l ← leg a
      pure (result a l)) := by
  refine yields_bind fun a _ => (hleg a).bind fun l hl => yields_pure ?_
  rw [hresult]
  exact forall_mem_leg hl

namespace Parts

variable {client : RouterClient} {P : Leg → Prop} {Q : TradeSetup → Prop} {opts : TradeOpts}
  {amount : UInt64} {s : TradeSetup}

/-- An account that is put to use. -/
theorem useAta (h : Parts client P Q) (hs : Q s) {policy : AtaPolicy} {mint program : Pubkey} :
    Q (s.useAta policy client.payer mint program) := by
  unfold TradeSetup.useAta
  split
  · exact h.created _ _ _ _ (h.noted _ hs)
  · exact h.created _ _ _ _ (h.noted _ hs)

/-! ## Single swaps -/

/-- On the curve itself. -/
theorem buyLaunchlab (h : Parts client P Q) (hs : Q s) {pool : LaunchLabPool}
    {base quote : Pubkey} :
    Yields (BuyLegs.Made P Q) (client.buyLaunchlab amount pool opts base quote s) :=
  yields_bind fun _ _ => yields_pure ⟨forall_mem_leg (h.launchlabBuy _ _ _ _ _), hs⟩

/-- And back. -/
theorem sellLaunchlab (h : Parts client P Q) (hs : Q s) {pool : LaunchLabPool}
    {base quote : Pubkey} :
    Yields (SellLegs.Made P Q) (client.sellLaunchlab amount pool opts base quote s) :=
  yields_bind fun _ _ => yields_pure ⟨forall_mem_leg (h.launchlabSell _ _ _ _ _), hs⟩

/-- On PumpSwap, with its output fixed or not. -/
theorem buyPumpswapWithQuote (h : Parts client P Q) (pool : PumpSwapPool) (mint : Pubkey) :
    Yields (fun r => ∀ leg ∈ r.1, P leg)
      (client.buyPumpswapWithQuote amount pool mint opts) := by
  refine yields_bind fun _ _ => ?_
  cases opts.fixedOutput with
  | some target =>
    exact (h.pumpswapBuyExactOut pool _ _).bind fun _ hleg => yields_pure (forall_mem_leg hleg)
  | none => exact yields_leg (h.pumpswapBuy pool _) fun _ _ => rfl

/-- And back. -/
theorem sellPumpswapToQuote (h : Parts client P Q) (pool : PumpSwapPool) (mint : Pubkey) :
    Yields (fun r => ∀ leg ∈ r.1, P leg) (client.sellPumpswapToQuote amount pool mint opts) :=
  yields_bind fun _ _ => yields_leg (h.pumpswapSell pool _) fun _ _ => rfl

/-- On AMM V4, with its output fixed or not. -/
theorem buyRaydiumV4WithMint (h : Parts client P Q) (pool : RaydiumAmmV4Pool) (input : Pubkey) :
    Yields (fun r => ∀ leg ∈ r.1, P leg)
      (client.buyRaydiumV4WithMint amount pool input opts) := by
  unfold RouterClient.buyRaydiumV4WithMint
  cases opts.fixedOutput with
  | some target =>
    exact (h.raydiumAmmV4ExactOut pool _ _ _).bind fun _ hleg =>
      yields_pure (forall_mem_leg hleg)
  | none => exact yields_leg (fun _ => h.raydiumAmmV4 pool _ _ _) fun _ _ => rfl

/-- On DAMM V2, with its output fixed or not. -/
theorem buyMeteoraV2WithMint (h : Parts client P Q) (pool : MeteoraDammV2Pool)
    (input : Pubkey) : Yields (fun r => ∀ leg ∈ r.1, P leg)
      (client.buyMeteoraV2WithMint amount pool input opts) := by
  unfold RouterClient.buyMeteoraV2WithMint
  cases opts.fixedOutput with
  | some target =>
    exact (h.meteoraDammV2 _ _ _ _).bind fun _ hleg => yields_pure (forall_mem_leg hleg)
  | none => exact yields_leg (fun _ => h.meteoraDammV2 _ _ _ _) fun _ _ => rfl

omit [Pda] [Upstream] in
/-- **On a concentrated pool**, whose exchange is a matter of the leg. -/
theorem buyConcentrated {swapLeg : UInt64 → Result Leg} (hleg : ∀ min, Yields P (swapLeg min))
    {quotedInputMint : Option Pubkey} {expectedOut quotedAmountIn : Option UInt64}
    {dex : String} {input : Pubkey} :
    Yields (fun r => ∀ leg ∈ r.1, P leg) (RouterClient.buyConcentrated quotedInputMint
      expectedOut quotedAmountIn dex swapLeg amount input opts) :=
  yields_bind fun _ _ => yields_leg hleg fun _ _ => rfl

/-- On CPMM, in either direction. -/
theorem swapCpmm (h : Parts client P Q) (pool : CpmmPool) (input output : Pubkey) :
    Yields (fun r => ∀ leg ∈ r.1, P leg) (client.swapCpmm amount pool input output opts) := by
  unfold RouterClient.swapCpmm
  cases opts.fixedOutput with
  | some target =>
    exact (h.cpmmExactOut pool _ _ _ _ _ _).bind fun _ hleg => yields_pure (forall_mem_leg hleg)
  | none => exact yields_leg (fun _ => h.cpmm pool _ _ _ _ _ _) fun _ _ => rfl

/-! A sale swaps the other mint, and its legs are those of that swap. -/

/-- On AMM V4. -/
theorem sellRaydiumV4ToMint (h : Parts client P Q) (pool : RaydiumAmmV4Pool) (output : Pubkey) :
    Yields (fun r => ∀ leg ∈ r.1, P leg)
      (client.sellRaydiumV4ToMint amount pool output opts) :=
  yields_bind fun input _ =>
    (h.buyRaydiumV4WithMint pool input).bind fun _ hr => yields_pure hr

/-- On DAMM V2. -/
theorem sellMeteoraV2ToMint (h : Parts client P Q) (pool : MeteoraDammV2Pool)
    (output : Pubkey) : Yields (fun r => ∀ leg ∈ r.1, P leg)
      (client.sellMeteoraV2ToMint amount pool output opts) :=
  yields_bind fun input _ =>
    (h.buyMeteoraV2WithMint pool input.1).bind fun _ hr => yields_pure hr

/-- On CLMM. -/
theorem sellRaydiumClmmToMint (h : Parts client P Q) (pool : RaydiumClmmPool)
    (output : Pubkey) : Yields (fun r => ∀ leg ∈ r.1, P leg)
      (client.sellRaydiumClmmToMint amount pool output opts) :=
  yields_bind fun _ _ => (buyConcentrated fun _ => h.raydiumClmm pool _ _ _).bind fun _ hr =>
    yields_pure hr

/-- On Whirlpool. -/
theorem sellWhirlpoolToMint (h : Parts client P Q) (pool : WhirlpoolPool) (output : Pubkey) :
    Yields (fun r => ∀ leg ∈ r.1, P leg)
      (client.sellWhirlpoolToMint amount pool output opts) :=
  yields_bind fun _ _ => (buyConcentrated fun _ => h.whirlpool pool _ _ _).bind fun _ hr =>
    yields_pure hr

/-- And on DLMM. -/
theorem sellMeteoraDlmmToMint (h : Parts client P Q) (pool : MeteoraDlmmPool)
    (output : Pubkey) : Yields (fun r => ∀ leg ∈ r.1, P leg)
      (client.sellMeteoraDlmmToMint amount pool output opts) :=
  yields_bind fun _ _ => (buyConcentrated fun _ => h.meteoraDlmm pool _ _ _).bind fun _ hr =>
    yields_pure hr

/-- A CPMM buy also makes the account it receives into. -/
theorem buyCpmmWithMint (h : Parts client P Q) (hs : Q s) {pool : CpmmPool}
    {input output : Pubkey} :
    Yields (BuyLegs.Made P Q) (client.buyCpmmWithMint amount pool input output opts s) := by
  refine (h.swapCpmm pool input output).bind fun _ hr => yields_pure ⟨hr, ?_⟩
  dsimp only
  split
  · exact h.created _ _ _ _ (h.noted _ hs)
  · exact h.created _ _ _ _ (h.noted _ hs)

/-- And a sale the one it is paid into. -/
theorem sellCpmmToMint (h : Parts client P Q) (hs : Q s) {pool : CpmmPool}
    {input output : Pubkey} :
    Yields (SellLegs.Made P Q) (client.sellCpmmToMint amount pool input output opts s) :=
  (h.swapCpmm pool input output).bind fun _ hr => yields_pure ⟨hr, h.useAta hs⟩

/-! ## Two swaps -/

variable {bridge : BridgePool}

/-- **The leg of a bridge** is one of the two exchanges a bridge can be. -/
theorem bridgeSwapLeg (h : Parts client P Q) (bridge : BridgePool) (sent received : UInt64)
    (input output source destination : Pubkey) :
    Yields P (Sdk.bridgeSwapLeg client.payer bridge sent received input output source
      destination) := by
  cases bridge with
  | cpmm pool => exact h.cpmm pool _ _ _ _ _ _
  | ammV4 pool => exact h.raydiumAmmV4 pool _ _ _

/-- So is the leg back to SOL. -/
theorem bridgeToSol (h : Parts client P Q) (stock account : Pubkey) :
    Yields (fun r => P r.1) (client.bridgeToSol bridge amount stock account opts) :=
  yields_bind fun _ _ => (h.bridgeSwapLeg bridge _ _ _ _ _ _).bind fun _ hleg =>
    yields_pure hleg

/-- A bridged buy on LaunchLab is the bridge's leg and the curve's. -/
theorem buyViaBridgeLaunchlab (h : Parts client P Q) (hs : Q s) {pool : LaunchLabPool} :
    Yields (BuyLegs.Made P Q) (client.buyViaBridgeLaunchlab amount pool bridge opts s) :=
  yields_bind fun _ _ => yields_bind fun _ _ => yields_bind fun _ _ => yields_bind fun _ _ =>
    (h.bridgeSwapLeg bridge _ _ _ _ _ _).bind fun _ hfirst => yields_bind fun _ _ =>
      yields_pure ⟨forall_mem_legs hfirst (h.launchlabBuy _ _ _ _ _), h.useAta hs⟩

/-- On CPMM it is the bridge's and the pool's. -/
theorem buyViaBridgeCpmm (h : Parts client P Q) (hs : Q s) {pool : CpmmPool} :
    Yields (BuyLegs.Made P Q) (client.buyViaBridgeCpmm amount pool bridge opts s) :=
  yields_bind fun _ _ => yields_bind fun _ _ => yields_bind fun _ _ =>
    (h.bridgeSwapLeg bridge _ _ _ _ _ _).bind fun _ hfirst => yields_bind fun _ _ =>
      (h.cpmm pool _ _ _ _ _ _).bind fun _ hsecond =>
        yields_pure ⟨forall_mem_legs hfirst hsecond, h.noted _ (h.useAta hs)⟩

/-- A bridged sale has the same two legs the other way round. -/
theorem sellViaBridgeLaunchlab (h : Parts client P Q) (hs : Q s) {pool : LaunchLabPool} :
    Yields (SellLegs.Made P Q) (client.sellViaBridgeLaunchlab amount pool bridge opts s) :=
  yields_bind fun _ _ => yields_bind fun _ _ => (h.bridgeToSol _ _).bind fun _ hsecond =>
    yields_pure ⟨forall_mem_legs (h.launchlabSell _ _ _ _ _) hsecond, h.useAta hs⟩

/-- And so it has on CPMM. -/
theorem sellViaBridgeCpmm (h : Parts client P Q) (hs : Q s) {pool : CpmmPool} :
    Yields (SellLegs.Made P Q) (client.sellViaBridgeCpmm amount pool bridge opts s) :=
  yields_bind fun _ _ => yields_bind fun _ _ => yields_bind fun _ _ =>
    (h.cpmm pool _ _ _ _ _ _).bind fun _ hfirst => (h.bridgeToSol _ _).bind fun _ hsecond =>
      yields_pure ⟨forall_mem_legs hfirst hsecond, h.useAta hs⟩

/-- **The second leg of a bridged buy**, on every exchange that can have one; a
curve and a CPMM pool have builders of their own. -/
theorem bridgedBuyLeg (h : Parts client P Q) (market : Market) (quote : Pubkey) :
    Yields (fun r => P r.1) (client.bridgedBuyLeg market quote amount opts) := by
  cases market with
  | pumpFunInner pool =>
    refine yields_ite (fun _ => ?_) fun _ => yields_error
    exact yields_bind fun _ _ => yields_bind fun _ _ => yields_pure (h.pumpfunBuyV2 pool _ _)
  | pumpSwapOuter pool =>
    exact yields_bind fun _ _ => (h.pumpswapBuy pool _ _).bind fun _ hleg => yields_pure hleg
  | raydiumAmmV4 pool =>
    exact yields_bind fun _ _ => (h.raydiumAmmV4 pool _ _ _).bind fun _ hleg => yields_pure hleg
  | meteoraDammV2 pool =>
    exact yields_bind fun _ _ => (h.meteoraDammV2 _ _ _ _).bind fun _ hleg => yields_pure hleg
  | raydiumClmm pool =>
    exact yields_bind fun _ _ => (h.raydiumClmm pool _ _ _).bind fun _ hleg => yields_pure hleg
  | whirlpool pool =>
    exact yields_bind fun _ _ => (h.whirlpool pool _ _ _).bind fun _ hleg => yields_pure hleg
  | meteoraDlmm pool =>
    exact yields_bind fun _ _ => (h.meteoraDlmm pool _ _ _).bind fun _ hleg => yields_pure hleg
  | launchLabInner pool => exact yields_error
  | cpmmOuter pool => exact yields_error

omit [Pda] [Upstream] in
/-- The first leg of a bridged sale on a concentrated pool. -/
theorem bridgedConcentratedSellLeg {swapLeg : UInt64 → Result Leg}
    (hleg : ∀ min, Yields P (swapLeg min)) {quotedInputMint : Option Pubkey}
    {expectedOut quotedAmountIn : Option UInt64} {dex : String} {input : Pubkey} :
    Yields (fun r => P r.1) (RouterClient.bridgedConcentratedSellLeg quotedInputMint expectedOut
      quotedAmountIn dex swapLeg amount input) :=
  yields_bind fun _ _ => yields_bind fun min _ => (hleg min).bind fun _ hl => yields_pure hl

/-- **The first leg of a bridged sale**, on every exchange that can have one. -/
theorem bridgedSellLeg (h : Parts client P Q) (market : Market) (quote : Pubkey) :
    Yields (fun r => P r.1) (client.bridgedSellLeg market quote amount) := by
  cases market with
  | pumpFunInner pool =>
    refine yields_ite (fun _ => ?_) fun _ => yields_error
    exact yields_bind fun _ _ => yields_bind fun _ _ => yields_pure (h.pumpfunSellV2 pool _ _)
  | pumpSwapOuter pool =>
    exact yields_bind fun _ _ => (h.pumpswapSell pool _ _).bind fun _ hleg => yields_pure hleg
  | raydiumAmmV4 pool =>
    exact yields_bind fun _ _ => (h.raydiumAmmV4 pool _ _ _).bind fun _ hleg => yields_pure hleg
  | meteoraDammV2 pool =>
    exact yields_bind fun _ _ => (h.meteoraDammV2 _ _ _ _).bind fun _ hleg => yields_pure hleg
  | raydiumClmm pool =>
    exact bridgedConcentratedSellLeg fun _ => h.raydiumClmm pool _ _ _
  | whirlpool pool =>
    exact bridgedConcentratedSellLeg fun _ => h.whirlpool pool _ _ _
  | meteoraDlmm pool =>
    exact bridgedConcentratedSellLeg fun _ => h.meteoraDlmm pool _ _ _
  | launchLabInner pool => exact yields_error
  | cpmmOuter pool => exact yields_error

/-- A bridged buy on any of these is the bridge's leg and the market's. -/
theorem buyViaBridgeMainstream (h : Parts client P Q) (hs : Q s) {market : Market} :
    Yields (BuyLegs.Made P Q) (client.buyViaBridgeMainstream amount market bridge opts s) :=
  yields_bind fun _ _ => yields_bind fun _ _ =>
    (h.bridgeSwapLeg bridge _ _ _ _ _ _).bind fun _ hfirst =>
      (h.bridgedBuyLeg market _).bind fun _ hsecond =>
        yields_pure ⟨forall_mem_legs hfirst hsecond, h.created _ _ _ _ (h.noted _ hs)⟩

/-- And a bridged sale is the market's and the bridge's. -/
theorem sellViaBridgeMainstream (h : Parts client P Q) (hs : Q s) {market : Market} :
    Yields (SellLegs.Made P Q) (client.sellViaBridgeMainstream amount market bridge opts s) :=
  yields_bind fun _ _ => (h.bridgedSellLeg market _).bind fun _ hfirst =>
    (h.bridgeToSol _ _).bind fun _ hsecond =>
      yields_pure ⟨forall_mem_legs hfirst hsecond, h.created _ _ _ _ (h.noted _ hs)⟩

/-! ## Choosing the path -/

variable {market : RoutedMarket} {account : Pubkey}

/-- **A buy on a LaunchLab market**: with a token or with SOL on the curve
itself, through the bridge where its quote is not SOL. -/
theorem buyLaunchlabMarket (h : Parts client P Q) (hs : Q s) {pool : LaunchLabPool} :
    Yields (BuyLegs.Made P Q)
      (client.buyLaunchlabMarket amount pool market opts account s) := by
  have hsol : Yields (BuyLegs.Made P Q)
      (if pool.isSolQuote then client.buyLaunchlab amount pool opts account
          (ata client.payer wsolMint pool.quoteTokenProgram) s
        else do
          let bridge ← okOr market.bridge "missing SOL↔stock bridge"
          client.buyViaBridgeLaunchlab amount pool bridge opts s) :=
    yields_ite (fun _ => h.buyLaunchlab hs) fun _ =>
      yields_bind fun _ _ => h.buyViaBridgeLaunchlab hs
  unfold RouterClient.buyLaunchlabMarket
  cases opts.buyWith with
  | token mint => exact yields_bind fun _ _ => h.buyLaunchlab (h.useAta hs)
  | sol => exact hsol
  | wsol => exact hsol

/-- And a sale on one. -/
theorem sellLaunchlabMarket (h : Parts client P Q) (hs : Q s) {pool : LaunchLabPool} :
    Yields (SellLegs.Made P Q)
      (client.sellLaunchlabMarket amount pool market opts account s) := by
  have hsol : Yields (SellLegs.Made P Q)
      (if pool.isSolQuote then client.sellLaunchlab amount pool opts account
          (ata client.payer wsolMint pool.quoteTokenProgram) s
        else do
          let bridge ← okOr market.bridge "missing SOL↔stock bridge"
          client.sellViaBridgeLaunchlab amount pool bridge opts s) :=
    yields_ite (fun _ => h.sellLaunchlab hs) fun _ =>
      yields_bind fun _ _ => h.sellViaBridgeLaunchlab hs
  unfold RouterClient.sellLaunchlabMarket
  cases opts.sellTo with
  | token mint => exact yields_bind fun _ _ => h.sellLaunchlab (h.useAta hs)
  | sol => exact hsol
  | wsol => exact hsol

/-- **A buy on a CPMM market**, through the bridge where the pool has no SOL
side. -/
theorem buyCpmmMarket (h : Parts client P Q) (hs : Q s) {pool : CpmmPool} :
    Yields (BuyLegs.Made P Q) (client.buyCpmmMarket amount pool market opts s) := by
  have hsol : Yields (BuyLegs.Made P Q)
      (if !market.market.needsSolBridge then
          client.buyCpmmWithMint amount pool wsolMint pool.memeMint opts s
        else do
          let bridge ← okOr market.bridge "missing SOL↔stock bridge"
          client.buyViaBridgeCpmm amount pool bridge opts s) :=
    yields_ite (fun _ => h.buyCpmmWithMint hs) fun _ =>
      yields_bind fun _ _ => h.buyViaBridgeCpmm hs
  unfold RouterClient.buyCpmmMarket
  cases opts.buyWith with
  | token mint => exact h.buyCpmmWithMint hs
  | sol => exact hsol
  | wsol => exact hsol

/-- And a sale on one. -/
theorem sellCpmmMarket (h : Parts client P Q) (hs : Q s) {pool : CpmmPool} :
    Yields (SellLegs.Made P Q) (client.sellCpmmMarket amount pool market opts s) := by
  have hsol : Yields (SellLegs.Made P Q)
      (if !market.market.needsSolBridge then
          client.sellCpmmToMint amount pool pool.memeMint wsolMint opts s
        else do
          let bridge ← okOr market.bridge "missing SOL↔stock bridge"
          client.sellViaBridgeCpmm amount pool bridge opts s) :=
    yields_ite (fun _ => h.sellCpmmToMint hs) fun _ =>
      yields_bind fun _ _ => h.sellViaBridgeCpmm hs
  unfold RouterClient.sellCpmmMarket
  cases opts.sellTo with
  | token mint => exact h.sellCpmmToMint hs
  | sol => exact hsol
  | wsol => exact hsol

/-- **A buy on a pair** goes the pair's own way if that fits, and through the
bridge otherwise. -/
theorem buyPair (h : Parts client P Q) (hs : Q s) {tokenProgramOf : Pubkey → Pubkey}
    {swap : Pubkey → Result (List Leg × UInt64)}
    (hswap : ∀ mint, Yields (fun r => ∀ leg ∈ r.1, P leg) (swap mint)) :
    Yields (BuyLegs.Made P Q) (client.buyPair tokenProgramOf swap amount market opts s) := by
  unfold RouterClient.buyPair
  cases opts.buyWith with
  | token mint => exact (hswap mint).bind fun _ hr => yields_pure ⟨hr, h.useAta hs⟩
  | sol | wsol =>
    exact yields_ite (fun _ => (hswap wsolMint).bind fun _ hr => yields_pure ⟨hr, hs⟩) fun _ =>
      yields_bind fun _ _ => h.buyViaBridgeMainstream hs

/-- And so does a sale. -/
theorem sellPair (h : Parts client P Q) (hs : Q s) {tokenProgramOf : Pubkey → Pubkey}
    {swap : Pubkey → Result (List Leg × UInt64 × Pubkey)}
    (hswap : ∀ mint, Yields (fun r => ∀ leg ∈ r.1, P leg) (swap mint)) :
    Yields (SellLegs.Made P Q) (client.sellPair tokenProgramOf swap amount market opts s) := by
  unfold RouterClient.sellPair
  cases opts.sellTo with
  | token mint => exact (hswap mint).bind fun _ hr => yields_pure ⟨hr, h.useAta hs⟩
  | sol | wsol =>
    exact yields_ite (fun _ => (hswap wsolMint).bind fun _ hr => yields_pure ⟨hr, hs⟩) fun _ =>
      yields_bind fun _ _ => h.sellViaBridgeMainstream hs

/-- **A buy on the bonding curve**: the first generation where SOL is paid into
a classic pool, the second or the bridge elsewhere. -/
theorem buyPumpfun (h : Parts client P Q) (hs : Q s) {pool : PumpFunPool} :
    Yields (BuyLegs.Made P Q) (client.buyPumpfun amount pool market opts account s) := by
  have hv2 : Yields (BuyLegs.Made P Q) (RouterClient.buyPumpfun.v2 client amount pool opts s) :=
    yields_bind fun _ _ => yields_pure ⟨forall_mem_leg (h.pumpfunBuyV2 pool _ _), hs⟩
  have hbridged : Yields (BuyLegs.Made P Q)
      (RouterClient.buyPumpfun.bridged client amount market opts s) :=
    yields_bind fun _ _ => h.buyViaBridgeMainstream hs
  unfold RouterClient.buyPumpfun
  cases opts.buyWith with
  | sol =>
    exact yields_ite (fun _ => yields_bind fun _ _ => yields_pure
        ⟨forall_mem_leg (h.pumpfunBuy pool _ _ _), h.prepared pool true hs⟩)
      fun _ => yields_ite (fun _ => hbridged) fun _ => yields_error
  | wsol =>
    exact yields_ite (fun _ => hv2) fun _ => yields_ite (fun _ => hbridged) fun _ => yields_error
  | token mint =>
    exact yields_ite (fun _ => yields_bind fun _ _ => yields_bind fun _ _ => hv2)
      fun _ => yields_error

/-- And a sale, by the same cases. -/
theorem sellPumpfun (h : Parts client P Q) (hs : Q s) {pool : PumpFunPool} :
    Yields (SellLegs.Made P Q) (client.sellPumpfun amount pool market opts account s) := by
  have hv2 : ∀ output, Yields (SellLegs.Made P Q)
      (RouterClient.sellPumpfun.v2 client amount pool opts s output) := fun output =>
    yields_bind fun _ _ => yields_pure ⟨forall_mem_leg (h.pumpfunSellV2 pool _ _), hs⟩
  have hbridged : Yields (SellLegs.Made P Q)
      (RouterClient.sellPumpfun.bridged client amount market opts s) :=
    yields_bind fun _ _ => h.sellViaBridgeMainstream hs
  unfold RouterClient.sellPumpfun
  cases opts.sellTo with
  | sol =>
    exact yields_ite (fun _ => yields_bind fun _ _ => yields_pure
        ⟨forall_mem_leg (h.pumpfunSell pool _ _ _), h.prepared pool _ hs⟩)
      fun _ => yields_ite (fun _ => hbridged) fun _ => yields_error
  | wsol =>
    exact yields_ite (fun _ => hv2 _) fun _ =>
      yields_ite (fun _ => hbridged) fun _ => yields_error
  | token mint =>
    exact yields_ite (fun _ => yields_bind fun _ _ => yields_bind fun _ _ => hv2 _)
      fun _ => yields_error

/-- **What holds of the parts holds of every buy.** -/
theorem buildBuyLegs (h : Parts client P Q) (hs : Q s) :
    Yields (BuyLegs.Made P Q) (client.buildBuyLegs amount market opts s) := by
  unfold RouterClient.buildBuyLegs
  cases market.market with
  | launchLabInner pool => exact h.buyLaunchlabMarket hs
  | pumpFunInner pool => exact h.buyPumpfun hs
  | cpmmOuter pool => exact h.buyCpmmMarket hs
  | pumpSwapOuter pool => exact h.buyPair hs fun mint => h.buyPumpswapWithQuote pool mint
  | raydiumAmmV4 pool => exact h.buyPair hs fun mint => h.buyRaydiumV4WithMint pool mint
  | meteoraDammV2 pool => exact h.buyPair hs fun mint => h.buyMeteoraV2WithMint pool mint
  | raydiumClmm pool =>
    exact h.buyPair hs fun _ => buyConcentrated fun _ => h.raydiumClmm pool _ _ _
  | whirlpool pool =>
    exact h.buyPair hs fun _ => buyConcentrated fun _ => h.whirlpool pool _ _ _
  | meteoraDlmm pool =>
    exact h.buyPair hs fun _ => buyConcentrated fun _ => h.meteoraDlmm pool _ _ _

/-- **And of every sale.** -/
theorem buildSellLegs (h : Parts client P Q) (hs : Q s) :
    Yields (SellLegs.Made P Q) (client.buildSellLegs amount market opts s) := by
  unfold RouterClient.buildSellLegs
  cases market.market with
  | launchLabInner pool => exact h.sellLaunchlabMarket hs
  | pumpFunInner pool => exact h.sellPumpfun hs
  | cpmmOuter pool => exact h.sellCpmmMarket hs
  | pumpSwapOuter pool => exact h.sellPair hs fun mint => h.sellPumpswapToQuote pool mint
  | raydiumAmmV4 pool => exact h.sellPair hs fun mint => h.sellRaydiumV4ToMint pool mint
  | meteoraDammV2 pool => exact h.sellPair hs fun mint => h.sellMeteoraV2ToMint pool mint
  | raydiumClmm pool => exact h.sellPair hs fun mint => h.sellRaydiumClmmToMint pool mint
  | whirlpool pool => exact h.sellPair hs fun mint => h.sellWhirlpoolToMint pool mint
  | meteoraDlmm pool => exact h.sellPair hs fun mint => h.sellMeteoraDlmmToMint pool mint

end Parts

end Sdk
