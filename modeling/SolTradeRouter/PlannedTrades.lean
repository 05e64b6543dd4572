import SolTradeRouter.TradePlan

/-!
# Every trade follows a plan

`buildBuyLegs` and `buildSellLegs` choose among about thirty ways to trade.
Each way yields the legs of a plan, and keeps the setup it is given. So does
a whole trade: `buyWithOpts` and `sellWithOpts` return a route whose legs
and amounts are those of a plan for what is left of the amount after the
fee.
-/

namespace Sdk

open Outcome Bytes

section Built

variable [Pda] [Upstream] {client : RouterClient} {market : RoutedMarket} {opts : TradeOpts}
  {needsBridge : Bool} {amount : UInt64} {s : TradeSetup}

omit [Upstream] in
/-- A trade without a bridge has nothing to prepare in the middle. -/
theorem prepares_of_extends {user : Pubkey} {policy : AtaPolicy} {s' : TradeSetup}
    (h : s.Extends s') : Prepares user market policy s s' false :=
  ⟨h, fun h => by cases h⟩

omit [Pda] [Upstream] in
/-- What goes over a bridge has found one, of the quote's token program. -/
theorem PathChecked.bridge_of_ok {token : Option Pubkey} {isBuy : Bool} {missing : String}
    {α : Type} {f : BridgePool → Result α} {a : α}
    (hpath : PathChecked market token needsBridge isBuy opts) (hbridged : needsBridge = true)
    (h : (okOr market.bridge missing >>= f) = .ok a) :
    ∃ bridge, market.bridge = some bridge
      ∧ bridge.programFor market.quoteMint = market.quoteTokenProgram ∧ f bridge = .ok a := by
  obtain ⟨bridge, hbridge, hprogram⟩ := hpath.bridge hbridged
  obtain ⟨b, hb, h⟩ := bind_eq_ok.mp h
  rw [okOr_eq_ok, hbridge, Option.some.injEq] at hb
  subst hb
  exact ⟨bridge, hbridge, hprogram, h⟩

/-- **A bridged buy on a market other than a curve or a CPMM pool.** -/
theorem bridgedBuy_plan {built : BuyLegs} {missing : String}
    (hpath : PathChecked market none needsBridge true opts)
    (hneeds : market.market.needsSolBridge = true)
    (h : (do
      let bridge ← okOr market.bridge missing
      client.buyViaBridgeMainstream amount market.market bridge opts s) = .ok built) :
    BuyPlan client.payer market opts amount needsBridge built.legs built.minOut built.spent
      ∧ Prepares client.payer market opts.ata s built.setup needsBridge := by
  have hbridged : needsBridge = true := (hpath.sol rfl).trans hneeds
  obtain ⟨bridge, hbridge, hprogram, h⟩ := hpath.bridge_of_ok hbridged h
  rw [hbridged]
  exact buyViaBridgeMainstream_plan hneeds hbridge hprogram (hpath.fixed_none (.inl hbridged)) h

/-- A sale over a bridge is planned, on a path that was checked to have one. -/
theorem bridgedSell_plan {built : SellLegs} {missing : String}
    (hpath : PathChecked market none needsBridge false opts)
    (hneeds : market.market.needsSolBridge = true)
    (h : (do
      let bridge ← okOr market.bridge missing
      client.sellViaBridgeMainstream amount market.market bridge opts s) = .ok built) :
    SellPlan client.payer market opts amount needsBridge built.legs built.minOut built.outputAta
      ∧ Prepares client.payer market opts.ata s built.setup needsBridge := by
  have hbridged : needsBridge = true := (hpath.sol rfl).trans hneeds
  obtain ⟨bridge, hbridge, hprogram, h⟩ := hpath.bridge_of_ok hbridged h
  rw [hbridged]
  exact sellViaBridgeMainstream_plan hneeds hbridge hprogram
    (hpath.fixed_none (.inl hbridged)) h

/-- **A buy on a pool of two mints** whose swap is a single swap of the
market's hop. -/
theorem buyPair_plan {programOf : Pubkey → Pubkey}
    {swap : Pubkey → Result (List Leg × UInt64)} {built : BuyLegs}
    (hpath : PathChecked market opts.buyWith.payMint needsBridge true opts)
    (hnative : market.market.isPumpNativeSol = false)
    (hlaunch : ∀ pool, market.market ≠ .launchLabInner pool)
    (hswap : ∀ {mint legs minOut}, swap mint = .ok (legs, minOut) →
      Single client.payer opts (market.market.buyHop client.payer (some mint)) amount legs
        minOut)
    (h : client.buyPair programOf swap amount market opts s = .ok built) :
    BuyPlan client.payer market opts amount needsBridge built.legs built.minOut built.spent
      ∧ Prepares client.payer market opts.ata s built.setup needsBridge := by
  have hasset : ∀ mint, market.payAsset opts.buyWith = some mint → ∀ {legs minOut},
      swap mint = .ok (legs, minOut) →
      BuyPlan client.payer market opts amount false legs minOut amount := by
    intro mint hmint legs minOut hlegs
    exact .single hlaunch (hmint ▸ hswap hlegs)
  have hsol : opts.buyWith.payMint = none → market.payAsset opts.buyWith = some wsolMint →
      (if !market.market.needsSolBridge then do
        let q ← swap wsolMint
        pure ⟨q.1, q.2, amount, s⟩
      else do
        let bridge ← okOr market.bridge "missing SOL↔quote bridge"
        client.buyViaBridgeMainstream amount market.market bridge opts s) = .ok built →
      BuyPlan client.payer market opts amount needsBridge built.legs built.minOut built.spent
        ∧ Prepares client.payer market opts.ata s built.setup needsBridge := by
    intro hnone hpay h
    rw [hnone] at hpath
    split at h
    · rename_i hdirect
      rw [Bool.not_eq_true', ← hpath.sol rfl] at hdirect
      obtain ⟨⟨legs, min⟩, hlegs, h⟩ := bind_eq_ok.mp h
      cases h
      rw [hdirect]
      exact ⟨hasset _ hpay hlegs, prepares_of_extends (.refl _)⟩
    · rename_i hneeds
      exact bridgedBuy_plan hpath (by simpa using hneeds) h
  unfold RouterClient.buyPair at h
  cases hbuy : opts.buyWith with
  | token mint =>
    rw [hbuy] at h hasset
    obtain ⟨⟨legs, min⟩, hlegs, h⟩ := bind_eq_ok.mp h
    cases h
    rw [(hpath.token_eq mint (by rw [hbuy]; rfl)).2]
    exact ⟨hasset mint rfl hlegs, prepares_of_extends TradeSetup.extends_useAta⟩
  | sol =>
    rw [hbuy] at h hsol
    exact hsol rfl (by rw [RoutedMarket.payAsset, hnative]; rfl) h
  | wsol =>
    rw [hbuy] at h hsol
    exact hsol rfl rfl h

/-- **A sale on a pair is planned**: by the pair's own swap to a token or to
SOL, and over the bridge where the pair has no SOL side. -/
theorem sellPair_plan {programOf : Pubkey → Pubkey}
    {swap : Pubkey → Result (List Leg × UInt64 × Pubkey)} {built : SellLegs}
    (hpath : PathChecked market opts.sellTo.receiveMint needsBridge false opts)
    (hnative : market.market.isPumpNativeSol = false)
    (hswap : ∀ {mint legs minOut account}, swap mint = .ok (legs, minOut, account) →
      Single client.payer opts (market.market.sellHop client.payer (some mint)) amount legs
          minOut
        ∧ account = (market.market.receiveSide client.payer (some mint)).account)
    (h : client.sellPair programOf swap amount market opts s = .ok built) :
    SellPlan client.payer market opts amount needsBridge built.legs built.minOut built.outputAta
      ∧ Prepares client.payer market opts.ata s built.setup needsBridge := by
  have hasset : ∀ mint, market.receiveAsset opts.sellTo = some mint → ∀ {legs minOut account},
      swap mint = .ok (legs, minOut, account) →
      SellPlan client.payer market opts amount false legs minOut account := by
    intro mint hmint legs minOut account hlegs
    obtain ⟨hsingle, haccount⟩ := hswap hlegs
    exact .single (hmint ▸ hsingle) fun _ => hmint ▸ haccount
  have hsol : opts.sellTo.receiveMint = none → market.receiveAsset opts.sellTo = some wsolMint →
      (if !market.market.needsSolBridge then do
        let q ← swap wsolMint
        pure ⟨q.1, q.2.1, q.2.2, s⟩
      else do
        let bridge ← okOr market.bridge "missing SOL↔quote bridge"
        client.sellViaBridgeMainstream amount market.market bridge opts s) = .ok built →
      SellPlan client.payer market opts amount needsBridge built.legs built.minOut built.outputAta
        ∧ Prepares client.payer market opts.ata s built.setup needsBridge := by
    intro hnone hreceive h
    rw [hnone] at hpath
    split at h
    · rename_i hdirect
      rw [Bool.not_eq_true', ← hpath.sol rfl] at hdirect
      obtain ⟨⟨legs, min, account⟩, hlegs, h⟩ := bind_eq_ok.mp h
      cases h
      rw [hdirect]
      exact ⟨hasset _ hreceive hlegs, prepares_of_extends (.refl _)⟩
    · rename_i hneeds
      exact bridgedSell_plan hpath (by simpa using hneeds) h
  unfold RouterClient.sellPair at h
  cases hsell : opts.sellTo with
  | token mint =>
    rw [hsell] at h hasset
    obtain ⟨⟨legs, min, account⟩, hlegs, h⟩ := bind_eq_ok.mp h
    cases h
    rw [(hpath.token_eq mint (by rw [hsell]; rfl)).2]
    exact ⟨hasset mint rfl hlegs, prepares_of_extends TradeSetup.extends_useAta⟩
  | sol =>
    rw [hsell] at h hsol
    exact hsol rfl (by rw [RoutedMarket.receiveAsset, hnative]; rfl) h
  | wsol =>
    rw [hsell] at h hsol
    exact hsol rfl rfl h

omit [Upstream] in
/-- Preparing the bonding curve adds to the setup, and takes nothing away. -/
theorem extends_prepare {router payer : Pubkey} {pool : PumpFunPool} {volume : Bool} :
    s.Extends (preparePumpfunNativeAccounts router payer pool volume s) := by
  refine TradeSetup.extends_push fun ix hix => ?_
  rcases List.mem_append.mp hix with hvolume | hprepare
  · cases volume with
    | false => exact absurd hvolume List.not_mem_nil
    | true => exact .inr (.inl (by rw [List.mem_singleton.mp hvolume]))
  · exact .inr (.inr (by rw [List.mem_singleton.mp hprepare]))

/-- **A buy on a PumpFun curve.** -/
theorem buyPumpfun_plan {pool : PumpFunPool} {memeAta : Pubkey} {built : BuyLegs}
    (hmarket : market.market = .pumpFunInner pool)
    (hmeme : memeAta = ata client.payer pool.mint pool.mintTokenProgram)
    (hpath : PathChecked market opts.buyWith.payMint needsBridge true opts)
    (h : client.buyPumpfun amount pool market opts memeAta s = .ok built) :
    BuyPlan client.payer market opts amount needsBridge built.legs built.minOut built.spent
      ∧ Prepares client.payer market opts.ata s built.setup needsBridge := by
  have hfixed := hpath.fixed_none (.inr (by rw [hmarket]; rfl))
  have hlaunch : ∀ pool, market.market ≠ .launchLabInner pool := by
    rw [hmarket]
    exact fun _ hp => by cases hp
  have hhop : ∀ asset, market.market.buyHop client.payer asset
      = pool.buyHop client.payer asset.isNone := by
    rw [hmarket]
    exact fun _ => rfl
  have hneeds : market.market.needsSolBridge = !pool.isNativeSolQuote := by
    rw [hmarket]
    exact decide_not
  have hv2 : (market.payAsset opts.buyWith).isNone = false → needsBridge = false →
      RouterClient.buyPumpfun.v2 client amount pool opts s = .ok built →
      BuyPlan client.payer market opts amount needsBridge built.legs built.minOut built.spent
        ∧ Prepares client.payer market opts.ata s built.setup needsBridge := by
    intro hasset hdirect h
    obtain ⟨minOut, hmin, h⟩ := bind_eq_ok.mp h
    cases h
    rw [hdirect]
    refine ⟨.single hlaunch ?_, prepares_of_extends (.refl _)⟩
    rw [hhop, hasset]
    exact .exactIn hfixed (pumpfunBuyV2Leg_swaps _ _ _ _) (TradeOpts.minOutOr_eq_ok hmin)
  have hbridged : opts.buyWith.payMint = none →
      (pool.usesV2 && !pool.isNativeSolQuote) = true →
      RouterClient.buyPumpfun.bridged client amount market opts s = .ok built →
      BuyPlan client.payer market opts amount needsBridge built.legs built.minOut built.spent
        ∧ Prepares client.payer market opts.ata s built.setup needsBridge := by
    intro hnone hv2 h
    rw [hnone] at hpath
    rw [Bool.and_eq_true] at hv2
    exact bridgedBuy_plan hpath (hneeds.trans hv2.2) h
  unfold RouterClient.buyPumpfun at h
  cases hbuy : opts.buyWith with
  | sol =>
    rw [hbuy] at h hbridged
    dsimp only at h
    split at h
    · rename_i hnative
      obtain ⟨minOut, hmin, h⟩ := bind_eq_ok.mp h
      cases h
      have hpay : market.payAsset opts.buyWith = none := by
        rw [hbuy, RoutedMarket.payAsset, hmarket]
        exact if_pos hnative
      have hdirect : needsBridge = false := by
        rw [hbuy] at hpath
        rw [hpath.sol rfl, hneeds, hnative]
        rfl
      rw [hdirect]
      refine ⟨.single hlaunch ?_, prepares_of_extends extends_prepare⟩
      rw [hhop, hpay]
      subst hmeme
      exact .exactIn hfixed (pumpfunBuyLeg_swaps _ _ _ _ _) (TradeOpts.minOutOr_eq_ok hmin)
    · split at h
      · rename_i hv2'
        exact hbridged rfl hv2' h
      · cases h
  | wsol =>
    rw [hbuy] at h hbridged hv2
    dsimp only at h
    split at h
    · rename_i hwsol
      have hdirect : needsBridge = false := by
        rw [hbuy] at hpath
        have hnative : pool.isNativeSolQuote = true := (Bool.and_eq_true_iff.mp hwsol).1
        rw [hpath.sol rfl, hneeds, hnative]
        rfl
      exact hv2 rfl hdirect h
    · split at h
      · rename_i hv2'
        exact hbridged rfl hv2' h
      · cases h
  | token mint =>
    rw [hbuy] at h hv2
    dsimp only at h
    split at h
    · obtain ⟨_, -, h⟩ := bind_eq_ok.mp h
      obtain ⟨_, -, h⟩ := bind_eq_ok.mp h
      exact hv2 rfl (hpath.token_eq mint (by rw [hbuy]; rfl)).2 h
    · cases h

/-- **A sale on a PumpFun curve.** -/
theorem sellPumpfun_plan {pool : PumpFunPool} {memeAta : Pubkey} {built : SellLegs}
    (hmarket : market.market = .pumpFunInner pool)
    (hmeme : memeAta = ata client.payer pool.mint pool.mintTokenProgram)
    (hprogram : pool.isNativeSolQuote = true → opts.sellTo = .wsol →
      pool.quoteTokenProgram = tokenProgram)
    (hpath : PathChecked market opts.sellTo.receiveMint needsBridge false opts)
    (h : client.sellPumpfun amount pool market opts memeAta s = .ok built) :
    SellPlan client.payer market opts amount needsBridge built.legs built.minOut built.outputAta
      ∧ Prepares client.payer market opts.ata s built.setup needsBridge := by
  have hfixed := hpath.fixed_none (.inr (by rw [hmarket]; rfl))
  have hhop : ∀ asset, market.market.sellHop client.payer asset
      = pool.sellHop client.payer asset.isNone := by
    rw [hmarket]
    exact fun _ => rfl
  have hside : ∀ asset, market.market.receiveSide client.payer asset
      = (pool.sellHop client.payer asset.isNone).output := by
    rw [hmarket]
    exact fun _ => rfl
  have hneeds : market.market.needsSolBridge = !pool.isNativeSolQuote := by
    rw [hmarket]
    exact decide_not
  have hv2 : ∀ {account}, (market.receiveAsset opts.sellTo).isNone = false →
      needsBridge = false → account = ata client.payer pool.quoteMint pool.quoteTokenProgram →
      RouterClient.sellPumpfun.v2 client amount pool opts s account = .ok built →
      SellPlan client.payer market opts amount needsBridge built.legs built.minOut built.outputAta
        ∧ Prepares client.payer market opts.ata s built.setup needsBridge := by
    intro account hasset hdirect haccount h
    obtain ⟨minOut, hmin, h⟩ := bind_eq_ok.mp h
    cases h
    rw [hdirect]
    refine ⟨.single ?_ fun _ => ?_, prepares_of_extends (.refl _)⟩
    · rw [hhop, hasset]
      exact .exactIn hfixed (pumpfunSellV2Leg_swaps _ _ _ _) (TradeOpts.minOutOr_eq_ok hmin)
    · rw [hside, hasset]
      exact haccount
  have hbridged : opts.sellTo.receiveMint = none →
      (pool.usesV2 && !pool.isNativeSolQuote) = true →
      RouterClient.sellPumpfun.bridged client amount market opts s = .ok built →
      SellPlan client.payer market opts amount needsBridge built.legs built.minOut built.outputAta
        ∧ Prepares client.payer market opts.ata s built.setup needsBridge := by
    intro hnone hv2 h
    rw [hnone] at hpath
    rw [Bool.and_eq_true] at hv2
    exact bridgedSell_plan hpath (hneeds.trans hv2.2) h
  unfold RouterClient.sellPumpfun at h
  cases hsell : opts.sellTo with
  | sol =>
    rw [hsell] at h hbridged
    dsimp only at h
    split at h
    · rename_i hnative
      obtain ⟨minOut, hmin, h⟩ := bind_eq_ok.mp h
      cases h
      have hreceive : market.receiveAsset opts.sellTo = none := by
        rw [hsell, RoutedMarket.receiveAsset, hmarket]
        exact if_pos hnative
      have hdirect : needsBridge = false := by
        rw [hsell] at hpath
        rw [hpath.sol rfl, hneeds, hnative]
        rfl
      rw [hdirect]
      refine ⟨.single ?_ fun hne => absurd hreceive hne, prepares_of_extends extends_prepare⟩
      rw [hhop, hreceive]
      subst hmeme
      exact .exactIn hfixed (pumpfunSellLeg_swaps _ _ _ _ _) (TradeOpts.minOutOr_eq_ok hmin)
    · split at h
      · rename_i hv2'
        exact hbridged rfl hv2' h
      · cases h
  | wsol =>
    rw [hsell] at h hbridged hv2
    dsimp only at h
    split at h
    · rename_i hwsol
      have hnative : pool.isNativeSolQuote = true := (Bool.and_eq_true_iff.mp hwsol).1
      have hdirect : needsBridge = false := by
        rw [hsell] at hpath
        rw [hpath.sol rfl, hneeds, hnative]
        rfl
      have hquote : pool.quoteMint = wsolMint := of_decide_eq_true hnative
      exact hv2 rfl hdirect (by rw [hquote, hprogram hnative hsell]) h
    · split at h
      · rename_i hv2'
        exact hbridged rfl hv2' h
      · cases h
  | token mint =>
    rw [hsell] at h hv2
    dsimp only at h
    split at h
    · obtain ⟨_, -, h⟩ := bind_eq_ok.mp h
      obtain ⟨_, hmint, h⟩ := bind_eq_ok.mp h
      have hquote : mint = pool.quoteMint := not_not.mp (failIf_eq_ok.mp hmint)
      exact hv2 rfl (hpath.token_eq mint (by rw [hsell]; rfl)).2 (by rw [hquote]) h
    · cases h

omit [Upstream] in
/-- A LaunchLab buy without a bridge. -/
theorem buyLaunchlab_plan {pool : LaunchLabPool} {memeAta quoteAta : Pubkey}
    {built : BuyLegs} {s' : TradeSetup}
    (hmarket : market.market = .launchLabInner pool) (hfixed : opts.fixedOutput = none)
    (hmeme : memeAta = ata client.payer pool.baseMint pool.baseTokenProgram)
    (hquote : quoteAta = ata client.payer pool.quoteMint pool.quoteTokenProgram)
    (hextends : s.Extends s')
    (h : client.buyLaunchlab amount pool opts memeAta quoteAta s' = .ok built) :
    BuyPlan client.payer market opts amount false built.legs built.minOut built.spent
      ∧ Prepares client.payer market opts.ata s built.setup false := by
  obtain ⟨q, hq, h⟩ := bind_eq_ok.mp h
  cases h
  subst hmeme hquote
  exact ⟨.curve hmarket hfixed hq (launchlabBuyLeg_exactInput _ _ _ _ _ _).swaps,
    prepares_of_extends hextends⟩

omit [Upstream] in
/-- A LaunchLab sale without a bridge. -/
theorem sellLaunchlab_plan {pool : LaunchLabPool} {memeAta quoteAta : Pubkey}
    {built : SellLegs} {s' : TradeSetup}
    (hmarket : market.market = .launchLabInner pool) (hfixed : opts.fixedOutput = none)
    (hmeme : memeAta = ata client.payer pool.baseMint pool.baseTokenProgram)
    (hquote : quoteAta = ata client.payer pool.quoteMint pool.quoteTokenProgram)
    (hextends : s.Extends s')
    (h : client.sellLaunchlab amount pool opts memeAta quoteAta s' = .ok built) :
    SellPlan client.payer market opts amount false built.legs built.minOut built.outputAta
      ∧ Prepares client.payer market opts.ata s built.setup false := by
  obtain ⟨minOut, hmin, h⟩ := bind_eq_ok.mp h
  cases h
  subst hmeme hquote
  refine ⟨.single ?_ fun _ => ?_, prepares_of_extends hextends⟩
  · rw [hmarket]
    exact .exactIn hfixed (launchlabSellLeg_swaps _ _ _ _ _ _)
      (TradeOpts.quotedMinOut_eq_ok hmin).1
  · rw [hmarket]
    rfl

/-! ## The legs -/

omit [Pda] [Upstream] in
/-- The other mint of the other mint is the mint. -/
theorem PoolPair.outputMint_outputMint (pair : PoolPair) {mint : Pubkey}
    (h : mint = pair.first ∨ mint = pair.second) :
    pair.outputMint (pair.outputMint mint) = mint := by
  unfold PoolPair.outputMint
  grind

omit [Upstream] in
/-- AMM V4's builder refuses any token program but the classic one. -/
theorem raydiumAmmV4Leg_program {tag : UInt8} {user : Pubkey} {pool : RaydiumAmmV4Pool}
    {a b : UInt64} {input : Pubkey} {leg : Leg}
    (h : raydiumAmmV4Leg tag user pool a b input = .ok leg) :
    pool.legTokenProgram = tokenProgram := by
  obtain ⟨_, -, h⟩ := bind_eq_ok.mp h
  obtain ⟨forward, -, h⟩ := bind_eq_ok.mp h
  obtain ⟨_, hclassic, -⟩ := bind_eq_ok.mp h
  exact not_not.mp (failIf_eq_ok.mp hclassic)

omit [Upstream] in
/-- So a buy that was built trades a classic pool. -/
theorem buyRaydiumV4WithMint_program {pool : RaydiumAmmV4Pool} {input : Pubkey}
    {legs : List Leg} {minOut : UInt64}
    (h : client.buyRaydiumV4WithMint amount pool input opts = .ok (legs, minOut)) :
    pool.legTokenProgram = tokenProgram := by
  unfold RouterClient.buyRaydiumV4WithMint at h
  split at h
  · obtain ⟨leg, hleg, -⟩ := bind_eq_ok.mp h
    exact raydiumAmmV4Leg_program hleg
  · obtain ⟨_, -, h⟩ := bind_eq_ok.mp h
    obtain ⟨leg, hleg, -⟩ := bind_eq_ok.mp h
    exact raydiumAmmV4Leg_program hleg

omit [Upstream] in
/-- And a sale there is one swap of the pool. -/
theorem sellRaydiumV4ToMint_single {pool : RaydiumAmmV4Pool} {output account : Pubkey}
    {legs : List Leg} {minOut : UInt64}
    (h : client.sellRaydiumV4ToMint amount pool output opts = .ok (legs, minOut, account)) :
    Single client.payer opts (pool.hop client.payer (pool.pair.outputMint output)) amount legs
        minOut
      ∧ account = ata client.payer output (pool.pair.inputProgram output) := by
  obtain ⟨input, hinput, h⟩ := bind_eq_ok.mp h
  obtain ⟨⟨legs, minimum⟩, hlegs, h⟩ := bind_eq_ok.mp h
  cases h
  have hother : input = pool.pair.outputMint output := by
    unfold RouterClient.raydiumV4Input at hinput
    unfold PoolPair.outputMint
    split at hinput
    · rename_i hcoin
      cases hinput
      exact (if_pos hcoin).symm
    · rename_i hcoin
      split at hinput
      · cases hinput
        exact (if_neg hcoin).symm
      · cases hinput
  subst hother
  refine ⟨buyRaydiumV4WithMint_single hlegs, ?_⟩
  rw [show pool.pair.inputProgram output = pool.legTokenProgram from ite_self _,
    buyRaydiumV4WithMint_program hlegs]

omit [Pda] [Upstream] in
/-- The mint and the program a sale resolves are those of the pool's pair. -/
theorem pairInputAndOutputProgram_eq_ok {pair : PoolPair} {output input program : Pubkey}
    {dex : String}
    (h : pairInputAndOutputProgram output pair.first pair.second pair.firstProgram
      pair.secondProgram dex = .ok (input, program)) :
    input = pair.outputMint output ∧ program = pair.inputProgram output := by
  unfold pairInputAndOutputProgram at h
  unfold PoolPair.outputMint PoolPair.inputProgram
  split at h
  · rename_i hfirst
    cases h
    exact ⟨(if_pos hfirst).symm, (if_pos hfirst).symm⟩
  · rename_i hfirst
    split at h
    · cases h
      exact ⟨(if_neg hfirst).symm, (if_neg hfirst).symm⟩
    · cases h

omit [Upstream] in
/-- A sale on a pool of two mints is the swap of the other mint. -/
theorem sellToMint_single (pair : PoolPair) (hop : Pubkey → Hop) {dex : String}
    {swap : Pubkey → Result (List Leg × UInt64)} {output account : Pubkey} {legs : List Leg}
    {minOut : UInt64}
    (hswap : ∀ {input legs minOut}, swap input = .ok (legs, minOut) →
      Single client.payer opts (hop input) amount legs minOut)
    (h : (do
      let (input, outputProgram) ← pairInputAndOutputProgram output pair.first pair.second
        pair.firstProgram pair.secondProgram dex
      let (legs, min) ← swap input
      pure (legs, min, ata client.payer output outputProgram)) = .ok (legs, minOut, account)) :
    Single client.payer opts (hop (pair.outputMint output)) amount legs minOut
      ∧ account = ata client.payer output (pair.inputProgram output) := by
  obtain ⟨⟨input, program⟩, hpair, h⟩ := bind_eq_ok.mp h
  obtain ⟨⟨legs, min⟩, hlegs, h⟩ := bind_eq_ok.mp h
  cases h
  obtain ⟨rfl, rfl⟩ := pairInputAndOutputProgram_eq_ok hpair
  exact ⟨hswap hlegs, rfl⟩

omit [Upstream] in
/-- **A buy on a LaunchLab curve.** -/
theorem buyLaunchlabMarket_plan {pool : LaunchLabPool} {memeAta : Pubkey} {built : BuyLegs}
    (hmarket : market.market = .launchLabInner pool)
    (hmeme : memeAta = ata client.payer pool.baseMint pool.baseTokenProgram)
    (hpath : PathChecked market opts.buyWith.payMint needsBridge true opts)
    (h : client.buyLaunchlabMarket amount pool market opts memeAta s = .ok built) :
    BuyPlan client.payer market opts amount needsBridge built.legs built.minOut built.spent
      ∧ Prepares client.payer market opts.ata s built.setup needsBridge := by
  have hfixed := hpath.fixed_none (.inr (by rw [hmarket]; rfl))
  have hneeds : market.market.needsSolBridge = !pool.isSolQuote := by
    rw [hmarket]
    rfl
  have hsol : opts.buyWith.payMint = none →
      (if pool.isSolQuote = true then
        client.buyLaunchlab amount pool opts memeAta
          (ata client.payer wsolMint pool.quoteTokenProgram) s
      else do
        let bridge ← okOr market.bridge "missing SOL↔stock bridge"
        client.buyViaBridgeLaunchlab amount pool bridge opts s) = .ok built →
      BuyPlan client.payer market opts amount needsBridge built.legs built.minOut built.spent
        ∧ Prepares client.payer market opts.ata s built.setup needsBridge := by
    intro hnone h
    rw [hnone] at hpath
    split at h
    · rename_i hquote
      have hmint : pool.quoteMint = wsolMint := of_decide_eq_true hquote
      rw [hpath.sol rfl, hneeds, hquote]
      exact buyLaunchlab_plan hmarket hfixed hmeme (by rw [hmint]) (.refl _) h
    · rename_i hquote
      have hbridged : needsBridge = true := by
        rw [hpath.sol rfl, hneeds]
        simpa using hquote
      obtain ⟨bridge, hbridge, hprogram, h⟩ := hpath.bridge_of_ok hbridged h
      rw [hbridged]
      exact buyViaBridgeLaunchlab_plan hmarket ((hpath.sol rfl).symm.trans hbridged) hbridge
        hprogram hfixed h
  unfold RouterClient.buyLaunchlabMarket at h
  cases hbuy : opts.buyWith with
  | token mint =>
    rw [hbuy] at h
    obtain ⟨_, hmint, h⟩ := bind_eq_ok.mp h
    rw [(hpath.token_eq mint (by rw [hbuy]; rfl)).2]
    exact buyLaunchlab_plan hmarket hfixed hmeme (by rw [not_not.mp (failIf_eq_ok.mp hmint)])
      TradeSetup.extends_useAta h
  | _ =>
    rw [hbuy] at h hsol
    exact hsol rfl h

omit [Upstream] in
/-- **A sale on a LaunchLab curve.** -/
theorem sellLaunchlabMarket_plan {pool : LaunchLabPool} {memeAta : Pubkey} {built : SellLegs}
    (hmarket : market.market = .launchLabInner pool)
    (hmeme : memeAta = ata client.payer pool.baseMint pool.baseTokenProgram)
    (hpath : PathChecked market opts.sellTo.receiveMint needsBridge false opts)
    (h : client.sellLaunchlabMarket amount pool market opts memeAta s = .ok built) :
    SellPlan client.payer market opts amount needsBridge built.legs built.minOut built.outputAta
      ∧ Prepares client.payer market opts.ata s built.setup needsBridge := by
  have hfixed := hpath.fixed_none (.inr (by rw [hmarket]; rfl))
  have hneeds : market.market.needsSolBridge = !pool.isSolQuote := by
    rw [hmarket]
    rfl
  have hsol : opts.sellTo.receiveMint = none →
      (if pool.isSolQuote = true then
        client.sellLaunchlab amount pool opts memeAta
          (ata client.payer wsolMint pool.quoteTokenProgram) s
      else do
        let bridge ← okOr market.bridge "missing SOL↔stock bridge"
        client.sellViaBridgeLaunchlab amount pool bridge opts s) = .ok built →
      SellPlan client.payer market opts amount needsBridge built.legs built.minOut built.outputAta
        ∧ Prepares client.payer market opts.ata s built.setup needsBridge := by
    intro hnone h
    rw [hnone] at hpath
    split at h
    · rename_i hquote
      have hmint : pool.quoteMint = wsolMint := of_decide_eq_true hquote
      rw [hpath.sol rfl, hneeds, hquote]
      exact sellLaunchlab_plan hmarket hfixed hmeme (by rw [hmint]) (.refl _) h
    · rename_i hquote
      have hbridged : needsBridge = true := by
        rw [hpath.sol rfl, hneeds]
        simpa using hquote
      obtain ⟨bridge, hbridge, hprogram, h⟩ := hpath.bridge_of_ok hbridged h
      rw [hbridged]
      exact sellViaBridgeLaunchlab_plan hmarket ((hpath.sol rfl).symm.trans hbridged) hbridge
        hprogram hfixed h
  unfold RouterClient.sellLaunchlabMarket at h
  cases hsell : opts.sellTo with
  | token mint =>
    rw [hsell] at h
    obtain ⟨_, hmint, h⟩ := bind_eq_ok.mp h
    rw [(hpath.token_eq mint (by rw [hsell]; rfl)).2]
    exact sellLaunchlab_plan hmarket hfixed hmeme
      (by rw [not_not.mp (failIf_eq_ok.mp hmint)]) TradeSetup.extends_useAta h
  | _ =>
    rw [hsell] at h hsol
    exact hsol rfl h

omit [Upstream] in
/-- A buy on a CPMM pool itself is planned. -/
theorem buyCpmmWithMint_plan {pool : CpmmPool} {input output : Pubkey} {built : BuyLegs}
    (hmarket : market.market = .cpmmOuter pool)
    (hasset : market.payAsset opts.buyWith = some input)
    (h : client.buyCpmmWithMint amount pool input output opts s = .ok built) :
    BuyPlan client.payer market opts amount false built.legs built.minOut built.spent
      ∧ Prepares client.payer market opts.ata s built.setup false := by
  obtain ⟨⟨legs, minOut, account⟩, hlegs, h⟩ := bind_eq_ok.mp h
  cases h
  obtain ⟨hsingle, -⟩ := swapCpmm_single hlegs
  refine ⟨.single ?_ ?_, prepares_of_extends ?_⟩
  · rw [hmarket]
    exact fun _ hp => by cases hp
  · rw [hmarket, hasset]
    exact hsingle
  · dsimp only
    split
    · exact TradeSetup.extends_pushCreateAta (s := s.touchWsol)
    · exact TradeSetup.extends_pushCreateAta (s := s.touchMeme _ _)

omit [Upstream] in
/-- And a sale on one is. -/
theorem sellCpmmToMint_plan {pool : CpmmPool} {input output : Pubkey} {built : SellLegs}
    (hmarket : market.market = .cpmmOuter pool)
    (hasset : market.receiveAsset opts.sellTo = some output)
    (h : client.sellCpmmToMint amount pool input output opts s = .ok built) :
    SellPlan client.payer market opts amount false built.legs built.minOut built.outputAta
      ∧ Prepares client.payer market opts.ata s built.setup false := by
  obtain ⟨⟨legs, minOut, account⟩, hlegs, h⟩ := bind_eq_ok.mp h
  cases h
  obtain ⟨hsingle, rfl, hinput, rfl⟩ := swapCpmm_single hlegs
  refine ⟨.single ?_ fun _ => ?_, prepares_of_extends TradeSetup.extends_useAta⟩
  · rw [hmarket, hasset]
    show Single _ _ (pool.hop _ (pool.pair.outputMint (pool.pair.outputMint input))) _ _ _
    rwa [pool.pair.outputMint_outputMint hinput]
  · rw [hmarket, hasset]
    rfl

omit [Upstream] in
/-- **A buy on a CPMM pool.** -/
theorem buyCpmmMarket_plan {pool : CpmmPool} {built : BuyLegs}
    (hmarket : market.market = .cpmmOuter pool)
    (hpath : PathChecked market opts.buyWith.payMint needsBridge true opts)
    (h : client.buyCpmmMarket amount pool market opts s = .ok built) :
    BuyPlan client.payer market opts amount needsBridge built.legs built.minOut built.spent
      ∧ Prepares client.payer market opts.ata s built.setup needsBridge := by
  have hsol : opts.buyWith.payMint = none → market.payAsset opts.buyWith = some wsolMint →
      (if (!market.market.needsSolBridge) = true then
        client.buyCpmmWithMint amount pool wsolMint pool.memeMint opts s
      else do
        let bridge ← okOr market.bridge "missing SOL↔stock bridge"
        client.buyViaBridgeCpmm amount pool bridge opts s) = .ok built →
      BuyPlan client.payer market opts amount needsBridge built.legs built.minOut built.spent
        ∧ Prepares client.payer market opts.ata s built.setup needsBridge := by
    intro hnone hasset h
    rw [hnone] at hpath
    split at h
    · rename_i hdirect
      rw [Bool.not_eq_true', ← hpath.sol rfl] at hdirect
      rw [hdirect]
      exact buyCpmmWithMint_plan hmarket hasset h
    · rename_i hneeds
      have hbridged : needsBridge = true := by
        rw [hpath.sol rfl]
        simpa using hneeds
      obtain ⟨bridge, hbridge, hprogram, h⟩ := hpath.bridge_of_ok hbridged h
      rw [hbridged]
      exact buyViaBridgeCpmm_plan hmarket ((hpath.sol rfl).symm.trans hbridged) hbridge
        hprogram (hpath.fixed_none (.inl hbridged)) h
  unfold RouterClient.buyCpmmMarket at h
  cases hbuy : opts.buyWith with
  | token mint =>
    rw [hbuy] at h
    rw [(hpath.token_eq mint (by rw [hbuy]; rfl)).2]
    exact buyCpmmWithMint_plan hmarket (by rw [hbuy]; rfl) h
  | sol =>
    rw [hbuy] at h hsol
    exact hsol rfl (by rw [RoutedMarket.payAsset, hmarket]; rfl) h
  | wsol =>
    rw [hbuy] at h hsol
    exact hsol rfl rfl h

omit [Upstream] in
/-- **A sale on a CPMM pool.** -/
theorem sellCpmmMarket_plan {pool : CpmmPool} {built : SellLegs}
    (hmarket : market.market = .cpmmOuter pool)
    (hpath : PathChecked market opts.sellTo.receiveMint needsBridge false opts)
    (h : client.sellCpmmMarket amount pool market opts s = .ok built) :
    SellPlan client.payer market opts amount needsBridge built.legs built.minOut built.outputAta
      ∧ Prepares client.payer market opts.ata s built.setup needsBridge := by
  have hsol : opts.sellTo.receiveMint = none → market.receiveAsset opts.sellTo = some wsolMint →
      (if (!market.market.needsSolBridge) = true then
        client.sellCpmmToMint amount pool pool.memeMint wsolMint opts s
      else do
        let bridge ← okOr market.bridge "missing SOL↔stock bridge"
        client.sellViaBridgeCpmm amount pool bridge opts s) = .ok built →
      SellPlan client.payer market opts amount needsBridge built.legs built.minOut built.outputAta
        ∧ Prepares client.payer market opts.ata s built.setup needsBridge := by
    intro hnone hasset h
    rw [hnone] at hpath
    split at h
    · rename_i hdirect
      rw [Bool.not_eq_true', ← hpath.sol rfl] at hdirect
      rw [hdirect]
      exact sellCpmmToMint_plan hmarket hasset h
    · rename_i hneeds
      have hbridged : needsBridge = true := by
        rw [hpath.sol rfl]
        simpa using hneeds
      obtain ⟨bridge, hbridge, hprogram, h⟩ := hpath.bridge_of_ok hbridged h
      rw [hbridged]
      exact sellViaBridgeCpmm_plan hmarket ((hpath.sol rfl).symm.trans hbridged) hbridge
        hprogram (hpath.fixed_none (.inl hbridged)) h
  unfold RouterClient.sellCpmmMarket at h
  cases hsell : opts.sellTo with
  | token mint =>
    rw [hsell] at h
    rw [(hpath.token_eq mint (by rw [hsell]; rfl)).2]
    exact sellCpmmToMint_plan hmarket (by rw [hsell]; rfl) h
  | sol =>
    rw [hsell] at h hsol
    exact hsol rfl (by rw [RoutedMarket.receiveAsset, hmarket]; rfl) h
  | wsol =>
    rw [hsell] at h hsol
    exact hsol rfl rfl h

omit [Upstream] in
/-- The account a market names for its coin is that of its base mint, but on a
CPMM pool, whose coin may be either side. -/
theorem RoutedMarket.memeAta_eq (market : RoutedMarket) {user : Pubkey}
    (h : ∀ pool, market.market ≠ .cpmmOuter pool) :
    ata user market.memeMint market.memeTokenProgram
      = ata user market.market.baseMint market.market.baseTokenProgram := by
  rw [(RoutedMarket.meme_eq h).1, (RoutedMarket.meme_eq h).2]

/-- **The legs of a buy follow a plan.** -/
theorem buildBuyLegs_plan {built : BuyLegs}
    (hpath : PathChecked market opts.buyWith.payMint needsBridge true opts)
    (h : client.buildBuyLegs amount market opts s = .ok built) :
    BuyPlan client.payer market opts amount needsBridge built.legs built.minOut built.spent
      ∧ Prepares client.payer market opts.ata s built.setup needsBridge := by
  have hmeme := @market.memeAta_eq _ client.payer
  unfold RouterClient.buildBuyLegs at h
  dsimp only at h
  split at h <;> rename_i pool hmarket <;> rw [hmarket] at hmeme
  case h_1 =>
    exact buyPumpfun_plan hmarket (hmeme fun _ hp => by cases hp) hpath h
  case h_2 =>
    exact buyLaunchlabMarket_plan hmarket (hmeme fun _ hp => by cases hp) hpath h
  case h_3 =>
    exact buyCpmmMarket_plan hmarket hpath h
  case h_4 =>
    refine buyPair_plan hpath (by rw [hmarket]; rfl) (by rw [hmarket]; simp)
      (fun hswap => ?_) h
    rw [hmarket]
    exact buyPumpswapWithQuote_single hswap
  case h_5 =>
    refine buyPair_plan hpath (by rw [hmarket]; rfl) (by rw [hmarket]; simp)
      (fun hswap => ?_) h
    rw [hmarket]
    exact buyRaydiumV4WithMint_single hswap
  case h_6 =>
    refine buyPair_plan hpath (by rw [hmarket]; rfl) (by rw [hmarket]; simp)
      (fun hswap => ?_) h
    rw [hmarket]
    exact buyMeteoraV2WithMint_single hswap
  case h_7 =>
    have hfixed := hpath.fixed_none (.inr (by rw [hmarket]; rfl))
    refine buyPair_plan hpath (by rw [hmarket]; rfl) (by rw [hmarket]; simp)
      (fun hswap => ?_) h
    rw [hmarket]
    exact buyRaydiumClmmWithMint_single hfixed hswap
  case h_8 =>
    have hfixed := hpath.fixed_none (.inr (by rw [hmarket]; rfl))
    refine buyPair_plan hpath (by rw [hmarket]; rfl) (by rw [hmarket]; simp)
      (fun hswap => ?_) h
    rw [hmarket]
    exact buyWhirlpoolWithMint_single hfixed hswap
  case h_9 =>
    have hfixed := hpath.fixed_none (.inr (by rw [hmarket]; rfl))
    refine buyPair_plan hpath (by rw [hmarket]; rfl) (by rw [hmarket]; simp)
      (fun hswap => ?_) h
    rw [hmarket]
    exact buyMeteoraDlmmWithMint_single hfixed hswap

/-- **The legs of a sale follow a plan.** -/
theorem buildSellLegs_plan {built : SellLegs}
    (hprogram : ∀ pool, market.market = .pumpFunInner pool → pool.isNativeSolQuote = true →
      opts.sellTo = .wsol → pool.quoteTokenProgram = tokenProgram)
    (hpath : PathChecked market opts.sellTo.receiveMint needsBridge false opts)
    (h : client.buildSellLegs amount market opts s = .ok built) :
    SellPlan client.payer market opts amount needsBridge built.legs built.minOut built.outputAta
      ∧ Prepares client.payer market opts.ata s built.setup needsBridge := by
  have hmeme := @market.memeAta_eq _ client.payer
  unfold RouterClient.buildSellLegs at h
  dsimp only at h
  split at h <;> rename_i pool hmarket <;> rw [hmarket] at hmeme
  case h_1 =>
    exact sellPumpfun_plan hmarket (hmeme fun _ hp => by cases hp) (hprogram pool hmarket)
      hpath h
  case h_2 =>
    exact sellLaunchlabMarket_plan hmarket (hmeme fun _ hp => by cases hp) hpath h
  case h_3 =>
    exact sellCpmmMarket_plan hmarket hpath h
  case h_4 =>
    have hfixed := hpath.fixed_none (.inr (by rw [hmarket]; rfl))
    refine sellPair_plan hpath (by rw [hmarket]; rfl) (fun hswap => ?_) h
    rw [hmarket]
    exact sellPumpswapToQuote_single hfixed hswap
  case h_5 =>
    refine sellPair_plan hpath (by rw [hmarket]; rfl) (fun hswap => ?_) h
    rw [hmarket]
    exact sellRaydiumV4ToMint_single hswap
  case h_6 =>
    refine sellPair_plan hpath (by rw [hmarket]; rfl) (fun hswap => ?_) h
    rw [hmarket]
    exact sellToMint_single pool.pair (pool.hop client.payer)
      buyMeteoraV2WithMint_single hswap
  case h_7 =>
    have hfixed := hpath.fixed_none (.inr (by rw [hmarket]; rfl))
    refine sellPair_plan hpath (by rw [hmarket]; rfl) (fun hswap => ?_) h
    rw [hmarket]
    exact sellToMint_single pool.pair (pool.hop client.payer)
      (buyRaydiumClmmWithMint_single hfixed) hswap
  case h_8 =>
    have hfixed := hpath.fixed_none (.inr (by rw [hmarket]; rfl))
    refine sellPair_plan hpath (by rw [hmarket]; rfl) (fun hswap => ?_) h
    rw [hmarket]
    exact sellToMint_single pool.pair (pool.hop client.payer)
      (buyWhirlpoolWithMint_single hfixed) hswap
  case h_9 =>
    have hfixed := hpath.fixed_none (.inr (by rw [hmarket]; rfl))
    refine sellPair_plan hpath (by rw [hmarket]; rfl) (fun hswap => ?_) h
    rw [hmarket]
    exact sellToMint_single pool.pair (pool.hop client.payer)
      (buyMeteoraDlmmWithMint_single hfixed) hswap

end Built

end Sdk
