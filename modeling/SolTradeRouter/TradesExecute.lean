import SolTradeRouter.BuiltLegs
import SolTradeRouter.HonestTrades
import SolTradeRouter.TokenRuntime

/-!
# Built trades on chain

The two halves of the repository together: what the SDK builds, the program
carries out. A trade that is clear, on a market whose programs agree, fits the
wire format, settles, and pays the account its header names. In a runtime
whose calls do what they encode, the program makes the calls of its legs and
returns; it stops only if one of these calls fails.
-/

namespace Execution

open Outcome Bytes Transfers Program Sdk WireFormat DynamicAccepted Rounding

/-! ## What the last leg asks for -/

/-- **The last leg asks for a minimum.** -/
def LastAsks (user : Pubkey) (legs : List Leg) (minOut : UInt64) : Prop :=
  ∃ leg t, legs.getLast? = some leg ∧ leg.Plans user t ∧ t.least = minOut.toNat

section Plans

variable [Pda] {user : Pubkey} {market : RoutedMarket} {opts : TradeOpts} {legs : List Leg}
  {minOut : UInt64} {needsBridge : Bool}

omit [Pda] in
theorem single_asks {hop : Sdk.Hop} {amount : UInt64}
    (h : Single user opts hop amount legs minOut) : LastAsks user legs minOut := by
  cases h with
  | exactIn _ hleg _ => exact ⟨_, _, rfl, hleg.plans, rfl⟩
  | fixedOut _ _ hleg => exact ⟨_, _, rfl, ⟨_, _, _, _, _, hleg, rfl⟩, rfl⟩

theorem buyPlan_asks {spend spent : UInt64}
    (h : BuyPlan user market opts spend needsBridge legs minOut spent) :
    LastAsks user legs minOut := by
  cases h with
  | single _ hlegs => exact single_asks hlegs
  | curve _ _ _ hleg => exact ⟨_, _, rfl, hleg.plans, rfl⟩
  | bridged _ _ _ _ _ hsecond => exact ⟨_, _, rfl, hsecond.plans, rfl⟩
  | bridgedCurve _ _ _ _ _ _ hsecond => exact ⟨_, _, rfl, hsecond.plans, rfl⟩

theorem sellPlan_asks {account : Pubkey} {sellAmt : UInt64}
    (h : SellPlan user market opts sellAmt needsBridge legs minOut account) :
    LastAsks user legs minOut := by
  cases h with
  | single hlegs _ => exact single_asks hlegs
  | bridged _ _ _ _ hsecond => exact ⟨_, _, rfl, hsecond.plans, rfl⟩

end Plans

section Paying

variable {header : BuiltHeader} {legs : List Leg} {ts : List (Transfer Purse)}
  {source paid taken target : Purse} {sent : ℕ} {needsBridge : Bool}

/-- **A plan pays the purse it ends in**, if it takes nothing from there. -/
theorem pays_of_plan (h : Plan source paid taken target sent needsBridge ts)
    (hplans : List.Forall₂ (Leg.Plans · header.accounts.payer ·) legs ts)
    (hlast : LastAsks header.accounts.payer legs header.minAmountOut)
    (hpaid : paidInto header = target) (hsource : target ≠ source)
    (htaken : needsBridge = true → target ≠ taken) : Pays header ts := by
  obtain ⟨leg, t, hleg, hasks, hleast⟩ := hlast
  rw [Pays, hpaid]
  cases h with
  | direct =>
    cases hplans with
    | cons hfirst hrest =>
      cases hrest
      cases hleg
      obtain rfl := hfirst.unique hasks
      refine ⟨fun u hu => ?_, _, List.mem_cons_self, rfl, hleast.ge⟩
      rw [List.mem_singleton.mp hu]
      exact hsource
  | bridged =>
    cases hplans with
    | cons _ hrest =>
      cases hrest with
      | cons hsecond hrest =>
        cases hrest
        cases hleg
        obtain rfl := hsecond.unique hasks
        refine ⟨fun u hu => ?_, _, List.mem_cons_of_mem _ List.mem_cons_self, rfl, hleast.ge⟩
        rcases List.mem_cons.mp hu with rfl | hu
        · exact hsource
        · rw [List.mem_singleton.mp hu]
          exact htaken rfl

/-- The legs of a plan are one or two. -/
theorem plan_length {user : Pubkey} (h : Plan source paid taken target sent needsBridge ts)
    (hplans : List.Forall₂ (Leg.Plans · user ·) legs ts) :
    1 ≤ legs.length ∧ legs.length ≤ 4 := by
  rw [hplans.length_eq]
  cases h <;> simp

end Paying

/-! ## Built trades -/

/-- **A plan that settles and pays is carried out.** -/
theorem executes_of_plan [Pda] {programId : Pubkey} {feeBps : UInt16} {header : BuiltHeader}
    {legs : List Leg} {ts : List (Transfer Purse)} {source paid taken target : Purse} {sent : ℕ}
    {needsBridge : Bool} (hbps : feeBps.toNat ≤ 1000) (hamount : header.amountIn ≠ 0)
    (hasset : header.feeAsset = feeAssetSol ∨ header.feeAsset = feeAssetToken)
    (hfits : AllFit header.accounts.payer legs)
    (hplan : Plan source paid taken target sent needsBridge ts)
    (hplans : List.Forall₂ (Leg.Plans · header.accounts.payer ·) legs ts)
    (hsettles : Settles feeBps header legs) (hpays : Pays header ts) :
    Executes (Leg.Plans · header.accounts.payer ·) programId feeBps header legs := by
  obtain ⟨hpos, hle⟩ := plan_length hplan hplans
  have hbps := Nat.le_trans hbps (by decide : 1000 ≤ 10000)
  have hfee : checkedFee header.amountIn feeBps = .ok (feeAmount header.amountIn feeBps) :=
    checkedFee_feeAmount hbps
  exact executes_of_settlesAs hbps hpos hle (fun leg hleg => (hfits leg hleg).sized) hasset
    hamount hplans (settlesAs_of_settles hsettles hfee hplans) hpays

section Trades

variable [Pda]

/-- **What a buy needs besides being clear**: its market's programs agree, it
brings tokens, and behind a bridge its market trades two accounts. -/
structure BuySound (client : RouterClient) (market : RoutedMarket) (opts : TradeOpts) :
    Prop where
  programs : market.market.ProgramsAgree
  brings : market.memeMint ≠ systemProgram
  middle : market.needsBridge opts.buyWith.payMint = true →
    market.memePurse client.payer ≠ market.quotePurse client.payer

/-- **What a sale needs besides being clear**: its market's programs agree,
what it brings is not the mint that stands for lamports, and behind a bridge
its market's quote is not kept with the payer's WSOL. -/
structure SellSound (client : RouterClient) (market : RoutedMarket) (opts : TradeOpts) :
    Prop where
  programs : market.market.ProgramsAgree
  brings : market.receiveAsset opts.sellTo ≠ some systemProgram
  middle : market.needsBridge opts.sellTo.receiveMint = true →
    wsolPurse client.payer ≠ market.quotePurse client.payer

variable [Upstream] {client : RouterClient} {market : RoutedMarket} {opts : TradeOpts}
  {amountIn : UInt64} {trade : BuiltTrade} {needsBridge : Bool} {legs : List Leg}
  {s : TradeSetup} {minOut : UInt64}

/-- **The hop that buys the meme** moves between the market's purses. -/
theorem bought_purses {spend spent routeAmountIn : UInt64}
    (hb : client.Bought amountIn market opts trade needsBridge spend spent routeAmountIn minOut
      legs s) (h : market.market.ProgramsAgree) :
    (market.lastBuyHop client.payer opts.buyWith).outputPurse = market.memePurse client.payer
      ∧ (needsBridge = true → (market.lastBuyHop client.payer opts.buyWith).inputPurse
        = market.quotePurse client.payer) := by
  have hsides := market.sides_agree h client.payer
  have hasset := RoutedMarket.payAsset_eq hb.path
  have htokens := market.market.hop_tokens client.payer market.quoteMint
  have hquoted : (market.market.buyHop client.payer (some market.quoteMint)).outputPurse
        = market.memePurse client.payer
      ∧ (market.market.buyHop client.payer (some market.quoteMint)).inputPurse
        = market.quotePurse client.payer := by
    unfold Hop.outputPurse Hop.inputPurse
    rw [hsides.buyOutput, hsides.buyInput, (htokens _).2.1, (htokens none).1]
    exact ⟨rfl, rfl⟩
  rw [RoutedMarket.lastBuyHop, ← hb.path.needsBridge_eq]
  cases needsBridge with
  | true => exact ⟨hquoted.1, fun _ => hquoted.2⟩
  | false =>
    refine ⟨?_, fun hneeds => by cases hneeds⟩
    change (market.market.buyHop _ (market.payAsset opts.buyWith)).outputPurse = _
    rcases hasset with hasset | hasset
    · rw [hasset]
      exact hquoted.1
    · have hnative := (RoutedMarket.payAsset_eq_none.mp hasset).2
      unfold Hop.outputPurse
      rw [hasset, (market.native_sides hnative client.payer).2.1, (htokens none).2.1]
      rfl

omit [Upstream] in
/-- The fee of a buy is charged in lamports or in tokens. -/
theorem buyHeader_feeAsset (routeAmountIn : UInt64) :
    (client.buyHeader market opts routeAmountIn minOut).feeAsset = feeAssetSol
      ∨ (client.buyHeader market opts routeAmountIn minOut).feeAsset = feeAssetToken := by
  unfold RouterClient.buyHeader RouterClient.buyFee
  cases opts.buyWith with
  | token mint => exact .inr rfl
  | wsol => exact .inr rfl
  | sol =>
    dsimp only
    split
    · exact .inl rfl
    · exact .inr rfl

/-- **A buy is carried out** where it is clear and sound, if its route charges
anything. -/
theorem bought_executes {spend spent routeAmountIn : UInt64}
    (hb : client.Bought amountIn market opts trade needsBridge spend spent routeAmountIn minOut
      legs s)
    (hclassic : market.payAsset opts.buyWith ≠ none → needsBridge = false →
      WsolClassic market.market.listed)
    (hfits : AllFit client.payer legs) (hclear : client.BuyClear amountIn market opts)
    (hsound : BuySound client market opts) (hne : routeAmountIn ≠ 0) :
    Executes (Leg.Plans · client.payer ·) client.programId client.feeBps
      (client.buyHeader market opts routeAmountIn minOut) legs := by
  obtain ⟨ts, hplans, hplan⟩ := hb.plan.plan
  obtain ⟨hpaid, hmiddle⟩ := bought_purses hb hsound.programs
  have hlast : market.lastBuyHop client.payer opts.buyWith = market.market.buyHop client.payer
      (if needsBridge then some market.quoteMint else market.payAsset opts.buyWith) := by
    rw [RoutedMarket.lastBuyHop, ← hb.path.needsBridge_eq]
  have htakes := hb.takes hclassic (.inr (.inr hsound.programs.tokenProgramSet))
  rw [← hlast] at hplan htakes
  rw [htakes] at hplan
  have houtput : paidInto (client.buyHeader market opts routeAmountIn minOut)
      = (market.lastBuyHop client.payer opts.buyWith).outputPurse := by
    rw [hpaid, paidInto]
    exact congrArg (Purse.mk · _) (decide_eq_false hsound.brings)
  have hpays := pays_of_plan hplan hplans (buyPlan_asks hb.plan) houtput hclear.target
    fun hneeds => by
      rw [hpaid, hmiddle hneeds]
      exact hsound.middle (by rw [← hb.path.needsBridge_eq]; exact hneeds)
  exact executes_of_plan hb.feeBps hne (buyHeader_feeAsset routeAmountIn) hfits hplan hplans
    (hb.settles hclassic hclear) hpays

omit [Upstream] in
/-- **The purse a sale pays into** is that of its header. -/
theorem sold_paid {sellAmt : UInt64} {account : Pubkey}
    (hs : client.Sold amountIn market opts trade needsBridge sellAmt minOut account legs s)
    (h : market.market.ProgramsAgree)
    (hbrings : market.receiveAsset opts.sellTo ≠ some systemProgram) :
    paidInto (client.sellHeader market opts amountIn minOut account)
      = market.soldPurse client.payer opts.sellTo := by
  have hsides := market.sides_agree h client.payer
  have hasset := RoutedMarket.receiveAsset_eq hs.path
  have haccount := hs.plan.account_eq
  -- What a sale brings is tokens of an asset, or lamports.
  have htoken : ∀ mint, market.receiveAsset opts.sellTo = some mint →
      paidInto (client.sellHeader market opts amountIn minOut account) = ⟨false, account⟩ := by
    intro mint hmint
    have hne : mint ≠ systemProgram := fun heq => hbrings (by rw [hmint, heq])
    unfold paidInto RouterClient.sellHeader
    rw [sellOutput_token hmint, decide_eq_false hne]
  rw [RoutedMarket.soldPurse, RoutedMarket.firstSellHop, ← hs.path.needsBridge_eq]
  cases needsBridge with
  | true =>
    change market.receiveAsset opts.sellTo = some wsolMint at hasset
    rw [htoken _ hasset, haccount (by rw [hasset]; exact Option.some_ne_none _)]
    rfl
  | false =>
    change _ = (market.market.sellHop _ (market.receiveAsset opts.sellTo)).outputPurse
    rcases hasset with hasset | hasset
    · rw [htoken _ hasset, haccount (by rw [hasset]; exact Option.some_ne_none _), hasset]
      unfold Hop.outputPurse
      rw [hsides.sellOutput, (market.market.hop_tokens client.payer market.quoteMint none).2.2.2]
      exact congrArg (Purse.mk false) hsides.receive
    · have hnative := (RoutedMarket.receiveAsset_eq_none.mp hasset).2
      rw [hasset, (Market.native_purses hnative client.payer).2]
      unfold paidInto RouterClient.sellHeader
      rw [sellOutput_native client hasset account]
      rfl

omit [Upstream] in
/-- **A sale is carried out** where it is clear and sound. -/
theorem sold_executes {sellAmt : UInt64} {account : Pubkey}
    (hs : client.Sold amountIn market opts trade needsBridge sellAmt minOut account legs s)
    (hfits : AllFit client.payer legs) (hclear : client.SellClear amountIn market opts)
    (hsound : SellSound client market opts) :
    Executes (Leg.Plans · client.payer ·) client.programId client.feeBps
      (client.sellHeader market opts amountIn minOut account) legs := by
  obtain ⟨ts, hplans, hplan⟩ := hs.plan.plan
  have hfirst : market.firstSellHop client.payer opts.sellTo
      = market.market.sellHop client.payer
        (if needsBridge then some market.quoteMint else market.receiveAsset opts.sellTo) := by
    rw [RoutedMarket.firstSellHop, ← hs.path.needsBridge_eq]
  have htarget : (if needsBridge then wsolPurse client.payer
      else (market.firstSellHop client.payer opts.sellTo).outputPurse)
      = market.soldPurse client.payer opts.sellTo := by
    rw [RoutedMarket.soldPurse, ← hs.path.needsBridge_eq]
  rw [← hfirst, hs.takes hsound.programs.tokenProgramSet, htarget] at hplan
  have hpays := pays_of_plan hplan hplans (sellPlan_asks hs.plan)
    (sold_paid hs hsound.programs hsound.brings) hclear.target fun hneeds => by
      rw [hs.path.needsBridge_eq] at hneeds
      rw [RoutedMarket.soldPurse, if_pos hneeds]
      exact hsound.middle hneeds
  exact executes_of_plan hs.feeBps hs.amountIn_ne (.inr rfl) hfits hplan hplans
    (hs.settles hclear) hpays

end Trades

/-- What the fee of a trade leaves of its amount. -/
def spendable (client : RouterClient) (amountIn : UInt64) : UInt64 :=
  U64.satSub amountIn (feeAmount amountIn client.feeBps)

/-- **Built trades are carried out on chain.** The instruction of a trade has
the legs its builder returned. If the trade is clear and sound, the program,
run on a ledger that is ready and in any runtime whose calls do what they
encode, takes the fee, makes the calls of the legs in their order, spends what
the header allows and brings its minimum; it stops only if one of these calls
fails. A buy must charge something: one that a full curve leaves nothing to buy
does not. -/
theorem trades_execute [Pda] [Upstream] (client : RouterClient) (amountIn : UInt64)
    (market : RoutedMarket) (opts : TradeOpts) (trade : BuiltTrade) :
    (client.buyWithOpts amountIn market opts = .ok trade →
      ∃ built routeAmountIn,
        client.buildBuyLegs (spendable client amountIn) market opts
          (client.buySetup market opts) = .ok built
        ∧ routeAmountInFor amountIn (spendable client amountIn) built.spent client.feeBps
          = .ok routeAmountIn
        ∧ trade.route = some ((client.buyHeader market opts routeAmountIn built.minOut).route
          client.programId built.legs)
        ∧ (client.BuyClear amountIn market opts → BuySound client market opts →
          routeAmountIn ≠ 0 → Executes (Leg.Plans · client.payer ·) client.programId
            client.feeBps (client.buyHeader market opts routeAmountIn built.minOut) built.legs))
    ∧ (client.sellWithOpts amountIn market opts = .ok trade →
      ∃ built, client.buildSellLegs (spendable client amountIn) market opts
          (client.sellSetup market opts (feeAmount amountIn client.feeBps)) = .ok built
        ∧ trade.route = some ((client.sellHeader market opts amountIn built.minOut
          built.outputAta).route client.programId built.legs)
        ∧ (client.SellClear amountIn market opts → SellSound client market opts →
          Executes (Leg.Plans · client.payer ·) client.programId client.feeBps
            (client.sellHeader market opts amountIn built.minOut built.outputAta)
            built.legs)) := by
  refine ⟨fun h => ?_, fun h => ?_⟩
  · obtain ⟨needsBridge, spend, routeAmountIn, built, hbuilt, hb⟩ :=
      RouterClient.buyWithOpts_built h
    obtain rfl : spend = spendable client amountIn := eq_satSub_fee hb.feeBps hb.spend_eq
    exact ⟨built, routeAmountIn, hbuilt, hb.amount, hb.route, bought_executes hb (hb.classic h)
      (RouterClient.buildBuyLegs_fits _ hbuilt)⟩
  · obtain ⟨needsBridge, sellAmt, built, hbuilt, hs⟩ := RouterClient.sellWithOpts_built h
    obtain rfl : sellAmt = spendable client amountIn := eq_satSub_fee hs.feeBps hs.spend_eq
    exact ⟨built, hbuilt, hs.route, sold_executes hs
      (RouterClient.buildSellLegs_fits _ hbuilt)⟩

/-! ## A buy on fixed accounts -/

/-- Derived addresses that depend on every seed, but for the configuration's. -/
@[reducible] def chainPda : Pda where
  find seeds programId := if seeds = [Sdk.configSeed] then (sampleKey 30, 255)
    else mixedSeedsPda.find seeds programId
  tryFind seeds programId := mixedSeedsPda.tryFind seeds programId
  create seeds _ := if seeds = [Sdk.configSeed, [255]] then some (sampleKey 30) else none

/-- An AMM V4 market of WSOL. -/
def sampleMarket : RoutedMarket := ⟨.raydiumAmmV4 sampleBridge, none⟩

/-- The header of the sample buy, whose fee is a hundredth of 1000. -/
def sampleHeader [Pda] : BuiltHeader :=
  sampleClient.buyHeader sampleMarket sampleOpts 1000 3557

/-- The leg of the sample buy. -/
def sampleLeg [Pda] : Leg where
  programId := raydiumAmmV4Program
  accounts := [.newReadonly tokenProgram false, .new (sampleKey 20) false,
    raydiumAmmV4AuthorityMeta, .new (sampleKey 21) false, .new (sampleKey 22) false,
    .new (ata (sampleKey 1) wsolMint tokenProgram) false,
    .new (ata (sampleKey 1) (sampleKey 11) tokenProgram) false,
    .newReadonly (sampleKey 1) true]
  data := [raydiumAmmV4SwapBaseInV2] ++ ofUInt64 990 ++ ofUInt64 3557

/-- What it encodes. -/
def sampleTransfer [Pda] : Transfer Purse :=
  ⟨⟨false, ata (sampleKey 1) wsolMint tokenProgram⟩, 990,
    ⟨false, ata (sampleKey 1) (sampleKey 11) tokenProgram⟩, 3557⟩

/-- The instruction of the sample buy. -/
def sampleRoute [Pda] : Instruction := sampleHeader.route sampleClient.programId [sampleLeg]

/-- The configuration of the samples. -/
def sampleConfig : RouterConfig := .fresh (sampleKey 4) (sampleKey 3) 100 255

/-- The payer's WSOL, and the accounts the buy pays into. -/
def sampleBalances [Pda] : Ledger := fun address =>
  if address = sampleKey 30 then
    ⟨0, sampleKey 2, sampleConfig.store []⟩
  else if address = ata (sampleKey 1) wsolMint tokenProgram then
    ⟨0, tokenProgramId, tokenData wsolMint (sampleKey 1) 5000⟩
  else if address = ata (sampleKey 3) wsolMint tokenProgram then
    ⟨0, tokenProgramId, tokenData wsolMint (sampleKey 3) 0⟩
  else ⟨0, tokenProgramId, tokenData (sampleKey 11) (sampleKey 1) 0⟩

theorem sampleLeg_plans [Pda] : sampleLeg.Plans (sampleKey 1) sampleTransfer := by
  have hleg : raydiumAmmV4SwapLeg (sampleKey 1) sampleBridge 990 3557 wsolMint = .ok sampleLeg :=
    rfl
  exact ⟨_, _, _, _, _, (raydiumAmmV4SwapLeg_exactInput hleg).swaps, rfl⟩

theorem sampleLeg_speaks [Pda] (metas : List AccountMeta) :
    Speaks (soleSwap metas sampleLeg sampleTransfer) (Leg.Plans · (sampleKey 1) ·) metas
      [sampleLeg] :=
  soleSwap_speaks (fun _ h => h.unique sampleLeg_plans) sampleLeg_plans.lt.1
    sampleLeg_plans.lt.2 rfl rfl (show some raydiumAmmV4SwapBaseInV2 ≠ some 3
      ∧ some raydiumAmmV4SwapBaseInV2 ≠ some 12 by decide)

/-- The runtime of the sample buy. -/
def sampleRuntime [Pda] : Runtime :=
  tokenRuntime (soleSwap sampleRoute.accounts sampleLeg sampleTransfer)

theorem sample_config {l : Ledger} (metas : List AccountMeta)
    (hl : l (sampleKey 30) = ⟨0, sampleKey 2, sampleConfig.store []⟩) :
    letI := chainPda
    checkConfig l (sampleKey 2) (mergedView metas (.newReadonly (Sdk.configPda (sampleKey 2)).1
      false)) = .ok sampleConfig := by
  let := chainPda
  have hdata : (mergedView metas (.newReadonly (sampleKey 30) false)).data l
      = sampleConfig.store [] := congrArg Account.data hl
  have hread : RouterConfig.read l (mergedView metas (.newReadonly (sampleKey 30) false))
      = .ok sampleConfig :=
    RouterConfig.read_eq_ok.mpr ⟨by rw [hdata]; exact RouterConfig.decode_store _ [], by decide⟩
  have howner : (mergedView metas (.newReadonly (sampleKey 30) false)).owner l = sampleKey 2 :=
    congrArg Account.owner hl
  exact bind_eq_ok.mpr ⟨(), failIf_eq_ok.mpr (not_not.mpr howner), bind_eq_ok.mpr
    ⟨_, hread, bind_eq_ok.mpr ⟨sampleKey 30, rfl, bind_eq_ok.mpr ⟨(),
      failIf_eq_ok.mpr (not_not.mpr rfl), bind_eq_ok.mpr ⟨(),
        failIf_eq_ok.mpr (not_not.mpr rfl), rfl⟩⟩⟩⟩⟩

theorem sample_ready :
    letI := chainPda
    Ready sampleBalances (sampleKey 2) sampleRoute.accounts sampleHeader 10 sampleConfig := by
  let := chainPda
  obtain ⟨hsource, hdestination, houtput⟩ :
      TokenAccount sampleBalances sampleHeader.accounts.feeSource wsolMint (sampleKey 1)
        ∧ TokenAccount sampleBalances sampleHeader.accounts.feeDestination wsolMint (sampleKey 3)
        ∧ TokenAccount sampleBalances sampleHeader.accounts.outputTokenAccount (sampleKey 11)
          (sampleKey 1) := by
    refine ⟨?_, ?_, ?_⟩ <;>
      exact ⟨by decide +kernel, by decide +kernel, by decide +kernel, by decide +kernel⟩
  exact ready_of_tokens (sample_config _ rfl) (by decide +kernel) (by decide +kernel) hsource
    ⟨by decide, by decide +kernel, by decide +kernel, _, hsource, hdestination,
      fun h => absurd h (by decide +kernel)⟩ houtput

theorem sample_clear :
    letI := chainPda
    sampleClient.BuyClear 1000 sampleMarket sampleOpts
      ∧ BuySound sampleClient sampleMarket sampleOpts := by
  let := chainPda
  exact ⟨⟨.inr (by decide +kernel), .inr (.inl rfl), by decide +kernel, by decide +kernel⟩,
    by decide, by decide, fun hneeds => absurd hneeds (by decide)⟩

/-- What the builders return for the sample. -/
theorem sample_built :
    letI := chainPda
    letI := sampleUpstream
    (sampleClient.buildBuyLegs (spendable sampleClient 1000) sampleMarket sampleOpts
        (sampleClient.buySetup sampleMarket sampleOpts)).toOption.map
        (fun b => (b.legs, b.minOut, b.spent)) = some ([sampleLeg], 3557, 990)
      ∧ routeAmountInFor 1000 (spendable sampleClient 1000) 990 sampleClient.feeBps = .ok 1000
      ∧ feeAmount 1000 sampleClient.feeBps = 10 := by
  let := chainPda
  let := sampleUpstream
  exact ⟨by decide +kernel, rfl, by decide +kernel⟩

/-- **A built buy runs to its end**: the program takes 10 of 1000, swaps 990, and
finds the minimum in the payer's account. -/
theorem sampleAmmV4_executes :
    letI := chainPda
    letI := sampleUpstream
    ∃ (trade : BuiltTrade) (charged m' : Machine),
      sampleClient.buyWithOpts 1000 sampleMarket sampleOpts = .ok trade
      ∧ trade.route = some sampleRoute
      ∧ processInner sampleRuntime (sampleKey 2)
        (sampleRoute.accounts.map (mergedView sampleRoute.accounts)) sampleRoute.data.tail 0
        ⟨sampleBalances, []⟩ = .ok () m'
      ∧ Executed sampleRoute.accounts sampleHeader [sampleLeg] 10 ⟨sampleBalances, []⟩ charged
        m' := by
  let := chainPda
  let := sampleUpstream
  obtain ⟨trade, htrade⟩ : ∃ trade, sampleClient.buyWithOpts 1000 sampleMarket sampleOpts
      = .ok trade := exists_ok_of_toBool (by decide +kernel)
  obtain ⟨built, routeAmountIn, hbuilt, hamount, hroute, hexecutes⟩ :=
    (trades_execute sampleClient 1000 sampleMarket sampleOpts trade).1 htrade
  obtain ⟨hparts, hexact, hfee⟩ := sample_built
  rw [hbuilt] at hparts
  obtain ⟨hlegs, hmin, hspent⟩ : built.legs = [sampleLeg] ∧ built.minOut = 3557
      ∧ built.spent = 990 := by simpa [Except.toOption] using hparts
  rw [hspent, hexact, Except.ok.injEq] at hamount
  rw [hlegs, hmin, ← hamount] at hroute hexecutes
  have hexec : Executes (Leg.Plans · (sampleKey 1) ·) (sampleKey 2) sampleClient.feeBps
      sampleHeader [sampleLeg] := hexecutes sample_clear.1 sample_clear.2 (by decide)
  obtain ⟨⟨⟩, m', hm'⟩ := returned_iff.mp (show returned (processInner sampleRuntime
    (sampleKey 2) (sampleRoute.accounts.map (mergedView sampleRoute.accounts))
    sampleRoute.data.tail 0 ⟨sampleBalances, []⟩) = true by decide +kernel)
  obtain ⟨charged, hexecuted⟩ := hexec.of_returned rfl hfee
    (tokenRuntime_honest (sampleLeg_speaks _) rfl rfl) sample_ready hm'
  exact ⟨trade, charged, m', htrade, hroute, hm', hexecuted⟩

end Execution
