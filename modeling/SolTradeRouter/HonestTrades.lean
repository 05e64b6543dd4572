import SolTradeRouter.TradeMinimums
import SolTradeRouter.TradePurses

/-!
# Trades under honest execution

A built trade charges its fee to one purse of the payer and announces what
will have left it. Whether that is so after an honest run is settled before
the trade is built: by who receives the fee, by the token program of the
market's snapshot, and by whether the market trades the very asset the trade
pays with.
-/

namespace Sdk

open Outcome Transfers Rounding

section Purses

variable [Pda]

/-! ## Buys -/

/-- The purse of an owner that a buy pays from, or pays its fee into. -/
def RoutedMarket.payPurse (market : RoutedMarket) (buyWith : BuyWith) (owner : Pubkey) : Purse :=
  match market.payAsset buyWith with
  | none => ⟨true, owner⟩
  | some mint => ⟨false, ata owner mint (if mint = wsolMint then tokenProgram
      else market.quoteTokenProgram)⟩

/-- The fee of a buy goes from the payer's purse to the recipient's. -/
theorem buyHeader_purses (client : RouterClient) (market : RoutedMarket) (opts : TradeOpts)
    (amountIn minOut : UInt64) :
    (client.buyHeader market opts amountIn minOut).source
        = market.payPurse opts.buyWith client.payer
      ∧ (client.buyHeader market opts amountIn minOut).destination
        = market.payPurse opts.buyWith client.feeRecipient := by
  unfold BuiltHeader.source BuiltHeader.destination RouterClient.buyHeader RoutedMarket.payPurse
    RoutedMarket.payAsset RouterClient.buyFee
  cases opts.buyWith with
  | token mint => exact ⟨rfl, rfl⟩
  | wsol => exact ⟨rfl, rfl⟩
  | sol => cases market.market.isPumpNativeSol <;> exact ⟨rfl, rfl⟩

/-- **What the legs of a buy spend** of what they are given: less than all of
it only on a curve. -/
def RoutedMarket.spends (market : RoutedMarket) (needsBridge : Bool) (spend : UInt64) :
    Result UInt64 :=
  match market.market with
  | .launchLabInner pool =>
    if needsBridge then do
      let bridge ← okOr market.bridge "missing SOL/WSOL bridge"
      let provisional ← bridgeQuoteOut bridge spend wsolMint
      let q ← launchlabBuyQuote pool provisional 0
      let (spent, _) ← RouterClient.shrinkToCurve spend pool bridge provisional q
      pure spent
    else do
      let q ← launchlabBuyQuote pool spend 0
      pure q.amountIn
  | _ => .ok spend

theorem BuyPlan.spends {user : Pubkey} {market : RoutedMarket} {opts : TradeOpts}
    {spend minOut spent : UInt64} {needsBridge : Bool} {legs : List Leg}
    (h : BuyPlan user market opts spend needsBridge legs minOut spent) :
    market.spends needsBridge spend = .ok spent := by
  have hother : (∀ pool, market.market ≠ .launchLabInner pool) → ∀ b : Bool,
      market.spends b spend = .ok spend := by
    intro hmarket b
    unfold RoutedMarket.spends
    split
    · rename_i pool hpool
      exact absurd hpool (hmarket pool)
    · rfl
  cases h with
  | single hmarket _ => exact hother hmarket false
  | curve hmarket _ hquote _ =>
    unfold RoutedMarket.spends
    rw [hmarket]
    exact bind_eq_ok.mpr ⟨_, hquote, rfl⟩
  | bridged hmarket => exact hother hmarket true
  | bridgedCurve hmarket hpath _ hspend _ _ _ =>
    unfold RoutedMarket.spends
    rw [hmarket, hpath.bridge_eq]
    refine bind_eq_ok.mpr ⟨_, rfl, ?_⟩
    cases hspend with
    | whole hbridge hquote htakes =>
      exact bind_eq_ok.mpr ⟨_, hbridge, bind_eq_ok.mpr ⟨_, hquote, bind_eq_ok.mpr
        ⟨_, if_neg htakes, rfl⟩⟩⟩
    | clamped hbridge hquote hclamped hinverse hstock hagain =>
      exact bind_eq_ok.mpr ⟨_, hbridge, bind_eq_ok.mpr ⟨_, hquote, bind_eq_ok.mpr
        ⟨_, (if_pos hclamped).trans (bind_eq_ok.mpr ⟨_, hinverse, bind_eq_ok.mpr
          ⟨_, hstock, bind_eq_ok.mpr ⟨_, hagain, rfl⟩⟩⟩), rfl⟩⟩⟩

omit [Pda] in
theorem RoutedMarket.spends_of_unset {market : RoutedMarket}
    (h : ¬ market.market.TokenProgramSet) (needsBridge : Bool) (spend : UInt64) :
    market.spends needsBridge spend = .ok spend := by
  obtain ⟨m, bridge⟩ := market
  cases m with
  | raydiumAmmV4 pool => rfl
  | _ => exact absurd trivial h

/-- The fee that falls due on a buy. -/
def RouterClient.buyFeeDue (client : RouterClient) (amountIn : UInt64) (market : RoutedMarket)
    (opts : TradeOpts) : UInt64 :=
  let spend := U64.satSub amountIn (feeAmount amountIn client.feeBps)
  match (do
    let spent ← market.spends (market.needsBridge opts.buyWith.payMint) spend
    routeAmountInFor amountIn spend spent client.feeBps) with
  | .ok routeAmountIn => feeAmount routeAmountIn client.feeBps
  | .error _ => 0

/-- **When a buy settles.** No fee falls due, or the recipient's purse is not
the payer's own; the token program of an AMM V4 snapshot is set, unless the
buy pays with WSOL or has a fixed output; and no leg reaches the purse the
buy pays from, but the first one, which takes from it. -/
structure RouterClient.BuyClear (client : RouterClient) (amountIn : UInt64)
    (market : RoutedMarket) (opts : TradeOpts) : Prop where
  fee : client.buyFeeDue amountIn market opts = 0
    ∨ market.payPurse opts.buyWith client.feeRecipient
      ≠ market.payPurse opts.buyWith client.payer
  program : opts.fixedOutput.isSome = true ∨ opts.buyWith.payMint = none
    ∨ opts.buyWith.payMint = some wsolMint ∨ market.market.TokenProgramSet
  target : (market.lastBuyHop client.payer opts.buyWith).outputPurse
    ≠ market.payPurse opts.buyWith client.payer
  middle : market.needsBridge opts.buyWith.payMint = true →
    market.quotePurse client.payer ≠ market.payPurse opts.buyWith client.payer
      ∧ (market.lastBuyHop client.payer opts.buyWith).inputPurse
        ≠ market.payPurse opts.buyWith client.payer

theorem RoutedMarket.payPurse_some {market : RoutedMarket} {buyWith : BuyWith} {mint : Pubkey}
    (h : market.payAsset buyWith = some mint) (owner : Pubkey) :
    market.payPurse buyWith owner = ⟨false, ata owner mint (if mint = wsolMint then tokenProgram
      else market.quoteTokenProgram)⟩ := by
  rw [RoutedMarket.payPurse, h]

theorem RoutedMarket.payPurse_none {market : RoutedMarket} {buyWith : BuyWith}
    (h : market.payAsset buyWith = none) (owner : Pubkey) :
    market.payPurse buyWith owner = ⟨true, owner⟩ := by
  rw [RoutedMarket.payPurse, h]

omit [Pda] in
/-- What a fee of at most a tenth takes is at most what it leaves. -/
theorem fee_le_spent {amount spent : UInt64} {feeBps : UInt16} (hbps : feeBps.toNat ≤ 1000)
    (h : netFloor feeBps.toNat 10000 amount.toNat = spent.toNat) :
    amount.toNat = (feeAmount amount feeBps).toNat + spent.toNat
      ∧ (feeAmount amount feeBps).toNat ≤ spent.toNat := by
  have hsum := net_add_fee hbps h
  have hfee : (feeAmount amount feeBps).toNat = amount.toNat * feeBps.toNat / 10000 :=
    feeAmount_toNat (by omega)
  have hdiv := Nat.div_mul_le_self (amount.toNat * feeBps.toNat) 10000
  have hmul := Nat.mul_le_mul_left amount.toNat hbps
  rw [← hfee] at hdiv
  omega

section Trades

variable [Upstream] {client : RouterClient} {market : RoutedMarket} {opts : TradeOpts}
  {amountIn : UInt64} {trade : BuiltTrade} {needsBridge : Bool} {legs : List Leg}
  {s : TradeSetup} {spend spent routeAmountIn minOut : UInt64}

/-- The fee of a buy's route is the one that falls due. -/
theorem RouterClient.Bought.feeDue
    (hb : client.Bought amountIn market opts trade needsBridge spend spent routeAmountIn minOut
      legs s) :
    client.buyFeeDue amountIn market opts = feeAmount routeAmountIn client.feeBps := by
  unfold RouterClient.buyFeeDue
  dsimp only
  rw [← eq_satSub_fee hb.feeBps hb.spend_eq, ← hb.path.needsBridge_eq, hb.plan.spends, ok_bind,
    hb.amount]

/-- **A buy takes its input from the purse its fee comes from**, unless it
pays with a token other than WSOL on a market whose token program is unset. -/
theorem RouterClient.Bought.takes
    (hb : client.Bought amountIn market opts trade needsBridge spend spent routeAmountIn minOut
      legs s)
    (hclassic : market.payAsset opts.buyWith ≠ none → needsBridge = false →
      WsolClassic market.market.listed)
    (h : opts.buyWith.payMint = none ∨ opts.buyWith.payMint = some wsolMint
      ∨ market.market.TokenProgramSet) :
    (if needsBridge then wsolPurse client.payer
      else (market.market.buyHop client.payer (if needsBridge then some market.quoteMint
        else market.payAsset opts.buyWith)).inputPurse)
      = market.payPurse opts.buyWith client.payer := by
  have hasset := RoutedMarket.payAsset_eq hb.path
  cases needsBridge with
  | true =>
    change market.payAsset opts.buyWith = some wsolMint at hasset
    rw [market.payPurse_some hasset, if_pos rfl]
    rfl
  | false =>
    change (market.market.buyHop _ (market.payAsset opts.buyWith)).inputPurse = _
    rcases hasset with hasset | hasset
    · have hset : market.market.TokenProgramSet ∨ market.quoteMint = wsolMint := by
        rcases h with hnone | hwsol | hset
        · exact .inr (market.quoteMint_of_direct (hb.path.sol hnone).symm)
        · exact .inr (hb.path.token_eq _ hwsol).1.symm
        · exact .inl hset
      rw [market.payPurse_some hasset, hasset]
      exact market.direct_input hset (hclassic (by rw [hasset]; exact Option.some_ne_none _) rfl)
        client.payer
    · rw [market.payPurse_none hasset, hasset]
      exact (Market.native_purses (RoutedMarket.payAsset_eq_none.mp hasset).2 client.payer).1

/-- **A buy settles where it is clear.** -/
theorem RouterClient.Bought.settles
    (hb : client.Bought amountIn market opts trade needsBridge spend spent routeAmountIn minOut
      legs s)
    (hclassic : market.payAsset opts.buyWith ≠ none → needsBridge = false →
      WsolClassic market.market.listed)
    (h : client.BuyClear amountIn market opts) :
    Settles client.feeBps (client.buyHeader market opts routeAmountIn minOut) legs := by
  obtain ⟨ts, hplans, hplan⟩ := hb.plan.plan
  obtain ⟨hsource, hdestination⟩ := buyHeader_purses client market opts routeAmountIn minOut
  obtain ⟨hnet, -⟩ := routeAmountInFor_eq_ok hb.feeBps hb.spend_eq hb.plan.first.1 hb.amount
  have htakes := hb.takes hclassic
  have hfee := hb.feeDue
  obtain rfl := hb.path.needsBridge_eq
  refine hplan.settles hplans (checkedFee_feeAmount (Nat.le_trans hb.feeBps (by decide)))
    (fee_le_spent hb.feeBps hnet).1 ?_
  change Clear _ (feeAmount routeAmountIn client.feeBps).toNat _ _ _ _ _
  rw [← hfee]
  refine ⟨?_, ?_, ?_, ?_⟩
  · rw [hsource, hdestination]
    exact h.fee.imp_left fun hzero => by rw [hzero]; rfl
  · rw [hsource]
    exact h.program.imp_right htakes
  · rw [hsource]
    exact h.target
  · rw [hsource]
    exact h.middle

/-- **A buy that takes its input from elsewhere** pays with the market's quote,
directly, and the market's token program is unset. -/
theorem RouterClient.Bought.elsewhere
    (hb : client.Bought amountIn market opts trade needsBridge spend spent routeAmountIn minOut
      legs s)
    (hapart : market.market.Apart client.payer)
    (h : ¬ (opts.buyWith.payMint = none ∨ opts.buyWith.payMint = some wsolMint
      ∨ market.market.TokenProgramSet)) :
    needsBridge = false ∧ spent ≠ 0 ∧ market.Unset client.payer
      ∧ market.payAsset opts.buyWith = some market.quoteMint
      ∧ market.payPurse opts.buyWith client.payer
        = ⟨false, ata client.payer market.quoteMint Pubkey.default⟩ := by
  obtain ⟨hsome, h⟩ := not_or.mp h
  obtain ⟨hwsol, hset⟩ := not_or.mp h
  obtain ⟨mint, hmint⟩ := Option.ne_none_iff_exists'.mp hsome
  obtain ⟨rfl, hdirect⟩ := hb.path.token_eq mint hmint
  have hunset := market.unset_of hset hapart
  have hspent : spent ≠ 0 := by
    have hspends := hb.plan.spends
    rw [market.spends_of_unset hset] at hspends
    cases hspends
    exact hb.spend_ne
  have hpay : market.payAsset opts.buyWith = some market.quoteMint := by
    cases hbuy : opts.buyWith with
    | token m =>
      rw [hbuy] at hmint
      exact hmint
    | _ =>
      rw [hbuy] at hmint
      cases hmint
  refine ⟨hdirect, hspent, hunset, hpay, ?_⟩
  rw [market.payPurse_some hpay, if_neg fun hq => hwsol (by rw [hmint, hq]), hunset.quoteProgram]

/-- **A buy that settles is clear.** -/
theorem RouterClient.Bought.clear
    (hb : client.Bought amountIn market opts trade needsBridge spend spent routeAmountIn minOut
      legs s)
    (hclassic : market.payAsset opts.buyWith ≠ none → needsBridge = false →
      WsolClassic market.market.listed)
    (hapart : market.market.Apart client.payer)
    (h : Settles client.feeBps (client.buyHeader market opts routeAmountIn minOut) legs) :
    client.BuyClear amountIn market opts := by
  obtain ⟨ts, hplans, hplan⟩ := hb.plan.plan
  obtain ⟨hsource, hdestination⟩ := buyHeader_purses client market opts routeAmountIn minOut
  obtain ⟨hnet, -⟩ := routeAmountInFor_eq_ok hb.feeBps hb.spend_eq hb.plan.first.1 hb.amount
  obtain ⟨hamount, hsmall⟩ := fee_le_spent hb.feeBps hnet
  have hexact : needsBridge = true →
      (client.buyHeader market opts routeAmountIn minOut).exactOut = false := by
    intro hneeds
    show opts.fixedOutput.isSome = false
    rw [hb.path.fixed_none (.inl hneeds)]
    rfl
  have hlast : market.lastBuyHop client.payer opts.buyWith = market.market.buyHop client.payer
      (if needsBridge then some market.quoteMint else market.payAsset opts.buyWith) := by
    rw [RoutedMarket.lastBuyHop, ← hb.path.needsBridge_eq]
  rw [← hlast] at hplan
  have htakes := hb.takes hclassic
  rw [← hlast] at htakes
  -- A first leg that misses the fee's source is a swap under an unset program.
  have hmisses : (if needsBridge then wsolPurse client.payer
        else (market.lastBuyHop client.payer opts.buyWith).inputPurse)
        ≠ (client.buyHeader market opts routeAmountIn minOut).source →
      0 < spent.toNat
        ∧ (market.lastBuyHop client.payer opts.buyWith).outputPurse
          ≠ (client.buyHeader market opts routeAmountIn minOut).source
        ∧ (needsBridge = true → market.quotePurse client.payer
            ≠ (client.buyHeader market opts routeAmountIn minOut).source
          ∧ (market.lastBuyHop client.payer opts.buyWith).inputPurse
            ≠ (client.buyHeader market opts routeAmountIn minOut).source) := by
    rw [hsource]
    intro hne
    obtain ⟨hdirect, hspent, hunset, hpay, hpurse⟩ :=
      hb.elsewhere hapart fun hset => hne (htakes hset)
    have hpos : 0 < spent.toNat := U64.pos_iff.mp hspent
    refine ⟨hpos, ?_, fun hneeds => absurd hneeds (by rw [hdirect]; decide)⟩
    rw [hlast, hdirect, if_neg Bool.false_ne_true, hpay, hunset.bought, hpurse]
    exact fun heq => (hunset.apart.ne (by simp) (by simp)).1 (congrArg Purse.account heq)
  have hmeets : needsBridge = true →
      market.quotePurse client.payer = (market.lastBuyHop client.payer opts.buyWith).inputPurse
        ∨ market.quotePurse client.payer
            ≠ (client.buyHeader market opts routeAmountIn minOut).source
          ∧ (market.lastBuyHop client.payer opts.buyWith).inputPurse
            ≠ (client.buyHeader market opts routeAmountIn minOut).source := by
    intro hneeds
    have hbridge : market.market.needsSolBridge = true := by
      cases hpay : opts.buyWith.payMint with
      | none => rw [← hb.path.sol hpay, hneeds]
      | some mint => exact absurd ((hb.path.token_eq mint hpay).2) (by rw [hneeds]; decide)
    have hasset : market.payAsset opts.buyWith = some wsolMint := by
      have hpaid := RoutedMarket.payAsset_eq hb.path
      rwa [hneeds] at hpaid
    rw [hlast, hsource, market.payPurse_some hasset, if_pos rfl, hneeds, if_pos rfl]
    exact market.buy_meets hbridge hapart
  have hclear : Clear (client.buyHeader market opts routeAmountIn minOut)
      (feeAmount routeAmountIn client.feeBps).toNat _ _ _ _ needsBridge :=
    hplan.clear hplans (checkedFee_feeAmount (Nat.le_trans hb.feeBps (by decide))) hamount hsmall
      hexact hmisses hmeets h
  obtain ⟨hleaves, htaken, htarget, hmiddle⟩ := hclear
  rw [hsource] at hleaves htaken htarget hmiddle
  rw [hdestination, ← hb.feeDue] at hleaves
  refine ⟨hleaves.imp_left UInt64.toNat_inj.mp, ?_, htarget, ?_⟩
  · refine htaken.imp_right fun htaken => not_not.mp fun hnot => ?_
    obtain ⟨hdirect, -, hunset, hpay, hpurse⟩ := hb.elsewhere hapart hnot
    rw [hlast, hdirect, if_neg Bool.false_ne_true, if_neg Bool.false_ne_true, hpay, hunset.buy,
      hpurse] at htaken
    exact (hunset.apart.ne (by simp) (by simp)).1 (congrArg Purse.account htaken)
  · rw [← hb.path.needsBridge_eq]
    exact hmiddle

end Trades

/-! ## Sales -/

/-- The hop that takes the meme of a sale. -/
def RoutedMarket.firstSellHop (market : RoutedMarket) (user : Pubkey) (sellTo : SellTo) : Hop :=
  market.market.sellHop user (if market.needsBridge sellTo.receiveMint then some market.quoteMint
    else market.receiveAsset sellTo)

/-- The purse a sale pays into in the end. -/
def RoutedMarket.soldPurse (market : RoutedMarket) (user : Pubkey) (sellTo : SellTo) : Purse :=
  if market.needsBridge sellTo.receiveMint then wsolPurse user
  else (market.firstSellHop user sellTo).outputPurse

/-- **When a sale settles.** No fee falls due, or the recipient's purse is not
the payer's own; the token program of an AMM V4 snapshot is set, unless the
sale has a fixed output; and no leg reaches the payer's tokens of the meme, but
the first one, which takes from them. -/
structure RouterClient.SellClear (client : RouterClient) (amountIn : UInt64)
    (market : RoutedMarket) (opts : TradeOpts) : Prop where
  fee : feeAmount amountIn client.feeBps = 0
    ∨ market.memePurse client.feeRecipient ≠ market.memePurse client.payer
  program : opts.fixedOutput.isSome = true ∨ market.market.TokenProgramSet
  target : market.soldPurse client.payer opts.sellTo ≠ market.memePurse client.payer
  middle : market.needsBridge opts.sellTo.receiveMint = true →
    (market.firstSellHop client.payer opts.sellTo).outputPurse ≠ market.memePurse client.payer
      ∧ market.quotePurse client.payer ≠ market.memePurse client.payer

section Trades

variable [Upstream] {client : RouterClient} {market : RoutedMarket} {opts : TradeOpts}
  {amountIn : UInt64} {trade : BuiltTrade} {needsBridge : Bool} {legs : List Leg}
  {s : TradeSetup} {sellAmt minOut : UInt64} {account : Pubkey}

omit [Upstream] in
/-- **A sale takes its input from the payer's tokens of the meme**, if the
token program is set. -/
theorem RouterClient.Sold.takes
    (hs : client.Sold amountIn market opts trade needsBridge sellAmt minOut account legs s)
    (h : market.market.TokenProgramSet) :
    (market.firstSellHop client.payer opts.sellTo).inputPurse
      = market.memePurse client.payer := by
  have hasset := RoutedMarket.receiveAsset_eq hs.path
  rw [RoutedMarket.firstSellHop, ← hs.path.needsBridge_eq]
  cases needsBridge with
  | true => exact (market.input_purses h client.payer).2
  | false =>
    rw [if_neg Bool.false_ne_true]
    rcases hasset with hasset | hasset
    · rw [hasset]
      exact (market.input_purses h client.payer).2
    · have hnative := (RoutedMarket.receiveAsset_eq_none.mp hasset).2
      rw [hasset, Hop.inputPurse, (market.native_sides hnative client.payer).2.2.1,
        (market.market.hop_tokens client.payer market.quoteMint none).2.2.1]
      rfl

omit [Upstream] in
/-- **A sale settles where it is clear.** -/
theorem RouterClient.Sold.settles
    (hs : client.Sold amountIn market opts trade needsBridge sellAmt minOut account legs s)
    (h : client.SellClear amountIn market opts) :
    Settles client.feeBps (client.sellHeader market opts amountIn minOut account) legs := by
  obtain ⟨ts, hplans, hplan⟩ := hs.plan.plan
  have htakes := hs.takes
  obtain rfl := hs.path.needsBridge_eq
  refine hplan.settles hplans (checkedFee_feeAmount (Nat.le_trans hs.feeBps (by decide)))
    (fee_le_spent hs.feeBps hs.spend_eq.symm).1 ⟨?_, ?_, h.target, h.middle⟩
  · exact h.fee.imp_left fun hzero => by
      show (feeAmount amountIn client.feeBps).toNat = 0
      rw [hzero]
      rfl
  · exact h.program.imp_right htakes

omit [Upstream] in
/-- **A sale that takes its input from elsewhere** is one on a market whose
token program is unset, and stays clear of the payer's tokens of the meme. -/
theorem RouterClient.Sold.elsewhere
    (hs : client.Sold amountIn market opts trade needsBridge sellAmt minOut account legs s)
    (hapart : market.market.Apart client.payer) (h : ¬ market.market.TokenProgramSet) :
    (market.firstSellHop client.payer opts.sellTo).inputPurse ≠ market.memePurse client.payer
      ∧ market.soldPurse client.payer opts.sellTo ≠ market.memePurse client.payer
      ∧ (market.firstSellHop client.payer opts.sellTo).outputPurse
        ≠ market.memePurse client.payer
      ∧ market.quotePurse client.payer ≠ market.memePurse client.payer := by
  have hunset := market.unset_of h hapart
  obtain ⟨hclear, hquote⟩ := hunset.meme_apart
  have hhop : market.firstSellHop client.payer opts.sellTo
      = market.market.sellHop client.payer (some market.quoteMint) := by
    have hasset := RoutedMarket.receiveAsset_eq hs.path
    rw [RoutedMarket.firstSellHop, ← hs.path.needsBridge_eq]
    cases needsBridge with
    | true => rfl
    | false =>
      rw [if_neg Bool.false_ne_true]
      rcases hasset with hasset | hasset
      · rw [hasset]
      · have hnative := (RoutedMarket.receiveAsset_eq_none.mp hasset).2
        exact absurd (Market.programsAgree_of_native hnative).tokenProgramSet h
  have houtput : (market.firstSellHop client.payer opts.sellTo).outputPurse
      ≠ market.memePurse client.payer := by
    rw [hhop, hunset.sold]
    exact hclear _ (by simp)
  refine ⟨?_, ?_, houtput, hquote⟩
  · rw [hhop, hunset.sell]
    exact hclear _ (by simp)
  · unfold RoutedMarket.soldPurse
    split
    · exact hclear _ (by simp)
    · exact houtput

omit [Upstream] in
/-- **A sale that settles is clear.** -/
theorem RouterClient.Sold.clear
    (hs : client.Sold amountIn market opts trade needsBridge sellAmt minOut account legs s)
    (hapart : market.market.Apart client.payer)
    (h : Settles client.feeBps (client.sellHeader market opts amountIn minOut account) legs) :
    client.SellClear amountIn market opts := by
  obtain ⟨ts, hplans, hplan⟩ := hs.plan.plan
  obtain ⟨hamount, hsmall⟩ := fee_le_spent hs.feeBps hs.spend_eq.symm
  have htakes := hs.takes
  have helsewhere := hs.elsewhere hapart
  have hpos : 0 < sellAmt.toNat := U64.pos_iff.mp hs.spend_ne
  have hexact : needsBridge = true →
      (client.sellHeader market opts amountIn minOut account).exactOut = false := by
    intro hneeds
    show opts.fixedOutput.isSome = false
    rw [hs.path.fixed_none (.inl hneeds)]
    rfl
  obtain rfl := hs.path.needsBridge_eq
  have hmeets : market.needsBridge opts.sellTo.receiveMint = true →
      (market.firstSellHop client.payer opts.sellTo).outputPurse
          = market.quotePurse client.payer
        ∨ (market.firstSellHop client.payer opts.sellTo).outputPurse
            ≠ market.memePurse client.payer
          ∧ market.quotePurse client.payer ≠ market.memePurse client.payer := by
    intro hneeds
    rw [RoutedMarket.firstSellHop, hneeds, if_pos rfl]
    exact market.sell_meets hapart
  have hclear : Clear (client.sellHeader market opts amountIn minOut account)
      (feeAmount amountIn client.feeBps).toNat _ _ _ _ _ :=
    hplan.clear hplans (checkedFee_feeAmount (Nat.le_trans hs.feeBps (by decide))) hamount hsmall
      hexact
      (fun hne => by
        obtain ⟨-, htarget, houtput, hquote⟩ := helsewhere fun hset => hne (htakes hset)
        exact ⟨hpos, htarget, fun _ => ⟨houtput, hquote⟩⟩)
      hmeets h
  obtain ⟨hleaves, htaken, htarget, hmiddle⟩ := hclear
  refine ⟨hleaves.imp_left UInt64.toNat_inj.mp, ?_, htarget, hmiddle⟩
  exact htaken.imp_right fun htaken => not_not.mp fun hset => (helsewhere hset).1 htaken

end Trades

end Purses

/-- **A trade settles under honest execution exactly where it is clear**: if no
fee falls due, or its recipient's purse is not the payer's own; if the first
leg takes from the purse the fee comes from; and if no other leg reaches that
purse. The other direction is for markets that keep the accounts apart. -/
theorem settles_iff [Pda] [Upstream] (client : RouterClient) (amountIn : UInt64)
    (market : RoutedMarket) (opts : TradeOpts) (trade : BuiltTrade) :
    (client.buyWithOpts amountIn market opts = .ok trade →
      ∃ (header : BuiltHeader) (legs : List Leg),
        trade.route = some (header.route client.programId legs)
        ∧ (∃ ts, List.Forall₂ (Leg.Plans · header.accounts.payer ·) legs ts)
        ∧ (client.BuyClear amountIn market opts → Settles client.feeBps header legs)
        ∧ (market.market.Apart client.payer → Settles client.feeBps header legs →
          client.BuyClear amountIn market opts))
    ∧ (client.sellWithOpts amountIn market opts = .ok trade →
      ∃ (header : BuiltHeader) (legs : List Leg),
        trade.route = some (header.route client.programId legs)
        ∧ (∃ ts, List.Forall₂ (Leg.Plans · header.accounts.payer ·) legs ts)
        ∧ (client.SellClear amountIn market opts → Settles client.feeBps header legs)
        ∧ (market.market.Apart client.payer → Settles client.feeBps header legs →
          client.SellClear amountIn market opts)) := by
  refine ⟨fun h => ?_, fun h => ?_⟩
  · obtain ⟨needsBridge, spend, spent, routeAmountIn, minOut, legs, s, hb⟩ :=
      RouterClient.buyWithOpts_eq_ok h
    have hclassic := hb.classic h
    obtain ⟨ts, hplans, -⟩ := hb.plan.plan
    exact ⟨_, _, hb.route, ⟨ts, hplans⟩, hb.settles hclassic, hb.clear hclassic⟩
  · obtain ⟨needsBridge, sellAmt, minOut, account, legs, s, hs⟩ :=
      RouterClient.sellWithOpts_eq_ok h
    obtain ⟨ts, hplans, -⟩ := hs.plan.plan
    exact ⟨_, _, hs.route, ⟨ts, hplans⟩, hs.settles, hs.clear⟩

/-! ## Runs on fixed accounts -/

/-- A client that receives its own fees. -/
def ownClient : RouterClient := { sampleClient with feeRecipient := sampleClient.payer }

theorem ownClient_not_clear [Pda] :
    ¬ ownClient.BuyClear 1000 ⟨.raydiumAmmV4 sampleBridge, none⟩ sampleOpts := by
  rintro ⟨hfee, -⟩
  rcases hfee with hzero | hne
  · exact absurd hzero (by decide +kernel)
  · exact hne rfl

/-- A buy settles if its fee goes to another one, and not if it goes to the
payer. -/
theorem sampleAmmV4_settles :
    letI := mixedSeedsPda
    letI := sampleUpstream
    (∃ (trade : BuiltTrade) (header : BuiltHeader) (legs : List Leg),
      trade.route = some (header.route sampleClient.programId legs)
        ∧ Settles sampleClient.feeBps header legs)
    ∧ ∃ (trade : BuiltTrade) (header : BuiltHeader) (legs : List Leg),
      trade.route = some (header.route ownClient.programId legs)
        ∧ ¬ Settles ownClient.feeBps header legs := by
  let := mixedSeedsPda
  let := sampleUpstream
  constructor
  · obtain ⟨trade, htrade⟩ : ∃ trade, sampleClient.buyWithOpts 1000
        ⟨.raydiumAmmV4 sampleBridge, none⟩ sampleOpts = .ok trade :=
      exists_ok_of_toBool (by decide +kernel)
    obtain ⟨header, legs, hroute, -, hsettles, -⟩ := (settles_iff sampleClient 1000 _ sampleOpts
      trade).1 htrade
    refine ⟨trade, header, legs, hroute, hsettles ⟨.inr ?_, .inr (.inl rfl), ?_, ?_⟩⟩
    · decide +kernel
    · decide +kernel
    · decide +kernel
  · obtain ⟨trade, htrade⟩ : ∃ trade, ownClient.buyWithOpts 1000
        ⟨.raydiumAmmV4 sampleBridge, none⟩ sampleOpts = .ok trade :=
      exists_ok_of_toBool (by decide +kernel)
    obtain ⟨header, legs, hroute, -, -, hclear⟩ := (settles_iff ownClient 1000 _ sampleOpts
      trade).1 htrade
    refine ⟨trade, header, legs, hroute, fun hsettles => ?_⟩
    exact ownClient_not_clear (hclear (fun hunset => absurd hunset (by decide)) hsettles)

/-- **The check refuses an honest run** of a buy whose fee goes to the payer:
what it pays itself is not missing afterwards. -/
theorem own_recipient_refused :
    letI := mixedSeedsPda
    letI := sampleUpstream
    ∃ (trade : BuiltTrade) (header : BuiltHeader) (legs : List Leg) (fee before after : UInt64),
      ownClient.buyWithOpts 1000 ⟨.raydiumAmmV4 sampleBridge, none⟩ sampleOpts = .ok trade
        ∧ ownClient.feeRecipient = ownClient.payer
        ∧ trade.route = some (header.route ownClient.programId legs)
        ∧ HonestRun ownClient.feeBps header legs fee before after
        ∧ Program.validateSpend before after header.amountIn fee header.exactOut ≠ .ok () := by
  let := mixedSeedsPda
  let := sampleUpstream
  obtain ⟨trade, htrade⟩ : ∃ trade, ownClient.buyWithOpts 1000
      ⟨.raydiumAmmV4 sampleBridge, none⟩ sampleOpts = .ok trade :=
    exists_ok_of_toBool (by decide +kernel)
  obtain ⟨needsBridge, spend, spent, routeAmountIn, minOut, legs, s, hb⟩ :=
    RouterClient.buyWithOpts_eq_ok htrade
  have hnot : ¬ Settles ownClient.feeBps
      (ownClient.buyHeader ⟨.raydiumAmmV4 sampleBridge, none⟩ sampleOpts routeAmountIn minOut)
      legs := fun hsettles => ownClient_not_clear
    (hb.clear (hb.classic htrade) (fun hunset => absurd hunset (by decide)) hsettles)
  simp only [Settles, not_forall] at hnot
  obtain ⟨fee, before, after, hrun, hrefused⟩ := hnot
  exact ⟨trade, _, legs, fee, before, after, htrade, rfl, hb.route, hrun, hrefused⟩

end Sdk
