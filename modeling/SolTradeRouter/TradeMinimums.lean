import SolTradeRouter.TradeAmounts

/-!
# The outputs of a trade

What a trade asks for comes from its options. A fixed output makes the one
leg an exact-out instruction, and nothing else does. Without a fixed output
and without a minimum of the caller's, the minimum in the header is that of
the last leg, and comes from the quote of what that leg takes in.

Between two legs the minimum is the quote of the first, undiscounted. Only a
curve that takes less than the bridge would bring cuts it down, to what the
curve takes.
-/

namespace Sdk

open Outcome Bytes Rounding

/-! ## Fixed outputs -/

section Fixed

variable [Pda] {user : Pubkey} {market : RoutedMarket} {opts : TradeOpts}
  {needsBridge : Bool} {spend minOut spent target : UInt64} {legs : List Leg}
  {account : Pubkey}

/-- Every leg has an exact input. -/
def ExactInputs (user : Pubkey) (legs : List Leg) : Prop :=
  ∀ leg ∈ legs, ∃ format sent received, leg.Encodes user format sent received
    ∧ format.exactOut = false

omit [Pda] in
/-- A single swap with a fixed input encodes it. -/
theorem Single.exactInputs {hop : Hop} (hexact : hop.format.exactOut = false)
    (hfixed : opts.fixedOutput = none) (h : Single user opts hop spend legs minOut) :
    ExactInputs user legs := by
  obtain ⟨leg, format, rfl, hleg, hformat⟩ := h.first hexact
  intro leg' hmem
  rw [List.mem_singleton.mp hmem]
  exact ⟨format, spend, minOut, hleg, by rw [hformat, hfixed]; rfl⟩

omit [Pda] in
/-- **A fixed output is the output of an exact-out leg.** -/
theorem Single.fixedOutput {hop : Hop} (hfixed : opts.fixedOutput = some target)
    (h : Single user opts hop spend legs minOut) :
    minOut = target ∧ ∃ leg format, legs = [leg] ∧ format.exactOut = true
      ∧ leg.Encodes user format spend target := by
  cases h with
  | exactIn hnone hleg hfloor =>
    rw [hnone] at hfixed
    cases hfixed
  | fixedOut hsome hformat hleg =>
    cases hsome.symm.trans hfixed
    exact ⟨rfl, _, _, rfl, LegFormat.fixed_exactOut hformat, _, _, hleg⟩

omit [Pda] in
/-- And so do two in a row. -/
theorem exactInputs_two {first second : Leg} {f f' : LegFormat}
    {sent mid received : UInt64} {src dst src' dst' : Pubkey}
    (hfirst : Swaps first f user src dst sent mid) (hf : f.exactOut = false)
    (hsecond : Swaps second f' user src' dst' mid received) (hf' : f'.exactOut = false) :
    ExactInputs user [first, second] := by
  intro leg hmem
  rcases List.mem_pair.mp hmem with rfl | rfl
  · exact ⟨f, sent, mid, ⟨_, _, hfirst⟩, hf⟩
  · exact ⟨f', mid, received, ⟨_, _, hsecond⟩, hf'⟩

/-- So does every planned buy without a fixed output. -/
theorem BuyPlan.exactInputs (hfixed : opts.fixedOutput = none)
    (h : BuyPlan user market opts spend needsBridge legs minOut spent) :
    ExactInputs user legs := by
  cases h with
  | single hmarket hlegs => exact hlegs.exactInputs (buyHop_exactIn ..) hfixed
  | curve hmarket hfixed hquote hleg =>
    intro leg hmem
    rw [List.mem_singleton.mp hmem]
    exact ⟨_, _, _, ⟨_, _, hleg⟩, rfl⟩
  | bridged hmarket hpath hfixed hfirst hmid hsecond hfloor hquoted =>
    exact exactInputs_two hfirst (bridgeHop_exactIn ..) hsecond (buyHop_exactIn ..)
  | bridgedCurve hmarket hpath hfixed hspend hfirst hquote hsecond =>
    exact exactInputs_two hfirst (bridgeHop_exactIn ..) hsecond rfl

/-- And every planned sale. -/
theorem SellPlan.exactInputs (hfixed : opts.fixedOutput = none)
    (h : SellPlan user market opts spend needsBridge legs minOut account) :
    ExactInputs user legs := by
  cases h with
  | single hlegs haccount => exact hlegs.exactInputs (sellHop_exactIn ..) hfixed
  | bridged hpath hfixed hfirst hmid hsecond hfloor hquoted =>
    exact exactInputs_two hfirst (sellHop_exactIn ..) hsecond (bridgeHop_exactIn ..)

/-- A buy for a fixed output spends all it is given. -/
theorem BuyPlan.fixedOutput (hfixed : opts.fixedOutput = some target)
    (h : BuyPlan user market opts spend needsBridge legs minOut spent) :
    spent = spend ∧ minOut = target ∧ ∃ leg format, legs = [leg] ∧ format.exactOut = true
      ∧ leg.Encodes user format spend target := by
  have hnone : opts.fixedOutput ≠ none := by
    rw [hfixed]
    exact Option.some_ne_none target
  cases h with
  | single hmarket hlegs => exact ⟨rfl, hlegs.fixedOutput hfixed⟩
  | curve hmarket hfixed => exact absurd hfixed hnone
  | bridged hmarket hpath hfixed => exact absurd hfixed hnone
  | bridgedCurve hmarket hpath hfixed => exact absurd hfixed hnone

/-- A planned sale of a fixed output is one leg that encodes it. -/
theorem SellPlan.fixedOutput (hfixed : opts.fixedOutput = some target)
    (h : SellPlan user market opts spend needsBridge legs minOut account) :
    minOut = target ∧ ∃ leg format, legs = [leg] ∧ format.exactOut = true
      ∧ leg.Encodes user format spend target := by
  cases h with
  | single hlegs => exact hlegs.fixedOutput hfixed
  | bridged hpath hnone =>
    rw [hnone] at hfixed
    cases hfixed

end Fixed

/-- **The route of a trade for a fixed output**: the target is positive and
not below the caller's minimum, the one leg brings exactly the target for at
most what the fee leaves, and the program reads the target, the caller's
amount and the exact-out bit. -/
structure FixedOutputKept [Pda] (client : RouterClient) (amountIn target : UInt64)
    (opts : TradeOpts) (header : BuiltHeader) (legs : List Leg) : Prop where
  target_ne : target ≠ 0
  minOut_le : ∀ minimum, opts.minOut = some minimum → minimum ≤ target
  read : ∃ h, Program.readHeader (header.route client.programId legs).data.tail 0 = .ok h
    ∧ h.exactOut = true ∧ h.minAmountOut = target ∧ h.amountIn = amountIn
    ∧ h.numLegs = 1
  leg : ∃ leg format, legs = [leg] ∧ format.exactOut = true
    ∧ leg.Encodes client.payer format
      (U64.satSub amountIn (feeAmount amountIn client.feeBps)) target

/-- **The route of a trade without a fixed output**: the program reads no
exact-out bit, and no leg is an exact-out instruction. -/
structure ExactInputKept [Pda] (client : RouterClient) (header : BuiltHeader)
    (legs : List Leg) : Prop where
  read : ∃ h, Program.readHeader (header.route client.programId legs).data.tail 0 = .ok h
    ∧ h.exactOut = false
  leg : ∀ leg ∈ legs, (∃ format sent received, leg.Encodes client.payer format sent received)
    ∧ ∀ format : LegFormat, format.Marks leg.programId leg.data → format.exactOut = false

section Kept

variable [Pda] {client : RouterClient} {amountIn target spend : UInt64} {opts : TradeOpts}
  {header : BuiltHeader} {legs : List Leg}

/-- The program reads the exact-out bit off the header. -/
theorem BuiltHeader.read_exactOut (programId : Pubkey) (legs : List Leg) :
    ∃ h, Program.readHeader (header.route programId legs).data.tail 0 = .ok h
      ∧ h.exactOut = header.exactOut ∧ h.minAmountOut = header.minAmountOut
      ∧ h.amountIn = header.amountIn ∧ h.numLegs = (UInt8.ofNat legs.length).toNat :=
  ⟨_, header.read programId legs, (WireFormat.encodeFeeAsset_parts _ _).2, rfl, rfl, rfl⟩

/-- A header that fixes the input keeps what the legs encode. -/
theorem ExactInputKept.of_exactInputs (hheader : header.exactOut = false)
    (h : ExactInputs client.payer legs) : ExactInputKept client header legs where
  read := by
    obtain ⟨read, hread, hexact, -⟩ := header.read_exactOut client.programId legs
    exact ⟨read, hread, hexact.trans hheader⟩
  leg leg hmem := by
    obtain ⟨format, sent, received, hencodes, hexact⟩ := h leg hmem
    refine ⟨⟨format, sent, received, hencodes⟩, fun format' hmarks => ?_⟩
    obtain ⟨_, _, hswaps⟩ := hencodes
    rw [hmarks.unique hswaps.marks]
    exact hexact

/-- And one that fixes the output keeps the leg's target. -/
theorem FixedOutputKept.of_leg {token : Option Pubkey} {market : RoutedMarket}
    {needsBridge isBuy : Bool} (hpath : PathChecked market token needsBridge isBuy opts)
    (hfixed : opts.fixedOutput = some target)
    (hexact : header.exactOut = true) (hmin : header.minAmountOut = target)
    (hamount : header.amountIn = amountIn)
    (hspend : spend = U64.satSub amountIn (feeAmount amountIn client.feeBps))
    (hleg : ∃ leg format, legs = [leg] ∧ format.exactOut = true
      ∧ leg.Encodes client.payer format spend target) :
    FixedOutputKept client amountIn target opts header legs := by
  obtain ⟨hpos, hminOut, -⟩ := hpath.fixed target hfixed
  obtain ⟨leg, format, rfl, hformat, hencodes⟩ := hleg
  obtain ⟨read, hread, hexact', hmin', hamount', hcount⟩ :=
    header.read_exactOut client.programId [leg]
  exact {
    target_ne := U64.pos_iff.mpr hpos
    minOut_le := hminOut
    read := ⟨read, hread, hexact'.trans hexact, hmin'.trans hmin, hamount'.trans hamount,
      hcount⟩
    leg := ⟨leg, format, rfl, hformat, hspend ▸ hencodes⟩ }

end Kept

/-- **A fixed output is never ignored**, and no route is exact-out without
one. -/
theorem built_fixedOutput [Pda] [Upstream] (client : RouterClient) (amountIn : UInt64)
    (market : RoutedMarket) (opts : TradeOpts) (trade : BuiltTrade)
    (h : client.buyWithOpts amountIn market opts = .ok trade
      ∨ client.sellWithOpts amountIn market opts = .ok trade) :
    ∃ header legs, trade.route = some (header.route client.programId legs)
      ∧ (∀ target, opts.fixedOutput = some target →
        FixedOutputKept client amountIn target opts header legs)
      ∧ (opts.fixedOutput = none → ExactInputKept client header legs) := by
  rcases h with h | h
  · obtain ⟨needsBridge, spend, spent, routeAmountIn, minOut, legs, s, hb⟩ :=
      RouterClient.buyWithOpts_eq_ok h
    refine ⟨_, _, hb.route, fun target hfixed => ?_, fun hfixed => ?_⟩
    · obtain ⟨rfl, rfl, hleg⟩ := hb.plan.fixedOutput hfixed
      have hamount := hb.amount
      rw [routeAmountInFor, if_pos rfl] at hamount
      exact .of_leg hb.path hfixed (congrArg Option.isSome hfixed) rfl
        (Except.ok.inj hamount).symm (eq_satSub_fee hb.feeBps hb.spend_eq) hleg
    · exact .of_exactInputs (congrArg Option.isSome hfixed) (hb.plan.exactInputs hfixed)
  · obtain ⟨needsBridge, sellAmt, minOut, account, legs, s, hs⟩ :=
      RouterClient.sellWithOpts_eq_ok h
    refine ⟨_, _, hs.route, fun target hfixed => ?_, fun hfixed => ?_⟩
    · obtain ⟨rfl, hleg⟩ := hs.plan.fixedOutput hfixed
      exact .of_leg hs.path hfixed (congrArg Option.isSome hfixed) rfl rfl
        (eq_satSub_fee hs.feeBps hs.spend_eq) hleg
    · exact .of_exactInputs (congrArg Option.isSome hfixed) (hs.plan.exactInputs hfixed)

/-- At least 100 units of the stock for at most 990 of WSOL. -/
def sampleFixedOpts : TradeOpts := { sampleOpts with fixedOutput := some 100 }

/-- A buy of a fixed output on the bridge itself. -/
theorem sampleBridge_fixedOutput :
    letI := BuiltSwaps.lastSeedPda
    letI := sampleUpstream
    ∃ trade header legs,
      sampleClient.buyWithOpts 1000 ⟨.raydiumAmmV4 sampleBridge, none⟩ sampleFixedOpts
        = .ok trade
      ∧ trade.route = some (header.route sampleClient.programId legs)
      ∧ FixedOutputKept sampleClient 1000 100 sampleFixedOpts header legs := by
  let := BuiltSwaps.lastSeedPda
  let := sampleUpstream
  obtain ⟨trade, htrade⟩ : ∃ trade, sampleClient.buyWithOpts 1000
      ⟨.raydiumAmmV4 sampleBridge, none⟩ sampleFixedOpts = .ok trade :=
    exists_ok_of_toBool (by decide +kernel)
  obtain ⟨header, legs, hroute, hkept, -⟩ := built_fixedOutput sampleClient 1000 _
    sampleFixedOpts trade (.inl htrade)
  exact ⟨trade, header, legs, htrade, hroute, hkept 100 rfl⟩

/-! ## Automatic minimums -/

/-- **A minimum that a quote stands behind**: it is what the slippage leaves
of the quote, at least one, and no more than the quote. -/
structure Discounted (opts : TradeOpts) (quote : Result UInt64) (minOut : UInt64) : Prop where
  quoted : ∃ e, quote = .ok e ∧ minOut = applySlippageMinOut e opts.slippageBps ∧ minOut ≤ e
  pos : 1 ≤ minOut

/-- A floor that was not given is the quote less the slippage. -/
theorem TradeOpts.Floor.discounted {opts : TradeOpts} {quote : Result UInt64}
    {minOut : UInt64} (hmin : opts.minOut = none) (hne : minOut ≠ 0)
    (h : opts.Floor quote minOut) : Discounted opts quote minOut := by
  rw [TradeOpts.Floor, hmin] at h
  obtain ⟨e, hquote, rfl⟩ := h
  exact {
    quoted := ⟨e, hquote, rfl, applySlippageMinOut_le _ _⟩
    pos := UInt64.le_iff_toNat_le.mpr (U64.pos_iff.mp hne) }

/-- **The last leg carries the header's minimum**, which its own quote stands
behind: the quote of the input the leg encodes. -/
def LastLegFloored (user : Pubkey) (opts : TradeOpts) (quote : UInt64 → Result UInt64)
    (minOut : UInt64) (legs : List Leg) : Prop :=
  ∃ init last format sent, legs = init ++ [last]
    ∧ last.Encodes user format sent minOut ∧ Discounted opts (quote sent) minOut

/-- **The first of two legs carries its own quote**, undiscounted; or what it
carries, which the quote covers, is all that a curve takes. -/
def FirstLegQuoted (user : Pubkey) (quote : UInt64 → Result UInt64) (curve : UInt64 → Prop)
    (legs : List Leg) : Prop :=
  ∀ first second, legs = [first, second] → ∃ format sent mid quoted,
    first.Encodes user format sent mid ∧ quote sent = .ok quoted
      ∧ (mid = quoted ∨ mid ≤ quoted ∧ curve mid)

/-- The hop of a buy's last leg. -/
def RoutedMarket.lastBuyHop [Pda] (market : RoutedMarket) (user : Pubkey)
    (buyWith : BuyWith) : Hop :=
  market.market.buyHop user
    (if market.needsBridge buyWith.payMint then some market.quoteMint
      else market.payAsset buyWith)

/-- The quote of a leg on the market's bridge. -/
def RoutedMarket.bridgeQuote (market : RoutedMarket) (input : Pubkey) (amount : UInt64) :
    Result UInt64 := do
  let bridge ← okOr market.bridge "missing SOL/WSOL bridge"
  bridgeQuoteOut bridge amount input

/-- The quote of a sale's last leg. -/
def RoutedMarket.lastSellQuote [Pda] (market : RoutedMarket) (user : Pubkey)
    (sellTo : SellTo) : UInt64 → Result UInt64 :=
  if market.needsBridge sellTo.receiveMint then market.bridgeQuote market.quoteMint
  else (market.market.sellHop user (market.receiveAsset sellTo)).quote

/-- **What a curve takes of a bridge's proceeds**, if it is less than all of
them. -/
def RoutedMarket.CurveTakes (market : RoutedMarket) (spend mid : UInt64) : Prop :=
  ∃ pool provisional q, market.market = .launchLabInner pool
    ∧ market.bridgeQuote wsolMint spend = .ok provisional
    ∧ launchlabBuyQuote pool provisional 0 = .ok q ∧ mid = q.amountIn ∧ mid < provisional

section Floors

variable [Pda] {user : Pubkey} {market : RoutedMarket} {opts : TradeOpts}
  {needsBridge : Bool} {spend minOut spent : UInt64} {legs : List Leg} {account : Pubkey}

omit [Pda] in
/-- The quote of a market's bridge is the bridge's. -/
theorem bridgeQuote_eq {bridge : BridgePool} (h : market.bridge = some bridge)
    (input : Pubkey) (amount : UInt64) :
    market.bridgeQuote input amount = bridgeQuoteOut bridge amount input := by
  rw [RoutedMarket.bridgeQuote, h]
  rfl

omit [Pda] in
/-- A direct buy on a curve is quoted again for what it takes, if it brings
anything. -/
theorem launchlabBuyBaseOut_again {pool : LaunchLabPool} {x : UInt64} {q : LaunchLabBuyQuote}
    (h : launchlabBuyQuote pool x 0 = .ok q) (hne : q.amountOut ≠ 0) :
    launchlabBuyBaseOut pool q.amountIn = .ok q.amountOut := by
  obtain ⟨hacc, -, hout⟩ := launchlabBuyQuote_ok h
  have hagain : launchlabBuyQuote pool q.amountIn 0 = .ok q := by
    by_cases hclamped : pool.Clamped 0 x.toNat
    · have hrem : 0 < pool.remaining := by
        rw [Nat.pos_iff_ne_zero]
        intro hzero
        rw [LaunchLabPool.sold, if_neg hclamped.1, hzero, Nat.min_zero,
          TokenTransferFee.net_zero] at hout
        exact hne (UInt64.toNat_inj.mp hout)
      exact (launchlabBuyQuote_idem hrem hclamped h).1
    · cases h.symm.trans (launchlabBuyQuote_unclamped hacc hclamped)
      exact h
  rw [launchlabBuyBaseOut, hagain]
  rfl

/-- **A planned buy has its floor at the last leg**, and the first brings what
the second spends. -/
theorem BuyPlan.floored (hmin : opts.minOut = none) (hfixed : opts.fixedOutput = none)
    (hne : minOut ≠ 0) (hneeds : needsBridge = market.needsBridge opts.buyWith.payMint)
    (h : BuyPlan user market opts spend needsBridge legs minOut spent) :
    LastLegFloored user opts (market.lastBuyHop user opts.buyWith).quote minOut legs
      ∧ FirstLegQuoted user (market.bridgeQuote wsolMint) (market.CurveTakes spend) legs := by
  have hone : ∀ {leg : Leg}, FirstLegQuoted user (market.bridgeQuote wsolMint)
      (market.CurveTakes spend) [leg] := fun _ _ h => by cases h
  unfold RoutedMarket.lastBuyHop
  rw [← hneeds]
  cases h with
  | single hmarket hlegs =>
    cases hlegs with
    | exactIn _ hleg hfloor =>
      exact ⟨⟨[], _, _, _, rfl, ⟨_, _, hleg⟩, hfloor.discounted hmin hne⟩, hone⟩
    | fixedOut hsome =>
      rw [hfixed] at hsome
      cases hsome
  | @curve pool leg q hmarket _ hquote hleg =>
    have hout : q.amountOut ≠ 0 := by
      intro hzero
      have hnone : applySlippageMinOut 0 opts.slippageBps = 0 :=
        applySlippageMinOut_eq_zero.mpr rfl
      rw [hzero, TradeOpts.floor, hmin] at hne
      exact hne hnone
    have hfloor : opts.Floor _ (opts.floor q.amountOut) :=
      TradeOpts.floor_of_quote (launchlabBuyBaseOut_again hquote hout)
    refine ⟨⟨[], _, _, _, rfl, ⟨_, _, hleg⟩, ?_⟩, hone⟩
    rw [hmarket]
    exact hfloor.discounted hmin hne
  | bridged hmarket hpath _ hfirst hmid hsecond hfloor hquoted =>
    refine ⟨⟨[_], _, _, _, rfl, ⟨_, _, hsecond⟩, hfloor.discounted hmin hne⟩, ?_⟩
    rintro _ _ ⟨⟩
    exact ⟨_, _, _, _, ⟨_, _, hfirst⟩, (bridgeQuote_eq hpath.bridge_eq _ _).trans hmid,
      .inl rfl⟩
  | @bridgedCurve bridge pool first second wsolSpent mid q hmarket hpath _ hspend hfirst
      hquote hsecond =>
    have hout : launchlabBuyBaseOut pool mid = .ok q.amountOut := by
      rw [launchlabBuyBaseOut, hquote]
      rfl
    have hfloor : opts.Floor _ (opts.floor q.amountOut) := TradeOpts.floor_of_quote hout
    refine ⟨⟨[_], _, _, _, rfl, ⟨_, _, hsecond⟩, ?_⟩, ?_⟩
    · rw [hmarket]
      exact hfloor.discounted hmin hne
    · rintro _ _ ⟨⟩
      obtain ⟨provisional, q₀, rfl, hspent⟩ := hspend.spent
      have hbridge := bridgeQuote_eq hpath.bridge_eq wsolMint
      by_cases hlt : q₀.amountIn < provisional
      · obtain ⟨-, -, ⟨y, hy, hle⟩, -⟩ := hspent.clamped hlt
        exact ⟨_, _, _, y, ⟨_, _, hfirst⟩, (hbridge _).trans hy, .inr ⟨hle, pool, provisional,
          q₀, hmarket, (hbridge _).trans hspent.bridge_eq, hspent.quote_eq, rfl, hlt⟩⟩
      · have heq : q₀.amountIn = provisional :=
          UInt64.le_antisymm (launchlabBuyQuote_ok hspent.quote_eq).2.1 (UInt64.not_lt.mp hlt)
        rw [hspent.whole hlt] at hfirst
        exact ⟨_, _, _, provisional, ⟨_, _, hfirst⟩, (hbridge _).trans hspent.bridge_eq,
          .inl heq⟩

/-- **And so has a planned sale.** -/
theorem SellPlan.floored (hmin : opts.minOut = none) (hfixed : opts.fixedOutput = none)
    (hne : minOut ≠ 0) (hneeds : needsBridge = market.needsBridge opts.sellTo.receiveMint)
    (h : SellPlan user market opts spend needsBridge legs minOut account) :
    LastLegFloored user opts (market.lastSellQuote user opts.sellTo) minOut legs
      ∧ FirstLegQuoted user (market.market.sellHop user (some market.quoteMint)).quote
        (fun _ => False) legs := by
  unfold RoutedMarket.lastSellQuote
  rw [← hneeds]
  cases h with
  | single hlegs =>
    cases hlegs with
    | exactIn _ hleg hfloor =>
      exact ⟨⟨[], _, _, _, rfl, ⟨_, _, hleg⟩, hfloor.discounted hmin hne⟩,
        fun _ _ h => by cases h⟩
    | fixedOut hsome =>
      rw [hfixed] at hsome
      cases hsome
  | bridged hpath _ hfirst hmid hsecond hfloor hquoted =>
    refine ⟨⟨[_], _, _, _, rfl, ⟨_, _, hsecond⟩, ?_⟩, ?_⟩
    · rw [if_pos rfl, bridgeQuote_eq hpath.bridge_eq]
      exact hfloor.discounted hmin hne
    · rintro _ _ ⟨⟩
      exact ⟨_, _, _, _, ⟨_, _, hfirst⟩, hmid, .inl rfl⟩

end Floors

/-- **An automatic trade carries a real minimum.** The header's minimum is at
least one, it is the last leg's, and the slippage leaves it of the quote for
exactly what that leg takes in. In a trade of two legs, the first carries the
undiscounted quote of its own input; only where a curve takes less than the
bridge would bring for all of the amount does it carry what the curve takes,
which that quote covers. -/
theorem built_floored [Pda] [Upstream] (client : RouterClient) (amountIn : UInt64)
    (market : RoutedMarket) (opts : TradeOpts) (trade : BuiltTrade)
    (hmin : opts.minOut = none) (hfixed : opts.fixedOutput = none) :
    (client.buyWithOpts amountIn market opts = .ok trade →
      ∃ (header : BuiltHeader) (legs : List Leg),
        trade.route = some (header.route client.programId legs)
        ∧ LastLegFloored client.payer opts (market.lastBuyHop client.payer opts.buyWith).quote
          header.minAmountOut legs
        ∧ FirstLegQuoted client.payer (market.bridgeQuote wsolMint)
          (market.CurveTakes (U64.satSub amountIn (feeAmount amountIn client.feeBps))) legs)
    ∧ (client.sellWithOpts amountIn market opts = .ok trade →
      ∃ (header : BuiltHeader) (legs : List Leg),
        trade.route = some (header.route client.programId legs)
        ∧ LastLegFloored client.payer opts (market.lastSellQuote client.payer opts.sellTo)
          header.minAmountOut legs
        ∧ FirstLegQuoted client.payer
          (market.market.sellHop client.payer (some market.quoteMint)).quote
          (fun _ => False) legs) := by
  refine ⟨fun h => ?_, fun h => ?_⟩
  · obtain ⟨needsBridge, spend, spent, routeAmountIn, minOut, legs, s, hb⟩ :=
      RouterClient.buyWithOpts_eq_ok h
    rw [← eq_satSub_fee hb.feeBps hb.spend_eq]
    exact ⟨_, _, hb.route, hb.plan.floored hmin hfixed (hb.floor hmin) hb.path.needsBridge_eq⟩
  · obtain ⟨needsBridge, sellAmt, minOut, account, legs, s, hs⟩ :=
      RouterClient.sellWithOpts_eq_ok h
    exact ⟨_, _, hs.route, hs.plan.floored hmin hfixed (hs.floor hmin) hs.path.needsBridge_eq⟩

/-- The buy through the bridge has a minimum behind which the curve's quote
stands. -/
theorem sampleLaunch_floored :
    letI := BuiltSwaps.lastSeedPda
    letI := sampleUpstream
    ∃ (trade : BuiltTrade) (header : BuiltHeader) (legs : List Leg),
      trade.route = some (header.route sampleClient.programId legs)
      ∧ LastLegFloored sampleClient.payer sampleOpts (launchlabBuyBaseOut sampleLaunch)
        header.minAmountOut legs := by
  let := BuiltSwaps.lastSeedPda
  let := sampleUpstream
  obtain ⟨trade, htrade⟩ : ∃ trade, sampleClient.buyWithOpts 1000
      ⟨.launchLabInner sampleLaunch, some (.ammV4 sampleBridge)⟩ sampleOpts = .ok trade :=
    exists_ok_of_toBool (by decide +kernel)
  obtain ⟨header, legs, hroute, hfloored, -⟩ := (built_floored sampleClient 1000 _ sampleOpts
    trade rfl rfl).1 htrade
  exact ⟨trade, header, legs, hroute, hfloored⟩

/-- **The first leg of that buy carries less than its quote**: 324, which is
what the curve takes, where 83 are quoted 325. -/
theorem sampleLaunch_first :
    letI := BuiltSwaps.lastSeedPda
    letI := sampleUpstream
    ∃ (trade : BuiltTrade) (header : BuiltHeader) (first second : Leg),
      sampleClient.buyWithOpts 1000 ⟨.launchLabInner sampleLaunch,
        some (.ammV4 sampleBridge)⟩ sampleOpts = .ok trade
      ∧ trade.route = some (header.route sampleClient.programId [first, second])
      ∧ ∀ format sent mid, first.Encodes sampleClient.payer format sent mid →
        bridgeQuoteOut (.ammV4 sampleBridge) sent wsolMint ≠ .ok mid := by
  let := BuiltSwaps.lastSeedPda
  let := sampleUpstream
  obtain ⟨trade, htrade⟩ : ∃ trade, sampleClient.buyWithOpts 1000
      ⟨.launchLabInner sampleLaunch, some (.ammV4 sampleBridge)⟩ sampleOpts = .ok trade :=
    exists_ok_of_toBool (by decide +kernel)
  obtain ⟨needsBridge, spend, spent, routeAmountIn, minOut, legs, s, hb⟩ :=
    RouterClient.buyWithOpts_eq_ok htrade
  have hneeds : needsBridge = true := hb.path.needsBridge_eq
  have hspend : spend = 990 := (eq_satSub_fee hb.feeBps hb.spend_eq).trans (by decide)
  have hroute := hb.route
  have hplan := hb.plan
  subst hneeds hspend
  cases hplan with
  | bridged hmarket => exact absurd rfl (hmarket sampleLaunch)
  | @bridgedCurve bridge pool first second wsolSpent mid q hmarket hpath _ hcurve hfirst =>
    refine ⟨trade, _, first, second, htrade, hroute, fun format sent mid' hencodes => ?_⟩
    obtain ⟨-, rfl, rfl⟩ := hencodes.unique ⟨_, _, hfirst⟩
    cases hmarket
    cases hpath.bridge_eq
    obtain ⟨provisional, q₀, rfl, hspent⟩ := hcurve.spent
    have hprovisional : bridgeQuoteOut (.ammV4 sampleBridge) 990 wsolMint = .ok 3593 := by
      decide +kernel
    cases hprovisional.symm.trans hspent.bridge_eq
    have hquote : (launchlabBuyQuote sampleLaunch 3593 0).map (·.amountIn) = .ok 324 := by
      decide +kernel
    rw [hspent.quote_eq] at hquote
    have htaken : q₀.amountIn = 324 := Except.ok.inj hquote
    have hinverse : bridgeInForOut (.ammV4 sampleBridge) 324 wsolMint = .ok 83 := by
      decide +kernel
    obtain ⟨-, -, hleast⟩ := hspent.clamped (by rw [htaken]; decide)
    obtain ⟨y, hy, -⟩ := hleast.reaches
    rw [htaken] at hleast ⊢
    cases hleast.unique (bridgeInForOut_least (by decide) hinverse)
      (bridgeQuoteOut_ne_zero hy) (by decide)
    decide +kernel

end Sdk
