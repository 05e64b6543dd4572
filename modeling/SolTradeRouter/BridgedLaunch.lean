import SolTradeRouter.BuiltSwaps
import SolTradeRouter.LaunchLabClamp
import SolTradeRouter.TradePlan

/-!
# Buying on a curve through a bridge

A buy that goes from WSOL over a bridge to a LaunchLab curve first asks the
curve how much of the bridge's proceeds it takes. Near graduation it takes
less, and the first hop is then cut down: the bridge's inverse says what the
curve's amount costs, the bridge is quoted again at that price, and the
curve is quoted again at what the bridge brings.

Since the bridge's inverse is exact, a hop that is cut down spends no more
than what the curve's amount costs; since a clamped quote quotes itself again,
the amount does not move in the second round. What decides is the amount the
curve takes, not whether its quote is clamped: a curve that takes all the
bridge brings, by rounding, leaves the first hop as it is.
-/

namespace Sdk

open Outcome Rounding

/-! ## A bridge and its inverse -/

section Bridge

variable {bridge : BridgePool} {mint : Pubkey} {x y target : UInt64}

/-- A bridge quotes no empty input. -/
theorem bridgeQuoteOut_ne_zero (h : bridgeQuoteOut bridge x mint = .ok y) : x ≠ 0 := by
  obtain ⟨_, -, h⟩ := bind_eq_ok.mp h
  cases bridge with
  | cpmm pool =>
    obtain ⟨-, -, hx, -⟩ := cpmmOut_eq_ok.mp h
    exact hx
  | ammV4 pool => exact (raydiumAmmV4Out_eq_ok.mp h).2.1

/-- On one of its mints, a bridge's quote is its pool's. -/
theorem bridgeQuoteOut_eq (h : bridge.containsMint mint = true) (x : UInt64) :
    bridgeQuoteOut bridge x mint = match bridge with
      | .cpmm pool => cpmmOut pool x (mint = pool.baseMint)
      | .ammV4 pool => raydiumAmmV4Out pool x (mint = pool.coinMint) := by
  unfold bridgeQuoteOut
  rw [bailIf, failIf, if_neg (by rw [h]; simp), ok_bind]
  cases bridge <;> rfl

/-- **The inverse of a bridge is the least input**, for both kinds. -/
theorem bridgeInForOut_least (ht : target ≠ 0)
    (h : bridgeInForOut bridge target mint = .ok x) :
    LeastInput (bridgeQuoteOut bridge · mint) target x := by
  obtain ⟨_, hmint, h⟩ := bind_eq_ok.mp h
  have hcontains : bridge.containsMint mint = true := by
    simpa using failIf_eq_ok.mp hmint
  rw [show (bridgeQuoteOut bridge · mint) = _ from funext (bridgeQuoteOut_eq hcontains)]
  cases bridge with
  | cpmm pool =>
    rcases cpmmInForOutWithin_inverse (by decide : 64 < 65) pool ht (mint = pool.baseMint)
      with ⟨x', hx', -, hleast⟩ | ⟨⟨e, he⟩, -⟩
    · cases hx'.symm.trans h
      exact hleast
    · cases he.symm.trans h
  | ammV4 pool =>
    rcases raydiumAmmV4InForOut_inverse pool ht (mint = pool.coinMint)
      with ⟨x', hx', -, hleast⟩ | ⟨⟨e, he⟩, -⟩
    · cases hx'.symm.trans h
      exact hleast
    · cases he.symm.trans h

/-- A least input is at most any input that reaches the target. -/
theorem LeastInput.le {quote : UInt64 → Result UInt64} (h : LeastInput quote target x)
    {x' : UInt64} (hx' : x' ≠ 0) (hquote : quote x' = .ok y) (hle : target ≤ y) : x ≤ x' := by
  refine UInt64.not_lt.mp fun hlt => ?_
  obtain ⟨y', hy', hlt'⟩ := h.below x' hx' hlt
  cases hy'.symm.trans hquote
  exact absurd hlt' (UInt64.not_lt.mpr hle)

end Bridge

/-! ## What is spent -/

/-- **What a bridged buy on a curve spends.** The curve takes all the bridge
brings, and all of the amount is spent; or it takes less, and the least
amount that brings as much is spent. The curve's quote for what it takes is
its quote for what it was offered. -/
structure CurveSpent (bridge : BridgePool) (pool : LaunchLabPool)
    (spend wsolSpent provisional : UInt64) (q : LaunchLabBuyQuote) : Prop where
  bridge_eq : bridgeQuoteOut bridge spend wsolMint = .ok provisional
  quote_eq : launchlabBuyQuote pool provisional 0 = .ok q
  again_eq : launchlabBuyQuote pool q.amountIn 0 = .ok q
  spent_le : wsolSpent ≤ spend
  whole : ¬ q.amountIn < provisional → wsolSpent = spend
  clamped : q.amountIn < provisional → 0 < pool.remaining
    ∧ pool.Clamped 0 provisional.toNat
    ∧ LeastInput (bridgeQuoteOut bridge · wsolMint) q.amountIn wsolSpent

section Spent

variable {bridge : BridgePool} {pool : LaunchLabPool} {spend wsolSpent mid : UInt64}

/-- A quote that takes less than it was offered is clamped. -/
theorem launchlabBuyQuote_clamped_of_lt {share x : UInt64} {q : LaunchLabBuyQuote}
    (h : launchlabBuyQuote pool x share = .ok q) (hlt : q.amountIn < x) :
    pool.Clamped share x.toNat := by
  by_contra hnot
  cases h.symm.trans (launchlabBuyQuote_unclamped (launchlabBuyQuote_ok h).1 hnot)
  exact absurd hlt (UInt64.lt_irrefl x)

/-- **The two rounds of quotes settle on one amount.** -/
theorem CurveSpend.spent (h : CurveSpend bridge pool spend wsolSpent mid) :
    ∃ provisional q, mid = q.amountIn
      ∧ CurveSpent bridge pool spend wsolSpent provisional q := by
  cases h with
  | @whole provisional q hbridge hquote htakes =>
    have hle := (launchlabBuyQuote_ok hquote).2.1
    have heq : q.amountIn = provisional :=
      UInt64.le_antisymm hle (UInt64.not_lt.mp htakes)
    refine ⟨provisional, q, rfl, hbridge, hquote, ?_, UInt64.le_refl _, fun _ => rfl,
      fun hlt => absurd hlt htakes⟩
    rw [heq]
    exact hquote
  | @clamped provisional stockOut _ q₀ q hbridge hquote hlt hinverse hstock hagain =>
    have hclamped := launchlabBuyQuote_clamped_of_lt hquote hlt
    -- Nothing left would take nothing, and the second quote would fail.
    have hne : q₀.amountIn ≠ 0 := by
      intro hzero
      have hmin : min stockOut q₀.amountIn = 0 := by
        rw [hzero]
        show (if stockOut ≤ 0 then stockOut else 0) = 0
        split
        · rename_i hle
          exact UInt64.le_antisymm hle UInt64.zero_le
        · rfl
      rw [hmin] at hagain
      exact (launchlabBuyQuote_ok hagain).1.ne_zero rfl
    have hrem : 0 < pool.remaining := by
      rw [Nat.pos_iff_ne_zero]
      exact fun hzero => hne ((launchlabBuyQuote_amountIn_eq_zero hquote).mpr ⟨hclamped, hzero⟩)
    have hleast := bridgeInForOut_least hne hinverse
    obtain ⟨hidem, -⟩ := launchlabBuyQuote_idem hrem hclamped hquote
    have hreaches : q₀.amountIn ≤ stockOut := by
      obtain ⟨y, hy, hle⟩ := hleast.reaches
      cases hy.symm.trans hstock
      exact hle
    have hmin : min stockOut q₀.amountIn = q₀.amountIn := by
      show (if stockOut ≤ q₀.amountIn then stockOut else q₀.amountIn) = q₀.amountIn
      split
      · rename_i hle
        exact UInt64.le_antisymm hle hreaches
      · rfl
    rw [hmin] at hagain
    cases hidem.symm.trans hagain
    exact ⟨provisional, q₀, rfl, hbridge, hquote, hidem,
      hleast.le (bridgeQuoteOut_ne_zero hbridge) hbridge (UInt64.le_of_lt hlt),
      fun hnot => absurd hlt hnot, fun _ => ⟨hrem, hclamped, hleast⟩⟩

end Spent

/-! ## The legs -/

/-- A leg on a bridge moves its amounts, out of one of the user's accounts
and into another. -/
theorem bridgeSwapLeg_swaps [Pda] {user : Pubkey} {bridge : BridgePool}
    {sent received : UInt64} {input output source destination : Pubkey} {leg : Leg}
    (h : bridgeSwapLeg user bridge sent received input output source destination = .ok leg) :
    ∃ source destination,
      Swaps leg (bridge.hop user input).format user source destination sent received := by
  cases bridge with
  | cpmm pool => exact ⟨_, _, (cpmmSwapLeg_exactInput h).swaps⟩
  | ammV4 pool => exact ⟨_, _, (raydiumAmmV4SwapLeg_exactInput h).swaps⟩

/-- **What a bridged buy on a curve is built of.** The bridge quotes all of the
amount, and the curve what the bridge brings. The legs pass on what the curve
takes, and the minimum is that of the curve's quote for it. The whole amount is
spent where the curve takes all that the bridge brings, and the least amount that
brings as much where it takes less. Past the clamp something is left for sale; the
curve takes the least input that buys it, and the quote is all of it, net of the
transfer fee. -/
structure CurveBought [Pda] (client : RouterClient) (bridge : BridgePool) (pool : LaunchLabPool)
    (opts : TradeOpts) (spend provisional : UInt64) (q : LaunchLabBuyQuote)
    (built : BuyLegs) : Prop where
  bridge_eq : bridgeQuoteOut bridge spend wsolMint = .ok provisional
  quote_eq : launchlabBuyQuote pool provisional 0 = .ok q
  spent_le : built.spent ≤ spend
  takes_le : q.amountIn ≤ provisional
  whole : q.amountIn = provisional → built.spent = spend
  least : q.amountIn < provisional →
    LeastInput (bridgeQuoteOut bridge · wsolMint) q.amountIn built.spent
  unclamped : ¬ pool.Clamped 0 provisional.toNat → q.amountIn = provisional
  clamped : pool.Clamped 0 provisional.toNat → 0 < pool.remaining
    ∧ (∀ n, q.amountIn.toNat ≤ n ↔ pool.remaining ≤ pool.curveOut 0 n)
    ∧ q.amountOut.toNat = pool.baseTransferFee.net pool.remaining
  legs : ∃ leg1 leg2, built.legs = [leg1, leg2]
    ∧ (∃ source destination, Swaps leg1 (bridge.hop client.payer wsolMint).format
      client.payer source destination built.spent q.amountIn)
    ∧ (pool.buyHop client.payer).Trades client.payer leg2 q.amountIn built.minOut
  final_eq : launchlabBuyQuote pool q.amountIn 0 = .ok q
  minOut_eq : built.minOut = opts.floor q.amountOut

/-- A clamped quote is of a curve with something left, if it can be quoted again. -/
theorem CurveSpent.remaining_pos {bridge : BridgePool} {pool : LaunchLabPool}
    {spend wsolSpent provisional : UInt64} {q : LaunchLabBuyQuote}
    (h : CurveSpent bridge pool spend wsolSpent provisional q)
    (hclamped : pool.Clamped 0 provisional.toNat) : 0 < pool.remaining := by
  rw [Nat.pos_iff_ne_zero]
  intro hzero
  have hnone : q.amountIn = 0 :=
    (launchlabBuyQuote_amountIn_eq_zero h.quote_eq).mpr ⟨hclamped, hzero⟩
  exact (launchlabBuyQuote_ok h.again_eq).1.ne_zero hnone

/-- **A bridged buy on a curve spends what the curve takes.** -/
theorem buyViaBridgeLaunchlab_spends [Pda] (client : RouterClient) (spend : UInt64)
    (pool : LaunchLabPool) (bridge : BridgePool) (opts : TradeOpts) (s : TradeSetup)
    (built : BuyLegs)
    (h : client.buyViaBridgeLaunchlab spend pool bridge opts s = .ok built) :
    ∃ provisional q, CurveBought client bridge pool opts spend provisional q built := by
  obtain ⟨_, -, h⟩ := bind_eq_ok.mp h
  obtain ⟨provisional, hprovisional, h⟩ := bind_eq_ok.mp h
  obtain ⟨q₀, hq₀, h⟩ := bind_eq_ok.mp h
  obtain ⟨⟨wsolSpent, q⟩, hshrunk, h⟩ := bind_eq_ok.mp h
  obtain ⟨first, hfirst, h⟩ := bind_eq_ok.mp h
  obtain ⟨q₂, hq₂, h⟩ := bind_eq_ok.mp h
  cases h
  have hmid : min (bridgeIntermediateMinOut q.amountIn) q.amountIn = q.amountIn :=
    ite_self _
  obtain ⟨provisional', q', hmid', hspent⟩ :=
    (shrinkToCurve_eq_ok hprovisional hq₀ hshrunk).spent
  cases hspent.bridge_eq.symm.trans hprovisional
  cases hspent.quote_eq.symm.trans hq₀
  rw [hmid, hmid'] at hq₂
  cases hspent.again_eq.symm.trans hq₂
  have hle := (launchlabBuyQuote_ok hq₀).2.1
  refine ⟨provisional, q₀, hprovisional, hq₀, hspent.spent_le, hle, fun heq => ?_,
    fun hlt => (hspent.clamped hlt).2.2, fun hnot => ?_, fun hclamped => ?_,
    ⟨first, _, rfl, ?_, ?_⟩, hq₂, rfl⟩
  · refine hspent.whole fun hlt => ?_
    rw [heq] at hlt
    exact UInt64.lt_irrefl _ hlt
  · refine UInt64.le_antisymm hle (UInt64.not_lt.mp fun hlt => hnot ?_)
    exact (hspent.clamped hlt).2.1
  · have hrem := hspent.remaining_pos hclamped
    refine ⟨hrem, (launchlabBuyQuote_idem hrem hclamped hq₀).2, ?_⟩
    rw [(launchlabBuyQuote_ok hq₀).2.2, LaunchLabPool.sold, if_neg hclamped.1,
      Nat.min_eq_right hclamped.2.le]
  · rw [← hmid']
    exact bridgeSwapLeg_swaps hfirst
  · rw [hmid, hmid']
    exact (launchlabBuyLeg_exactInput _ _ _ _ _ _).swaps

/-- A curve quoted in a stock, with 100 units left for sale. -/
def sampleLaunch : LaunchLabPool where
  baseMint := sampleKey 10
  quoteMint := sampleKey 11
  baseTokenProgram := tokenProgram
  quoteTokenProgram := tokenProgram
  poolState := sampleKey 12
  baseVault := sampleKey 13
  quoteVault := sampleKey 14
  platformConfig := sampleKey 15
  platformAssociatedAccount := sampleKey 16
  creatorAssociatedAccount := sampleKey 17
  globalConfig := sampleKey 18
  virtualBase := 1000
  virtualQuote := 1000
  realBase := 400
  realQuote := 600
  totalBaseSell := 500
  curveType := 0
  feeRatesKnown := true
  tradeFeeRate := 10000
  platformFeeRate := 0
  creatorFeeRate := 0
  baseTransferFee := TokenTransferFee.none
  quoteTransferFee := TokenTransferFee.none

/-- An AMM V4 pool of WSOL and the stock. -/
def sampleBridge : RaydiumAmmV4Pool where
  amm := sampleKey 20
  coinMint := wsolMint
  pcMint := sampleKey 11
  tokenCoin := sampleKey 21
  tokenPc := sampleKey 22
  tokenProgram := tokenProgram
  coinReserve := 10000
  pcReserve := 40000
  tradeFeeNumerator := 25
  swapFeeNumerator := 25
  swapFeeDenominator := 10000

/-- A client that takes a fee of one percent. -/
def sampleClient : RouterClient where
  payer := sampleKey 1
  programId := sampleKey 2
  feeRecipient := sampleKey 3
  feeBps := 100
  poolGuard := .disabled

/-- An automatic trade between SOL and the meme. -/
def sampleOpts : TradeOpts where
  slippageBps := 100
  minOut := none
  fixedOutput := none
  buyWith := .sol
  sellTo := .sol
  ata := .createAllInTrade

/-- The bridge brings 3593 for 990, the curve takes 324 of it, and 83 bring
as much. -/
theorem sampleLaunch_spends :
    letI := BuiltSwaps.lastSeedPda
    ∃ built, sampleClient.buyViaBridgeLaunchlab 990 sampleLaunch (.ammV4 sampleBridge)
        sampleOpts ⟨[], TouchedAtas.default⟩ = .ok built
      ∧ built.spent = 83
      ∧ LeastInput (bridgeQuoteOut (.ammV4 sampleBridge) · wsolMint) 324 built.spent := by
  let := BuiltSwaps.lastSeedPda
  obtain ⟨built, hbuilt, hspent⟩ : ∃ built, sampleClient.buyViaBridgeLaunchlab 990
      sampleLaunch (.ammV4 sampleBridge) sampleOpts ⟨[], TouchedAtas.default⟩ = .ok built
      ∧ built.spent = 83 := ⟨_, rfl, rfl⟩
  obtain ⟨provisional, q, h⟩ :=
    buyViaBridgeLaunchlab_spends sampleClient 990 sampleLaunch (.ammV4 sampleBridge) sampleOpts
      ⟨[], TouchedAtas.default⟩ built hbuilt
  have hbridge : bridgeQuoteOut (.ammV4 sampleBridge) 990 wsolMint = .ok 3593 := by
    decide +kernel
  cases hbridge.symm.trans h.bridge_eq
  have hquote : (launchlabBuyQuote sampleLaunch 3593 0).map (·.amountIn) = .ok 324 := by
    decide +kernel
  rw [h.quote_eq] at hquote
  have hamount : q.amountIn = 324 := Except.ok.inj hquote
  have hleast := h.least
  rw [hamount] at hleast
  exact ⟨built, hbuilt, hspent, hleast (by decide)⟩

/-- A curve with 9000 units left for sale, which 10 units of the stock buy. -/
def roundedLaunch : LaunchLabPool :=
  { sampleLaunch with
    virtualBase := 100000
    virtualQuote := 100
    realBase := 0
    realQuote := 0
    totalBaseSell := 9000
    tradeFeeRate := 0 }

/-- A bridge that brings 10 units of the stock for 990. -/
def roundedBridge : RaydiumAmmV4Pool :=
  { sampleBridge with pcReserve := 120 }

/-- **Rounding hides the clamp**: 10 units buy 9090 and so all of the 9000 that
are left, but fewer would not; so nothing is cut down, and 990 are spent where
950 bring the 10 units. -/
theorem roundedLaunch_overspends :
    letI := BuiltSwaps.lastSeedPda
    ∃ (built : BuyLegs) (provisional : UInt64) (q : LaunchLabBuyQuote),
      sampleClient.buyViaBridgeLaunchlab 990 roundedLaunch (.ammV4 roundedBridge)
        sampleOpts ⟨[], TouchedAtas.default⟩ = .ok built
      ∧ bridgeQuoteOut (.ammV4 roundedBridge) 990 wsolMint = .ok provisional
      ∧ launchlabBuyQuote roundedLaunch provisional 0 = .ok q
      ∧ roundedLaunch.Clamped 0 provisional.toNat ∧ 0 < roundedLaunch.remaining
      ∧ built.spent = 990
      ∧ ¬ LeastInput (bridgeQuoteOut (.ammV4 roundedBridge) · wsolMint) q.amountIn
        built.spent := by
  let := BuiltSwaps.lastSeedPda
  obtain ⟨built, hbuilt, hspent⟩ : ∃ built, sampleClient.buyViaBridgeLaunchlab 990
      roundedLaunch (.ammV4 roundedBridge) sampleOpts ⟨[], TouchedAtas.default⟩ = .ok built
      ∧ built.spent = 990 := ⟨_, rfl, rfl⟩
  obtain ⟨q, hquote, hamount⟩ : ∃ q, launchlabBuyQuote roundedLaunch 10 0 = .ok q
      ∧ q.amountIn = 10 := ⟨_, rfl, rfl⟩
  refine ⟨built, 10, q, hbuilt, by decide +kernel, hquote, ⟨by decide, by decide +kernel⟩,
    by decide, hspent, fun hleast => ?_⟩
  have hfewer : bridgeQuoteOut (.ammV4 roundedBridge) 950 wsolMint = .ok 10 := by
    decide +kernel
  obtain ⟨y, hy, hlt⟩ := hleast.below 950 (by decide) (by rw [hspent]; decide)
  cases hfewer.symm.trans hy
  rw [hamount] at hlt
  exact absurd hlt (by decide)

end Sdk
