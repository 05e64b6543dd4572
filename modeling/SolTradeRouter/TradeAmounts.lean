import SolTradeRouter.BridgedLaunch
import SolTradeRouter.BuiltTrades

/-!
# The amounts of a trade

The program demands that a route spend its input amount to the unit, so the
amount in the header, the fee the program will take off it, and the input of
the first leg have to add up. They do, on every path, also where a curve
takes less than it is offered.

Whether the amounts are positive is another matter. A curve with nothing
left takes nothing, and a bridge may bring nothing for a small amount; a
caller's own minimum then stands in the way of the quote that would have
refused. These two are the only ways in which a zero enters a trade.
-/

namespace Sdk

open Outcome Bytes Rounding

/-! ## What the first leg spends -/

section Plans

variable [Pda] {user : Pubkey} {market : RoutedMarket} {opts : TradeOpts}
  {needsBridge : Bool} {spend minOut spent : UInt64} {legs : List Leg} {account : Pubkey}

/-- A hop of a market takes an exact input. -/
theorem buyHop_exactIn (m : Market) (user : Pubkey) (asset : Option Pubkey) :
    (m.buyHop user asset).format.exactOut = false := by
  cases m with
  | pumpFunInner pool => cases asset <;> rfl
  | _ => rfl

theorem sellHop_exactIn (m : Market) (user : Pubkey) (asset : Option Pubkey) :
    (m.sellHop user asset).format.exactOut = false := by
  cases m with
  | pumpFunInner pool => cases asset <;> rfl
  | _ => rfl

theorem bridgeHop_exactIn (bridge : BridgePool) (user input : Pubkey) :
    (bridge.hop user input).format.exactOut = false := by
  cases bridge <;> rfl

omit [Pda] in
/-- The one leg of a single swap, and whether its input is exact. -/
theorem Single.first {hop : Hop} (hop_exactIn : hop.format.exactOut = false)
    (h : Single user opts hop spend legs minOut) :
    ∃ leg format, legs = [leg] ∧ leg.Encodes user format spend minOut
      ∧ format.exactOut = opts.fixedOutput.isSome := by
  cases h with
  | exactIn hfixed hleg hfloor =>
    refine ⟨_, _, rfl, ⟨_, _, hleg⟩, ?_⟩
    rw [hop_exactIn, hfixed]
    rfl
  | fixedOut hfixed hformat hleg =>
    refine ⟨_, _, rfl, ⟨_, _, hleg⟩, ?_⟩
    rw [LegFormat.fixed_exactOut hformat, hfixed]
    rfl

/-- **The first leg of a buy encodes what the buy spends**, which is at most
what it was given. -/
theorem BuyPlan.first (h : BuyPlan user market opts spend needsBridge legs minOut spent) :
    spent ≤ spend
      ∧ ∃ leg rest format received, legs = leg :: rest ∧ leg.Encodes user format spent received
        ∧ format.exactOut = opts.fixedOutput.isSome := by
  cases h with
  | single hmarket hlegs =>
    obtain ⟨leg, format, rfl, hleg, hexact⟩ := hlegs.first (buyHop_exactIn ..)
    exact ⟨UInt64.le_refl _, leg, [], format, _, rfl, hleg, hexact⟩
  | curve hmarket hfixed hquote hleg =>
    refine ⟨(launchlabBuyQuote_ok hquote).2.1, _, [], _, _, rfl, ⟨_, _, hleg⟩, ?_⟩
    rw [hfixed]
    rfl
  | bridged hmarket hpath hfixed hfirst hmid hsecond hfloor hquoted =>
    refine ⟨UInt64.le_refl _, _, _, _, _, rfl, ⟨_, _, hfirst⟩, ?_⟩
    rw [bridgeHop_exactIn, hfixed]
    rfl
  | bridgedCurve hmarket hpath hfixed hspend hfirst hquote hsecond =>
    obtain ⟨_, _, -, hspent⟩ := hspend.spent
    refine ⟨hspent.spent_le, _, _, _, _, rfl, ⟨_, _, hfirst⟩, ?_⟩
    rw [bridgeHop_exactIn, hfixed]
    rfl

/-- **The first leg of a sale encodes what is sold.** -/
theorem SellPlan.first (h : SellPlan user market opts spend needsBridge legs minOut account) :
    ∃ leg rest format received, legs = leg :: rest ∧ leg.Encodes user format spend received
      ∧ format.exactOut = opts.fixedOutput.isSome := by
  cases h with
  | single hlegs haccount =>
    obtain ⟨leg, format, rfl, hleg, hexact⟩ := hlegs.first (sellHop_exactIn ..)
    exact ⟨leg, [], format, _, rfl, hleg, hexact⟩
  | bridged hpath hfixed hfirst hmid hsecond hfloor hquoted =>
    refine ⟨_, _, _, _, rfl, ⟨_, _, hfirst⟩, ?_⟩
    rw [sellHop_exactIn, hfixed]
    rfl

end Plans

/-! ## The budget -/

/-- What is left of an amount and the program's fee on it make it up. -/
theorem net_add_fee {amount spent : UInt64} {feeBps : UInt16} (hbps : feeBps.toNat ≤ 1000)
    (h : netFloor feeBps.toNat 10000 amount.toNat = spent.toNat) :
    spent.toNat + (feeAmount amount feeBps).toNat = amount.toNat := by
  have hle : amount.toNat * feeBps.toNat / 10000 ≤ amount.toNat :=
    Nat.div_le_of_le_mul (Nat.mul_comm 10000 _ ▸ Nat.mul_le_mul_left _ (by omega))
  rw [feeAmount_toNat (by omega), ← h, netFloor]
  omega

/-- What a fee below the whole leaves, in 64 bits. -/
theorem sub_feeAmount_toNat {amount : UInt64} {feeBps : UInt16} (h : feeBps.toNat ≤ 10000) :
    feeAmount amount feeBps ≤ amount
      ∧ (amount - feeAmount amount feeBps).toNat = netFloor feeBps.toNat 10000 amount.toNat := by
  have hfee : (feeAmount amount feeBps).toNat = amount.toNat * feeBps.toNat / 10000 :=
    feeAmount_toNat h
  have hle : feeAmount amount feeBps ≤ amount := by
    rw [UInt64.le_iff_toNat_le, hfee]
    exact Nat.div_le_of_le_mul (Nat.mul_comm 10000 _ ▸ Nat.mul_le_mul_left _ h)
  exact ⟨hle, by rw [UInt64.toNat_sub_of_le _ _ hle, hfee, netFloor]⟩

/-- The gross-up returns the inverse of the fee, if that fits. -/
theorem routeAmountInForSpend_eq_ok {spend gross : UInt64} {feeBps : UInt16}
    (hspend : spend ≠ 0) (hbps : feeBps < 10000) :
    routeAmountInForSpend spend feeBps = .ok gross
      ↔ gross.toNat = grossFloor feeBps.toNat 10000 spend.toNat := by
  have hrate : ¬ feeBps ≥ 10000 := UInt16.not_le.mpr hbps
  unfold routeAmountInForSpend
  rw [bailIf, failIf, if_neg hrate, ok_bind, if_neg hspend, okOr_eq_ok, U64.tryOf_eq_some,
    grossFloor, if_neg (U64.pos_iff.mp hspend).ne']

/-- It stops with an error of its own. -/
theorem calm_routeAmountInForSpend {spend : UInt64} {feeBps : UInt16} :
    Calm (routeAmountInForSpend spend feeBps) := by
  unfold routeAmountInForSpend
  exact calm_bind calm_failIf fun _ _ => calm_ite calm_ok calm_okOr

/-- **The gross-up of the fee is exact.** For a positive spend and a fee below
the whole, a result leaves the spend after the fee to the unit, every smaller
amount leaves less, and so no amount that leaves the spend or more is
smaller. An error means that no amount leaves the spend. The fee is the one
the program takes. -/
theorem routeAmountInForSpend_exact (spend : UInt64) (feeBps : UInt16) (hspend : 0 < spend)
    (hbps : feeBps < 10000) :
    (∀ g, routeAmountInForSpend spend feeBps = .ok g →
        feeAmount g feeBps ≤ g ∧ g - feeAmount g feeBps = spend
        ∧ (∀ g' < g, feeAmount g' feeBps ≤ g' ∧ g' - feeAmount g' feeBps < spend)
        ∧ ∀ amount, spend ≤ amount - feeAmount amount feeBps → g ≤ amount)
      ∧ ((∃ e, routeAmountInForSpend spend feeBps = .error (.error e)) ↔
        ∀ amount, amount - feeAmount amount feeBps ≠ spend)
      ∧ routeAmountInForSpend spend feeBps ≠ .error .panic
      ∧ ∀ (amount : UInt64) (bps : UInt16), bps ≤ 10000 →
        Program.checkedFee amount bps = .ok (feeAmount amount bps) := by
  have hne : spend ≠ 0 := U64.pos_iff.mpr (UInt64.lt_iff_toNat_lt.mp hspend)
  have hlt : feeBps.toNat < 10000 := UInt16.lt_iff_toNat_lt.mp hbps
  have hnet : ∀ amount, (amount - feeAmount amount feeBps).toNat
      = netFloor feeBps.toNat 10000 amount.toNat :=
    fun amount => (sub_feeAmount_toNat hlt.le).2
  have hgross : ∀ {g : UInt64}, routeAmountInForSpend spend feeBps = .ok g →
      g.toNat = grossFloor feeBps.toNat 10000 spend.toNat :=
    (routeAmountInForSpend_eq_ok hne hbps).mp
  -- What leaves the spend or more is not below the inverse.
  have hleast : ∀ {g amount : UInt64}, routeAmountInForSpend spend feeBps = .ok g →
      (spend ≤ amount - feeAmount amount feeBps ↔ g ≤ amount) := by
    intro g amount hg
    rw [UInt64.le_iff_toNat_le, hnet, UInt64.le_iff_toNat_le, hgross hg]
    exact (netFloor_gc hlt _ _).symm
  have hexact : ∀ {g : UInt64}, routeAmountInForSpend spend feeBps = .ok g →
      g - feeAmount g feeBps = spend := by
    intro g hg
    rw [← UInt64.toNat_inj, hnet, hgross hg, netFloor_grossFloor hlt]
  refine ⟨fun g hg => ⟨(sub_feeAmount_toNat hlt.le).1, hexact hg, fun g' hg' => ?_,
    fun amount => (hleast hg).mp⟩, ⟨?_, ?_⟩, fun h => calm_routeAmountInForSpend _ h rfl, ?_⟩
  · refine ⟨(sub_feeAmount_toNat hlt.le).1, UInt64.not_le.mp fun hle => ?_⟩
    exact absurd ((hleast hg).mp hle) (UInt64.not_le.mpr hg')
  · rintro ⟨e, he⟩ amount hamount
    -- The inverse is at most the amount, so it fits.
    have hle : grossFloor feeBps.toNat 10000 spend.toNat ≤ amount.toNat := by
      rw [netFloor_gc hlt, ← hnet, hamount]
    have hok := (routeAmountInForSpend_eq_ok hne hbps).mpr
      (U64.toNat_ofNat (hle.trans_lt amount.toNat_lt))
    rw [he] at hok
    cases hok
  · intro hnone
    cases hrun : routeAmountInForSpend spend feeBps with
    | ok g => exact absurd (hexact hrun) (hnone g)
    | error e =>
      cases e with
      | panic => exact absurd rfl (calm_routeAmountInForSpend _ hrun)
      | error text => exact ⟨text, rfl⟩
  · exact fun amount bps h => checkedFee_feeAmount (UInt16.le_iff_toNat_le.mp h)

/-- At one percent, 101 units leave 100. -/
theorem routeAmountInForSpend_hundred :
    routeAmountInForSpend 100 100 = .ok 101
      ∧ (101 : UInt64) - feeAmount 101 100 = 100
      ∧ ∀ g' : UInt64, g' < 101 → feeAmount g' 100 ≤ g' ∧ g' - feeAmount g' 100 < 100 := by
  have hrun : routeAmountInForSpend 100 100 = .ok 101 := by decide +kernel
  obtain ⟨-, hspent, hless, -⟩ :=
    (routeAmountInForSpend_exact 100 100 (by decide) (by decide)).1 101 hrun
  exact ⟨hrun, hspent, hless⟩

/-- **A route whose amounts add up**: the exact input of its first leg and
the program's fee make up its input amount, which is not above the
caller's. -/
structure BudgetKept (client : RouterClient) (amountIn : UInt64) (header : BuiltHeader)
    (legs : List Leg) : Prop where
  adds_up : ∃ first rest format spent received fee, legs = first :: rest
    ∧ first.Encodes client.payer format spent received ∧ format.exactOut = false
    ∧ Program.checkedFee header.amountIn client.feeBps = .ok fee
    ∧ spent.toNat + fee.toNat = header.amountIn.toNat
  amountIn_le : header.amountIn ≤ amountIn

/-- A setup that wraps an amount of SOL once, and otherwise only makes
accounts ready. -/
def WrapsOnce [Pda] [Upstream] (payer : Pubkey) (lamports : UInt64)
    (setup : List Instruction) : Prop :=
  ∃ before after, setup = before ++ wrapSolWithOptions payer lamports false ++ after
    ∧ ∀ instruction ∈ before ++ after, Readies instruction

section Setup

variable [Pda] (client : RouterClient) (market : RoutedMarket) (opts : TradeOpts)

omit [Pda] in
theorem TradeSetup.Extends.ite {s a b : TradeSetup} {c : Prop} [Decidable c]
    (ha : s.Extends a) (hb : s.Extends b) : s.Extends (if c then a else b) := by
  split
  · exact ha
  · exact hb

/-- Before its legs are built, a buy's setup only makes accounts ready. -/
theorem buySetup_extends :
    (TradeSetup.mk [] TouchedAtas.default).Extends (client.buySetup market opts) := by
  have hmeme : (TradeSetup.mk [] TouchedAtas.default).Extends
      (((TradeSetup.mk [] TouchedAtas.default).touchMeme market.memeMint
        market.memeTokenProgram).pushCreateAta opts.ata .meme client.payer market.memeMint
        market.memeTokenProgram) :=
    TradeSetup.extends_pushCreateAta
  unfold RouterClient.buySetup
  dsimp only
  refine .ite ?_ hmeme
  exact TradeSetup.Extends.trans hmeme
    (TradeSetup.extends_pushCreateAta (s := TradeSetup.touchWsol _))

/-- The accounts of the fee are made ready. -/
theorem prepareFee_extends (fee : UInt64) (s : TradeSetup) :
    s.Extends (client.prepareFee market opts fee s) := by
  have hwsol : s.Extends (if fee > 0 || opts.ata.createWsol then
      s.push [createAtaIdempotent client.payer client.feeRecipient wsolMint tokenProgram]
      else s) := .ite (TradeSetup.extends_create _) (.refl s)
  unfold RouterClient.prepareFee
  cases opts.buyWith with
  | token mint =>
    have htouch : s.Extends (if mint = wsolMint then s.touchWsol
        else s.touchQuote mint (if mint = wsolMint then tokenProgram
          else market.quoteTokenProgram)) := .ite (.refl s) (.refl s)
    exact TradeSetup.Extends.trans (TradeSetup.Extends.trans htouch
      (.ite (TradeSetup.extends_create _) (.refl _))) TradeSetup.extends_pushCreateAta
  | sol => exact .ite (.refl s) hwsol
  | wsol => exact hwsol

/-- **A buy for SOL wraps the route's amount**, and nothing more. -/
theorem completeBuySetup_wraps [Upstream] {fee routeAmountIn : UInt64} {s : TradeSetup}
    (hbuy : opts.buyWith = .sol) (hnative : market.market.isPumpNativeSol = false)
    (hs : (TradeSetup.mk [] TouchedAtas.default).Extends s) :
    WrapsOnce client.payer routeAmountIn
      (client.completeBuySetup market opts fee routeAmountIn s).setup := by
  obtain ⟨before, hbefore, hreadies⟩ := hs
  obtain ⟨after, hafter, hreadies'⟩ := prepareFee_extends client market opts fee
    (s.push (wrapSolWithOptions client.payer routeAmountIn false))
  refine ⟨before, after, ?_, fun ix hix => ?_⟩
  · rw [RouterClient.completeBuySetup, if_pos ⟨hbuy, hnative⟩, hafter]
    show (s.setup ++ _) ++ _ = _
    rw [hbefore]
    rfl
  · exact (List.mem_append.mp hix).elim (hreadies ix) (hreadies' ix)

end Setup

/-- **The budget identity of the builders.** In a trade without a fixed
output, what the first leg spends and the fee the program takes make up the
header's amount, which is at most the caller's; a buy that wraps SOL wraps
the header's amount. -/
theorem built_budget [Pda] [Upstream] (client : RouterClient) (amountIn : UInt64)
    (market : RoutedMarket) (opts : TradeOpts) (trade : BuiltTrade)
    (hfixed : opts.fixedOutput = none) :
    (client.buyWithOpts amountIn market opts = .ok trade →
      ∃ header legs, trade.route = some (header.route client.programId legs)
        ∧ BudgetKept client amountIn header legs
        ∧ (opts.buyWith = .sol → market.market.isPumpNativeSol = false →
          WrapsOnce client.payer header.amountIn trade.setup))
    ∧ (client.sellWithOpts amountIn market opts = .ok trade →
      ∃ header legs, trade.route = some (header.route client.programId legs)
        ∧ BudgetKept client amountIn header legs) := by
  refine ⟨fun h => ?_, fun h => ?_⟩
  · obtain ⟨_, spend, spent, routeAmountIn, minOut, legs, s, hb⟩ :=
      RouterClient.buyWithOpts_eq_ok h
    obtain ⟨hle, first, rest, format, received, hlegs, hfirst, hexact⟩ := hb.plan.first
    rw [hfixed] at hexact
    obtain ⟨hnet, hamount⟩ := routeAmountInFor_eq_ok hb.feeBps hb.spend_eq hle hb.amount
    refine ⟨_, _, hb.route, ⟨⟨first, rest, format, spent, received,
      feeAmount routeAmountIn client.feeBps, hlegs, hfirst, hexact, ?_, ?_⟩, hamount⟩, ?_⟩
    · exact checkedFee_feeAmount (Nat.le_trans hb.feeBps (by decide))
    · exact net_add_fee hb.feeBps hnet
    · intro hbuy hnative
      rw [hb.setup]
      exact completeBuySetup_wraps client market opts hbuy hnative
        ((buySetup_extends client market opts).trans hb.prepares.keeps)
  · obtain ⟨_, sellAmt, minOut, account, legs, s, hs⟩ := RouterClient.sellWithOpts_eq_ok h
    obtain ⟨first, rest, format, received, hlegs, hfirst, hexact⟩ := hs.plan.first
    rw [hfixed] at hexact
    refine ⟨_, _, hs.route, ⟨⟨first, rest, format, sellAmt, received,
      feeAmount amountIn client.feeBps, hlegs, hfirst, hexact, ?_, ?_⟩, UInt64.le_refl _⟩⟩
    · exact checkedFee_feeAmount (Nat.le_trans hs.feeBps (by decide))
    · exact net_add_fee hs.feeBps hs.spend_eq.symm

theorem exists_ok_of_toBool {α : Type} {r : Result α} (h : r.toBool = true) :
    ∃ a, r = .ok a := by
  cases r with
  | ok a => exact ⟨a, rfl⟩
  | error e => cases h

/-- A buy through a bridge, cut down to what the curve takes. -/
theorem sampleLaunch_budget :
    letI := BuiltSwaps.lastSeedPda
    letI := sampleUpstream
    ∃ trade header legs,
      sampleClient.buyWithOpts 1000 ⟨.launchLabInner sampleLaunch,
        some (.ammV4 sampleBridge)⟩ sampleOpts = .ok trade
      ∧ trade.route = some (header.route sampleClient.programId legs)
      ∧ BudgetKept sampleClient 1000 header legs := by
  let := BuiltSwaps.lastSeedPda
  let := sampleUpstream
  obtain ⟨trade, htrade⟩ : ∃ trade, sampleClient.buyWithOpts 1000
      ⟨.launchLabInner sampleLaunch, some (.ammV4 sampleBridge)⟩ sampleOpts = .ok trade :=
    exists_ok_of_toBool (by decide +kernel)
  obtain ⟨header, legs, hroute, hkept, -⟩ := (built_budget sampleClient 1000 _ sampleOpts
    trade rfl).1 htrade
  exact ⟨trade, header, legs, htrade, hroute, hkept⟩

/-! ## Zero amounts -/

/-- **A route without a zero amount**: the header's is positive, every exact
input is, and of two legs the second takes in what the first is sure to
bring. -/
structure PositiveAmounts (user : Pubkey) (header : BuiltHeader) (legs : List Leg) : Prop where
  header_ne : header.amountIn ≠ 0
  legs_ne : ∀ leg ∈ legs, ∃ format sent received, leg.Encodes user format sent received
    ∧ (format.exactOut = false → sent ≠ 0)
  chained : ∀ first second, legs = [first, second] → ∃ f f' sent mid received,
    first.Encodes user f sent mid ∧ second.Encodes user f' mid received

/-- **The two ways in which a buy has nothing to swap**: a curve that is
bought on directly has nothing left to sell, though it would pay something
out; or the bridge pays nothing, and the market behind it is one that is not
quoted if the caller names a minimum. -/
inductive RoutedMarket.Starves (market : RoutedMarket) (needsBridge : Bool) (spend : UInt64) :
    Prop
  | curve {pool : LaunchLabPool} (hmarket : market.market = .launchLabInner pool)
    (hdirect : needsBridge = false) (hclamped : pool.Clamped 0 spend.toNat)
    (hnone : pool.remaining = 0) : Starves market needsBridge spend
  | bridge {bridge : BridgePool} (hbridge : market.bridge = some bridge)
    (hneeds : needsBridge = true) (hunquoted : market.market.alwaysQuoted = false)
    (hzero : bridgeQuoteOut bridge spend wsolMint = .ok 0) : Starves market needsBridge spend

section Zero

variable [Pda] {user : Pubkey} {market : RoutedMarket} {opts : TradeOpts}
  {needsBridge : Bool} {spend minOut spent : UInt64} {legs : List Leg} {account : Pubkey}

/-- Markets that are always quoted quote no empty input. -/
theorem buyHop_quote_ne_zero {m : Market} (hquoted : m.alwaysQuoted = true)
    {asset : Option Pubkey} {x y : UInt64} (h : (m.buyHop user asset).quote x = .ok y) :
    x ≠ 0 := by
  cases m with
  | launchLabInner pool =>
    obtain ⟨q, hq, -⟩ := bind_eq_ok.mp h
    exact (launchlabBuyQuote_ok hq).1.ne_zero
  | cpmmOuter pool =>
    obtain ⟨-, -, hx, -⟩ := cpmmOut_eq_ok.mp h
    exact hx
  | pumpSwapOuter pool =>
    rintro rfl
    cases h
  | raydiumAmmV4 pool => exact (raydiumAmmV4Out_eq_ok.mp h).2.1
  | _ => cases hquoted

omit [Pda] in
/-- An empty exact input is one too many. -/
theorem PositiveAmounts.encodes_ne {header : BuiltHeader} {leg : Leg} {format : LegFormat}
    {sent received : UInt64} (h : PositiveAmounts user header legs) (hleg : leg ∈ legs)
    (hencodes : leg.Encodes user format sent received) (hexact : format.exactOut = false) :
    sent ≠ 0 := by
  obtain ⟨format', sent', received', hencodes', hne⟩ := h.legs_ne leg hleg
  obtain ⟨rfl, rfl, -⟩ := hencodes.unique hencodes'
  exact hne hexact

omit [Pda] in
/-- One leg that takes a positive amount. -/
theorem PositiveAmounts.one {header : BuiltHeader} {leg : Leg} {format : LegFormat}
    {sent received : UInt64} (hheader : header.amountIn ≠ 0)
    (hleg : leg.Encodes user format sent received) (hsent : sent ≠ 0) :
    PositiveAmounts user header [leg] where
  header_ne := hheader
  legs_ne _ h := by
    rw [List.mem_singleton.mp h]
    exact ⟨format, sent, received, hleg, fun _ => hsent⟩
  chained _ _ h := by cases h

omit [Pda] in
/-- Two legs that take positive amounts, the second what the first is sure
to bring. -/
theorem PositiveAmounts.two {header : BuiltHeader} {first second : Leg} {f f' : LegFormat}
    {sent mid received : UInt64} (hheader : header.amountIn ≠ 0)
    (hfirst : first.Encodes user f sent mid) (hsent : sent ≠ 0)
    (hsecond : second.Encodes user f' mid received) (hmid : mid ≠ 0) :
    PositiveAmounts user header [first, second] where
  header_ne := hheader
  legs_ne leg h := by
    rcases List.mem_pair.mp h with rfl | rfl
    · exact ⟨f, sent, mid, hfirst, fun _ => hsent⟩
    · exact ⟨f', mid, received, hsecond, fun _ => hmid⟩
  chained _ _ h := by
    cases h
    exact ⟨f, f', sent, mid, received, hfirst, hsecond⟩

/-- **A buy that does not starve has no zero amount.** -/
theorem BuyPlan.positive {header : BuiltHeader} (hspend : spend ≠ 0)
    (hheader : spent ≠ 0 → header.amountIn ≠ 0)
    (h : BuyPlan user market opts spend needsBridge legs minOut spent)
    (hfed : ¬ market.Starves needsBridge spend) : PositiveAmounts user header legs := by
  cases h with
  | single hmarket hlegs =>
    obtain ⟨leg, format, rfl, hleg, -⟩ := hlegs.first (buyHop_exactIn ..)
    exact .one (hheader hspend) hleg hspend
  | @curve pool _ q hmarket hfixed hquote hleg =>
    have hne : q.amountIn ≠ 0 := by
      intro hzero
      obtain ⟨hclamped, hnone⟩ := (launchlabBuyQuote_amountIn_eq_zero hquote).mp hzero
      exact hfed (.curve hmarket rfl hclamped hnone)
    exact .one (hheader hne) ⟨_, _, hleg⟩ hne
  | bridged hmarket hpath hfixed hfirst hmid hsecond hfloor hquoted =>
    refine .two (hheader hspend) ⟨_, _, hfirst⟩ hspend ⟨_, _, hsecond⟩ fun hzero => ?_
    cases halways : market.market.alwaysQuoted with
    | true =>
      obtain ⟨e, he⟩ := hquoted halways
      exact buyHop_quote_ne_zero halways he hzero
    | false => exact hfed (.bridge hpath.bridge_eq rfl halways (hzero ▸ hmid))
  | bridgedCurve hmarket hpath hfixed hcurve hfirst hquote hsecond =>
    have hspent : spent ≠ 0 := by
      obtain ⟨provisional, q, -, hcurve⟩ := hcurve.spent
      by_cases hlt : q.amountIn < provisional
      · obtain ⟨-, -, ⟨y, hy, -⟩, -⟩ := hcurve.clamped hlt
        exact bridgeQuoteOut_ne_zero hy
      · rw [hcurve.whole hlt]
        exact hspend
    exact .two (hheader hspent) ⟨_, _, hfirst⟩ hspent ⟨_, _, hsecond⟩
      (launchlabBuyQuote_ok hquote).1.ne_zero

/-- **A buy that starves has a leg with an empty input.** -/
theorem BuyPlan.not_positive {header : BuiltHeader}
    (h : BuyPlan user market opts spend needsBridge legs minOut spent)
    (hstarves : market.Starves needsBridge spend) : ¬ PositiveAmounts user header legs := by
  intro hpositive
  cases hstarves with
  | curve hlaunch hdirect hclamped hnone =>
    subst hdirect
    cases h with
    | single hmarket hlegs => exact hmarket _ hlaunch
    | curve hmarket hfixed hquote hleg =>
      cases hmarket.symm.trans hlaunch
      exact hpositive.encodes_ne (List.mem_singleton_self _) ⟨_, _, hleg⟩ rfl
        ((launchlabBuyQuote_amountIn_eq_zero hquote).mpr ⟨hclamped, hnone⟩)
  | bridge hbridge hneeds hunquoted hzero =>
    subst hneeds
    cases h with
    | bridged hmarket hpath hfixed hfirst hmid hsecond hfloor hquoted =>
      cases hbridge.symm.trans hpath.bridge_eq
      cases hzero.symm.trans hmid
      exact hpositive.encodes_ne (List.mem_pair.mpr (.inr rfl)) ⟨_, _, hsecond⟩
        (buyHop_exactIn ..) rfl
    | bridgedCurve hmarket hpath hfixed hcurve hfirst hquote hsecond =>
      rw [hmarket] at hunquoted
      cases hunquoted

/-- **A sale has no zero amount**: a bridge that is paid nothing quotes
nothing. -/
theorem SellPlan.positive {header : BuiltHeader} (hspend : spend ≠ 0)
    (hheader : header.amountIn ≠ 0)
    (h : SellPlan user market opts spend needsBridge legs minOut account) :
    PositiveAmounts user header legs := by
  cases h with
  | single hlegs haccount =>
    obtain ⟨leg, format, rfl, hleg, -⟩ := hlegs.first (sellHop_exactIn ..)
    exact .one hheader hleg hspend
  | bridged hpath hfixed hfirst hmid hsecond hfloor hquoted =>
    obtain ⟨e, he⟩ := hquoted
    exact .two hheader ⟨_, _, hfirst⟩ hspend ⟨_, _, hsecond⟩ (bridgeQuoteOut_ne_zero he)

end Zero

/-- A route's amount is zero only if its legs spend nothing. -/
theorem routeAmount_ne_zero {spent routeAmountIn : UInt64} {feeBps : UInt16}
    (hnet : netFloor feeBps.toNat 10000 routeAmountIn.toNat = spent.toNat)
    (hne : spent ≠ 0) : routeAmountIn ≠ 0 := by
  rintro rfl
  rw [show (0 : UInt64).toNat = 0 from rfl, netFloor_zero] at hnet
  exact hne (UInt64.toNat_inj.mp hnet.symm)

/-- Whether a path takes the bridge: it trades SOL or WSOL for a market that
has neither. -/
def RoutedMarket.needsBridge (market : RoutedMarket) (token : Option Pubkey) : Bool :=
  token.isNone && market.market.needsSolBridge

theorem PathChecked.needsBridge_eq {market : RoutedMarket} {token : Option Pubkey}
    {needsBridge isBuy : Bool} {opts : TradeOpts}
    (h : PathChecked market token needsBridge isBuy opts) :
    needsBridge = market.needsBridge token := by
  cases token with
  | none => exact h.sol rfl
  | some mint => exact (h.token_eq mint rfl).2

/-- **When a built trade has no zero amount.** A sale never has one. A buy has
none exactly when it does not starve at what the fee leaves of its amount. -/
theorem built_positive [Pda] [Upstream] (client : RouterClient) (amountIn : UInt64)
    (market : RoutedMarket) (opts : TradeOpts) (trade : BuiltTrade) :
    (client.buyWithOpts amountIn market opts = .ok trade →
      ∃ header legs, trade.route = some (header.route client.programId legs)
        ∧ (PositiveAmounts client.payer header legs
          ↔ ¬ market.Starves (market.needsBridge opts.buyWith.payMint)
            (U64.satSub amountIn (feeAmount amountIn client.feeBps))))
    ∧ (client.sellWithOpts amountIn market opts = .ok trade →
      ∃ header legs, trade.route = some (header.route client.programId legs)
        ∧ PositiveAmounts client.payer header legs) := by
  refine ⟨fun h => ?_, fun h => ?_⟩
  · obtain ⟨needsBridge, spend, spent, routeAmountIn, minOut, legs, s, hb⟩ :=
      RouterClient.buyWithOpts_eq_ok h
    obtain ⟨hnet, -⟩ := routeAmountInFor_eq_ok hb.feeBps hb.spend_eq hb.plan.first.1 hb.amount
    rw [← eq_satSub_fee hb.feeBps hb.spend_eq, ← hb.path.needsBridge_eq]
    exact ⟨_, _, hb.route, fun hpositive hstarves => hb.plan.not_positive hstarves hpositive,
      hb.plan.positive hb.spend_ne (routeAmount_ne_zero hnet)⟩
  · obtain ⟨needsBridge, sellAmt, minOut, account, legs, s, hs⟩ :=
      RouterClient.sellWithOpts_eq_ok h
    exact ⟨_, _, hs.route, hs.plan.positive hs.spend_ne hs.amountIn_ne⟩

/-- The buy through the bridge has no zero amount. -/
theorem sampleLaunch_positive :
    letI := BuiltSwaps.lastSeedPda
    letI := sampleUpstream
    ∃ trade header legs,
      sampleClient.buyWithOpts 1000 ⟨.launchLabInner sampleLaunch,
        some (.ammV4 sampleBridge)⟩ sampleOpts = .ok trade
      ∧ trade.route = some (header.route sampleClient.programId legs)
      ∧ PositiveAmounts sampleClient.payer header legs := by
  let := BuiltSwaps.lastSeedPda
  let := sampleUpstream
  obtain ⟨trade, htrade⟩ : ∃ trade, sampleClient.buyWithOpts 1000
      ⟨.launchLabInner sampleLaunch, some (.ammV4 sampleBridge)⟩ sampleOpts = .ok trade :=
    exists_ok_of_toBool (by decide +kernel)
  obtain ⟨header, legs, hroute, hiff⟩ := (built_positive sampleClient 1000 _ sampleOpts
    trade).1 htrade
  refine ⟨trade, header, legs, htrade, hroute, hiff.mpr fun hstarves => ?_⟩
  cases hstarves with
  | curve hmarket hdirect hclamped hnone => exact absurd hdirect (by decide)
  | bridge hbridge hneeds hunquoted hzero => cases hunquoted

/-- The curve once it has sold everything. -/
def sampleSoldOut : LaunchLabPool := { sampleLaunch with realBase := 500 }

/-- The options of a buy with the stock, for at least one unit. -/
def sampleTokenOpts : TradeOpts :=
  { sampleOpts with minOut := some 1, buyWith := .token (sampleKey 11) }

/-- **A curve with nothing left is bought on for nothing.** The builder
returns a route whose amount is zero, which the program rejects. -/
theorem soldOut_zero :
    letI := BuiltSwaps.lastSeedPda
    letI := sampleUpstream
    ∃ trade, sampleClient.buyWithOpts 1000 ⟨.launchLabInner sampleSoldOut, none⟩
        sampleTokenOpts = .ok trade
      ∧ ∀ header legs, trade.route = some (header.route sampleClient.programId legs) →
        header.amountIn = 0 ∧ ¬ PositiveAmounts sampleClient.payer header legs := by
  let := BuiltSwaps.lastSeedPda
  let := sampleUpstream
  have hrun : (sampleClient.buyWithOpts 1000 ⟨.launchLabInner sampleSoldOut, none⟩
      sampleTokenOpts).toOption.map (fun trade => trade.route.map fun route =>
        (Program.readHeader route.data.tail 0).map (·.amountIn)) = some (some (.ok 0)) := by
    decide +kernel
  obtain ⟨trade, htrade⟩ : ∃ trade, sampleClient.buyWithOpts 1000
      ⟨.launchLabInner sampleSoldOut, none⟩ sampleTokenOpts = .ok trade :=
    exists_ok_of_toBool (by decide +kernel)
  refine ⟨trade, htrade, fun header legs hroute => ?_⟩
  rw [htrade] at hrun
  have hread := Option.some.inj hrun
  dsimp only at hread
  rw [hroute] at hread
  have hzero : header.amountIn = 0 := by
    have h := Option.some.inj hread
    dsimp only at h
    rw [BuiltHeader.read] at h
    exact Except.ok.inj h
  exact ⟨hzero, fun hpositive => hpositive.header_ne hzero⟩

end Sdk
