import SolTradeRouter.PlannedTrades
import SolTradeRouter.Rounding
import SolTradeRouter.WireFormat

/-!
# Built trades

What can be said of a trade once it has been built: the header its route
has, the plan its legs follow, and how the amounts of the two are related.
`Bought` and `Sold` collect it. They are the only places in which the two
builders are taken apart; every property of built trades starts from them.

The instruction a leg is can be read off its program and its data, so that
it makes sense to speak of the amounts a leg encodes.
-/

namespace Sdk

open Outcome Bytes Rounding

/-! ## The format of a leg is determined -/

namespace LegFormat

/-- Every format. -/
def all : List LegFormat :=
  SwapKind.all.map swap ++ [launchlabSell, cpmmBaseOut, pumpswapExactOut, ammV4BaseOut,
    dammExactOut, pumpfunBuy, pumpfunSell, pumpfunBuyV2, pumpfunSellV2]

theorem mem_all (format : LegFormat) : format ∈ all := by
  cases format with
  | swap kind => exact List.mem_append_left _ (List.mem_map_of_mem (SwapKind.mem_all kind))
  | _ => decide

/-- The program of an instruction. -/
def programId : LegFormat → Pubkey
  | swap kind => kind.programId
  | launchlabSell => launchlabProgram
  | cpmmBaseOut => raydiumCpmmProgram
  | pumpswapExactOut => pumpswapProgram
  | ammV4BaseOut => raydiumAmmV4Program
  | dammExactOut => meteoraDammV2Program
  | pumpfunBuy | pumpfunSell | pumpfunBuyV2 | pumpfunSellV2 => pumpfunProgram

/-- The first bytes of an instruction. -/
def discriminator : LegFormat → List UInt8
  | swap .launchlabBuy => buyExactInLaunchlab
  | swap .cpmm => cpmmSwapBaseIn
  | swap .pumpswapBuy => pumpswapBuyExactQuoteIn
  | swap .pumpswapSell => Sdk.pumpswapSell
  | swap .ammV4 => [raydiumAmmV4SwapBaseInV2]
  | swap .clmm => clmmSwapV2
  | swap .dlmm => meteoraDlmmSwap2
  | swap .damm => meteoraDammV2Swap2
  | swap .whirlpool => whirlpoolSwapV2
  | launchlabSell => sellExactInLaunchlab
  | cpmmBaseOut => cpmmSwapBaseOut
  | pumpswapExactOut => pumpswapBuy
  | ammV4BaseOut => [raydiumAmmV4SwapBaseOutV2]
  | dammExactOut => meteoraDammV2Swap2
  | pumpfunBuy => pumpfunBuyExactSolIn
  | pumpfunSell => Sdk.pumpfunSell
  | pumpfunBuyV2 => pumpfunBuyExactQuoteInV2
  | pumpfunSellV2 => Sdk.pumpfunSellV2

/-- Whether an instruction fixes its output. -/
def exactOut : LegFormat → Bool
  | cpmmBaseOut | pumpswapExactOut | ammV4BaseOut | dammExactOut => true
  | _ => false

theorem fixed_exactOut {format fixed : LegFormat} (h : format.fixed = some fixed) :
    fixed.exactOut = true := by
  unfold LegFormat.fixed at h
  split at h <;> cases h <;> rfl

theorem range?_one {data : List UInt8} {b : UInt8} (h : data[0]? = some b) :
    range? data 0 1 = some [b] := by
  cases data with
  | nil => cases h
  | cons x data =>
    cases h
    rfl

/-- **What marks a format**: its program, and its first bytes. -/
theorem Marks.starts {format : LegFormat} {program : Pubkey} {data : List UInt8}
    (h : format.Marks program data) :
    program = format.programId
      ∧ range? data 0 format.discriminator.length = some format.discriminator := by
  cases format with
  | swap kind =>
    obtain ⟨hprogram, hshape⟩ := h
    refine ⟨hprogram, ?_⟩
    cases kind with
    | ammV4 => exact range?_one hshape.2
    | launchlabBuy => exact hshape.2.1
    | cpmm => exact hshape.2
    | pumpswapBuy => exact hshape.2.1
    | pumpswapSell => exact hshape.2
    | clmm => exact hshape.2.1
    | dlmm => exact hshape.2.1
    | damm => exact hshape.2.1
    | whirlpool => exact hshape.2.1
  | ammV4BaseOut => exact ⟨h.1, range?_one h.2⟩
  | dammExactOut => exact ⟨h.1, h.2.1⟩
  | _ => exact h

/-- The first bytes tell the formats of a program apart, except for the two
of DAMM v2, which differ in the mode. -/
theorem eq_of_starts : ∀ f ∈ all, ∀ g ∈ all, f.programId = g.programId →
    f.discriminator.length = g.discriminator.length
      ∧ (f.discriminator = g.discriminator → f = g ∨ f = swap .damm ∧ g = dammExactOut
        ∨ f = dammExactOut ∧ g = swap .damm) := by
  decide +kernel

/-- **A leg has one format.** -/
theorem Marks.unique {f g : LegFormat} {program : Pubkey} {data : List UInt8}
    (hf : f.Marks program data) (hg : g.Marks program data) : f = g := by
  obtain ⟨hfprogram, hfstart⟩ := hf.starts
  obtain ⟨hgprogram, hgstart⟩ := hg.starts
  obtain ⟨hlength, hcases⟩ := eq_of_starts f (mem_all f) g (mem_all g)
    (hfprogram.symm.trans hgprogram)
  rw [hlength, hgstart, Option.some.injEq] at hfstart
  have hmode : meteoraDammV2ExactIn ≠ meteoraDammV2ExactOut := by decide
  rcases hcases hfstart.symm with rfl | ⟨rfl, rfl⟩ | ⟨rfl, rfl⟩
  · rfl
  · exact absurd (Option.some.inj (hf.2.2.2.symm.trans hg.2.2)) hmode
  · exact absurd (Option.some.inj (hg.2.2.2.symm.trans hf.2.2)) hmode

end LegFormat

/-! ## The amounts of a leg -/

/-- A leg is a given instruction, with two given amounts. -/
def Leg.Encodes (leg : Leg) (user : Pubkey) (format : LegFormat) (sent received : UInt64) :
    Prop :=
  ∃ source destination, Swaps leg format user source destination sent received

/-- **The amounts of a leg are determined**, and so are the accounts. -/
theorem Swaps.unique {leg : Leg} {f f' : LegFormat} {u u' src src' dst dst' : Pubkey}
    {sent sent' received received' : UInt64} (h : Swaps leg f u src dst sent received)
    (h' : Swaps leg f' u' src' dst' sent' received') :
    f = f' ∧ src = src' ∧ dst = dst' ∧ sent = sent' ∧ received = received' := by
  cases h.marks.unique h'.marks
  have haccount : ∀ {i : ℕ} {k k' : Pubkey} {p : AccountMeta → Bool},
      Lists leg.accounts i k p → Lists leg.accounts i k' p → k = k' := by
    rintro i k k' p ⟨x, hx, rfl, -⟩ ⟨y, hy, rfl, -⟩
    cases hx.symm.trans hy
    rfl
  have hinj : Function.Injective ofUInt64 :=
    Function.LeftInverse.injective toUInt64_ofUInt64
  exact ⟨rfl, haccount h.spends h'.spends, haccount h.receives h'.receives,
    hinj (Option.some.inj (h.sent_eq.symm.trans h'.sent_eq)),
    hinj (Option.some.inj (h.received_eq.symm.trans h'.received_eq))⟩

theorem Leg.Encodes.unique {leg : Leg} {f f' : LegFormat} {u u' : Pubkey}
    {sent sent' received received' : UInt64} (h : leg.Encodes u f sent received)
    (h' : leg.Encodes u' f' sent' received') : f = f' ∧ sent = sent' ∧ received = received' := by
  obtain ⟨_, _, h⟩ := h
  obtain ⟨_, _, h'⟩ := h'
  obtain ⟨hf, -, -, hsent, hreceived⟩ := h.unique h'
  exact ⟨hf, hsent, hreceived⟩

/-! ## The fee -/

theorem feeAmount_toNat {amount : UInt64} {feeBps : UInt16} (h : feeBps.toNat ≤ 10000) :
    (feeAmount amount feeBps).toNat = amount.toNat * feeBps.toNat / 10000 := by
  have hbps : feeBps.toNat < 2 ^ 64 := by omega
  have hle : amount.toNat * feeBps.toNat / 10000 ≤ amount.toNat :=
    Nat.div_le_of_le_mul (Nat.mul_comm 10000 _ ▸ Nat.mul_le_mul_left _ h)
  have hlt := hle.trans_lt amount.toNat_lt
  unfold feeAmount
  rw [U128.satMul_eq amount.toNat_lt hbps, U64.toNat_ofNat (U64.sat_lt _)]
  exact le_antisymm (Nat.min_le_left ..) (U64.le_sat le_rfl hlt)

/-- **The SDK's fee is the program's.** -/
theorem checkedFee_feeAmount {amount : UInt64} {feeBps : UInt16} (h : feeBps.toNat ≤ 10000) :
    Program.checkedFee amount feeBps = .ok (feeAmount amount feeBps) := by
  obtain ⟨fee, hfee, -⟩ : ∃ fee, Program.checkedFee amount feeBps = .ok fee ∧ fee ≤ amount :=
    Program.checkedFee_ok h
  rw [hfee, Except.ok.injEq, ← UInt64.toNat_inj, feeAmount_toNat h,
    Program.checkedFee_eq_ok hfee]

theorem validateRouterFeeBps_eq_ok {feeBps : UInt16} {u : Unit}
    (h : validateRouterFeeBps feeBps = .ok u) : feeBps.toNat ≤ 1000 :=
  UInt16.not_lt.mp (failIf_eq_ok.mp h)

/-- What is left after the fee. -/
theorem spendAfterFee_eq_ok {amountIn spend : UInt64} {feeBps : UInt16}
    (hbps : feeBps.toNat ≤ 1000) (h : spendAfterFee amountIn feeBps = .ok spend) :
    amountIn ≠ 0 ∧ spend ≠ 0
      ∧ spend.toNat = netFloor feeBps.toNat 10000 amountIn.toNat := by
  obtain ⟨_, hamount, h⟩ := bind_eq_ok.mp h
  obtain ⟨_, hspend, h⟩ := bind_eq_ok.mp h
  cases h
  refine ⟨failIf_eq_ok.mp hamount, failIf_eq_ok.mp hspend, ?_⟩
  rw [U64.satSub_toNat, feeAmount_toNat (by omega)]
  rfl

/-- What is left after the fee is computed with a saturating subtraction. -/
theorem eq_satSub_fee {amountIn spend : UInt64} {feeBps : UInt16} (hbps : feeBps.toNat ≤ 1000)
    (h : spend.toNat = netFloor feeBps.toNat 10000 amountIn.toNat) :
    spend = U64.satSub amountIn (feeAmount amountIn feeBps) := by
  rw [← UInt64.toNat_inj, h, U64.satSub_toNat, feeAmount_toNat (Nat.le_trans hbps (by decide))]
  rfl

/-- **The amount of a route leaves what its legs spend**, and is not above
the caller's. -/
theorem routeAmountInFor_eq_ok {amountIn spend spent routeAmountIn : UInt64}
    {feeBps : UInt16} (hbps : feeBps.toNat ≤ 1000)
    (hspend : spend.toNat = netFloor feeBps.toNat 10000 amountIn.toNat)
    (hspent : spent ≤ spend)
    (h : routeAmountInFor amountIn spend spent feeBps = .ok routeAmountIn) :
    netFloor feeBps.toNat 10000 routeAmountIn.toNat = spent.toNat
      ∧ routeAmountIn ≤ amountIn := by
  have hlt : feeBps.toNat < 10000 := by omega
  unfold routeAmountInFor at h
  split at h
  · rename_i heq
    cases h
    exact ⟨by rw [heq, hspend], UInt64.le_refl _⟩
  · have hgross : routeAmountIn.toNat = grossFloor feeBps.toNat 10000 spent.toNat := by
      obtain ⟨_, -, h⟩ := bind_eq_ok.mp h
      rw [grossFloor]
      split at h
      · rename_i hzero
        cases h
        rw [hzero, if_pos (by rfl)]
        rfl
      · rename_i hzero
        rw [okOr_eq_ok, U64.tryOf_eq_some] at h
        rw [if_neg (U64.pos_iff.mp hzero).ne', h]
    rw [hgross, netFloor_grossFloor hlt]
    refine ⟨rfl, ?_⟩
    rw [UInt64.le_iff_toNat_le, hgross, netFloor_gc hlt, ← hspend]
    exact UInt64.le_iff_toNat_le.mp hspent

/-! ## Buys -/

/-- **The header of a route**: all of it but the legs. -/
structure BuiltHeader where
  accounts : RouteAccounts
  amountIn : UInt64
  minAmountOut : UInt64
  feeAsset : UInt8
  exactOut : Bool
  expectedOutputMint : Pubkey

/-- The instruction with a header and legs. -/
def BuiltHeader.route [Pda] (header : BuiltHeader) (programId : Pubkey) (legs : List Leg) :
    Instruction :=
  buildRouteInstructionEx programId header.accounts header.amountIn header.minAmountOut
    header.feeAsset header.exactOut header.expectedOutputMint legs

/-- What the program reads off a route's data. -/
theorem BuiltHeader.read [Pda] (header : BuiltHeader) (programId : Pubkey) (legs : List Leg) :
    Program.readHeader (header.route programId legs).data.tail 0
      = .ok (WireFormat.recoveredHeader header.amountIn header.minAmountOut
        (WireFormat.encodeFeeAsset header.feeAsset header.exactOut)
        (UInt8.ofNat legs.length) header.expectedOutputMint []) := by
  have hread := WireFormat.readHeader_encode header.amountIn header.minAmountOut
    (WireFormat.encodeFeeAsset header.feeAsset header.exactOut) (UInt8.ofNat legs.length)
    header.expectedOutputMint (by simp : ([] : List UInt64).length ≤ 2) (legs.flatMap encodeLeg)
  rw [← hread]
  simp [route, buildRouteInstructionEx, WireFormat.encodeHeader, WireFormat.encodeFeeAsset]

namespace RouterClient

variable [Pda] (client : RouterClient)

/-- The header of a buy. -/
def buyHeader (market : RoutedMarket) (opts : TradeOpts) (amountIn minOut : UInt64) :
    BuiltHeader where
  accounts :=
    { payer := client.payer
      feeDestination := (client.buyFee market opts).feeDestination
      feeSource := (client.buyFee market opts).feeSource
      outputTokenAccount := ata client.payer market.memeMint market.memeTokenProgram
      feeProgram := (client.buyFee market opts).feeProgram
      feeMint := (client.buyFee market opts).feeMint }
  amountIn := amountIn
  minAmountOut := minOut
  feeAsset := (client.buyFee market opts).feeAsset
  exactOut := opts.fixedOutput.isSome
  expectedOutputMint := market.memeMint

/-- The header of a sale that pays an account. -/
def sellHeader (market : RoutedMarket) (opts : TradeOpts) (amountIn minOut : UInt64)
    (account : Pubkey) : BuiltHeader where
  accounts :=
    { payer := client.payer
      feeDestination := ata client.feeRecipient market.memeMint market.memeTokenProgram
      feeSource := ata client.payer market.memeMint market.memeTokenProgram
      outputTokenAccount := (client.sellOutput market opts.sellTo account).2
      feeProgram := tokenFeeProgram market.memeTokenProgram
      feeMint := market.memeMint }
  amountIn := amountIn
  minAmountOut := minOut
  feeAsset := feeAssetToken
  exactOut := opts.fixedOutput.isSome
  expectedOutputMint := (client.sellOutput market opts.sellTo account).1

/-- The setup of a buy once its legs are built: the amount of the route is
wrapped where it is SOL the legs do not take as such, and the accounts of
the fee are made ready. -/
def completeBuySetup [Upstream] (market : RoutedMarket) (opts : TradeOpts)
    (fee routeAmountIn : UInt64) (s : TradeSetup) : TradeSetup :=
  client.prepareFee market opts fee
    (if opts.buyWith = .sol ∧ market.market.isPumpNativeSol = false then
      s.push (wrapSolWithOptions client.payer routeAmountIn false) else s)

/-- **What a buy is, once it is built.** -/
structure Bought [Upstream] (amountIn : UInt64) (market : RoutedMarket) (opts : TradeOpts)
    (trade : BuiltTrade) (needsBridge : Bool) (spend spent routeAmountIn minOut : UInt64)
    (legs : List Leg) (s : TradeSetup) : Prop where
  feeBps : client.feeBps.toNat ≤ 1000
  amountIn_ne : amountIn ≠ 0
  spend_ne : spend ≠ 0
  spend_eq : spend.toNat = netFloor client.feeBps.toNat 10000 amountIn.toNat
  path : PathChecked market opts.buyWith.payMint needsBridge true opts
  programs : validateInnerMarketPrograms market (opts.buyWith ≠ .sol) = .ok ()
  asset : checkPumpBuyAsset market.market opts.buyWith = .ok ()
  plan : BuyPlan client.payer market opts spend needsBridge legs minOut spent
  prepares : Prepares client.payer market opts.ata (client.buySetup market opts) s needsBridge
  floor : opts.minOut = none → minOut ≠ 0
  amount : routeAmountInFor amountIn spend spent client.feeBps = .ok routeAmountIn
  route : trade.route
    = some ((client.buyHeader market opts routeAmountIn minOut).route client.programId legs)
  setup : trade.setup = (client.completeBuySetup market opts
    (feeAmount amountIn client.feeBps) routeAmountIn s).setup

/-- **What a sale is, once it is built.** -/
structure Sold (amountIn : UInt64) (market : RoutedMarket) (opts : TradeOpts)
    (trade : BuiltTrade) (needsBridge : Bool) (sellAmt minOut : UInt64) (account : Pubkey)
    (legs : List Leg) (s : TradeSetup) : Prop where
  feeBps : client.feeBps.toNat ≤ 1000
  amountIn_ne : amountIn ≠ 0
  spend_ne : sellAmt ≠ 0
  spend_eq : sellAmt.toNat = netFloor client.feeBps.toNat 10000 amountIn.toNat
  path : PathChecked market opts.sellTo.receiveMint needsBridge false opts
  programs : validateInnerMarketPrograms market (opts.sellTo ≠ .sol) = .ok ()
  asset : checkPumpSellAsset market.market opts.sellTo = .ok ()
  plan : SellPlan client.payer market opts sellAmt needsBridge legs minOut account
  prepares : Prepares client.payer market opts.ata
    (client.sellSetup market opts (feeAmount amountIn client.feeBps)) s needsBridge
  floor : opts.minOut = none → minOut ≠ 0
  route : trade.route = some ((client.sellHeader market opts amountIn minOut account).route
    client.programId legs)
  setup : trade.setup = s.setup

variable {client} [Upstream] {amountIn : UInt64} {market : RoutedMarket} {opts : TradeOpts}
  {trade : BuiltTrade}

/-- **Every buy follows a plan**, for the legs its builder returns. -/
theorem buyWithOpts_built (h : client.buyWithOpts amountIn market opts = .ok trade) :
    ∃ needsBridge spend routeAmountIn built,
      client.buildBuyLegs spend market opts (client.buySetup market opts) = .ok built
        ∧ client.Bought amountIn market opts trade needsBridge spend built.spent routeAmountIn
          built.minOut built.legs built.setup := by
  obtain ⟨_, hbps, h⟩ := bind_eq_ok.mp h
  obtain ⟨_, -, h⟩ := bind_eq_ok.mp h
  obtain ⟨_, hprograms, h⟩ := bind_eq_ok.mp h
  obtain ⟨spend, hspend, h⟩ := bind_eq_ok.mp h
  obtain ⟨needsBridge, hneeds, h⟩ := bind_eq_ok.mp h
  obtain ⟨_, hcheck, h⟩ := bind_eq_ok.mp h
  obtain ⟨_, hasset, h⟩ := bind_eq_ok.mp h
  obtain ⟨built, hbuilt, h⟩ := bind_eq_ok.mp h
  obtain ⟨_, hfloor, h⟩ := bind_eq_ok.mp h
  obtain ⟨routeAmountIn, hamount, h⟩ := bind_eq_ok.mp h
  cases h
  have hfee := validateRouterFeeBps_eq_ok hbps
  obtain ⟨hamountIn, hspendNe, hspendEq⟩ := spendAfterFee_eq_ok hfee hspend
  have hpath := pathChecked hneeds hcheck
  obtain ⟨hplan, hprepares⟩ := buildBuyLegs_plan hpath hbuilt
  exact ⟨needsBridge, spend, routeAmountIn, built, hbuilt,
    { feeBps := hfee
      amountIn_ne := hamountIn
      spend_ne := hspendNe
      spend_eq := hspendEq
      path := hpath
      programs := hprograms
      asset := hasset
      plan := hplan
      prepares := hprepares
      floor := fun hmin hzero => failIf_eq_ok.mp hfloor ⟨hmin, hzero⟩
      amount := hamount
      route := rfl
      setup := rfl }⟩

theorem buyWithOpts_eq_ok (h : client.buyWithOpts amountIn market opts = .ok trade) :
    ∃ needsBridge spend spent routeAmountIn minOut legs s, client.Bought amountIn market opts
      trade needsBridge spend spent routeAmountIn minOut legs s := by
  obtain ⟨needsBridge, spend, routeAmountIn, built, -, hb⟩ := buyWithOpts_built h
  exact ⟨_, _, _, _, _, _, _, hb⟩

omit [Pda] [Upstream] in
/-- A curve that settles in the user's WSOL account lists WSOL's program. -/
theorem validateInnerMarketPrograms_pumpFun {pool : PumpFunPool}
    (hmarket : market.market = .pumpFunInner pool) (hnative : pool.isNativeSolQuote = true)
    (h : validateInnerMarketPrograms market true = .ok ()) :
    pool.quoteTokenProgram = tokenProgram := by
  unfold validateInnerMarketPrograms at h
  rw [hmarket] at h
  obtain ⟨_, -, h⟩ := bind_eq_ok.mp h
  rw [if_pos (by rw [hnative]; rfl)] at h
  obtain ⟨_, -, h⟩ := bind_eq_ok.mp h
  exact not_not.mp fun hne => failIf_eq_ok.mp h ⟨hnative, hne⟩

/-- **Every sale follows a plan**, for the legs its builder returns. -/
theorem sellWithOpts_built (h : client.sellWithOpts amountIn market opts = .ok trade) :
    ∃ needsBridge sellAmt built,
      client.buildSellLegs sellAmt market opts (client.sellSetup market opts
          (feeAmount amountIn client.feeBps)) = .ok built
        ∧ client.Sold amountIn market opts trade needsBridge sellAmt built.minOut built.outputAta
          built.legs built.setup := by
  obtain ⟨_, hbps, h⟩ := bind_eq_ok.mp h
  obtain ⟨_, -, h⟩ := bind_eq_ok.mp h
  obtain ⟨_, hprograms, h⟩ := bind_eq_ok.mp h
  obtain ⟨sellAmt, hspend, h⟩ := bind_eq_ok.mp h
  obtain ⟨needsBridge, hneeds, h⟩ := bind_eq_ok.mp h
  obtain ⟨_, hcheck, h⟩ := bind_eq_ok.mp h
  obtain ⟨_, hasset, h⟩ := bind_eq_ok.mp h
  obtain ⟨built, hbuilt, h⟩ := bind_eq_ok.mp h
  obtain ⟨_, hfloor, h⟩ := bind_eq_ok.mp h
  cases h
  have hfee := validateRouterFeeBps_eq_ok hbps
  obtain ⟨hamountIn, hspendNe, hspendEq⟩ := spendAfterFee_eq_ok hfee hspend
  have hpath := pathChecked hneeds hcheck
  have hprogram : ∀ pool, market.market = .pumpFunInner pool → pool.isNativeSolQuote = true →
      opts.sellTo = .wsol → pool.quoteTokenProgram = tokenProgram := by
    intro pool hmarket hnative hsell
    rw [hsell] at hprograms
    exact validateInnerMarketPrograms_pumpFun hmarket hnative hprograms
  obtain ⟨hplan, hprepares⟩ := buildSellLegs_plan hprogram hpath hbuilt
  exact ⟨needsBridge, sellAmt, built, hbuilt,
    { feeBps := hfee
      amountIn_ne := hamountIn
      spend_ne := hspendNe
      spend_eq := hspendEq
      path := hpath
      programs := hprograms
      asset := hasset
      plan := hplan
      prepares := hprepares
      floor := fun hmin hzero => failIf_eq_ok.mp hfloor ⟨hmin, hzero⟩
      route := rfl
      setup := rfl }⟩

theorem sellWithOpts_eq_ok (h : client.sellWithOpts amountIn market opts = .ok trade) :
    ∃ needsBridge sellAmt minOut account legs s, client.Sold amountIn market opts trade
      needsBridge sellAmt minOut account legs s := by
  obtain ⟨needsBridge, sellAmt, built, -, hs⟩ := sellWithOpts_built h
  exact ⟨_, _, _, _, _, _, hs⟩

end RouterClient

end Sdk
