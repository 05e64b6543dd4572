import SolTradeRouter.HopLegs

/-!
# What a trade is made of

A plan says which legs a trade has, in terms of the hops of its market and
of its bridge: one hop, or one hop on the bridge and one on the market.
Two hops meet in the middle, where the second takes in what the first is
sure to bring, which is the first hop's quote of what it sends.

A buy on a LaunchLab curve may spend less than it is given. With a bridge
in front, the first hop is then cut down to what the curve takes.

`buildBuyLegs` and `buildSellLegs` yield legs of a plan. Everything further
on is read off the plan.
-/

namespace Sdk

open Outcome Bytes

/-! ## Paths -/

/-- **What the checks of a path say**: a token is the market's quote, a
fixed output is supported, and a bridge that is needed is there and has the
market's token program for the quote. -/
structure PathChecked (market : RoutedMarket) (token : Option Pubkey)
    (needsBridge isBuy : Bool) (opts : TradeOpts) : Prop where
  token_ne : ∀ mint, token = some mint → mint ≠ market.memeMint
  token_eq : ∀ mint, token = some mint → mint = market.quoteMint ∧ needsBridge = false
  sol : token = none → needsBridge = market.market.needsSolBridge
  fixed : ∀ target, opts.fixedOutput = some target →
    0 < target.toNat ∧ (∀ minimum, opts.minOut = some minimum → minimum ≤ target)
      ∧ needsBridge = false ∧ market.market.supportsFixedOutput isBuy = true
  bridge : needsBridge = true → ∃ bridge, market.bridge = some bridge
    ∧ bridge.programFor market.quoteMint = market.quoteTokenProgram

/-- No fixed output where none is supported. -/
theorem PathChecked.fixed_none {market : RoutedMarket} {token : Option Pubkey}
    {needsBridge isBuy : Bool} {opts : TradeOpts}
    (h : PathChecked market token needsBridge isBuy opts)
    (hunsupported : needsBridge = true ∨ market.market.supportsFixedOutput isBuy = false) :
    opts.fixedOutput = none := by
  cases hfixed : opts.fixedOutput with
  | none => rfl
  | some target =>
    obtain ⟨-, -, hdirect, hsupported⟩ := h.fixed target hfixed
    rw [hdirect, hsupported] at hunsupported
    exact absurd hunsupported (by simp)

/-- A fixed output that was accepted is positive, at least the minimum, and one
the path supports. -/
theorem validateFixedOutput_eq_ok {opts : TradeOpts} {supported : Bool} {u : Unit}
    (h : opts.validateFixedOutput supported = .ok u) {target : UInt64}
    (htarget : opts.fixedOutput = some target) :
    0 < target.toNat ∧ (∀ minimum, opts.minOut = some minimum → minimum ≤ target)
      ∧ supported = true := by
  unfold TradeOpts.validateFixedOutput at h
  rw [htarget] at h
  obtain ⟨_, hpos, h⟩ := bind_eq_ok.mp h
  obtain ⟨_, hmin, h⟩ := bind_eq_ok.mp h
  refine ⟨U64.pos_iff.mp (failIf_eq_ok.mp hpos), ?_, ?_⟩
  · intro minimum hminimum
    have hnot := failIf_eq_ok.mp hmin
    rw [hminimum] at hnot
    simpa using hnot
  · simpa using failIf_eq_ok.mp h

/-- A path that was checked is what the plan asks of it. -/
theorem pathChecked {market : RoutedMarket} {token : Option Pubkey} {option missing : String}
    {needsBridge isBuy : Bool} {opts : TradeOpts} {u : Unit}
    (hneeds : market.pathNeedsBridge token option = .ok needsBridge)
    (hcheck : market.checkPath needsBridge isBuy opts missing = .ok u) :
    PathChecked market token needsBridge isBuy opts := by
  obtain ⟨_, hfixed, h⟩ := bind_eq_ok.mp hcheck
  obtain ⟨_, hmissing, hprogram⟩ := bind_eq_ok.mp h
  have htoken : ∀ mint, token = some mint →
      mint ≠ market.memeMint ∧ mint = market.quoteMint ∧ needsBridge = false := by
    rintro mint rfl
    obtain ⟨_, hmeme, h⟩ := bind_eq_ok.mp hneeds
    obtain ⟨_, hquote, h⟩ := bind_eq_ok.mp h
    exact ⟨failIf_eq_ok.mp hmeme, not_not.mp (failIf_eq_ok.mp hquote), (pure_eq_ok.mp h).symm⟩
  refine {
    token_ne := fun mint hmint => (htoken mint hmint).1
    token_eq := fun mint hmint => (htoken mint hmint).2
    sol := ?_
    fixed := ?_
    bridge := ?_ }
  · rintro rfl
    cases hneeds
    rfl
  · intro target htarget
    obtain ⟨hpos, hmin, hsupported⟩ := validateFixedOutput_eq_ok hfixed htarget
    rw [Bool.and_eq_true, Bool.not_eq_true'] at hsupported
    exact ⟨hpos, hmin, hsupported⟩
  · rintro rfl
    have hbridge := failIf_eq_ok.mp hmissing
    cases hb : market.bridge with
    | none => exact absurd ⟨rfl, by rw [hb]; rfl⟩ hbridge
    | some bridge => exact ⟨bridge, rfl, validateBridgeQuoteProgram_eq_ok hb hprogram⟩

/-- **A market bridged to SOL**: the bridge connects WSOL with the market's
quote, under the market's token program. -/
structure RoutedMarket.Bridged (market : RoutedMarket) (bridge : BridgePool) : Prop where
  needs : market.market.needsSolBridge = true
  bridge_eq : market.bridge = some bridge
  connects : bridge.otherMint wsolMint = some market.quoteMint
  quoteProgram : bridge.programFor market.quoteMint = market.quoteTokenProgram
  wsolProgram : bridge.programFor wsolMint = tokenProgram

/-- The market's mints are those of its pool, unless the pool is a CPMM
pool. -/
theorem RoutedMarket.quote_eq {market : RoutedMarket}
    (h : ∀ pool, market.market ≠ .cpmmOuter pool) :
    market.quoteMint = market.market.quoteMint
      ∧ market.quoteTokenProgram = market.market.quoteTokenProgram := by
  obtain ⟨m, bridge⟩ := market
  cases m with
  | cpmmOuter pool => exact absurd rfl (h pool)
  | _ => exact ⟨rfl, rfl⟩

/-- The mint a builder resolves is the one the market has resolved. -/
theorem resolveSharedMint_eq_ok {pool : CpmmPool} {bridge : BridgePool} {stock : Pubkey}
    (h : resolveSharedMint pool bridge = .ok stock) :
    sharedMintWithBridge pool bridge = some stock
      ∧ (stock = pool.quoteMint ∨ stock = pool.baseMint) := by
  have hboth : ∀ {A B : Prop} [Decidable A] [Decidable B] {text : String},
      (if A then .ok pool.quoteMint else if B then .ok pool.baseMint else bail text :
        Result Pubkey) = .ok stock →
      (if A then some pool.quoteMint else if B then some pool.baseMint else none) = some stock
        ∧ (stock = pool.quoteMint ∨ stock = pool.baseMint) := by
    intro A B _ _ text h
    by_cases hA : A
    · rw [if_pos hA] at h ⊢
      cases h
      exact ⟨rfl, .inl rfl⟩
    · rw [if_neg hA] at h ⊢
      by_cases hB : B
      · rw [if_pos hB] at h ⊢
        cases h
        exact ⟨rfl, .inr rfl⟩
      · rw [if_neg hB] at h
        cases h
  cases bridge with
  | cpmm p => exact hboth h
  | ammV4 p => exact hboth h

/-- So is its meme, and the meme's token program. -/
theorem RoutedMarket.meme_eq {market : RoutedMarket}
    (h : ∀ pool, market.market ≠ .cpmmOuter pool) :
    market.memeMint = market.market.baseMint
      ∧ market.memeTokenProgram = market.market.baseTokenProgram := by
  obtain ⟨m, bridge⟩ := market
  cases m with
  | cpmmOuter pool => exact absurd rfl (h pool)
  | _ => exact ⟨rfl, rfl⟩

/-- **The mints of a bridged CPMM pool**: the quote is the mint it shares
with the bridge. -/
theorem RoutedMarket.cpmm_bridged {market : RoutedMarket} {pool : CpmmPool}
    {bridge : BridgePool} {stock : Pubkey} (hmarket : market.market = .cpmmOuter pool)
    (hbridge : market.bridge = some bridge) (hneeds : market.market.needsSolBridge = true)
    (h : resolveSharedMint pool bridge = .ok stock) :
    market.memeMint = otherMint pool stock ∧ market.quoteMint = stock
      ∧ market.memeTokenProgram = tokenProgramFor pool (otherMint pool stock)
      ∧ market.quoteTokenProgram = tokenProgramFor pool stock := by
  obtain ⟨m, b⟩ := market
  cases hmarket
  cases hbridge
  obtain ⟨hshared, hstock⟩ := resolveSharedMint_eq_ok h
  have hmeme : RoutedMarket.memeMint ⟨.cpmmOuter pool, some bridge⟩ = otherMint pool stock := by
    unfold RoutedMarket.memeMint
    dsimp only
    rw [if_pos hneeds, hshared]
    show (pool.otherMint stock).getD pool.memeMint = _
    unfold CpmmPool.otherMint otherMint
    grind
  have hquote : RoutedMarket.quoteMint ⟨.cpmmOuter pool, some bridge⟩ = stock := by
    show (pool.otherMint (RoutedMarket.memeMint _)).getD pool.payMint = stock
    rw [hmeme]
    unfold CpmmPool.otherMint otherMint
    grind
  refine ⟨hmeme, hquote, ?_, ?_⟩
  · show (pool.tokenProgramFor (RoutedMarket.memeMint _)).getD _ = _
    rw [hmeme]
    unfold CpmmPool.tokenProgramFor tokenProgramFor otherMint
    grind
  · show (pool.tokenProgramFor (RoutedMarket.quoteMint _)).getD _ = _
    rw [hquote]
    unfold CpmmPool.tokenProgramFor tokenProgramFor
    grind

/-! ## Plans -/

/-- **What a bridged buy on a curve spends, and what the curve takes**: the
whole amount, unless the curve would not take all it is quoted. -/
inductive CurveSpend (bridge : BridgePool) (pool : LaunchLabPool) (spend : UInt64) :
    UInt64 → UInt64 → Prop
  | whole {provisional : UInt64} {q : LaunchLabBuyQuote}
    (hbridge : bridgeQuoteOut bridge spend wsolMint = .ok provisional)
    (hquote : launchlabBuyQuote pool provisional 0 = .ok q)
    (htakes : ¬ q.amountIn < provisional) : CurveSpend bridge pool spend spend q.amountIn
  | clamped {provisional stockOut wsol : UInt64} {q₀ q : LaunchLabBuyQuote}
    (hbridge : bridgeQuoteOut bridge spend wsolMint = .ok provisional)
    (hquote : launchlabBuyQuote pool provisional 0 = .ok q₀)
    (hclamped : q₀.amountIn < provisional)
    (hinverse : bridgeInForOut bridge q₀.amountIn wsolMint = .ok wsol)
    (hstock : bridgeQuoteOut bridge wsol wsolMint = .ok stockOut)
    (hagain : launchlabBuyQuote pool (min stockOut q₀.amountIn) 0 = .ok q) :
    CurveSpend bridge pool spend wsol q.amountIn

/-- **What was shrunk to the curve is one or the other**, by the branch it took.
-/
theorem shrinkToCurve_eq_ok {bridge : BridgePool} {pool : LaunchLabPool}
    {spend provisional wsolSpent : UInt64} {q₀ q : LaunchLabBuyQuote}
    (hbridge : bridgeQuoteOut bridge spend wsolMint = .ok provisional)
    (hquote : launchlabBuyQuote pool provisional 0 = .ok q₀)
    (h : RouterClient.shrinkToCurve spend pool bridge provisional q₀ = .ok (wsolSpent, q)) :
    CurveSpend bridge pool spend wsolSpent q.amountIn := by
  unfold RouterClient.shrinkToCurve at h
  split at h
  · rename_i hclamped
    obtain ⟨wsol, hwsol, h⟩ := bind_eq_ok.mp h
    obtain ⟨stockOut, hstockOut, h⟩ := bind_eq_ok.mp h
    obtain ⟨q', hq', h⟩ := bind_eq_ok.mp h
    cases h
    exact .clamped hbridge hquote hclamped hwsol hstockOut hq'
  · rename_i htakes
    cases h
    exact .whole hbridge hquote htakes

section Plans

variable [Pda]

/-- **The legs of a buy**, with or without the bridge, with the minimum of the
last and what the first spends. -/
inductive BuyPlan (user : Pubkey) (market : RoutedMarket) (opts : TradeOpts)
    (spend : UInt64) : Bool → List Leg → UInt64 → UInt64 → Prop
  | single {legs : List Leg} {minOut : UInt64}
    (hmarket : ∀ pool, market.market ≠ .launchLabInner pool)
    (hlegs : Single user opts (market.market.buyHop user (market.payAsset opts.buyWith)) spend
      legs minOut) :
    BuyPlan user market opts spend false legs minOut spend
  | curve {pool : LaunchLabPool} {leg : Leg} {q : LaunchLabBuyQuote}
    (hmarket : market.market = .launchLabInner pool) (hfixed : opts.fixedOutput = none)
    (hquote : launchlabBuyQuote pool spend 0 = .ok q)
    (hleg : (pool.buyHop user).Trades user leg q.amountIn (opts.floor q.amountOut)) :
    BuyPlan user market opts spend false [leg] (opts.floor q.amountOut) q.amountIn
  | bridged {bridge : BridgePool} {first second : Leg} {mid minOut : UInt64}
    (hmarket : ∀ pool, market.market ≠ .launchLabInner pool)
    (hpath : market.Bridged bridge) (hfixed : opts.fixedOutput = none)
    (hfirst : (bridge.hop user wsolMint).Trades user first spend mid)
    (hmid : bridgeQuoteOut bridge spend wsolMint = .ok mid)
    (hsecond : (market.market.buyHop user (some market.quoteMint)).Trades user second mid
      minOut)
    (hfloor : opts.Floor ((market.market.buyHop user (some market.quoteMint)).quote mid)
      minOut)
    (hquoted : market.market.alwaysQuoted = true →
      ∃ e, (market.market.buyHop user (some market.quoteMint)).quote mid = .ok e) :
    BuyPlan user market opts spend true [first, second] minOut spend
  | bridgedCurve {bridge : BridgePool} {pool : LaunchLabPool} {first second : Leg}
    {wsolSpent mid : UInt64} {q : LaunchLabBuyQuote}
    (hmarket : market.market = .launchLabInner pool) (hpath : market.Bridged bridge)
    (hfixed : opts.fixedOutput = none) (hspend : CurveSpend bridge pool spend wsolSpent mid)
    (hfirst : (bridge.hop user wsolMint).Trades user first wsolSpent mid)
    (hquote : launchlabBuyQuote pool mid 0 = .ok q)
    (hsecond : (pool.buyHop user).Trades user second mid (opts.floor q.amountOut)) :
    BuyPlan user market opts spend true [first, second] (opts.floor q.amountOut) wsolSpent

/-- The user's account for an asset of a market, by its mint alone. -/
def Market.receiveSide (market : Market) (user : Pubkey) (asset : Option Pubkey) : Side :=
  let output := asset.getD wsolMint
  match market with
  | .launchLabInner pool => .ofAta user pool.quoteMint pool.quoteTokenProgram
  | .cpmmOuter pool => pool.side user output
  | .pumpFunInner pool => (pool.sellHop user asset.isNone).output
  | .pumpSwapOuter pool => .ofAta user pool.quoteMint pool.quoteTokenProgram
  | .raydiumAmmV4 pool => .ofAta user output (pool.pair.inputProgram output)
  | .meteoraDammV2 pool => .ofAta user output (pool.pair.inputProgram output)
  | .raydiumClmm pool => .ofAta user output (pool.pair.inputProgram output)
  | .whirlpool pool => .ofAta user output (pool.pair.inputProgram output)
  | .meteoraDlmm pool => .ofAta user output (pool.pair.inputProgram output)

/-- **The legs of a sale**, with or without the bridge, with the minimum of
the last and the account it pays. The account of a sale for lamports is not used. -/
inductive SellPlan (user : Pubkey) (market : RoutedMarket) (opts : TradeOpts)
    (sellAmt : UInt64) : Bool → List Leg → UInt64 → Pubkey → Prop
  | single {legs : List Leg} {minOut : UInt64} {account : Pubkey}
    (hlegs : Single user opts (market.market.sellHop user (market.receiveAsset opts.sellTo))
      sellAmt legs minOut)
    (haccount : market.receiveAsset opts.sellTo ≠ none →
      account = (market.market.receiveSide user (market.receiveAsset opts.sellTo)).account) :
    SellPlan user market opts sellAmt false legs minOut account
  | bridged {bridge : BridgePool} {first second : Leg} {mid minOut : UInt64}
    (hpath : market.Bridged bridge) (hfixed : opts.fixedOutput = none)
    (hfirst : (market.market.sellHop user (some market.quoteMint)).Trades user first sellAmt
      mid)
    (hmid : (market.market.sellHop user (some market.quoteMint)).quote sellAmt = .ok mid)
    (hsecond : (bridge.hop user market.quoteMint).Trades user second mid minOut)
    (hfloor : opts.Floor (bridgeQuoteOut bridge mid market.quoteMint) minOut)
    (hquoted : ∃ e, bridgeQuoteOut bridge mid market.quoteMint = .ok e) :
    SellPlan user market opts sellAmt true [first, second] minOut
      (ata user wsolMint tokenProgram)

/-! ## Setup -/

/-- An instruction that makes an account ready, of the user's tokens or of
PumpFun. No such instruction moves SOL into a token account. -/
def Readies (instruction : Instruction) : Prop :=
  instruction.programId = associatedTokenProgram ∨ instruction.programId = pumpfunProgram
    ∨ instruction.data = [tagPreparePumpfun]

/-- A setup keeps the instructions of an earlier one, and makes more accounts
ready. -/
def TradeSetup.Extends (s s' : TradeSetup) : Prop :=
  ∃ added, s'.setup = s.setup ++ added ∧ ∀ instruction ∈ added, Readies instruction

namespace TradeSetup

variable {s : TradeSetup} {policy : AtaPolicy} {kind : AtaKind} {payer mint program : Pubkey}

omit [Pda] in
/-- A setup extends itself. -/
theorem Extends.refl (s : TradeSetup) : s.Extends s :=
  ⟨[], (List.append_nil _).symm, fun _ h => absurd h List.not_mem_nil⟩

omit [Pda] in
/-- And extends what it was extended from. -/
theorem Extends.trans {s' s'' : TradeSetup} (h : s.Extends s') (h' : s'.Extends s'') :
    s.Extends s'' := by
  obtain ⟨added, hadded, hreadies⟩ := h
  obtain ⟨added', hadded', hreadies'⟩ := h'
  refine ⟨added ++ added', by rw [hadded', hadded, List.append_assoc], fun ix hix => ?_⟩
  exact (List.mem_append.mp hix).elim (hreadies ix) (hreadies' ix)

omit [Pda] in
/-- No instruction is lost. -/
theorem Extends.subset {s' : TradeSetup} (h : s.Extends s') : s.setup ⊆ s'.setup := by
  obtain ⟨added, hadded, -⟩ := h
  rw [hadded]
  exact List.subset_append_left _ _

omit [Pda] in
/-- What is pushed makes accounts ready. -/
theorem extends_push {instructions : List Instruction}
    (h : ∀ instruction ∈ instructions, Readies instruction) : s.Extends (s.push instructions) :=
  ⟨instructions, rfl, h⟩

/-- Creating an account makes it ready, whoever owns it. -/
theorem extends_create (owner : Pubkey) :
    s.Extends (s.push [createAtaIdempotent payer owner mint program]) :=
  extends_push fun _ h => .inl (by rw [List.mem_singleton.mp h]; rfl)

/-- So does an account the policy may have created. -/
theorem extends_pushCreateAta : s.Extends (s.pushCreateAta policy kind payer mint program) := by
  unfold pushCreateAta
  split
  · exact extends_create payer
  · exact .refl s

/-- Which is created if the policy does. -/
theorem mem_pushCreateAta (h : policy.allows kind = true) :
    createAtaIdempotent payer payer mint program
      ∈ (s.pushCreateAta policy kind payer mint program).setup := by
  unfold pushCreateAta
  rw [if_pos h]
  exact List.mem_append_right _ (List.mem_singleton_self _)

/-- And one that is put to use. -/
theorem extends_useAta : s.Extends (s.useAta policy payer mint program) := by
  unfold useAta
  split
  · exact extends_pushCreateAta (s := s.touchWsol)
  · exact extends_pushCreateAta (s := s.touchQuote mint program)

/-- Which is created if the policy does, whatever its mint. -/
theorem mem_useAta (hwsol : policy.createWsol = true) (hquote : policy.createQuote = true) :
    createAtaIdempotent payer payer mint program
      ∈ (s.useAta policy payer mint program).setup := by
  unfold useAta
  split
  · exact mem_pushCreateAta hwsol
  · exact mem_pushCreateAta hquote

end TradeSetup

/-- What the building of legs does to the setup: it keeps what is there, and
creates the account between two legs if the policy allows. -/
structure Prepares (user : Pubkey) (market : RoutedMarket) (policy : AtaPolicy)
    (s s' : TradeSetup) (needsBridge : Bool) : Prop where
  keeps : s.Extends s'
  creates : needsBridge = true → policy.createWsol = true → policy.createQuote = true →
    createAtaIdempotent user user market.quoteMint market.quoteTokenProgram ∈ s'.setup

/-! ## Bridged trades follow a plan -/

section BridgedPlans

variable {client : RouterClient} {market : RoutedMarket} {opts : TradeOpts}
  {bridge : BridgePool} {amount : UInt64} {s : TradeSetup}

/-- A market is bridged if its bridge connects WSOL with its quote, and a
leg on the bridge was built. -/
theorem RoutedMarket.bridged_of_leg {input output source destination : Pubkey}
    {sent received : UInt64} {leg : Leg} {user : Pubkey}
    (hneeds : market.market.needsSolBridge = true) (hbridge : market.bridge = some bridge)
    (hprogram : bridge.programFor market.quoteMint = market.quoteTokenProgram)
    (hconnects : bridge.otherMint wsolMint = some market.quoteMint)
    (hother : bridge.otherMint input = some output)
    (hwsol : input = wsolMint ∨ output = wsolMint)
    (hleg : bridgeSwapLeg user bridge sent received input output source destination
      = .ok leg) : market.Bridged bridge where
  needs := hneeds
  bridge_eq := hbridge
  connects := hconnects
  quoteProgram := hprogram
  wsolProgram := bridgeSwapLeg_wsolProgram hother hleg hwsol

/-- **A buy over a bridge is planned**: the bridge's hop to the quote, and the
market's with what that brings. -/
theorem buyViaBridgeMainstream_plan [Upstream] {built : BuyLegs}
    (hneeds : market.market.needsSolBridge = true) (hbridge : market.bridge = some bridge)
    (hprogram : bridge.programFor market.quoteMint = market.quoteTokenProgram)
    (hfixed : opts.fixedOutput = none)
    (h : client.buyViaBridgeMainstream amount market.market bridge opts s = .ok built) :
    BuyPlan client.payer market opts amount true built.legs built.minOut built.spent
      ∧ Prepares client.payer market opts.ata s built.setup true := by
  obtain ⟨_, hconnects, h⟩ := bind_eq_ok.mp h
  obtain ⟨mid, hmid, h⟩ := bind_eq_ok.mp h
  obtain ⟨first, hfirst, h⟩ := bind_eq_ok.mp h
  obtain ⟨⟨second, minOut⟩, hsecond, h⟩ := bind_eq_ok.mp h
  cases h
  obtain ⟨hquote, hquoteProgram⟩ := RoutedMarket.quote_eq fun pool hpool => by
    rw [hpool] at hsecond
    cases hsecond
  have hother := not_not.mp (failIf_eq_ok.mp hconnects)
  rw [← hquote] at hfirst hsecond hother
  rw [← hquoteProgram] at hfirst
  have hpath := RoutedMarket.bridged_of_leg hneeds hbridge hprogram hother hother (.inl rfl)
    hfirst
  rw [hquote] at hsecond
  have hlaunch : ∀ pool, market.market ≠ .launchLabInner pool := by
    intro pool hpool
    rw [hpool] at hsecond
    cases hsecond
  obtain ⟨htrades, hfloor, hquoted⟩ := bridgedBuyLeg_trades hsecond
  rw [← hquote] at htrades hfloor hquoted
  refine ⟨.bridged hlaunch hpath hfixed
    (bridgeSwapLeg_trades hother hpath.wsolProgram hprogram hfirst) hmid htrades hfloor
    hquoted, ?_, ?_⟩
  · exact TradeSetup.extends_pushCreateAta (s := s.touchQuote _ _)
  · intro _ _ hcreate
    rw [hquote, hquoteProgram]
    exact TradeSetup.mem_pushCreateAta hcreate

/-- On a CPMM pool, whose meme is the mint it does not share with the bridge. -/
theorem buyViaBridgeCpmm_plan {pool : CpmmPool} {built : BuyLegs}
    (hmarket : market.market = .cpmmOuter pool)
    (hneeds : market.market.needsSolBridge = true) (hbridge : market.bridge = some bridge)
    (hprogram : bridge.programFor market.quoteMint = market.quoteTokenProgram)
    (hfixed : opts.fixedOutput = none)
    (h : client.buyViaBridgeCpmm amount pool bridge opts s = .ok built) :
    BuyPlan client.payer market opts amount true built.legs built.minOut built.spent
      ∧ Prepares client.payer market opts.ata s built.setup true := by
  obtain ⟨stock, hstock, h⟩ := bind_eq_ok.mp h
  obtain ⟨_, hconnects, h⟩ := bind_eq_ok.mp h
  obtain ⟨mid, hmid, h⟩ := bind_eq_ok.mp h
  obtain ⟨first, hfirst, h⟩ := bind_eq_ok.mp h
  obtain ⟨minOut, hmin, h⟩ := bind_eq_ok.mp h
  obtain ⟨second, hsecond, h⟩ := bind_eq_ok.mp h
  cases h
  obtain ⟨-, rfl, -, hquoteProgram⟩ := RoutedMarket.cpmm_bridged hmarket hbridge hneeds hstock
  have hother := not_not.mp (failIf_eq_ok.mp hconnects)
  rw [← hquoteProgram] at hfirst
  have hpath := RoutedMarket.bridged_of_leg hneeds hbridge hprogram hother hother (.inl rfl)
    hfirst
  have hhop : market.market.buyHop client.payer (some market.quoteMint)
      = pool.hop client.payer market.quoteMint := by
    rw [hmarket]
    rfl
  have hlaunch : ∀ pool, market.market ≠ .launchLabInner pool := by
    rw [hmarket]
    exact fun _ hpool => by cases hpool
  obtain ⟨hfloor, hquoted⟩ := TradeOpts.quotedMinOut_eq_ok hmin
  refine ⟨.bridged hlaunch hpath hfixed
    (bridgeSwapLeg_trades hother hpath.wsolProgram hprogram hfirst) hmid ?_ ?_ ?_, ?_, ?_⟩
  · rw [hhop]
    exact (cpmmSwapLeg_exactInput hsecond).swaps
  · rw [hhop]
    exact hfloor
  · rw [hhop]
    exact fun _ => hquoted
  · exact TradeSetup.extends_useAta
  · intro _ hwsol hcreate
    rw [hquoteProgram]
    exact TradeSetup.mem_useAta hwsol hcreate

/-- On a LaunchLab curve, which may take less than the bridge was to bring. -/
theorem buyViaBridgeLaunchlab_plan {pool : LaunchLabPool} {built : BuyLegs}
    (hmarket : market.market = .launchLabInner pool)
    (hneeds : market.market.needsSolBridge = true) (hbridge : market.bridge = some bridge)
    (hprogram : bridge.programFor market.quoteMint = market.quoteTokenProgram)
    (hfixed : opts.fixedOutput = none)
    (h : client.buyViaBridgeLaunchlab amount pool bridge opts s = .ok built) :
    BuyPlan client.payer market opts amount true built.legs built.minOut built.spent
      ∧ Prepares client.payer market opts.ata s built.setup true := by
  obtain ⟨_, hconnects, h⟩ := bind_eq_ok.mp h
  obtain ⟨provisional, hprovisional, h⟩ := bind_eq_ok.mp h
  obtain ⟨q₀, hq₀, h⟩ := bind_eq_ok.mp h
  obtain ⟨⟨wsolSpent, q⟩, hshrunk, h⟩ := bind_eq_ok.mp h
  obtain ⟨first, hfirst, h⟩ := bind_eq_ok.mp h
  obtain ⟨q₂, hq₂, h⟩ := bind_eq_ok.mp h
  cases h
  have hmid : min (bridgeIntermediateMinOut q.amountIn) q.amountIn = q.amountIn :=
    ite_self _
  have hspend := shrinkToCurve_eq_ok hprovisional hq₀ hshrunk
  obtain ⟨hquote, hquoteProgram⟩ := RoutedMarket.quote_eq fun p hp => by
    rw [hmarket] at hp
    cases hp
  rw [hmarket] at hquote hquoteProgram
  change market.quoteMint = pool.quoteMint at hquote
  change market.quoteTokenProgram = pool.quoteTokenProgram at hquoteProgram
  have hother := not_not.mp (failIf_eq_ok.mp hconnects)
  rw [← hquote] at hother
  rw [← hquote, ← hquoteProgram] at hfirst
  have hpath := RoutedMarket.bridged_of_leg hneeds hbridge hprogram hother hother (.inl rfl)
    hfirst
  rw [hmid] at hq₂
  simp only [hmid]
  refine ⟨.bridgedCurve hmarket hpath hfixed hspend
    (bridgeSwapLeg_trades hother hpath.wsolProgram hprogram hfirst) hq₂
    (launchlabBuyLeg_exactInput _ _ _ _ _ _).swaps, ?_, ?_⟩
  · exact TradeSetup.extends_useAta
  · intro _ hwsol hcreate
    rw [hquote, hquoteProgram]
    exact TradeSetup.mem_useAta hwsol hcreate

/-- **The second leg of a bridged sale** follows the plan. -/
theorem bridgeToSol_plan {first second : Leg} {mid minOut : UInt64}
    (hneeds : market.market.needsSolBridge = true) (hbridge : market.bridge = some bridge)
    (hprogram : bridge.programFor market.quoteMint = market.quoteTokenProgram)
    (hfixed : opts.fixedOutput = none)
    (hother : bridge.otherMint wsolMint = some market.quoteMint)
    (hfirst : (market.market.sellHop client.payer (some market.quoteMint)).Trades client.payer
      first amount mid)
    (hmid : (market.market.sellHop client.payer (some market.quoteMint)).quote amount = .ok mid)
    (h : client.bridgeToSol bridge mid market.quoteMint
      (ata client.payer market.quoteMint market.quoteTokenProgram) opts
        = .ok (second, minOut)) :
    SellPlan client.payer market opts amount true [first, second] minOut
      (ata client.payer wsolMint tokenProgram) := by
  obtain ⟨minSol, hmin, h⟩ := bind_eq_ok.mp h
  obtain ⟨leg, hsecond, h⟩ := bind_eq_ok.mp h
  cases h
  have hback := BridgePool.otherMint_comm hother
  have hpath := RoutedMarket.bridged_of_leg hneeds hbridge hprogram hother hback (.inr rfl)
    hsecond
  obtain ⟨hfloor, hquoted⟩ := TradeOpts.quotedMinOut_eq_ok hmin
  exact .bridged hpath hfixed hfirst hmid
    (bridgeSwapLeg_trades hback hprogram hpath.wsolProgram hsecond) hfloor hquoted

/-- **A sale over a bridge is planned**: the market's hop to the quote, and the
bridge's back. -/
theorem sellViaBridgeMainstream_plan [Upstream] {built : SellLegs}
    (hneeds : market.market.needsSolBridge = true) (hbridge : market.bridge = some bridge)
    (hprogram : bridge.programFor market.quoteMint = market.quoteTokenProgram)
    (hfixed : opts.fixedOutput = none)
    (h : client.sellViaBridgeMainstream amount market.market bridge opts s = .ok built) :
    SellPlan client.payer market opts amount true built.legs built.minOut built.outputAta
      ∧ Prepares client.payer market opts.ata s built.setup true := by
  obtain ⟨_, hconnects, h⟩ := bind_eq_ok.mp h
  obtain ⟨⟨first, mid⟩, hfirst, h⟩ := bind_eq_ok.mp h
  obtain ⟨⟨second, minOut⟩, hsecond, h⟩ := bind_eq_ok.mp h
  cases h
  obtain ⟨hquote, hquoteProgram⟩ := RoutedMarket.quote_eq fun pool hpool => by
    rw [hpool] at hfirst
    cases hfirst
  have hother := not_not.mp (failIf_eq_ok.mp hconnects)
  obtain ⟨htrades, hmid⟩ := bridgedSellLeg_trades hfirst
  rw [← hquote] at htrades hmid hsecond hother
  rw [← hquoteProgram] at hsecond
  refine ⟨bridgeToSol_plan hneeds hbridge hprogram hfixed hother htrades hmid hsecond, ?_, ?_⟩
  · exact TradeSetup.extends_pushCreateAta (s := s.touchQuote _ _)
  · intro _ _ hcreate
    rw [hquote, hquoteProgram]
    exact TradeSetup.mem_pushCreateAta hcreate

/-- From a CPMM pool. -/
theorem sellViaBridgeCpmm_plan {pool : CpmmPool} {built : SellLegs}
    (hmarket : market.market = .cpmmOuter pool)
    (hneeds : market.market.needsSolBridge = true) (hbridge : market.bridge = some bridge)
    (hprogram : bridge.programFor market.quoteMint = market.quoteTokenProgram)
    (hfixed : opts.fixedOutput = none)
    (h : client.sellViaBridgeCpmm amount pool bridge opts s = .ok built) :
    SellPlan client.payer market opts amount true built.legs built.minOut built.outputAta
      ∧ Prepares client.payer market opts.ata s built.setup true := by
  obtain ⟨stock, hstock, h⟩ := bind_eq_ok.mp h
  obtain ⟨_, hconnects, h⟩ := bind_eq_ok.mp h
  obtain ⟨mid, hmid, h⟩ := bind_eq_ok.mp h
  obtain ⟨first, hfirst, h⟩ := bind_eq_ok.mp h
  obtain ⟨⟨second, minOut⟩, hsecond, h⟩ := bind_eq_ok.mp h
  cases h
  obtain ⟨-, rfl, -, hquoteProgram⟩ := RoutedMarket.cpmm_bridged hmarket hbridge hneeds hstock
  have hother := BridgePool.otherMint_comm (not_not.mp (failIf_eq_ok.mp hconnects))
  rw [← hquoteProgram] at hsecond
  have hhop : market.market.sellHop client.payer (some market.quoteMint)
      = pool.hop client.payer (otherMint pool market.quoteMint) := by
    rw [hmarket]
    rfl
  obtain ⟨hmint, -⟩ := cpmmLeg_mints hfirst
  have htrades : (pool.hop client.payer (otherMint pool market.quoteMint)).Trades client.payer
      first amount mid := by
    have hout : (pool.hop client.payer (otherMint pool market.quoteMint)).output
        = pool.side client.payer market.quoteMint := by
      show pool.side _ (pool.pair.outputMint _) = _
      rw [← hmint]
    rw [Hop.Trades, hout]
    exact (cpmmSwapLeg_exactInput hfirst).swaps
  refine ⟨bridgeToSol_plan hneeds hbridge hprogram hfixed hother (hhop ▸ htrades)
    (hhop ▸ hmid) hsecond, ?_, ?_⟩
  · exact TradeSetup.extends_useAta
  · intro _ hwsol hcreate
    rw [hquoteProgram]
    exact TradeSetup.mem_useAta hwsol hcreate

/-- From a LaunchLab curve. -/
theorem sellViaBridgeLaunchlab_plan {pool : LaunchLabPool} {built : SellLegs}
    (hmarket : market.market = .launchLabInner pool)
    (hneeds : market.market.needsSolBridge = true) (hbridge : market.bridge = some bridge)
    (hprogram : bridge.programFor market.quoteMint = market.quoteTokenProgram)
    (hfixed : opts.fixedOutput = none)
    (h : client.sellViaBridgeLaunchlab amount pool bridge opts s = .ok built) :
    SellPlan client.payer market opts amount true built.legs built.minOut built.outputAta
      ∧ Prepares client.payer market opts.ata s built.setup true := by
  obtain ⟨_, hconnects, h⟩ := bind_eq_ok.mp h
  obtain ⟨mid, hmid, h⟩ := bind_eq_ok.mp h
  obtain ⟨⟨second, minOut⟩, hsecond, h⟩ := bind_eq_ok.mp h
  cases h
  obtain ⟨hquote, hquoteProgram⟩ := RoutedMarket.quote_eq fun p hp => by
    rw [hmarket] at hp
    cases hp
  rw [hmarket] at hquote hquoteProgram
  change market.quoteMint = pool.quoteMint at hquote
  change market.quoteTokenProgram = pool.quoteTokenProgram at hquoteProgram
  have hother := BridgePool.otherMint_comm (not_not.mp (failIf_eq_ok.mp hconnects))
  rw [← hquote] at hsecond hother
  rw [← hquoteProgram] at hsecond
  have hhop : market.market.sellHop client.payer (some market.quoteMint)
      = pool.sellHop client.payer := by
    rw [hmarket]
    rfl
  have htrades : (pool.sellHop client.payer).Trades client.payer (launchlabSellLeg client.payer
      pool amount mid (ata client.payer pool.baseMint pool.baseTokenProgram)
      (ata client.payer pool.quoteMint pool.quoteTokenProgram)) amount mid :=
    launchlabSellLeg_swaps _ _ _ _ _ _
  refine ⟨bridgeToSol_plan hneeds hbridge hprogram hfixed hother (hhop ▸ htrades)
    (hhop ▸ hmid) hsecond, ?_, ?_⟩
  · exact TradeSetup.extends_useAta
  · intro _ hwsol hcreate
    rw [hquote, hquoteProgram]
    exact TradeSetup.mem_useAta hwsol hcreate

end BridgedPlans

end Plans

end Sdk
