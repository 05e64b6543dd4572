import SolTradeRouter.HonestRoute

/-!
# The purses of trades

A plan moves between the purses of its hops, and a market has purses of its
own: the user's tokens of its quote and of its meme. They are the same purses
where the market's token programs are set and unambiguous.

Where an AMM V4 snapshot leaves its token program unset, the hops move under
the classic program and the market's purses are under none. These are
different purses, as derived addresses are different.
-/

namespace Sdk

open Outcome Transfers

section Purses

variable [Pda]

/-! ## The purses of a plan -/

/-- The purse a hop takes from. -/
def Hop.inputPurse (hop : Hop) : Purse := ⟨hop.format.takesLamports, hop.input.account⟩

/-- The purse a hop pays into. -/
def Hop.outputPurse (hop : Hop) : Purse := ⟨hop.format.paysLamports, hop.output.account⟩

omit [Pda] in
theorem Hop.Trades.plans {hop : Hop} {user : Pubkey} {leg : Leg} {sent received : UInt64}
    (h : hop.Trades user leg sent received) :
    leg.Plans user ⟨hop.inputPurse, sent.toNat, hop.outputPurse, received.toNat⟩ :=
  ⟨_, _, _, _, _, h, rfl⟩

omit [Pda] in
/-- A swap with a fixed output moves tokens, and so does its hop. -/
theorem LegFormat.fixed_tokens {format fixed : LegFormat} (h : format.fixed = some fixed) :
    fixed.takesLamports = format.takesLamports ∧ fixed.paysLamports = format.paysLamports := by
  unfold LegFormat.fixed at h
  split at h <;> cases h <;> exact ⟨rfl, rfl⟩

omit [Pda] in
theorem Single.plan {user : Pubkey} {opts : TradeOpts} {hop : Hop} {amount minOut : UInt64}
    {legs : List Leg} (h : Single user opts hop amount legs minOut) (paid taken : Purse) :
    ∃ ts, List.Forall₂ (Leg.Plans · user ·) legs ts
      ∧ Plan hop.inputPurse paid taken hop.outputPurse amount.toNat false ts := by
  cases h with
  | exactIn _ hleg _ => exact ⟨_, .cons hleg.plans .nil, .direct⟩
  | fixedOut _ hformat hleg =>
    obtain ⟨htakes, hpays⟩ := LegFormat.fixed_tokens hformat
    refine ⟨_, .cons ⟨_, _, _, _, _, hleg, rfl⟩ .nil, ?_⟩
    rw [htakes, hpays]
    exact .direct

/-- The user's WSOL, under the classic program. -/
def wsolPurse (user : Pubkey) : Purse := ⟨false, ata user wsolMint tokenProgram⟩

/-- The user's tokens of the market's quote. -/
def RoutedMarket.quotePurse (market : RoutedMarket) (user : Pubkey) : Purse :=
  ⟨false, market.quoteAccount user⟩

/-- The user's tokens of the market's meme. -/
def RoutedMarket.memePurse (market : RoutedMarket) (user : Pubkey) : Purse :=
  ⟨false, market.memeAccount user⟩

/-- A bridge moves tokens, between these two purses. -/
theorem RoutedMarket.Bridged.purses {market : RoutedMarket} {bridge : BridgePool}
    (h : market.Bridged bridge) (user : Pubkey) :
    ((bridge.hop user wsolMint).inputPurse = wsolPurse user
        ∧ (bridge.hop user wsolMint).outputPurse = market.quotePurse user)
      ∧ (bridge.hop user market.quoteMint).inputPurse = market.quotePurse user
        ∧ (bridge.hop user market.quoteMint).outputPurse = wsolPurse user := by
  have htokens : ∀ input, (bridge.hop user input).format.takesLamports = false
      ∧ (bridge.hop user input).format.paysLamports = false := fun input => by
    cases bridge <;> exact ⟨rfl, rfl⟩
  obtain ⟨⟨hinput, houtput⟩, hback, hforth⟩ := h.accounts user
  unfold Hop.inputPurse Hop.outputPurse
  rw [hinput, houtput, hback, hforth, (htokens _).1, (htokens _).2, (htokens _).1,
    (htokens _).2]
  exact ⟨⟨rfl, rfl⟩, rfl, rfl⟩

/-- **The purses of a buy**, by the hop that buys the meme. -/
theorem BuyPlan.plan {user : Pubkey} {market : RoutedMarket} {opts : TradeOpts}
    {spend minOut spent : UInt64} {needsBridge : Bool} {legs : List Leg}
    (h : BuyPlan user market opts spend needsBridge legs minOut spent) :
    let hop := market.market.buyHop user
      (if needsBridge then some market.quoteMint else market.payAsset opts.buyWith)
    ∃ ts, List.Forall₂ (Leg.Plans · user ·) legs ts
      ∧ Plan (if needsBridge then wsolPurse user else hop.inputPurse) (market.quotePurse user)
        hop.inputPurse hop.outputPurse spent.toNat needsBridge ts := by
  have hcurve : ∀ {pool : LaunchLabPool}, market.market = .launchLabInner pool → ∀ asset,
      pool.buyHop user = market.market.buyHop user asset := by
    intro pool hmarket asset
    rw [hmarket]
    rfl
  cases h with
  | single _ hlegs => exact hlegs.plan _ _
  | curve hmarket _ _ hleg =>
    rw [hcurve hmarket (market.payAsset opts.buyWith)] at hleg
    exact ⟨_, .cons hleg.plans .nil, .direct⟩
  | bridged _ hpath _ hfirst _ hsecond =>
    obtain ⟨⟨hinput, houtput⟩, -⟩ := hpath.purses user
    refine ⟨_, .cons hfirst.plans (.cons hsecond.plans .nil), ?_⟩
    rw [hinput, houtput]
    exact .bridged
  | bridgedCurve hmarket hpath _ _ hfirst _ hsecond =>
    obtain ⟨⟨hinput, houtput⟩, -⟩ := hpath.purses user
    rw [hcurve hmarket (some market.quoteMint)] at hsecond
    refine ⟨_, .cons hfirst.plans (.cons hsecond.plans .nil), ?_⟩
    rw [hinput, houtput]
    exact .bridged

/-- **The purses of a sale**, by the hop that sells the meme. -/
theorem SellPlan.plan {user account : Pubkey} {market : RoutedMarket} {opts : TradeOpts}
    {sellAmt minOut : UInt64} {needsBridge : Bool} {legs : List Leg}
    (h : SellPlan user market opts sellAmt needsBridge legs minOut account) :
    let hop := market.market.sellHop user
      (if needsBridge then some market.quoteMint else market.receiveAsset opts.sellTo)
    ∃ ts, List.Forall₂ (Leg.Plans · user ·) legs ts
      ∧ Plan hop.inputPurse hop.outputPurse (market.quotePurse user)
        (if needsBridge then wsolPurse user else hop.outputPurse) sellAmt.toNat needsBridge
        ts := by
  cases h with
  | single hlegs _ => exact hlegs.plan _ _
  | bridged hpath _ hfirst _ hsecond =>
    obtain ⟨-, hinput, houtput⟩ := hpath.purses user
    refine ⟨_, .cons hfirst.plans (.cons hsecond.plans .nil), ?_⟩
    rw [hinput, houtput]
    exact .bridged

/-! ## The purses of a market -/

/-- Against a token, a market takes and pays tokens; the meme is tokens in
any case. -/
theorem Market.hop_tokens (market : Market) (user mint : Pubkey) (asset : Option Pubkey) :
    (market.buyHop user (some mint)).format.takesLamports = false
      ∧ (market.buyHop user asset).format.paysLamports = false
      ∧ (market.sellHop user asset).format.takesLamports = false
      ∧ (market.sellHop user (some mint)).format.paysLamports = false := by
  cases market with
  | pumpFunInner pool => cases asset <;> exact ⟨rfl, rfl, rfl, rfl⟩
  | _ => exact ⟨rfl, rfl, rfl, rfl⟩

/-- A native settlement takes lamports, and pays them. -/
theorem Market.native_purses {market : Market} (h : market.isPumpNativeSol = true)
    (user : Pubkey) :
    (market.buyHop user none).inputPurse = ⟨true, user⟩
      ∧ (market.sellHop user none).outputPurse = ⟨true, user⟩ := by
  cases market with
  | pumpFunInner pool => exact ⟨rfl, rfl⟩
  | _ => cases h

/-- **A market whose token program is set** takes from the market's purses. -/
theorem RoutedMarket.input_purses {market : RoutedMarket} (h : market.market.TokenProgramSet)
    (user : Pubkey) :
    (market.market.buyHop user (some market.quoteMint)).inputPurse = market.quotePurse user
      ∧ (market.market.sellHop user (some market.quoteMint)).inputPurse
        = market.memePurse user := by
  obtain ⟨hbuy, hsell⟩ := market.inputs_agree h user
  obtain ⟨htakes, -, htakes', -⟩ :=
    market.market.hop_tokens user market.quoteMint (some market.quoteMint)
  unfold Hop.inputPurse
  rw [hbuy, hsell, htakes, htakes']
  exact ⟨rfl, rfl⟩

/-- The user's accounts of three mints, under the classic program and under
the unset one, are different, as derived addresses are. -/
def UnsetApart (user : Pubkey) (mints : List Pubkey) : Prop :=
  ∀ m ∈ mints, ∀ m' ∈ mints, ∀ p ∈ [tokenProgram, Pubkey.default],
    ∀ p' ∈ [tokenProgram, Pubkey.default], ata user m p = ata user m' p' → m = m' ∧ p = p'

/-- **A market keeps the user's accounts apart**: it lists each mint under one
program, and the accounts under a program that is unset are not those under
the classic one. -/
def Market.Apart (user : Pubkey) : Market → Prop
  | .raydiumAmmV4 pool => pool.tokenProgram = Pubkey.default →
    pool.coinMint ≠ pool.pcMint ∧ UnsetApart user [wsolMint, pool.coinMint, pool.pcMint]
  | .meteoraDammV2 pool => pool.pair.Unambiguous
  | .raydiumClmm pool => pool.pair.Unambiguous
  | .whirlpool pool => pool.pair.Unambiguous
  | _ => True

/-- **The purses of a market whose token program is unset**: the hops take the
classic program, the market's own purses do not. -/
structure RoutedMarket.Unset (market : RoutedMarket) (user : Pubkey) : Prop where
  buy : ∀ mint, (market.market.buyHop user (some mint)).inputPurse
    = ⟨false, ata user mint tokenProgram⟩
  bought : (market.market.buyHop user (some market.quoteMint)).outputPurse
    = ⟨false, ata user market.memeMint tokenProgram⟩
  sell : (market.market.sellHop user (some market.quoteMint)).inputPurse
    = ⟨false, ata user market.memeMint tokenProgram⟩
  sold : (market.market.sellHop user (some market.quoteMint)).outputPurse
    = ⟨false, ata user market.quoteMint tokenProgram⟩
  memeProgram : market.memeTokenProgram = Pubkey.default
  quoteProgram : market.quoteTokenProgram = Pubkey.default
  mints_ne : market.memeMint ≠ market.quoteMint
  apart : UnsetApart user [wsolMint, market.memeMint, market.quoteMint]

theorem RoutedMarket.unset_of {market : RoutedMarket} {user : Pubkey}
    (h : ¬ market.market.TokenProgramSet) (hapart : market.market.Apart user) :
    market.Unset user := by
  obtain ⟨m, bridge⟩ := market
  cases m with
  | raydiumAmmV4 pool =>
    have hunset : pool.tokenProgram = Pubkey.default := not_not.mp h
    obtain ⟨hne, hkeys⟩ := hapart hunset
    have hleg : pool.legTokenProgram = tokenProgram := if_pos hunset
    have hinput : ∀ mint, pool.pair.inputProgram mint = tokenProgram := fun mint =>
      (ite_self _).trans hleg
    have houtput : ∀ mint, pool.pair.outputProgram mint = tokenProgram := fun mint =>
      (ite_self _).trans hleg
    have hhop : ∀ mint, (pool.hop user mint).inputPurse = ⟨false, ata user mint tokenProgram⟩
        ∧ (pool.hop user mint).outputPurse
          = ⟨false, ata user (pool.pair.outputMint mint) tokenProgram⟩ := by
      intro mint
      refine ⟨?_, ?_⟩
      · rw [← hinput mint]
        rfl
      · rw [← houtput mint]
        rfl
    have hmeme : pool.pair.outputMint (pairQuote pool.coinMint pool.pcMint)
        = pairBase pool.coinMint pool.pcMint := pool.pair.outputMint_pairQuote
    have hquote : pool.pair.outputMint (pairBase pool.coinMint pool.pcMint)
        = pairQuote pool.coinMint pool.pcMint := pool.pair.outputMint_pairBase
    have hpurse : ∀ {m m' : Pubkey}, m = m' → Purse.mk false (ata user m tokenProgram)
        = ⟨false, ata user m' tokenProgram⟩ := fun hm => by rw [hm]
    have hmem : ∀ mint ∈ [wsolMint, pairBase pool.coinMint pool.pcMint,
        pairQuote pool.coinMint pool.pcMint],
        mint ∈ [wsolMint, pool.coinMint, pool.pcMint] := by
      unfold pairBase pairQuote
      grind
    exact {
      buy := fun mint => (hhop mint).1
      bought := (hhop _).2.trans (hpurse hmeme)
      sell := (hhop _).1.trans (hpurse hmeme)
      sold := (hhop _).2.trans (hpurse ((congrArg pool.pair.outputMint hmeme).trans hquote))
      memeProgram := hunset
      quoteProgram := hunset
      mints_ne := by
        show pairBase _ _ ≠ pairQuote _ _
        unfold pairBase pairQuote
        grind
      apart := fun m hm m' hm' => hkeys m (hmem m hm) m' (hmem m' hm') }
  | _ => exact absurd trivial h

/-- Accounts under different programs are different, and so are those of
different mints. -/
theorem UnsetApart.ne {user : Pubkey} {mints : List Pubkey} (h : UnsetApart user mints)
    {m m' : Pubkey} (hm : m ∈ mints) (hm' : m' ∈ mints) :
    ata user m tokenProgram ≠ ata user m' Pubkey.default
      ∧ (m ≠ m' → ata user m tokenProgram ≠ ata user m' tokenProgram
        ∧ ata user m Pubkey.default ≠ ata user m' Pubkey.default) := by
  refine ⟨fun heq => ?_, fun hne => ⟨fun heq => ?_, fun heq => ?_⟩⟩
  · have hsame := (h m hm m' hm' _ List.mem_cons_self _ (by simp) heq).2
    exact absurd hsame (by decide)
  · exact hne (h m hm m' hm' _ List.mem_cons_self _ List.mem_cons_self heq).1
  · exact hne (h m hm m' hm' _ (by simp) _ (by simp) heq).1

/-- **Where the accounts are kept apart** and the token program is set, the
accessors and the hops take the same programs. -/
theorem Market.Apart.programsAgree {market : Market} {user : Pubkey} (h : market.Apart user)
    (hset : market.TokenProgramSet) : market.ProgramsAgree := by
  cases market with
  | raydiumAmmV4 pool => exact hset
  | meteoraDammV2 pool => exact h
  | raydiumClmm pool => exact h
  | whirlpool pool => exact h
  | _ => trivial

/-- **A swap for the quote takes from the purse the fee comes from**, if the
token program is set or the quote is WSOL. -/
theorem RoutedMarket.direct_input {market : RoutedMarket}
    (h : market.market.TokenProgramSet ∨ market.quoteMint = wsolMint)
    (hclassic : WsolClassic market.market.listed) (user : Pubkey) :
    (market.market.buyHop user (some market.quoteMint)).inputPurse
      = ⟨false, ata user market.quoteMint (if market.quoteMint = wsolMint then tokenProgram
        else market.quoteTokenProgram)⟩ := by
  by_cases hset : market.market.TokenProgramSet
  · rw [(market.input_purses hset user).1, market.quoteAccount_eq hset hclassic user]
    rfl
  · rw [if_pos (h.resolve_left hset)]
    obtain ⟨m, bridge⟩ := market
    cases m with
    | raydiumAmmV4 pool =>
      have hprogram : ∀ mint, pool.pair.inputProgram mint = tokenProgram := fun mint =>
        (ite_self _).trans (if_pos (not_not.mp hset))
      exact congrArg (fun p => Purse.mk false (ata user _ p)) (hprogram _)
    | _ => exact absurd trivial hset

/-! ## Where the legs meet -/

/-- The tokens of the meme under a program that is unset are apart from all
others. -/
theorem RoutedMarket.Unset.meme_apart {market : RoutedMarket} {user : Pubkey}
    (h : market.Unset user) :
    (∀ m ∈ [wsolMint, market.memeMint, market.quoteMint],
        Purse.mk false (ata user m tokenProgram) ≠ market.memePurse user)
      ∧ market.quotePurse user ≠ market.memePurse user := by
  have hmeme : market.memeMint ∈ [wsolMint, market.memeMint, market.quoteMint] := by simp
  have hquote : market.quoteMint ∈ [wsolMint, market.memeMint, market.quoteMint] := by simp
  have hpurse : (market.memePurse user).account = ata user market.memeMint Pubkey.default := by
    show ata user _ market.memeTokenProgram = _
    rw [h.memeProgram]
  refine ⟨fun m hm heq => ?_, fun heq => ?_⟩
  · exact (h.apart.ne hm hmeme).1 ((congrArg Purse.account heq).trans hpurse)
  · have haccounts := (congrArg Purse.account heq).trans hpurse
    change ata user _ market.quoteTokenProgram = _ at haccounts
    rw [h.quoteProgram] at haccounts
    exact ((h.apart.ne hquote hmeme).2 h.mints_ne.symm).2 haccounts

/-- The legs of a bridged buy meet in one purse, or stay clear of the user's
WSOL. -/
theorem RoutedMarket.buy_meets {market : RoutedMarket} {user : Pubkey}
    (hneeds : market.market.needsSolBridge = true) (hapart : market.market.Apart user) :
    market.quotePurse user
        = (market.market.buyHop user (some market.quoteMint)).inputPurse
      ∨ market.quotePurse user ≠ wsolPurse user
        ∧ (market.market.buyHop user (some market.quoteMint)).inputPurse ≠ wsolPurse user := by
  by_cases hset : market.market.TokenProgramSet
  · exact .inl (market.input_purses hset user).1.symm
  · right
    have hunset := market.unset_of hset hapart
    have hne := market.quoteMint_ne_wsol hneeds
    have hwsol : wsolMint ∈ [wsolMint, market.memeMint, market.quoteMint] := List.mem_cons_self
    have hquote : market.quoteMint ∈ [wsolMint, market.memeMint, market.quoteMint] := by simp
    rw [hunset.buy]
    constructor
    · intro heq
      have haccounts := congrArg Purse.account heq
      change ata user _ market.quoteTokenProgram = _ at haccounts
      rw [hunset.quoteProgram] at haccounts
      exact (hunset.apart.ne hwsol hquote).1 haccounts.symm
    · intro heq
      exact ((hunset.apart.ne hquote hwsol).2 hne).1 (congrArg Purse.account heq)

/-- The legs of a bridged sale meet in one purse, or stay clear of the user's
meme. -/
theorem RoutedMarket.sell_meets {market : RoutedMarket} {user : Pubkey}
    (hapart : market.market.Apart user) :
    (market.market.sellHop user (some market.quoteMint)).outputPurse = market.quotePurse user
      ∨ (market.market.sellHop user (some market.quoteMint)).outputPurse ≠ market.memePurse user
        ∧ market.quotePurse user ≠ market.memePurse user := by
  by_cases hset : market.market.TokenProgramSet
  · left
    have haccount := (market.sides_agree (hapart.programsAgree hset) user).sellOutput
    rw [Hop.outputPurse, haccount,
      (market.market.hop_tokens user market.quoteMint none).2.2.2]
    rfl
  · have hunset := market.unset_of hset hapart
    obtain ⟨hapart, hquote⟩ := hunset.meme_apart
    rw [hunset.sold]
    exact .inr ⟨hapart _ (by simp), hquote⟩

end Purses

end Sdk
