import SolTradeRouter.LegReadings
import SolTradeRouter.MarketAccounts
import SolTradeRouter.TradeAmounts

/-!
# The accounts of a trade

The header of a route names the account the fee and the input come from,
and the account the output goes to. The legs name the user's accounts once
more, each in its own instruction, and the setup creates some of them. The
three are derived apart: the header and the setup from the accessors of the
routed market, the legs from the fields of their pools.

A trade names its accounts once exactly where the programs of its market
agree. Whether they do is decided by the market's snapshot alone.
-/

namespace Sdk

open Outcome

/-! ## What a leg moves between -/

/-- A leg takes from an account. -/
def Leg.Debits (leg : Leg) (user account : Pubkey) : Prop :=
  ∃ format destination sent received, Swaps leg format user account destination sent received

/-- A leg pays into an account. -/
def Leg.Credits (leg : Leg) (user account : Pubkey) : Prop :=
  ∃ format source sent received, Swaps leg format user source account sent received

/-- A leg debits one account. -/
theorem Leg.Debits.unique {leg : Leg} {user account account' : Pubkey}
    (h : leg.Debits user account) (h' : leg.Debits user account') : account = account' := by
  obtain ⟨_, _, _, _, h⟩ := h
  obtain ⟨_, _, _, _, h'⟩ := h'
  exact (h.unique h').2.1

/-- And credits one. -/
theorem Leg.Credits.unique {leg : Leg} {user account account' : Pubkey}
    (h : leg.Credits user account) (h' : leg.Credits user account') : account = account' := by
  obtain ⟨_, _, _, _, h⟩ := h
  obtain ⟨_, _, _, _, h'⟩ := h'
  exact (h.unique h').2.2.1

section Accounts

variable [Pda]

/-! ## The legs of a plan -/

omit [Pda] in
/-- A hop's leg debits its input. -/
theorem Hop.Trades.debits {hop : Hop} {user : Pubkey} {leg : Leg} {sent received : UInt64}
    (h : hop.Trades user leg sent received) : leg.Debits user hop.input.account :=
  ⟨_, _, _, _, h⟩

omit [Pda] in
/-- And credits its output. -/
theorem Hop.Trades.credits {hop : Hop} {user : Pubkey} {leg : Leg} {sent received : UInt64}
    (h : hop.Trades user leg sent received) : leg.Credits user hop.output.account :=
  ⟨_, _, _, _, h⟩

/-- **What the legs of a trade move between**: one account and another, or
through an account in the middle, which the first leg may pay into and the
second take from under two names. -/
inductive Carries (user source paid taken target : Pubkey) : Bool → List Leg → Prop
  | direct {leg : Leg} (hdebits : leg.Debits user source) (hcredits : leg.Credits user target) :
    Carries user source paid taken target false [leg]
  | bridged {first second : Leg} (hdebits : first.Debits user source)
    (hpaid : first.Credits user paid) (htaken : second.Debits user taken)
    (hcredits : second.Credits user target) :
    Carries user source paid taken target true [first, second]

omit [Pda] in
/-- A single swap carries the input to the output. -/
theorem Single.carries {user paid taken : Pubkey} {opts : TradeOpts} {hop : Hop}
    {amount minOut : UInt64} {legs : List Leg} (h : Single user opts hop amount legs minOut) :
    Carries user hop.input.account paid taken hop.output.account false legs := by
  cases h with
  | exactIn _ hleg _ => exact .direct hleg.debits hleg.credits
  | fixedOut _ _ hleg => exact .direct ⟨_, _, _, _, hleg⟩ ⟨_, _, _, _, hleg⟩

/-- **A bridge moves between the user's WSOL and the market's quote account**,
either way. -/
theorem RoutedMarket.Bridged.accounts {market : RoutedMarket} {bridge : BridgePool}
    (h : market.Bridged bridge) (user : Pubkey) :
    ((bridge.hop user wsolMint).input.account = ata user wsolMint tokenProgram
        ∧ (bridge.hop user wsolMint).output.account = market.quoteAccount user)
      ∧ (bridge.hop user market.quoteMint).input.account = market.quoteAccount user
        ∧ (bridge.hop user market.quoteMint).output.account
          = ata user wsolMint tokenProgram := by
  obtain ⟨hinput, houtput⟩ := @BridgePool.hop_accounts _ _ user _ _ h.connects
  obtain ⟨hback, hforth⟩ := @BridgePool.hop_accounts _ _ user _ _
    (BridgePool.otherMint_comm h.connects)
  rw [hinput, houtput, hback, hforth, h.wsolProgram, h.quoteProgram]
  exact ⟨⟨rfl, rfl⟩, rfl, rfl⟩

/-- **The accounts of a buy's legs**, by the hops of its market. -/
theorem BuyPlan.carries {user : Pubkey} {market : RoutedMarket} {opts : TradeOpts}
    {spend minOut spent : UInt64} {needsBridge : Bool} {legs : List Leg}
    (h : BuyPlan user market opts spend needsBridge legs minOut spent) :
    let hop := market.market.buyHop user
      (if needsBridge then some market.quoteMint else market.payAsset opts.buyWith)
    Carries user (if needsBridge then ata user wsolMint tokenProgram else hop.input.account)
      (market.quoteAccount user) hop.input.account hop.output.account needsBridge legs := by
  have hcurve : ∀ {pool : LaunchLabPool}, market.market = .launchLabInner pool → ∀ asset,
      pool.buyHop user = market.market.buyHop user asset := by
    intro pool hmarket asset
    rw [hmarket]
    rfl
  cases h with
  | single hmarket hlegs => exact hlegs.carries
  | curve hmarket _ _ hleg =>
    rw [hcurve hmarket (market.payAsset opts.buyWith)] at hleg
    exact .direct hleg.debits hleg.credits
  | bridged _ hpath _ hfirst _ hsecond =>
    obtain ⟨⟨hinput, houtput⟩, -⟩ := hpath.accounts user
    exact .bridged (hinput ▸ hfirst.debits) (houtput ▸ hfirst.credits) hsecond.debits
      hsecond.credits
  | bridgedCurve hmarket hpath _ _ hfirst _ hsecond =>
    obtain ⟨⟨hinput, houtput⟩, -⟩ := hpath.accounts user
    rw [hcurve hmarket (some market.quoteMint)] at hsecond
    exact .bridged (hinput ▸ hfirst.debits) (houtput ▸ hfirst.credits) hsecond.debits
      hsecond.credits

/-- **The accounts of a sale's legs**, by the hops of its market. -/
theorem SellPlan.carries {user account : Pubkey} {market : RoutedMarket} {opts : TradeOpts}
    {sellAmt minOut : UInt64} {needsBridge : Bool} {legs : List Leg}
    (h : SellPlan user market opts sellAmt needsBridge legs minOut account) :
    let hop := market.market.sellHop user
      (if needsBridge then some market.quoteMint else market.receiveAsset opts.sellTo)
    Carries user hop.input.account hop.output.account (market.quoteAccount user)
      (if needsBridge then ata user wsolMint tokenProgram else hop.output.account)
      needsBridge legs := by
  cases h with
  | single hlegs _ => exact hlegs.carries
  | bridged hpath _ hfirst _ hsecond =>
    obtain ⟨-, hinput, houtput⟩ := hpath.accounts user
    have htaken := hsecond.debits
    have hcredits := hsecond.credits
    rw [hinput] at htaken
    rw [houtput] at hcredits
    exact .bridged hfirst.debits hfirst.credits htaken hcredits

/-! ## The header and the setup -/

/-- An instruction of the setup creates the user's account of a mint. -/
def Created (user : Pubkey) (setup : List Instruction) (account : Pubkey) : Prop :=
  ∃ mint program, account = ata user mint program
    ∧ createAtaIdempotent user user mint program ∈ setup

/-- **The header, the legs and the setup of a trade name the same accounts.**
A trade pays in one asset and brings another; `none` are lamports. -/
structure AccountsAgree (user : Pubkey) (policy : AtaPolicy) (pays brings : Option Pubkey)
    (header : BuiltHeader) (legs : List Leg) (setup : List Instruction) : Prop where
  source : ∃ first, legs.head? = some first
    ∧ first.Debits user header.accounts.feeSource
  source_native : pays = none → header.accounts.feeSource = user
  output : ∃ last, legs.getLast? = some last
    ∧ last.Credits user header.accounts.outputTokenAccount
  output_native : brings = none →
    header.accounts.outputTokenAccount = user ∧ header.expectedOutputMint = systemProgram
  output_mint : ∀ mint, brings = some mint →
    header.expectedOutputMint = mint
      ∧ ∃ program, header.accounts.outputTokenAccount = ata user mint program
  meets : ∀ first second, legs = [first, second] →
    ∃ account, first.Credits user account ∧ second.Debits user account
  created : policy = .createAllInTrade → brings ≠ none →
    ∀ leg ∈ legs, ∃ account, leg.Credits user account ∧ Created user setup account

section Agree

variable {user source paid taken target : Pubkey} {needsBridge : Bool} {legs : List Leg}
  {policy : AtaPolicy} {pays brings : Option Pubkey} {header : BuiltHeader}
  {setup : List Instruction}

/-- **The accounts of the legs are all that matters.** -/
theorem Carries.agree (h : Carries user source paid taken target needsBridge legs)
    (hsource : header.accounts.feeSource = source)
    (htarget : header.accounts.outputTokenAccount = target)
    (hmeets : needsBridge = true → paid = taken)
    (hpays : pays = none → source = user)
    (hlamports : brings = none → target = user ∧ header.expectedOutputMint = systemProgram)
    (hmint : ∀ mint, brings = some mint →
      header.expectedOutputMint = mint ∧ ∃ program, target = ata user mint program)
    (hcreated : policy = .createAllInTrade → brings ≠ none →
      Created user setup target ∧ (needsBridge = true → Created user setup paid)) :
    AccountsAgree user policy pays brings header legs setup := by
  subst hsource htarget
  cases h with
  | direct hdebits hcredits =>
    exact {
      source := ⟨_, rfl, hdebits⟩
      source_native := hpays
      output := ⟨_, rfl, hcredits⟩
      output_native := hlamports
      output_mint := hmint
      meets := fun _ _ hlegs => by cases hlegs
      created := fun hpolicy hbrings leg hleg => by
        rw [List.mem_singleton.mp hleg]
        exact ⟨_, hcredits, (hcreated hpolicy hbrings).1⟩ }
  | bridged hdebits hpaid htaken hcredits =>
    obtain rfl := hmeets rfl
    exact {
      source := ⟨_, rfl, hdebits⟩
      source_native := hpays
      output := ⟨_, rfl, hcredits⟩
      output_native := hlamports
      output_mint := hmint
      meets := fun _ _ hlegs => by
        cases hlegs
        exact ⟨_, hpaid, htaken⟩
      created := fun hpolicy hbrings leg hleg => by
        obtain ⟨htarget, hmiddle⟩ := hcreated hpolicy hbrings
        rcases List.mem_cons.mp hleg with rfl | hleg
        · exact ⟨_, hpaid, hmiddle rfl⟩
        · rw [List.mem_singleton.mp hleg]
          exact ⟨_, hcredits, htarget⟩ }

/-- Accounts that agree are those of the legs. -/
theorem AccountsAgree.of_carries
    (h : AccountsAgree user policy pays brings header legs setup)
    (hlegs : Carries user source paid taken target needsBridge legs) :
    header.accounts.feeSource = source ∧ header.accounts.outputTokenAccount = target
      ∧ (needsBridge = true → paid = taken) := by
  obtain ⟨first, hfirst, hsource⟩ := h.source
  obtain ⟨last, hlast, houtput⟩ := h.output
  cases hlegs with
  | direct hdebits hcredits =>
    cases hfirst
    cases hlast
    exact ⟨hsource.unique hdebits, houtput.unique hcredits, fun hbridged => by cases hbridged⟩
  | bridged hdebits hpaid htaken hcredits =>
    cases hfirst
    cases hlast
    obtain ⟨account, hin, hout⟩ := h.meets _ _ rfl
    exact ⟨hsource.unique hdebits, houtput.unique hcredits,
      fun _ => (hpaid.unique hin).trans (hout.unique htaken)⟩

end Agree

/-! ## Buys -/

section Trades

variable [Upstream] {client : RouterClient} {market : RoutedMarket} {opts : TradeOpts}
  {amountIn : UInt64} {trade : BuiltTrade} {needsBridge : Bool} {legs : List Leg}
  {s : TradeSetup}

omit [Upstream] in
/-- The fee of a buy comes from the account of what it pays with. -/
theorem buyFee_feeSource {mint : Pubkey} (h : market.payAsset opts.buyWith = some mint) :
    (client.buyFee market opts).feeSource
      = ata client.payer mint (if mint = wsolMint then tokenProgram
        else market.quoteTokenProgram) := by
  unfold RouterClient.buyFee
  cases hbuy : opts.buyWith with
  | token payMint =>
    rw [hbuy] at h
    cases h
    rfl
  | wsol =>
    rw [hbuy] at h
    cases h
    rw [if_pos rfl]
    rfl
  | sol =>
    rw [hbuy, RoutedMarket.payAsset] at h
    dsimp only
    split at h
    · cases h
    · rename_i hnative
      cases h
      rw [if_neg hnative, if_pos rfl]
      rfl

omit [Upstream] in
/-- The fee of a native buy comes from the payer. -/
theorem buyFee_native (h : market.payAsset opts.buyWith = none) :
    (client.buyFee market opts).feeSource = client.payer := by
  obtain ⟨hbuy, hnative⟩ := RoutedMarket.payAsset_eq_none.mp h
  unfold RouterClient.buyFee
  rw [hbuy]
  dsimp only
  rw [if_pos hnative]

omit [Upstream] in
/-- The setup of a buy creates the account of the meme. -/
theorem mem_buySetup (h : opts.ata.createMeme = true) :
    createAtaIdempotent client.payer client.payer market.memeMint market.memeTokenProgram
      ∈ (client.buySetup market opts).setup := by
  have hmem : createAtaIdempotent client.payer client.payer market.memeMint
      market.memeTokenProgram ∈ (((TradeSetup.mk [] TouchedAtas.default).touchMeme
        market.memeMint market.memeTokenProgram).pushCreateAta opts.ata .meme client.payer
          market.memeMint market.memeTokenProgram).setup :=
    TradeSetup.mem_pushCreateAta h
  unfold RouterClient.buySetup
  dsimp only
  refine TradeSetup.Extends.subset (.ite ?_ (.refl _)) hmem
  exact TradeSetup.extends_pushCreateAta (s := TradeSetup.touchWsol _)

/-- What follows keeps it. -/
theorem completeBuySetup_subset (fee routeAmountIn : UInt64) :
    s.setup ⊆ (client.completeBuySetup market opts fee routeAmountIn s).setup := by
  unfold RouterClient.completeBuySetup
  split
  · exact fun _ hmem => (prepareFee_extends client market opts fee _).subset
      (List.mem_append_left _ hmem)
  · exact (prepareFee_extends client market opts fee s).subset

omit [Upstream] in
/-- **The market's quote account**, with WSOL's program where the market lists
it. -/
theorem RoutedMarket.quoteAccount_eq (h : market.market.TokenProgramSet)
    (hclassic : WsolClassic market.market.listed) (user : Pubkey) :
    ata user market.quoteMint (if market.quoteMint = wsolMint then tokenProgram
      else market.quoteTokenProgram) = market.quoteAccount user := by
  split
  · rename_i hwsol
    have hprogram : market.quoteTokenProgram = tokenProgram :=
      hclassic _ (market.quote_listed h) hwsol
    rw [RoutedMarket.quoteAccount, hprogram]
  · rfl

/-- **The accounts of a buy agree** where the programs of its market do. -/
theorem RouterClient.Bought.agree {spend spent routeAmountIn minOut : UInt64}
    (hb : client.Bought amountIn market opts trade needsBridge spend spent routeAmountIn minOut
      legs s)
    (h : market.market.ProgramsAgree)
    (hclassic : market.payAsset opts.buyWith ≠ none → needsBridge = false →
      WsolClassic market.market.listed) :
    AccountsAgree client.payer opts.ata (market.payAsset opts.buyWith) (some market.memeMint)
      (client.buyHeader market opts routeAmountIn minOut) legs trade.setup := by
  have hsides := market.sides_agree h client.payer
  have hasset := RoutedMarket.payAsset_eq hb.path
  have hlegs := hb.plan.carries
  have hsetup : s.setup ⊆ trade.setup := by
    rw [hb.setup]
    exact completeBuySetup_subset _ _
  have hmeme : opts.ata = .createAllInTrade →
      Created client.payer trade.setup (market.memeAccount client.payer) := fun hata =>
    ⟨_, _, rfl, hsetup (hb.prepares.keeps.subset (mem_buySetup (by rw [hata]; rfl)))⟩
  have hquote : opts.ata = .createAllInTrade → needsBridge = true →
      Created client.payer trade.setup (market.quoteAccount client.payer) := fun hata hneeds =>
    ⟨_, _, rfl, hsetup (hb.prepares.creates hneeds (by rw [hata]; rfl) (by rw [hata]; rfl))⟩
  have hmint : ∀ mint, some market.memeMint = some mint → market.memeMint = mint
      ∧ ∃ program, market.memeAccount client.payer = ata client.payer mint program := by
    rintro _ ⟨⟩
    exact ⟨rfl, _, rfl⟩
  have hbrings : some market.memeMint = none →
      market.memeAccount client.payer = client.payer ∧ market.memeMint = systemProgram :=
    fun hnone => by cases hnone
  cases needsBridge with
  | true =>
    change market.payAsset opts.buyWith = some wsolMint at hasset
    change Carries _ (ata client.payer wsolMint tokenProgram) _ (market.market.buyHop _
      (some market.quoteMint)).input.account (market.market.buyHop _
      (some market.quoteMint)).output.account _ _ at hlegs
    rw [hsides.buyInput, hsides.buyOutput] at hlegs
    refine hlegs.agree ?_ rfl (fun _ => rfl) ?_ hbrings hmint
      fun hata _ => ⟨hmeme hata, hquote hata⟩
    · exact (buyFee_feeSource hasset).trans (by rw [if_pos rfl])
    · rw [hasset]
      exact fun hnone => by cases hnone
  | false =>
    change Carries _ (market.market.buyHop _ (market.payAsset opts.buyWith)).input.account _ _
      (market.market.buyHop _ (market.payAsset opts.buyWith)).output.account _ _ at hlegs
    have hdirect : ∀ {paid : Pubkey}, opts.ata = .createAllInTrade →
        some market.memeMint ≠ none →
        Created client.payer trade.setup (market.memeAccount client.payer)
          ∧ (false = true → Created client.payer trade.setup paid) := fun hata _ =>
      ⟨hmeme hata, fun hneeds => by cases hneeds⟩
    rcases hasset with hasset | hasset
    · rw [hasset, hsides.buyInput, hsides.buyOutput] at hlegs
      refine hlegs.agree ?_ rfl (fun hneeds => by cases hneeds) ?_ hbrings hmint hdirect
      · refine (buyFee_feeSource hasset).trans (market.quoteAccount_eq h.tokenProgramSet
          (hclassic ?_ rfl) _)
        rw [hasset]
        exact Option.some_ne_none _
      · rw [hasset]
        exact fun hnone => by cases hnone
    · obtain ⟨hinput, houtput, -⟩ := market.native_sides
        (RoutedMarket.payAsset_eq_none.mp hasset).2 client.payer
      rw [hasset, hinput, houtput] at hlegs
      exact hlegs.agree (buyFee_native hasset) rfl (fun hneeds => by cases hneeds)
        (fun _ => rfl) hbrings hmint hdirect

/-! ## Sales -/

omit [Pda] [Upstream] in
/-- Where a sale pays: the payer's lamports, or an account of the asset it
brings. -/
theorem sellOutput_native (client : RouterClient)
    (h : market.receiveAsset opts.sellTo = none) (account : Pubkey) :
    client.sellOutput market opts.sellTo account = (systemProgram, client.payer) := by
  obtain ⟨hsell, hnative⟩ := RoutedMarket.receiveAsset_eq_none.mp h
  rw [hsell, RouterClient.sellOutput]
  exact if_pos hnative

omit [Pda] [Upstream] in
/-- A sale to a token is paid into the account given. -/
theorem sellOutput_token {mint : Pubkey} (h : market.receiveAsset opts.sellTo = some mint)
    (account : Pubkey) : client.sellOutput market opts.sellTo account = (mint, account) := by
  cases hsell : opts.sellTo with
  | token receiveMint =>
    rw [hsell] at h
    cases h
    rfl
  | wsol =>
    rw [hsell] at h
    cases h
    rfl
  | sol =>
    rw [hsell, RoutedMarket.receiveAsset] at h
    rw [RouterClient.sellOutput]
    split at h
    · cases h
    · rename_i hnative
      cases h
      exact if_neg hnative

omit [Upstream] in
/-- The account a sale for a token pays. -/
theorem SellPlan.account_eq {user account : Pubkey} {sellAmt minOut : UInt64}
    (h : SellPlan user market opts sellAmt needsBridge legs minOut account)
    (hasset : market.receiveAsset opts.sellTo ≠ none) :
    account = if needsBridge then ata user wsolMint tokenProgram
      else (market.market.receiveSide user (market.receiveAsset opts.sellTo)).account := by
  cases h with
  | single _ haccount => exact haccount hasset
  | bridged => rfl

omit [Upstream] in
/-- **The setup of a sale creates the account it pays.** -/
theorem mem_sellSetup (client : RouterClient) (fee : UInt64) {mint : Pubkey}
    (hasset : RouterClient.checkPumpSellAsset market.market opts.sellTo = .ok ())
    (hata : opts.ata = .createAllInTrade)
    (h : market.receiveAsset opts.sellTo = some mint) :
    createAtaIdempotent client.payer client.payer mint
        (if opts.sellTo.receiveMint = none then tokenProgram else market.quoteTokenProgram)
      ∈ (client.sellSetup market opts fee).setup := by
  have hwsol : ∀ s : TradeSetup, createAtaIdempotent client.payer client.payer wsolMint
      tokenProgram ∈ (s.pushCreateAta opts.ata .wsol client.payer wsolMint tokenProgram).setup :=
    fun s => TradeSetup.mem_pushCreateAta (by rw [hata]; rfl)
  unfold RouterClient.sellSetup
  dsimp only
  cases hsell : opts.sellTo with
  | token receiveMint =>
    rw [hsell] at h
    cases h
    exact TradeSetup.mem_useAta (by rw [hata]; rfl) (by rw [hata]; rfl)
  | wsol =>
    rw [hsell] at h hasset
    cases h
    rw [if_pos]
    · exact hwsol _
    · unfold RouterClient.checkPumpSellAsset at hasset
      cases hnative : market.market.isPumpNativeSol with
      | false => rfl
      | true =>
        rw [hnative] at hasset
        have hsettles := failIf_eq_ok.mp hasset
        simpa using hsettles
  | sol =>
    rw [hsell, RoutedMarket.receiveAsset] at h
    split at h
    · cases h
    · rename_i hnative
      cases h
      rw [if_pos]
      · exact hwsol _
      · rw [Bool.not_eq_true] at hnative
        rw [hnative]
        rfl

omit [Upstream] in
/-- **The accounts of a sale agree** where the programs of its market do. -/
theorem RouterClient.Sold.agree {sellAmt minOut : UInt64} {account : Pubkey}
    (hs : client.Sold amountIn market opts trade needsBridge sellAmt minOut account legs s)
    (h : market.market.ProgramsAgree)
    (hclassic : market.receiveAsset opts.sellTo ≠ none → needsBridge = false →
      WsolClassic market.market.listed) :
    AccountsAgree client.payer opts.ata (some market.memeMint) (market.receiveAsset opts.sellTo)
      (client.sellHeader market opts amountIn minOut account) legs trade.setup := by
  have hsides := market.sides_agree h client.payer
  have hasset := RoutedMarket.receiveAsset_eq hs.path
  have hlegs := hs.plan.carries
  have hsetup : (client.sellSetup market opts (feeAmount amountIn client.feeBps)).setup
      ⊆ trade.setup := by
    rw [hs.setup]
    exact hs.prepares.keeps.subset
  have hpays : some market.memeMint = none → market.memeAccount client.payer = client.payer :=
    fun hnone => by cases hnone
  cases needsBridge with
  | true =>
    change market.receiveAsset opts.sellTo = some wsolMint at hasset
    change Carries _ (market.market.sellHop _ (some market.quoteMint)).input.account
      (market.market.sellHop _ (some market.quoteMint)).output.account _
      (ata client.payer wsolMint tokenProgram) _ _ at hlegs
    rw [hsides.sellInput, hsides.sellOutput] at hlegs
    have hne : market.receiveAsset opts.sellTo ≠ none := by
      rw [hasset]
      exact Option.some_ne_none _
    have haccount : account = ata client.payer wsolMint tokenProgram := hs.plan.account_eq hne
    have hnone : opts.sellTo.receiveMint = none := by
      cases hmint : opts.sellTo.receiveMint with
      | none => rfl
      | some mint => exact absurd (hs.path.token_eq mint hmint).2 (by decide)
    refine hlegs.agree rfl ?_ (fun _ => rfl) hpays (fun hno => absurd hno hne) ?_ ?_
    · rw [← haccount]
      exact congrArg Prod.snd (sellOutput_token hasset account)
    · intro mint hmint
      cases hasset.symm.trans hmint
      exact ⟨congrArg Prod.fst (sellOutput_token hasset account), _, rfl⟩
    · intro hata _
      have hmem := mem_sellSetup client (feeAmount amountIn client.feeBps)
        hs.asset hata hasset
      rw [if_pos hnone] at hmem
      refine ⟨⟨_, _, rfl, hsetup hmem⟩, fun _ => ⟨_, _, rfl, ?_⟩⟩
      rw [hs.setup]
      exact hs.prepares.creates rfl (by rw [hata]; rfl) (by rw [hata]; rfl)
  | false =>
    change Carries _ (market.market.sellHop _ (market.receiveAsset opts.sellTo)).input.account _ _
      (market.market.sellHop _ (market.receiveAsset opts.sellTo)).output.account _ _ at hlegs
    rcases hasset with hasset | hasset
    · have hne : market.receiveAsset opts.sellTo ≠ none := by
        rw [hasset]
        exact Option.some_ne_none _
      rw [hasset, hsides.sellInput, hsides.sellOutput] at hlegs
      have haccount : account = market.quoteAccount client.payer := by
        refine (hs.plan.account_eq hne).trans ?_
        rw [hasset]
        exact hsides.receive
      -- The setup creates the account of WSOL under the classic program.
      have hprogram : (if opts.sellTo.receiveMint = none then tokenProgram
          else market.quoteTokenProgram) = market.quoteTokenProgram := by
        split
        · rename_i hnone
          exact (hclassic hne rfl _ (market.quote_listed h.tokenProgramSet)
            (market.quoteMint_of_direct (hs.path.sol hnone).symm)).symm
        · rfl
      refine hlegs.agree rfl ?_ (fun hneeds => by cases hneeds) hpays
        (fun hno => absurd hno hne) ?_ ?_
      · rw [← haccount]
        exact congrArg Prod.snd (sellOutput_token hasset account)
      · intro mint hmint
        cases hasset.symm.trans hmint
        exact ⟨congrArg Prod.fst (sellOutput_token hasset account), _, rfl⟩
      · intro hata _
        have hmem := mem_sellSetup client (feeAmount amountIn client.feeBps)
          hs.asset hata hasset
        rw [hprogram] at hmem
        exact ⟨⟨_, _, rfl, hsetup hmem⟩, fun hneeds => by cases hneeds⟩
    · obtain ⟨-, -, hinput, houtput⟩ := market.native_sides
        (RoutedMarket.receiveAsset_eq_none.mp hasset).2 client.payer
      rw [hasset, hinput, houtput] at hlegs
      have hpayer := sellOutput_native client hasset account
      refine hlegs.agree rfl (congrArg Prod.snd hpayer) (fun hneeds => by cases hneeds) hpays
        (fun _ => ⟨rfl, congrArg Prod.fst hpayer⟩) ?_ (fun _ hne => absurd hasset hne)
      intro mint hmint
      cases hasset.symm.trans hmint

/-! ## Where they do not agree -/

omit [Pda] [Upstream] in
/-- A curve in native SOL has no programs to disagree. -/
theorem Market.programsAgree_of_native {market : Market}
    (h : market.isPumpNativeSol = true) : market.ProgramsAgree := by
  cases market with
  | pumpFunInner pool => trivial
  | _ => cases h

/-- **Where the programs disagree, the accounts of a buy do**, if the market's
addresses are separate. -/
theorem RouterClient.Bought.not_agree {spend spent routeAmountIn minOut : UInt64}
    (hb : client.Bought amountIn market opts trade needsBridge spend spent routeAmountIn minOut
      legs s)
    (h : ¬ market.market.ProgramsAgree) (hseparates : market.Separates client.payer) :
    ¬ AccountsAgree client.payer opts.ata (market.payAsset opts.buyWith) (some market.memeMint)
      (client.buyHeader market opts routeAmountIn minOut) legs trade.setup := by
  intro hagree
  obtain ⟨-, htarget, -⟩ := hagree.of_carries hb.plan.carries
  have hhop : (if needsBridge then some market.quoteMint else market.payAsset opts.buyWith)
      = some market.quoteMint := by
    have hasset := RoutedMarket.payAsset_eq hb.path
    cases needsBridge with
    | true => rfl
    | false =>
      refine hasset.resolve_right fun hnone => h ?_
      exact Market.programsAgree_of_native (RoutedMarket.payAsset_eq_none.mp hnone).2
  rw [hhop] at htarget
  exact (market.sides_differ h hseparates).1 htarget.symm

omit [Upstream] in
/-- **And so do those of a sale.** -/
theorem RouterClient.Sold.not_agree {sellAmt minOut : UInt64} {account : Pubkey}
    (hs : client.Sold amountIn market opts trade needsBridge sellAmt minOut account legs s)
    (h : ¬ market.market.ProgramsAgree) (hseparates : market.Separates client.payer) :
    ¬ AccountsAgree client.payer opts.ata (some market.memeMint)
      (market.receiveAsset opts.sellTo) (client.sellHeader market opts amountIn minOut account)
      legs trade.setup := by
  intro hagree
  have hasset := RoutedMarket.receiveAsset_eq hs.path
  obtain ⟨hsource, htarget, hmeets⟩ := hagree.of_carries hs.plan.carries
  cases needsBridge with
  | true =>
    rcases (market.sides_differ h hseparates).2 with hinput | ⟨houtput, -⟩
    · exact hinput hsource.symm
    · exact houtput (hmeets rfl)
  | false =>
    have hquote : market.receiveAsset opts.sellTo = some market.quoteMint := by
      refine hasset.resolve_right fun hnone => h ?_
      exact Market.programsAgree_of_native (RoutedMarket.receiveAsset_eq_none.mp hnone).2
    have haccount := hs.plan.account_eq (by rw [hquote]; exact Option.some_ne_none _)
    change account = (market.market.receiveSide _ (market.receiveAsset opts.sellTo)).account
      at haccount
    change _ = (market.market.sellHop _ (market.receiveAsset opts.sellTo)).input.account
      at hsource
    change (client.sellOutput market opts.sellTo account).2
      = (market.market.sellHop _ (market.receiveAsset opts.sellTo)).output.account at htarget
    rw [sellOutput_token hquote] at htarget
    rw [hquote] at haccount hsource htarget
    rcases (market.sides_differ h hseparates).2 with hinput | ⟨houtput, hreceive⟩
    · exact hinput hsource.symm
    · exact houtput (htarget.symm.trans (haccount.trans hreceive))

end Trades

end Accounts

/-- **A trade names its accounts once exactly where the programs of its market
agree.** Then the first leg takes from the header's fee source, the last pays
into its output account, whose mint is the expected one, two legs meet in one
account, and every account paid into is created beforehand if the policy is
to create all. Where they do not agree, one of these fails. -/
theorem accounts_agree_iff [Pda] [Upstream] (client : RouterClient) (amountIn : UInt64)
    (market : RoutedMarket) (opts : TradeOpts) (trade : BuiltTrade) :
    (client.buyWithOpts amountIn market opts = .ok trade →
      ∃ (header : BuiltHeader) (legs : List Leg),
        trade.route = some (header.route client.programId legs)
        ∧ (market.market.ProgramsAgree →
          AccountsAgree client.payer opts.ata (market.payAsset opts.buyWith)
            (some market.memeMint) header legs trade.setup)
        ∧ (market.Separates client.payer →
          AccountsAgree client.payer opts.ata (market.payAsset opts.buyWith)
            (some market.memeMint) header legs trade.setup → market.market.ProgramsAgree))
    ∧ (client.sellWithOpts amountIn market opts = .ok trade →
      ∃ (header : BuiltHeader) (legs : List Leg),
        trade.route = some (header.route client.programId legs)
        ∧ (market.market.ProgramsAgree →
          AccountsAgree client.payer opts.ata (some market.memeMint)
            (market.receiveAsset opts.sellTo) header legs trade.setup)
        ∧ (market.Separates client.payer →
          AccountsAgree client.payer opts.ata (some market.memeMint)
            (market.receiveAsset opts.sellTo) header legs trade.setup →
              market.market.ProgramsAgree)) := by
  refine ⟨fun h => ?_, fun h => ?_⟩
  · obtain ⟨needsBridge, spend, spent, routeAmountIn, minOut, legs, s, hb⟩ :=
      RouterClient.buyWithOpts_eq_ok h
    refine ⟨_, _, hb.route, fun hagree => hb.agree hagree (hb.classic h),
      fun hseparates hagree => ?_⟩
    exact not_not.mp fun hnot => hb.not_agree hnot hseparates hagree
  · obtain ⟨needsBridge, sellAmt, minOut, account, legs, s, hs⟩ :=
      RouterClient.sellWithOpts_eq_ok h
    refine ⟨_, _, hs.route, fun hagree => hs.agree hagree (hs.classic h),
      fun hseparates hagree => ?_⟩
    exact not_not.mp fun hnot => hs.not_agree hnot hseparates hagree

/-! ## Runs on fixed accounts -/

/-- Derived addresses for runs on fixed accounts, which depend on every
seed. -/
@[reducible] def mixedSeedsPda : Pda where
  find seeds _ := ((Pubkey.ofBytes? (seeds.foldl (List.zipWith (· ^^^ ·))
    (List.replicate 32 0))).getD default, 255)
  tryFind seeds _ := (Pubkey.ofBytes? (seeds.foldl (List.zipWith (· ^^^ ·))
    (List.replicate 32 0))).map (·, 255)
  create _ _ := none

/-- A snapshot of an AMM V4 pool whose token program is not set. -/
def unsetAmmV4 : RaydiumAmmV4Pool := { sampleBridge with tokenProgram := Pubkey.default }

/-- **A buy names its accounts once** where the token program is set, and does
not where it is not. -/
theorem sampleAmmV4_accounts_agree :
    letI := mixedSeedsPda
    letI := sampleUpstream
    (∃ (trade : BuiltTrade) (header : BuiltHeader) (legs : List Leg),
      trade.route = some (header.route sampleClient.programId legs)
        ∧ AccountsAgree sampleClient.payer .createAllInTrade (some wsolMint)
          (some (sampleKey 11)) header legs trade.setup)
    ∧ ∃ (trade : BuiltTrade) (header : BuiltHeader) (legs : List Leg),
      trade.route = some (header.route sampleClient.programId legs)
        ∧ ¬ AccountsAgree sampleClient.payer .createAllInTrade (some wsolMint)
          (some (sampleKey 11)) header legs trade.setup := by
  let := mixedSeedsPda
  let := sampleUpstream
  constructor
  · obtain ⟨trade, htrade⟩ : ∃ trade, sampleClient.buyWithOpts 1000
        ⟨.raydiumAmmV4 sampleBridge, none⟩ sampleOpts = .ok trade :=
      exists_ok_of_toBool (by decide +kernel)
    obtain ⟨header, legs, hroute, hagree, -⟩ := (accounts_agree_iff sampleClient 1000 _ sampleOpts
      trade).1 htrade
    exact ⟨trade, header, legs, hroute, hagree (by decide)⟩
  · obtain ⟨trade, htrade⟩ : ∃ trade, sampleClient.buyWithOpts 1000
        ⟨.raydiumAmmV4 unsetAmmV4, none⟩ sampleOpts = .ok trade :=
      exists_ok_of_toBool (by decide +kernel)
    obtain ⟨header, legs, hroute, -, hagrees⟩ := (accounts_agree_iff sampleClient 1000 _
      sampleOpts trade).1 htrade
    exact ⟨trade, header, legs, hroute, fun hagree => hagrees (by decide) hagree rfl⟩

/-- The output account of a route's header is among the accounts of its
legs. -/
def namesOutput (ix : Instruction) : Bool :=
  (ix.accounts[4]?).any fun output => (ix.accounts.drop 6).any (·.pubkey = output.pubkey)

/-- Accounts that agree name the output. -/
theorem AccountsAgree.namesOutput [Pda] {user : Pubkey} {policy : AtaPolicy}
    {pays brings : Option Pubkey} {header : BuiltHeader} {legs : List Leg}
    {setup : List Instruction} (programId : Pubkey)
    (h : AccountsAgree user policy pays brings header legs setup) :
    namesOutput (header.route programId legs) = true := by
  obtain ⟨last, hlast, _, _, _, _, hswaps⟩ := h.output
  obtain ⟨x, hx, hkey, -⟩ := hswaps.receives
  obtain ⟨rest, hrest⟩ := WireFormat.exists_accounts_eq programId header.accounts
    header.amountIn header.minAmountOut header.feeAsset header.exactOut
    header.expectedOutputMint legs
  have hmem : x ∈ legs.flatMap Leg.accounts ++ rest :=
    List.mem_append_left _ (List.mem_flatMap.mpr ⟨last, List.mem_of_getLast? hlast,
      List.mem_of_getElem? hx⟩)
  unfold Sdk.namesOutput BuiltHeader.route
  rw [hrest]
  exact List.any_eq_true.mpr ⟨x, hmem, decide_eq_true hkey⟩

/-- **The header of a buy names an account that no leg pays into**, where the
snapshot leaves the token program unset. -/
theorem unsetAmmV4_accounts_differ :
    letI := mixedSeedsPda
    letI := sampleUpstream
    ¬ ∀ (client : RouterClient) (amountIn : UInt64) (market : RoutedMarket) (opts : TradeOpts)
      (trade : BuiltTrade), client.buyWithOpts amountIn market opts = .ok trade →
        ∃ (header : BuiltHeader) (legs : List Leg),
          trade.route = some (header.route client.programId legs)
          ∧ AccountsAgree client.payer opts.ata (market.payAsset opts.buyWith)
            (some market.memeMint) header legs trade.setup := by
  let := mixedSeedsPda
  let := sampleUpstream
  intro hall
  have hnames : (sampleClient.buyWithOpts 1000 ⟨.raydiumAmmV4 unsetAmmV4, none⟩ sampleOpts).map
      (fun trade => trade.route.map namesOutput) = .ok (some false) := by
    decide +kernel
  cases hbuilt : sampleClient.buyWithOpts 1000 ⟨.raydiumAmmV4 unsetAmmV4, none⟩ sampleOpts with
  | error e =>
    rw [hbuilt] at hnames
    cases hnames
  | ok trade =>
    obtain ⟨header, legs, hroute, hagree⟩ := hall _ _ _ _ trade hbuilt
    rw [hbuilt] at hnames
    change Except.ok (trade.route.map namesOutput) = _ at hnames
    rw [hroute, Option.map_some, hagree.namesOutput] at hnames
    cases hnames

end Sdk
