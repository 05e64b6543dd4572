import SolTradeRouter.UserAccounts

/-!
# Preparing the accounts of a trade

A trade needs token accounts: the payer's, of what it pays with, of what it
brings and of what its legs pass on, and the fee recipient's. The SDK creates
those that are used again and again in a transaction of their own, ahead of
the trade, and leaves the account of a bought coin to the trade itself.

The two together create all of them. For a sale the coins are in an account
already, and its preparation alone suffices.
-/

namespace Sdk

open Outcome

/-! ## Ahead of a trade -/

namespace RouterClient

variable [Pda] (client : RouterClient)

/-- Create any ATA for `payer` as owner. -/
def createAta (mint tokenProgram : Pubkey) : Instruction :=
  Sdk.createAta client.payer client.payer mint tokenProgram

def createWsolAta : Instruction := Sdk.createWsolAta client.payer

def createQuoteAta (market : RoutedMarket) : Instruction :=
  client.createAta market.quoteMint market.quoteTokenProgram

omit [Pda] in
/-- Native SOL needs no ATA; explicit V2 WSOL settlement does. -/
def needsWsol (market : Market) (wrapped : Bool) : Bool :=
  match market with
  | .pumpFunInner pool =>
    if pool.isNativeSolQuote then wrapped && pool.usesWsolAtaSettlement else true
  | _ => true

/-- Prepare **reusable** ATAs for buys (WSOL + stock/quote + fee recipient).
Does **not** create meme ATA. -/
def prepareBuyAtas (market : RoutedMarket) (buyWith : BuyWith) : List Instruction :=
  match buyWith with
  | .sol | .wsol =>
    (if needsWsol market.market (buyWith = .wsol) then
      [client.createWsolAta, Sdk.createAta client.payer client.feeRecipient wsolMint tokenProgram]
    else [])
      ++ (if market.market.needsSolBridge then [client.createQuoteAta market] else [])
  | .token mint =>
    let tp := if mint = wsolMint then tokenProgram else market.quoteTokenProgram
    [client.createAta mint tp, Sdk.createAta client.payer client.feeRecipient mint tp]

/-- Prepare sell ATAs (output side + fee recipient meme ATA). -/
def prepareSellAtas (market : RoutedMarket) (sellTo : SellTo) : List Instruction :=
  Sdk.createAta client.payer client.feeRecipient market.memeMint market.memeTokenProgram ::
    match sellTo with
    | .sol | .wsol =>
      (if needsWsol market.market (sellTo = .wsol) then [client.createWsolAta] else [])
        ++ (if market.market.needsSolBridge then [client.createQuoteAta market] else [])
    | .token mint =>
      let tp := if mint = wsolMint then tokenProgram else market.quoteTokenProgram
      [client.createAta mint tp]

end RouterClient

/-! ## What is covered -/

section Covered

variable [Pda]

/-- Instructions of a payer create an owner's account of a mint. -/
def CreatedFor (payer owner : Pubkey) (instructions : List Instruction) (account : Pubkey) :
    Prop :=
  ∃ mint program, account = ata owner mint program
    ∧ createAta payer owner mint program ∈ instructions

/-- An account that a trade of the payer can use: the payer itself, one it has
already, or one that the instructions create for it. -/
def Available (payer : Pubkey) (owned : List Pubkey) (instructions : List Instruction)
    (account : Pubkey) : Prop :=
  account = payer ∨ account ∈ owned ∨ CreatedFor payer payer instructions account

/-- **Every account of a route is there**: those each leg takes from and pays
into, those that the header compares, and the fee recipient's. -/
structure Covered (payer recipient : Pubkey) (owned : List Pubkey)
    (instructions : List Instruction) (header : BuiltHeader) (legs : List Leg) : Prop where
  legs : ∀ leg ∈ legs,
    (∃ account, leg.Debits payer account ∧ Available payer owned instructions account)
      ∧ ∃ account, leg.Credits payer account ∧ Available payer owned instructions account
  source : Available payer owned instructions header.accounts.feeSource
  output : Available payer owned instructions header.accounts.outputTokenAccount
  fee : header.feeAsset = feeAssetToken →
    CreatedFor payer recipient instructions header.accounts.feeDestination

variable {payer recipient source paid taken target : Pubkey} {owned : List Pubkey}
  {instructions more : List Instruction} {needsBridge : Bool} {legs : List Leg}
  {header : BuiltHeader}

/-- Accounts stay created when instructions are added. -/
theorem CreatedFor.mono {owner account : Pubkey}
    (h : CreatedFor payer owner instructions account) (hsub : instructions ⊆ more) :
    CreatedFor payer owner more account := by
  obtain ⟨mint, program, haccount, hmem⟩ := h
  exact ⟨mint, program, haccount, hsub hmem⟩

/-- **The accounts at the ends, and the ones in the middle, are all.** -/
theorem Carries.covered (h : Carries payer source paid taken target needsBridge legs)
    (hsource : header.accounts.feeSource = source)
    (htarget : header.accounts.outputTokenAccount = target)
    (hmeets : needsBridge = true → paid = taken)
    (hfrom : Available payer owned instructions header.accounts.feeSource)
    (hinto : Available payer owned instructions header.accounts.outputTokenAccount)
    (hmiddle : needsBridge = true → Available payer owned instructions paid)
    (hfee : header.feeAsset = feeAssetToken →
      CreatedFor payer recipient instructions header.accounts.feeDestination) :
    Covered payer recipient owned instructions header legs := by
  refine ⟨?_, hfrom, hinto, hfee⟩
  subst hsource htarget
  cases h with
  | direct hdebits hcredits =>
    refine List.forall_mem_singleton.mpr ⟨⟨_, hdebits, hfrom⟩, _, hcredits, hinto⟩
  | bridged hdebits hpaid htaken hcredits =>
    have hmiddle := hmiddle rfl
    rw [← hmeets rfl] at htaken
    refine List.forall_mem_cons.mpr ⟨⟨⟨_, hdebits, hfrom⟩, _, hpaid, hmiddle⟩, ?_⟩
    exact List.forall_mem_singleton.mpr ⟨⟨_, htaken, hmiddle⟩, _, hcredits, hinto⟩

end Covered

/-! ## Buys and sales -/

section Trades

variable [Pda] {client : RouterClient} {market : RoutedMarket} {opts : TradeOpts}
  {amountIn : UInt64} {trade : BuiltTrade} {needsBridge : Bool} {legs : List Leg}
  {s : TradeSetup}

/-- The token program of a mint that a market is paid with. -/
def payProgram (market : RoutedMarket) (mint : Pubkey) : Pubkey :=
  if mint = wsolMint then tokenProgram else market.quoteTokenProgram

omit [Pda] in
/-- A curve in native SOL needs the account only where it settles through it. -/
theorem needsWsol_eq_true {m : Market} {wrapped : Bool}
    (h : m.isPumpNativeSol = true → wrapped = true ∧ m.isPumpWsolAta = true) :
    RouterClient.needsWsol m wrapped = true := by
  cases m with
  | pumpFunInner pool =>
    show (if pool.isNativeSolQuote then wrapped && pool.usesWsolAtaSettlement else true) = true
    by_cases hnative : pool.isNativeSolQuote = true
    · obtain ⟨hwrapped, hsettles⟩ := h hnative
      have hsettles : pool.usesWsolAtaSettlement = true := hsettles
      rw [if_pos hnative, hwrapped, hsettles]
      rfl
    · rw [if_neg hnative]
  | _ => rfl

/-- **What a buy pays with is prepared**, for the payer and the recipient. -/
theorem mem_prepareBuyAtas (client : RouterClient) {mint : Pubkey}
    (hasset : RouterClient.checkPumpBuyAsset market.market opts.buyWith = .ok ())
    (h : market.payAsset opts.buyWith = some mint) :
    createAta client.payer client.payer mint (payProgram market mint)
        ∈ client.prepareBuyAtas market opts.buyWith
      ∧ createAta client.payer client.feeRecipient mint (payProgram market mint)
        ∈ client.prepareBuyAtas market opts.buyWith := by
  have hwsol : ∀ wrapped : Bool, RouterClient.needsWsol market.market wrapped = true →
      ∀ rest, createAta client.payer client.payer wsolMint tokenProgram
          ∈ (if RouterClient.needsWsol market.market wrapped then
            [client.createWsolAta, createAta client.payer client.feeRecipient wsolMint
              tokenProgram] else []) ++ rest
        ∧ createAta client.payer client.feeRecipient wsolMint tokenProgram
          ∈ (if RouterClient.needsWsol market.market wrapped then
            [client.createWsolAta, createAta client.payer client.feeRecipient wsolMint
              tokenProgram] else []) ++ rest := by
    intro wrapped hneeds rest
    rw [if_pos hneeds]
    exact ⟨List.mem_cons_self, List.mem_cons_of_mem _ List.mem_cons_self⟩
  unfold RouterClient.prepareBuyAtas
  cases hbuy : opts.buyWith with
  | token payMint =>
    rw [hbuy] at h
    cases h
    exact ⟨List.mem_cons_self, List.mem_cons_of_mem _ List.mem_cons_self⟩
  | wsol =>
    rw [hbuy] at h hasset
    cases h
    rw [payProgram, if_pos rfl]
    refine hwsol _ (needsWsol_eq_true fun hnative => ⟨rfl, ?_⟩) _
    unfold RouterClient.checkPumpBuyAsset at hasset
    rw [hnative] at hasset
    simpa using failIf_eq_ok.mp hasset
  | sol =>
    rw [hbuy, RoutedMarket.payAsset] at h
    split at h
    · cases h
    · rename_i hnative
      cases h
      rw [payProgram, if_pos rfl]
      exact hwsol _ (needsWsol_eq_true fun hpump => absurd hpump hnative) _

/-- The account in the middle of a bridged buy is prepared. -/
theorem quote_mem_prepareBuyAtas (client : RouterClient)
    (hneeds : market.market.needsSolBridge = true)
    (h : opts.buyWith.payMint = none) :
    createAta client.payer client.payer market.quoteMint market.quoteTokenProgram
      ∈ client.prepareBuyAtas market opts.buyWith := by
  unfold RouterClient.prepareBuyAtas
  cases hbuy : opts.buyWith with
  | token payMint =>
    rw [hbuy] at h
    cases h
  | wsol | sol =>
    dsimp only
    rw [if_pos hneeds]
    exact List.mem_append_right _ List.mem_cons_self

/-- **The fee's accounts are of what the buy pays with.** -/
theorem buyFee_accounts {mint : Pubkey} (h : market.payAsset opts.buyWith = some mint) :
    (client.buyFee market opts).feeSource = ata client.payer mint (payProgram market mint)
      ∧ (client.buyFee market opts).feeDestination
        = ata client.feeRecipient mint (payProgram market mint) := by
  refine ⟨buyFee_feeSource h, ?_⟩
  unfold RouterClient.buyFee
  cases hbuy : opts.buyWith with
  | token payMint =>
    rw [hbuy] at h
    cases h
    rfl
  | wsol =>
    rw [hbuy] at h
    cases h
    rw [payProgram, if_pos rfl]
    rfl
  | sol =>
    rw [hbuy, RoutedMarket.payAsset] at h
    split at h
    · cases h
    · rename_i hnative
      cases h
      dsimp only
      rw [if_neg hnative, payProgram, if_pos rfl]
      rfl

/-- **A prepared buy finds every account**, if it creates the account of the
meme itself. -/
theorem RouterClient.Bought.covered [Upstream] {spend spent routeAmountIn minOut : UInt64}
    (hb : client.Bought amountIn market opts trade needsBridge spend spent routeAmountIn minOut
      legs s) (hmeme : opts.ata.createMeme = true) (h : market.market.ProgramsAgree)
    (hclassic : market.payAsset opts.buyWith ≠ none → needsBridge = false →
      WsolClassic market.market.listed) :
    Covered client.payer client.feeRecipient []
      (client.prepareBuyAtas market opts.buyWith ++ trade.setup)
      (client.buyHeader market opts routeAmountIn minOut) legs := by
  obtain ⟨hsource, htarget, hmeets⟩ := (hb.agree h hclassic).of_carries hb.plan.carries
  have hsetup : (client.buySetup market opts).setup ⊆ trade.setup := by
    rw [hb.setup]
    exact fun _ hmem => completeBuySetup_subset _ _ (hb.prepares.keeps.subset hmem)
  refine hb.plan.carries.covered hsource htarget hmeets ?_ ?_ ?_ ?_
  · cases hpay : market.payAsset opts.buyWith with
    | none => exact .inl (buyFee_native hpay)
    | some mint =>
      have hmem := (mem_prepareBuyAtas client hb.asset hpay).1
      exact .inr (.inr ⟨_, _, (buyFee_accounts hpay).1, List.mem_append_left _ hmem⟩)
  · exact .inr (.inr ⟨_, _, rfl, List.mem_append_right _ (hsetup (mem_buySetup hmeme))⟩)
  · rintro rfl
    have hnone : opts.buyWith.payMint = none := by
      cases hmint : opts.buyWith.payMint with
      | none => rfl
      | some mint => exact absurd (hb.path.token_eq mint hmint).2 (by decide)
    have hmem := quote_mem_prepareBuyAtas client (hb.path.sol hnone).symm hnone
    exact .inr (.inr ⟨_, _, rfl, List.mem_append_left _ hmem⟩)
  · intro hasset
    cases hpay : market.payAsset opts.buyWith with
    | none =>
      obtain ⟨hbuy, hnative⟩ := RoutedMarket.payAsset_eq_none.mp hpay
      have hsol : (client.buyFee market opts).feeAsset = feeAssetSol := by
        unfold RouterClient.buyFee
        rw [hbuy]
        exact congrArg FeeAccounts.feeAsset (if_pos hnative)
      exact absurd (hsol.symm.trans hasset) (by decide)
    | some mint =>
      have hmem := (mem_prepareBuyAtas client hb.asset hpay).2
      exact ⟨_, _, (buyFee_accounts hpay).2, List.mem_append_left _ hmem⟩

/-- **What a sale is paid in is prepared.** -/
theorem mem_prepareSellAtas (client : RouterClient) {mint : Pubkey}
    (hasset : RouterClient.checkPumpSellAsset market.market opts.sellTo = .ok ())
    (h : market.receiveAsset opts.sellTo = some mint) :
    createAta client.payer client.payer mint (payProgram market mint)
      ∈ client.prepareSellAtas market opts.sellTo := by
  have hwsol : ∀ wrapped : Bool, RouterClient.needsWsol market.market wrapped = true →
      ∀ rest, createAta client.payer client.payer wsolMint tokenProgram
        ∈ (if RouterClient.needsWsol market.market wrapped then [client.createWsolAta] else [])
          ++ rest := by
    intro wrapped hneeds rest
    rw [if_pos hneeds]
    exact List.mem_cons_self
  unfold RouterClient.prepareSellAtas
  refine List.mem_cons_of_mem _ ?_
  cases hsell : opts.sellTo with
  | token receiveMint =>
    rw [hsell] at h
    cases h
    exact List.mem_cons_self
  | wsol =>
    rw [hsell] at h hasset
    cases h
    rw [payProgram, if_pos rfl]
    refine hwsol _ (needsWsol_eq_true fun hnative => ⟨rfl, ?_⟩) _
    unfold RouterClient.checkPumpSellAsset at hasset
    rw [hnative] at hasset
    simpa using failIf_eq_ok.mp hasset
  | sol =>
    rw [hsell, RoutedMarket.receiveAsset] at h
    split at h
    · cases h
    · rename_i hnative
      cases h
      rw [payProgram, if_pos rfl]
      exact hwsol _ (needsWsol_eq_true fun hpump => absurd hpump hnative) _

/-- The account in the middle of a bridged sale is prepared. -/
theorem quote_mem_prepareSellAtas (client : RouterClient)
    (hneeds : market.market.needsSolBridge = true)
    (h : opts.sellTo.receiveMint = none) :
    createAta client.payer client.payer market.quoteMint market.quoteTokenProgram
      ∈ client.prepareSellAtas market opts.sellTo := by
  unfold RouterClient.prepareSellAtas
  refine List.mem_cons_of_mem _ ?_
  cases hsell : opts.sellTo with
  | token receiveMint =>
    rw [hsell] at h
    cases h
  | wsol | sol =>
    dsimp only
    rw [if_pos hneeds]
    exact List.mem_append_right _ List.mem_cons_self

/-- **A prepared sale finds every account**, if the payer has the account it
sells from. -/
theorem RouterClient.Sold.covered {sellAmt minOut : UInt64} {account : Pubkey}
    (hs : client.Sold amountIn market opts trade needsBridge sellAmt minOut account legs s)
    (h : market.market.ProgramsAgree)
    (hclassic : market.receiveAsset opts.sellTo ≠ none → needsBridge = false →
      WsolClassic market.market.listed) :
    Covered client.payer client.feeRecipient [market.memeAccount client.payer]
      (client.prepareSellAtas market opts.sellTo)
      (client.sellHeader market opts amountIn minOut account) legs := by
  have hsides := market.sides_agree h client.payer
  obtain ⟨hsource, htarget, hmeets⟩ := (hs.agree h hclassic).of_carries hs.plan.carries
  refine hs.plan.carries.covered hsource htarget hmeets (.inr (.inl List.mem_cons_self)) ?_ ?_ ?_
  · rw [htarget]
    have hasset := RoutedMarket.receiveAsset_eq hs.path
    cases needsBridge with
    | true =>
      have hmem := mem_prepareSellAtas client hs.asset hasset
      rw [payProgram, if_pos rfl] at hmem
      exact .inr (.inr ⟨_, _, rfl, hmem⟩)
    | false =>
      show Available _ _ _ (market.market.sellHop _ (market.receiveAsset _)).output.account
      rcases hasset with hquote | hnone
      · rw [hquote, hsides.sellOutput]
        refine .inr (.inr ⟨_, _, ?_, mem_prepareSellAtas client hs.asset hquote⟩)
        refine (market.quoteAccount_eq h.tokenProgramSet (hclassic ?_ rfl) client.payer).symm
        rw [hquote]
        exact Option.some_ne_none _
      · rw [hnone]
        exact .inl (market.native_sides
          (RoutedMarket.receiveAsset_eq_none.mp hnone).2 client.payer).2.2.2
  · rintro rfl
    have hnone : opts.sellTo.receiveMint = none := by
      cases hmint : opts.sellTo.receiveMint with
      | none => rfl
      | some mint => exact absurd (hs.path.token_eq mint hmint).2 (by decide)
    have hmem := quote_mem_prepareSellAtas client (hs.path.sol hnone).symm hnone
    exact .inr (.inr ⟨_, _, hsides.sellOutput, hmem⟩)
  · exact fun _ => ⟨_, _, rfl, List.mem_cons_self⟩

end Trades

/-- **A prepared trade finds every account it uses.** The instructions that
prepare a buy, and the setup of any buy built for the same market and paid in
the same asset that creates the account of the meme, together create each
account that a leg takes from or pays into, the accounts the header compares,
and the fee recipient's; so do those that prepare a sale, but for the account
the payer sells from. Which other accounts a trade creates by itself, and which
it closes, makes no difference. -/
theorem prepared_trades_covered [Pda] [Upstream] (client : RouterClient) (amountIn : UInt64)
    (market : RoutedMarket) (opts : TradeOpts) (trade : BuiltTrade)
    (hagree : market.market.ProgramsAgree) :
    (client.buyWithOpts amountIn market opts = .ok trade → opts.ata.createMeme = true →
      ∃ (header : BuiltHeader) (legs : List Leg),
        trade.route = some (header.route client.programId legs)
        ∧ Covered client.payer client.feeRecipient []
          (client.prepareBuyAtas market opts.buyWith ++ trade.setup) header legs)
    ∧ (client.sellWithOpts amountIn market opts = .ok trade →
      ∃ (header : BuiltHeader) (legs : List Leg),
        trade.route = some (header.route client.programId legs)
        ∧ Covered client.payer client.feeRecipient [market.memeAccount client.payer]
          (client.prepareSellAtas market opts.sellTo) header legs) := by
  refine ⟨fun h hmeme => ?_, fun h => ?_⟩
  · obtain ⟨needsBridge, spend, spent, routeAmountIn, minOut, legs, s, hb⟩ :=
      RouterClient.buyWithOpts_eq_ok h
    exact ⟨_, _, hb.route, hb.covered hmeme hagree (hb.classic h)⟩
  · obtain ⟨needsBridge, sellAmt, minOut, account, legs, s, hs⟩ :=
      RouterClient.sellWithOpts_eq_ok h
    exact ⟨_, _, hs.route, hs.covered hagree (hs.classic h)⟩

/-- A buy that creates the account of the coin, and nothing else. -/
def memeOpts : TradeOpts :=
  { sampleOpts with ata := { AtaPolicy.default with createMeme := true } }

theorem sampleAmmV4_covered :
    letI := mixedSeedsPda
    letI := sampleUpstream
    ∃ (trade : BuiltTrade) (header : BuiltHeader) (legs : List Leg),
      trade.route = some (header.route sampleClient.programId legs)
        ∧ Covered sampleClient.payer sampleClient.feeRecipient []
          (sampleClient.prepareBuyAtas ⟨.raydiumAmmV4 sampleBridge, none⟩ memeOpts.buyWith
            ++ trade.setup) header legs := by
  let := mixedSeedsPda
  let := sampleUpstream
  obtain ⟨trade, htrade⟩ : ∃ trade, sampleClient.buyWithOpts 1000
      ⟨.raydiumAmmV4 sampleBridge, none⟩ memeOpts = .ok trade :=
    exists_ok_of_toBool (by decide +kernel)
  have hagree : Market.ProgramsAgree (.raydiumAmmV4 sampleBridge) := by decide
  exact ⟨trade, (prepared_trades_covered sampleClient 1000 _ memeOpts trade hagree).1 htrade rfl⟩

end Sdk
