import SolTradeRouter.CreatorVault
import SolTradeRouter.PreparedTrades
import SolTradeRouter.V3Trades

/-!
# The instructions of a trade

A trade comes as a list of instructions to sign: its setup, the route, and its
cleanup. Whoever signs them should know what they are.

Only the payer is asked to sign. Besides the route, which calls known
exchanges, an instruction creates an account of the payer or of the fee
recipient, opens the payer's volume account, tops up the rent of a creator's
vault, wraps the route's amount into the payer's own account, or closes an
account of the payer, to the payer. A V3 trade may extend its curve instead of
topping up a vault, and pays into an account of the buyback recipient too.
-/

namespace Sdk

open Outcome Execution

/-- Only `user` is asked to sign. -/
def SignedBy (user : Pubkey) (metas : List AccountMeta) : Prop :=
  ∀ m ∈ metas, m.isSigner = true → m.pubkey = user

section Signed

variable {user : Pubkey} {m : AccountMeta} {metas more : List AccountMeta}

/-- Nobody signs an empty list. -/
theorem signedBy_nil : SignedBy user [] := fun _ h => absurd h List.not_mem_nil

/-- Account by account. -/
theorem signedBy_cons : SignedBy user (m :: metas) ↔
    (m.isSigner = true → m.pubkey = user) ∧ SignedBy user metas := List.forall_mem_cons

/-- And part by part. -/
theorem signedBy_append : SignedBy user (metas ++ more) ↔
    SignedBy user metas ∧ SignedBy user more := List.forall_mem_append

end Signed

/-! ## The legs -/

/-- The programs that legs are sent to. -/
def exchanges : List Pubkey :=
  [pumpfunProgram, launchlabProgram, raydiumCpmmProgram, pumpswapProgram, raydiumAmmV4Program,
    meteoraDammV2Program, raydiumClmmProgram, orcaWhirlpoolProgram, meteoraDlmmProgram]

/-- **A leg of the user's own**: it goes to an exchange, and asks for no other
signature. -/
structure Leg.Own (user : Pubkey) (leg : Leg) : Prop where
  signed : SignedBy user leg.accounts
  exchange : leg.programId ∈ exchanges

/-! ## The setup -/

section Setup

variable [Pda]

/-- **Housekeeping of the payer's**: an account of one of the owners is created or
a volume account opened; besides, a V3 trade may extend its own curve, and another
trade may top up a creator's vault. -/
inductive Housekeeping (router payer : Pubkey) (owners : List Pubkey)
    (curve : Option PumpFunV3Snapshot) : Instruction → Prop
  | create {owner : Pubkey} (howner : owner ∈ owners) (mint program : Pubkey) :
    Housekeeping router payer owners curve (createAta payer owner mint program)
  | volume : Housekeeping router payer owners curve (PumpFunV3Snapshot.initializeVolume payer)
  | extend {pool : PumpFunV3Snapshot} (hcurve : curve = some pool)
    (hneeds : pool.needsCurveExtension = true) :
    Housekeeping router payer owners curve (PumpFunV3Snapshot.extendCurve pool payer)
  | vault (hcurve : curve = none) (pool : PumpFunPool) :
    Housekeeping router payer owners curve (prepareVault router payer pool)

/-- Housekeeping asks for the payer's signature alone. -/
theorem Housekeeping.signed {router payer : Pubkey} {owners : List Pubkey}
    {curve : Option PumpFunV3Snapshot} {ix : Instruction}
    (h : Housekeeping router payer owners curve ix) : SignedBy payer ix.accounts := by
  cases h with
  | create howner mint program => simp [createAta, signedBy_cons, signedBy_nil]
  | volume => simp [PumpFunV3Snapshot.initializeVolume, signedBy_cons, signedBy_nil]
  | extend hcurve hneeds => simp [PumpFunV3Snapshot.extendCurve, signedBy_cons, signedBy_nil]
  | vault hcurve pool => simp [prepareVault, signedBy_cons, signedBy_nil]

/-- The owners of the accounts a trade creates. -/
def RouterClient.owners (client : RouterClient) : List Pubkey :=
  [client.payer, client.feeRecipient]

/-- **A setup of housekeeping alone.** -/
def TradeSetup.Kept (client : RouterClient) (s : TradeSetup) : Prop :=
  ∀ ix ∈ s.setup, Housekeeping client.programId client.payer client.owners none ix

variable {client : RouterClient} {s : TradeSetup} {policy : AtaPolicy} {kind : AtaKind}
  {mint program : Pubkey}

/-- More housekeeping keeps a setup. -/
theorem TradeSetup.Kept.push (hs : s.Kept client) {instructions : List Instruction}
    (h : ∀ ix ∈ instructions, Housekeeping client.programId client.payer client.owners none ix) :
    (s.push instructions).Kept client :=
  List.forall_mem_append.mpr ⟨hs, h⟩

/-- So does an account of one of the owners, created outright. -/
theorem TradeSetup.Kept.create (hs : s.Kept client) {owner : Pubkey}
    (h : owner ∈ client.owners) :
    (s.push [createAtaIdempotent client.payer owner mint program]).Kept client :=
  hs.push (List.forall_mem_singleton.mpr (.create h mint program))

/-- So does one of the payer's that the policy may have created. -/
theorem TradeSetup.Kept.pushCreateAta (hs : s.Kept client) :
    (s.pushCreateAta policy kind client.payer mint program).Kept client := by
  unfold TradeSetup.pushCreateAta
  split
  · exact hs.create List.mem_cons_self
  · exact hs

/-- So does an account put to use. -/
theorem TradeSetup.Kept.useAta (hs : s.Kept client) :
    (s.useAta policy client.payer mint program).Kept client := by
  unfold TradeSetup.useAta
  split
  · exact TradeSetup.Kept.pushCreateAta (s := s.touchWsol) hs
  · exact TradeSetup.Kept.pushCreateAta (s := s.touchQuote mint program) hs

/-- And either of two setups. -/
theorem TradeSetup.Kept.ite {c : Prop} [Decidable c] {s' : TradeSetup}
    (hs : s.Kept client) (hs' : s'.Kept client) : (if c then s else s').Kept client := by
  split
  · exact hs
  · exact hs'

/-- What the bonding curve needs first is housekeeping: the vault's rent, and
for a buy the volume account. -/
theorem preparePumpfun_kept (hs : s.Kept client) (pool : PumpFunPool) (volume : Bool) :
    (preparePumpfunNativeAccounts client.programId client.payer pool volume s).Kept client := by
  refine hs.push (List.forall_mem_append.mpr ⟨?_, ?_⟩)
  · split
    · exact List.forall_mem_singleton.mpr .volume
    · exact List.forall_mem_nil _
  · exact List.forall_mem_singleton.mpr (.vault rfl pool)

/-- **The setup a buy starts from**, before its route is known. -/
theorem buySetup_kept (market : RoutedMarket) (opts : TradeOpts) :
    (client.buySetup market opts).Kept client := by
  have hempty : ((TradeSetup.mk [] TouchedAtas.default).touchMeme market.memeMint
      market.memeTokenProgram).Kept client := List.forall_mem_nil _
  unfold RouterClient.buySetup
  exact .ite (.pushCreateAta (s := TradeSetup.touchWsol _) (.pushCreateAta hempty))
    (.pushCreateAta hempty)

/-- **The setup a sale starts from**, with the fee recipient's account if there
is a fee. -/
theorem sellSetup_kept (market : RoutedMarket) (opts : TradeOpts) (fee : UInt64) :
    (client.sellSetup market opts fee).Kept client := by
  have hempty : ((TradeSetup.mk [] TouchedAtas.default).touchMeme market.memeMint
      market.memeTokenProgram).Kept client := List.forall_mem_nil _
  have hrecipient : client.feeRecipient ∈ client.owners := List.mem_cons_of_mem _ List.mem_cons_self
  unfold RouterClient.sellSetup
  refine .ite (.pushCreateAta (s := TradeSetup.touchWsol _)
    (.ite (.create hempty hrecipient) hempty)) ?_
  cases opts.sellTo with
  | token mint => exact .useAta (.ite (.create hempty hrecipient) hempty)
  | sol | wsol => exact .ite (.create hempty hrecipient) hempty

/-- **A setup continued by housekeeping**, whatever came before. -/
def TradeSetup.Continues (client : RouterClient) (s s' : TradeSetup) : Prop :=
  ∃ added, s'.setup = s.setup ++ added
    ∧ ∀ ix ∈ added, Housekeeping client.programId client.payer client.owners none ix

/-- A setup continues itself. -/
theorem TradeSetup.Continues.refl (s : TradeSetup) : s.Continues client s :=
  ⟨[], (List.append_nil _).symm, List.forall_mem_nil _⟩

/-- Noting an account for the cleanup adds no instruction. -/
theorem TradeSetup.continues_touchWsol (s : TradeSetup) : s.Continues client s.touchWsol :=
  .refl s

/-- Whichever account is noted. -/
theorem TradeSetup.continues_touchQuote (s : TradeSetup) (mint program : Pubkey) :
    s.Continues client (s.touchQuote mint program) :=
  .refl s

/-- An account of one of the owners is added at the end. -/
theorem TradeSetup.Continues.create {s' : TradeSetup} (h : s.Continues client s')
    {owner : Pubkey} (howner : owner ∈ client.owners) :
    s.Continues client (s'.push [createAtaIdempotent client.payer owner mint program]) := by
  obtain ⟨added, hadded, hhouse⟩ := h
  refine ⟨added ++ [createAtaIdempotent client.payer owner mint program], ?_, ?_⟩
  · rw [TradeSetup.push, hadded, List.append_assoc]
  · exact List.forall_mem_append.mpr
      ⟨hhouse, List.forall_mem_singleton.mpr (.create howner mint program)⟩

/-- And so is one that the policy may have created. -/
theorem TradeSetup.Continues.pushCreateAta {s' : TradeSetup} (h : s.Continues client s') :
    s.Continues client (s'.pushCreateAta policy kind client.payer mint program) := by
  unfold TradeSetup.pushCreateAta
  split
  · exact h.create List.mem_cons_self
  · exact h

/-- Either of two continuations is one. -/
theorem TradeSetup.Continues.ite {c : Prop} [Decidable c] {s' s'' : TradeSetup}
    (h : s.Continues client s') (h' : s.Continues client s'') :
    s.Continues client (if c then s' else s'') := by
  split
  · exact h
  · exact h'

/-- What is created for the fee. -/
theorem prepareFee_continues (market : RoutedMarket) (opts : TradeOpts) (fee : UInt64) :
    s.Continues client (client.prepareFee market opts fee s) := by
  have hrecipient : client.feeRecipient ∈ client.owners := List.mem_cons_of_mem _ List.mem_cons_self
  have hs := (TradeSetup.Continues.refl s : s.Continues client s)
  unfold RouterClient.prepareFee
  cases opts.buyWith with
  | token mint =>
    have htouched : s.Continues client (if mint = wsolMint then s.touchWsol else
        s.touchQuote mint (if mint = wsolMint then tokenProgram else market.quoteTokenProgram)) :=
      .ite (s.continues_touchWsol) (s.continues_touchQuote _ _)
    exact .pushCreateAta (.ite (.create htouched hrecipient) htouched)
  | sol => exact .ite hs (.ite (.create hs hrecipient) hs)
  | wsol => exact .ite (.create hs hrecipient) hs

end Setup

/-! ## The builders -/

section Builders

variable {client : RouterClient} {opts : TradeOpts} {s : TradeSetup}

/-- Legs of the payer's own. -/
def RouterClient.OwnLegs (client : RouterClient) (legs : List Leg) : Prop :=
  ∀ leg ∈ legs, leg.Own client.payer

variable [Pda]

/-- **What a builder of a buy's legs returns**: legs of the payer's own, and
housekeeping. -/
def BuyLegs.Own (client : RouterClient) (built : BuyLegs) : Prop :=
  client.OwnLegs built.legs ∧ built.setup.Kept client

/-- And what one of a sale's legs returns. -/
def SellLegs.Own (client : RouterClient) (built : SellLegs) : Prop :=
  client.OwnLegs built.legs ∧ built.setup.Kept client

/-- **Every leg goes to an exchange**, and every step of a setup is housekeeping. -/
theorem exchange_parts [Upstream] :
    Parts client (fun leg => leg.programId ∈ exchanges) (TradeSetup.Kept client) where
  launchlabBuy _ _ _ _ _ := by simp [launchlabBuyLeg, launchlabLeg, exchanges]
  launchlabSell _ _ _ _ _ := by simp [launchlabSellLeg, launchlabLeg, exchanges]
  cpmm _ _ _ _ _ _ _ := yields_bind fun _ _ => yields_bind fun _ _ =>
    yields_pure (by simp [exchanges])
  cpmmExactOut _ _ _ _ _ _ _ := yields_bind fun _ _ => yields_bind fun _ _ =>
    yields_pure (by simp [exchanges])
  pumpfunBuy _ _ _ _ := by simp [pumpfunBuyLeg, exchanges]
  pumpfunSell _ _ _ _ := by simp [pumpfunSellLeg, exchanges]
  pumpfunBuyV2 _ _ _ := by simp [pumpfunBuyV2Leg, exchanges]
  pumpfunSellV2 _ _ _ := by simp [pumpfunSellV2Leg, exchanges]
  pumpswapBuy _ _ _ := yields_bind fun _ _ => yields_pure (by simp [exchanges])
  pumpswapBuyExactOut _ _ _ := yields_bind fun _ _ => yields_pure (by simp [exchanges])
  pumpswapSell _ _ _ := yields_bind fun _ _ => yields_pure (by simp [exchanges])
  raydiumAmmV4 _ _ _ _ := yields_bind fun _ _ => yields_bind fun _ _ => yields_bind fun _ _ =>
    yields_pure (by simp [exchanges])
  raydiumAmmV4ExactOut _ _ _ _ := yields_bind fun _ _ => yields_bind fun _ _ =>
    yields_bind fun _ _ => yields_pure (by simp [exchanges])
  meteoraDammV2 _ _ _ _ := yields_bind fun _ _ => yields_bind fun _ _ => yields_bind fun _ _ =>
    yields_bind fun _ _ => yields_pure (by simp [exchanges])
  raydiumClmm _ _ _ _ := yields_bind fun _ _ => yields_bind fun _ _ => yields_bind fun _ _ =>
    yields_bind fun _ _ => yields_bind fun _ _ => yields_bind fun _ _ =>
    yields_pure (by simp [exchanges])
  whirlpool _ _ _ _ := yields_bind fun _ _ => yields_bind fun _ _ => yields_bind fun _ _ =>
    yields_bind fun _ _ => yields_bind fun _ _ => yields_bind fun _ _ => yields_bind fun _ _ =>
    yields_bind fun _ _ => yields_bind fun _ _ => yields_pure (by simp [exchanges])
  meteoraDlmm _ _ _ _ := yields_bind fun _ _ => yields_bind fun _ _ => yields_bind fun _ _ =>
    yields_bind fun _ _ => yields_bind fun _ _ => yields_bind fun _ _ =>
    yields_pure (by simp [exchanges])
  noted _ := id
  created _ _ _ _ := TradeSetup.Kept.pushCreateAta
  prepared pool volume := fun hs => preparePumpfun_kept hs pool volume

/-- **Every buy's legs are the payer's own**: the payer alone signs a leg that fits. -/
theorem buildBuyLegs_own [Upstream] (hs : s.Kept client) (spend : UInt64)
    (market : RoutedMarket) :
    Yields (BuyLegs.Own client) (client.buildBuyLegs spend market opts s) := by
  intro built hbuilt
  obtain ⟨hexchange, hkept⟩ := exchange_parts.buildBuyLegs hs built hbuilt
  exact ⟨fun leg hleg => ⟨(RouterClient.buildBuyLegs_fits built hbuilt leg hleg).signed,
    hexchange leg hleg⟩, hkept⟩

/-- **And so are every sale's.** -/
theorem buildSellLegs_own [Upstream] (hs : s.Kept client) (amount : UInt64)
    (market : RoutedMarket) :
    Yields (SellLegs.Own client) (client.buildSellLegs amount market opts s) := by
  intro built hbuilt
  obtain ⟨hexchange, hkept⟩ := exchange_parts.buildSellLegs hs built hbuilt
  exact ⟨fun leg hleg => ⟨(RouterClient.buildSellLegs_fits built hbuilt leg hleg).signed,
    hexchange leg hleg⟩, hkept⟩

end Builders

/-! ## The whole trade -/

/-- The setup, the route, and the cleanup. -/
def BuiltTrade.intoInstructions (trade : BuiltTrade) : List Instruction :=
  trade.setup ++ trade.route.toList ++ trade.cleanup

section Whole

variable [Pda]

/-- **Instructions, item by item**: housekeeping with a wrap somewhere in it,
the route, with legs of the payer's own, and the closing of accounts of the
payer, to the payer. Nobody else is asked to sign any of them. -/
structure Itemised (router payer : Pubkey) (owners : List Pubkey)
    (curve : Option PumpFunV3Snapshot) (header : BuiltHeader) (legs : List Leg)
    (wrap instructions : List Instruction) : Prop where
  split : ∃ before after cleanup, instructions
      = before ++ wrap ++ after ++ [header.route router legs] ++ cleanup
    ∧ (∀ ix ∈ before ++ after, Housekeeping router payer owners curve ix)
    ∧ ∀ ix ∈ cleanup, ∃ mint program, ix = closeAta payer mint program payer
  payer_eq : header.accounts.payer = payer
  legs : ∀ leg ∈ legs, leg.Own payer
  signed : ∀ ix ∈ instructions, SignedBy payer ix.accounts

omit [Pda] in
/-- The programs of the legs do not sign. -/
theorem programMetas_signed (user : Pubkey) (capacity : ℕ) (legs : List Leg)
    (seen : List Pubkey) : SignedBy user (programMetas capacity legs seen) := by
  induction legs generalizing seen with
  | nil => exact signedBy_nil
  | cons leg legs ih =>
    unfold programMetas
    split
    · exact ih seen
    · exact signedBy_cons.mpr ⟨fun h => absurd h Bool.false_ne_true, ih _⟩

/-- **A route asks for one signature**, if its legs do. -/
theorem route_signed (header : BuiltHeader) (router : Pubkey) {legs : List Leg}
    (h : ∀ leg ∈ legs, leg.Own header.accounts.payer) :
    SignedBy header.accounts.payer (header.route router legs).accounts := by
  have hlegs : SignedBy header.accounts.payer (legs.flatMap Leg.accounts) := by
    intro m hm hsigner
    obtain ⟨leg, hleg, hm⟩ := List.mem_flatMap.mp hm
    exact (h leg hleg).signed m hm hsigner
  have hmetas : SignedBy header.accounts.payer (fixedMetas router header.accounts
      ++ legs.flatMap Leg.accounts ++ programMetas 4 legs []) := by
    refine signedBy_append.mpr ⟨signedBy_append.mpr ⟨?_, hlegs⟩, programMetas_signed _ _ _ _⟩
    simp [fixedMetas, signedBy_cons, signedBy_nil]
  show SignedBy _ (appendFeeMint _ _)
  unfold appendFeeMint
  split
  · exact signedBy_append.mpr ⟨hmetas, by simp [signedBy_cons, signedBy_nil]⟩
  · exact hmetas

/-- **What is left is the sum of its items.** -/
theorem Itemised.of_split {router payer : Pubkey} {owners : List Pubkey}
    {curve : Option PumpFunV3Snapshot} {header : BuiltHeader}
    {legs : List Leg} {wrap before after cleanup instructions : List Instruction}
    (h : instructions = before ++ wrap ++ after ++ [header.route router legs] ++ cleanup)
    (hpayer : header.accounts.payer = payer)
    (hhouse : ∀ ix ∈ before ++ after, Housekeeping router payer owners curve ix)
    (hwrap : ∀ ix ∈ wrap, SignedBy payer ix.accounts) (hlegs : ∀ leg ∈ legs, leg.Own payer)
    (hclose : ∀ ix ∈ cleanup, ∃ mint program, ix = closeAta payer mint program payer) :
    Itemised router payer owners curve header legs wrap instructions := by
  refine ⟨⟨before, after, cleanup, h, hhouse, hclose⟩, hpayer, hlegs, ?_⟩
  subst hpayer h
  obtain ⟨hbefore, hafter⟩ := List.forall_mem_append.mp hhouse
  simp only [List.forall_mem_append, List.forall_mem_singleton]
  refine ⟨⟨⟨⟨fun ix hix => (hbefore ix hix).signed, hwrap⟩,
    fun ix hix => (hafter ix hix).signed⟩, route_signed header router hlegs⟩, fun ix hix => ?_⟩
  obtain ⟨mint, program, rfl⟩ := hclose ix hix
  simp [closeAta, signedBy_cons, signedBy_nil]

/-- A touched account that is to be closed is closed to the payer. -/
theorem closeTouched {payer : Pubkey} {close : Bool} {mint program : Option Pubkey} :
    ∀ ix ∈ (if close then
        match mint, program with
        | some mint, some tp => [closeAta payer mint tp payer]
        | _, _ => []
      else []), ∃ mint program, ix = closeAta payer mint program payer := by
  intro ix hix
  cases close with
  | false => cases hix
  | true =>
    cases mint with
    | none => cases hix
    | some mint =>
      cases program with
      | none => cases hix
      | some tp => exact ⟨mint, tp, List.mem_singleton.mp hix⟩

/-- The cleanup closes the payer's accounts, to the payer. -/
theorem buildCleanup_closes (policy : AtaPolicy) (payer : Pubkey) (touched : TouchedAtas) :
    ∀ ix ∈ policy.buildCleanup payer touched,
      ∃ mint program, ix = closeAta payer mint program payer := by
  unfold AtaPolicy.buildCleanup
  refine List.forall_mem_append.mpr ⟨List.forall_mem_append.mpr ⟨fun ix hix => ?_, closeTouched⟩,
    closeTouched⟩
  split at hix
  · exact ⟨_, _, List.mem_singleton.mp hix⟩
  · cases hix

variable [Upstream] {client : RouterClient} {market : RoutedMarket} {opts : TradeOpts}
  {amountIn : UInt64} {trade : BuiltTrade}

/-- The cleanup of a trade is that of its policy. -/
theorem buyWithOpts_cleanup : Yields (fun trade : BuiltTrade =>
    ∃ touched, trade.cleanup = opts.ata.buildCleanup client.payer touched)
    (client.buyWithOpts amountIn market opts) :=
  yields_bind fun _ _ => yields_bind fun _ _ => yields_bind fun _ _ => yields_bind fun _ _ =>
    yields_bind fun _ _ => yields_bind fun _ _ => yields_bind fun _ _ => yields_bind fun _ _ =>
    yields_bind fun _ _ => yields_bind fun _ _ => yields_pure ⟨_, rfl⟩

/-- That of a sale is, too. -/
theorem sellWithOpts_cleanup : Yields (fun trade : BuiltTrade =>
    ∃ touched, trade.cleanup = opts.ata.buildCleanup client.payer touched)
    (client.sellWithOpts amountIn market opts) :=
  yields_bind fun _ _ => yields_bind fun _ _ => yields_bind fun _ _ => yields_bind fun _ _ =>
    yields_bind fun _ _ => yields_bind fun _ _ => yields_bind fun _ _ => yields_bind fun _ _ =>
    yields_bind fun _ _ => yields_pure ⟨_, rfl⟩

/-- What a buy for SOL wraps: the amount of its route. -/
def RouterClient.wrap (client : RouterClient) (market : RoutedMarket) (buyWith : BuyWith)
    (amount : UInt64) : List Instruction :=
  if buyWith = .sol ∧ market.market.isPumpNativeSol = false then
    wrapSolWithOptions client.payer amount false
  else []

/-- **A buy, item by item.** -/
theorem RouterClient.Bought.itemised {needsBridge : Bool} {built : BuyLegs}
    {spend spent routeAmountIn minOut : UInt64}
    (hb : client.Bought amountIn market opts trade needsBridge spend spent routeAmountIn minOut
      built.legs built.setup) (hown : built.Own client)
    (htransfer : ∀ payer account lamports,
      SignedBy payer (Upstream.transfer payer account lamports).accounts)
    (hcleanup : ∃ touched, trade.cleanup = opts.ata.buildCleanup client.payer touched) :
    Itemised client.programId client.payer client.owners none
      (client.buyHeader market opts routeAmountIn minOut) built.legs
      (client.wrap market opts.buyWith routeAmountIn) trade.intoInstructions := by
  obtain ⟨hlegs, hkept⟩ := hown
  obtain ⟨touched, htouched⟩ := hcleanup
  have hsetup : ∃ after, trade.setup = built.setup.setup
        ++ client.wrap market opts.buyWith routeAmountIn ++ after
      ∧ ∀ ix ∈ after, Housekeeping client.programId client.payer client.owners none ix := by
    rw [hb.setup, completeBuySetup, RouterClient.wrap]
    split
    · exact prepareFee_continues market opts _
    · rw [List.append_nil]
      exact prepareFee_continues market opts _
  obtain ⟨after, hafter, hhouse⟩ := hsetup
  refine .of_split ?_ rfl (List.forall_mem_append.mpr ⟨hkept, hhouse⟩) ?_ hlegs
    (buildCleanup_closes opts.ata client.payer touched)
  · rw [BuiltTrade.intoInstructions, hafter, hb.route, htouched, Option.toList_some]
  · unfold RouterClient.wrap
    split
    · refine List.forall_mem_cons.mpr ⟨htransfer _ _ _, List.forall_mem_singleton.mpr ?_⟩
      simp [syncNative, signedBy_cons, signedBy_nil]
    · exact List.forall_mem_nil _

omit [Upstream] in
/-- **A sale, item by item.** -/
theorem RouterClient.Sold.itemised {needsBridge : Bool} {built : SellLegs}
    {sellAmt minOut : UInt64} {account : Pubkey}
    (hs : client.Sold amountIn market opts trade needsBridge sellAmt minOut account
      built.legs built.setup) (hown : built.Own client)
    (hcleanup : ∃ touched, trade.cleanup = opts.ata.buildCleanup client.payer touched) :
    Itemised client.programId client.payer client.owners none
      (client.sellHeader market opts amountIn minOut account) built.legs []
      trade.intoInstructions := by
  obtain ⟨hlegs, hkept⟩ := hown
  obtain ⟨touched, htouched⟩ := hcleanup
  have hhouse : ∀ ix ∈ built.setup.setup ++ [], Housekeeping client.programId client.payer
      client.owners none ix := by
    rw [List.append_nil]
    exact hkept
  refine .of_split ?_ rfl hhouse (List.forall_mem_nil _) hlegs
    (buildCleanup_closes opts.ata client.payer touched)
  rw [BuiltTrade.intoInstructions, hs.setup, hs.route, htouched, Option.toList_some]
  simp

end Whole

/-! ## V3 trades -/

section V3

variable [Pda] {pool : PumpFunV3Snapshot} {router user feeRecipient : Pubkey}
  {amount minimum : UInt64} {feeBps : UInt16} {trade : PumpFunV3Trade}

/-- The leg of a V3 route is the user's own. -/
theorem builtV3_own {header : BuiltHeader} {planned : Transfers.Transfer Purse} {leg : Leg}
    (h : BuiltV3 user router feeBps header planned trade leg) : leg.Own user := by
  refine ⟨h.fits.signed, ?_⟩
  obtain ⟨format, _, _, _, _, _, hspeaks, -⟩ := h.plans
  rw [hspeaks.program]
  exact List.mem_cons_self

/-- The owners of the accounts a V3 trade creates. -/
def v3Owners (pool : PumpFunV3Snapshot) (user feeRecipient : Pubkey) : List Pubkey :=
  [user, feeRecipient, pool.curve.buybackFeeRecipient]

/-- Its setup is housekeeping. -/
theorem v3Setup_house (buy : Bool) : ∀ ix ∈ pool.setup user buy,
    Housekeeping router user (v3Owners pool user feeRecipient) (some pool) ix := by
  have huser : user ∈ v3Owners pool user feeRecipient := List.mem_cons_self
  have hbuyback : pool.curve.buybackFeeRecipient ∈ v3Owners pool user feeRecipient :=
    List.mem_cons_of_mem _ (List.mem_cons_of_mem _ List.mem_cons_self)
  have hone : ∀ {c : Prop} [Decidable c] {ix : Instruction},
      (c → Housekeeping router user (v3Owners pool user feeRecipient) (some pool) ix) →
        ∀ x ∈ (if c then [ix] else []),
          Housekeeping router user (v3Owners pool user feeRecipient) (some pool) x := by
    intro c _ ix hix x hx
    split at hx
    · rename_i hc
      exact List.mem_singleton.mp hx ▸ hix hc
    · cases hx
  unfold PumpFunV3Snapshot.setup
  simp only [List.forall_mem_append]
  refine ⟨⟨⟨hone (.extend rfl), hone fun _ => .volume⟩, hone fun _ => .create huser _ _⟩, ?_⟩
  split
  · exact List.forall_mem_append.mpr ⟨hone fun _ => .create huser _ _,
      List.forall_mem_singleton.mpr (.create hbuyback _ _)⟩
  · exact List.forall_mem_nil _

/-- **A V3 trade, item by item.** -/
theorem v3_itemised {header : BuiltHeader} {leg : Leg} {buy : Bool} {more : List Instruction}
    (hroute : trade.route = header.route router [leg]) (hpayer : header.accounts.payer = user)
    (hleg : leg.Own user) (hsetup : trade.setup = pool.setup user buy ++ more)
    (hmore : ∀ ix ∈ more,
      Housekeeping router user (v3Owners pool user feeRecipient) (some pool) ix) :
    Itemised router user (v3Owners pool user feeRecipient) (some pool) header [leg] []
      trade.intoInstructions := by
  have hbefore : ∀ ix ∈ trade.setup ++ [],
      Housekeeping router user (v3Owners pool user feeRecipient) (some pool) ix := by
    rw [List.append_nil, hsetup]
    exact List.forall_mem_append.mpr ⟨v3Setup_house buy, hmore⟩
  have hsplit : trade.intoInstructions
      = (trade.setup ++ [] ++ []) ++ [header.route router [leg]] ++ [] := by
    rw [PumpFunV3Trade.intoInstructions, hroute]
    simp
  exact .of_split hsplit hpayer hbefore (List.forall_mem_nil _)
    (List.forall_mem_singleton.mpr hleg) (List.forall_mem_nil _)

/-- **The instructions of a V3 buy**, which wraps nothing: it pays out of an
account the payer has. -/
theorem v3Buy_itemised {exactOut : Bool}
    (h : pool.buildBuyRouteInner router user feeRecipient amount feeBps minimum exactOut
      = .ok trade) :
    ∃ header leg, Itemised router user (v3Owners pool user feeRecipient) (some pool) header [leg] []
      trade.intoInstructions := by
  obtain ⟨leg, spend, hleg, hbuilt, -, hsetup⟩ := buildBuyRouteInner_built h
  refine ⟨_, leg, v3_itemised hbuilt.route rfl (builtV3_own hbuilt) hsetup ?_⟩
  split
  · exact List.forall_mem_singleton.mpr (.create (List.mem_cons_of_mem _ List.mem_cons_self) _ _)
  · exact List.forall_mem_nil _

/-- **And those of a V3 sale.** -/
theorem v3Sell_itemised
    (h : pool.buildSellRoute router user feeRecipient amount feeBps minimum = .ok trade) :
    ∃ header leg, Itemised router user (v3Owners pool user feeRecipient) (some pool) header [leg] []
      trade.intoInstructions := by
  obtain ⟨leg, spend, hleg, hbuilt, hsetup⟩ := buildSellRoute_built h
  refine ⟨_, leg, v3_itemised hbuilt.route rfl (builtV3_own hbuilt) hsetup ?_⟩
  split
  · exact List.forall_mem_singleton.mpr (.create (List.mem_cons_of_mem _ List.mem_cons_self) _ _)
  · exact List.forall_mem_nil _

end V3

/-- **A trade asks nobody but the payer to sign, and does what it says.** Of the
instructions of any buy or sale, of any market and under any options, one is the
route, whose legs go to known exchanges; before it, accounts of the payer and of
the fee recipient are created, a volume account is opened and a creator's vault
is topped up, and a buy for SOL wraps the amount of the route, once, into the
payer's own account; after it, accounts of the payer are closed, to the payer.
The same holds of V3 trades, which top up no vault, but extend their own curve
where it needs that, and create the account of the buyback recipient too. No
account of any of them signs but the payer. -/
theorem trades_itemised [Pda] [Upstream] (client : RouterClient) (amountIn : UInt64)
    (market : RoutedMarket) (opts : TradeOpts)
    (htransfer : ∀ payer account lamports,
      SignedBy payer (Upstream.transfer payer account lamports).accounts) :
    (∀ trade, client.buyWithOpts amountIn market opts = .ok trade → ∃ header legs,
      Itemised client.programId client.payer client.owners none header legs
        (client.wrap market opts.buyWith header.amountIn) trade.intoInstructions)
    ∧ (∀ trade, client.sellWithOpts amountIn market opts = .ok trade → ∃ header legs,
      Itemised client.programId client.payer client.owners none header legs []
        trade.intoInstructions)
    ∧ ∀ (pool : PumpFunV3Snapshot) (router user feeRecipient : Pubkey) (amount minimum : UInt64)
      (feeBps : UInt16) (trade : PumpFunV3Trade),
      ((∃ exactOut, pool.buildBuyRouteInner router user feeRecipient amount feeBps minimum
          exactOut = .ok trade)
        ∨ pool.buildSellRoute router user feeRecipient amount feeBps minimum = .ok trade) →
      ∃ header leg, Itemised router user (v3Owners pool user feeRecipient) (some pool) header
        [leg] [] trade.intoInstructions := by
  refine ⟨fun trade h => ?_, fun trade h => ?_, ?_⟩
  · obtain ⟨needsBridge, spend, routeAmountIn, built, hbuilt, hb⟩ :=
      RouterClient.buyWithOpts_built h
    have hown := buildBuyLegs_own (buySetup_kept market opts) spend market built hbuilt
    exact ⟨_, _, hb.itemised hown htransfer (buyWithOpts_cleanup trade h)⟩
  · obtain ⟨needsBridge, sellAmt, built, hbuilt, hs⟩ := RouterClient.sellWithOpts_built h
    have hown := buildSellLegs_own (sellSetup_kept market opts _) sellAmt market built hbuilt
    exact ⟨_, _, hs.itemised hown (sellWithOpts_cleanup trade h)⟩
  · rintro pool router user feeRecipient amount minimum feeBps trade (⟨exactOut, h⟩ | h)
    · exact v3Buy_itemised h
    · exact v3Sell_itemised h

/-- A buy for SOL, with its account created, wrapped and closed again. -/
theorem sampleAmmV4_itemised :
    letI := mixedSeedsPda
    letI := sampleUpstream
    ∃ (trade : BuiltTrade) (header : BuiltHeader) (legs : List Leg),
      sampleClient.buyWithOpts 1000 ⟨.raydiumAmmV4 sampleBridge, none⟩
        { memeOpts with buyWith := .sol } = .ok trade
      ∧ Itemised sampleClient.programId sampleClient.payer sampleClient.owners none header legs
        (wrapSolWithOptions sampleClient.payer header.amountIn false)
        trade.intoInstructions := by
  let := mixedSeedsPda
  let := sampleUpstream
  obtain ⟨trade, htrade⟩ : ∃ trade, sampleClient.buyWithOpts 1000
      ⟨.raydiumAmmV4 sampleBridge, none⟩ { memeOpts with buyWith := .sol } = .ok trade :=
    exists_ok_of_toBool (by decide +kernel)
  have htransfer : ∀ payer account lamports,
      SignedBy payer (Upstream.transfer payer account lamports).accounts := by
    intro payer account lamports
    show SignedBy payer [.new payer true, .new account false]
    simp [signedBy_cons, signedBy_nil]
  obtain ⟨header, legs, h⟩ := (trades_itemised sampleClient 1000
    ⟨.raydiumAmmV4 sampleBridge, none⟩ { memeOpts with buyWith := .sol } htransfer).1 trade htrade
  exact ⟨trade, header, legs, htrade, h⟩

end Sdk
