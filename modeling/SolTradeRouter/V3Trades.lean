import SolTradeRouter.TradesExecute
import SolTradeRouter.V3Legs

/-!
# Pump V3 trades on chain

A V3 trade is a route of one leg. What the leg may take and the fee on the
declared amount add up to that amount, so the route settles as soon as the fee
leaves the purse the leg takes from and nothing comes back into it. A curve
quoted in WSOL settles in lamports, which are a purse of their own.
-/

namespace Execution

open Outcome Bytes Transfers Program Sdk WireFormat DynamicAccepted

/-! ## What a leg encodes -/

/-- The instructions of a V3 curve. -/
inductive V3Format
  | buyExactQuoteIn
  | buy
  | sell

namespace V3Format

def discriminator : V3Format → List UInt8
  | buyExactQuoteIn => pumpfunBuyExactQuoteInV3
  | buy => pumpfunBuyV3
  | sell => pumpfunSellV3

/-- What an instruction moves, by its two amounts. -/
def transfer (quote coin : Purse) (first second : UInt64) : V3Format → Transfer Purse
  | buyExactQuoteIn => ⟨quote, first.toNat, coin, second.toNat⟩
  | buy => ⟨quote, second.toNat, coin, first.toNat⟩
  | sell => ⟨coin, first.toNat, quote, second.toNat⟩

/-- The first bytes tell the instructions apart. -/
theorem discriminator_injective : Function.Injective discriminator := by
  intro f g h
  cases f <;> cases g <;> first | rfl | exact absurd h (by decide)

end V3Format

/-- **What is read off a V3 leg**: its instruction, its amounts, and the
accounts it moves between. -/
structure V3Encodes (leg : Leg) (user : Pubkey) (format : V3Format) (quoteMint quote coin : Pubkey)
    (first second : UInt64) : Prop where
  program : leg.programId = pumpfunProgram
  marks : range? leg.data 0 8 = some format.discriminator
  first_eq : range? leg.data 8 16 = some (ofUInt64 first)
  second_eq : range? leg.data 16 24 = some (ofUInt64 second)
  quoteMint_eq : leg.accounts[2]?.map AccountMeta.pubkey = some quoteMint
  signs : Lists leg.accounts 8 user AccountMeta.isSigner
  coin_eq : Lists leg.accounts 9 coin AccountMeta.isWritable
  quote_eq : Lists leg.accounts 10 quote AccountMeta.isWritable

/-- **The transfer a V3 leg encodes.** A curve quoted in WSOL takes and pays
lamports. -/
def V3Plans (user : Pubkey) (leg : Leg) (t : Transfer Purse) : Prop :=
  ∃ format quoteMint quote coin first second,
    V3Encodes leg user format quoteMint quote coin first second
      ∧ t = format.transfer (if quoteMint = wsolMint then ⟨true, user⟩ else ⟨false, quote⟩)
        ⟨false, coin⟩ first second

/-- A V3 leg encodes one transfer. -/
theorem V3Plans.unique {user : Pubkey} {leg : Leg} {t t' : Transfer Purse}
    (h : V3Plans user leg t) (h' : V3Plans user leg t') : t = t' := by
  obtain ⟨format, quoteMint, quote, coin, first, second, h, rfl⟩ := h
  obtain ⟨format', quoteMint', quote', coin', first', second', h', rfl⟩ := h'
  have haccount : ∀ {i : ℕ} {k k' : Pubkey} {p : AccountMeta → Bool},
      Lists leg.accounts i k p → Lists leg.accounts i k' p → k = k' := by
    rintro i k k' p ⟨x, hx, rfl, -⟩ ⟨y, hy, rfl, -⟩
    cases hx.symm.trans hy
    rfl
  have hinj : Function.Injective ofUInt64 := Function.LeftInverse.injective toUInt64_ofUInt64
  obtain rfl := V3Format.discriminator_injective (Option.some.inj (h.marks.symm.trans h'.marks))
  obtain rfl := Option.some.inj (h.quoteMint_eq.symm.trans h'.quoteMint_eq)
  obtain rfl := haccount h.coin_eq h'.coin_eq
  obtain rfl := haccount h.quote_eq h'.quote_eq
  obtain rfl := hinj (Option.some.inj (h.first_eq.symm.trans h'.first_eq))
  obtain rfl := hinj (Option.some.inj (h.second_eq.symm.trans h'.second_eq))
  rfl

/-- What is read off a leg's data. -/
theorem encodeU64Pair_reads {disc : List UInt8} (hdisc : disc.length = 8) (a b : UInt64)
    (rest : List UInt8) :
    range? (encodeU64Pair disc a b ++ rest) 0 8 = some disc
      ∧ range? (encodeU64Pair disc a b ++ rest) 8 16 = some (ofUInt64 a)
      ∧ range? (encodeU64Pair disc a b ++ rest) 16 24 = some (ofUInt64 b) := by
  refine ⟨range?_eq_some_iff.mpr ⟨[], ofUInt64 a ++ ofUInt64 b ++ rest, ?_, rfl, ?_⟩,
    range?_eq_some_iff.mpr ⟨disc, ofUInt64 b ++ rest, ?_, hdisc, ?_⟩,
    range?_eq_some_iff.mpr ⟨disc ++ ofUInt64 a, rest, ?_, ?_, ?_⟩⟩
  all_goals simp [encodeU64Pair, hdisc]

section Pool

variable [Pda] {pool : PumpFunV3Pool} {user : Pubkey} {accounts : List AccountMeta}

/-- The purse of an owner's quote. -/
def quotePurseV3 (pool : PumpFunV3Pool) (owner : Pubkey) : Purse :=
  if pool.native then ⟨true, owner⟩ else ⟨false, pool.quoteAta owner⟩

/-- The purse of an owner's coins. -/
def coinPurseV3 (pool : PumpFunV3Pool) (owner : Pubkey) : Purse := ⟨false, pool.coinAta owner⟩

/-- **The legs of a V3 curve** move between its two purses, fit the wire format,
and are signed by the user. -/
theorem v3Leg_plans (h : pool.accounts user = .ok accounts) (format : V3Format)
    (first second : UInt64) {rest : List UInt8} (hrest : rest.length ≤ 1) :
    V3Plans user ⟨pumpfunProgram, accounts, encodeU64Pair format.discriminator first second ++ rest⟩
        (format.transfer (quotePurseV3 pool user) (coinPurseV3 pool user) first second)
      ∧ Fits user ⟨pumpfunProgram, accounts,
        encodeU64Pair format.discriminator first second ++ rest⟩ := by
  have hdisc : format.discriminator.length = 8 := by cases format <;> rfl
  obtain ⟨hmarks, hfirst, hsecond⟩ := encodeU64Pair_reads hdisc first second rest
  obtain ⟨_, -, h⟩ := bind_eq_ok.mp h
  cases h
  refine ⟨⟨format, pool.curve.quoteMint, pool.quoteAta user, pool.coinAta user, first, second,
    ⟨rfl, hmarks, hfirst, hsecond, rfl, ⟨_, rfl, rfl, rfl⟩, ⟨_, rfl, rfl, rfl⟩,
      ⟨_, rfl, rfl, rfl⟩⟩, ?_⟩, .of_count ⟨17, rfl, by decide, by decide⟩ rfl rfl ?_⟩
  · unfold quotePurseV3 PumpFunV3Pool.native
    rw [if_congr decide_eq_true_iff rfl rfl]
    rfl
  · rw [List.length_append, length_encodeU64Pair, hdisc]
    omega

end Pool

/-! ## Routes -/

section Routes

variable [Pda] {pool : PumpFunV3Snapshot} {router user feeRecipient : Pubkey}
  {amount minimum spend : UInt64} {feeBps : UInt16} {trade : PumpFunV3Trade} {exactOut : Bool}

/-- The header of a V3 buy. -/
def buyHeaderV3 (pool : PumpFunV3Snapshot) (user feeRecipient : Pubkey)
    (budget minimum : UInt64) : BuiltHeader where
  accounts :=
    { payer := user
      feeDestination := (quotePurseV3 pool.toPumpFunV3Pool feeRecipient).account
      feeSource := (quotePurseV3 pool.toPumpFunV3Pool user).account
      outputTokenAccount := pool.coinAta user
      feeProgram := if pool.native then systemProgram else pool.curve.quoteTokenProgram
      feeMint := pool.curve.quoteMint }
  amountIn := budget
  minAmountOut := minimum
  feeAsset := if pool.native then feeAssetSol else feeAssetToken
  exactOut := true
  expectedOutputMint := pool.curve.mint

/-- The header of a V3 sale. -/
def sellHeaderV3 (pool : PumpFunV3Snapshot) (user feeRecipient : Pubkey)
    (amount minimum : UInt64) : BuiltHeader where
  accounts :=
    { payer := user
      feeDestination := pool.coinAta feeRecipient
      feeSource := pool.coinAta user
      outputTokenAccount := (quotePurseV3 pool.toPumpFunV3Pool user).account
      feeProgram := pool.curve.mintTokenProgram
      feeMint := pool.curve.mint }
  amountIn := amount
  minAmountOut := minimum
  feeAsset := feeAssetToken
  exactOut := false
  expectedOutputMint := if pool.native then systemProgram else pool.curve.quoteMint

/-- An instruction of the setup creates an owner's account of a mint. -/
def Opened (user : Pubkey) (setup : List Instruction) (account : Pubkey) : Prop :=
  ∃ owner mint program, account = ata owner mint program
    ∧ createAta user owner mint program ∈ setup

omit [Pda] in
/-- What the fee leaves of an amount, and the fee, make up the amount. -/
theorem spendOf_eq_ok {text : String}
    (h : PumpFunV3Snapshot.spendOf amount feeBps text = .ok spend) :
    amount.toNat = (feeAmount amount feeBps).toNat + spend.toNat ∧ amount ≠ 0 := by
  obtain ⟨hspend, hpos⟩ := Option.filter_eq_some_iff.mp (okOr_eq_ok.mp h)
  obtain ⟨hle, hspend⟩ := U64.checkedSub_eq_some.mp hspend
  have hpos : 0 < spend.toNat := UInt64.lt_iff_toNat_lt.mp (of_decide_eq_true hpos)
  refine ⟨by omega, fun hzero => ?_⟩
  rw [hzero] at hspend
  simp at hspend
  omega

/-- The leg of a V3 trade comes with its accounts, which are validated. -/
theorem accounts_validate {accounts : List AccountMeta} {pool : PumpFunV3Pool}
    (h : pool.accounts user = .ok accounts) : pool.validate = .ok () := by
  obtain ⟨⟨⟩, hvalid, -⟩ := bind_eq_ok.mp h
  exact hvalid

/-- A valid curve's mint is not the mint that stands for lamports. -/
theorem validate_mint {pool : PumpFunV3Pool} (h : pool.validate = .ok ()) :
    pool.curve.mint ≠ systemProgram := by
  obtain ⟨_, -, h⟩ := bind_eq_ok.mp h
  obtain ⟨_, -, h⟩ := bind_eq_ok.mp h
  obtain ⟨_, -, h⟩ := bind_eq_ok.mp h
  obtain ⟨_, -, h⟩ := bind_eq_ok.mp h
  obtain ⟨_, -, h⟩ := bind_eq_ok.mp h
  obtain ⟨_, hmint, -⟩ := bind_eq_ok.mp h
  exact fun heq => failIf_eq_ok.mp hmint (.inl heq)

/-- **A V3 route has one leg**, planned as its builder says. -/
structure BuiltV3 (user : Pubkey) (router : Pubkey) (feeBps : UInt16) (header : BuiltHeader)
    (planned : Transfer Purse) (trade : PumpFunV3Trade) (leg : Leg) : Prop where
  feeBps_le : feeBps.toNat ≤ 1000
  route : trade.route = header.route router [leg]
  amount : header.amountIn.toNat = (feeAmount header.amountIn feeBps).toNat + planned.most
  amount_ne : header.amountIn ≠ 0
  least : header.minAmountOut.toNat ≤ planned.least
  plans : V3Plans user leg planned
  fits : Fits user leg

/-- What a V3 buy plans to move. -/
def buysV3 (pool : PumpFunV3Pool) (user : Pubkey) (spend minimum : UInt64) : Transfer Purse :=
  ⟨quotePurseV3 pool user, spend.toNat, coinPurseV3 pool user, minimum.toNat⟩

/-- What a V3 sale plans to move. -/
def sellsV3 (pool : PumpFunV3Pool) (user : Pubkey) (spend minimum : UInt64) : Transfer Purse :=
  ⟨coinPurseV3 pool user, spend.toNat, quotePurseV3 pool user, minimum.toNat⟩

theorem buyLeg_plans {pool : PumpFunV3Pool} {leg : Leg}
    (h : pool.buyLeg user spend minimum = .ok leg) :
    V3Plans user leg (buysV3 pool user spend minimum) ∧ Fits user leg
      ∧ pool.validate = .ok () := by
  obtain ⟨_, -, h⟩ := bind_eq_ok.mp h
  obtain ⟨_, -, h⟩ := bind_eq_ok.mp h
  obtain ⟨accounts, haccounts, h⟩ := bind_eq_ok.mp h
  cases h
  obtain ⟨hplans, hfits⟩ := v3Leg_plans haccounts .buyExactQuoteIn spend minimum
    (show [0].length ≤ 1 from Nat.le_refl 1)
  exact ⟨hplans, hfits, accounts_validate haccounts⟩

theorem buyExactOutLeg_plans {pool : PumpFunV3Pool} {leg : Leg}
    (h : pool.buyExactOutLeg user minimum spend = .ok leg) :
    V3Plans user leg (buysV3 pool user spend minimum) ∧ Fits user leg
      ∧ pool.validate = .ok () := by
  obtain ⟨_, -, h⟩ := bind_eq_ok.mp h
  obtain ⟨_, -, h⟩ := bind_eq_ok.mp h
  obtain ⟨accounts, haccounts, h⟩ := bind_eq_ok.mp h
  cases h
  obtain ⟨hplans, hfits⟩ := v3Leg_plans haccounts .buy minimum spend
    (show [0].length ≤ 1 from Nat.le_refl 1)
  exact ⟨hplans, hfits, accounts_validate haccounts⟩

theorem sellLeg_plans {pool : PumpFunV3Pool} {leg : Leg}
    (h : pool.sellLeg user spend minimum = .ok leg) :
    V3Plans user leg (sellsV3 pool user spend minimum) ∧ Fits user leg := by
  obtain ⟨_, -, h⟩ := bind_eq_ok.mp h
  obtain ⟨accounts, haccounts, h⟩ := bind_eq_ok.mp h
  cases h
  rw [← List.append_nil (encodeU64Pair pumpfunSellV3 spend minimum)]
  exact v3Leg_plans haccounts .sell spend minimum (Nat.zero_le 1)

/-- **A V3 buy**, by either builder. -/
theorem buildBuyRouteInner_built
    (h : pool.buildBuyRouteInner router user feeRecipient amount feeBps minimum exactOut
      = .ok trade) :
    ∃ leg spend, (if exactOut then pool.buyExactOutLeg user minimum spend
        else pool.buyLeg user spend minimum) = .ok leg
      ∧ BuiltV3 user router feeBps (buyHeaderV3 pool user feeRecipient amount minimum)
        (buysV3 pool.toPumpFunV3Pool user spend minimum) trade leg
      ∧ pool.validate = .ok ()
      ∧ trade.setup = pool.setup user true
        ++ (if !pool.native ∧ feeBps > 0 then [createAta user feeRecipient
          pool.curve.quoteMint pool.curve.quoteTokenProgram] else []) := by
  obtain ⟨_, hbps, h⟩ := bind_eq_ok.mp h
  obtain ⟨spend, hspend, h⟩ := bind_eq_ok.mp h
  obtain ⟨leg, hleg, h⟩ := bind_eq_ok.mp h
  cases h
  obtain ⟨hplans, hfits, hvalid⟩ : V3Plans user leg (buysV3 pool.toPumpFunV3Pool user spend minimum)
      ∧ Fits user leg ∧ pool.validate = .ok () := by
    cases exactOut with
    | true => exact buyExactOutLeg_plans hleg
    | false => exact buyLeg_plans hleg
  obtain ⟨hamount, hne⟩ := spendOf_eq_ok hspend
  refine ⟨leg, spend, hleg, ⟨validateRouterFeeBps_eq_ok hbps, ?_, hamount, hne, Nat.le_refl _,
    hplans, hfits⟩, hvalid, rfl⟩
  unfold buyHeaderV3 BuiltHeader.route quotePurseV3
  cases pool.native <;> rfl

/-- **A V3 sale.** -/
theorem buildSellRoute_built
    (h : pool.buildSellRoute router user feeRecipient amount feeBps minimum = .ok trade) :
    ∃ leg spend, pool.sellLeg user spend minimum = .ok leg
      ∧ BuiltV3 user router feeBps (sellHeaderV3 pool user feeRecipient amount minimum)
        (sellsV3 pool.toPumpFunV3Pool user spend minimum) trade leg
      ∧ trade.setup = pool.setup user false
        ++ (if feeBps > 0 then [createAta user feeRecipient pool.curve.mint
          pool.curve.mintTokenProgram] else []) := by
  obtain ⟨_, hbps, h⟩ := bind_eq_ok.mp h
  obtain ⟨spend, hspend, h⟩ := bind_eq_ok.mp h
  obtain ⟨leg, hleg, h⟩ := bind_eq_ok.mp h
  cases h
  obtain ⟨hplans, hfits⟩ := sellLeg_plans hleg
  obtain ⟨hamount, hne⟩ := spendOf_eq_ok hspend
  refine ⟨leg, spend, hleg, ⟨validateRouterFeeBps_eq_ok hbps, ?_, hamount, hne, Nat.le_refl _,
    hplans, hfits⟩, rfl⟩
  unfold sellHeaderV3 BuiltHeader.route quotePurseV3 PumpFunV3Pool.native
  by_cases hnative : pool.curve.quoteMint = wsolMint
  · simp only [hnative, decide_true, if_true]
    rfl
  · simp only [hnative, decide_false, if_false, Bool.false_eq_true]
    rfl

/-- **A V3 route is carried out** if the fee leaves the purse it is charged to,
and the leg takes from there, and brings what the header names. -/
theorem BuiltV3.executes {header : BuiltHeader} {t : Transfer Purse} {leg : Leg}
    (h : BuiltV3 user router feeBps header t trade leg)
    (hasset : header.feeAsset = feeAssetSol ∨ header.feeAsset = feeAssetToken)
    (hsource : t.source = header.source) (htarget : t.target = paidInto header)
    (hne : t.target ≠ t.source)
    (hleaves : feeAmount header.amountIn feeBps = 0 ∨ header.destination ≠ header.source) :
    Executes (V3Plans user) router feeBps header [leg] := by
  refine executes_of_settlesAs (Nat.le_trans h.feeBps_le (by decide)) (Nat.le_refl 1)
    (show 1 ≤ 4 by decide) (List.forall_mem_singleton.mpr h.fits.sized) hasset h.amount_ne
    (.cons h.plans .nil)
    (settlesAs_single hsource (hsource ▸ hne) hleaves h.amount) ?_
  refine ⟨List.forall_mem_singleton.mpr ?_, t, List.mem_cons_self, htarget.symm, h.least⟩
  rw [← htarget]
  exact hne

/-- **A setup opens the token accounts that a V3 trade pays into**: that of the
output, that of the fee if there is one, and that of the curve's buybacks. -/
structure OpensV3 (pool : PumpFunV3Pool) (user : Pubkey) (feeBps : UInt16) (header : BuiltHeader)
    (setup : List Instruction) : Prop where
  output : (paidInto header).native = false → Opened user setup (paidInto header).account
  fee : feeBps > 0 → header.destination.native = false →
    Opened user setup header.destination.account
  buyback : pool.native = false → Opened user setup (pool.quoteAta pool.curve.buybackFeeRecipient)

/-- The purses of a buy's header. -/
theorem buyHeaderV3_purses (pool : PumpFunV3Snapshot) (user feeRecipient : Pubkey)
    (budget minimum : UInt64) :
    (buyHeaderV3 pool user feeRecipient budget minimum).source
        = quotePurseV3 pool.toPumpFunV3Pool user
      ∧ (buyHeaderV3 pool user feeRecipient budget minimum).destination
        = quotePurseV3 pool.toPumpFunV3Pool feeRecipient
      ∧ (pool.curve.mint ≠ systemProgram →
        paidInto (buyHeaderV3 pool user feeRecipient budget minimum)
          = coinPurseV3 pool.toPumpFunV3Pool user) := by
  refine ⟨?_, ?_, fun hmint => congrArg (Purse.mk · _) (decide_eq_false hmint)⟩
  · unfold BuiltHeader.source buyHeaderV3 quotePurseV3
    cases pool.native <;> rfl
  · unfold BuiltHeader.destination buyHeaderV3 quotePurseV3
    cases pool.native <;> rfl

/-- The purse a sale pays into. -/
theorem sellHeaderV3_paid (amount minimum : UInt64)
    (hmint : pool.curve.quoteMint ≠ systemProgram) :
    paidInto (sellHeaderV3 pool user feeRecipient amount minimum)
      = quotePurseV3 pool.toPumpFunV3Pool user := by
  unfold paidInto sellHeaderV3 quotePurseV3
  cases pool.native with
  | true => rfl
  | false => exact congrArg (Purse.mk · _) (decide_eq_false hmint)

/-- The purse of a token quote is that of an account. -/
theorem quotePurseV3_token {pool : PumpFunV3Pool} {owner : Pubkey}
    (h : (quotePurseV3 pool owner).native = false) :
    pool.native = false ∧ (quotePurseV3 pool owner).account = pool.quoteAta owner := by
  unfold quotePurseV3 at h ⊢
  cases hnative : pool.native with
  | true =>
    rw [hnative] at h
    cases h
  | false => exact ⟨rfl, rfl⟩

/-- The setup of a token quote opens the account of the curve's buybacks. -/
theorem setup_buyback (user : Pubkey) (buy : Bool) (hnative : pool.native = false) :
    Opened user (pool.setup user buy) (pool.quoteAta pool.curve.buybackFeeRecipient) := by
  have hquote : pool.curve.quoteMint ≠ wsolMint := of_decide_eq_false hnative
  refine ⟨_, _, _, rfl, ?_⟩
  simp [PumpFunV3Snapshot.setup, hquote]

/-- What a setup opens stays open when it goes on. -/
theorem Opened.append {setup more : List Instruction} {account : Pubkey}
    (h : Opened user setup account) : Opened user (setup ++ more) account := by
  obtain ⟨owner, mint, program, haccount, hmem⟩ := h
  exact ⟨owner, mint, program, haccount, List.mem_append_left _ hmem⟩

theorem buildBuyRouteInner_opens
    (h : pool.buildBuyRouteInner router user feeRecipient amount feeBps minimum exactOut
      = .ok trade) :
    OpensV3 pool.toPumpFunV3Pool user feeBps (buyHeaderV3 pool user feeRecipient amount minimum)
      trade.setup := by
  obtain ⟨_, _, -, -, -, hsetup⟩ := buildBuyRouteInner_built h
  obtain ⟨-, hdestination, -⟩ := buyHeaderV3_purses pool user feeRecipient amount minimum
  rw [hsetup]
  refine ⟨fun _ => ⟨user, pool.curve.mint, pool.curve.mintTokenProgram, rfl, ?_⟩,
    fun hfee htoken => ?_, fun hnative => (setup_buyback user true hnative).append⟩
  · simp [PumpFunV3Snapshot.setup]
  · rw [hdestination] at htoken ⊢
    obtain ⟨hnative, haccount⟩ := quotePurseV3_token htoken
    exact ⟨feeRecipient, _, _, haccount, by simp [hnative, hfee]⟩

theorem buildSellRoute_opens
    (h : pool.buildSellRoute router user feeRecipient amount feeBps minimum = .ok trade)
    (hmint : pool.curve.quoteMint ≠ systemProgram) :
    OpensV3 pool.toPumpFunV3Pool user feeBps (sellHeaderV3 pool user feeRecipient amount minimum)
      trade.setup := by
  obtain ⟨_, _, -, -, hsetup⟩ := buildSellRoute_built h
  rw [hsetup]
  refine ⟨fun htoken => ?_, fun hfee _ => ⟨feeRecipient, _, _, rfl, by simp [hfee]⟩,
    fun hnative => (setup_buyback user false hnative).append⟩
  rw [sellHeaderV3_paid amount minimum hmint] at htoken ⊢
  obtain ⟨hnative, haccount⟩ := quotePurseV3_token htoken
  have hquote : pool.curve.quoteMint ≠ wsolMint := of_decide_eq_false hnative
  exact ⟨user, _, _, haccount, by simp [PumpFunV3Snapshot.setup, hquote]⟩

end Routes

/-- **V3 trades are carried out on chain.** The route of a buy, of an exact
budget in or of an exact amount out, and of a sale for a quote that is not the
System Program's address, has one leg; what the leg
may take and the fee make up the declared amount. The setup opens every token
account that the trade pays into. If the fee leaves the purse it is charged to
and the coins are not kept with the quote, the program takes the fee, calls the
leg, spends no more than was declared – in a sale, exactly that – and brings
the minimum; it stops only if one of these calls fails. -/
theorem v3_trades_execute [Pda] (pool : PumpFunV3Snapshot) (router user feeRecipient : Pubkey)
    (amount minimum : UInt64) (feeBps : UInt16) (trade : PumpFunV3Trade) :
    (∀ exactOut : Bool, (if exactOut then
          pool.buildBuyExactOutRoute router user feeRecipient amount feeBps minimum
        else pool.buildBuyRoute router user feeRecipient amount feeBps minimum) = .ok trade →
      ∃ leg spend, (if exactOut then pool.buyExactOutLeg user minimum spend
          else pool.buyLeg user spend minimum) = .ok leg
        ∧ amount.toNat = (feeAmount amount feeBps).toNat + spend.toNat
        ∧ V3Plans user leg (buysV3 pool.toPumpFunV3Pool user spend minimum)
        ∧ trade.route = (buyHeaderV3 pool user feeRecipient amount minimum).route router [leg]
        ∧ OpensV3 pool.toPumpFunV3Pool user feeBps
          (buyHeaderV3 pool user feeRecipient amount minimum) trade.setup
        ∧ ((feeAmount amount feeBps = 0 ∨ quotePurseV3 pool.toPumpFunV3Pool feeRecipient
              ≠ quotePurseV3 pool.toPumpFunV3Pool user) →
          coinPurseV3 pool.toPumpFunV3Pool user ≠ quotePurseV3 pool.toPumpFunV3Pool user →
          Executes (V3Plans user) router feeBps
            (buyHeaderV3 pool user feeRecipient amount minimum) [leg]))
    ∧ (pool.buildSellRoute router user feeRecipient amount feeBps minimum = .ok trade →
      pool.curve.quoteMint ≠ systemProgram →
      ∃ leg spend, pool.sellLeg user spend minimum = .ok leg
        ∧ amount.toNat = (feeAmount amount feeBps).toNat + spend.toNat
        ∧ V3Plans user leg (sellsV3 pool.toPumpFunV3Pool user spend minimum)
        ∧ trade.route = (sellHeaderV3 pool user feeRecipient amount minimum).route router [leg]
        ∧ OpensV3 pool.toPumpFunV3Pool user feeBps
          (sellHeaderV3 pool user feeRecipient amount minimum) trade.setup
        ∧ ((feeAmount amount feeBps = 0 ∨ coinPurseV3 pool.toPumpFunV3Pool feeRecipient
              ≠ coinPurseV3 pool.toPumpFunV3Pool user) →
          quotePurseV3 pool.toPumpFunV3Pool user ≠ coinPurseV3 pool.toPumpFunV3Pool user →
          Executes (V3Plans user) router feeBps
            (sellHeaderV3 pool user feeRecipient amount minimum) [leg])) := by
  refine ⟨fun exactOut h => ?_, fun h hmint => ?_⟩
  · have hinner : pool.buildBuyRouteInner router user feeRecipient amount feeBps minimum exactOut
        = .ok trade := by
      cases exactOut <;> exact h
    obtain ⟨leg, spend, hleg, hbuilt, hvalid, -⟩ := buildBuyRouteInner_built hinner
    obtain ⟨hsource, hdestination, hpaid⟩ :=
      buyHeaderV3_purses pool user feeRecipient amount minimum
    refine ⟨leg, spend, hleg, hbuilt.amount, hbuilt.plans, hbuilt.route,
      buildBuyRouteInner_opens hinner, fun hleaves hne => ?_⟩
    refine hbuilt.executes ?_ hsource.symm (hpaid (validate_mint hvalid)).symm hne ?_
    · unfold buyHeaderV3
      cases pool.native
      · exact .inr rfl
      · exact .inl rfl
    · rw [hsource, hdestination]
      exact hleaves
  · obtain ⟨leg, spend, hleg, hbuilt, -⟩ := buildSellRoute_built h
    exact ⟨leg, spend, hleg, hbuilt.amount, hbuilt.plans, hbuilt.route,
      buildSellRoute_opens h hmint, fun hleaves hne => hbuilt.executes (.inr rfl) rfl
        (sellHeaderV3_paid amount minimum hmint).symm hne hleaves⟩

/-! ## A buy on fixed accounts -/

/-- A curve quoted in another token, with a hundredth of fees. -/
def tokenCurve [Pda] : PumpFunV3Snapshot where
  curve := { sampleCurve with
    quoteMint := sampleKey 11
    bondingCurve := (Pda.find [ascii "bonding-curve", (sampleKey 4).bytes] pumpfunProgram).1
    associatedBondingCurve := ata
      (Pda.find [ascii "bonding-curve", (sampleKey 4).bytes] pumpfunProgram).1 (sampleKey 4)
      tokenProgram }
  complete := false
  supportsGraduation := true
  realQuoteReserves := 1000
  curveBaseTokenBalance := 200000
  poolMigrationFee := 0
  mayhemMode := false
  needsCurveExtension := false
  needsVolumeInitialization := false

/-- The header of the sample buy, whose fee is 10 of 1000. -/
def tokenCurveHeader [Pda] : BuiltHeader :=
  buyHeaderV3 tokenCurve (sampleKey 1) (sampleKey 3) 1000 5000

/-- What its leg plans to move. -/
def tokenCurveTransfer [Pda] : Transfer Purse :=
  buysV3 tokenCurve.toPumpFunV3Pool (sampleKey 1) 990 5000

/-- The payer's quote, and the accounts the buy pays into. -/
def tokenCurveBalances [Pda] : Ledger := fun address =>
  if address = sampleKey 30 then
    ⟨0, sampleKey 2, sampleConfig.store []⟩
  else if address = ata (sampleKey 1) (sampleKey 11) tokenProgram then
    ⟨0, tokenProgramId, tokenData (sampleKey 11) (sampleKey 1) 5000⟩
  else if address = ata (sampleKey 3) (sampleKey 11) tokenProgram then
    ⟨0, tokenProgramId, tokenData (sampleKey 11) (sampleKey 3) 0⟩
  else ⟨0, tokenProgramId, tokenData (sampleKey 4) (sampleKey 1) 0⟩

/-- The leg that the builder returns. -/
def tokenCurveLeg [Pda] : Leg :=
  ((tokenCurve.buyLeg (sampleKey 1) 990 5000).toOption).getD ⟨default, [], []⟩

/-- The instruction of the sample buy. -/
def tokenCurveRoute [Pda] : Instruction := tokenCurveHeader.route (sampleKey 2) [tokenCurveLeg]

/-- The runtime of the sample buy. -/
def tokenCurveRuntime [Pda] : Runtime :=
  tokenRuntime (soleSwap tokenCurveRoute.accounts tokenCurveLeg tokenCurveTransfer)

theorem tokenCurve_ready :
    letI := chainPda
    Ready tokenCurveBalances (sampleKey 2) tokenCurveRoute.accounts tokenCurveHeader 10
      sampleConfig := by
  let := chainPda
  obtain ⟨hsource, hdestination, houtput⟩ :
      TokenAccount tokenCurveBalances tokenCurveHeader.accounts.feeSource (sampleKey 11)
          (sampleKey 1)
        ∧ TokenAccount tokenCurveBalances tokenCurveHeader.accounts.feeDestination (sampleKey 11)
          (sampleKey 3)
        ∧ TokenAccount tokenCurveBalances tokenCurveHeader.accounts.outputTokenAccount
          (sampleKey 4) (sampleKey 1) := by
    refine ⟨?_, ?_, ?_⟩ <;>
      exact ⟨by decide +kernel, by decide +kernel, by decide +kernel, by decide +kernel⟩
  exact ready_of_tokens (sample_config _ rfl) (by decide +kernel) (by decide +kernel) hsource
    ⟨by decide, by decide +kernel, by decide +kernel, _, hsource, hdestination,
      fun h => absurd h (by decide +kernel)⟩ houtput

/-- What the builders return for the sample. -/
theorem tokenCurve_built :
    letI := chainPda
    tokenCurve.buyLeg (sampleKey 1) 990 5000 = .ok tokenCurveLeg
      ∧ feeAmount 1000 100 = 10 := by
  let := chainPda
  obtain ⟨leg, hleg⟩ : ∃ leg, tokenCurve.buyLeg (sampleKey 1) 990 5000 = .ok leg :=
    exists_ok_of_toBool (by decide +kernel)
  refine ⟨?_, by decide +kernel⟩
  unfold tokenCurveLeg
  rw [hleg]
  rfl

/-- **A V3 buy runs to its end**: the program takes 10 of 1000, buys with the
rest, and finds the minimum in the payer's account. -/
theorem tokenCurve_executes :
    letI := chainPda
    ∃ (trade : PumpFunV3Trade) (charged m' : Machine),
      tokenCurve.buildBuyRoute (sampleKey 2) (sampleKey 1) (sampleKey 3) 1000 100 5000 = .ok trade
      ∧ trade.route = tokenCurveRoute
      ∧ processInner tokenCurveRuntime (sampleKey 2)
        (tokenCurveRoute.accounts.map (mergedView tokenCurveRoute.accounts))
        tokenCurveRoute.data.tail 0 ⟨tokenCurveBalances, []⟩ = .ok () m'
      ∧ Executed tokenCurveRoute.accounts tokenCurveHeader [tokenCurveLeg] 10
        ⟨tokenCurveBalances, []⟩ charged m' := by
  let := chainPda
  obtain ⟨trade, htrade⟩ : ∃ trade, tokenCurve.buildBuyRoute (sampleKey 2) (sampleKey 1)
      (sampleKey 3) 1000 100 5000 = .ok trade := exists_ok_of_toBool (by decide +kernel)
  obtain ⟨leg, spend, hleg, hamount, hplans, hroute, -, hexecutes⟩ :=
    (v3_trades_execute tokenCurve (sampleKey 2) (sampleKey 1) (sampleKey 3) 1000 5000 100
      trade).1 false htrade
  obtain ⟨hbuilt, hfee⟩ := tokenCurve_built
  rw [hfee] at hamount
  obtain rfl : spend = 990 := UInt64.toNat_inj.mp (Nat.add_left_cancel (hamount.symm.trans
    (show (1000 : ℕ) = 10 + 990 from rfl)))
  obtain rfl : leg = tokenCurveLeg := Except.ok.inj (hleg.symm.trans hbuilt)
  have hexec : Executes (V3Plans (sampleKey 1)) (sampleKey 2) 100 tokenCurveHeader
      [tokenCurveLeg] := hexecutes (.inr (by decide +kernel)) (by decide +kernel)
  have hspeaks : Speaks (soleSwap tokenCurveRoute.accounts tokenCurveLeg tokenCurveTransfer)
      (V3Plans (sampleKey 1)) tokenCurveRoute.accounts [tokenCurveLeg] :=
    soleSwap_speaks (fun _ h => h.unique hplans) (by decide) (by decide) (by decide +kernel)
      (by decide +kernel) ⟨by decide +kernel, by decide +kernel⟩
  obtain ⟨⟨⟩, m', hm'⟩ := returned_iff.mp (show returned (processInner tokenCurveRuntime
    (sampleKey 2) (tokenCurveRoute.accounts.map (mergedView tokenCurveRoute.accounts))
    tokenCurveRoute.data.tail 0 ⟨tokenCurveBalances, []⟩) = true by decide +kernel)
  obtain ⟨charged, hexecuted⟩ := hexec.of_returned rfl hfee
    (tokenRuntime_honest hspeaks (by decide +kernel) (by decide +kernel)) tokenCurve_ready hm'
  exact ⟨trade, charged, m', htrade, hroute, hm', hexecuted⟩

end Execution
