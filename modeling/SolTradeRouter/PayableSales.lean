import SolTradeRouter.BridgedLaunch
import SolTradeRouter.PumpSwapQuotes
import SolTradeRouter.QuoteInverse

/-!
# Sales are paid from real reserves

A sale is priced by virtual and real reserves together, and paid from the
real ones: of a PumpSwap pool, the vault less the fees that are kept in it to
be swept; of a LaunchLab curve, the quote raised. Both quotes refuse an output
that the real reserves do not cover, fees included.

Many of the operators on the way saturate. The strict versions stop at the
first that would, and they return every quote that is returned – except that
a transfer fee above the whole of an output leaves zero of it, where the
strict version has no result.
-/

namespace Sdk

open Outcome Rounding SplitFees

/-! ## Operators in range -/

/-- `computeFeeBps`, where every 128-bit operator panics out of range. -/
def computeFeeBpsStrict (amount feeBasisPoints : ℕ) : Result ℕ := do
  let whole ← U128.mul (amount / 10000) feeBasisPoints
  let rem ← U128.mul (amount % 10000) feeBasisPoints
  let remCeil := if rem % 10000 = 0 then rem / 10000 else rem / 10000 + 1
  U128.add whole remCeil

/-- `pumpswapSellQuoteOut`, where every 128-bit operator panics out of
range. -/
def pumpswapSellQuoteOutStrict (pool : PumpSwapPool) (baseIn : UInt64) : Result UInt64 := do
  bailIf (baseIn = 0 ∨ pool.baseReserve = 0 ∨ pool.quoteReserve = 0)
    "invalid PumpSwap input or reserves"
  let reserved ← okOr pool.quoteFeeReserves
    "PumpSwap sell quote requires current Pool reserved fees"
  let realQuote ← okOr (U64.checkedSub pool.quoteReserve reserved)
    "PumpSwap reserved fees exceed quote vault balance"
  let effectiveQuote ← pumpswapEffectiveQuote pool
  let product ← U128.mul effectiveQuote.toNat baseIn.toNat
  let reserve ← U128.add pool.baseReserve.toNat baseIn.toNat
  let gross := product / reserve
  let lpFee ← computeFeeBpsStrict gross pool.lpFeeBps.toNat
  let protocolFee ← computeFeeBpsStrict gross pool.protocolFeeBps.toNat
  let creatorFee ← computeFeeBpsStrict gross pool.creatorFeeBps.toNat
  let part ← U128.add lpFee protocolFee
  let fees ← U128.add part creatorFee
  let out ← okOr (U128.checkedSub gross fees) "PumpSwap fees exceed gross output"
  let out ← okOr (U64.tryOf out) "PumpSwap output exceeds u64"
  let afterLp ← U128.sub gross lpFee
  bailIf (afterLp > realQuote.toNat) "PumpSwap real quote reserve cannot cover output"
  pure out

/-- `TokenTransferFee.calculate`, where the product panics out of range. -/
def TokenTransferFee.calculateStrict (fee : TokenTransferFee) (amount : UInt64) :
    Result UInt64 :=
  if fee.basisPoints = 0 ∨ amount = 0 ∨ fee.maximumFee = 0 then pure 0
  else do
    let numerator ← U128.mul amount.toNat fee.basisPoints.toNat
    orPanic (U64.tryOf (min (numerator ⌈/⌉ 10000) fee.maximumFee.toNat))

/-- `launchlabTotalFeeRate`, where the sums panic out of range. -/
def launchlabTotalFeeRateStrict (pool : LaunchLabPool) (shareFeeRate : UInt64) : Result ℕ := do
  bailIf (pool.feeRatesKnown = false)
    "LaunchLab current Global/Platform/mint fee state is missing"
  let rate ← U128.add pool.tradeFeeRate.toNat pool.platformFeeRate.toNat
  let rate ← U128.add rate pool.creatorFeeRate.toNat
  let rate ← U128.add rate shareFeeRate.toNat
  bailIf (rate > feeDenom) "LaunchLab total fee rate exceeds 1_000_000"
  pure rate

/-- `launchlabSellQuoteOut`, where every operator panics out of range. -/
def launchlabSellQuoteOutStrict (pool : LaunchLabPool) (baseIn : UInt64) : Result UInt64 := do
  bailIf (baseIn = 0) "base_in is zero"
  bailIf (pool.curveType ≠ 0) s!"unsupported LaunchLab curve_type {pool.curveType}"
  let baseXfer ← pool.baseTransferFee.calculateStrict baseIn
  let curveInput ← okOr (U64.checkedSub baseIn baseXfer)
    "LaunchLab base transfer fee exceeds input"
  bailIf (curveInput.toNat > pool.realBase.toNat)
    "LaunchLab sell input exceeds base previously sold"
  let inputReserve ← okOr (U128.checkedSub pool.virtualBase.toNat pool.realBase.toNat)
    "LaunchLab base reserve underflow"
  let outputReserve ← okOr (U128.checkedAdd pool.virtualQuote.toNat pool.realQuote.toNat)
    "LaunchLab quote reserve overflow"
  bailIf (inputReserve = 0) "invalid launchlab reserves"
  let denominator ← okOr (U128.checkedAdd inputReserve curveInput.toNat)
    "LaunchLab sell denominator overflow"
  let gross ← okOr ((U128.checkedMul curveInput.toNat outputReserve).map (· / denominator))
    "Failed to quote LaunchLab sell"
  bailIf (gross > pool.realQuote.toNat)
    "LaunchLab real quote reserve cannot cover gross output"
  let rate ← launchlabTotalFeeRateStrict pool 0
  let product ← U128.mul gross rate
  let vaultOut ← okOr (U128.checkedSub gross (product ⌈/⌉ feeDenom))
    "LaunchLab fees exceed output"
  let vaultOut ← okOr (U64.tryOf vaultOut) "LaunchLab sell out > u64"
  let quoteXfer ← pool.quoteTransferFee.calculateStrict vaultOut
  orPanic (U64.checkedSub vaultOut quoteXfer)

/-- The split routine stays in range on 64-bit numbers. -/
theorem computeFeeBpsStrict_eq {n r : ℕ} (hn : n < 2 ^ 64) (hr : r < 2 ^ 64) :
    computeFeeBpsStrict n r = .ok ((n * r) ⌈/⌉ 10000) := by
  have hwhole : n / 10000 * r ≤ U128.max := U128.mul_le (by omega) hr
  have hrem : n % 10000 * r ≤ U128.max := U128.mul_le (by omega) hr
  unfold computeFeeBpsStrict
  rw [U128.mul_eq hwhole, ok_bind, U128.mul_eq hrem, ok_bind]
  dsimp only
  rw [U128.add_eq (by rw [ceilDiv_split]; exact mul_ceilDiv_le_max hn hr), ceilDiv_split]

theorem calculateStrict_eq (fee : TokenTransferFee) (a : UInt64) :
    fee.calculateStrict a = .ok (fee.calculate a) := by
  have hbp : fee.basisPoints.toNat < 2 ^ 64 := by
    have hlt : fee.basisPoints.toNat < 2 ^ 16 := fee.basisPoints.toNat_lt
    omega
  unfold TokenTransferFee.calculateStrict TokenTransferFee.calculate
  split
  · rfl
  · have hmin : min ((a.toNat * fee.basisPoints.toNat) ⌈/⌉ 10000) fee.maximumFee.toNat < 2 ^ 64 :=
      (Nat.min_le_right _ _).trans_lt (UInt64.toNat_lt _)
    rw [U128.mul_eq (U128.mul_le a.toNat_lt hbp), ok_bind, U64.tryOf, if_pos hmin,
      U128.satMul_eq a.toNat_lt hbp]
    rfl

theorem launchlabTotalFeeRateStrict_eq (pool : LaunchLabPool) (share : UInt64) :
    launchlabTotalFeeRateStrict pool share = launchlabTotalFeeRate pool share := by
  have htrade := pool.tradeFeeRate.toNat_lt
  have hplatform := pool.platformFeeRate.toNat_lt
  have hcreator := pool.creatorFeeRate.toNat_lt
  have hshare := share.toNat_lt
  have hmax : 2 ^ 66 ≤ U128.max := by decide
  unfold launchlabTotalFeeRateStrict launchlabTotalFeeRate
  refine bind_congr fun _ => ?_
  rw [U128.add_eq (by omega), ok_bind, U128.add_eq (by omega), ok_bind, U128.add_eq (by omega),
    ok_bind, U128.satAdd_of_le (a := pool.tradeFeeRate.toNat) (by omega),
    U128.satAdd_of_le (b := pool.creatorFeeRate.toNat) (by omega),
    U128.satAdd_of_le (by omega)]

/-! ## PumpSwap -/

namespace PumpSwapPool

variable {pool : PumpSwapPool} {x out : UInt64}

/-- What a sale takes out of the pool, fees included. -/
def saleGross (pool : PumpSwapPool) (effective x : ℕ) : ℕ :=
  swapOut pool.baseReserve.toNat effective x

/-- The three fees of a sale. -/
def saleFees (pool : PumpSwapPool) (gross : ℕ) : ℕ :=
  (gross * pool.lpFeeBps.toNat) ⌈/⌉ 10000 + (gross * pool.protocolFeeBps.toNat) ⌈/⌉ 10000
    + (gross * pool.creatorFeeBps.toNat) ⌈/⌉ 10000

/-- **A quoted sale, in whole numbers**, with the fees reserved in the vault
and the effective quote reserve. -/
structure Sold (pool : PumpSwapPool) (x out r e : UInt64) : Prop where
  amount : 0 < x.toNat
  base : 0 < pool.baseReserve.toNat
  quote : 0 < pool.quoteReserve.toNat
  reserved : pool.quoteFeeReserves = some r
  reserved_le : r.toNat ≤ pool.quoteReserve.toNat
  effective : pumpswapEffectiveQuote pool = .ok e
  out_add : out.toNat + pool.saleFees (pool.saleGross e.toNat x.toNat)
    = pool.saleGross e.toNat x.toNat
  payable : pool.saleGross e.toNat x.toNat
      - (pool.saleGross e.toNat x.toNat * pool.lpFeeBps.toNat) ⌈/⌉ 10000
    ≤ pool.quoteReserve.toNat - r.toNat

/-- A sale never takes the whole effective reserve. -/
theorem saleGross_lt {e : UInt64} (hbase : 0 < pool.baseReserve.toNat) (he : 0 < e.toNat) :
    pool.saleGross e.toNat x.toNat < 2 ^ 64 := (swapOut_lt hbase he).trans e.toNat_lt

variable (pool) in
/-- The fees of a 64-bit amount add up in range. -/
theorem saleFees_le {n : ℕ} (hn : n < 2 ^ 64) : pool.saleFees n ≤ U128.max := by
  have hmax : U128.max = 2 ^ 128 - 1 := rfl
  have hle (r : UInt64) : (n * r.toNat) ⌈/⌉ 10000 ≤ U128.max / 10000 + 1 := by
    have hmul : n * r.toNat ≤ U128.max := U128.mul_le hn r.toNat_lt
    rw [Nat.ceilDiv_eq_add_pred_div]
    omega
  have hlp := hle pool.lpFeeBps
  have hprotocol := hle pool.protocolFeeBps
  have hcreator := hle pool.creatorFeeBps
  rw [saleFees]
  omega

/-- The gross output, as the operators compute it. -/
theorem saleGross_eq {e : UInt64} : U128.satMul e.toNat x.toNat
    / U128.satAdd pool.baseReserve.toNat x.toNat = pool.saleGross e.toNat x.toNat := by
  rw [U128.satMul_eq e.toNat_lt x.toNat_lt, U128.satAdd_eq (UInt64.toNat_lt _) x.toNat_lt,
    Nat.mul_comm e.toNat]
  rfl

theorem sold_of_ok (h : pumpswapSellQuoteOut pool x = .ok out) : ∃ r e, pool.Sold x out r e := by
  unfold pumpswapSellQuoteOut at h
  dsimp only at h
  simp only [bind_eq_ok, failIf_eq_ok, okOr_eq_ok, U64.checkedSub_eq_some, saleGross_eq,
    U128.checkedSub_eq_some, U64.tryOf_eq_some, pure_eq_ok, not_or, gt_iff_lt, not_lt] at h
  obtain ⟨_, ⟨hx, hbase, hquote⟩, r, hr, real, ⟨hle, hreal⟩, e, he, _, ⟨hfees, rfl⟩, out', hout,
    _, hpayable, rfl⟩ := h
  have hbase := U64.pos_iff.mp hbase
  have hlt : pool.saleGross e.toNat x.toNat < 2 ^ 64 :=
    saleGross_lt hbase (effectiveQuote_eq_ok.mp he).2
  have hsum : U128.satAdd (U128.satAdd
      (computeFeeBps (pool.saleGross e.toNat x.toNat) pool.lpFeeBps.toNat)
      (computeFeeBps (pool.saleGross e.toNat x.toNat) pool.protocolFeeBps.toNat))
      (computeFeeBps (pool.saleGross e.toNat x.toNat) pool.creatorFeeBps.toNat)
      = pool.saleFees (pool.saleGross e.toNat x.toNat) := by
    have hmax := pool.saleFees_le hlt
    rw [saleFees] at hmax ⊢
    rw [computeFeeBps_eq hlt (UInt64.toNat_lt _), computeFeeBps_eq hlt (UInt64.toNat_lt _),
      computeFeeBps_eq hlt (UInt64.toNat_lt _),
      U128.satAdd_of_le (b := (_ * pool.protocolFeeBps.toNat) ⌈/⌉ _) (by omega),
      U128.satAdd_of_le (by omega)]
  rw [hsum] at hfees hout
  rw [computeFeeBps_eq hlt (UInt64.toNat_lt _), hreal] at hpayable
  refine ⟨r, e, U64.pos_iff.mp hx, hbase, U64.pos_iff.mp hquote, hr, hle, he, ?_, hpayable⟩
  omega

/-- **No operator changes a sale's quote.** -/
theorem sellQuoteOutStrict_eq {r e : UInt64} (h : pool.Sold x out r e) :
    pumpswapSellQuoteOutStrict pool x = .ok out := by
  have hlt : pool.saleGross e.toNat x.toNat < 2 ^ 64 :=
    saleGross_lt h.base (effectiveQuote_eq_ok.mp h.effective).2
  have hmax := pool.saleFees_le hlt
  have hsold := h.out_add
  have hgross : e.toNat * x.toNat / (pool.baseReserve.toNat + x.toNat)
      = pool.saleGross e.toNat x.toNat := by
    rw [Nat.mul_comm]
    rfl
  obtain ⟨real, hreal⟩ : ∃ real, U64.checkedSub pool.quoteReserve r = some real :=
    ⟨pool.quoteReserve - r, if_pos (UInt64.le_iff_toNat_le.mpr h.reserved_le)⟩
  have hpayable := h.payable
  rw [← (U64.checkedSub_eq_some.mp hreal).2] at hpayable
  have hinputs : ¬ (x = 0 ∨ pool.baseReserve = 0 ∨ pool.quoteReserve = 0) := by
    rw [not_or, not_or]
    exact ⟨U64.pos_iff.mpr h.amount, U64.pos_iff.mpr h.base, U64.pos_iff.mpr h.quote⟩
  unfold pumpswapSellQuoteOutStrict
  rw [h.reserved, okOr_some]
  simp only [bailIf, failIf, if_neg hinputs, ok_bind]
  rw [hreal, okOr_some, ok_bind, h.effective, ok_bind, U128.mul_toNat, ok_bind, U128.add_toNat,
    ok_bind, hgross, computeFeeBpsStrict_eq hlt (UInt64.toNat_lt _), ok_bind,
    computeFeeBpsStrict_eq hlt (UInt64.toNat_lt _), ok_bind,
    computeFeeBpsStrict_eq hlt (UInt64.toNat_lt _), ok_bind]
  rw [saleFees] at hmax hsold
  rw [U128.add_eq (by omega), ok_bind, U128.add_eq hmax, ok_bind]
  have hout : U128.checkedSub (pool.saleGross e.toNat x.toNat)
      ((pool.saleGross e.toNat x.toNat * pool.lpFeeBps.toNat) ⌈/⌉ 10000
        + (pool.saleGross e.toNat x.toNat * pool.protocolFeeBps.toNat) ⌈/⌉ 10000
        + (pool.saleGross e.toNat x.toNat * pool.creatorFeeBps.toNat) ⌈/⌉ 10000)
      = some out.toNat := by
    rw [U128.checkedSub_eq_some]
    omega
  rw [hout, okOr_some, ok_bind, U64.tryOf_eq_some.mpr rfl, okOr_some, ok_bind,
    U128.sub_eq (by omega), ok_bind, if_neg (Nat.not_lt.mpr hpayable), ok_bind]
  rfl

/-- What a sale takes out of the vault is covered by what is not reserved. -/
theorem Sold.covered {r e : UInt64} (h : pool.Sold x out r e) :
    out.toNat + (pool.saleGross e.toNat x.toNat * pool.protocolFeeBps.toNat) ⌈/⌉ 10000
        + (pool.saleGross e.toNat x.toNat * pool.creatorFeeBps.toNat) ⌈/⌉ 10000
      ≤ pool.quoteReserve.toNat - r.toNat := by
  have hsum := h.out_add
  have hpayable := h.payable
  rw [saleFees] at hsum
  omega

/-- What the pool's account says of it: its identity, and the fees that are
kept in the vault. -/
structure Account where
  baseMint : Pubkey
  quoteMint : Pubkey
  poolBaseTokenAccount : Pubkey
  poolQuoteTokenAccount : Pubkey
  virtualQuoteReserves : BitVec 128
  coinCreator : Pubkey
  isCashbackCoin : Bool
  protocolFees : UInt64
  creatorFees : UInt64

/-- Supply sweep-reserved fees from the same authoritative Pool/vault snapshot
as the market. -/
def applyPoolFeeReserves (pool : PumpSwapPool) (state : Account) : Result PumpSwapPool := do
  bailIf (¬ (state.baseMint = pool.baseMint ∧ state.quoteMint = pool.quoteMint
      ∧ state.poolBaseTokenAccount = pool.poolBaseTokenAccount
      ∧ state.poolQuoteTokenAccount = pool.poolQuoteTokenAccount
      ∧ state.virtualQuoteReserves = pool.virtualQuoteReserves
      ∧ state.coinCreator = pool.coinCreator
      ∧ state.isCashbackCoin = pool.isCashbackCoin))
    "PumpSwap Pool changed or does not match the market snapshot; reload state"
  let fees ← okOr ((U64.checkedAdd state.protocolFees state.creatorFees).filter
    (· ≤ pool.quoteReserve)) "PumpSwap reserved fees exceed quote vault balance"
  pure { pool with quoteFeeReserves := some fees }

/-- **A sale leaves the fees of the account in the vault.** -/
theorem reserved_covered {pool' : PumpSwapPool} {state : Account}
    (h : pool.applyPoolFeeReserves state = .ok pool')
    (hsale : pumpswapSellQuoteOut pool' x = .ok out) :
    out.toNat + (state.protocolFees.toNat + state.creatorFees.toNat)
      ≤ pool.quoteReserve.toNat := by
  obtain ⟨_, -, h⟩ := bind_eq_ok.mp h
  obtain ⟨fees, hfees, h⟩ := bind_eq_ok.mp h
  cases pure_eq_ok.mp h
  rw [okOr_eq_ok, Option.filter_eq_some_iff, U64.checkedAdd_eq_some] at hfees
  obtain ⟨r, e, hsold⟩ := sold_of_ok hsale
  obtain rfl : fees = r := Option.some.inj hsold.reserved
  have hcovered := hsold.covered
  have hle := hsold.reserved_le
  dsimp only at hcovered hle
  rw [hfees.1]
  omega

end PumpSwapPool

/-! ## LaunchLab -/

namespace LaunchLabPool

variable {pool : LaunchLabPool} {x out : UInt64}

/-- What a sale takes out of the curve, fees included. -/
def saleGross (pool : LaunchLabPool) (credited : ℕ) : ℕ :=
  credited * (pool.virtualQuote.toNat + pool.realQuote.toNat)
    / (pool.virtualBase.toNat - pool.realBase.toNat + credited)

/-- **A quoted sale, in whole numbers**: what the curve is credited with, and
what leaves its vault. -/
structure Sold (pool : LaunchLabPool) (x out credited vaultOut : UInt64) : Prop where
  amount : x ≠ 0
  curveType : pool.curveType = 0
  credit : U64.checkedSub x (pool.baseTransferFee.calculate x) = some credited
  credited_le : credited.toNat ≤ pool.realBase.toNat
  base : pool.realBase.toNat < pool.virtualBase.toNat
  quote : pool.virtualQuote.toNat + pool.realQuote.toNat ≤ U128.max
  denominator : pool.virtualBase.toNat - pool.realBase.toNat + credited.toNat ≤ U128.max
  product : credited.toNat * (pool.virtualQuote.toNat + pool.realQuote.toNat) ≤ U128.max
  gross_le : pool.saleGross credited.toNat ≤ pool.realQuote.toNat
  known : pool.feeRatesKnown = true
  rate_le : pool.totalFeeRate 0 ≤ feeDenom
  vault : vaultOut.toNat + feeCeil (pool.saleGross credited.toNat) (pool.totalFeeRate 0)
    = pool.saleGross credited.toNat
  received : out = U64.satSub vaultOut (pool.quoteTransferFee.calculate vaultOut)

theorem sold_of_ok (h : launchlabSellQuoteOut pool x = .ok out) :
    ∃ credited vaultOut, pool.Sold x out credited vaultOut := by
  unfold launchlabSellQuoteOut at h
  dsimp only at h
  simp only [bind_eq_ok, failIf_eq_ok, okOr_eq_ok, pure_eq_ok, U128.checkedSub_eq_some,
    U128.checkedAdd_eq_some, Option.map_eq_some_iff, U128.checkedMul_eq_some,
    launchlabTotalFeeRate_eq_ok, U64.tryOf_eq_some, gt_iff_lt, not_lt, not_not] at h
  obtain ⟨_, hx, _, hcurve, credited, hcredited, _, hle, _, ⟨hbase, rfl⟩, _, ⟨hquote, rfl⟩, _, hne,
    _, ⟨hden, rfl⟩, _, ⟨_, ⟨hproduct, rfl⟩, rfl⟩, _, hgross, _, ⟨hknown, hrate, rfl⟩, _,
    ⟨hfee, rfl⟩, vaultOut, hvault, rfl⟩ := h
  refine ⟨credited, vaultOut, hx, hcurve, hcredited, hle, by omega, hquote, hden, hproduct, hgross,
    hknown, hrate, ?_, rfl⟩
  rw [hvault]
  exact Nat.sub_add_cancel hfee

/-- The vault pays at most the gross output less its fee. -/
theorem Sold.out_add_le {credited vaultOut : UInt64} (h : pool.Sold x out credited vaultOut)
    (hreal : pool.realQuote.toNat < 2 ^ 64) :
    out.toNat + (pool.saleGross credited.toNat * pool.totalFeeRate 0) ⌈/⌉ feeDenom
      ≤ pool.saleGross credited.toNat := by
  have hvault := h.vault
  rw [feeCeil_eq (h.gross_le.trans_lt hreal) h.rate_le] at hvault
  rw [h.received, U64.satSub_toNat]
  omega

/-- **No operator changes a sale's quote**, unless the transfer fee takes all
of it. -/
theorem Sold.strict {credited vaultOut : UInt64} (h : pool.Sold x out credited vaultOut)
    (hreal : pool.realQuote.toNat < 2 ^ 64)
    (hfee : (pool.quoteTransferFee.calculate vaultOut).toNat ≤ vaultOut.toNat) :
    launchlabSellQuoteOutStrict pool x = .ok out := by
  have hbase : U128.checkedSub pool.virtualBase.toNat pool.realBase.toNat
      = some (pool.virtualBase.toNat - pool.realBase.toNat) := if_pos h.base.le
  have hne : ¬ pool.virtualBase.toNat - pool.realBase.toNat = 0 := by
    have hlt := h.base
    omega
  have hrate : launchlabTotalFeeRate pool 0 = .ok (pool.totalFeeRate 0) :=
    launchlabTotalFeeRate_eq_ok.mpr ⟨h.known, h.rate_le, rfl⟩
  have hgross : pool.saleGross credited.toNat < 2 ^ 64 := h.gross_le.trans_lt hreal
  have hmul : (U128.mul (pool.saleGross credited.toNat) (pool.totalFeeRate 0) : Result ℕ)
      = .ok (pool.saleGross credited.toNat * pool.totalFeeRate 0) := by
    refine U128.mul_eq (U128.mul_le hgross (h.rate_le.trans_lt (by decide)))
  have hvault : U128.checkedSub (pool.saleGross credited.toNat)
      ((pool.saleGross credited.toNat * pool.totalFeeRate 0) ⌈/⌉ feeDenom)
      = some vaultOut.toNat := by
    have hsum := h.vault
    rw [feeCeil_eq hgross h.rate_le] at hsum
    rw [U128.checkedSub_eq_some]
    omega
  have hproduct : (U128.checkedMul credited.toNat
      (pool.virtualQuote.toNat + pool.realQuote.toNat)).map
      (· / (pool.virtualBase.toNat - pool.realBase.toNat + credited.toNat))
      = some (pool.saleGross credited.toNat) := by
    rw [U128.checkedMul, if_pos h.product]
    rfl
  have hout : U64.checkedSub vaultOut (pool.quoteTransferFee.calculate vaultOut) = some out := by
    rw [U64.checkedSub_eq_some, h.received, U64.satSub_toNat]
    exact ⟨hfee, rfl⟩
  unfold launchlabSellQuoteOutStrict
  simp only [bailIf, failIf, if_neg h.amount, if_neg (not_not.mpr h.curveType), ok_bind]
  rw [calculateStrict_eq, ok_bind, h.credit, okOr_some, ok_bind,
    if_neg (Nat.not_lt.mpr h.credited_le), ok_bind, hbase, okOr_some, ok_bind, U128.checkedAdd,
    if_pos h.quote, okOr_some, ok_bind, if_neg hne, ok_bind, U128.checkedAdd,
    if_pos h.denominator, okOr_some, ok_bind, hproduct, okOr_some, ok_bind,
    if_neg (Nat.not_lt.mpr h.gross_le), ok_bind,
    launchlabTotalFeeRateStrict_eq, hrate, ok_bind, hmul, ok_bind, hvault, okOr_some, ok_bind,
    U64.tryOf_eq_some.mpr rfl, okOr_some, ok_bind, calculateStrict_eq, ok_bind, hout]
  rfl

end LaunchLabPool

/-- **Quoted sales are payable from real reserves.** A PumpSwap sale and its
two outgoing fees are within the vault less the fees reserved in it, and its
output is the gross less three exact fees. A LaunchLab sale credits no more
base than was sold and takes no more than the quote raised, fees included.
No saturating operator changes a quote, but for a transfer fee above the
whole of a LaunchLab output, which leaves zero. -/
theorem quoted_sales_payable :
    (∀ (pool : PumpSwapPool) (x out : UInt64), pumpswapSellQuoteOut pool x = .ok out →
        pumpswapSellQuoteOutStrict pool x = .ok out
        ∧ ∃ reserved effective : UInt64, pool.quoteFeeReserves = some reserved
          ∧ reserved ≤ pool.quoteReserve
          ∧ (effective.toNat : ℤ) = pool.quoteReserve.toNat + pool.virtualQuoteReserves.toInt
          ∧ let gross := x.toNat * effective.toNat / (pool.baseReserve.toNat + x.toNat)
            out.toNat + ((gross * pool.lpFeeBps.toNat) ⌈/⌉ 10000
                + (gross * pool.protocolFeeBps.toNat) ⌈/⌉ 10000
                + (gross * pool.creatorFeeBps.toNat) ⌈/⌉ 10000) = gross
              ∧ out.toNat + (gross * pool.protocolFeeBps.toNat) ⌈/⌉ 10000
                + (gross * pool.creatorFeeBps.toNat) ⌈/⌉ 10000
                ≤ pool.quoteReserve.toNat - reserved.toNat)
      ∧ (∀ (pool pool' : PumpSwapPool) (state : PumpSwapPool.Account) (x out : UInt64),
        pool.applyPoolFeeReserves state = .ok pool' → pumpswapSellQuoteOut pool' x = .ok out →
        out.toNat + (state.protocolFees.toNat + state.creatorFees.toNat)
          ≤ pool.quoteReserve.toNat)
      ∧ ∀ (pool : LaunchLabPool) (x out : UInt64), pool.realQuote.toNat < 2 ^ 64 →
        launchlabSellQuoteOut pool x = .ok out →
        ∃ credited rate, credited = x.toNat - (pool.baseTransferFee.calculate x).toNat
          ∧ launchlabTotalFeeRate pool 0 = .ok rate
          ∧ credited ≤ pool.realBase.toNat
          ∧ let gross := credited * (pool.virtualQuote.toNat + pool.realQuote.toNat)
              / (pool.virtualBase.toNat - pool.realBase.toNat + credited)
            gross ≤ pool.realQuote.toNat
              ∧ out.toNat + (gross * rate) ⌈/⌉ feeDenom ≤ gross
              ∧ (launchlabSellQuoteOutStrict pool x = .ok out
                ∨ out = 0 ∧ 10000 < pool.quoteTransferFee.basisPoints) := by
  refine ⟨fun pool x out h => ?_, fun _ _ _ _ _ => PumpSwapPool.reserved_covered,
    fun pool x out hreal h => ?_⟩
  · obtain ⟨r, e, hsold⟩ := PumpSwapPool.sold_of_ok h
    exact ⟨PumpSwapPool.sellQuoteOutStrict_eq hsold, r, e, hsold.reserved,
      UInt64.le_iff_toNat_le.mpr hsold.reserved_le,
      (PumpSwapPool.effectiveQuote_eq_ok.mp hsold.effective).1, hsold.out_add, hsold.covered⟩
  · obtain ⟨credited, vaultOut, hsold⟩ := LaunchLabPool.sold_of_ok h
    refine ⟨credited.toNat, _, (U64.checkedSub_eq_some.mp hsold.credit).2,
      launchlabTotalFeeRate_eq_ok.mpr ⟨hsold.known, hsold.rate_le, rfl⟩, hsold.credited_le,
      hsold.gross_le, hsold.out_add_le hreal, ?_⟩
    by_cases hfee : (pool.quoteTransferFee.calculate vaultOut).toNat ≤ vaultOut.toNat
    · exact .inl (hsold.strict hreal hfee)
    · refine .inr ⟨?_, ?_⟩
      · rw [hsold.received, ← UInt64.toNat_inj, U64.satSub_toNat]
        exact Nat.sub_eq_zero_of_le (Nat.not_le.mp hfee).le
      · rw [← UInt16.not_le]
        intro hle
        rw [TokenTransferFee.calculate_toNat] at hfee
        exact hfee ((Nat.min_le_left _ _).trans
          (ceilFee_le (by decide) (TokenTransferFee.bp_le hle)))

/-- The account of the sample pool. -/
def samplePumpSwapAccount : PumpSwapPool.Account where
  baseMint := sampleKey 4
  quoteMint := wsolMint
  poolBaseTokenAccount := sampleKey 5
  poolQuoteTokenAccount := sampleKey 6
  virtualQuoteReserves := 0
  coinCreator := sampleKey 9
  isCashbackCoin := false
  protocolFees := 400
  creatorFees := 600

/-- A sale of each kind. -/
theorem sample_sales_payable :
    pumpswapSellQuoteOutStrict samplePumpSwap 500000000000 = .ok 333231
      ∧ 333231 + (400 + 600) ≤ 1000000
      ∧ ∃ rate, launchlabTotalFeeRate sampleLaunch 0 = .ok rate
        ∧ launchlabSellQuoteOutStrict sampleLaunch 100 = .ok 225 := by
  have hswap : pumpswapSellQuoteOut samplePumpSwap 500000000000 = .ok 333231 := by
    decide +kernel
  have hlaunch : launchlabSellQuoteOut sampleLaunch 100 = .ok 225 := by decide +kernel
  have happly : samplePumpSwap.applyPoolFeeReserves samplePumpSwapAccount = .ok samplePumpSwap :=
    rfl
  refine ⟨(quoted_sales_payable.1 _ _ _ hswap).1,
    quoted_sales_payable.2.1 _ _ _ _ _ happly hswap, ?_⟩
  obtain ⟨_, rate, -, hrate, -, -, -, hstrict⟩ :=
    quoted_sales_payable.2.2 sampleLaunch 100 225 (by decide) hlaunch
  exact ⟨rate, hrate, hstrict.resolve_right fun h => absurd h.1 (by decide)⟩

/-- **A transfer fee of twice the output** is taken as the whole of it. -/
theorem excessive_fee_saturates :
    ¬ ∀ (pool : LaunchLabPool) (x out : UInt64), pool.realQuote.toNat < 2 ^ 64 →
      launchlabSellQuoteOut pool x = .ok out → launchlabSellQuoteOutStrict pool x = .ok out := by
  intro h
  have hstrict := h { sampleLaunch with quoteTransferFee := ⟨20000, 1000000⟩ } 100 0 (by decide)
    (by decide +kernel)
  exact absurd hstrict (by decide +kernel)

end Sdk
