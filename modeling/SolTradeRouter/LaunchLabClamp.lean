import SolTradeRouter.QuoteInverse

/-!
# The graduation clamp

A LaunchLab curve sells a fixed amount of its base token and then graduates.
A buy that asks for more than what remains is quoted what remains, for the
input that buys it. That input is the least one: it composes the inverses of
the curve, of the curve's fees and of the transfer fee, and each of them is
least (`graduation_eq`). So a clamped quote quotes itself again.

The reserves of a snapshot are 128-bit numbers. Whatever they are, a quote
that is returned kept its intermediate products in range, and so does every
quote of a smaller input.
-/

namespace Sdk

open Outcome Rounding

namespace LaunchLabPool

/-- The quote reserve the curve prices with. -/
def inputReserve (pool : LaunchLabPool) : ℕ := pool.virtualQuote.toNat + pool.realQuote.toNat

/-- And the base reserve. -/
def outputReserve (pool : LaunchLabPool) : ℕ := pool.virtualBase.toNat - pool.realBase.toNat

/-- What the curve still has for sale. -/
def remaining (pool : LaunchLabPool) : ℕ := pool.totalBaseSell.toNat - pool.realBase.toNat

/-- The curve's fees together. -/
def totalFeeRate (pool : LaunchLabPool) (shareFeeRate : UInt64) : ℕ :=
  pool.tradeFeeRate.toNat + pool.platformFeeRate.toNat + pool.creatorFeeRate.toNat
    + shareFeeRate.toNat

/-- The input of the curve, net of the transfer fee and the curve's fees. -/
def curveIn (pool : LaunchLabPool) (shareFeeRate : UInt64) (x : ℕ) : ℕ :=
  netCeil (pool.totalFeeRate shareFeeRate) feeDenom (pool.quoteTransferFee.net x)

/-- What the curve gives for an input, before the clamp. -/
def curveOut (pool : LaunchLabPool) (shareFeeRate : UInt64) (x : ℕ) : ℕ :=
  swapOut pool.inputReserve pool.outputReserve (pool.curveIn shareFeeRate x)

/-- The curve at an input. -/
def curve (pool : LaunchLabPool) (shareFeeRate : UInt64) (x : ℕ) : LaunchLabCurve :=
  ⟨pool.totalFeeRate shareFeeRate, pool.inputReserve, pool.outputReserve,
    pool.curveOut shareFeeRate x⟩

/-- **A pool whose buys can be quoted.** -/
structure Quotes (pool : LaunchLabPool) (shareFeeRate : UInt64) : Prop where
  curveType : pool.curveType = 0
  known : pool.feeRatesKnown = true
  rate : pool.totalFeeRate shareFeeRate ≤ feeDenom
  base : pool.realBase.toNat ≤ pool.virtualBase.toNat
  input : 0 < pool.inputReserve
  input_le : pool.inputReserve ≤ U128.max
  output : 0 < pool.outputReserve

/-- An input whose intermediate results are in range. -/
structure InRange (pool : LaunchLabPool) (shareFeeRate x : UInt64) : Prop where
  fee_le : (pool.quoteTransferFee.calculate x).toNat ≤ x.toNat
  product_le : pool.curveIn shareFeeRate x.toNat * pool.outputReserve ≤ U128.max
  denominator_le : pool.inputReserve + pool.curveIn shareFeeRate x.toNat ≤ U128.max

end LaunchLabPool

section

variable {pool : LaunchLabPool} {share x : UInt64}

/-- The rate is read if it is known and at most everything. -/
theorem launchlabTotalFeeRate_eq_ok {rate : ℕ} :
    launchlabTotalFeeRate pool share = .ok rate ↔ pool.feeRatesKnown = true
      ∧ pool.totalFeeRate share ≤ feeDenom ∧ rate = pool.totalFeeRate share := by
  have hsum : U128.satAdd (U128.satAdd
      (U128.satAdd pool.tradeFeeRate.toNat pool.platformFeeRate.toNat)
      pool.creatorFeeRate.toNat) share.toNat = pool.totalFeeRate share := by
    have htrade := pool.tradeFeeRate.toNat_lt
    have hplatform := pool.platformFeeRate.toNat_lt
    have hcreator := pool.creatorFeeRate.toNat_lt
    have hshare := share.toNat_lt
    have hmax : 2 ^ 66 ≤ U128.max := by decide
    rw [U128.satAdd_of_le (a := pool.tradeFeeRate.toNat) (by omega),
      U128.satAdd_of_le (b := pool.creatorFeeRate.toNat) (by omega),
      U128.satAdd_of_le (by omega)]
    rfl
  unfold launchlabTotalFeeRate
  simp only [bind_eq_ok, failIf_eq_ok, pure_eq_ok, hsum, Bool.not_eq_false, Nat.not_lt, gt_iff_lt]
  constructor
  · rintro ⟨_, hknown, _, hrate, rfl⟩
    exact ⟨hknown, hrate, rfl⟩
  · rintro ⟨hknown, hrate, rfl⟩
    exact ⟨(), hknown, (), hrate, rfl⟩

/-- The fee does not saturate. -/
theorem feeCeil_eq {amount rate : ℕ} (ha : amount < 2 ^ 64) (hr : rate ≤ feeDenom) :
    feeCeil amount rate = (amount * rate) ⌈/⌉ feeDenom := by
  have hdenom : feeDenom = 1000000 := rfl
  rw [feeCeil, U128.satMul_eq ha (by omega)]

/-- **What the curve gives.** -/
theorem launchlabCurve_eq_ok {c : LaunchLabCurve} :
    launchlabCurve pool x share = .ok c ↔ pool.Quotes share ∧ x ≠ 0 ∧ pool.InRange share x
      ∧ c = pool.curve share x.toNat := by
  have hnet : pool.quoteTransferFee.net x.toNat < 2 ^ 64 :=
    Nat.lt_of_le_of_lt (TokenTransferFee.net_le _ _) x.toNat_lt
  unfold launchlabCurve
  simp only [bind_eq_ok, failIf_eq_ok, okOr_eq_ok, pure_eq_ok, launchlabTotalFeeRate_eq_ok,
    U64.checkedSub_eq_some, TokenTransferFee.sub_calculate, Option.map_eq_some_iff]
  constructor
  · rintro ⟨_, hx, _, htype, rate, ⟨hknown, hrate, rfl⟩, vault, ⟨hfee, hvault⟩, curve, hsub,
      _, hinput, output, hbase, _, hreserves, denom, hdenom, quoted, ⟨product, hproduct, rfl⟩,
      rfl⟩
    rw [hvault, feeCeil_eq hnet hrate] at hsub
    obtain ⟨-, rfl⟩ := U128.checkedSub_eq_some.mp hsub
    obtain ⟨hinput', rfl⟩ := U128.checkedAdd_eq_some.mp hinput
    obtain ⟨hbase', rfl⟩ := U128.checkedSub_eq_some.mp hbase
    obtain ⟨hdenom', rfl⟩ := U128.checkedAdd_eq_some.mp hdenom
    obtain ⟨hproduct', rfl⟩ := U128.checkedMul_eq_some.mp hproduct
    rw [not_or] at hreserves
    exact ⟨⟨by simpa using htype, hknown, hrate, hbase', Nat.pos_of_ne_zero hreserves.1,
      hinput', Nat.pos_of_ne_zero hreserves.2⟩, hx, ⟨hfee, hproduct', hdenom'⟩, rfl⟩
  · rintro ⟨hq, hx, hin, rfl⟩
    have hvault : (UInt64.ofNat (pool.quoteTransferFee.net x.toNat)).toNat
        = pool.quoteTransferFee.net x.toNat := U64.toNat_ofNat hnet
    refine ⟨(), hx, (), by simpa using hq.curveType, _, ⟨hq.known, hq.rate, rfl⟩, _,
      ⟨hin.fee_le, hvault⟩, pool.curveIn share x.toNat, ?_, pool.inputReserve,
      U128.checkedAdd_eq_some.mpr ⟨hq.input_le, rfl⟩, pool.outputReserve,
      U128.checkedSub_eq_some.mpr ⟨hq.base, rfl⟩, (), ?_, _,
      U128.checkedAdd_eq_some.mpr ⟨hin.denominator_le, rfl⟩, _,
      ⟨_, U128.checkedMul_eq_some.mpr ⟨hin.product_le, rfl⟩, rfl⟩, rfl⟩
    · rw [hvault, feeCeil_eq hnet hq.rate, U128.checkedSub_eq_some]
      exact ⟨ceilFee_le (by decide) hq.rate, rfl⟩
    · rw [not_or]
      exact ⟨Nat.ne_of_gt hq.input, Nat.ne_of_gt hq.output⟩

/-! ## The input that buys what remains -/

/-- **The three inverses compose**: reaching a positive amount below the
reserve takes an input of at least the composed inverse. -/
theorem LaunchLabPool.Quotes.le_curveOut_iff (hq : pool.Quotes share) {v : ℕ}
    (hv : v < pool.outputReserve) (hrate : pool.totalFeeRate share < feeDenom) (n : ℕ) :
    v ≤ pool.curveOut share n ↔ grossCeil (pool.totalFeeRate share) feeDenom
      (swapIn pool.inputReserve pool.outputReserve v) ≤ pool.quoteTransferFee.net n := by
  rw [LaunchLabPool.curveOut, le_swapOut_iff hq.input hv, LaunchLabPool.curveIn,
    netCeil_gc hrate]

/-- The curve never pays out the whole reserve. -/
theorem LaunchLabPool.Quotes.curveOut_lt (hq : pool.Quotes share) (n : ℕ) :
    pool.curveOut share n < pool.outputReserve :=
  swapOut_lt hq.input hq.output

/-- More reaches it of more. -/
theorem LaunchLabPool.Quotes.curveIn_mono (hq : pool.Quotes share) :
    Monotone (pool.curveIn share) := by
  intro n n' hn
  exact netCeil_mono (by decide) hq.rate (TokenTransferFee.net_mono _ hn)

/-- And it pays more. -/
theorem LaunchLabPool.Quotes.curveOut_mono (hq : pool.Quotes share) :
    Monotone (pool.curveOut share) := by
  intro n n' hn
  exact swapOut_mono hq.input hq.output (hq.curveIn_mono hn)

/-- A fee of everything leaves nothing to buy with. -/
theorem LaunchLabPool.Quotes.rate_lt (hq : pool.Quotes share) {n : ℕ}
    (hpos : 0 < pool.curveOut share n) : pool.totalFeeRate share < feeDenom := by
  refine Nat.lt_of_le_of_ne hq.rate fun heq => ?_
  rw [LaunchLabPool.curveOut, LaunchLabPool.curveIn, heq,
    netCeil_eq (by decide) (Nat.le_refl _), Nat.sub_self, Nat.mul_zero, Nat.zero_div, swapOut,
    Nat.zero_mul, Nat.zero_div] at hpos
  exact absurd hpos (Nat.lt_irrefl 0)

/-- The gross amount does not saturate. -/
theorem preFeeAmount_eq {postFee rate : ℕ} (hp : postFee < 2 ^ 64) (hr : rate < feeDenom) :
    preFeeAmount postFee rate = .ok (grossCeil rate feeDenom postFee) := by
  have hpos : 0 < feeDenom - rate := by omega
  have hsub : (U128.checkedSub feeDenom rate).filter (0 < ·) = some (feeDenom - rate) := by
    rw [U128.checkedSub, if_pos hr.le]
    simp [Option.filter, hpos]
  rw [preFeeAmount, hsub, U128.satMul_eq hp (by decide)]
  rfl

/-- **Graduation takes the least input** that buys what remains: when an
input buys more, the formula is in range, and its result is no larger. -/
theorem graduation_eq (hq : pool.Quotes share) (hin : pool.InRange share x)
    (hrem : 0 < pool.remaining) (hlt : pool.remaining < pool.curveOut share x.toNat) :
    ∃ a : UInt64, launchlabGraduation pool x (pool.curve share x.toNat) pool.remaining
        = .ok (a, pool.remaining)
      ∧ a ≤ x ∧ ∀ n, a.toNat ≤ n ↔ pool.remaining ≤ pool.curveOut share n := by
  have hrate := hq.rate_lt (Nat.lt_of_le_of_lt (Nat.zero_le _) hlt)
  have hout : pool.remaining < pool.outputReserve := hlt.trans (hq.curveOut_lt _)
  have hrest : 0 < pool.outputReserve - pool.remaining := by omega
  have hvault : grossCeil (pool.totalFeeRate share) feeDenom
      (swapIn pool.inputReserve pool.outputReserve pool.remaining)
        ≤ pool.quoteTransferFee.net x.toNat := (hq.le_curveOut_iff hout hrate _).mp hlt.le
  have hvault64 := Nat.lt_of_le_of_lt (hvault.trans (TokenTransferFee.net_le _ _)) x.toNat_lt
  have hcurve : swapIn pool.inputReserve pool.outputReserve pool.remaining
      ≤ grossCeil (pool.totalFeeRate share) feeDenom
        (swapIn pool.inputReserve pool.outputReserve pool.remaining) :=
    ((netCeil_gc hrate).le_u_l _).trans netCeil_le
  have hcurve64 := Nat.lt_of_le_of_lt hcurve hvault64
  obtain ⟨vault, hvaultEq⟩ : ∃ vault : UInt64, vault.toNat
      = grossCeil (pool.totalFeeRate share) feeDenom
        (swapIn pool.inputReserve pool.outputReserve pool.remaining) :=
    ⟨_, U64.toNat_ofNat hvault64⟩
  have hswap : 0 < swapIn pool.inputReserve pool.outputReserve pool.remaining := by
    rw [Nat.pos_iff_ne_zero]
    intro hzero
    have hle := (le_swapOut_iff (c := 0) hq.input hout).mpr hzero.le
    rw [swapOut, Nat.zero_mul, Nat.zero_div] at hle
    omega
  have hiff : ∀ n, pool.quoteTransferFee.gross vault ≤ n
      ↔ pool.remaining ≤ pool.curveOut share n := by
    intro n
    rw [TokenTransferFee.gross_le_iff (by omega), hvaultEq, hq.le_curveOut_iff hout hrate]
  have hactual : pool.quoteTransferFee.gross vault ≤ x.toNat := (hiff _).mpr hlt.le
  have hactualNat := U64.toNat_ofNat (Nat.lt_of_le_of_lt hactual x.toNat_lt)
  have hle : UInt64.ofNat (pool.quoteTransferFee.gross vault) ≤ x := by
    rw [UInt64.le_iff_toNat_le, hactualNat]
    exact hactual
  refine ⟨UInt64.ofNat (pool.quoteTransferFee.gross vault), ?_, hle, fun n => ?_⟩
  · have hafter : (U128.checkedSub pool.outputReserve pool.remaining).filter (0 < ·)
        = some (pool.outputReserve - pool.remaining) := by
      rw [U128.checkedSub, if_pos hout.le]
      simp [Option.filter, hrest]
    have hmul : U128.checkedMul pool.inputReserve pool.remaining
        = some (pool.inputReserve * pool.remaining) := by
      rw [U128.checkedMul_eq_some]
      -- The product is at most the one that was in range for `x`.
      have hprod : pool.inputReserve * pool.remaining ≤ (pool.outputReserve - pool.remaining)
          * swapIn pool.inputReserve pool.outputReserve pool.remaining :=
        (ceilDiv_le_iff_le_mul hrest).mp (Nat.le_refl _)
      have hcurveIn : swapIn pool.inputReserve pool.outputReserve pool.remaining
          ≤ pool.curveIn share x.toNat := (le_swapOut_iff hq.input hout).mp hlt.le
      have hle := Nat.mul_le_mul (Nat.sub_le pool.outputReserve pool.remaining) hcurveIn
      rw [Nat.mul_comm pool.outputReserve] at hle
      exact ⟨hprod.trans (hle.trans hin.product_le), rfl⟩
    have hadd : U64.checkedAdd vault (pool.quoteTransferFee.calculateInverse vault)
        = some (UInt64.ofNat (pool.quoteTransferFee.gross vault)) := by
      rw [U64.checkedAdd_eq_some, hactualNat]
      rfl
    have htry : U64.tryOf (grossCeil (pool.totalFeeRate share) feeDenom
        (swapIn pool.inputReserve pool.outputReserve pool.remaining)) = some vault :=
      U64.tryOf_eq_some.mpr hvaultEq
    unfold launchlabGraduation LaunchLabPool.curve
    simp only [hafter, hmul, okOr_some, ok_bind, Option.map_some]
    change (preFeeAmount (swapIn _ _ _) _ >>= _) = _
    rw [preFeeAmount_eq hcurve64 hrate, ok_bind, htry, okOr_some, ok_bind, hadd, okOr_some,
      ok_bind]
    simp only [pure, Except.pure, Except.ok.injEq, Prod.mk.injEq, and_true]
    exact if_pos hle
  · rw [hactualNat]
    exact hiff n

/-! ## Quotes of a buy -/

/-- A buy that asks for more than what remains. -/
def LaunchLabPool.Clamped (pool : LaunchLabPool) (share : UInt64) (x : ℕ) : Prop :=
  pool.totalBaseSell.toNat ≠ 0 ∧ pool.remaining < pool.curveOut share x

/-- What the curve pays, with no more than what is left for sale. -/
def LaunchLabPool.sold (pool : LaunchLabPool) (share : UInt64) (x : ℕ) : ℕ :=
  if pool.totalBaseSell.toNat = 0 then pool.curveOut share x
  else min (pool.curveOut share x) pool.remaining

/-- More is sold for more. -/
theorem LaunchLabPool.Quotes.sold_mono (hq : pool.Quotes share) : Monotone (pool.sold share) := by
  intro n n' hn
  unfold LaunchLabPool.sold
  split
  · exact hq.curveOut_mono hn
  · exact min_le_min (hq.curveOut_mono hn) (Nat.le_refl _)

/-- **An input that can be quoted.** -/
structure LaunchLabPool.Accepts (pool : LaunchLabPool) (share x : UInt64) : Prop where
  quotes : pool.Quotes share
  ne_zero : x ≠ 0
  inRange : pool.InRange share x
  base_le : pool.totalBaseSell.toNat ≠ 0 → pool.realBase.toNat ≤ pool.totalBaseSell.toNat
  sold_lt : pool.sold share x.toNat < 2 ^ 64

/-- What can be quoted for an input can be quoted for a smaller one that
delivers something. -/
theorem LaunchLabPool.Accepts.mono {y : UInt64} (h : pool.Accepts share x) (hyx : y ≤ x)
    (hnet : 0 < pool.quoteTransferFee.net y.toNat) : pool.Accepts share y := by
  have hle : y.toNat ≤ x.toNat := UInt64.le_iff_toNat_le.mp hyx
  have hcurveIn := h.quotes.curveIn_mono hle
  have hproduct := h.inRange.product_le
  have hdenominator := h.inRange.denominator_le
  refine ⟨h.quotes, ?_, ⟨?_, ?_, by omega⟩, h.base_le, ?_⟩
  · rw [U64.pos_iff]
    exact Nat.lt_of_lt_of_le hnet (TokenTransferFee.net_le _ _)
  · rw [← TokenTransferFee.sub_calculate] at hnet
    omega
  · exact (Nat.mul_le_mul_right _ hcurveIn).trans hproduct
  · exact Nat.lt_of_le_of_lt (h.quotes.sold_mono hle) h.sold_lt

/-- A quote pays out what the clamp leaves, net of the base transfer fee. -/
theorem launchlabBuyQuote_eq {c : LaunchLabCurve} {a : UInt64} {gross : ℕ}
    (hcurve : launchlabCurve pool x share = .ok c)
    (hclamp : launchlabClamp pool x c = .ok (a, gross)) (hgross : gross < 2 ^ 64) :
    launchlabBuyQuote pool x share
      = .ok ⟨a, UInt64.ofNat (pool.baseTransferFee.net gross)⟩ := by
  have htry : U64.tryOf gross = some (UInt64.ofNat gross) :=
    U64.tryOf_eq_some.mpr (U64.toNat_ofNat hgross)
  have hnet : U64.satSub (UInt64.ofNat gross)
      (pool.baseTransferFee.calculate (UInt64.ofNat gross))
        = UInt64.ofNat (pool.baseTransferFee.net gross) := by
    rw [← UInt64.toNat_inj, TokenTransferFee.satSub_calculate, U64.toNat_ofNat hgross,
      U64.toNat_ofNat (Nat.lt_of_le_of_lt (TokenTransferFee.net_le _ _) hgross)]
  rw [launchlabBuyQuote, hcurve, ok_bind, hclamp, ok_bind]
  show (okOr (U64.tryOf gross) _ >>= _) = _
  rw [htry, okOr_some, ok_bind, hnet]
  rfl

/-- **Below the clamp**, the whole input buys what the curve gives. -/
theorem launchlabBuyQuote_unclamped (h : pool.Accepts share x)
    (hnot : ¬ pool.Clamped share x.toNat) :
    launchlabBuyQuote pool x share = .ok
      ⟨x, UInt64.ofNat (pool.baseTransferFee.net (pool.curveOut share x.toNat))⟩ := by
  have hcurve := launchlabCurve_eq_ok.mpr ⟨h.quotes, h.ne_zero, h.inRange, rfl⟩
  have hsold := h.sold_lt
  unfold LaunchLabPool.sold at hsold
  by_cases hsell : pool.totalBaseSell.toNat = 0
  · rw [if_pos hsell] at hsold
    exact launchlabBuyQuote_eq hcurve (if_pos hsell) hsold
  · have hle : pool.curveOut share x.toNat ≤ pool.remaining :=
      Nat.not_lt.mp fun hlt => hnot ⟨hsell, hlt⟩
    have hremaining : U128.checkedSub pool.totalBaseSell.toNat pool.realBase.toNat
        = some pool.remaining := U128.checkedSub_eq_some.mpr ⟨h.base_le hsell, rfl⟩
    rw [if_neg hsell, Nat.min_eq_left hle] at hsold
    refine launchlabBuyQuote_eq hcurve ?_ hsold
    rw [launchlabClamp, if_neg hsell, hremaining, okOr_some, ok_bind]
    exact if_pos hle

/-- **Above the clamp**, the least input that buys what remains buys it. -/
theorem launchlabBuyQuote_clamped (h : pool.Accepts share x) (hrem : 0 < pool.remaining)
    (hclamped : pool.Clamped share x.toNat) :
    ∃ a : UInt64, launchlabBuyQuote pool x share
        = .ok ⟨a, UInt64.ofNat (pool.baseTransferFee.net pool.remaining)⟩
      ∧ a ≤ x ∧ ∀ n, a.toNat ≤ n ↔ pool.remaining ≤ pool.curveOut share n := by
  have hcurve := launchlabCurve_eq_ok.mpr ⟨h.quotes, h.ne_zero, h.inRange, rfl⟩
  obtain ⟨a, hgraduation, hle, hleast⟩ := graduation_eq h.quotes h.inRange hrem hclamped.2
  have hrem64 := h.sold_lt
  rw [LaunchLabPool.sold, if_neg hclamped.1, Nat.min_eq_right hclamped.2.le] at hrem64
  refine ⟨a, launchlabBuyQuote_eq hcurve ?_ hrem64, hle, hleast⟩
  have hremaining : U128.checkedSub pool.totalBaseSell.toNat pool.realBase.toNat
      = some pool.remaining := U128.checkedSub_eq_some.mpr ⟨h.base_le hclamped.1, rfl⟩
  have hnot : ¬ (pool.curve share x.toNat).quotedOutput ≤ pool.remaining :=
    Nat.not_le.mpr hclamped.2
  rw [launchlabClamp, if_neg hclamped.1, hremaining, okOr_some, ok_bind, if_neg hnot]
  exact hgraduation

/-- What a quote's clamp returns. -/
theorem launchlabClamp_bounds {c : LaunchLabCurve} {a : UInt64} {gross : ℕ}
    (h : launchlabClamp pool x c = .ok (a, gross)) :
    a ≤ x ∧ (pool.totalBaseSell.toNat ≠ 0 → pool.realBase.toNat ≤ pool.totalBaseSell.toNat
      ∧ gross = min c.quotedOutput pool.remaining)
      ∧ (pool.totalBaseSell.toNat = 0 → gross = c.quotedOutput) := by
  unfold launchlabClamp at h
  split at h
  · rename_i hzero
    cases h
    exact ⟨UInt64.le_refl _, fun hne => absurd hzero hne, fun _ => rfl⟩
  · rename_i hne
    simp only [bind_eq_ok, okOr_eq_ok, U128.checkedSub_eq_some] at h
    obtain ⟨remaining, ⟨hle, rfl⟩, h⟩ := h
    split at h
    · rename_i hsmall
      cases h
      exact ⟨UInt64.le_refl _, fun _ => ⟨hle, (Nat.min_eq_left hsmall).symm⟩,
        fun hzero => absurd hzero hne⟩
    · rename_i hlarge
      unfold launchlabGraduation at h
      simp only [bind_eq_ok, pure_eq_ok, Prod.mk.injEq] at h
      obtain ⟨_, _, _, _, _, _, _, _, actual, _, rfl, rfl⟩ := h
      refine ⟨?_, fun _ => ⟨hle, (Nat.min_eq_right (Nat.not_le.mp hlarge).le).symm⟩,
        fun hzero => absurd hzero hne⟩
      show (if actual ≤ x then actual else x) ≤ x
      split
      · assumption
      · exact UInt64.le_refl _

/-- **What a quote that is returned pays**, on either side of the clamp. -/
theorem launchlabBuyQuote_ok {q : LaunchLabBuyQuote}
    (h : launchlabBuyQuote pool x share = .ok q) :
    pool.Accepts share x ∧ q.amountIn ≤ x
      ∧ q.amountOut.toNat = pool.baseTransferFee.net (pool.sold share x.toNat) := by
  unfold launchlabBuyQuote at h
  simp only [bind_eq_ok, okOr_eq_ok, U64.tryOf_eq_some, pure_eq_ok, Prod.exists] at h
  obtain ⟨c, hcurve, a, gross, hclamp, out, rfl, rfl⟩ := h
  obtain ⟨hq, hx, hin, rfl⟩ := launchlabCurve_eq_ok.mp hcurve
  obtain ⟨hle, hsell, hnosell⟩ := launchlabClamp_bounds hclamp
  have hsold : out.toNat = pool.sold share x.toNat := by
    unfold LaunchLabPool.sold
    split
    · rename_i hzero
      exact hnosell hzero
    · rename_i hne
      exact (hsell hne).2
  refine ⟨⟨hq, hx, hin, fun hne => (hsell hne).1, ?_⟩, hle, ?_⟩
  · rw [← hsold]
    exact out.toNat_lt
  · show (U64.satSub out _).toNat = _
    rw [TokenTransferFee.satSub_calculate, hsold]

/-- **A clamped quote quotes itself again.** -/
theorem launchlabBuyQuote_idem (hrem : 0 < pool.remaining)
    (hclamped : pool.Clamped share x.toNat) {q : LaunchLabBuyQuote}
    (h : launchlabBuyQuote pool x share = .ok q) :
    launchlabBuyQuote pool q.amountIn share = .ok q
      ∧ ∀ n, q.amountIn.toNat ≤ n ↔ pool.remaining ≤ pool.curveOut share n := by
  obtain ⟨hacc, -, -⟩ := launchlabBuyQuote_ok h
  obtain ⟨a, hquote, hle, hleast⟩ := launchlabBuyQuote_clamped hacc hrem hclamped
  cases h.symm.trans hquote
  refine ⟨?_, hleast⟩
  have hreach : pool.remaining ≤ pool.curveOut share a.toNat :=
    (hleast a.toNat).mp (Nat.le_refl _)
  -- Nothing delivered buys nothing.
  have hnet : 0 < pool.quoteTransferFee.net a.toNat := by
    rw [Nat.pos_iff_ne_zero]
    intro hzero
    rw [LaunchLabPool.curveOut, LaunchLabPool.curveIn, hzero, netCeil, Nat.zero_sub, swapOut,
      Nat.zero_mul, Nat.zero_div] at hreach
    omega
  have hacc' : pool.Accepts share a := hacc.mono hle hnet
  by_cases hagain : pool.Clamped share a.toNat
  · obtain ⟨a', hquote', -, hleast'⟩ := launchlabBuyQuote_clamped hacc' hrem hagain
    have heq : a' = a := by
      rw [← UInt64.toNat_inj]
      refine Nat.le_antisymm ?_ ?_
      · rw [hleast', ← hleast]
      · rw [hleast, ← hleast']
    rw [hquote', heq]
  · have heq : pool.curveOut share a.toNat = pool.remaining :=
      Nat.le_antisymm (Nat.not_lt.mp fun hlt => hagain ⟨hclamped.1, hlt⟩) hreach
    rw [launchlabBuyQuote_unclamped hacc' hagain, heq]

/-- **A curve with nothing left takes nothing**: only then is a buy quoted
without an input. -/
theorem launchlabBuyQuote_amountIn_eq_zero {q : LaunchLabBuyQuote}
    (h : launchlabBuyQuote pool x share = .ok q) :
    q.amountIn = 0 ↔ pool.Clamped share x.toNat ∧ pool.remaining = 0 := by
  obtain ⟨hacc, -, -⟩ := launchlabBuyQuote_ok h
  constructor
  · intro hzero
    by_cases hclamped : pool.Clamped share x.toNat
    · refine ⟨hclamped, Nat.eq_zero_of_not_pos fun hrem => ?_⟩
      obtain ⟨a, hquote, -, hleast⟩ := launchlabBuyQuote_clamped hacc hrem hclamped
      cases h.symm.trans hquote
      -- The curve sells nothing for nothing.
      have hout : pool.curveOut share 0 = 0 := by
        rw [LaunchLabPool.curveOut, LaunchLabPool.curveIn, TokenTransferFee.net_zero, netCeil,
          Nat.zero_sub, swapOut, Nat.zero_mul, Nat.zero_div]
      have hle : a.toNat ≤ 0 := by
        rw [show a = 0 from hzero]
        exact Nat.le_refl _
      have hreach := (hleast 0).mp hle
      omega
    · cases h.symm.trans (launchlabBuyQuote_unclamped hacc hclamped)
      exact absurd hzero hacc.ne_zero
  · rintro ⟨hclamped, hrem⟩
    unfold launchlabBuyQuote at h
    simp only [bind_eq_ok, pure_eq_ok, Prod.exists] at h
    obtain ⟨c, hcurve, a, gross, hclamp, -, -, rfl⟩ := h
    obtain ⟨-, -, -, rfl⟩ := launchlabCurve_eq_ok.mp hcurve
    have hremaining : U128.checkedSub pool.totalBaseSell.toNat pool.realBase.toNat
        = some pool.remaining := U128.checkedSub_eq_some.mpr ⟨hacc.base_le hclamped.1, rfl⟩
    have hnot : ¬ (pool.curve share x.toNat).quotedOutput ≤ pool.remaining :=
      Nat.not_le.mpr hclamped.2
    rw [launchlabClamp, if_neg hclamped.1, hremaining, okOr_some, ok_bind, if_neg hnot,
      hrem] at hclamp
    unfold launchlabGraduation preFeeAmount at hclamp
    simp only [bind_eq_ok, okOr_eq_ok, pure_eq_ok, Prod.mk.injEq, U64.tryOf_eq_some,
      Option.map_eq_some_iff, U128.checkedMul_eq_some] at hclamp
    obtain ⟨_, -, curveIn, ⟨_, ⟨-, rfl⟩, rfl⟩, _, ⟨_, -, rfl⟩, vault, hvault, actual, hactual,
      rfl, -⟩ := hclamp
    have hzero : vault = 0 := by
      rw [← UInt64.toNat_inj, hvault, Nat.mul_zero]
      simp [U128.satMul]
    rw [hzero] at hactual
    have hsum : (0 : UInt64) = actual := Option.some.inj
      ((show U64.checkedAdd 0 (pool.quoteTransferFee.calculateInverse 0) = some 0 by
        simp [TokenTransferFee.calculateInverse, U64.checkedAdd]).symm.trans hactual)
    show (if actual ≤ x then actual else x) = 0
    rw [← hsum, if_pos UInt64.zero_le]

/-- The least input does not depend on what was asked. -/
theorem launchlabBuyQuote_least_unique (hrem : 0 < pool.remaining) {y : UInt64}
    (hx : pool.Clamped share x.toNat) (hy : pool.Clamped share y.toNat)
    {q q' : LaunchLabBuyQuote} (h : launchlabBuyQuote pool x share = .ok q)
    (h' : launchlabBuyQuote pool y share = .ok q') : q' = q := by
  obtain ⟨a, hquote, -, hleast⟩ :=
    launchlabBuyQuote_clamped (launchlabBuyQuote_ok h).1 hrem hx
  obtain ⟨a', hquote', -, hleast'⟩ :=
    launchlabBuyQuote_clamped (launchlabBuyQuote_ok h').1 hrem hy
  have heq : a' = a := by
    rw [← UInt64.toNat_inj]
    refine Nat.le_antisymm ?_ ?_
    · rw [hleast', ← hleast]
    · rw [hleast, ← hleast']
  cases h.symm.trans hquote
  cases h'.symm.trans hquote'
  rw [heq]

end

/-- **The graduation clamp is tight and idempotent**, for every snapshot. A
quote never asks for more than was offered or pays more than what remains.
Past the clamp it asks for the least input whose output on the curve covers
what remains, whatever larger input was offered, and quotes itself again.
What it pays is monotone in what is offered. -/
theorem launchlabBuyQuote_clamp_tight (pool : LaunchLabPool) (share : UInt64) :
    (∀ x q, launchlabBuyQuote pool x share = .ok q →
      q.amountIn ≤ x ∧ (0 < pool.totalBaseSell.toNat → q.amountOut.toNat ≤ pool.remaining))
    ∧ (∀ x q c, launchlabBuyQuote pool x share = .ok q → launchlabCurve pool x share = .ok c →
      0 < pool.remaining → pool.remaining < c.quotedOutput →
      (∃ c', launchlabCurve pool q.amountIn share = .ok c' ∧ pool.remaining ≤ c'.quotedOutput)
      ∧ (∀ x' c', x' < q.amountIn → launchlabCurve pool x' share = .ok c' →
        c'.quotedOutput < pool.remaining)
      ∧ (∀ x' q', x ≤ x' → launchlabBuyQuote pool x' share = .ok q' → q' = q)
      ∧ launchlabBuyQuote pool q.amountIn share = .ok q)
    ∧ ∀ x x' q q', x ≤ x' → launchlabBuyQuote pool x share = .ok q →
      launchlabBuyQuote pool x' share = .ok q' → q.amountOut ≤ q'.amountOut := by
  refine ⟨fun x q h => ?_, fun x q c h hcurve hrem hlt => ?_, fun x x' q q' hle h h' => ?_⟩
  · obtain ⟨-, hle, hout⟩ := launchlabBuyQuote_ok h
    refine ⟨hle, fun hpos => ?_⟩
    rw [hout, LaunchLabPool.sold, if_neg (Nat.ne_of_gt hpos)]
    exact (TokenTransferFee.net_le _ _).trans (Nat.min_le_right _ _)
  · obtain ⟨hq, -, -, rfl⟩ := launchlabCurve_eq_ok.mp hcurve
    have hclamped : pool.Clamped share x.toNat :=
      ⟨fun hzero => by rw [LaunchLabPool.remaining, hzero, Nat.zero_sub] at hrem; omega, hlt⟩
    obtain ⟨hidem, hleast⟩ := launchlabBuyQuote_idem hrem hclamped h
    obtain ⟨hacc, -, -⟩ := launchlabBuyQuote_ok hidem
    refine ⟨⟨_, launchlabCurve_eq_ok.mpr ⟨hacc.quotes, hacc.ne_zero, hacc.inRange, rfl⟩,
      (hleast _).mp (Nat.le_refl _)⟩, fun x' c' hx' hcurve' => ?_, fun x' q' hle h' => ?_, hidem⟩
    · obtain ⟨-, -, -, rfl⟩ := launchlabCurve_eq_ok.mp hcurve'
      show pool.curveOut share x'.toNat < _
      rw [← Nat.not_le, ← hleast]
      exact Nat.not_le.mpr (UInt64.lt_iff_toNat_lt.mp hx')
    · have hmono := hq.curveOut_mono (UInt64.le_iff_toNat_le.mp hle)
      exact launchlabBuyQuote_least_unique hrem hclamped
        ⟨hclamped.1, Nat.lt_of_lt_of_le hlt hmono⟩ h h'
  · obtain ⟨hacc, -, hout⟩ := launchlabBuyQuote_ok h
    obtain ⟨-, -, hout'⟩ := launchlabBuyQuote_ok h'
    rw [UInt64.le_iff_toNat_le, hout, hout']
    exact TokenTransferFee.net_mono _ (hacc.quotes.sold_mono (UInt64.le_iff_toNat_le.mp hle))

end Sdk
