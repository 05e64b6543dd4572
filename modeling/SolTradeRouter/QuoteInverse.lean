import SolTradeRouter.Quote
import SolTradeRouter.Rounding

/-!
# Exact inverses of quotes

A quote is a chain of roundings around a constant-product curve: the input's
transfer fee, the pool's fee on the input, the curve, the pool's fee on the
output, the output's transfer fee. Each link is monotone, and so is the
chain, on the inputs the pool's vault has room for, which are an initial
segment of the positive amounts.

Raydium CPMM pools are inverted by a search and Raydium AMM V4 pools by a
formula. Both return the least input that is quoted the wanted output
(`LeastInput`), or an error when there is none (`Unreachable`).
-/

namespace Sdk

open Outcome Rounding

/-- **The least input** that is quoted at least the target. Every smaller
positive input is quoted too, and less. -/
structure LeastInput (quote : UInt64 → Result UInt64) (target x : UInt64) : Prop where
  reaches : ∃ y, quote x = .ok y ∧ target ≤ y
  below : ∀ x', x' ≠ 0 → x' < x → ∃ y, quote x' = .ok y ∧ y < target

/-- No input is quoted the target. -/
def Unreachable (quote : UInt64 → Result UInt64) (target : UInt64) : Prop :=
  ∀ x y, quote x = .ok y → y < target

/-- **A monotone quote on an initial segment**: what an input is quoted,
every smaller positive input is quoted at most. -/
def MonotoneQuote (quote : UInt64 → Result UInt64) : Prop :=
  ∀ x x' y', x ≠ 0 → x ≤ x' → quote x' = .ok y' → ∃ y, quote x = .ok y ∧ y ≤ y'

/-- There is one least input. -/
theorem LeastInput.unique {quote : UInt64 → Result UInt64} {target x x' : UInt64}
    (hx : LeastInput quote target x) (hx' : LeastInput quote target x') (hpos : x ≠ 0)
    (hpos' : x' ≠ 0) : x = x' := by
  have key : ∀ {a b : UInt64}, LeastInput quote target a → LeastInput quote target b →
      a ≠ 0 → ¬ a < b := by
    intro a b ha hb hne hlt
    obtain ⟨y, hy, hle⟩ := ha.reaches
    obtain ⟨y', hy', hlt'⟩ := hb.below a hne hlt
    rw [hy] at hy'
    cases hy'
    exact absurd hlt' (UInt64.not_lt.mpr hle)
  exact UInt64.le_antisymm (UInt64.not_lt.mp (key hx' hx hpos'))
    (UInt64.not_lt.mp (key hx hx' hpos))

/-! ## Transfer fees -/

namespace TokenTransferFee

/-- What a transfer of an amount delivers. -/
def net (fee : TokenTransferFee) (x : ℕ) : ℕ :=
  netCapped fee.basisPoints.toNat 10000 fee.maximumFee.toNat x

/-- The fee, on natural numbers: rounded up, and capped. -/
theorem calculate_toNat (fee : TokenTransferFee) (a : UInt64) :
    (fee.calculate a).toNat
      = min ((a.toNat * fee.basisPoints.toNat) ⌈/⌉ 10000) fee.maximumFee.toNat := by
  have hzero : (0 : ℕ) ⌈/⌉ 10000 = 0 := by decide
  have hmax : fee.maximumFee.toNat < 2 ^ 64 := fee.maximumFee.toNat_lt
  have hbp : fee.basisPoints.toNat < 2 ^ 64 := by
    have hlt : fee.basisPoints.toNat < 2 ^ 16 := fee.basisPoints.toNat_lt
    omega
  unfold calculate
  split
  · -- A factor of the fee or its cap is zero, and so is the fee.
    rename_i h
    rcases h with h | h | h
    · simp [h]
    · simp [h]
    · simp [h]
  · rw [U128.satMul_eq a.toNat_lt hbp]
    exact U64.toNat_ofNat (Nat.lt_of_le_of_lt (Nat.min_le_right _ _) hmax)

/-- What is left after it. -/
theorem sub_calculate (fee : TokenTransferFee) (a : UInt64) :
    a.toNat - (fee.calculate a).toNat = fee.net a.toNat := by
  rw [calculate_toNat]
  rfl

/-- A saturating difference leaves as much. -/
theorem satSub_calculate (fee : TokenTransferFee) (a : UInt64) :
    (U64.satSub a (fee.calculate a)).toNat = fee.net a.toNat := by
  rw [U64.satSub_toNat, sub_calculate]

/-- A rate within the whole, on natural numbers. -/
theorem bp_le {fee : TokenTransferFee} (h : fee.basisPoints ≤ 10000) :
    fee.basisPoints.toNat ≤ 10000 := UInt16.le_iff_toNat_le.mp h

/-- A fee of at most the whole never exceeds the amount. -/
theorem checkedSub_calculate {fee : TokenTransferFee} (h : fee.basisPoints ≤ 10000)
    {a c : UInt64} :
    U64.checkedSub a (fee.calculate a) = some c ↔ c.toNat = fee.net a.toNat := by
  rw [U64.checkedSub_eq_some, sub_calculate, and_iff_right_iff_imp]
  intro _
  rw [calculate_toNat]
  exact (Nat.min_le_left _ _).trans (ceilFee_le (by decide) (bp_le h))

/-- What must be sent for an amount to be delivered. -/
def gross (fee : TokenTransferFee) (v : UInt64) : ℕ := v.toNat + (fee.calculateInverse v).toNat

/-- **The inverse fee is exact**: it gives the least amount that delivers. -/
theorem gross_le_iff {fee : TokenTransferFee} {v : UInt64} (hv : 0 < v.toNat) (x : ℕ) :
    fee.gross v ≤ x ↔ v.toNat ≤ fee.net x := by
  unfold gross calculateInverse net
  split
  · -- Without a fee, the amount is what is delivered.
    rename_i hnone
    rcases hnone with hnone | hnone | hnone
    · rw [hnone]
      simp [netCapped]
    · rw [hnone] at hv
      exact absurd hv (by decide)
    · rw [hnone]
      simp [netCapped]
  · split
    · -- The whole amount is taken, up to the cap.
      rename_i hall
      have hle : 10000 ≤ fee.basisPoints.toNat := UInt16.le_iff_toNat_le.mp hall
      rw [netCapped_all (by decide) hle]
      omega
    · rename_i hpart
      have hlt : fee.basisPoints.toNat < 10000 := by
        rw [ge_iff_le, UInt16.le_iff_toNat_le] at hpart
        exact Nat.not_le.mp hpart
      have hbp64 : fee.basisPoints.toNat < 2 ^ 64 := by omega
      have hmax : fee.maximumFee.toNat < 2 ^ 64 := fee.maximumFee.toNat_lt
      dsimp only
      rw [U128.satMul_eq v.toNat_lt hbp64,
        U64.toNat_ofNat (Nat.lt_of_le_of_lt (Nat.min_le_right _ _) hmax),
        ← netCapped_gc hlt, grossCapped, grossCeil_eq_add hlt, Nat.add_min_add_left]

/-- More is left of more. -/
theorem net_mono (fee : TokenTransferFee) : Monotone fee.net := netCapped_mono (by decide)

/-- And no more than there was. -/
theorem net_le (fee : TokenTransferFee) (x : ℕ) : fee.net x ≤ x := netCapped_le

/-- Nothing is left of nothing. -/
theorem net_zero (fee : TokenTransferFee) : fee.net 0 = 0 := Nat.zero_sub _

/-- What delivers too little delivers too little in machine words, unless its
fee is more than the whole. -/
theorem lt_or_sub_lt {fee : TokenTransferFee} {x v : UInt64} (h : fee.net x.toNat < v.toNat) :
    x < fee.calculate x ∨ x - fee.calculate x < v := by
  by_cases hover : x < fee.calculate x
  · exact .inl hover
  · right
    rw [UInt64.lt_iff_toNat_lt, UInt64.toNat_sub_of_le _ _ (UInt64.not_lt.mp hover),
      sub_calculate]
    exact h

/-- **The inverse fee is exact**: an amount with its inverse fee is the least
that delivers the amount. Its fee is not more than itself; of less, either the
fee is more than the whole, or less is delivered. -/
theorem calculateInverse_least (fee : TokenTransferFee) (v g : UInt64) (hv : 0 < v)
    (hg : U64.checkedAdd v (fee.calculateInverse v) = some g) :
    (∃ delivered, U64.checkedSub g (fee.calculate g) = some delivered ∧ v ≤ delivered)
      ∧ ∀ g' < g, g' < fee.calculate g' ∨ g' - fee.calculate g' < v := by
  have hpos : 0 < v.toNat := UInt64.lt_iff_toNat_lt.mp hv
  have hgross : fee.gross v = g.toNat := U64.checkedAdd_eq_some.mp hg
  constructor
  · have hnet : v.toNat ≤ fee.net g.toNat := (gross_le_iff hpos g.toNat).mp hgross.le
    have hsub : g.toNat - (fee.calculate g).toNat = fee.net g.toNat := sub_calculate fee g
    have hle : fee.calculate g ≤ g := by
      -- A fee above the amount would deliver nothing.
      rw [UInt64.le_iff_toNat_le]
      omega
    refine ⟨g - fee.calculate g, U64.checkedSub_eq_some.mpr
      ⟨UInt64.le_iff_toNat_le.mp hle, UInt64.toNat_sub_of_le _ _ hle⟩, ?_⟩
    rw [UInt64.le_iff_toNat_le, UInt64.toNat_sub_of_le _ _ hle, hsub]
    exact hnet
  · intro g' hlt
    have hless : g'.toNat < fee.gross v := hgross ▸ UInt64.lt_iff_toNat_lt.mp hlt
    have hnet : fee.net g'.toNat < v.toNat :=
      Nat.not_le.mp fun hle => Nat.not_le.mpr hless ((gross_le_iff hpos g'.toNat).mpr hle)
    exact lt_or_sub_lt hnet

/-- A fee of one per cent, capped at five: 1005 is the least that delivers
1000, and the cap is what is paid. -/
theorem calculateInverse_capped :
    (∃ delivered, U64.checkedSub 1005 (TokenTransferFee.calculate ⟨100, 5⟩ 1005)
        = some delivered ∧ 1000 ≤ delivered)
      ∧ ∀ g' < (1005 : UInt64), g' < TokenTransferFee.calculate ⟨100, 5⟩ g'
        ∨ g' - TokenTransferFee.calculate ⟨100, 5⟩ g' < 1000 :=
  calculateInverse_least ⟨100, 5⟩ 1000 1005 (by decide) (by decide)

end TokenTransferFee

/-! ## CPMM quotes -/

/-- What the trade fee leaves. -/
theorem satSub_tradeFee {a rate : UInt64} (h : rate.toNat ≤ feeDenom) :
    (U64.satSub a (cpmmTradeFee a rate)).toNat = netCeil rate.toNat feeDenom a.toNat := by
  have hfee : (cpmmTradeFee a rate).toNat = (a.toNat * rate.toNat) ⌈/⌉ feeDenom := by
    have hle : (a.toNat * rate.toNat) ⌈/⌉ feeDenom ≤ a.toNat := ceilFee_le (by decide) h
    have ha : a.toNat < 2 ^ 64 := a.toNat_lt
    rw [cpmmTradeFee, U128.satMul_eq a.toNat_lt rate.toNat_lt, ← Nat.ceilDiv_eq_add_pred_div]
    exact U64.toNat_ofNat (by omega)
  rw [U64.satSub_toNat, hfee, netCeil]

/-- The swap of a CPMM pool is that of its product. -/
theorem cpmmSwapped_toNat {input output c : UInt64} (hi : 0 < input.toNat)
    (ho : 0 < output.toNat) :
    (cpmmSwapped input output c).toNat = swapOut input.toNat output.toNat c.toNat := by
  have hlt : swapOut input.toNat output.toNat c.toNat < output.toNat := swapOut_lt hi ho
  have hmax : output.toNat < 2 ^ 64 := output.toNat_lt
  rw [cpmmSwapped, U128.satMul_eq output.toNat_lt c.toNat_lt,
    U128.satAdd_eq input.toNat_lt c.toNat_lt, Nat.mul_comm]
  exact U64.toNat_ofNat (by rw [swapOut] at hlt; omega)

namespace CpmmPool

/-- The reserve a swap pays into. -/
def inputReserve (pool : CpmmPool) (inputIsBase : Bool) : ℕ :=
  (pool.sides inputIsBase).1.toNat

/-- And the one it is paid from. -/
def outputReserve (pool : CpmmPool) (inputIsBase : Bool) : ℕ :=
  (pool.sides inputIsBase).2.1.toNat

/-- The transfer fee of the mint that is paid. -/
def inputFee (pool : CpmmPool) (inputIsBase : Bool) : TokenTransferFee :=
  (pool.sides inputIsBase).2.2.1

/-- And of the one that is received. -/
def outputFee (pool : CpmmPool) (inputIsBase : Bool) : TokenTransferFee :=
  (pool.sides inputIsBase).2.2.2

/-- The pool's fee on the input, with the creator's if it is taken there. -/
def inputRate (pool : CpmmPool) (onInput : Bool) : ℕ :=
  pool.tradeFeeRate.toNat + if onInput then pool.creatorRate.toNat else 0

/-- The creator's fee, if it is taken on the output. -/
def outputRate (pool : CpmmPool) (onInput : Bool) : ℕ :=
  if onInput then 0 else pool.creatorRate.toNat

/-- **What a swap brings**, as a chain of roundings. -/
def received (pool : CpmmPool) (inputIsBase onInput : Bool) (x : ℕ) : ℕ :=
  (pool.outputFee inputIsBase).net
    (netCeil (pool.outputRate onInput) feeDenom
      (swapOut (pool.inputReserve inputIsBase) (pool.outputReserve inputIsBase)
        (netCeil (pool.inputRate onInput) feeDenom ((pool.inputFee inputIsBase).net x))))

/-- **A pool that can be quoted** in a direction: its fees are known and
valid, and neither side is empty. -/
structure Quotes (pool : CpmmPool) (inputIsBase onInput : Bool) : Prop where
  known : pool.feeRatesKnown = true
  rate : pool.tradeFeeRate.toNat + pool.creatorRate.toNat < feeDenom
  inputFee : (pool.inputFee inputIsBase).basisPoints ≤ 10000
  outputFee : (pool.outputFee inputIsBase).basisPoints ≤ 10000
  input : 0 < pool.inputReserve inputIsBase
  output : 0 < pool.outputReserve inputIsBase
  side : creatorFeeOnInput pool inputIsBase = .ok onInput

/-- The vault has room for an input. -/
def Fits (pool : CpmmPool) (inputIsBase : Bool) (x : ℕ) : Prop :=
  pool.inputReserve inputIsBase + (pool.inputFee inputIsBase).net x < 2 ^ 64

/-- What fits stays fitting when it shrinks. -/
theorem fits_of_le {pool : CpmmPool} {dir : Bool} {x x' : ℕ} (hx : x ≤ x')
    (hfits : pool.Fits dir x') : pool.Fits dir x := by
  have hmono := (pool.inputFee dir).net_mono hx
  unfold Fits at *
  omega

namespace Quotes

variable {pool : CpmmPool} {dir onInput : Bool}

/-- The fees on the input leave it something or nothing, never less. -/
theorem inputRate_le (h : pool.Quotes dir onInput) : pool.inputRate onInput ≤ feeDenom := by
  have hrate := h.rate
  rw [inputRate]
  split <;> omega

/-- And so do those on the output. -/
theorem outputRate_le (h : pool.Quotes dir onInput) : pool.outputRate onInput ≤ feeDenom := by
  have hrate := h.rate
  rw [outputRate]
  split <;> omega

/-- **What a swap brings is monotone in its input**: every rounding is. -/
theorem received_mono (h : pool.Quotes dir onInput) : Monotone (pool.received dir onInput) := by
  intro x x' hx
  refine TokenTransferFee.net_mono _ ?_
  refine netCeil_mono (by decide) h.outputRate_le ?_
  refine swapOut_mono h.input h.output ?_
  refine netCeil_mono (by decide) h.inputRate_le ?_
  exact TokenTransferFee.net_mono _ hx

/-- The curve alone bounds what a swap brings, and the input alone what
reaches the curve. -/
theorem swapIn_le (h : pool.Quotes dir onInput) {v x : ℕ} (hv : v < pool.outputReserve dir)
    (hle : v ≤ pool.received dir onInput x) :
    swapIn (pool.inputReserve dir) (pool.outputReserve dir) v ≤ x := by
  have hswap : v ≤ swapOut (pool.inputReserve dir) (pool.outputReserve dir)
      (netCeil (pool.inputRate onInput) feeDenom ((pool.inputFee dir).net x)) :=
    hle.trans ((TokenTransferFee.net_le _ _).trans netCeil_le)
  rw [le_swapOut_iff h.input hv] at hswap
  exact hswap.trans (netCeil_le.trans (TokenTransferFee.net_le _ _))

/-- A swap never takes the whole reserve. -/
theorem received_lt (h : pool.Quotes dir onInput) (x : ℕ) :
    pool.received dir onInput x < pool.outputReserve dir :=
  Nat.lt_of_le_of_lt ((TokenTransferFee.net_le _ _).trans netCeil_le)
    (swapOut_lt h.input h.output)

end Quotes

end CpmmPool

/-- The two sides' transfer fees are the base and quote mints' in one order
or the other. -/
theorem CpmmPool.fees_valid (pool : CpmmPool) (dir : Bool) :
    ((pool.inputFee dir).basisPoints ≤ 10000 ∧ (pool.outputFee dir).basisPoints ≤ 10000)
      ↔ ¬ (pool.baseTransferFee.basisPoints > 10000
        ∨ pool.quoteTransferFee.basisPoints > 10000) := by
  rw [not_or, gt_iff_lt, gt_iff_lt, UInt16.not_lt, UInt16.not_lt]
  cases dir
  · exact and_comm
  · exact Iff.rfl

/-- What leaves the curve, after the pool's fees. -/
theorem CpmmPool.Quotes.outputSwapped_toNat {pool : CpmmPool} {dir onInput : Bool}
    (h : pool.Quotes dir onInput) (actualIn : UInt64) :
    (cpmmOutputSwapped pool onInput (pool.sides dir).1 (pool.sides dir).2.1 actualIn).toNat
      = netCeil (pool.outputRate onInput) feeDenom
          (swapOut (pool.inputReserve dir) (pool.outputReserve dir)
            (netCeil (pool.inputRate onInput) feeDenom actualIn.toNat)) := by
  have hrate := h.rate
  have hdenom : feeDenom = 1000000 := rfl
  have hsum : (U64.satAdd pool.tradeFeeRate pool.creatorRate).toNat
      = pool.tradeFeeRate.toNat + pool.creatorRate.toNat := by
    rw [U64.satAdd_toNat]
    refine Nat.min_eq_left ?_
    show _ ≤ 2 ^ 64 - 1
    omega
  cases onInput
  · show (U64.satSub _ (cpmmTradeFee _ pool.creatorRate)).toNat = _
    rw [satSub_tradeFee (by omega), cpmmSwapped_toNat h.input h.output,
      satSub_tradeFee (by omega)]
    rfl
  · show (cpmmSwapped _ _ (U64.satSub _ (cpmmTradeFee _ (U64.satAdd _ _)))).toNat = _
    rw [cpmmSwapped_toNat h.input h.output, satSub_tradeFee (by omega), hsum]
    have hzero : ∀ v, netCeil 0 feeDenom v = v := fun v => by
      rw [netCeil_eq (by decide) (by decide)]
      exact Nat.mul_div_cancel v (by decide)
    exact (hzero _).symm

/-- **When a CPMM swap is quoted, and what.** -/
theorem cpmmOut_eq_ok {pool : CpmmPool} {dir : Bool} {x y : UInt64} :
    cpmmOut pool x dir = .ok y ↔ ∃ onInput, pool.Quotes dir onInput ∧ x ≠ 0
      ∧ pool.Fits dir x.toNat ∧ y.toNat = pool.received dir onInput x.toNat := by
  unfold cpmmOut
  simp only [bind_eq_ok, failIf_eq_ok, okOr_eq_ok, pure_eq_ok]
  have hvalue : ∀ {onInput actualIn}, pool.Quotes dir onInput →
      actualIn.toNat = (pool.inputFee dir).net x.toNat →
      (U64.satSub (cpmmOutputSwapped pool onInput (pool.sides dir).1 (pool.sides dir).2.1
          actualIn)
        ((pool.sides dir).2.2.2.calculate (cpmmOutputSwapped pool onInput (pool.sides dir).1
          (pool.sides dir).2.1 actualIn))).toNat = pool.received dir onInput x.toNat := by
    intro onInput actualIn hq hactual
    rw [TokenTransferFee.satSub_calculate, hq.outputSwapped_toNat, hactual]
    rfl
  constructor
  · rintro ⟨_, hknown, _, hfee, _, hx, _, hreserves, actualIn, hactual, sum, hroom, onInput,
      hside, hy⟩
    rw [not_or] at hfee hreserves
    obtain ⟨hfin, hfout⟩ := (pool.fees_valid dir).mpr hfee.2
    have hq : pool.Quotes dir onInput :=
      ⟨by simpa using hknown, Nat.not_le.mp hfee.1, hfin, hfout, U64.pos_iff.mp hreserves.1,
        U64.pos_iff.mp hreserves.2, hside⟩
    have hactual' := (TokenTransferFee.checkedSub_calculate hfin).mp hactual
    refine ⟨onInput, hq, hx, ?_, ?_⟩
    · have hsum := U64.checkedAdd_eq_some.mp hroom
      have hlt : sum.toNat < 2 ^ 64 := sum.toNat_lt
      show (pool.sides dir).1.toNat + (pool.inputFee dir).net x.toNat < 2 ^ 64
      omega
    · rw [← hy]
      exact hvalue hq hactual'
  · rintro ⟨onInput, hq, hx, hfits, hy⟩
    have hnet : (pool.inputFee dir).net x.toNat < 2 ^ 64 :=
      Nat.lt_of_le_of_lt (TokenTransferFee.net_le _ _) x.toNat_lt
    have hactual : (UInt64.ofNat ((pool.inputFee dir).net x.toNat)).toNat
        = (pool.inputFee dir).net x.toNat := U64.toNat_ofNat hnet
    refine ⟨(), by simp [hq.known], (), ?_, (), hx, (), ?_, _,
      (TokenTransferFee.checkedSub_calculate hq.inputFee).mpr hactual,
      UInt64.ofNat (pool.inputReserve dir + (pool.inputFee dir).net x.toNat), ?_, onInput,
      hq.side, ?_⟩
    · rw [not_or]
      exact ⟨Nat.not_le.mpr hq.rate, (pool.fees_valid dir).mp ⟨hq.inputFee, hq.outputFee⟩⟩
    · rw [not_or]
      exact ⟨U64.pos_iff.mpr hq.input, U64.pos_iff.mpr hq.output⟩
    · rw [U64.checkedAdd_eq_some, hactual, U64.toNat_ofNat hfits]
      rfl
    · exact UInt64.toNat_inj.mp ((hvalue hq hactual).trans hy.symm)

/-- A quote stops with an error of its own. -/
theorem calm_cpmmOut {pool : CpmmPool} {dir : Bool} {x : UInt64} :
    Calm (cpmmOut pool x dir) := by
  unfold cpmmOut
  refine calm_bind calm_failIf fun _ _ => ?_
  refine calm_bind calm_failIf fun _ _ => ?_
  refine calm_bind calm_failIf fun _ _ => ?_
  refine calm_bind calm_failIf fun _ _ => ?_
  refine calm_bind calm_okOr fun _ _ => ?_
  refine calm_bind calm_okOr fun _ _ => ?_
  refine calm_bind ?_ fun _ _ => calm_ok
  unfold creatorFeeOnInput
  refine calm_ite calm_ok ?_
  refine calm_ite calm_ok ?_
  refine calm_ite calm_ok ?_
  exact calm_ite calm_ok calm_fail

/-- **A CPMM quote is monotone**, and what it accepts is an initial
segment. -/
theorem cpmmOut_monotone (pool : CpmmPool) (dir : Bool) :
    MonotoneQuote (cpmmOut pool · dir) := by
  intro x x' y' hx hxx' hquote
  obtain ⟨onInput, hq, -, hfits, hy'⟩ := cpmmOut_eq_ok.mp hquote
  have hle : x.toNat ≤ x'.toNat := UInt64.le_iff_toNat_le.mp hxx'
  have hmono : pool.received dir onInput x.toNat ≤ y'.toNat := by
    rw [hy']
    exact hq.received_mono hle
  have hy : (UInt64.ofNat (pool.received dir onInput x.toNat)).toNat
      = pool.received dir onInput x.toNat :=
    U64.toNat_ofNat (Nat.lt_of_le_of_lt hmono y'.toNat_lt)
  refine ⟨UInt64.ofNat (pool.received dir onInput x.toNat), ?_, ?_⟩
  · exact cpmmOut_eq_ok.mpr ⟨onInput, hq, hx, CpmmPool.fits_of_le hle hfits, hy⟩
  · rw [UInt64.le_iff_toNat_le, hy]
    exact hmono

/-! ## The search for an input -/

namespace CpmmPool.Quotes

variable {pool : CpmmPool} {dir onInput : Bool} {target : UInt64}

instance (pool : CpmmPool) (dir : Bool) : DecidablePred (pool.Fits dir) :=
  fun _ => inferInstanceAs (Decidable (_ < _))

/-- Below the vault's capacity, every positive input is quoted. -/
theorem quoted (h : pool.Quotes dir onInput) {n : ℕ} (hpos : 0 < n) (hn : n < 2 ^ 64)
    (hfits : pool.Fits dir n) :
    ∃ y, cpmmOut pool (UInt64.ofNat n) dir = .ok y ∧ y.toNat = pool.received dir onInput n := by
  have hnat : (UInt64.ofNat n).toNat = n := U64.toNat_ofNat hn
  have hmax : pool.outputReserve dir < 2 ^ 64 := (pool.sides dir).2.1.toNat_lt
  have hlt : pool.received dir onInput n < 2 ^ 64 := (h.received_lt n).trans hmax
  have hy := U64.toNat_ofNat hlt
  refine ⟨_, cpmmOut_eq_ok.mpr ⟨onInput, h, ?_, ?_, ?_⟩, hy⟩
  · rw [U64.pos_iff, hnat]
    exact hpos
  · rw [hnat]
    exact hfits
  · rw [hnat]
    exact hy

/-- Where the credit fits, the search asks whether the target is received. -/
theorem reaches_eq (h : pool.Quotes dir onInput) {n : ℕ} (hpos : 0 < n) (hn : n < 2 ^ 64)
    (hfits : pool.Fits dir n) :
    cpmmReaches pool target dir n
      = .ok (decide (target.toNat ≤ pool.received dir onInput n)) := by
  obtain ⟨y, hquote, hy⟩ := h.quoted hpos hn hfits
  rw [cpmmReaches, hquote, ← hy]
  simp [UInt64.le_iff_toNat_le, pure, Except.pure]

/-- And first, whether the credit fits. -/
theorem credits_eq (h : pool.Quotes dir onInput) {n : ℕ} (hn : n < 2 ^ 64) :
    cpmmCredits pool dir n = .ok (decide (pool.Fits dir n)) := by
  have hnat : (UInt64.ofNat n).toNat = n := U64.toNat_ofNat hn
  have hnet : (pool.inputFee dir).net n < 2 ^ 64 :=
    Nat.lt_of_le_of_lt (TokenTransferFee.net_le _ _) hn
  have hcredit : (UInt64.ofNat ((pool.inputFee dir).net n)).toNat = (pool.inputFee dir).net n :=
    U64.toNat_ofNat hnet
  have hsub : U64.checkedSub (UInt64.ofNat n)
      ((pool.inputFee dir).calculate (UInt64.ofNat n))
        = some (UInt64.ofNat ((pool.inputFee dir).net n)) := by
    rw [TokenTransferFee.checkedSub_calculate h.inputFee, hcredit, hnat]
  have hreserve : (if dir then pool.baseReserve else pool.quoteReserve).toNat
      = pool.inputReserve dir := by cases dir <;> rfl
  have hfee : (if dir then pool.baseTransferFee else pool.quoteTransferFee)
      = pool.inputFee dir := by cases dir <;> rfl
  have hmax : pool.inputReserve dir < 2 ^ 64 := (pool.sides dir).1.toNat_lt
  have hiff : (pool.inputFee dir).net n ≤ U64.max - pool.inputReserve dir
      ↔ pool.Fits dir n := by
    unfold Fits
    show _ ≤ 2 ^ 64 - 1 - _ ↔ _
    omega
  rw [cpmmCredits]
  simp only [hreserve, hfee, hsub, orPanic_some, ok_bind, hcredit, hiff]
  rfl

/-- The first loop finds the greatest input the vault has room for. -/
theorem maxInput (h : pool.Quotes dir onInput) {fuel : ℕ} (hfuel : 64 < fuel) :
    ∃ m, Search.greatest (cpmmCredits pool dir) fuel 0 U64.max = .ok m ∧ m < 2 ^ 64
      ∧ pool.Fits dir m ∧ ∀ n, n < 2 ^ 64 → pool.Fits dir n → n ≤ m := by
  have hzero : pool.Fits dir 0 := by
    unfold Fits
    rw [TokenTransferFee.net_zero]
    exact (pool.sides dir).1.toNat_lt
  obtain ⟨m, hm, -, hle, hfits, habove⟩ := Search.greatest_eq_ok (P := pool.Fits dir)
    (fun n _ hn => h.credits_eq (by unfold U64.max at hn; omega))
    (fun _ _ _ hmn _ => fits_of_le hmn) (Nat.zero_le _) hzero
    (by decide : U64.max - 0 < 2 ^ 64) hfuel
  refine ⟨m, hm, by unfold U64.max at hle; omega, hfits, fun n hn hfitsn => ?_⟩
  by_contra hlt
  exact habove n (Nat.not_le.mp hlt) (by unfold U64.max; omega) hfitsn

/-- The other two loops find the least input that reaches the target, below
one that does. -/
theorem leastInput (h : pool.Quotes dir onInput) {fuel m : ℕ} (hfuel : 64 < fuel)
    (ht : 0 < target.toNat) (hout : target.toNat < pool.outputReserve dir) (hm : m < 2 ^ 64)
    (hfits : pool.Fits dir m) (hreached : target.toNat ≤ pool.received dir onInput m)
    {lo hi : ℕ}
    (hlo : lo = max (swapIn (pool.inputReserve dir) (pool.outputReserve dir) target.toNat) 1)
    (hhi : hi = min (U64.sat (U64.sat (lo * 2) + 10000)) m) :
    ∃ hi' x, Search.widen (cpmmReaches pool target dir)
        (fun hi => min (max (U64.sat (hi * 2)) (U64.sat (hi + 1))) m) fuel hi = .ok hi'
      ∧ Search.least (cpmmReaches pool target dir) fuel lo hi' = .ok x
      ∧ 0 < x ∧ x ≤ m ∧ target.toNat ≤ pool.received dir onInput x
      ∧ ∀ n, n < x → pool.received dir onInput n < target.toNat := by
  have hmono := h.received_mono
  -- Reaching the target takes an input of at least the lower end.
  have hlow : ∀ n, target.toNat ≤ pool.received dir onInput n → lo ≤ n := by
    intro n hn
    have hswap := h.swapIn_le hout hn
    have hpos : n ≠ 0 := by
      rintro rfl
      have hzero : swapIn (pool.inputReserve dir) (pool.outputReserve dir) target.toNat = 0 :=
        Nat.le_zero.mp hswap
      have hcurve := (le_swapOut_iff (c := 0) h.input hout).mpr hzero.le
      rw [swapOut, Nat.zero_mul, Nat.zero_div] at hcurve
      omega
    omega
  have hreaches : ∀ n, lo ≤ n → n ≤ m → cpmmReaches pool target dir n
      = .ok (decide (target.toNat ≤ pool.received dir onInput n)) := by
    intro n hn hnm
    exact h.reaches_eq (by omega) (by omega) (fits_of_le hnm hfits)
  have hlom : lo ≤ m := hlow m hreached
  have hlohi : lo ≤ hi := by
    rw [hhi]
    refine le_min (U64.le_sat ?_ (by omega)) hlom
    exact (U64.le_sat (by omega) (by omega)).trans (Nat.le_add_right _ _)
  have hhim : hi ≤ m := by omega
  obtain ⟨hi', hwiden, hhi', hhim', hP⟩ := Search.widen_eq_ok
    (P := fun n => target.toNat ≤ pool.received dir onInput n)
    (fun hi => min (max (U64.sat (hi * 2)) (U64.sat (hi + 1))) m) (k := 64)
    (fun n hn => hreaches n (hlohi.trans hn))
    (fun n _ hnm => by
      have hdouble : min (2 * n) m ≤ U64.sat (n * 2) := U64.le_sat (by omega) (by omega)
      exact ⟨le_min (hdouble.trans (le_max_left _ _)) (min_le_right _ _), min_le_right _ _⟩)
    hhim hreached (by omega) hfuel
  obtain ⟨x, hleast, hlox, hxhi, hPx, hbelow⟩ := Search.least_eq_ok
    (P := fun n => target.toNat ≤ pool.received dir onInput n)
    (fun n hn hnhi => hreaches n hn (hnhi.trans hhim'))
    (fun _ _ _ hab _ hPa => hPa.trans (hmono hab)) (hlohi.trans hhi') hP
    (by omega : hi' - lo < 2 ^ 64) hfuel
  refine ⟨hi', x, hwiden, hleast, by omega, hxhi.trans hhim', hPx, fun n hn => ?_⟩
  rw [← Nat.not_le]
  intro hPn
  exact hbelow n (hlow n hPn) hn hPn

end CpmmPool.Quotes

/-- The least input of the search, as a least input of the quote. -/
theorem CpmmPool.Quotes.isLeast {pool : CpmmPool} {dir onInput : Bool} {target : UInt64}
    (h : pool.Quotes dir onInput) {x m : ℕ} (hpos : 0 < x) (hxm : x ≤ m) (hm : m < 2 ^ 64)
    (hfits : pool.Fits dir m) (hreached : target.toNat ≤ pool.received dir onInput x)
    (hbelow : ∀ n, n < x → pool.received dir onInput n < target.toNat) :
    LeastInput (cpmmOut pool · dir) target (UInt64.ofNat x) := by
  have hx : (UInt64.ofNat x).toNat = x := U64.toNat_ofNat (by omega)
  constructor
  · obtain ⟨y, hquote, hy⟩ := h.quoted hpos (by omega) (fits_of_le hxm hfits)
    refine ⟨y, hquote, ?_⟩
    rw [UInt64.le_iff_toNat_le, hy]
    exact hreached
  · intro x' hne hlt
    rw [UInt64.lt_iff_toNat_lt, hx] at hlt
    have hx' : UInt64.ofNat x'.toNat = x' := UInt64.ofNat_toNat
    obtain ⟨y, hquote, hy⟩ := h.quoted (U64.pos_iff.mp hne) x'.toNat_lt
      (fits_of_le (hlt.le.trans hxm) hfits)
    rw [hx'] at hquote
    refine ⟨y, hquote, ?_⟩
    rw [UInt64.lt_iff_toNat_lt, hy]
    exact hbelow _ hlt

/-- **The search returns the least input, or an error when there is none**,
whenever its loops may make 64 rounds. -/
theorem cpmmInForOutWithin_inverse {fuel : ℕ} (hfuel : 64 < fuel) (pool : CpmmPool)
    {target : UInt64} (ht : target ≠ 0) (dir : Bool) :
    (∃ x, cpmmInForOutWithin fuel pool target dir = .ok x ∧ x ≠ 0
        ∧ LeastInput (cpmmOut pool · dir) target x)
      ∨ (∃ e, cpmmInForOutWithin fuel pool target dir = .error (.error e))
        ∧ Unreachable (cpmmOut pool · dir) target := by
  have hreserve : (if dir then pool.quoteReserve else pool.baseReserve).toNat
      = pool.outputReserve dir := by cases dir <;> rfl
  have hinput : (if dir then pool.baseReserve else pool.quoteReserve).toNat
      = pool.inputReserve dir := by cases dir <;> rfl
  rw [cpmmInForOutWithin, if_neg ht]
  by_cases hout : target ≥ if dir then pool.quoteReserve else pool.baseReserve
  · -- The curve brings less than its reserve.
    right
    refine ⟨⟨"cpmm amount_out exceeds reserve", ?_⟩, ?_⟩
    · simp only [bailIf, failIf, if_pos hout]
      rfl
    intro x y hquote
    obtain ⟨onInput, hq, -, -, hy⟩ := cpmmOut_eq_ok.mp hquote
    rw [ge_iff_le, UInt64.le_iff_toNat_le, hreserve] at hout
    rw [UInt64.lt_iff_toNat_lt, hy]
    exact Nat.lt_of_lt_of_le (hq.received_lt _) hout
  simp only [bailIf, failIf, if_neg hout, ok_bind]
  rw [ge_iff_le, UInt64.le_iff_toNat_le, hreserve, Nat.not_le] at hout
  cases hone : cpmmOut pool 1 dir with
  | error e =>
    -- What is quoted for some input is quoted for one unit.
    right
    have hnot := calm_cpmmOut e hone
    constructor
    · cases e with
      | panic => exact absurd rfl hnot
      | error text => exact ⟨text, rfl⟩
    · intro x y hquote
      obtain ⟨onInput, -, hx, -⟩ := cpmmOut_eq_ok.mp hquote
      have hle : 1 ≤ x := UInt64.le_iff_toNat_le.mpr (U64.pos_iff.mp hx)
      obtain ⟨y', hy', -⟩ := cpmmOut_monotone pool dir 1 x y (by decide) hle hquote
      exact absurd (hone.symm.trans hy') (fun h => by cases h)
  | ok one =>
    obtain ⟨onInput, hq, -, hfits1, -⟩ := cpmmOut_eq_ok.mp hone
    obtain ⟨m, hmax, hm, hfits, hgreatest⟩ := hq.maxInput hfuel
    have hm1 : 1 ≤ m := hgreatest 1 (by decide) hfits1
    have hcapacity : anyOf [.ok (decide (m = 0)),
        do let reached ← cpmmReaches pool target dir m; pure (!reached)]
          = (.ok (!decide (target.toNat ≤ pool.received dir onInput m)) : Result Bool) := by
      rw [hq.reaches_eq (by omega) hm hfits]
      have hne : m ≠ 0 := by omega
      by_cases hreached : target.toNat ≤ pool.received dir onInput m
      · simp [hne, hreached, anyOf, pure, Except.pure]
      · simp [hne, hreached, anyOf, pure, Except.pure]
    rw [ok_bind, hmax, ok_bind, hcapacity, ok_bind]
    by_cases hreached : target.toNat ≤ pool.received dir onInput m
    · left
      have hbound := hq.swapIn_le hout hreached
      have hnaive : U128.satMul target.toNat
          (if dir then pool.baseReserve else pool.quoteReserve).toNat
            ⌈/⌉ ((if dir then pool.quoteReserve else pool.baseReserve).toNat - target.toNat)
          = swapIn (pool.inputReserve dir) (pool.outputReserve dir) target.toNat := by
        rw [U128.satMul_eq target.toNat_lt (UInt64.toNat_lt _), hinput, hreserve, Nat.mul_comm]
        rfl
      have hlo : U64.tryOf (swapIn (pool.inputReserve dir) (pool.outputReserve dir)
          target.toNat) = some (UInt64.ofNat (swapIn (pool.inputReserve dir)
            (pool.outputReserve dir) target.toNat)) := by
        rw [U64.tryOf_eq_some]
        exact U64.toNat_ofNat (by omega)
      obtain ⟨hi', x, hwiden, hleast, hpos, hxm, hPx, hbelow⟩ := hq.leastInput hfuel
        (U64.pos_iff.mp ht) hout hm hfits hreached rfl rfl
      have hnat : (UInt64.ofNat x).toNat = x := U64.toNat_ofNat (by omega)
      refine ⟨UInt64.ofNat x, ?_, ?_, hq.isLeast hpos hxm hm hfits hPx hbelow⟩
      · rw [hnaive, hlo]
        simp only [hreached, decide_true, Bool.not_true, Bool.false_eq_true, if_false, ok_bind,
          okOr_some]
        rw [U64.toNat_ofNat (by omega), hwiden, ok_bind, hleast]
        rfl
      · rw [U64.pos_iff, hnat]
        exact hpos
    · right
      refine ⟨⟨"cpmm amount_out is unreachable within token vault capacity", ?_⟩, ?_⟩
      · simp only [hreached, decide_false, Bool.not_false, if_true]
        rfl
      · intro x y hquote
        obtain ⟨onInput', hq', -, hfitsx, hy⟩ := cpmmOut_eq_ok.mp hquote
        have hside : onInput' = onInput := by
          have heq := hq'.side.symm.trans hq.side
          cases heq
          rfl
        subst hside
        have hxm := hq.received_mono (hgreatest x.toNat x.toNat_lt hfitsx)
        rw [UInt64.lt_iff_toNat_lt, hy]
        omega

/-- **`cpmm_in_for_out` is the exact inverse of `cpmm_out`.** Its loops
terminate, an input it returns is the least that reaches the output, an
error means that no input does, and the quote is monotone on the initial
segment of inputs it accepts. -/
theorem cpmmInForOut_exact (pool : CpmmPool) (inputIsBase : Bool) (amountOut : UInt64)
    (hout : 0 < amountOut) (fuel : ℕ) (hfuel : 64 < fuel) :
    cpmmInForOutWithin fuel pool amountOut inputIsBase ≠ .error .panic
      ∧ (∀ x, cpmmInForOutWithin fuel pool amountOut inputIsBase = .ok x →
        (∃ y, cpmmOut pool x inputIsBase = .ok y ∧ amountOut ≤ y)
        ∧ ∀ x', 0 < x' → x' < x → ∃ y, cpmmOut pool x' inputIsBase = .ok y ∧ y < amountOut)
      ∧ (∀ e, cpmmInForOutWithin fuel pool amountOut inputIsBase = .error e →
        ∀ x y, cpmmOut pool x inputIsBase = .ok y → y < amountOut)
      ∧ ∀ x x' y', 0 < x → x ≤ x' → cpmmOut pool x' inputIsBase = .ok y' →
        ∃ y, cpmmOut pool x inputIsBase = .ok y ∧ y ≤ y' := by
  have hpos : ∀ {a : UInt64}, 0 < a → a ≠ 0 := by
    intro a ha
    exact U64.pos_iff.mpr (UInt64.lt_iff_toNat_lt.mp ha)
  have hmono := cpmmOut_monotone pool inputIsBase
  refine ⟨?_, ?_, ?_, fun x x' y' hx hle hquote => hmono x x' y' (hpos hx) hle hquote⟩
  · rcases cpmmInForOutWithin_inverse hfuel pool (hpos hout) inputIsBase with
      ⟨x, hx, -⟩ | ⟨⟨e, he⟩, -⟩
    · rw [hx]
      exact fun h => by cases h
    · rw [he]
      exact fun h => by cases h
  · intro x hx
    rcases cpmmInForOutWithin_inverse hfuel pool (hpos hout) inputIsBase with
      ⟨x', hx', -, hleast⟩ | ⟨⟨e, he⟩, -⟩
    · cases hx'.symm.trans hx
      exact ⟨hleast.reaches, fun a ha hlt => hleast.below a (hpos ha) hlt⟩
    · cases he.symm.trans hx
  · intro e he
    rcases cpmmInForOutWithin_inverse hfuel pool (hpos hout) inputIsBase with
      ⟨x', hx', -⟩ | ⟨-, hnone⟩
    · cases hx'.symm.trans he
    · exact hnone

/-- A pool of 1000 base and 2000 quote units, with a fee of a quarter
percent. -/
def sampleCpmm : CpmmPool where
  poolState := sampleKey 1
  ammConfig := sampleKey 2
  observationState := sampleKey 3
  baseMint := wsolMint
  quoteMint := sampleKey 4
  baseVault := sampleKey 5
  quoteVault := sampleKey 6
  baseTokenProgram := tokenProgram
  quoteTokenProgram := tokenProgram
  baseReserve := 1000
  quoteReserve := 2000
  feeRatesKnown := true
  tradeFeeRate := 2500
  creatorFeeRate := 0
  creatorFeeOn := 0
  enableCreatorFee := false
  baseTransferFee := TokenTransferFee.none
  quoteTransferFee := TokenTransferFee.none

theorem sampleCpmm_exact :
    cpmmInForOutWithin 65 sampleCpmm 100 true = .ok 54
      ∧ ∀ x', 0 < x' → x' < 54 → ∃ y, cpmmOut sampleCpmm x' true = .ok y ∧ y < 100 := by
  have hrun : cpmmInForOutWithin 65 sampleCpmm 100 true = .ok 54 := by decide +kernel
  exact ⟨hrun, ((cpmmInForOut_exact sampleCpmm true 100 (by decide) 65 (by decide)).2.1 54
    hrun).2⟩

/-! ## AMM V4 quotes -/

namespace RaydiumAmmV4Pool

/-- The reserve of AMM V4 a swap pays into. -/
def inputReserve (pool : RaydiumAmmV4Pool) (inputIsCoin : Bool) : UInt64 :=
  if inputIsCoin then pool.coinReserve else pool.pcReserve

/-- And the one it is paid from. -/
def outputReserve (pool : RaydiumAmmV4Pool) (inputIsCoin : Bool) : UInt64 :=
  if inputIsCoin then pool.pcReserve else pool.coinReserve

/-- What a swap brings: a fee on the input, then the curve. -/
def received (pool : RaydiumAmmV4Pool) (inputIsCoin : Bool) (x : ℕ) : ℕ :=
  swapOut (pool.inputReserve inputIsCoin).toNat (pool.outputReserve inputIsCoin).toNat
    (netCeil pool.swapFeeNumerator.toNat pool.swapFeeDenominator.toNat x)

/-- The least input whose swap brings an output. -/
def required (pool : RaydiumAmmV4Pool) (inputIsCoin : Bool) (v : ℕ) : ℕ :=
  grossCeil pool.swapFeeNumerator.toNat pool.swapFeeDenominator.toNat
    (swapIn (pool.inputReserve inputIsCoin).toNat (pool.outputReserve inputIsCoin).toNat v)

/-- **A pool that can be quoted.** -/
structure Quotes (pool : RaydiumAmmV4Pool) (inputIsCoin : Bool) : Prop where
  input : 0 < (pool.inputReserve inputIsCoin).toNat
  output : 0 < (pool.outputReserve inputIsCoin).toNat
  fee : pool.swapFeeNumerator.toNat < pool.swapFeeDenominator.toNat

namespace Quotes

variable {pool : RaydiumAmmV4Pool} {dir : Bool}

/-- More is received for more. -/
theorem received_mono (h : pool.Quotes dir) : Monotone (pool.received dir) := by
  intro x x' hx
  refine swapOut_mono h.input h.output ?_
  exact netCeil_mono (Nat.lt_of_le_of_lt (Nat.zero_le _) h.fee) h.fee.le hx

/-- And never the whole reserve. -/
theorem received_lt (h : pool.Quotes dir) (x : ℕ) :
    pool.received dir x < (pool.outputReserve dir).toNat :=
  swapOut_lt h.input h.output

/-- **The two roundings compose**, and so do their inverses. -/
theorem le_received_iff (h : pool.Quotes dir) {v x : ℕ}
    (hv : v < (pool.outputReserve dir).toNat) :
    v ≤ pool.received dir x ↔ pool.required dir v ≤ x := by
  rw [received, le_swapOut_iff h.input hv]
  exact (netCeil_gc h.fee _ _).symm

end Quotes

end RaydiumAmmV4Pool

/-- **When an AMM V4 swap is quoted, and what.** -/
theorem raydiumAmmV4Out_eq_ok {pool : RaydiumAmmV4Pool} {dir : Bool} {x y : UInt64} :
    raydiumAmmV4Out pool x dir = .ok y ↔ pool.Quotes dir ∧ x ≠ 0
      ∧ (pool.inputReserve dir).toNat + x.toNat < 2 ^ 64
      ∧ y.toNat = pool.received dir x.toNat := by
  have hvalue : pool.Quotes dir →
      (UInt64.ofNat (U64.sat (U128.satMul (pool.outputReserve dir).toNat
          (U64.satSub x (UInt64.ofNat ((x.toNat * pool.swapFeeNumerator.toNat)
            ⌈/⌉ pool.swapFeeDenominator.toNat))).toNat
        / U128.satAdd (pool.inputReserve dir).toNat
          (U64.satSub x (UInt64.ofNat ((x.toNat * pool.swapFeeNumerator.toNat)
            ⌈/⌉ pool.swapFeeDenominator.toNat))).toNat))).toNat
        = pool.received dir x.toNat := by
    intro h
    have hden : 0 < pool.swapFeeDenominator.toNat := Nat.lt_of_le_of_lt (Nat.zero_le _) h.fee
    have hfee : (x.toNat * pool.swapFeeNumerator.toNat) ⌈/⌉ pool.swapFeeDenominator.toNat
        ≤ x.toNat := ceilFee_le hden h.fee.le
    have hnet : (U64.satSub x (UInt64.ofNat ((x.toNat * pool.swapFeeNumerator.toNat)
        ⌈/⌉ pool.swapFeeDenominator.toNat))).toNat
          = netCeil pool.swapFeeNumerator.toNat pool.swapFeeDenominator.toNat x.toNat := by
      rw [U64.satSub_toNat, U64.toNat_ofNat (Nat.lt_of_le_of_lt hfee x.toNat_lt)]
      rfl
    have hlt := h.received_lt x.toNat
    have hmax : (pool.outputReserve dir).toNat < 2 ^ 64 := (pool.outputReserve dir).toNat_lt
    rw [U128.satMul_eq (UInt64.toNat_lt _) (UInt64.toNat_lt _),
      U128.satAdd_eq (UInt64.toNat_lt _) (UInt64.toNat_lt _), hnet, Nat.mul_comm]
    show (UInt64.ofNat (U64.sat (pool.received dir x.toNat))).toNat = _
    have hsat : U64.sat (pool.received dir x.toNat) = pool.received dir x.toNat :=
      Nat.min_eq_left (Nat.le_sub_one_of_lt (hlt.trans hmax))
    rw [hsat]
    exact U64.toNat_ofNat (hlt.trans hmax)
  have hfee : ¬ (pool.swapFeeDenominator = 0 ∨ pool.swapFeeNumerator ≥ pool.swapFeeDenominator)
      ↔ pool.swapFeeNumerator.toNat < pool.swapFeeDenominator.toNat := by
    rw [not_or, ← ne_eq, U64.pos_iff, ge_iff_le, UInt64.le_iff_toNat_le]
    omega
  unfold raydiumAmmV4Out
  simp only [bind_eq_ok, failIf_eq_ok, okOr_eq_ok, pure_eq_ok, hfee]
  constructor
  · rintro ⟨_, hx, _, hreserves, _, hnum, sum, hroom, hy⟩
    rw [not_or] at hreserves
    have hq : pool.Quotes dir :=
      ⟨U64.pos_iff.mp hreserves.1, U64.pos_iff.mp hreserves.2, hnum⟩
    refine ⟨hq, hx, ?_, ?_⟩
    · have hsum := U64.checkedAdd_eq_some.mp hroom
      have hlt : sum.toNat < 2 ^ 64 := sum.toNat_lt
      show (if dir then pool.coinReserve else pool.pcReserve).toNat + x.toNat < 2 ^ 64
      omega
    · rw [← hy]
      exact hvalue hq
  · rintro ⟨hq, hx, hroom, hy⟩
    refine ⟨(), hx, (), ?_, (), hq.fee,
      UInt64.ofNat ((pool.inputReserve dir).toNat + x.toNat), ?_, ?_⟩
    · rw [not_or]
      exact ⟨U64.pos_iff.mpr hq.input, U64.pos_iff.mpr hq.output⟩
    · rw [U64.checkedAdd_eq_some, U64.toNat_ofNat hroom]
      rfl
    · exact UInt64.toNat_inj.mp ((hvalue hq).trans hy.symm)

/-- A quote stops with an error of its own. -/
theorem calm_raydiumAmmV4Out {pool : RaydiumAmmV4Pool} {dir : Bool} {x : UInt64} :
    Calm (raydiumAmmV4Out pool x dir) := by
  unfold raydiumAmmV4Out
  refine calm_bind calm_failIf fun _ _ => ?_
  refine calm_bind calm_failIf fun _ _ => ?_
  refine calm_bind calm_failIf fun _ _ => ?_
  exact calm_bind calm_okOr fun _ _ => calm_ok

/-- **An AMM V4 quote is monotone**, and what it accepts is an initial
segment. -/
theorem raydiumAmmV4Out_monotone (pool : RaydiumAmmV4Pool) (dir : Bool) :
    MonotoneQuote (raydiumAmmV4Out pool · dir) := by
  intro x x' y' hx hxx' hquote
  obtain ⟨hq, -, hroom, hy'⟩ := raydiumAmmV4Out_eq_ok.mp hquote
  have hle : x.toNat ≤ x'.toNat := UInt64.le_iff_toNat_le.mp hxx'
  have hmono : pool.received dir x.toNat ≤ y'.toNat := by
    rw [hy']
    exact hq.received_mono hle
  have hy : (UInt64.ofNat (pool.received dir x.toNat)).toNat = pool.received dir x.toNat :=
    U64.toNat_ofNat (Nat.lt_of_le_of_lt hmono y'.toNat_lt)
  refine ⟨UInt64.ofNat (pool.received dir x.toNat), ?_, ?_⟩
  · exact raydiumAmmV4Out_eq_ok.mpr ⟨hq, hx, by omega, hy⟩
  · rw [UInt64.le_iff_toNat_le, hy]
    exact hmono

/-- The curve's input is at most the gross one. -/
theorem RaydiumAmmV4Pool.Quotes.swapIn_le_required {pool : RaydiumAmmV4Pool} {dir : Bool}
    (h : pool.Quotes dir) (v : ℕ) :
    swapIn (pool.inputReserve dir).toNat (pool.outputReserve dir).toNat v
      ≤ pool.required dir v :=
  ((netCeil_gc h.fee).le_u_l _).trans netCeil_le

/-- **When the formula has a result**: the required input is in range, and
is quoted the target. -/
theorem raydiumAmmV4InForOut_eq_ok {pool : RaydiumAmmV4Pool} {dir : Bool}
    {target x : UInt64} (ht : target ≠ 0) :
    raydiumAmmV4InForOut pool target dir = .ok x ↔ pool.Quotes dir
      ∧ target.toNat < (pool.outputReserve dir).toNat
      ∧ x.toNat = pool.required dir target.toNat
      ∧ ∃ y, raydiumAmmV4Out pool x dir = .ok y ∧ target ≤ y := by
  have hnaive : U128.satMul target.toNat (pool.inputReserve dir).toNat
      ⌈/⌉ ((pool.outputReserve dir).toNat - target.toNat)
        = swapIn (pool.inputReserve dir).toNat (pool.outputReserve dir).toNat target.toNat := by
    rw [U128.satMul_eq target.toNat_lt (UInt64.toNat_lt _), Nat.mul_comm]
    rfl
  unfold raydiumAmmV4InForOut
  simp only [bind_eq_ok, failIf_eq_ok, okOr_eq_ok, pure_eq_ok, U64.tryOf_eq_some]
  constructor
  · rintro ⟨_, _, _, hreserves, _, hout, _, hfee, net, hnet, gross, hgross, y, hquote, _, hlt,
      rfl⟩
    rw [not_or] at hreserves hfee
    have hq : pool.Quotes dir :=
      ⟨U64.pos_iff.mp hreserves.1, U64.pos_iff.mp hreserves.2, Nat.not_le.mp hfee.2⟩
    refine ⟨hq, ?_, ?_, y, hquote, UInt64.not_lt.mp hlt⟩
    · exact Nat.not_le.mp fun hle => hout (UInt64.le_iff_toNat_le.mpr hle)
    · rw [hgross, hnet]
      show grossCeil _ _ (U128.satMul _ (pool.inputReserve dir).toNat
        ⌈/⌉ ((pool.outputReserve dir).toNat - _)) = _
      rw [hnaive]
      rfl
  · rintro ⟨hq, hout, hx, y, hquote, hle⟩
    have hswap := hq.swapIn_le_required target.toNat
    have hnet : (UInt64.ofNat (swapIn (pool.inputReserve dir).toNat
        (pool.outputReserve dir).toNat target.toNat)).toNat
          = swapIn (pool.inputReserve dir).toNat (pool.outputReserve dir).toNat target.toNat :=
      U64.toNat_ofNat (by have hmax : x.toNat < 2 ^ 64 := x.toNat_lt; omega)
    refine ⟨(), ht, (), ?_, (), ?_, (), ?_, _, hnet.trans hnaive.symm, x, ?_, y, hquote, (),
      UInt64.not_lt.mpr hle, rfl⟩
    · rw [not_or]
      exact ⟨U64.pos_iff.mpr hq.input, U64.pos_iff.mpr hq.output⟩
    · intro hge
      exact absurd (UInt64.le_iff_toNat_le.mp hge) (Nat.not_le.mpr hout)
    · rw [not_or]
      exact ⟨Nat.ne_of_gt (Nat.lt_of_le_of_lt (Nat.zero_le _) hq.fee), Nat.not_le.mpr hq.fee⟩
    · rw [hx, hnet]
      rfl

/-- The formula stops with an error of its own. -/
theorem calm_raydiumAmmV4InForOut {pool : RaydiumAmmV4Pool} {dir : Bool} {target : UInt64} :
    Calm (raydiumAmmV4InForOut pool target dir) := by
  unfold raydiumAmmV4InForOut
  refine calm_bind calm_failIf fun _ _ => ?_
  refine calm_bind calm_failIf fun _ _ => ?_
  refine calm_bind calm_failIf fun _ _ => ?_
  refine calm_bind calm_failIf fun _ _ => ?_
  refine calm_bind calm_okOr fun _ _ => ?_
  refine calm_bind calm_okOr fun _ _ => ?_
  refine calm_bind calm_raydiumAmmV4Out fun _ _ => ?_
  exact calm_bind calm_failIf fun _ _ => calm_ok

/-- **The formula returns the least input, or an error when there is
none.** -/
theorem raydiumAmmV4InForOut_inverse (pool : RaydiumAmmV4Pool) {target : UInt64}
    (ht : target ≠ 0) (dir : Bool) :
    (∃ x, raydiumAmmV4InForOut pool target dir = .ok x ∧ x ≠ 0
        ∧ LeastInput (raydiumAmmV4Out pool · dir) target x)
      ∨ (∃ e, raydiumAmmV4InForOut pool target dir = .error (.error e))
        ∧ Unreachable (raydiumAmmV4Out pool · dir) target := by
  cases hrun : raydiumAmmV4InForOut pool target dir with
  | ok x =>
    left
    obtain ⟨hq, hout, hx, y, hquote, hle⟩ := (raydiumAmmV4InForOut_eq_ok ht).mp hrun
    have hne : x ≠ 0 := (raydiumAmmV4Out_eq_ok.mp hquote).2.1
    refine ⟨x, rfl, hne, ⟨⟨y, hquote, hle⟩, fun x' hx' hlt => ?_⟩⟩
    obtain ⟨y', hquote', -⟩ := raydiumAmmV4Out_monotone pool dir x' x y hx'
      (UInt64.le_of_lt hlt) hquote
    refine ⟨y', hquote', ?_⟩
    obtain ⟨-, -, -, hy'⟩ := raydiumAmmV4Out_eq_ok.mp hquote'
    rw [UInt64.lt_iff_toNat_lt, hx] at hlt
    rw [UInt64.lt_iff_toNat_lt, hy', ← Nat.not_le, hq.le_received_iff hout]
    exact Nat.not_le.mpr hlt
  | error e =>
    right
    constructor
    · cases e with
      | panic => exact absurd rfl (calm_raydiumAmmV4InForOut _ hrun)
      | error text => exact ⟨text, rfl⟩
    · -- An input that reaches the target bounds the required one.
      intro x y hquote
      by_contra hnot
      have hle : target ≤ y := UInt64.not_lt.mp hnot
      obtain ⟨hq, hx, hroom, hy⟩ := raydiumAmmV4Out_eq_ok.mp hquote
      rw [UInt64.le_iff_toNat_le, hy] at hle
      have hout := Nat.lt_of_le_of_lt hle (hq.received_lt _)
      have hreq := (hq.le_received_iff hout).mp hle
      have hnat : (UInt64.ofNat (pool.required dir target.toNat)).toNat
          = pool.required dir target.toNat :=
        U64.toNat_ofNat (Nat.lt_of_le_of_lt hreq x.toNat_lt)
      have hreached : target.toNat ≤ pool.received dir (pool.required dir target.toNat) :=
        (hq.le_received_iff hout).mpr (Nat.le_refl _)
      have hpos : 0 < pool.required dir target.toNat := by
        rw [Nat.pos_iff_ne_zero]
        intro hzero
        rw [hzero, RaydiumAmmV4Pool.received, netCeil, swapOut, Nat.zero_sub, Nat.zero_mul,
          Nat.zero_div] at hreached
        exact absurd (U64.pos_iff.mp ht) (Nat.not_lt.mpr hreached)
      have hmax := Nat.lt_trans (hq.received_lt (pool.required dir target.toNat))
        (pool.outputReserve dir).toNat_lt
      have hok := (raydiumAmmV4InForOut_eq_ok ht).mpr ⟨hq, hout, hnat,
        UInt64.ofNat (pool.received dir (pool.required dir target.toNat)),
        raydiumAmmV4Out_eq_ok.mpr ⟨hq, ?_, ?_, ?_⟩, ?_⟩
      · rw [hrun] at hok
        cases hok
      · rw [U64.pos_iff, hnat]
        exact hpos
      · rw [hnat]
        omega
      · rw [U64.toNat_ofNat hmax, hnat]
      · rw [UInt64.le_iff_toNat_le, U64.toNat_ofNat hmax]
        exact hreached

end Sdk
