import SolTradeRouter.PumpFunQuotes

/-!
# PumpSwap quotes

A PumpSwap buy pays three fees, each rounded up, and its net input is found
by the reference formula: the budget is divided by the sum of the rates, and
what the quotient costs above the budget is taken off. The net input stays
within the budget, but it is the largest amount that does only where at most
two of the fees count. With three, it may miss that amount by one, and a
larger budget may then be quoted less.
-/

namespace Sdk

open Outcome Rounding SplitFees

/-! ## The effective input -/

/-- The net input of a budget: the total fees inverted, and the excess of the
split fees taken off. -/
def pumpswapEffectiveIn (lp protocol creator denominator quoteIn : ℕ) : ℕ :=
  let effectiveIn := U128.satMul quoteIn 10000 / denominator
  let totalWithFees := U128.satAdd (U128.satAdd (U128.satAdd effectiveIn
    (computeFeeBps effectiveIn lp)) (computeFeeBps effectiveIn protocol))
    (computeFeeBps effectiveIn creator)
  if totalWithFees > quoteIn then effectiveIn - (totalWithFees - quoteIn) else effectiveIn

/-- The net input of a budget in a pool, by its rates. -/
def PumpSwapPool.effectiveIn (pool : PumpSwapPool) (quoteIn : UInt64) : ℕ :=
  pumpswapEffectiveIn pool.lpFeeBps.toNat pool.protocolFeeBps.toNat pool.creatorFeeBps.toNat
    (10000 + (pool.lpFeeBps.toNat + pool.protocolFeeBps.toNat + pool.creatorFeeBps.toNat))
    quoteIn.toNat

/-- The quote, with its net input by name. -/
theorem pumpswapBuyBaseOut_eq (pool : PumpSwapPool) (quoteIn : UInt64) :
    pumpswapBuyBaseOut pool quoteIn = (do
      bailIf (quoteIn = 0 ∨ pool.baseReserve = 0 ∨ pool.quoteReserve = 0)
        "invalid PumpSwap input or reserves"
      let totalFeeBps ← okOr ((U64.checkedAdd pool.lpFeeBps pool.protocolFeeBps).bind
        (U64.checkedAdd · pool.creatorFeeBps)) "PumpSwap fee bps overflow"
      let denominator ← okOr (U64.checkedAdd 10000 totalFeeBps)
        "PumpSwap fee denominator overflow"
      let curveIn ← okOr (U128.checkedSub (pumpswapEffectiveIn pool.lpFeeBps.toNat
        pool.protocolFeeBps.toNat pool.creatorFeeBps.toNat denominator.toNat quoteIn.toNat) 1)
        "PumpSwap quote input is too small after fees"
      let effectiveQuote ← pumpswapEffectiveQuote pool
      pure (UInt64.ofNat (U64.sat (U128.satMul pool.baseReserve.toNat curveIn
        / U128.satAdd effectiveQuote.toNat curveIn)))) := rfl

section Fees

variable {lp p c b : ℕ}

/-- Three fees, each rounded up. -/
theorem fees_triple {n : ℕ} : fees 10000 [lp, p, c] n
    = (n * lp) ⌈/⌉ 10000 + (n * p) ⌈/⌉ 10000 + (n * c) ⌈/⌉ 10000 := by
  simp [fees, Nat.add_assoc]

/-- The first guess is the inverse of all three together. -/
theorem guess_triple : b * 10000 / (10000 + (lp + p + c)) = guess 10000 [lp, p, c] b := by
  simp [guess, Nat.add_assoc]

/-- A fee of the guess is within the budget, but for the unit that rounds it
up. -/
theorem fee_guess_le {d r b : ℕ} {rates : List ℕ} (hd : 0 < d) (hr : r ∈ rates) :
    (guess d rates b * r) ⌈/⌉ d ≤ b := by
  have hle : r ≤ d + rates.sum := (List.le_sum_of_mem hr).trans (Nat.le_add_left _ _)
  rw [ceilDiv_le_iff_le_mul hd, Nat.mul_comm d b]
  exact (Nat.mul_le_mul_left _ hle).trans (Nat.div_mul_le_self _ _)

/-- A guess is at most the budget. -/
theorem guess_le {d b : ℕ} {rates : List ℕ} : guess d rates b ≤ b := by
  rw [guess, Nat.mul_comm]
  refine Nat.div_le_of_le_mul ?_
  exact Nat.mul_le_mul_right b (Nat.le_add_right _ _)

/-- **The effective input is the corrected amount**: none of the saturating
operators saturates. -/
theorem pumpswapEffectiveIn_eq (hb : b < 2 ^ 64) (hlp : lp < 2 ^ 64) (hp : p < 2 ^ 64)
    (hc : c < 2 ^ 64) :
    pumpswapEffectiveIn lp p c (10000 + (lp + p + c)) b = corrected 10000 [lp, p, c] b := by
  have hmax : U128.max = 2 ^ 128 - 1 := rfl
  have hguess : guess 10000 [lp, p, c] b ≤ b := guess_le
  have hn : guess 10000 [lp, p, c] b < 2 ^ 64 := hguess.trans_lt hb
  have hlpFee : (guess 10000 [lp, p, c] b * lp) ⌈/⌉ 10000 ≤ b :=
    fee_guess_le (by decide) (by simp)
  have hpFee : (guess 10000 [lp, p, c] b * p) ⌈/⌉ 10000 ≤ b :=
    fee_guess_le (by decide) (by simp)
  have hcFee : (guess 10000 [lp, p, c] b * c) ⌈/⌉ 10000 ≤ b :=
    fee_guess_le (by decide) (by simp)
  have hsum : U128.satAdd (U128.satAdd (U128.satAdd (guess 10000 [lp, p, c] b)
      ((guess 10000 [lp, p, c] b * lp) ⌈/⌉ 10000)) ((guess 10000 [lp, p, c] b * p) ⌈/⌉ 10000))
      ((guess 10000 [lp, p, c] b * c) ⌈/⌉ 10000)
      = guess 10000 [lp, p, c] b + (guess 10000 [lp, p, c] b * lp) ⌈/⌉ 10000
        + (guess 10000 [lp, p, c] b * p) ⌈/⌉ 10000
        + (guess 10000 [lp, p, c] b * c) ⌈/⌉ 10000 := by
    rw [U128.satAdd_of_le (a := guess 10000 [lp, p, c] b) (by omega),
      U128.satAdd_of_le (a := guess 10000 [lp, p, c] b + _) (by omega),
      U128.satAdd_of_le (by omega)]
  unfold pumpswapEffectiveIn
  dsimp only
  rw [U128.satMul_eq hb (by decide), guess_triple, computeFeeBps_eq hn hlp,
    computeFeeBps_eq hn hp, computeFeeBps_eq hn hc, hsum]
  rw [corrected, excess, total, fees_triple, ← Nat.add_assoc, ← Nat.add_assoc]
  split
  · rfl
  · rename_i hle
    rw [Nat.sub_eq_zero_of_le (Nat.not_lt.mp hle), Nat.sub_zero]

end Fees

namespace PumpSwapPool

variable {pool : PumpSwapPool} {b b' t t' e : UInt64}

/-- The net input is the guess, corrected. -/
theorem effectiveIn_eq : pool.effectiveIn b = corrected 10000
    [pool.lpFeeBps.toNat, pool.protocolFeeBps.toNat, pool.creatorFeeBps.toNat] b.toNat :=
  pumpswapEffectiveIn_eq b.toNat_lt (UInt64.toNat_lt _) (UInt64.toNat_lt _) (UInt64.toNat_lt _)

/-- The net input with its three fees. -/
theorem total_eq {n : ℕ} : total 10000
    [pool.lpFeeBps.toNat, pool.protocolFeeBps.toNat, pool.creatorFeeBps.toNat] n
      = n + (n * pool.lpFeeBps.toNat) ⌈/⌉ 10000 + (n * pool.protocolFeeBps.toNat) ⌈/⌉ 10000
        + (n * pool.creatorFeeBps.toNat) ⌈/⌉ 10000 := by
  rw [total, fees_triple, ← Nat.add_assoc, ← Nat.add_assoc]

/-- **The effective quote reserve** is the sum of the real one and the
virtual one, if that is a positive 64-bit number. -/
theorem effectiveQuote_eq_ok : pumpswapEffectiveQuote pool = .ok e ↔
    (e.toNat : ℤ) = (pool.quoteReserve.toNat : ℤ) + pool.virtualQuoteReserves.toInt
      ∧ 0 < e.toNat := by
  have he : e.toNat < 2 ^ 64 := e.toNat_lt
  unfold pumpswapEffectiveQuote
  dsimp only
  simp only [bind_eq_ok, failIf_eq_ok, pure_eq_ok, not_or, not_lt, not_le]
  constructor
  · rintro ⟨_, -, _, ⟨hpos, hlt⟩, rfl⟩
    have htoNat : (UInt64.ofNat ((pool.quoteReserve.toNat : ℤ)
        + pool.virtualQuoteReserves.toInt).toNat).toNat
        = ((pool.quoteReserve.toNat : ℤ) + pool.virtualQuoteReserves.toInt).toNat :=
      U64.toNat_ofNat (by omega)
    rw [htoNat]
    omega
  · rintro ⟨heq, hpos⟩
    refine ⟨(), by omega, (), by omega, ?_⟩
    rw [← heq, Int.toNat_natCast, UInt64.ofNat_toNat]

/-- **What a budget buys.** -/
theorem buyBaseOut_of_ok (h : pumpswapBuyBaseOut pool b = .ok t) :
    ∃ e, pumpswapEffectiveQuote pool = .ok e ∧ 0 < pool.baseReserve.toNat
      ∧ 1 ≤ pool.effectiveIn b
      ∧ t.toNat = swapOut e.toNat pool.baseReserve.toNat (pool.effectiveIn b - 1) := by
  rw [pumpswapBuyBaseOut_eq] at h
  simp only [bind_eq_ok, failIf_eq_ok, okOr_eq_ok, Option.bind_eq_some_iff, U64.checkedAdd_eq_some,
    U128.checkedSub_eq_some, pure_eq_ok, not_or] at h
  obtain ⟨_, ⟨-, hbase, -⟩, total, ⟨sum, hsum, htotal⟩, denominator, hdenominator, curveIn,
    ⟨hone, rfl⟩, e, he, rfl⟩ := h
  have hden : denominator.toNat = 10000 + (pool.lpFeeBps.toNat + pool.protocolFeeBps.toNat
      + pool.creatorFeeBps.toNat) := by
    rw [← hdenominator, ← htotal, ← hsum]
    rfl
  have hin : pumpswapEffectiveIn pool.lpFeeBps.toNat pool.protocolFeeBps.toNat
      pool.creatorFeeBps.toNat denominator.toNat b.toNat = pool.effectiveIn b := by
    rw [hden]
    rfl
  rw [hin] at hone ⊢
  have hbase := U64.pos_iff.mp hbase
  have heff : 0 < e.toNat := (effectiveQuote_eq_ok.mp he).2
  refine ⟨e, he, hbase, hone, ?_⟩
  have hcurve : pool.effectiveIn b - 1 < 2 ^ 64 := by
    have hle : corrected 10000 [pool.lpFeeBps.toNat, pool.protocolFeeBps.toNat,
        pool.creatorFeeBps.toNat] b.toNat ≤ b.toNat :=
      le_of_total_le (total_corrected_le (by decide))
    have hb : b.toNat < 2 ^ 64 := b.toNat_lt
    rw [effectiveIn_eq]
    omega
  have hout : swapOut e.toNat pool.baseReserve.toNat (pool.effectiveIn b - 1)
      < pool.baseReserve.toNat := swapOut_lt heff hbase
  have hfits : swapOut e.toNat pool.baseReserve.toNat (pool.effectiveIn b - 1) ≤ U64.max :=
    Nat.le_sub_one_of_lt (hout.trans (UInt64.toNat_lt _))
  rw [U64.toNat_ofNat (U64.sat_lt _), U128.satMul_eq (UInt64.toNat_lt _) hcurve,
    U128.satAdd_eq e.toNat_lt hcurve, Nat.mul_comm pool.baseReserve.toNat]
  exact Nat.min_eq_left hfits

/-! ## The largest input, or the one below it -/

/-- **The net input and its fees are within the budget.** -/
theorem within_budget : total 10000
    [pool.lpFeeBps.toNat, pool.protocolFeeBps.toNat, pool.creatorFeeBps.toNat]
    (pool.effectiveIn b) ≤ b.toNat := by
  rw [effectiveIn_eq]
  exact total_corrected_le (by decide)

/-- **And no amount more than one above it is.** -/
theorem le_effectiveIn_succ {n : ℕ} (h : total 10000
    [pool.lpFeeBps.toNat, pool.protocolFeeBps.toNat, pool.creatorFeeBps.toNat] n ≤ b.toNat) :
    n ≤ pool.effectiveIn b + 1 := by
  rw [effectiveIn_eq]
  exact le_corrected_add (by decide) (by simp) h

/-- A fee with a rate of zero is none: the net input is the largest one. -/
theorem isGreatest_effectiveIn
    (h : pool.lpFeeBps = 0 ∨ pool.protocolFeeBps = 0 ∨ pool.creatorFeeBps = 0) :
    IsGreatest {n | total 10000
      [pool.lpFeeBps.toNat, pool.protocolFeeBps.toNat, pool.creatorFeeBps.toNat] n ≤ b.toNat}
      (pool.effectiveIn b) := by
  rw [effectiveIn_eq]
  refine isGreatest_corrected_of_zero (by decide) (by simp) ?_ (by simp)
  rcases h with h | h | h <;> simp [h]

/-- **A larger budget has at most one unit less for the curve.** -/
theorem effectiveIn_le_succ (hb : b ≤ b') : pool.effectiveIn b ≤ pool.effectiveIn b' + 1 :=
  le_effectiveIn_succ (within_budget.trans (UInt64.le_iff_toNat_le.mp hb))

/-- The output is that of the net input, and monotone in it. -/
theorem swapOut_le_of_le {x : ℕ} (he : 0 < e.toNat) (hbase : 0 < pool.baseReserve.toNat)
    (h : pool.effectiveIn b - 1 ≤ x) :
    swapOut e.toNat pool.baseReserve.toNat (pool.effectiveIn b - 1)
      ≤ swapOut e.toNat pool.baseReserve.toNat x := swapOut_mono he hbase h

end PumpSwapPool

/-- **PumpSwap buys stay within the budget, and next to the best it
allows.** The net input and its three fees are within the budget, no input of
two more would be, and the output is that of the net input, below the base
reserve. A larger budget may be quoted for one unit of input less. Where one
of the rates is zero, the net input is the largest one and the quote is
monotone. -/
theorem pumpswap_buy_within_budget :
    (∀ (pool : PumpSwapPool) b t, pumpswapBuyBaseOut pool b = .ok t →
        (∃ e, pumpswapEffectiveQuote pool = .ok e ∧ 1 ≤ pool.effectiveIn b
          ∧ t.toNat = (pool.effectiveIn b - 1) * pool.baseReserve.toNat
            / (e.toNat + (pool.effectiveIn b - 1)))
        ∧ pool.effectiveIn b + (pool.effectiveIn b * pool.lpFeeBps.toNat) ⌈/⌉ 10000
          + (pool.effectiveIn b * pool.protocolFeeBps.toNat) ⌈/⌉ 10000
          + (pool.effectiveIn b * pool.creatorFeeBps.toNat) ⌈/⌉ 10000 ≤ b.toNat
        ∧ (∀ n, n + (n * pool.lpFeeBps.toNat) ⌈/⌉ 10000
          + (n * pool.protocolFeeBps.toNat) ⌈/⌉ 10000
          + (n * pool.creatorFeeBps.toNat) ⌈/⌉ 10000 ≤ b.toNat → n ≤ pool.effectiveIn b + 1)
        ∧ ((pool.lpFeeBps = 0 ∨ pool.protocolFeeBps = 0 ∨ pool.creatorFeeBps = 0) →
          IsGreatest {n | n + (n * pool.lpFeeBps.toNat) ⌈/⌉ 10000
            + (n * pool.protocolFeeBps.toNat) ⌈/⌉ 10000
            + (n * pool.creatorFeeBps.toNat) ⌈/⌉ 10000 ≤ b.toNat} (pool.effectiveIn b))
        ∧ t < pool.baseReserve)
      ∧ ∀ (pool : PumpSwapPool) b b' t t', b ≤ b' → pumpswapBuyBaseOut pool b = .ok t →
        pumpswapBuyBaseOut pool b' = .ok t' →
        pool.effectiveIn b ≤ pool.effectiveIn b' + 1
          ∧ (∃ e, pumpswapEffectiveQuote pool = .ok e
            ∧ t.toNat ≤ pool.effectiveIn b' * pool.baseReserve.toNat
              / (e.toNat + pool.effectiveIn b'))
          ∧ ((pool.lpFeeBps = 0 ∨ pool.protocolFeeBps = 0 ∨ pool.creatorFeeBps = 0) → t ≤ t') := by
  refine ⟨fun pool b t h => ?_, fun pool b b' t t' hb h h' => ?_⟩
  · obtain ⟨e, he, hbase, hone, ht⟩ := PumpSwapPool.buyBaseOut_of_ok h
    have hlt : t < pool.baseReserve := by
      rw [UInt64.lt_iff_toNat_lt, ht]
      exact swapOut_lt (PumpSwapPool.effectiveQuote_eq_ok.mp he).2 hbase
    simp only [← PumpSwapPool.total_eq]
    exact ⟨⟨e, he, hone, ht⟩, PumpSwapPool.within_budget,
      fun _ => PumpSwapPool.le_effectiveIn_succ, PumpSwapPool.isGreatest_effectiveIn, hlt⟩
  · obtain ⟨e, he, hbase, hone, ht⟩ := PumpSwapPool.buyBaseOut_of_ok h
    obtain ⟨e', he', -, -, ht'⟩ := PumpSwapPool.buyBaseOut_of_ok h'
    have heff := (PumpSwapPool.effectiveQuote_eq_ok.mp he).2
    have hsucc : pool.effectiveIn b ≤ pool.effectiveIn b' + 1 :=
      PumpSwapPool.effectiveIn_le_succ hb
    rw [he, Except.ok.injEq] at he'
    refine ⟨hsucc, ⟨e, he, ?_⟩, fun hzero => ?_⟩
    · rw [ht]
      exact PumpSwapPool.swapOut_le_of_le heff hbase (by omega)
    · have hle : pool.effectiveIn b ≤ pool.effectiveIn b' :=
        (PumpSwapPool.isGreatest_effectiveIn hzero).2
          (PumpSwapPool.within_budget.trans (UInt64.le_iff_toNat_le.mp hb))
      rw [UInt64.le_iff_toNat_le, ht, ht', ← he']
      exact PumpSwapPool.swapOut_le_of_le heff hbase (by omega)

/-- A pool with three fees of one hundredth of a percent. -/
def samplePumpSwap : PumpSwapPool where
  pool := sampleKey 1
  baseMint := sampleKey 4
  quoteMint := wsolMint
  poolBaseTokenAccount := sampleKey 5
  poolQuoteTokenAccount := sampleKey 6
  baseTokenProgram := tokenProgram
  quoteTokenProgram := tokenProgram
  coinCreatorVaultAta := sampleKey 7
  coinCreatorVaultAuthority := sampleKey 8
  coinCreator := sampleKey 9
  baseReserve := 1000000000000
  quoteReserve := 1000000
  virtualQuoteReserves := 0
  quoteFeeReserves := some 1000
  lpFeeBps := 1
  protocolFeeBps := 1
  creatorFeeBps := 1
  isCashbackCoin := false
  protocolFeeRecipient := sampleKey 10
  buybackFeeRecipient := sampleKey 11

/-- The quotes for a budget and for one unit more. -/
theorem samplePumpSwap_within_budget :
    samplePumpSwap.effectiveIn 10004 ≤ samplePumpSwap.effectiveIn 10005 + 1
      ∧ samplePumpSwap.effectiveIn 10005 + (samplePumpSwap.effectiveIn 10005 * 1) ⌈/⌉ 10000
        + (samplePumpSwap.effectiveIn 10005 * 1) ⌈/⌉ 10000
        + (samplePumpSwap.effectiveIn 10005 * 1) ⌈/⌉ 10000 ≤ 10005 := by
  have hsmall : pumpswapBuyBaseOut samplePumpSwap 10004 = .ok 9900009801 := by decide +kernel
  have hlarge : pumpswapBuyBaseOut samplePumpSwap 10005 = .ok 9899029503 := by decide +kernel
  exact ⟨(pumpswap_buy_within_budget.2 _ 10004 10005 _ _ (by decide) hsmall hlarge).1,
    (pumpswap_buy_within_budget.1 _ 10005 _ hlarge).2.1⟩

/-- **A larger budget is quoted less**, for it is not spent in full. -/
theorem pumpswap_buy_not_best :
    ¬ ((∀ (pool : PumpSwapPool) b t, pumpswapBuyBaseOut pool b = .ok t →
          IsGreatest {n | n + (n * pool.lpFeeBps.toNat) ⌈/⌉ 10000
            + (n * pool.protocolFeeBps.toNat) ⌈/⌉ 10000
            + (n * pool.creatorFeeBps.toNat) ⌈/⌉ 10000 ≤ b.toNat} (pool.effectiveIn b))
        ∨ ∀ (pool : PumpSwapPool) b b' t t', b ≤ b' → pumpswapBuyBaseOut pool b = .ok t →
          pumpswapBuyBaseOut pool b' = .ok t' → t ≤ t') := by
  rintro (h | h)
  · have hgreatest := h samplePumpSwap 10005 9899029503 (by decide +kernel)
    have hmem : 10000 ≤ samplePumpSwap.effectiveIn 10005 :=
      hgreatest.2 (show 10000 + _ + _ + _ ≤ _ by decide +kernel)
    exact absurd hmem (by decide +kernel)
  · have hle := h samplePumpSwap 10004 10005 9900009801 9899029503 (by decide) (by decide +kernel)
      (by decide +kernel)
    exact absurd hle (by decide)

end Sdk
