import SolTradeRouter.PumpFunQuotes

/-!
# The limits of Pump V3 quotes

A quote for a budget stays in range, as the budget bounds what it multiplies.
A quote for an amount of tokens has no such bound: a curve with few tokens to
spare prices them far above 64 bits, and the fees of such a price leave the
128-bit range before the price is refused. A sale is priced by the virtual
reserves alone, and may be quoted for more than the curve holds.
-/

namespace Sdk

open Outcome Rounding SplitFees

/-! ## The largest price with fees in range -/

/-- **The largest net price whose fees are in range**, on top of what was
spent before. With a rate of two or more, the product with the higher rate is
the first to leave the range; otherwise it is the sum. -/
def largestNet (p c spent : ℕ) : ℕ :=
  if max p c ≤ 1 then corrected 10000 [p, c] (U128.max - spent) else U128.max / max p c

theorem feesFit_iff {p c n : ℕ} : FeesFit p c n ↔ n * max p c ≤ U128.max := by
  rw [← Nat.mul_max_mul_left]
  exact ⟨fun h => max_le h.protocol h.creator,
    fun h => ⟨(le_max_left _ _).trans h, (le_max_right _ _).trans h⟩⟩

theorem le_largestNet_iff {p c n spent : ℕ} (hspent : spent < 2 ^ 68) :
    FeesFit p c n ∧ spent + total 10000 [p, c] n ≤ U128.max ↔ n ≤ largestNet p c spent := by
  have hmax : U128.max = 2 ^ 128 - 1 := rfl
  rw [feesFit_iff, largestNet]
  split
  · rename_i hsmall
    rw [← le_corrected_iff (by decide) (by simp) (by simp)]
    constructor
    · rintro ⟨-, hsum⟩
      omega
    · intro hle
      have hn : n ≤ U128.max := (le_of_total_le hle).trans (Nat.sub_le _ _)
      have hmul : n * max p c ≤ n * 1 := Nat.mul_le_mul_left n hsmall
      omega
  · rename_i hlarge
    rw [Nat.le_div_iff_mul_le (by omega)]
    refine and_iff_left_of_imp fun hle => ?_
    have hfit := feesFit_iff.mpr hle
    have hn : n * 2 ≤ n * max p c := Nat.mul_le_mul_left n (by omega)
    have hp : (n * p) ⌈/⌉ 10000 ≤ U128.max / 10000 + 1 := by
      have hp := hfit.protocol
      rw [Nat.ceilDiv_eq_add_pred_div]
      omega
    have hc : (n * c) ⌈/⌉ 10000 ≤ U128.max / 10000 + 1 := by
      have hc := hfit.creator
      rw [Nat.ceilDiv_eq_add_pred_div]
      omega
    rw [total, fees_pair]
    omega

namespace PumpFunV3Pool

variable (pool : PumpFunV3Pool) {p c : ℕ} {b t : UInt64}

/-! ## Quotes in range -/

/-- The quote of the pool-to-be multiplies 64-bit numbers. -/
theorem calm_poolToBeQuote {left : ℕ} (hrates : p + c < 10000) (hleft : left < 2 ^ 64) :
    Calm (pool.poolToBeQuote p c (pool.curveNet pool.remaining) left) := by
  have hmax : U128.max = 2 ^ 128 - 1 := rfl
  have hnet : corrected 10000 [p, c] left ≤ left :=
    le_of_total_le (total_corrected_le (by decide))
  unfold poolToBeQuote
  dsimp only
  refine calm_bind calm_okOr fun base hbase => calm_bind calm_okOr fun raised hraised =>
    calm_bind calm_okOr fun quote hquote => ?_
  simp only [okOr_eq_ok, Option.filter_eq_some_iff, U128.checkedSub_eq_some,
    raisedQuote_eq_some, decide_eq_true_eq] at hbase hraised hquote
  rw [netQuote_eq hleft hrates, ok_bind]
  refine calm_bind calm_okOr fun legIn hlegIn => ?_
  rw [okOr_eq_ok, U128.checkedSub_eq_some] at hlegIn
  have hremaining : pool.curve.realTokenReserves.toNat < 2 ^ 64 := UInt64.toNat_lt _
  have hbase' : base < 2 ^ 64 := by
    rw [hbase.1.2]
    exact (Nat.sub_le _ _).trans_lt (UInt64.toNat_lt _)
  have hquote' : quote < 2 ^ 64 := by
    have hu64 : U64.max = 2 ^ 64 - 1 := rfl
    omega
  have hproduct : legIn * base + 2 ^ 65 ≤ U128.max + 2 := U128.mul_lt (by omega) hbase'
  have hdiv : legIn * base / (quote + legIn) ≤ legIn * base := Nat.div_le_self _ _
  rw [U128.mul_eq (by omega), ok_bind, U128.add_eq (U128.add_le hquote' (by omega)), ok_bind,
    U128.add_eq (by omega), ok_bind]
  exact calm_positiveU64

/-- **A quote for a budget never leaves the range.** -/
theorem calm_buyQuote [Pda] (hrates : pool.Rates p c) : Calm (pool.buyQuote b) := by
  rw [pool.buyQuote_eq hrates]
  dsimp only
  refine calm_bind calm_failIf fun _ hreserves => calm_bind calm_failIf fun _ _ => ?_
  have hq : 0 < pool.quote := Nat.pos_of_ne_zero (not_or.mp (failIf_eq_ok.mp hreserves)).2
  split
  · exact calm_positiveU64
  · rename_i hlt
    rw [pool.graduationQuote_eq hrates.sum_lt b.toNat_lt hq (Nat.not_le.mp hlt)]
    refine calm_bind calm_failIf fun _ _ => calm_bind calm_failIf fun _ _ =>
      calm_ite calm_positiveU64 ?_
    exact pool.calm_poolToBeQuote hrates.sum_lt ((Nat.sub_le _ _).trans_lt b.toNat_lt)

/-- The price of the curve's tokens is in range with its fees: the tokens and
the quote reserve against the reserve that is left. -/
def CurveInRange (p c amount : ℕ) : Prop :=
  min amount pool.remaining * pool.quote
    < largestNet p c 0 * (pool.base - min amount pool.remaining)

/-- The price of the tokens past the curve is in range with its fees, on top
of the curve's. -/
def PastInRange (p c past : ℕ) : Prop :=
  pool.poolQuote * past
    ≤ (pool.poolBase - past) * largestNet p c (total 10000 [p, c] (pool.curveNet pool.remaining))

/-- **An amount of tokens is priced in range**: on the curve and, if it is
asked past it, in the pool-to-be. -/
structure InRange (p c amount : ℕ) : Prop where
  curve : pool.Asked amount → pool.CurveInRange p c amount
  past : pool.Asked amount → pool.remaining < amount →
    pool.Reached (amount - pool.remaining) → pool.PastInRange p c (amount - pool.remaining)

theorem curveInRange_iff {amount : ℕ} (h : pool.Asked amount) :
    pool.CurveInRange p c amount
      ↔ FeesFit p c (pool.curveNet (min amount pool.remaining))
        ∧ total 10000 [p, c] (pool.curveNet (min amount pool.remaining)) ≤ U128.max := by
  have hiff := le_largestNet_iff (p := p) (c := c)
    (n := pool.curveNet (min amount pool.remaining)) (show 0 < 2 ^ 68 by decide)
  rw [Nat.zero_add] at hiff
  rw [hiff, CurveInRange, curveNet, Nat.succ_le_iff,
    Nat.div_lt_iff_lt_mul (Nat.sub_pos_of_lt h.base)]

variable {pool} in
/-- A pool-to-be with a 64-bit quote reserve was paid little. -/
theorem Reached.spent_lt {past : ℕ} (h : pool.Reached past) (hrates : p + c < 10000) :
    total 10000 [p, c] (pool.curveNet pool.remaining) < 2 ^ 68 := by
  have hfees : fees 10000 [p, c] (pool.curveNet pool.remaining)
      ≤ pool.curveNet pool.remaining + 1 := fees_pair_le hrates
  have hfee : pool.migrationFee < 2 ^ 64 := by
    unfold migrationFee
    split
    · exact UInt64.toNat_lt _
    · decide
  have hquote := h.quote
  rw [poolQuote, raised] at hquote
  rw [total]
  omega

theorem pastInRange_iff {past : ℕ} (h : pool.Reached past) (hrates : p + c < 10000) :
    pool.PastInRange p c past ↔ FeesFit p c (pool.legNet past)
      ∧ total 10000 [p, c] (pool.curveNet pool.remaining)
        + total 10000 [p, c] (pool.legNet past) ≤ U128.max := by
  rw [le_largestNet_iff (h.spent_lt hrates), PastInRange, legNet, swapIn,
    ceilDiv_le_iff_le_mul (Nat.sub_pos_of_lt h.base)]

/-- **A pool-to-be that fails a check is refused.** -/
theorem refuses_of_not_reached {amount curveTotal : ℕ} (hlt : pool.remaining < amount)
    (h : ¬ pool.Reached (amount - pool.remaining)) :
    Refuses (pool.pastCurveQuote amount p c (pool.curveNet pool.remaining) curveTotal) := by
  have hpast : (U128.sub amount pool.curve.realTokenReserves.toNat : Result ℕ)
      = .ok (amount - pool.remaining) := U128.sub_eq hlt.le
  unfold pastCurveQuote
  dsimp only
  by_cases hgraduates : pool.supportsGraduation = false
  · exact (refuses_failIf hgraduates).bind
  refine refuses_bind calm_failIf fun _ _ => ?_
  rw [hpast, ok_bind]
  refine refuses_bind calm_okOr fun base hbase => ?_
  simp only [okOr_eq_ok, Option.filter_eq_some_iff, U128.checkedSub_eq_some,
    decide_eq_true_eq] at hbase
  rw [pool.raised_eq, ok_bind]
  have hnone : (pool.raisedQuote pool.raised).filter (fun v => 0 < v ∧ v ≤ U64.max) = none := by
    rw [Option.filter_eq_none_iff]
    intro v hv hbounds
    rw [raisedQuote_eq_some] at hv
    rw [decide_eq_true_eq, hv.2] at hbounds
    refine h ⟨Bool.not_eq_false _ ▸ hgraduates, ?_, Nat.lt_of_sub_pos hbounds.1,
      Nat.lt_of_le_of_lt hbounds.2 (by decide)⟩
    rw [poolBase, remaining]
    exact hbase.1.2 ▸ hbase.2
  rw [hnone]
  exact Refuses.bind ⟨_, rfl⟩

/-- **The second leg is calm exactly when its price is in range.** -/
theorem calm_pastCurveQuote {amount : ℕ} (hlt : pool.remaining < amount)
    (hrates : p + c < 10000) :
    Calm (pool.pastCurveQuote amount p c (pool.curveNet pool.remaining)
        (total 10000 [p, c] (pool.curveNet pool.remaining)))
      ↔ (pool.Reached (amount - pool.remaining) →
        pool.PastInRange p c (amount - pool.remaining)) := by
  by_cases h : pool.Reached (amount - pool.remaining)
  · rw [pool.pastCurveQuote_eq hlt h, forall_prop_of_true h, pool.pastInRange_iff h hrates]
    dsimp only
    simp only [calm_bind_iff, U128.calm_add, U128.add_eq_ok, calm_v3Fees, v3Fees_eq_ok,
      calm_positiveU64]
    have htotal : total 10000 [p, c] (pool.legNet (amount - pool.remaining))
        = pool.legNet (amount - pool.remaining)
          + fees 10000 [p, c] (pool.legNet (amount - pool.remaining)) := rfl
    constructor
    · rintro ⟨hcost, h⟩
      obtain ⟨hfit, h⟩ := h _ ⟨hcost, rfl⟩
      have hsum := (h _ ⟨hfit, rfl⟩).1
      exact ⟨hfit, by omega⟩
    · rintro ⟨hfit, hsum⟩
      refine ⟨by omega, ?_⟩
      rintro _ ⟨-, rfl⟩
      refine ⟨hfit, ?_⟩
      rintro _ ⟨-, rfl⟩
      exact ⟨by omega, fun _ _ => trivial⟩
  · refine iff_of_true ?_ (fun h' => absurd h' h)
    obtain ⟨e, he⟩ := pool.refuses_of_not_reached (p := p) (c := c) hlt h
    rw [he]
    exact calm_fail

/-- **A quote for tokens is calm exactly when their price is in range.** -/
theorem calm_buyQuoteForTokens [Pda] (hrates : pool.Rates p c) :
    Calm (pool.buyQuoteForTokens t) ↔ pool.InRange p c t.toNat := by
  by_cases h : pool.Asked t.toNat
  · rw [pool.buyQuoteForTokens_eq hrates h]
    dsimp only
    simp only [calm_bind_iff, calm_v3Fees, v3Fees_eq_ok, U128.calm_add, U128.add_eq_ok]
    have hcurve := pool.curveInRange_iff (p := p) (c := c) h
    constructor
    · rintro ⟨hfit, hrest⟩
      obtain ⟨hsum, hrest⟩ := hrest _ ⟨hfit, rfl⟩
      refine ⟨fun _ => hcurve.mpr ⟨hfit, hsum⟩, fun _ hlt => ?_⟩
      have hpast := hrest _ ⟨hsum, rfl⟩
      rw [if_neg (Nat.not_le.mpr hlt), Nat.min_eq_right hlt.le] at hpast
      exact (pool.calm_pastCurveQuote hlt hrates.sum_lt).mp hpast
    · rintro ⟨hprice, hpast⟩
      obtain ⟨hfit, hsum⟩ := hcurve.mp (hprice h)
      refine ⟨hfit, ?_⟩
      rintro _ ⟨-, rfl⟩
      refine ⟨hsum, ?_⟩
      rintro _ ⟨-, rfl⟩
      split
      · exact calm_positiveU64
      · rename_i hlt
        have hlt := Nat.not_le.mp hlt
        rw [Nat.min_eq_right hlt.le]
        exact (pool.calm_pastCurveQuote hlt hrates.sum_lt).mpr (hpast h hlt)
  · refine iff_of_true ?_ ⟨fun h' => absurd h' h, fun h' => absurd h' h⟩
    obtain ⟨e, he⟩ := pool.refuses_of_not_asked hrates h
    rw [he]
    exact calm_fail

end PumpFunV3Pool

/-- **Where Pump V3 quotes stay in range.** The quote for a budget always
does; the quote for an amount of tokens does exactly when the curve and the
pool-to-be have enough left for the price and its fees to fit 128 bits. -/
theorem pumpV3_inRange_iff [Pda] (pool : PumpFunV3Pool) (p c : ℕ)
    (hrates : pool.rates = .ok (p, c)) (budget amount : UInt64) :
    (Calm (netQuote budget.toNat p c) ∧ Calm (pool.buyQuote budget)
        ∧ Calm (pool.buyQuoteForTokens amount))
      ↔ pool.InRange p c amount.toNat := by
  have hpool : pool.Rates p c := pool.rates_eq_ok.mp hrates
  have hnet : Calm (netQuote budget.toNat p c) := by
    rw [netQuote_eq budget.toNat_lt hpool.sum_lt]
    exact calm_ok
  rw [pool.calm_buyQuoteForTokens hpool]
  exact ⟨fun h => h.2.2, fun h => ⟨hnet, pool.calm_buyQuote hpool, h⟩⟩

/-- The quotes of the sample curve are in range, on it and past it. -/
theorem sampleV3_inRange :
    letI := samplePda
    Calm (sampleV3.buyQuote 20000) ∧ Calm (sampleV3.buyQuoteForTokens 144779) := by
  let := samplePda
  have hrange : sampleV3.InRange 95 5 144779 :=
    ⟨fun _ => show _ < _ by decide +kernel, fun _ _ _ => show _ ≤ _ by decide +kernel⟩
  exact ((pumpV3_inRange_iff sampleV3 95 5 (by decide +kernel) 20000 144779).mpr hrange).2

/-- A curve that has one token to spare. -/
def drainedV3 : PumpFunV3Pool :=
  { sampleV3 with
    curve :=
      { sampleCurve with
        virtualTokenReserves := 18446744073709551615
        virtualSolReserves := 18443091253100896262
        realTokenReserves := 18446744073709551614 } }

/-- All but one of its tokens are priced out of range. -/
theorem drainedV3_overflows :
    letI := samplePda
    ¬ ∀ (pool : PumpFunV3Pool) (p c : ℕ), pool.rates = .ok (p, c) → ∀ budget amount : UInt64,
      Calm (pool.buyQuote budget) ∧ Calm (pool.buyQuoteForTokens amount) := by
  let := samplePda
  intro h
  have hcalm := (h drainedV3 95 5 (by decide +kernel) 1 18446744073709551614).2
  have hpanic : drainedV3.buyQuoteForTokens 18446744073709551614 = .error .panic := by
    decide +kernel
  exact hcalm .panic hpanic rfl

/-! ## Sales -/

section Sales

variable {pool : PumpFunPool} {p c : ℕ} {amount out : UInt64}

/-- What a sale takes out of the curve, fees included. -/
def PumpFunPool.saleGross (pool : PumpFunPool) (amount : ℕ) : ℕ :=
  swapOut pool.virtualTokenReserves.toNat pool.virtualSolReserves.toNat amount

/-- **A sale brings its gross output less the two fees.** -/
theorem pumpfunSellSolOut_eq_ok (hrates : pool.Rates p c) :
    pumpfunSellSolOut pool amount = .ok out ↔ 0 < amount.toNat
      ∧ 0 < pool.virtualTokenReserves.toNat ∧ 0 < pool.virtualSolReserves.toNat
      ∧ out.toNat + fees 10000 [p, c] (pool.saleGross amount.toNat)
        = pool.saleGross amount.toNat := by
  have hgross (hvt : 0 < pool.virtualTokenReserves.toNat)
      (hvs : 0 < pool.virtualSolReserves.toNat) : pool.saleGross amount.toNat < 2 ^ 64 :=
    (swapOut_lt hvt hvs).trans (UInt64.toNat_lt _)
  unfold pumpfunSellSolOut
  rw [pumpfunRates_eq_ok.mpr hrates, ok_bind]
  dsimp only
  rw [show amount.toNat * pool.virtualSolReserves.toNat
    / (pool.virtualTokenReserves.toNat + amount.toNat) = pool.saleGross amount.toNat from rfl]
  simp only [bind_eq_ok, failIf_eq_ok, okOr_eq_ok, U128.checkedSub_eq_some, U64.tryOf_eq_some,
    not_or]
  constructor
  · rintro ⟨_, ⟨hne, hvt, hvs⟩, _, ⟨hle, rfl⟩, hout⟩
    have hvt := U64.pos_iff.mp hvt
    have hvs := U64.pos_iff.mp hvs
    rw [computeFeeBps_pair (hgross hvt hvs) hrates.sum_lt] at hle hout
    exact ⟨U64.pos_iff.mp hne, hvt, hvs, by omega⟩
  · rintro ⟨hne, hvt, hvs, hsum⟩
    refine ⟨(), ⟨U64.pos_iff.mpr hne, U64.pos_iff.mpr hvt, U64.pos_iff.mpr hvs⟩, _, ⟨?_, rfl⟩, ?_⟩
    · rw [computeFeeBps_pair (hgross hvt hvs) hrates.sum_lt]
      omega
    · rw [computeFeeBps_pair (hgross hvt hvs) hrates.sum_lt]
      omega

end Sales

/-- **When a quoted sale is payable.** What a sale takes out of a V3 curve,
the output and its two fees, is at most what the curve holds exactly when the
tokens sold are few enough for the virtual price. -/
theorem pumpV3_sale_payable_iff [Pda] (pool : PumpFunV3Pool) (amount out : UInt64)
    (h : pool.sellQuote amount = .ok out) :
    (∃ p c, pumpfunRates pool.curve = .ok (p, c)
        ∧ let gross := amount.toNat * pool.curve.virtualSolReserves.toNat
            / (pool.curve.virtualTokenReserves.toNat + amount.toNat)
          out.toNat + ((gross * p) ⌈/⌉ 10000 + (gross * c) ⌈/⌉ 10000)
            ≤ pool.realQuoteReserves.toNat)
      ↔ amount.toNat * pool.curve.virtualSolReserves.toNat
        < (pool.realQuoteReserves.toNat + 1)
          * (pool.curve.virtualTokenReserves.toNat + amount.toNat) := by
  obtain ⟨_, -, hsale⟩ := bind_eq_ok.mp h
  obtain ⟨⟨p, c⟩, hrates, -⟩ := bind_eq_ok.mp hsale
  obtain ⟨hpos, hvt, -, hsum⟩ := (pumpfunSellSolOut_eq_ok (pumpfunRates_eq_ok.mp hrates)).mp hsale
  rw [← Nat.div_lt_iff_lt_mul (by omega), Nat.lt_succ_iff]
  rw [fees_pair, PumpFunPool.saleGross, swapOut] at hsum
  constructor
  · rintro ⟨p', c', hrates', hle⟩
    obtain ⟨rfl, rfl⟩ := Prod.mk.inj (Except.ok.inj (hrates.symm.trans hrates'))
    exact hsum ▸ hle
  · intro hle
    refine ⟨p, c, hrates, ?_⟩
    dsimp only
    rw [hsum]
    exact hle

/-- A small sale to the sample curve is payable. -/
theorem sampleV3_sale_payable :
    letI := samplePda
    (1000 : UInt64).toNat * sampleCurve.virtualSolReserves.toNat
      < (sampleV3.realQuoteReserves.toNat + 1)
        * (sampleCurve.virtualTokenReserves.toNat + (1000 : UInt64).toNat) := by
  let := samplePda
  exact (pumpV3_sale_payable_iff sampleV3 1000 97 (by decide +kernel)).mp
    ⟨95, 5, by decide +kernel, by decide +kernel⟩

/-- A large sale is quoted for more than the curve holds. -/
theorem sampleV3_sale_not_payable :
    letI := samplePda
    ¬ ∀ (pool : PumpFunV3Pool) (amount out : UInt64), pool.sellQuote amount = .ok out →
      ∃ p c, pumpfunRates pool.curve = .ok (p, c)
        ∧ let gross := amount.toNat * pool.curve.virtualSolReserves.toNat
            / (pool.curve.virtualTokenReserves.toNat + amount.toNat)
          out.toNat + ((gross * p) ⌈/⌉ 10000 + (gross * c) ⌈/⌉ 10000)
            ≤ pool.realQuoteReserves.toNat := by
  let := samplePda
  intro h
  obtain ⟨p, c, hrates, hle⟩ := h sampleV3 1000000 49500 (by decide +kernel)
  rw [show pumpfunRates sampleV3.curve = .ok (95, 5) by decide +kernel] at hrates
  cases hrates
  exact absurd hle (by decide +kernel)

end Sdk
