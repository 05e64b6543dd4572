import SolTradeRouter.V3Quotes

/-!
# Pump V3 quotes are consistent

A buy is quoted in two directions, by formulas that were written apart: the
tokens for a budget, with a unit taken off the net input, and the cost of an
amount of tokens, with a unit added on the curve and a ceiling in the pool
the curve becomes. Whatever the budget buys costs at most the budget. The
argument is the same on either pool – the cost of the tokens is at most the
net input they were quoted for – and the fees are handled by the adjunction
between what an amount costs and what a budget leaves.
-/

namespace Sdk

open Outcome Rounding SplitFees

namespace PumpFunV3Pool

variable (pool : PumpFunV3Pool) {p c : ℕ} {t b b' : UInt64}

/-! ## What tokens cost -/

/-- What the checks of an exact-out quote leave: an amount, a curve with
tokens to spare, and no buy past it in Mayhem mode. -/
structure Asked (pool : PumpFunV3Pool) (amount : ℕ) : Prop where
  positive : 0 < amount
  mayhem : ¬ (pool.mayhemMode = true ∧ pool.remaining < amount)
  quote : 0 < pool.quote
  base : min amount pool.remaining < pool.base

/-- What the checks of the second leg leave: a pool-to-be with the tokens
asked of it, and a quote reserve of 64 bits. -/
structure Reached (pool : PumpFunV3Pool) (past : ℕ) : Prop where
  graduates : pool.supportsGraduation = true
  base : past < pool.poolBase
  fee : pool.migrationFee < pool.raised
  quote : pool.poolQuote < 2 ^ 64

/-- The net cost of the tokens past the curve. -/
def legNet (past : ℕ) : ℕ := swapIn pool.poolQuote pool.poolBase past

theorem curveNet_le_sq {t : ℕ} (ht : t ≤ pool.remaining) :
    pool.curveNet t ≤ (2 ^ 64 - 1) * (2 ^ 64 - 1) + 1 := by
  have hremaining : pool.remaining < 2 ^ 64 := UInt64.toNat_lt _
  have hquote : pool.quote < 2 ^ 64 := UInt64.toNat_lt _
  have hmul : t * pool.quote ≤ (2 ^ 64 - 1) * (2 ^ 64 - 1) :=
    Nat.mul_le_mul (by omega) (by omega)
  exact Nat.succ_le_succ ((Nat.div_le_self _ _).trans hmul)

/-- **The curve's cost is computed exactly, up to its fees.** -/
theorem buyQuoteForTokens_eq [Pda] (hrates : pool.Rates p c)
    (h : pool.Asked t.toNat) :
    pool.buyQuoteForTokens t = (do
      let net := pool.curveNet (min t.toNat pool.remaining)
      let fees ← v3Fees net p c
      let curveTotal ← U128.add net fees
      if t.toNat ≤ pool.remaining then positiveU64 curveTotal
      else pool.pastCurveQuote t.toNat p c net curveTotal) := by
  have hafter : (U128.checkedSub pool.base (min t.toNat pool.remaining)).filter (0 < ·)
      = some (pool.base - min t.toNat pool.remaining) := by
    rw [Option.filter_eq_some_iff, U128.checkedSub_eq_some, decide_eq_true_eq]
    exact ⟨⟨h.base.le, rfl⟩, Nat.sub_pos_of_lt h.base⟩
  have hmin : min t.toNat pool.remaining < 2 ^ 64 :=
    Nat.lt_of_le_of_lt (Nat.min_le_left _ _) t.toNat_lt
  have hproduct : (U128.mul (min t.toNat pool.remaining) pool.quote : Result ℕ)
      = .ok (min t.toNat pool.remaining * pool.quote) :=
    U128.mul_eq (U128.mul_le hmin (UInt64.toNat_lt _))
  have hnet : (U128.add (min t.toNat pool.remaining * pool.quote
        / (pool.base - min t.toNat pool.remaining)) 1 : Result ℕ)
      = .ok (pool.curveNet (min t.toNat pool.remaining)) := by
    have hle := pool.curveNet_le_sq (Nat.min_le_right t.toNat pool.remaining)
    exact U128.add_eq (hle.trans (by decide))
  have hne : pool.curve.virtualSolReserves ≠ 0 := U64.pos_iff.mpr h.quote
  unfold buyQuoteForTokens
  rw [pool.rates_eq_ok.mpr hrates, ok_bind]
  dsimp only
  rw [virtualTokens_eq, virtualSol_eq, realTokens_eq]
  simp only [bailIf, failIf, if_neg (U64.pos_iff.mpr h.positive), if_neg h.mayhem, if_neg hne,
    ok_bind, gt_iff_lt]
  rw [hafter, okOr_some, ok_bind, hproduct, ok_bind, hnet, ok_bind]

/-- **A request that fails a check is refused.** -/
theorem refuses_of_not_asked [Pda] (hrates : pool.Rates p c) (h : ¬ pool.Asked t.toNat) :
    Refuses (pool.buyQuoteForTokens t) := by
  have hafter (h1 : t ≠ 0)
      (h2 : ¬ (pool.mayhemMode = true ∧ pool.curve.realTokenReserves.toNat < t.toNat))
      (h3 : pool.curve.virtualSolReserves ≠ 0) :
      (U128.checkedSub pool.curve.virtualTokenReserves.toNat
        (min t.toNat pool.curve.realTokenReserves.toNat)).filter (0 < ·) = none := by
    rw [Option.filter_eq_none_iff]
    intro m hm hpos
    rw [U128.checkedSub_eq_some] at hm
    rw [decide_eq_true_eq, hm.2] at hpos
    exact h ⟨U64.pos_iff.mp h1, h2, U64.pos_iff.mp h3, Nat.lt_of_sub_pos hpos⟩
  unfold buyQuoteForTokens
  rw [pool.rates_eq_ok.mpr hrates, ok_bind]
  dsimp only
  by_cases h1 : t = 0
  · exact (refuses_failIf h1).bind
  refine refuses_bind calm_failIf fun _ _ => ?_
  by_cases h2 : pool.mayhemMode = true ∧ pool.curve.realTokenReserves.toNat < t.toNat
  · exact (refuses_failIf h2).bind
  refine refuses_bind calm_failIf fun _ _ => ?_
  by_cases h3 : pool.curve.virtualSolReserves = 0
  · exact (refuses_failIf h3).bind
  refine refuses_bind calm_failIf fun _ _ => ?_
  rw [hafter h1 h2 h3]
  exact Refuses.bind ⟨_, rfl⟩

/-- What the curve will have raised is computed exactly. -/
theorem raised_eq : (U128.add pool.realQuoteReserves.toNat (pool.curveNet pool.remaining)
    : Result ℕ) = .ok pool.raised := by
  have hmax : U128.max = 2 ^ 128 - 1 := rfl
  have hreal : pool.realQuoteReserves.toNat < 2 ^ 64 := UInt64.toNat_lt _
  have hnet := pool.curveNet_le_sq (Nat.le_refl pool.remaining)
  exact U128.add_eq (by omega)

/-- **The second leg's cost is computed exactly, up to its fees.** -/
theorem pastCurveQuote_eq {amount curveTotal : ℕ} (hlt : pool.remaining < amount)
    (h : pool.Reached (amount - pool.remaining)) :
    pool.pastCurveQuote amount p c (pool.curveNet pool.remaining) curveTotal = (do
      let net := pool.legNet (amount - pool.remaining)
      let cost ← U128.add curveTotal net
      let fees ← v3Fees net p c
      let total ← U128.add cost fees
      positiveU64 total) := by
  have hsupply : (U128.checkedSub pool.curveBaseTokenBalance.toNat pool.remaining).filter
      (amount - pool.remaining < ·) = some pool.poolBase := by
    have hbase := h.base
    rw [Option.filter_eq_some_iff, U128.checkedSub_eq_some, decide_eq_true_eq]
    rw [poolBase] at hbase ⊢
    exact ⟨⟨by omega, rfl⟩, hbase⟩
  have hpast : (U128.sub amount pool.remaining : Result ℕ) = .ok (amount - pool.remaining) :=
    U128.sub_eq hlt.le
  have hquote : (pool.raisedQuote pool.raised).filter (fun v => 0 < v ∧ v ≤ U64.max)
      = some pool.poolQuote := by
    rw [Option.filter_eq_some_iff, raisedQuote_eq_some, decide_eq_true_eq]
    exact ⟨⟨h.fee.le, rfl⟩, Nat.sub_pos_of_lt h.fee, Nat.le_sub_one_of_lt h.quote⟩
  have hpoolBase : pool.poolBase < 2 ^ 64 :=
    Nat.lt_of_le_of_lt (Nat.sub_le _ _) (UInt64.toNat_lt _)
  have hproduct : (U128.mul pool.poolQuote (amount - pool.remaining) : Result ℕ)
      = .ok (pool.poolQuote * (amount - pool.remaining)) :=
    U128.mul_eq (U128.mul_le h.quote (h.base.trans hpoolBase))
  have hrest : (U128.sub pool.poolBase (amount - pool.remaining) : Result ℕ)
      = .ok (pool.poolBase - (amount - pool.remaining)) := U128.sub_eq h.base.le
  unfold pastCurveQuote
  dsimp only
  rw [realTokens_eq]
  simp only [bailIf, failIf, if_neg (show ¬ pool.supportsGraduation = false by simp [h.graduates]),
    ok_bind]
  rw [hpast, ok_bind, hsupply, okOr_some, ok_bind, pool.raised_eq, ok_bind, hquote, okOr_some,
    ok_bind, hproduct, ok_bind, hrest, ok_bind]
  rfl

/-! ## A budget covers what it buys -/

/-- **Tokens of the curve cost what their input leaves.** The unit that is
added to their price is the unit that was taken off the input. -/
theorem buyQuoteForTokens_of_curve [Pda] {b : ℕ} (hrates : pool.Rates p c)
    (hasked : pool.Asked t.toNat) (hle : t.toNat ≤ pool.remaining)
    (hcost : total 10000 [p, c] (pool.curveNet t.toNat) ≤ b) (hb : b < 2 ^ 64) :
    ∃ cost, pool.buyQuoteForTokens t = .ok cost ∧ cost.toNat ≤ b := by
  have hnet : pool.curveNet t.toNat ≤ 2 ^ 64 := (le_of_total_le hcost).trans hb.le
  refine ⟨UInt64.ofNat (total 10000 [p, c] (pool.curveNet t.toNat)), ?_, ?_⟩
  · rw [pool.buyQuoteForTokens_eq hrates hasked, Nat.min_eq_left hle]
    dsimp only
    rw [v3Fees_eq hnet hrates.sum_lt, ok_bind, add_fees_eq hcost hb, ok_bind, if_pos hle,
      positiveU64_eq_ok, U64.toNat_ofNat (hcost.trans_lt hb)]
    exact ⟨rfl, Nat.lt_of_lt_of_le (Nat.succ_pos _) (Nat.le_add_right _ _)⟩
  · rw [U64.toNat_ofNat (hcost.trans_lt hb)]
    exact hcost

/-- **Tokens past the curve cost what the curve leaves of the budget.** -/
theorem buyQuoteForTokens_of_past [Pda] {b : ℕ} (hrates : pool.Rates p c)
    (hasked : pool.Asked t.toNat) (hlt : pool.remaining < t.toNat)
    (hreached : pool.Reached (t.toNat - pool.remaining))
    (hcost : total 10000 [p, c] (pool.curveNet pool.remaining) ≤ b)
    (hleg : total 10000 [p, c] (pool.legNet (t.toNat - pool.remaining)) ≤ pool.left p c b)
    (hb : b < 2 ^ 64) :
    ∃ cost, pool.buyQuoteForTokens t = .ok cost ∧ cost.toNat ≤ b := by
  have hmax : U128.max = 2 ^ 128 - 1 := rfl
  have hnet : pool.curveNet pool.remaining ≤ 2 ^ 64 := (le_of_total_le hcost).trans hb.le
  have hsum : total 10000 [p, c] (pool.curveNet pool.remaining)
      + total 10000 [p, c] (pool.legNet (t.toNat - pool.remaining)) ≤ b := by
    rw [left] at hleg
    omega
  have hlegNet := le_of_total_le hleg
  have hleft : pool.left p c b ≤ b := Nat.sub_le _ _
  have hadd : (U128.add (total 10000 [p, c] (pool.curveNet pool.remaining))
      (pool.legNet (t.toNat - pool.remaining)) : Result ℕ)
      = .ok (total 10000 [p, c] (pool.curveNet pool.remaining)
        + pool.legNet (t.toNat - pool.remaining)) := U128.add_eq (by omega)
  have htotal : (U128.add (total 10000 [p, c] (pool.curveNet pool.remaining)
        + pool.legNet (t.toNat - pool.remaining))
      (fees 10000 [p, c] (pool.legNet (t.toNat - pool.remaining))) : Result ℕ)
      = .ok (total 10000 [p, c] (pool.curveNet pool.remaining)
        + total 10000 [p, c] (pool.legNet (t.toNat - pool.remaining))) := by
    rw [U128.add_eq_ok]
    exact ⟨by rw [Nat.add_assoc]; exact hsum.trans (by omega), by rw [Nat.add_assoc]; rfl⟩
  refine ⟨UInt64.ofNat (total 10000 [p, c] (pool.curveNet pool.remaining)
    + total 10000 [p, c] (pool.legNet (t.toNat - pool.remaining))), ?_, ?_⟩
  · rw [pool.buyQuoteForTokens_eq hrates hasked, Nat.min_eq_right hlt.le]
    dsimp only
    rw [v3Fees_eq hnet hrates.sum_lt, ok_bind, add_fees_eq hcost hb, ok_bind,
      if_neg (Nat.not_le.mpr hlt), pool.pastCurveQuote_eq hlt hreached]
    dsimp only
    rw [hadd, ok_bind, v3Fees_eq (by omega) hrates.sum_lt, ok_bind, htotal, ok_bind,
      positiveU64_eq_ok, U64.toNat_ofNat (hsum.trans_lt hb)]
    have hpos : 0 < total 10000 [p, c] (pool.curveNet pool.remaining) :=
      Nat.lt_of_lt_of_le (Nat.succ_pos _) (Nat.le_add_right _ _)
    exact ⟨rfl, Nat.add_pos_left hpos _⟩
  · rw [U64.toNat_ofNat (hsum.trans_lt hb)]
    exact hsum

variable {pool} in
/-- **An exact output fits the budget it was quoted for.** -/
theorem BuyQuoted.cost [Pda] (hrates : pool.Rates p c) (hbase : 0 < pool.base)
    (hq : 0 < pool.quote) (hin : 0 < curveIn p c b.toNat) (hpos : 0 < t.toNat)
    (h : BuyQuoted pool p c b.toNat t.toNat) :
    ∃ cost, pool.buyQuoteForTokens t = .ok cost ∧ cost.toNat ≤ b.toNat := by
  have hb : b.toNat < 2 ^ 64 := b.toNat_lt
  have hasked (hmayhem : pool.mayhemMode = false ∨ t.toNat ≤ pool.remaining)
      (hlt : min t.toNat pool.remaining < pool.base) : pool.Asked t.toNat := by
    refine ⟨hpos, ?_, hq, hlt⟩
    rintro ⟨htrue, hpast⟩
    rcases hmayhem with hfalse | hle
    · rw [htrue] at hfalse
      cases hfalse
    · exact Nat.not_lt.mpr hle hpast
  have hout : swapOut pool.quote pool.base (curveIn p c b.toNat) < pool.base := swapOut_lt hq hbase
  generalize htokens : t.toNat = tokens at h
  cases h with
  | onCurve hle =>
    have hnet : pool.curveNet t.toNat ≤ corrected 10000 [p, c] b.toNat := by
      have hnet := pool.curveNet_le htokens.le hq
      rw [curveIn] at hin hnet
      omega
    rw [← htokens] at hle hout
    exact pool.buyQuoteForTokens_of_curve hrates
      (hasked (.inr hle) ((Nat.min_le_left _ _).trans_lt hout)) hle
      ((le_corrected_iff (by decide) (by simp) (by simp)).mpr hnet) hb
  | soldOut hlt hgraduates hmayhem hleft =>
    have hcost := pool.cost_le hq hlt
    rw [← htokens] at hcost
    exact pool.buyQuoteForTokens_of_curve hrates
      (hasked (.inl hmayhem) ((Nat.min_le_right _ _).trans_lt (hlt.trans hout))) htokens.le
      hcost hb
  | past hlt hgraduates hmayhem hleft hsupply hraised hquote =>
    have hcost := pool.cost_le hq hlt
    have hguard := hasked (.inl hmayhem) ((Nat.min_le_right _ _).trans_lt (hlt.trans hout))
    have hpoolQuote : 0 < pool.poolQuote := Nat.sub_pos_of_lt hquote
    have hlegOut : swapOut pool.poolQuote pool.poolBase (curveIn p c (pool.left p c b.toNat))
        < pool.poolBase := swapOut_lt hpoolQuote (Nat.sub_pos_of_lt hsupply)
    have hpast : t.toNat - pool.remaining
        = swapOut pool.poolQuote pool.poolBase (curveIn p c (pool.left p c b.toNat)) := by
      rw [htokens, Nat.add_sub_cancel_left]
    rcases Nat.eq_or_lt_of_le (show pool.remaining ≤ t.toNat by omega) with heq | hlt'
    · -- The second leg bought nothing.
      rw [heq] at hcost
      exact pool.buyQuoteForTokens_of_curve hrates hguard heq.ge hcost hb
    · rw [← hpast] at hlegOut
      have hreached : pool.Reached (t.toNat - pool.remaining) :=
        ⟨hgraduates, hlegOut, hquote, (Nat.sub_le _ _).trans_lt hraised⟩
      have hleg : pool.legNet (t.toNat - pool.remaining)
          ≤ corrected 10000 [p, c] (pool.left p c b.toNat) := by
        have hle := (le_swapOut_iff hpoolQuote hlegOut).mp hpast.le
        exact hle.trans (Nat.sub_le _ _)
      exact pool.buyQuoteForTokens_of_past hrates hguard hlt' hreached hcost
        ((le_corrected_iff (by decide) (by simp) (by simp)).mpr hleg) hb

/-! ## A larger budget -/

theorem curveIn_mono (p c : ℕ) : Monotone (curveIn p c) :=
  fun _ _ h => Nat.sub_le_sub_right (corrected_mono (by decide) (by simp) (by simp) h) 1

theorem left_mono (p c : ℕ) : Monotone (pool.left p c) := fun _ _ h => Nat.sub_le_sub_right h _

variable {pool} in
/-- **A larger budget buys no less.** -/
theorem BuyQuoted.mono {b b' t t' : ℕ} (hbase : 0 < pool.base) (hq : 0 < pool.quote)
    (hle : b ≤ b') (h : BuyQuoted pool p c b t) (h' : BuyQuoted pool p c b' t') : t ≤ t' := by
  have hout : swapOut pool.quote pool.base (curveIn p c b)
      ≤ swapOut pool.quote pool.base (curveIn p c b') :=
    swapOut_mono hq hbase (curveIn_mono p c hle)
  have hleft : pool.left p c b ≤ pool.left p c b' := pool.left_mono p c hle
  have hguess : guess 10000 [p, c] (pool.left p c b) ≤ guess 10000 [p, c] (pool.left p c b') :=
    Nat.div_le_div_right (Nat.mul_le_mul_right _ hleft)
  cases h with
  | onCurve hcurve =>
    cases h' with
    | onCurve => exact hout
    | soldOut => exact hcurve
    | past => exact hcurve.trans (Nat.le_add_right _ _)
  | soldOut hlt =>
    cases h' with
    | onCurve hcurve => exact hlt.le.trans hout
    | soldOut => exact Nat.le_refl _
    | past => exact Nat.le_add_right _ _
  | past hlt _ _ hfew hsupply _ hquote =>
    cases h' with
    | onCurve hcurve => omega
    | soldOut _ _ _ hnone => omega
    | past =>
      exact Nat.add_le_add_left (swapOut_mono (Nat.sub_pos_of_lt hquote)
        (Nat.sub_pos_of_lt hsupply) (curveIn_mono p c hleft)) _

/-- A quoted budget was quoted with the rates of a valid pool. -/
theorem exists_rates [Pda] (h : pool.buyQuote b = .ok t) : ∃ p c, pool.Rates p c := by
  obtain ⟨⟨p, c⟩, hrates, -⟩ := bind_eq_ok.mp h
  exact ⟨p, c, pool.rates_eq_ok.mp hrates⟩

theorem cost_of_buyQuote [Pda] (h : pool.buyQuote b = .ok t) :
    ∃ cost, pool.buyQuoteForTokens t = .ok cost ∧ cost ≤ b := by
  obtain ⟨p, c, hrates⟩ := pool.exists_rates h
  obtain ⟨hbase, hq, hin, hquoted, hpos⟩ := (pool.buyQuote_eq_ok hrates).mp h
  obtain ⟨cost, hcost, hle⟩ := hquoted.cost hrates hbase hq hin hpos
  exact ⟨cost, hcost, UInt64.le_iff_toNat_le.mpr hle⟩

theorem buyQuote_mono [Pda] {t' : UInt64} (hle : b ≤ b') (h : pool.buyQuote b = .ok t)
    (h' : pool.buyQuote b' = .ok t') : t ≤ t' := by
  obtain ⟨p, c, hrates⟩ := pool.exists_rates h
  obtain ⟨hbase, hq, -, hquoted, -⟩ := (pool.buyQuote_eq_ok hrates).mp h
  obtain ⟨-, -, -, hquoted', -⟩ := (pool.buyQuote_eq_ok hrates).mp h'
  exact UInt64.le_iff_toNat_le.mpr
    (hquoted.mono hbase hq (UInt64.le_iff_toNat_le.mp hle) hquoted')

/-- **The curve's cost at graduation is within the budget**: what the code
would take for a budget overdrawn never happens. -/
theorem checkedSub_cost [Pda] {net : ℕ} (hrates : pool.rates = .ok (p, c))
    (hnet : netQuote b.toNat p c = .ok net) (hq : 0 < pool.quote)
    (hlt : pool.remaining < (net - 1) * pool.base / (pool.quote + (net - 1))) :
    ∃ fees left, v3Fees (pool.curveNet pool.remaining) p c = .ok fees
      ∧ U128.checkedSub b.toNat (pool.curveNet pool.remaining + fees) = some left := by
  have hsum := (pool.rates_eq_ok.mp hrates).sum_lt
  rw [netQuote_eq b.toNat_lt hsum, Except.ok.injEq] at hnet
  rw [← hnet] at hlt
  have hcost := pool.cost_le hq hlt
  have hsmall : pool.curveNet pool.remaining ≤ 2 ^ 64 :=
    (le_of_total_le hcost).trans b.toNat_lt.le
  exact ⟨_, _, v3Fees_eq hsmall hsum, if_pos hcost⟩

end PumpFunV3Pool

/-- **Pump V3 quotes are consistent across graduation.** What a budget buys
costs at most the budget, whichever side of graduation it ends on; where the
curve runs out, the budget covers its cost; and a larger budget that is
quoted buys no less. -/
theorem pumpV3_quotes_consistent [Pda] (pool : PumpFunV3Pool) :
    (∀ b t, pool.buyQuote b = .ok t →
        ∃ cost, pool.buyQuoteForTokens t = .ok cost ∧ cost ≤ b)
      ∧ (∀ (b : UInt64) p c net, pool.rates = .ok (p, c) → netQuote b.toNat p c = .ok net →
        0 < pool.quote →
        pool.remaining < (net - 1) * pool.base / (pool.quote + (net - 1)) →
        ∃ fees left, v3Fees (pool.curveNet pool.remaining) p c = .ok fees
          ∧ U128.checkedSub b.toNat (pool.curveNet pool.remaining + fees) = some left)
      ∧ ∀ b b' t t', b ≤ b' → pool.buyQuote b = .ok t → pool.buyQuote b' = .ok t' → t ≤ t' :=
  ⟨fun _ _ => pool.cost_of_buyQuote, fun _ _ _ _ => pool.checkedSub_cost,
    fun _ _ _ _ => pool.buyQuote_mono⟩

/-- A V3 curve with a tenth of its tokens left. -/
def sampleV3 : PumpFunV3Pool where
  curve := sampleCurve
  complete := false
  supportsGraduation := true
  realQuoteReserves := 20000
  curveBaseTokenBalance := 300000
  poolMigrationFee := 1000
  mayhemMode := false

/-- A budget on the curve and one past it. -/
theorem sampleV3_consistent :
    letI := samplePda
    (∃ cost, sampleV3.buyQuoteForTokens 90073 = .ok cost ∧ cost ≤ 10000)
      ∧ (∃ cost, sampleV3.buyQuoteForTokens 144779 = .ok cost ∧ cost ≤ 20000)
      ∧ (∃ fees left, v3Fees (sampleV3.curveNet sampleV3.remaining) 95 5 = .ok fees
        ∧ U128.checkedSub 20000 (sampleV3.curveNet sampleV3.remaining + fees) = some left)
      ∧ (90073 : UInt64) ≤ 144779 := by
  let := samplePda
  obtain ⟨hcost, hleft, hmono⟩ := pumpV3_quotes_consistent sampleV3
  have hcurve : sampleV3.buyQuote 10000 = .ok 90073 := by decide +kernel
  have hpast : sampleV3.buyQuote 20000 = .ok 144779 := by decide +kernel
  exact ⟨hcost 10000 90073 hcurve, hcost 20000 144779 hpast,
    hleft 20000 95 5 19801 (by decide +kernel) (by decide +kernel) (by decide +kernel)
      (by decide +kernel),
    hmono 10000 20000 90073 144779 (by decide) hcurve hpast⟩

end Sdk
