import SolTradeRouter.V3Consistency

/-!
# PumpFun quotes

The quote of the earlier curves computes its fees with a routine that splits
the amount at ten thousand, and takes off what the net input costs above the
budget. The routine is plain division rounded up, and what is left is the
largest amount the budget pays for. A V3 curve is quoted by another routine;
while the curve does not run out, the two quotes are the same.
-/

namespace Sdk

open Outcome Rounding SplitFees

/-! ## Fees -/

/-- Ten thousands and the rest of an amount, charged by themselves. -/
theorem ceilDiv_split (n r : ℕ) : n / 10000 * r
    + (if n % 10000 * r % 10000 = 0 then n % 10000 * r / 10000 else n % 10000 * r / 10000 + 1)
      = (n * r) ⌈/⌉ 10000 := by
  have hsplit : n * r = 10000 * (n / 10000 * r) + n % 10000 * r := by
    rw [← Nat.mul_assoc, ← Nat.add_mul, Nat.div_add_mod]
  rw [Nat.ceilDiv_eq_add_pred_div, hsplit]
  split <;> omega

/-- A fee on 64 bits fits 128, whatever its rate. -/
theorem mul_ceilDiv_le_max {n r : ℕ} (hn : n < 2 ^ 64) (hr : r < 2 ^ 64) :
    (n * r) ⌈/⌉ 10000 ≤ U128.max := by
  have hmul : n * r ≤ U128.max := U128.mul_le hn hr
  have hmax : U128.max = 2 ^ 128 - 1 := rfl
  rw [Nat.ceilDiv_eq_add_pred_div]
  omega

/-- **The split routine rounds the whole product up.** -/
theorem computeFeeBps_eq {n r : ℕ} (hn : n < 2 ^ 64) (hr : r < 2 ^ 64) :
    computeFeeBps n r = (n * r) ⌈/⌉ 10000 := by
  have hwhole : n / 10000 * r ≤ U128.max := U128.mul_le (by omega) hr
  have hrem : n % 10000 * r ≤ U128.max := U128.mul_le (by omega) hr
  unfold computeFeeBps
  rw [U128.checkedMul, if_pos hwhole, U128.checkedMul, if_pos hrem]
  dsimp only
  rw [U128.satAdd_of_le, ceilDiv_split]
  rw [ceilDiv_split]
  exact mul_ceilDiv_le_max hn hr

section Fees

variable {p c n b : ℕ}

/-- The two buckets are the fees of two rates, each rounded up. -/
theorem computeFeeBps_pair (hn : n < 2 ^ 64) (hrates : p + c < 10000) :
    computeFeeBps n p + computeFeeBps n c = fees 10000 [p, c] n := by
  rw [computeFeeBps_eq hn (by omega), computeFeeBps_eq hn (by omega), fees_pair]

/-- The first guess is the inverse of both fees together. -/
theorem guess_pair : b * 10000 / (10000 + p + c) = guess 10000 [p, c] b := by
  rw [guess, divisor_pair]

/-- Which is at most the budget. -/
theorem guess_pair_le : guess 10000 [p, c] b ≤ b := by
  rw [← guess_pair]
  exact Nat.div_le_of_le_mul (by rw [Nat.mul_comm]; exact Nat.mul_le_mul_right b (by omega))

end Fees

/-! ## The net input -/

/-- The net input of a budget: the total fees inverted, and the excess of the
split fees corrected. -/
def pumpfunNet (protocol creator quoteIn : ℕ) : Option ℕ :=
  let net := quoteIn * 10000 / (10000 + protocol + creator)
  let total := net + computeFeeBps net protocol + computeFeeBps net creator
  if total > quoteIn then U128.checkedSub net (total - quoteIn) else some net

/-- The quote, with its net input by name. -/
theorem pumpfunBuyTokenOut_eq (pool : PumpFunPool) (quoteIn : UInt64) :
    pumpfunBuyTokenOut pool quoteIn = (do
      let (protocol, creator) ← pumpfunRates pool
      bailIf (quoteIn = 0 ∨ pool.virtualTokenReserves = 0 ∨ pool.virtualSolReserves = 0)
        "invalid PumpFun input or reserves"
      let net ← okOr (pumpfunNet protocol creator quoteIn.toNat) "PumpFun input cannot cover fees"
      let curveIn ← okOr (U128.checkedSub net 1) "PumpFun input too small after fees"
      let tokens := curveIn * pool.virtualTokenReserves.toNat
        / (pool.virtualSolReserves.toNat + curveIn)
      let tokens := UInt64.ofNat (min tokens pool.realTokenReserves.toNat)
      bailIf (tokens = 0) "PumpFun quote output rounds to zero"
      pure tokens) := rfl

/-- The excess is at most one. -/
theorem pumpfunExcess_le {p c b : ℕ} (hb : b < 2 ^ 64) (hrates : p + c < 10000) :
    guess 10000 [p, c] b + computeFeeBps (guess 10000 [p, c] b) p
      + computeFeeBps (guess 10000 [p, c] b) c ≤ b + 1 := by
  have hexcess : excess 10000 [p, c] b < 2 := excess_lt (by decide) (by simp)
  rw [Nat.add_assoc, computeFeeBps_pair (guess_pair_le.trans_lt hb) hrates]
  rw [excess, total] at hexcess
  omega

/-- **The net input is the corrected amount**, and the correction never
underflows. -/
theorem pumpfunNet_eq {p c b : ℕ} (hb : b < 2 ^ 64) (hrates : p + c < 10000) :
    pumpfunNet p c b = some (corrected 10000 [p, c] b) := by
  have htotal : guess 10000 [p, c] b + computeFeeBps (guess 10000 [p, c] b) p
      + computeFeeBps (guess 10000 [p, c] b) c = total 10000 [p, c] (guess 10000 [p, c] b) := by
    rw [Nat.add_assoc, computeFeeBps_pair (guess_pair_le.trans_lt hb) hrates, total]
  unfold pumpfunNet
  dsimp only
  rw [guess_pair, htotal]
  split
  · rw [U128.checkedSub_eq_some]
    exact ⟨excess_le_guess (by decide) (by simp) (by simp), rfl⟩
  · rename_i hle
    rw [corrected, excess, Nat.sub_eq_zero_of_le (Nat.not_lt.mp hle), Nat.sub_zero]

/-! ## The quotes of the earlier curves -/

/-- The rates of a curve whose fees are known. -/
structure PumpFunPool.Rates (pool : PumpFunPool) (p c : ℕ) : Prop where
  known : pool.feeRatesKnown = true
  protocol : p = pool.protocolFeeBps.toNat
  creator : c = if pool.hasCreator then pool.creatorFeeBps.toNat else 0
  sum_lt : p + c < 10000

/-- The rates are read if they are current and leave something. -/
theorem pumpfunRates_eq_ok {pool : PumpFunPool} {p c : ℕ} :
    pumpfunRates pool = .ok (p, c) ↔ pool.Rates p c := by
  unfold pumpfunRates
  simp only [bind_eq_ok, failIf_eq_ok, pure_eq_ok, Prod.mk.injEq, Bool.not_eq_false]
  constructor
  · rintro ⟨_, hknown, _, hlt, rfl, rfl⟩
    exact ⟨hknown, rfl, rfl, Nat.not_le.mp hlt⟩
  · rintro ⟨hknown, rfl, rfl, hlt⟩
    exact ⟨(), hknown, (), Nat.not_le.mpr hlt, rfl, rfl⟩

/-- Reading them does not panic. -/
theorem calm_pumpfunRates {pool : PumpFunPool} : Calm (pumpfunRates pool) := by
  unfold pumpfunRates
  exact calm_bind calm_failIf fun _ _ => calm_bind calm_failIf fun _ _ => calm_ok

/-- The tokens of the curve for a net input. -/
def PumpFunPool.tokensFor (pool : PumpFunPool) (input : ℕ) : ℕ :=
  min (swapOut pool.virtualSolReserves.toNat pool.virtualTokenReserves.toNat input)
    pool.realTokenReserves.toNat

/-- What a curve pays fits 64 bits. -/
theorem PumpFunPool.tokensFor_lt (pool : PumpFunPool) (input : ℕ) :
    pool.tokensFor input < 2 ^ 64 :=
  (Nat.min_le_right _ _).trans_lt (UInt64.toNat_lt _)

/-- **What a budget buys of an earlier curve.** -/
theorem pumpfunBuyTokenOut_eq_ok {pool : PumpFunPool} {p c : ℕ} {b t : UInt64}
    (hrates : pool.Rates p c) :
    pumpfunBuyTokenOut pool b = .ok t ↔ 0 < pool.virtualTokenReserves.toNat
      ∧ 0 < pool.virtualSolReserves.toNat
      ∧ t.toNat = pool.tokensFor (PumpFunV3Pool.curveIn p c b.toNat) ∧ 0 < t.toNat := by
  rw [pumpfunBuyTokenOut_eq, pumpfunRates_eq_ok.mpr hrates, ok_bind]
  dsimp only
  rw [pumpfunNet_eq b.toNat_lt hrates.sum_lt, okOr_some]
  have hin : corrected 10000 [p, c] b.toNat - 1 = PumpFunV3Pool.curveIn p c b.toNat := rfl
  simp only [bind_eq_ok, failIf_eq_ok, okOr_eq_ok, U128.checkedSub_eq_some, pure_eq_ok,
    Except.ok.injEq, not_or]
  constructor
  · rintro ⟨_, ⟨-, hvt, hvs⟩, _, rfl, _, ⟨-, rfl⟩, _, hne, rfl⟩
    rw [hin] at hne ⊢
    refine ⟨U64.pos_iff.mp hvt, U64.pos_iff.mp hvs, ?_, U64.pos_iff.mp hne⟩
    exact U64.toNat_ofNat (pool.tokensFor_lt _)
  · rintro ⟨hvt, hvs, ht, hpos⟩
    have hcurve : 0 < PumpFunV3Pool.curveIn p c b.toNat := by
      rw [Nat.pos_iff_ne_zero]
      intro hzero
      rw [ht, hzero, PumpFunPool.tokensFor, swapOut, Nat.zero_mul, Nat.zero_div,
        Nat.zero_min] at hpos
      exact Nat.lt_irrefl _ hpos
    have hle : corrected 10000 [p, c] b.toNat ≤ b.toNat :=
      le_of_total_le (total_corrected_le (by decide))
    rw [PumpFunV3Pool.curveIn] at hcurve
    have htokens : UInt64.ofNat (pool.tokensFor (PumpFunV3Pool.curveIn p c b.toNat)) = t := by
      rw [← ht, UInt64.ofNat_toNat]
    refine ⟨(), ⟨U64.pos_iff.mpr (by omega), U64.pos_iff.mpr hvt, U64.pos_iff.mpr hvs⟩, _, rfl, _,
      ⟨by omega, rfl⟩, (), ?_, htokens⟩
    rw [hin]
    show ¬ UInt64.ofNat (pool.tokensFor (PumpFunV3Pool.curveIn p c b.toNat)) = 0
    rw [htokens]
    exact U64.pos_iff.mpr hpos

/-- A quoted budget was quoted with known rates. -/
theorem PumpFunPool.exists_rates {pool : PumpFunPool} {b t : UInt64}
    (h : pumpfunBuyTokenOut pool b = .ok t) : ∃ p c, pool.Rates p c := by
  obtain ⟨⟨p, c⟩, hrates, -⟩ := bind_eq_ok.mp h
  exact ⟨p, c, pumpfunRates_eq_ok.mp hrates⟩

/-- A buy takes no more than the curve has left. -/
theorem pumpfunBuyTokenOut_le {pool : PumpFunPool} {b t : UInt64}
    (h : pumpfunBuyTokenOut pool b = .ok t) : t ≤ pool.realTokenReserves := by
  obtain ⟨p, c, hrates⟩ := PumpFunPool.exists_rates h
  obtain ⟨-, -, ht, -⟩ := (pumpfunBuyTokenOut_eq_ok hrates).mp h
  rw [UInt64.le_iff_toNat_le, ht]
  exact Nat.min_le_right _ _

/-- And brings no less for more. -/
theorem pumpfunBuyTokenOut_mono {pool : PumpFunPool} {b b' t t' : UInt64} (hle : b ≤ b')
    (h : pumpfunBuyTokenOut pool b = .ok t) (h' : pumpfunBuyTokenOut pool b' = .ok t') :
    t ≤ t' := by
  obtain ⟨p, c, hrates⟩ := PumpFunPool.exists_rates h
  obtain ⟨hvt, hvs, ht, -⟩ := (pumpfunBuyTokenOut_eq_ok hrates).mp h
  obtain ⟨-, -, ht', -⟩ := (pumpfunBuyTokenOut_eq_ok hrates).mp h'
  rw [UInt64.le_iff_toNat_le, ht, ht']
  have hin := PumpFunV3Pool.curveIn_mono p c (UInt64.le_iff_toNat_le.mp hle)
  exact min_le_min_right _ (swapOut_mono hvs hvt hin)

/-! ## Operators in range -/

/-- `pumpfunRates`, where an operator out of range panics. -/
def pumpfunRatesStrict (pool : PumpFunPool) : Result (ℕ × ℕ) := do
  bailIf (pool.feeRatesKnown = false)
    "PumpFun current fee rates are missing; supply current rates or explicit min_out"
  let protocol := pool.protocolFeeBps.toNat
  let creator := if pool.hasCreator then pool.creatorFeeBps.toNat else 0
  let sum ← U128.add protocol creator
  bailIf (sum ≥ 10000) "invalid PumpFun fee rates"
  pure (protocol, creator)

/-- `pumpfunBuyTokenOut`, where an operator out of range panics. -/
def pumpfunBuyTokenOutStrict (pool : PumpFunPool) (quoteIn : UInt64) : Result UInt64 := do
  let (protocol, creator) ← pumpfunRatesStrict pool
  bailIf (quoteIn = 0 ∨ pool.virtualTokenReserves = 0 ∨ pool.virtualSolReserves = 0)
    "invalid PumpFun input or reserves"
  let scaled ← U128.mul quoteIn.toNat 10000
  let divisor ← v3Divisor protocol creator
  let net := scaled / divisor
  let part ← U128.add net (computeFeeBps net protocol)
  let total ← U128.add part (computeFeeBps net creator)
  let net ← okOr (if total > quoteIn.toNat then U128.checkedSub net (total - quoteIn.toNat)
    else some net) "PumpFun input cannot cover fees"
  let curveIn ← okOr (U128.checkedSub net 1) "PumpFun input too small after fees"
  let product ← U128.mul curveIn pool.virtualTokenReserves.toNat
  let reserve ← U128.add pool.virtualSolReserves.toNat curveIn
  let tokens := UInt64.ofNat (min (product / reserve) pool.realTokenReserves.toNat)
  bailIf (tokens = 0) "PumpFun quote output rounds to zero"
  pure tokens

/-- The rates are read by checked arithmetic only. -/
theorem pumpfunRatesStrict_eq (pool : PumpFunPool) :
    pumpfunRatesStrict pool = pumpfunRates pool := by
  have hsum : pool.protocolFeeBps.toNat + (if pool.hasCreator then pool.creatorFeeBps.toNat else 0)
      ≤ U128.max := by
    refine U128.add_le (UInt64.toNat_lt _) ?_
    split
    · exact UInt64.toNat_lt _
    · decide
  unfold pumpfunRatesStrict pumpfunRates
  dsimp only
  rw [U128.add_eq hsum]
  rfl

/-- **No operator of the quote leaves the range.** -/
theorem pumpfunBuyTokenOutStrict_eq (pool : PumpFunPool) (b : UInt64) :
    pumpfunBuyTokenOutStrict pool b = pumpfunBuyTokenOut pool b := by
  have hmax : U128.max = 2 ^ 128 - 1 := rfl
  have hb : b.toNat < 2 ^ 64 := b.toNat_lt
  unfold pumpfunBuyTokenOutStrict
  rw [pumpfunRatesStrict_eq, pumpfunBuyTokenOut_eq]
  refine bind_congr_of_ok fun ⟨p, c⟩ hrates => ?_
  have hsum := (pumpfunRates_eq_ok.mp hrates).sum_lt
  have hexcess := pumpfunExcess_le hb hsum
  dsimp only
  refine bind_congr fun _ => ?_
  rw [U128.mul_eq (by omega), ok_bind, v3Divisor_eq hsum, ok_bind, guess_pair,
    U128.add_eq (by omega), ok_bind, U128.add_eq (by omega), ok_bind]
  rw [show (if guess 10000 [p, c] b.toNat + computeFeeBps (guess 10000 [p, c] b.toNat) p
      + computeFeeBps (guess 10000 [p, c] b.toNat) c > b.toNat
    then U128.checkedSub (guess 10000 [p, c] b.toNat)
      (guess 10000 [p, c] b.toNat + computeFeeBps (guess 10000 [p, c] b.toNat) p
        + computeFeeBps (guess 10000 [p, c] b.toNat) c - b.toNat)
    else some (guess 10000 [p, c] b.toNat)) = pumpfunNet p c b.toNat by
      rw [pumpfunNet, guess_pair]]
  rw [pumpfunNet_eq hb hsum, okOr_some, ok_bind, ok_bind]
  refine bind_congr_of_ok fun input hinput => ?_
  have hin : input < 2 ^ 64 := by
    have hle : corrected 10000 [p, c] b.toNat ≤ b.toNat :=
      le_of_total_le (total_corrected_le (by decide))
    rw [okOr_eq_ok, U128.checkedSub_eq_some] at hinput
    omega
  rw [U128.mul_eq (U128.mul_le hin (UInt64.toNat_lt _)), ok_bind,
    U128.add_eq (U128.add_le (UInt64.toNat_lt _) hin), ok_bind]

/-- **A buy is quoted without a panic.** -/
theorem calm_pumpfunBuyTokenOut (pool : PumpFunPool) (b : UInt64) :
    Calm (pumpfunBuyTokenOut pool b) := by
  unfold pumpfunBuyTokenOut
  refine calm_bind calm_pumpfunRates fun _ _ => calm_bind calm_failIf fun _ _ => ?_
  refine calm_bind calm_okOr fun _ _ => calm_bind calm_okOr fun _ _ => ?_
  exact calm_bind calm_failIf fun _ _ => calm_ok

/-! ## The two quotes of a curve -/

namespace PumpFunV3Pool

/-- The quote of a budget crosses what is left on the curve. -/
def Crosses [Pda] (pool : PumpFunV3Pool) (budget : UInt64) : Prop :=
  ∃ p c net, pool.rates = .ok (p, c) ∧ netQuote budget.toNat p c = .ok net
    ∧ pool.curve.realTokenReserves.toNat < (net - 1) * pool.curve.virtualTokenReserves.toNat
      / (pool.curve.virtualSolReserves.toNat + (net - 1))

variable {pool : PumpFunV3Pool} {b t : UInt64} {p c : ℕ}

/-- A valid pool has the rates of its curve. -/
theorem rates_iff [Pda] (hvalid : pool.validate = .ok ()) :
    pool.Rates p c ↔ pool.curve.Rates p c := by
  have hknown : pool.curve.feeRatesKnown = true := by
    obtain ⟨_, -, h⟩ := bind_eq_ok.mp hvalid
    obtain ⟨_, -, h⟩ := bind_eq_ok.mp h
    obtain ⟨_, hknown, -⟩ := bind_eq_ok.mp h
    exact Bool.not_eq_false _ ▸ failIf_eq_ok.mp hknown
  exact ⟨fun h => ⟨hknown, h.protocol, h.creator, h.sum_lt⟩,
    fun h => ⟨hvalid, h.protocol, h.creator, h.sum_lt⟩⟩

/-- A buy that does not reach graduation is not capped. -/
theorem tokensFor_of_not_crosses [Pda] (hrates : pool.Rates p c) (h : ¬ pool.Crosses b) :
    swapOut pool.quote pool.base (curveIn p c b.toNat) ≤ pool.remaining :=
  Nat.not_lt.mp fun hlt => h ⟨p, c, _, pool.rates_eq_ok.mpr hrates,
    netQuote_eq b.toNat_lt hrates.sum_lt, hlt⟩

/-- **Below graduation, a V3 curve is quoted like the earlier ones.** -/
theorem buyQuote_eq_ok_iff [Pda] (hvalid : pool.validate = .ok ()) (hcross : ¬ pool.Crosses b) :
    pool.buyQuote b = .ok t ↔ pumpfunBuyTokenOut pool.curve b = .ok t := by
  constructor
  · intro h
    obtain ⟨p, c, hrates⟩ := pool.exists_rates h
    obtain ⟨hbase, hq, -, hquoted, hpos⟩ := (pool.buyQuote_eq_ok hrates).mp h
    have hle := tokensFor_of_not_crosses hrates hcross
    refine (pumpfunBuyTokenOut_eq_ok ((rates_iff hvalid).mp hrates)).mpr ⟨hbase, hq, ?_, hpos⟩
    generalize t.toNat = tokens at hquoted
    cases hquoted with
    | onCurve => exact (Nat.min_eq_left hle).symm
    | soldOut hlt => exact absurd hle (Nat.not_le.mpr hlt)
    | past hlt => exact absurd hle (Nat.not_le.mpr hlt)
  · intro h
    obtain ⟨p, c, hcurve⟩ := PumpFunPool.exists_rates h
    have hrates : pool.Rates p c := (rates_iff hvalid).mpr hcurve
    obtain ⟨hvt, hvs, ht, hpos⟩ := (pumpfunBuyTokenOut_eq_ok hcurve).mp h
    have hle := tokensFor_of_not_crosses hrates hcross
    have htokens : t.toNat = swapOut pool.quote pool.base (curveIn p c b.toNat) :=
      ht.trans (Nat.min_eq_left hle)
    refine (pool.buyQuote_eq_ok hrates).mpr ⟨hvt, hvs, ?_, ?_, hpos⟩
    · rw [Nat.pos_iff_ne_zero]
      intro hzero
      rw [htokens, hzero, swapOut, Nat.zero_mul, Nat.zero_div] at hpos
      exact Nat.lt_irrefl _ hpos
    · rw [htokens]
      exact .onCurve hle

end PumpFunV3Pool

/-- **The net input law of the PumpFun quotes.** The net input is the largest
amount that the budget pays for with its two fees; so the quote is monotone,
within the curve's real tokens, and in range at every operator. While a valid
V3 curve does not run out, it is quoted the same. -/
theorem pumpfun_net_input_law [Pda] :
    (∀ (p c : ℕ) (b : UInt64), p + c < 10000 → ∃ n, pumpfunNet p c b.toNat = some n
        ∧ IsGreatest {n | n + (n * p) ⌈/⌉ 10000 + (n * c) ⌈/⌉ 10000 ≤ b.toNat} n
        ∧ (let net := b.toNat * 10000 / (10000 + p + c)
          net + computeFeeBps net p + computeFeeBps net c ≤ b.toNat + 1
            ∧ v3Fees net p c = .ok (computeFeeBps net p + computeFeeBps net c)))
      ∧ (∀ pool b b' t t', b ≤ b' → pumpfunBuyTokenOut pool b = .ok t →
        pumpfunBuyTokenOut pool b' = .ok t' → t ≤ t')
      ∧ (∀ pool b t, pumpfunBuyTokenOut pool b = .ok t → t ≤ pool.realTokenReserves)
      ∧ (∀ pool b, pumpfunBuyTokenOutStrict pool b = pumpfunBuyTokenOut pool b
        ∧ Calm (pumpfunBuyTokenOut pool b))
      ∧ ∀ pool : PumpFunV3Pool, pool.validate = .ok () → ∀ b, ¬ pool.Crosses b →
        ∀ t, pool.buyQuote b = .ok t ↔ pumpfunBuyTokenOut pool.curve b = .ok t := by
  refine ⟨fun p c b hrates => ?_, fun _ _ _ _ _ => pumpfunBuyTokenOut_mono,
    fun _ _ _ => pumpfunBuyTokenOut_le,
    fun pool b => ⟨pumpfunBuyTokenOutStrict_eq pool b, calm_pumpfunBuyTokenOut pool b⟩,
    fun _ hvalid _ hcross _ => PumpFunV3Pool.buyQuote_eq_ok_iff hvalid hcross⟩
  have hguess : guess 10000 [p, c] b.toNat < 2 ^ 64 := guess_pair_le.trans_lt b.toNat_lt
  refine ⟨_, pumpfunNet_eq b.toNat_lt hrates, ?_, ?_⟩
  · have hset : {n | n + (n * p) ⌈/⌉ 10000 + (n * c) ⌈/⌉ 10000 ≤ b.toNat}
        = {n | total 10000 [p, c] n ≤ b.toNat} := by
      ext n
      rw [Set.mem_ofPred_eq, Set.mem_ofPred_eq, total, fees_pair, Nat.add_assoc]
    rw [hset]
    exact isGreatest_corrected (by decide) (by simp) (by simp)
  · dsimp only
    rw [guess_pair]
    refine ⟨pumpfunExcess_le b.toNat_lt hrates, ?_⟩
    rw [computeFeeBps_pair hguess hrates]
    exact v3Fees_eq hguess.le hrates

/-- A budget of ten thousand stays on the curve. -/
theorem sampleV3_not_crosses : letI := samplePda; ¬ sampleV3.Crosses 10000 := by
  let := samplePda
  rintro ⟨p, c, net, hrates, hnet, hlt⟩
  rw [show sampleV3.rates = .ok (95, 5) by decide +kernel] at hrates
  cases hrates
  rw [show (netQuote (10000 : UInt64).toNat 95 5) = .ok 9900 by decide +kernel] at hnet
  cases hnet
  exact absurd hlt (by decide)

theorem sampleCurve_net_input_law :
    letI := samplePda
    (∃ n, pumpfunNet 95 5 10000 = some n
        ∧ IsGreatest {n | n + (n * 95) ⌈/⌉ 10000 + (n * 5) ⌈/⌉ 10000 ≤ 10000} n)
      ∧ (90073 : UInt64) ≤ 100000
      ∧ (90073 : UInt64) ≤ sampleCurve.realTokenReserves
      ∧ sampleV3.buyQuote 10000 = .ok 90073 := by
  let := samplePda
  obtain ⟨hnet, hmono, hle, -, hsame⟩ := pumpfun_net_input_law
  have hquote : pumpfunBuyTokenOut sampleCurve 10000 = .ok 90073 := by decide +kernel
  have hmore : pumpfunBuyTokenOut sampleCurve 20000 = .ok 100000 := by decide +kernel
  obtain ⟨n, hn, hgreatest, -⟩ := hnet 95 5 10000 (by decide)
  exact ⟨⟨n, hn, hgreatest⟩, hmono _ 10000 20000 _ _ (by decide) hquote hmore,
    hle _ _ _ hquote,
    (hsame sampleV3 (by decide +kernel) 10000 sampleV3_not_crosses 90073).mpr hquote⟩

/-- A completed curve is quoted by the earlier formula only. -/
theorem completed_quotes_differ :
    letI := samplePda
    ¬ ∀ pool : PumpFunV3Pool, ∀ b, ¬ pool.Crosses b →
      ∀ t, pool.buyQuote b = .ok t ↔ pumpfunBuyTokenOut pool.curve b = .ok t := by
  let := samplePda
  intro h
  have hcross : ¬ { sampleV3 with complete := true }.Crosses 10000 := by
    rintro ⟨p, c, net, hrates, -⟩
    have hvalid := (PumpFunV3Pool.rates_eq_ok _).mp hrates
    exact absurd hvalid.valid (by decide +kernel)
  have hquote := (h _ 10000 hcross 90073).mpr (by decide +kernel)
  exact absurd hquote (by decide +kernel)

end Sdk
