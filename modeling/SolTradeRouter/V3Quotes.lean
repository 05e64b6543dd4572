import SolTradeRouter.PumpFunV3
import SolTradeRouter.Rounding
import SolTradeRouter.SplitFees

/-!
# What a budget buys of a Pump V3 curve

The quote for a budget is a closed formula in each of three cases: the
budget is spent on the curve, or buys all that is left on it, or buys from
the pool that the curve becomes as well. The fees of a net amount are
computed exactly when their products are in range, and they always are for
a net amount of a 64-bit budget: no operator of this quote leaves its range.
-/

namespace Sdk

open Outcome Rounding SplitFees

/-! ## Fees in range -/

section Fees

variable {p c n b : ℕ}

/-- Two fees, each rounded up. -/
theorem fees_pair : fees 10000 [p, c] n = (n * p) ⌈/⌉ 10000 + (n * c) ⌈/⌉ 10000 := by
  simp [fees]

/-- And the divisor that inverts both together. -/
theorem divisor_pair : 10000 + [p, c].sum = 10000 + p + c := by
  simp [Nat.add_assoc]

/-- The products of an amount with the two rates are in range. -/
structure FeesFit (p c n : ℕ) : Prop where
  protocol : n * p ≤ U128.max
  creator : n * c ≤ U128.max

/-- A tenthousandth leaves room for another one. -/
theorem ceilDiv_add_le {x y : ℕ} (hx : x ≤ U128.max) (hy : y ≤ U128.max) :
    x ⌈/⌉ 10000 + y ⌈/⌉ 10000 ≤ U128.max := by
  have hmax : U128.max = 2 ^ 128 - 1 := rfl
  rw [Nat.ceilDiv_eq_add_pred_div, Nat.ceilDiv_eq_add_pred_div]
  omega

/-- **The fees are computed exactly when their products are in range.** -/
theorem v3Fees_eq_ok {f : ℕ} :
    v3Fees n p c = .ok f ↔ FeesFit p c n ∧ f = fees 10000 [p, c] n := by
  unfold v3Fees
  simp only [bind_eq_ok, U128.mul_eq_ok, U128.add_eq_ok, fees_pair]
  constructor
  · rintro ⟨_, ⟨hp, rfl⟩, _, ⟨hc, rfl⟩, -, rfl⟩
    exact ⟨⟨hp, hc⟩, rfl⟩
  · rintro ⟨⟨hp, hc⟩, rfl⟩
    exact ⟨_, ⟨hp, rfl⟩, _, ⟨hc, rfl⟩, ceilDiv_add_le hp hc, rfl⟩

/-- The fees do not panic exactly where they and their sum fit. -/
theorem calm_v3Fees : Calm (v3Fees n p c) ↔ FeesFit p c n := by
  unfold v3Fees
  simp only [calm_bind_iff, U128.calm_mul, U128.mul_eq_ok, U128.calm_add]
  constructor
  · rintro ⟨hp, h⟩
    exact ⟨hp, (h _ ⟨hp, rfl⟩).1⟩
  · rintro ⟨hp, hc⟩
    refine ⟨hp, ?_⟩
    rintro _ ⟨-, rfl⟩
    refine ⟨hc, ?_⟩
    rintro _ ⟨-, rfl⟩
    exact ceilDiv_add_le hp hc

/-- The fees of an amount of little more than 64 bits are in range. -/
theorem feesFit_of_le (hn : n ≤ 2 ^ 64) (hrates : p + c < 10000) : FeesFit p c n := by
  have hmax : U128.max = 2 ^ 128 - 1 := rfl
  have hp : n * p ≤ 2 ^ 64 * 10000 := Nat.mul_le_mul hn (by omega)
  have hc : n * c ≤ 2 ^ 64 * 10000 := Nat.mul_le_mul hn (by omega)
  exact ⟨by omega, by omega⟩

/-- On 64 bits they fit, and are the fees. -/
theorem v3Fees_eq (hn : n ≤ 2 ^ 64) (hrates : p + c < 10000) :
    v3Fees n p c = .ok (fees 10000 [p, c] n) :=
  v3Fees_eq_ok.mpr ⟨feesFit_of_le hn hrates, rfl⟩

/-- Fees of less than the whole are at most the amount, but for two units. -/
theorem fees_pair_le (hrates : p + c < 10000) : fees 10000 [p, c] n ≤ n + 1 := by
  have hfees : 10000 * fees 10000 [p, c] n ≤ n * [p, c].sum + (10000 - 1) * [p, c].length :=
    mul_fees_le (by decide) n
  have hsum : n * [p, c].sum ≤ n * 9999 := Nat.mul_le_mul_left n (by simp; omega)
  have hlen : [p, c].length = 2 := rfl
  omega

/-- The divisor fits for any rates that leave something. -/
theorem v3Divisor_eq (hrates : p + c < 10000) : v3Divisor p c = .ok (10000 + p + c) := by
  have hmax : U128.max = 2 ^ 128 - 1 := rfl
  unfold v3Divisor
  rw [U128.add_eq (by omega), ok_bind, U128.add_eq (by omega)]

/-- **The net of a budget is the largest amount it pays for.** -/
theorem netQuote_eq (hb : b < 2 ^ 64) (hrates : p + c < 10000) :
    netQuote b p c = .ok (corrected 10000 [p, c] b) := by
  have hmax : U128.max = 2 ^ 128 - 1 := rfl
  have hguess : b * 10000 / (10000 + p + c) = guess 10000 [p, c] b := by
    rw [guess, divisor_pair]
  have hle : guess 10000 [p, c] b ≤ b := by
    rw [← hguess]
    exact Nat.div_le_of_le_mul (by rw [Nat.mul_comm]; exact Nat.mul_le_mul_right b (by omega))
  have hfees : fees 10000 [p, c] (guess 10000 [p, c] b) ≤ guess 10000 [p, c] b + 1 :=
    fees_pair_le hrates
  unfold netQuote
  rw [U128.mul_eq (by omega), ok_bind, v3Divisor_eq hrates, ok_bind]
  dsimp only
  rw [hguess, v3Fees_eq (by omega) hrates, ok_bind, U128.add_eq (by omega), ok_bind, okOr_eq_ok,
    U128.checkedSub_eq_some]
  exact ⟨excess_le_guess (by decide) (by simp) (by simp), rfl⟩

end Fees

/-- A value is positive and fits in 64 bits. -/
theorem positiveU64_eq_ok {v : ℕ} {t : UInt64} :
    positiveU64 v = .ok t ↔ t.toNat = v ∧ 0 < v := by
  unfold positiveU64
  simp only [bind_eq_ok, okOr_eq_ok, U64.tryOf_eq_some, failIf_eq_ok, pure_eq_ok]
  constructor
  · rintro ⟨_, rfl, _, hne, rfl⟩
    exact ⟨rfl, U64.pos_iff.mp hne⟩
  · rintro ⟨rfl, hpos⟩
    exact ⟨_, rfl, (), U64.pos_iff.mpr hpos, rfl⟩

/-- An output is refused, not truncated. -/
theorem calm_positiveU64 {v : ℕ} : Calm (positiveU64 v) := by
  unfold positiveU64
  exact calm_bind calm_okOr fun _ _ => calm_bind calm_failIf fun _ _ => calm_ok

namespace PumpFunV3Pool

variable (pool : PumpFunV3Pool) {p c : ℕ} {t b : UInt64}

/-! ## Prices -/

/-- The rates of a pool that passes its checks. -/
structure Rates [Pda] (pool : PumpFunV3Pool) (p c : ℕ) : Prop where
  valid : pool.validate = .ok ()
  protocol : p = pool.curve.protocolFeeBps.toNat
  creator : c = pool.creatorBps
  sum_lt : p + c < 10000

/-- The rates are read if they are current and leave something. -/
theorem rates_eq_ok [Pda] : pool.rates = .ok (p, c) ↔ pool.Rates p c := by
  have hc : pool.creatorBps < 2 ^ 64 := by
    unfold creatorBps
    split
    · exact UInt64.toNat_lt _
    · decide
  have hsum : pool.curve.protocolFeeBps.toNat + pool.creatorBps ≤ U128.max :=
    U128.add_le (UInt64.toNat_lt _) hc
  unfold rates
  dsimp only
  rw [U128.add_eq hsum]
  simp only [bind_eq_ok, failIf_eq_ok, pure_eq_ok, Prod.mk.injEq, Except.ok.injEq]
  constructor
  · rintro ⟨_, hvalid, _, rfl, _, hlt, rfl, rfl⟩
    exact ⟨hvalid, rfl, rfl, Nat.not_le.mp hlt⟩
  · rintro ⟨hvalid, rfl, rfl, hlt⟩
    exact ⟨(), hvalid, _, rfl, (), Nat.not_le.mpr hlt, rfl, rfl⟩

/-- The token reserve the curve prices with. -/
def base : ℕ := pool.curve.virtualTokenReserves.toNat

/-- And the quote reserve. -/
def quote : ℕ := pool.curve.virtualSolReserves.toNat

/-- The tokens left on the curve. -/
def remaining : ℕ := pool.curve.realTokenReserves.toNat

/-- The curve's own name for it. -/
theorem virtualTokens_eq : pool.curve.virtualTokenReserves.toNat = pool.base := rfl

/-- And for the other. -/
theorem virtualSol_eq : pool.curve.virtualSolReserves.toNat = pool.quote := rfl

/-- What remains is what the curve really has. -/
theorem realTokens_eq : pool.curve.realTokenReserves.toNat = pool.remaining := rfl

/-- The net cost of tokens on the curve: floor and one. -/
def curveNet (t : ℕ) : ℕ := t * pool.quote / (pool.base - t) + 1

/-- What a budget leaves once the curve is sold out. -/
def left (p c b : ℕ) : ℕ := b - total 10000 [p, c] (pool.curveNet pool.remaining)

/-- The tokens of the pool-to-be. -/
def poolBase : ℕ := pool.curveBaseTokenBalance.toNat - pool.remaining

/-- The migration fee of a native quote. -/
def migrationFee : ℕ :=
  if pool.curve.quoteMint = wsolMint then pool.poolMigrationFee.toNat else 0

/-- What is raised when the curve is sold out. -/
def raised : ℕ := pool.realQuoteReserves.toNat + pool.curveNet pool.remaining

/-- The quote of the pool-to-be. -/
def poolQuote : ℕ := pool.raised - pool.migrationFee

/-- What was raised goes to the pool, less the fee for moving it. -/
theorem raisedQuote_eq_some {raised v : ℕ} :
    pool.raisedQuote raised = some v ↔ pool.migrationFee ≤ raised
      ∧ v = raised - pool.migrationFee := by
  unfold raisedQuote migrationFee
  split
  · exact U128.checkedSub_eq_some
  · simp [eq_comm]

/-- **The price of the curve is covered**: tokens cost at most the input
whose output they are, and a unit more. -/
theorem curveNet_le {t input : ℕ} (hle : t ≤ swapOut pool.quote pool.base input)
    (hq : 0 < pool.quote) : pool.curveNet t ≤ input + 1 := by
  have hmul : t * (pool.quote + input) ≤ input * pool.base :=
    (Nat.le_div_iff_mul_le (by omega)).mp hle
  have hcost : t * pool.quote ≤ (pool.base - t) * input := by
    rw [Nat.mul_comm _ input, Nat.mul_sub, Nat.mul_comm input t]
    rw [Nat.mul_add] at hmul
    omega
  exact Nat.succ_le_succ (Nat.div_le_of_le_mul hcost)

/-- The unit is covered as well when there is output to spare. -/
theorem curveNet_le_of_lt {t input : ℕ} (hlt : t < swapOut pool.quote pool.base input)
    (hq : 0 < pool.quote) : pool.curveNet t ≤ input := by
  have hmul : (t + 1) * (pool.quote + input) ≤ input * pool.base :=
    (Nat.le_div_iff_mul_le (by omega)).mp hlt
  have hcost : t * pool.quote < (pool.base - t) * input := by
    rw [Nat.mul_comm _ input, Nat.mul_sub, Nat.mul_comm input t]
    rw [Nat.add_mul, Nat.one_mul, Nat.mul_add] at hmul
    omega
  exact Nat.div_lt_of_lt_mul hcost

/-! ## What a budget buys -/

/-- The net input a budget has for the curve. -/
def curveIn (p c b : ℕ) : ℕ := corrected 10000 [p, c] b - 1

/-- **The three ways a budget is quoted**: on the curve, for all that is left
on it, and past it. -/
inductive BuyQuoted (pool : PumpFunV3Pool) (p c b : ℕ) : ℕ → Prop
  | onCurve (hle : swapOut pool.quote pool.base (curveIn p c b) ≤ pool.remaining) :
    BuyQuoted pool p c b (swapOut pool.quote pool.base (curveIn p c b))
  | soldOut (hlt : pool.remaining < swapOut pool.quote pool.base (curveIn p c b))
    (hgraduates : pool.supportsGraduation = true) (hmayhem : pool.mayhemMode = false)
    (hleft : guess 10000 [p, c] (pool.left p c b) < 2) :
    BuyQuoted pool p c b pool.remaining
  | past (hlt : pool.remaining < swapOut pool.quote pool.base (curveIn p c b))
    (hgraduates : pool.supportsGraduation = true) (hmayhem : pool.mayhemMode = false)
    (hleft : 2 ≤ guess 10000 [p, c] (pool.left p c b))
    (hbase : pool.remaining < pool.curveBaseTokenBalance.toNat)
    (hraised : pool.raised < 2 ^ 64) (hquote : pool.migrationFee < pool.raised) :
    BuyQuoted pool p c b (pool.remaining
      + swapOut pool.poolQuote pool.poolBase (curveIn p c (pool.left p c b)))

/-- Where the curve's tokens run out, the whole cost of the rest is within
the budget. -/
theorem cost_le {p c b : ℕ} (hq : 0 < pool.quote)
    (hlt : pool.remaining < swapOut pool.quote pool.base (curveIn p c b)) :
    total 10000 [p, c] (pool.curveNet pool.remaining) ≤ b := by
  rw [le_corrected_iff (by decide) (by simp) (by simp)]
  exact (pool.curveNet_le_of_lt hlt hq).trans (Nat.sub_le _ _)

/-- The amount with its fees is in range where it costs a 64-bit budget. -/
theorem add_fees_eq {p c n b : ℕ} (hle : total 10000 [p, c] n ≤ b) (hb : b < 2 ^ 64) :
    (U128.add n (fees 10000 [p, c] n) : Result ℕ) = .ok (total 10000 [p, c] n) := by
  have hmax : U128.max = 2 ^ 128 - 1 := rfl
  exact U128.add_eq (show total 10000 [p, c] n ≤ U128.max by omega)

variable {pool} in
/-- **The pool-to-be is quoted like the curve.** -/
theorem poolToBeQuote_eq_ok {p c left : ℕ} (hrates : p + c < 10000) (hleft : left < 2 ^ 64) :
    pool.poolToBeQuote p c (pool.curveNet pool.remaining) left = .ok t ↔
      pool.remaining < pool.curveBaseTokenBalance.toNat ∧ pool.raised < 2 ^ 64
      ∧ pool.migrationFee < pool.raised ∧ 1 ≤ corrected 10000 [p, c] left
      ∧ t.toNat = pool.remaining + swapOut pool.poolQuote pool.poolBase (curveIn p c left)
      ∧ 0 < t.toNat := by
  have hmax : U128.max = 2 ^ 128 - 1 := rfl
  have hnet : corrected 10000 [p, c] left ≤ left :=
    le_of_total_le (total_corrected_le (by decide))
  have hbase : pool.curveBaseTokenBalance.toNat < 2 ^ 64 := UInt64.toNat_lt _
  have hremaining : pool.remaining < 2 ^ 64 := UInt64.toNat_lt _
  unfold poolToBeQuote
  dsimp only
  rw [netQuote_eq hleft hrates]
  simp only [bind_eq_ok, okOr_eq_ok, Option.filter_eq_some_iff,
    U128.checkedAdd_eq_some, U128.checkedSub_eq_some, raisedQuote_eq_some, Except.ok.injEq,
    U128.mul_eq_ok, U128.add_eq_ok, positiveU64_eq_ok, decide_eq_true_eq]
  constructor
  · rintro ⟨_, ⟨⟨-, rfl⟩, hsupply⟩, _, ⟨⟨-, rfl⟩, hraised⟩, _, ⟨⟨hfee, rfl⟩, hquote⟩, _, rfl, _,
      ⟨hone, rfl⟩, _, ⟨-, rfl⟩, _, ⟨-, rfl⟩, _, ⟨-, rfl⟩, ht, hpos⟩
    exact ⟨Nat.lt_of_sub_pos hsupply, Nat.lt_of_le_of_lt hraised (by decide),
      Nat.lt_of_sub_pos hquote, hone, ht, by rw [ht]; exact hpos⟩
  · rintro ⟨hsupply, hraised, hquote, hone, ht, hpos⟩
    have hlegIn : curveIn p c left < 2 ^ 64 := by
      rw [curveIn]
      omega
    have hpoolBase : pool.poolBase < 2 ^ 64 := Nat.lt_of_le_of_lt (Nat.sub_le _ _) hbase
    have hpoolQuote : pool.poolQuote < 2 ^ 64 := Nat.lt_of_le_of_lt (Nat.sub_le _ _) hraised
    have hswap : swapOut pool.poolQuote pool.poolBase (curveIn p c left) < pool.poolBase :=
      swapOut_lt (Nat.sub_pos_of_lt hquote) (Nat.sub_pos_of_lt hsupply)
    refine ⟨_, ⟨⟨hsupply.le, rfl⟩, Nat.sub_pos_of_lt hsupply⟩, _,
      ⟨⟨?_, rfl⟩, Nat.le_sub_one_of_lt hraised⟩, _,
      ⟨⟨hquote.le, rfl⟩, Nat.sub_pos_of_lt hquote⟩, _, rfl, _, ⟨hone, rfl⟩, _,
      ⟨U128.mul_le hlegIn hpoolBase, rfl⟩, _, ⟨U128.add_le hpoolQuote hlegIn, rfl⟩, _,
      ⟨?_, rfl⟩, ht, by rw [ht] at hpos; exact hpos⟩
    · exact (show pool.raised ≤ U128.max by omega)
    · exact U128.add_le hremaining (hswap.trans hpoolBase)

/-- **Past the curve, every operator is in range**: the quote is the one on
natural numbers. -/
theorem graduationQuote_eq {p c b : ℕ} (hrates : p + c < 10000) (hb : b < 2 ^ 64)
    (hq : 0 < pool.quote)
    (hlt : pool.remaining < swapOut pool.quote pool.base (curveIn p c b)) :
    pool.graduationQuote b p c = (do
      bailIf (pool.supportsGraduation = false) "Pump V3 graduation is disabled for this pool"
      bailIf (pool.mayhemMode = true)
        "Pump V3 Mayhem graduation requires partial fill, unsupported by this exact-budget route"
      if guess 10000 [p, c] (pool.left p c b) < 2 then positiveU64 pool.remaining
      else pool.poolToBeQuote p c (pool.curveNet pool.remaining) (pool.left p c b)) := by
  have hmax : U128.max = 2 ^ 128 - 1 := rfl
  have hcost := pool.cost_le hq hlt
  have hnet := le_of_total_le hcost
  have hbase : 0 < pool.base := by
    rw [Nat.pos_iff_ne_zero]
    intro hzero
    rw [hzero, swapOut, Nat.mul_zero, Nat.zero_div] at hlt
    exact Nat.not_lt_zero _ hlt
  have hafter : (U128.checkedSub pool.base pool.remaining).filter (0 < ·)
      = some (pool.base - pool.remaining) := by
    have hless : pool.remaining < pool.base := hlt.trans (swapOut_lt hq hbase)
    rw [Option.filter_eq_some_iff, U128.checkedSub_eq_some, decide_eq_true_eq]
    exact ⟨⟨hless.le, rfl⟩, Nat.sub_pos_of_lt hless⟩
  have hproduct : (U128.mul pool.remaining pool.quote : Result ℕ)
      = .ok (pool.remaining * pool.quote) := U128.mul_toNat _ _
  have hone : (U128.add (pool.remaining * pool.quote / (pool.base - pool.remaining)) 1
      : Result ℕ) = .ok (pool.curveNet pool.remaining) :=
    U128.add_eq (show pool.curveNet pool.remaining ≤ U128.max by omega)
  have hfees : v3Fees (pool.curveNet pool.remaining) p c
      = .ok (fees 10000 [p, c] (pool.curveNet pool.remaining)) := v3Fees_eq (by omega) hrates
  have hsub : (U128.checkedSub b (total 10000 [p, c] (pool.curveNet pool.remaining))).getD 0
      = pool.left p c b := by
    rw [U128.checkedSub, if_pos hcost]
    rfl
  have hscaled : (U128.mul (pool.left p c b) 10000 : Result ℕ)
      = .ok (pool.left p c b * 10000) := by
    refine U128.mul_eq ?_
    have hle : pool.left p c b ≤ b := Nat.sub_le _ _
    omega
  have hguess : pool.left p c b * 10000 / (10000 + p + c)
      = guess 10000 [p, c] (pool.left p c b) := by
    rw [guess, divisor_pair]
  unfold graduationQuote
  dsimp only
  refine bind_congr fun _ => bind_congr fun _ => ?_
  rw [virtualTokens_eq, virtualSol_eq, realTokens_eq, hafter, okOr_some, ok_bind, hproduct,
    ok_bind, hone, ok_bind, hfees, ok_bind, add_fees_eq hcost hb, ok_bind, hsub, hscaled,
    ok_bind, v3Divisor_eq hrates, ok_bind, hguess]

omit pool in
/-- One less than a number, if that is positive. -/
theorem okOr_pred_bind {α : Type} {n : ℕ} {text : String} {f : ℕ → Result α} :
    (okOr ((U128.checkedSub n 1).filter (0 < ·)) text >>= f)
      = (bailIf (n - 1 = 0) text >>= fun _ => f (n - 1)) := by
  by_cases hn : n - 1 = 0
  · have hnone : (U128.checkedSub n 1).filter (0 < ·) = none := by
      rw [Option.filter_eq_none_iff]
      intro m hm
      rw [U128.checkedSub_eq_some] at hm
      simp [hm.2, hn]
    rw [hnone, bailIf, failIf, if_pos hn]
    rfl
  · have hsome : (U128.checkedSub n 1).filter (0 < ·) = some (n - 1) := by
      rw [Option.filter_eq_some_iff, U128.checkedSub_eq_some, decide_eq_true_eq]
      omega
    rw [hsome, okOr_some, bailIf, failIf, if_neg hn]
    rfl

/-- **On the curve, every operator is in range.** -/
theorem buyQuote_eq [Pda] {p c : ℕ} (hrates : pool.Rates p c) :
    pool.buyQuote b = (do
      bailIf (pool.base = 0 ∨ pool.quote = 0) "empty Pump V3 reserves"
      bailIf (curveIn p c b.toNat = 0) "Pump V3 budget too small"
      let tokens := swapOut pool.quote pool.base (curveIn p c b.toNat)
      if tokens ≤ pool.remaining then positiveU64 tokens
      else pool.graduationQuote b.toNat p c) := by
  have hb : b.toNat < 2 ^ 64 := b.toNat_lt
  have hin : curveIn p c b.toNat < 2 ^ 64 := by
    have hle : corrected 10000 [p, c] b.toNat ≤ b.toNat :=
      le_of_total_le (total_corrected_le (by decide))
    rw [curveIn]
    omega
  have hproduct : (U128.mul (curveIn p c b.toNat) pool.base : Result ℕ)
      = .ok (curveIn p c b.toNat * pool.base) := U128.mul_eq (U128.mul_le hin (UInt64.toNat_lt _))
  have hdivisor : (U128.add pool.quote (curveIn p c b.toNat) : Result ℕ)
      = .ok (pool.quote + curveIn p c b.toNat) := U128.add_eq (U128.add_le (UInt64.toNat_lt _) hin)
  unfold buyQuote
  rw [pool.rates_eq_ok.mpr hrates, ok_bind]
  dsimp only
  rw [netQuote_eq hb hrates.sum_lt, ok_bind, virtualTokens_eq, virtualSol_eq, realTokens_eq]
  refine bind_congr fun _ => ?_
  rw [okOr_pred_bind]
  refine bind_congr fun _ => ?_
  rw [show corrected 10000 [p, c] b.toNat - 1 = curveIn p c b.toNat from rfl,
    hproduct, ok_bind, hdivisor, ok_bind]
  rfl

/-- **What a budget buys**, operator by operator and all in range. -/
theorem buyQuote_eq_ok [Pda] {p c : ℕ} (hrates : pool.Rates p c) :
    pool.buyQuote b = .ok t ↔ 0 < pool.base ∧ 0 < pool.quote ∧ 0 < curveIn p c b.toNat
      ∧ BuyQuoted pool p c b.toNat t.toNat ∧ 0 < t.toNat := by
  rw [pool.buyQuote_eq hrates]
  dsimp only
  simp only [bind_eq_ok, failIf_eq_ok, not_or]
  constructor
  · rintro ⟨_, ⟨hbase, hquote⟩, _, hin, h⟩
    have hq : 0 < pool.quote := Nat.pos_of_ne_zero hquote
    refine ⟨Nat.pos_of_ne_zero hbase, hq, Nat.pos_of_ne_zero hin, ?_⟩
    by_cases hle : swapOut pool.quote pool.base (curveIn p c b.toNat) ≤ pool.remaining
    · rw [if_pos hle, positiveU64_eq_ok] at h
      rw [h.1]
      exact ⟨.onCurve hle, h.2⟩
    · have hlt := Nat.not_le.mp hle
      rw [if_neg hle, pool.graduationQuote_eq hrates.sum_lt b.toNat_lt hq hlt] at h
      simp only [bind_eq_ok, failIf_eq_ok, Bool.not_eq_true, Bool.not_eq_false] at h
      obtain ⟨_, hgraduates, _, hmayhem, h⟩ := h
      by_cases hleft : guess 10000 [p, c] (pool.left p c b.toNat) < 2
      · rw [if_pos hleft, positiveU64_eq_ok] at h
        rw [h.1]
        exact ⟨.soldOut hlt hgraduates hmayhem hleft, h.2⟩
      · have hmax : pool.left p c b.toNat < 2 ^ 64 :=
          Nat.lt_of_le_of_lt (Nat.sub_le _ _) b.toNat_lt
        rw [if_neg hleft, poolToBeQuote_eq_ok hrates.sum_lt hmax] at h
        obtain ⟨hsupply, hraised, hfee, -, ht, hpos⟩ := h
        refine ⟨?_, hpos⟩
        rw [ht]
        exact .past hlt hgraduates hmayhem (Nat.not_lt.mp hleft) hsupply hraised hfee
  · rintro ⟨hbase, hq, hin, h, hpos⟩
    refine ⟨(), ⟨hbase.ne', hq.ne'⟩, (), hin.ne', ?_⟩
    generalize htokens : t.toNat = tokens at h
    rw [htokens] at hpos
    cases h with
    | onCurve hle => rw [if_pos hle, positiveU64_eq_ok]; exact ⟨htokens, hpos⟩
    | soldOut hlt hgraduates hmayhem hleft =>
      rw [if_neg (Nat.not_le.mpr hlt), pool.graduationQuote_eq hrates.sum_lt b.toNat_lt hq hlt,
        if_pos hleft]
      simp only [bind_eq_ok, failIf_eq_ok, positiveU64_eq_ok]
      exact ⟨(), by simp [hgraduates], (), by simp [hmayhem], htokens, hpos⟩
    | past hlt hgraduates hmayhem hleft hsupply hraised hfee =>
      have hmax : pool.left p c b.toNat < 2 ^ 64 :=
        Nat.lt_of_le_of_lt (Nat.sub_le _ _) b.toNat_lt
      have hone : 1 ≤ corrected 10000 [p, c] (pool.left p c b.toNat) := by
        have hexcess : excess 10000 [p, c] (pool.left p c b.toNat) < 2 :=
          excess_lt (by decide) (by simp)
        rw [corrected]
        omega
      rw [if_neg (Nat.not_le.mpr hlt), pool.graduationQuote_eq hrates.sum_lt b.toNat_lt hq hlt,
        if_neg (Nat.not_lt.mpr hleft)]
      simp only [bind_eq_ok, failIf_eq_ok, poolToBeQuote_eq_ok hrates.sum_lt hmax]
      exact ⟨(), by simp [hgraduates], (), by simp [hmayhem], hsupply, hraised, hfee, hone,
        htokens, by rw [htokens]; exact hpos⟩

end PumpFunV3Pool

end Sdk
