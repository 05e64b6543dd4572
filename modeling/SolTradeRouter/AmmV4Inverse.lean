import SolTradeRouter.QuoteInverse
import SolTradeRouter.Unchecked

/-!
# AMM V4 quotes in 128 bits

The AMM V4 quote and its inverse multiply 64-bit numbers with unchecked and
with saturating operators. Their strict versions stop at the first operator
that leaves the 128-bit range. Neither ever does: the inverse narrows the
curve's input to 64 bits before it multiplies again, and refuses what does
not fit.
-/

namespace Sdk

open Outcome

/-- `raydiumAmmV4Out`, where every 128-bit operator panics out of range. -/
def raydiumAmmV4OutStrict (pool : RaydiumAmmV4Pool) (amountIn : UInt64)
    (inputIsCoin : Bool) : Result UInt64 := do
  bailIf (amountIn = 0) "amount_in is zero"
  let inputReserve := if inputIsCoin then pool.coinReserve else pool.pcReserve
  let outputReserve := if inputIsCoin then pool.pcReserve else pool.coinReserve
  bailIf (inputReserve = 0 ∨ outputReserve = 0) "empty Raydium AMM V4 reserves"
  let feeNum := pool.swapFeeNumerator
  let feeDen := pool.swapFeeDenominator
  bailIf (feeDen = 0 ∨ feeNum ≥ feeDen) "invalid Raydium AMM V4 swap fee fraction"
  let _ ← okOr (U64.checkedAdd inputReserve amountIn)
    "Raydium AMM V4 input reserve overflows token balance"
  let feeProduct ← U128.mul amountIn.toNat feeNum.toNat
  let tradeFee := UInt64.ofNat (feeProduct ⌈/⌉ feeDen.toNat)
  let netIn := U64.satSub amountIn tradeFee
  let product ← U128.mul outputReserve.toNat netIn.toNat
  let reserve ← U128.add inputReserve.toNat netIn.toNat
  pure (UInt64.ofNat (U64.sat (product / reserve)))

/-- `raydiumAmmV4InForOut`, where every 128-bit operator panics out of
range. -/
def raydiumAmmV4InForOutStrict (pool : RaydiumAmmV4Pool) (amountOut : UInt64)
    (inputIsCoin : Bool) : Result UInt64 := do
  bailIf (amountOut = 0) "amount_out is zero"
  let inputReserve := if inputIsCoin then pool.coinReserve else pool.pcReserve
  let outputReserve := if inputIsCoin then pool.pcReserve else pool.coinReserve
  bailIf (inputReserve = 0 ∨ outputReserve = 0) "empty Raydium AMM V4 reserves"
  bailIf (amountOut ≥ outputReserve) "Raydium AMM V4 amount_out exceeds output reserve"
  let denom := outputReserve.toNat - amountOut.toNat
  let product ← U128.mul amountOut.toNat inputReserve.toNat
  let tradeNum := pool.swapFeeNumerator.toNat
  let feeDen := pool.swapFeeDenominator.toNat
  bailIf (feeDen = 0 ∨ tradeNum ≥ feeDen) "invalid Raydium AMM V4 swap fee fraction"
  let netIn ← okOr (U64.tryOf (product ⌈/⌉ denom))
    "Raydium AMM V4 exact-out net input exceeds u64"
  let gross ← U128.mul netIn.toNat feeDen
  let amountIn ← okOr (U64.tryOf (gross ⌈/⌉ (feeDen - tradeNum)))
    "Raydium AMM V4 exact-out gross input exceeds u64"
  let out ← raydiumAmmV4OutStrict pool amountIn inputIsCoin
  bailIf (out < amountOut) "Raydium AMM V4 exact-out quote cannot reach target"
  pure amountIn

/-- **No operator of the quote leaves the range.** -/
theorem raydiumAmmV4OutStrict_eq (pool : RaydiumAmmV4Pool) (amountIn : UInt64)
    (inputIsCoin : Bool) :
    raydiumAmmV4OutStrict pool amountIn inputIsCoin
      = raydiumAmmV4Out pool amountIn inputIsCoin := by
  have hmul : ∀ x y : UInt64, U128.satMul x.toNat y.toNat = x.toNat * y.toNat :=
    fun x y => U128.satMul_eq x.toNat_lt y.toNat_lt
  have hadd : ∀ x y : UInt64, U128.satAdd x.toNat y.toNat = x.toNat + y.toNat :=
    fun x y => U128.satAdd_eq x.toNat_lt y.toNat_lt
  unfold raydiumAmmV4OutStrict raydiumAmmV4Out
  simp only [U128.mul_toNat, U128.add_toNat, ok_bind, hmul, hadd]

/-- **No operator of the inverse leaves the range.** -/
theorem raydiumAmmV4InForOutStrict_eq (pool : RaydiumAmmV4Pool) (amountOut : UInt64)
    (inputIsCoin : Bool) :
    raydiumAmmV4InForOutStrict pool amountOut inputIsCoin
      = raydiumAmmV4InForOut pool amountOut inputIsCoin := by
  have hmul : ∀ x y : UInt64, U128.satMul x.toNat y.toNat = x.toNat * y.toNat :=
    fun x y => U128.satMul_eq x.toNat_lt y.toNat_lt
  unfold raydiumAmmV4InForOutStrict raydiumAmmV4InForOut
  simp only [U128.mul_toNat, ok_bind, hmul, raydiumAmmV4OutStrict_eq]

/-- **AMM V4 exact-out quotes are exact.** A result is the least input that
is quoted the target: every smaller positive input is quoted too, and less.
An error means that no input is quoted the target. And no operator of either
function leaves the 128-bit range. -/
theorem raydiumAmmV4InForOut_exact (pool : RaydiumAmmV4Pool) (inputIsCoin : Bool)
    (amountOut : UInt64) (hout : 0 < amountOut) :
    raydiumAmmV4InForOut pool amountOut inputIsCoin ≠ .error .panic
      ∧ (∀ x, raydiumAmmV4InForOut pool amountOut inputIsCoin = .ok x →
        (∃ y, raydiumAmmV4Out pool x inputIsCoin = .ok y ∧ amountOut ≤ y)
        ∧ ∀ x', 0 < x' → x' < x →
          ∃ y, raydiumAmmV4Out pool x' inputIsCoin = .ok y ∧ y < amountOut)
      ∧ (∀ e, raydiumAmmV4InForOut pool amountOut inputIsCoin = .error e →
        ∀ x y, raydiumAmmV4Out pool x inputIsCoin = .ok y → y < amountOut)
      ∧ (∀ x, raydiumAmmV4OutStrict pool x inputIsCoin = raydiumAmmV4Out pool x inputIsCoin)
      ∧ raydiumAmmV4InForOutStrict pool amountOut inputIsCoin
        = raydiumAmmV4InForOut pool amountOut inputIsCoin := by
  have hpos : ∀ {a : UInt64}, 0 < a → a ≠ 0 := by
    intro a ha
    exact U64.pos_iff.mpr (UInt64.lt_iff_toNat_lt.mp ha)
  refine ⟨fun h => calm_raydiumAmmV4InForOut _ h rfl, ?_, ?_,
    fun x => raydiumAmmV4OutStrict_eq pool x inputIsCoin,
    raydiumAmmV4InForOutStrict_eq pool amountOut inputIsCoin⟩
  · intro x hx
    rcases raydiumAmmV4InForOut_inverse pool (hpos hout) inputIsCoin with
      ⟨x', hx', -, hleast⟩ | ⟨⟨e, he⟩, -⟩
    · cases hx'.symm.trans hx
      exact ⟨hleast.reaches, fun a ha hlt => hleast.below a (hpos ha) hlt⟩
    · cases he.symm.trans hx
  · intro e he
    rcases raydiumAmmV4InForOut_inverse pool (hpos hout) inputIsCoin with
      ⟨x', hx', -⟩ | ⟨-, hnone⟩
    · cases hx'.symm.trans he
    · exact hnone

/-- A pool of 1000 coins against 2000, with a fee of a quarter percent. -/
def sampleAmmV4 : RaydiumAmmV4Pool where
  amm := sampleKey 1
  coinMint := wsolMint
  pcMint := sampleKey 4
  tokenCoin := sampleKey 5
  tokenPc := sampleKey 6
  tokenProgram := tokenProgram
  coinReserve := 1000
  pcReserve := 2000
  tradeFeeNumerator := 25
  swapFeeNumerator := 25
  swapFeeDenominator := 10000

theorem sampleAmmV4_exact :
    raydiumAmmV4InForOut sampleAmmV4 100 true = .ok 54
      ∧ ∀ x', 0 < x' → x' < 54 → ∃ y, raydiumAmmV4Out sampleAmmV4 x' true = .ok y ∧ y < 100 := by
  have hrun : raydiumAmmV4InForOut sampleAmmV4 100 true = .ok 54 := by decide +kernel
  exact ⟨hrun, ((raydiumAmmV4InForOut_exact sampleAmmV4 true 100 (by decide)).2.1 54 hrun).2⟩

end Sdk
