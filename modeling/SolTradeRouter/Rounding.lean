import Mathlib.Algebra.Order.Floor.Div
import Mathlib.Algebra.Order.Ring.Nat
import Mathlib.Order.GaloisConnection.Basic
import Mathlib.Tactic.Ring

/-!
# Rounded fees and their inverses

What is left of an amount after a proportional fee depends on the direction
the fee is rounded in, and so does the least amount that leaves a given
rest. The two are adjoint: `gross v ≤ x` exactly when `v ≤ net x`. Stated so,
inverses compose, are monotone and least, and a cap on the fee keeps the
adjunction.

The output of a constant-product pool is not adjoint to anything over all of
the natural numbers, since it never reaches the pool's reserve; below the
reserve it is, and `le_swapOut_iff` says so.
-/

namespace Rounding

variable {n d x v cap : ℕ}

/-! ## Fees rounded up -/

/-- **The rest after a fee rounded up.** -/
def netCeil (n d x : ℕ) : ℕ := x - (x * n) ⌈/⌉ d

/-- The least amount that leaves a given rest after a fee rounded up. -/
def grossCeil (n d v : ℕ) : ℕ := (v * d) ⌈/⌉ (d - n)

/-- A fee of at most the whole, rounded up, is at most the amount. -/
theorem ceilFee_le (hd : 0 < d) (h : n ≤ d) : (x * n) ⌈/⌉ d ≤ x := by
  rw [ceilDiv_le_iff_le_mul hd, Nat.mul_comm d x]
  exact Nat.mul_le_mul_left x h

/-- The rest after a fee rounded up is the other share rounded down. -/
theorem netCeil_eq (hd : 0 < d) (h : n ≤ d) : netCeil n d x = x * (d - n) / d := by
  refine eq_of_forall_le_iff fun c => ?_
  have hfee : (x * n) ⌈/⌉ d ≤ x := ceilFee_le hd h
  have hsplit : x * (d - n) + x * n = d * x := by
    rw [← Nat.mul_add, Nat.sub_add_cancel h, Nat.mul_comm]
  rw [netCeil, Nat.le_div_iff_mul_le hd]
  constructor
  · intro hc
    have hle : (x * n) ⌈/⌉ d ≤ x - c := by omega
    rw [ceilDiv_le_iff_le_mul hd, Nat.mul_sub] at hle
    have hcx : d * c ≤ d * x := Nat.mul_le_mul_left d (by omega)
    rw [Nat.mul_comm c d]
    omega
  · intro hc
    have hcx : c ≤ x := by
      have hle : c * d ≤ x * d := hc.trans (Nat.mul_le_mul_left x (Nat.sub_le d n))
      exact Nat.le_of_mul_le_mul_right hle hd
    have hle : (x * n) ⌈/⌉ d ≤ x - c := by
      rw [ceilDiv_le_iff_le_mul hd, Nat.mul_sub]
      rw [Nat.mul_comm c d] at hc
      omega
    omega

theorem netCeil_mono (hd : 0 < d) (h : n ≤ d) : Monotone (netCeil n d) := by
  intro x y hxy
  rw [netCeil_eq hd h, netCeil_eq hd h]
  exact Nat.div_le_div_right (Nat.mul_le_mul_right _ hxy)

theorem netCeil_le : netCeil n d x ≤ x := Nat.sub_le _ _

/-- **The rest and its inverse are adjoint**, for a fee below the whole. -/
theorem netCeil_gc (h : n < d) : GaloisConnection (grossCeil n d) (netCeil n d) := by
  intro v x
  have hd : 0 < d := by omega
  have hrest : 0 < d - n := by omega
  rw [netCeil_eq hd h.le, Nat.le_div_iff_mul_le hd, grossCeil, ceilDiv_le_iff_le_mul hrest,
    Nat.mul_comm x]

/-- The inverse adds the fee of the rest at the rate of the other share. -/
theorem grossCeil_eq_add (h : n < d) : grossCeil n d v = v + (v * n) ⌈/⌉ (d - n) := by
  have hrest : 0 < d - n := by omega
  refine eq_of_forall_ge_iff fun c => ?_
  have hsplit : v * d = (d - n) * v + v * n := by
    rw [Nat.mul_comm (d - n) v, ← Nat.mul_add, Nat.sub_add_cancel h.le]
  rw [grossCeil, ceilDiv_le_iff_le_mul hrest]
  constructor
  · intro hc
    have hvc : v ≤ c := by
      have hle : (d - n) * v ≤ (d - n) * c := by omega
      exact Nat.le_of_mul_le_mul_left hle hrest
    have hle : (v * n) ⌈/⌉ (d - n) ≤ c - v := by
      rw [ceilDiv_le_iff_le_mul hrest, Nat.mul_sub]
      omega
    omega
  · intro hc
    have hle : (v * n) ⌈/⌉ (d - n) ≤ c - v := by omega
    rw [ceilDiv_le_iff_le_mul hrest, Nat.mul_sub] at hle
    have hvc : (d - n) * v ≤ (d - n) * c := Nat.mul_le_mul_left _ (by omega)
    omega

/-! ## Fees rounded down -/

/-- **The rest after a fee rounded down.** -/
def netFloor (n d x : ℕ) : ℕ := x - x * n / d

/-- The least amount that leaves a given rest after a fee rounded down. -/
def grossFloor (n d v : ℕ) : ℕ := if v = 0 then 0 else (v - 1) * d / (d - n) + 1

/-- The rest after a fee rounded down is the other share rounded up. -/
theorem netFloor_eq (hd : 0 < d) (h : n ≤ d) : netFloor n d x = (x * (d - n)) ⌈/⌉ d := by
  refine eq_of_forall_ge_iff fun c => ?_
  have hfee : x * n / d ≤ x := by
    refine Nat.div_le_of_le_mul ?_
    rw [Nat.mul_comm d x]
    exact Nat.mul_le_mul_left x h
  have hsplit : x * (d - n) + x * n = d * x := by
    rw [← Nat.mul_add, Nat.sub_add_cancel h, Nat.mul_comm]
  rw [netFloor, ceilDiv_le_iff_le_mul hd]
  rcases Nat.le_total x c with hxc | hcx
  · -- Both sides hold: neither the rest nor the share exceeds the amount.
    have hmul : d * x ≤ d * c := Nat.mul_le_mul_left d hxc
    refine iff_of_true ((Nat.sub_le _ _).trans hxc) ?_
    omega
  · have hiff : x - c ≤ x * n / d ↔ d * x - d * c ≤ x * n := by
      rw [Nat.le_div_iff_mul_le hd, Nat.sub_mul, Nat.mul_comm x d, Nat.mul_comm c d]
    have hmul : d * c ≤ d * x := Nat.mul_le_mul_left d hcx
    have hleft : x - x * n / d ≤ c ↔ x - c ≤ x * n / d := by omega
    rw [hleft, hiff]
    omega

/-- **The rest and its inverse are adjoint**, for a fee below the whole. -/
theorem netFloor_gc (h : n < d) : GaloisConnection (grossFloor n d) (netFloor n d) := by
  intro v x
  have hd : 0 < d := by omega
  have hrest : 0 < d - n := by omega
  rw [netFloor_eq hd h.le, grossFloor]
  by_cases hv : v = 0
  · simp [hv]
  · rw [if_neg hv, Nat.succ_le_iff, Nat.div_lt_iff_lt_mul hrest]
    have hceil : v ≤ (x * (d - n)) ⌈/⌉ d ↔ (v - 1) * d < x * (d - n) := by
      have hle : (x * (d - n)) ⌈/⌉ d ≤ v - 1 ↔ x * (d - n) ≤ (v - 1) * d := by
        rw [ceilDiv_le_iff_le_mul hd, Nat.mul_comm d]
      have hpred : v ≤ (x * (d - n)) ⌈/⌉ d ↔ ¬ (x * (d - n)) ⌈/⌉ d ≤ v - 1 := by omega
      rw [hpred, hle, Nat.not_le]
    exact hceil.symm

theorem netFloor_zero : netFloor n d 0 = 0 := Nat.zero_sub _

/-- One more unit leaves at most one more unit. -/
theorem netFloor_succ_le (x : ℕ) : netFloor n d (x + 1) ≤ netFloor n d x + 1 := by
  have hmul : x * n / d ≤ (x + 1) * n / d :=
    Nat.div_le_div_right (Nat.mul_le_mul_right n (Nat.le_succ x))
  rw [netFloor, netFloor]
  omega

/-- **The inverse is exact**: the rest goes up by single units, so it meets
every value. -/
theorem netFloor_grossFloor (h : n < d) (v : ℕ) : netFloor n d (grossFloor n d v) = v := by
  have hge : v ≤ netFloor n d (grossFloor n d v) := (netFloor_gc h).le_u_l v
  by_cases hv : v = 0
  · rw [hv, grossFloor, if_pos rfl, netFloor_zero]
  · -- One unit less leaves less than `v`, by minimality.
    have hpos : 0 < grossFloor n d v := by
      rw [grossFloor, if_neg hv]
      exact Nat.succ_pos _
    have hlt : netFloor n d (grossFloor n d v - 1) < v := by
      rw [← Nat.not_le, ← (netFloor_gc h) v]
      omega
    have hstep := @netFloor_succ_le n d (grossFloor n d v - 1)
    rw [Nat.sub_add_cancel hpos] at hstep
    omega

/-! ## Capped fees -/

/-- **The rest after a fee rounded up and capped.** -/
def netCapped (n d cap x : ℕ) : ℕ := x - min ((x * n) ⌈/⌉ d) cap

/-- The least amount that leaves a given rest after a capped fee. -/
def grossCapped (n d cap v : ℕ) : ℕ := min (grossCeil n d v) (v + cap)

/-- A capped fee leaves the larger of two rests. -/
theorem netCapped_eq : netCapped n d cap x = max (netCeil n d x) (x - cap) := by
  rw [netCapped, netCeil]
  omega

theorem netCapped_le : netCapped n d cap x ≤ x := Nat.sub_le _ _

/-- **A cap on the fee keeps the adjunction.** -/
theorem netCapped_gc (h : n < d) :
    GaloisConnection (grossCapped n d cap) (netCapped n d cap) := by
  intro v x
  have hl : grossCeil n d v ≤ x ↔ v ≤ netCeil n d x := netCeil_gc h v x
  have hzero : v = 0 → v ≤ netCeil n d x := by
    intro hv
    rw [hv]
    exact Nat.zero_le _
  rw [netCapped_eq, grossCapped, le_max_iff, min_le_iff]
  omega

/-- A fee of the whole or more leaves what exceeds its cap. -/
theorem netCapped_all (hd : 0 < d) (h : d ≤ n) : netCapped n d cap x = x - cap := by
  have hfee : x ≤ (x * n) ⌈/⌉ d := by
    have hle : x * n ≤ d * ((x * n) ⌈/⌉ d) := (ceilDiv_le_iff_le_mul hd).mp (Nat.le_refl _)
    have hmul : d * x ≤ x * n := by
      rw [Nat.mul_comm d x]
      exact Nat.mul_le_mul_left x h
    exact Nat.le_of_mul_le_mul_left (hmul.trans hle) hd
  rw [netCapped]
  omega

theorem netCapped_mono (hd : 0 < d) : Monotone (netCapped n d cap) := by
  intro x y hxy
  rcases Nat.le_total n d with h | h
  · rw [netCapped_eq, netCapped_eq]
    exact max_le_max (netCeil_mono hd h hxy) (Nat.sub_le_sub_right hxy cap)
  · rw [netCapped_all hd h, netCapped_all hd h]
    exact Nat.sub_le_sub_right hxy cap

/-! ## Constant-product swaps -/

/-- **The output of a constant-product swap.** -/
def swapOut (input output c : ℕ) : ℕ := c * output / (input + c)

/-- The least input that brings a given output. -/
def swapIn (input output v : ℕ) : ℕ := (input * v) ⌈/⌉ (output - v)

/-- A swap never empties the pool. -/
theorem swapOut_lt {input output c : ℕ} (hi : 0 < input) (ho : 0 < output) :
    swapOut input output c < output := by
  rw [swapOut, Nat.div_lt_iff_lt_mul (by omega), Nat.mul_comm c, Nat.mul_add]
  have hpos : 0 < output * input := Nat.mul_pos ho hi
  omega

/-- **Below the reserve, a swap and its inverse are adjoint.** -/
theorem le_swapOut_iff {input output c : ℕ} (hi : 0 < input) (hv : v < output) :
    v ≤ swapOut input output c ↔ swapIn input output v ≤ c := by
  have hrest : 0 < output - v := by omega
  have hsplit : (output - v) * c + v * c = c * output := by
    rw [← Nat.add_mul, Nat.sub_add_cancel hv.le, Nat.mul_comm]
  rw [swapOut, swapIn, Nat.le_div_iff_mul_le (by omega), ceilDiv_le_iff_le_mul hrest,
    Nat.mul_add, Nat.mul_comm v input]
  omega

theorem swapOut_mono {input output : ℕ} (hi : 0 < input) (ho : 0 < output) :
    Monotone (swapOut input output) := by
  intro c c' hc
  rw [le_swapOut_iff hi (swapOut_lt hi ho)]
  exact ((le_swapOut_iff hi (swapOut_lt hi ho)).mp (Nat.le_refl _)).trans hc

end Rounding
