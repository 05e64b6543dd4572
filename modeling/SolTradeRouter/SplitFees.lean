import Mathlib.Algebra.Order.BigOperators.Group.List
import Mathlib.Algebra.Order.Floor.Div
import Mathlib.Algebra.Order.Ring.Nat
import Mathlib.Order.GaloisConnection.Basic
import Mathlib.Tactic.Ring

/-!
# Fees split among several takers

Several fees are proportional to the same amount, and each is rounded up by
itself. What an amount costs with its fees is strictly increasing, so a
budget has a largest amount it pays for; but the sum of several ceilings is
no ceiling, and there is no closed form for that amount.

The usual way to find it is to divide the budget by the sum of the rates,
which overshoots by less than one unit for each fee, and to take the
overshoot off. The result never costs more than the budget. With two fees it
is the largest amount that does not; with more it may miss that amount, by
one unit for each further fee.
-/

namespace SplitFees

variable {d n m b b' : ℕ} {rates : List ℕ}

/-- The fees of an amount, each rounded up. -/
def fees (d : ℕ) (rates : List ℕ) (n : ℕ) : ℕ := (rates.map fun r => (n * r) ⌈/⌉ d).sum

/-- **What an amount costs** with its fees. -/
def total (d : ℕ) (rates : List ℕ) (n : ℕ) : ℕ := n + fees d rates n

/-- The amount a budget would pay for if no fee were rounded. -/
def guess (d : ℕ) (rates : List ℕ) (b : ℕ) : ℕ := b * d / (d + rates.sum)

/-- What the guess costs above the budget. -/
def excess (d : ℕ) (rates : List ℕ) (b : ℕ) : ℕ := total d rates (guess d rates b) - b

/-- **The guess, less what it costs above the budget.** -/
def corrected (d : ℕ) (rates : List ℕ) (b : ℕ) : ℕ := guess d rates b - excess d rates b

/-! ## The cost of an amount -/

/-- Nothing is charged on nothing. -/
theorem fees_zero (d : ℕ) (rates : List ℕ) : fees d rates 0 = 0 := by
  refine List.sum_eq_zero fun x hx => ?_
  obtain ⟨r, -, rfl⟩ := List.mem_map.mp hx
  rw [Nat.zero_mul, zero_ceilDiv]

/-- And nothing costs nothing. -/
theorem total_zero (d : ℕ) (rates : List ℕ) : total d rates 0 = 0 := by
  rw [total, fees_zero]

/-- An amount is within what it costs. -/
theorem le_of_total_le (h : total d rates n ≤ b) : n ≤ b := (Nat.le_add_right _ _).trans h

/-- More is charged on more. -/
theorem fees_mono (hd : 0 < d) : Monotone (fees d rates) := by
  intro n m hnm
  refine List.sum_le_sum fun r _ => ?_
  exact (gc_mul_ceilDiv hd).monotone_l (Nat.mul_le_mul_right r hnm)

/-- **An amount and its fees grow together**: every unit costs at least
itself. -/
theorem total_add_le (hd : 0 < d) (hnm : n ≤ m) :
    total d rates n + (m - n) ≤ total d rates m := by
  have hfees : fees d rates n ≤ fees d rates m := fees_mono hd hnm
  rw [total, total]
  omega

/-- And more costs strictly more. -/
theorem total_strictMono (hd : 0 < d) : StrictMono (total d rates) := by
  intro n m hnm
  have hle : total d rates n + (m - n) ≤ total d rates m := total_add_le hd hnm.le
  omega

/-- The fees are at least their rates. -/
theorem mul_sum_le (hd : 0 < d) (n : ℕ) : n * rates.sum ≤ d * fees d rates n := by
  induction rates with
  | nil => exact Nat.zero_le _
  | cons r rates ih =>
    have hr : n * r ≤ d * ((n * r) ⌈/⌉ d) := le_smul_ceilDiv hd
    have hcons : fees d (r :: rates) n = (n * r) ⌈/⌉ d + fees d rates n := List.sum_cons
    rw [hcons, List.sum_cons, Nat.mul_add, Nat.mul_add]
    exact Nat.add_le_add hr ih

/-- Each fee is less than one unit above its rate. -/
theorem mul_fees_le (hd : 0 < d) (n : ℕ) :
    d * fees d rates n ≤ n * rates.sum + (d - 1) * rates.length := by
  induction rates with
  | nil => exact Nat.zero_le _
  | cons r rates ih =>
    have hr : d * ((n * r) ⌈/⌉ d) ≤ n * r + (d - 1) := by
      rw [Nat.ceilDiv_eq_add_pred_div]
      exact (Nat.mul_div_le _ _).trans (by omega)
    have hcons : fees d (r :: rates) n = (n * r) ⌈/⌉ d + fees d rates n := List.sum_cons
    rw [hcons, List.sum_cons, List.length_cons, Nat.mul_add, Nat.mul_add, Nat.mul_succ]
    omega

/-! ## The guess -/

/-- **What the budget pays for is at most the guess.** -/
theorem le_guess (hd : 0 < d) (h : total d rates n ≤ b) : n ≤ guess d rates b := by
  have hfees : n * rates.sum ≤ d * fees d rates n := mul_sum_le hd n
  have hmul : d * total d rates n ≤ d * b := Nat.mul_le_mul_left d h
  rw [guess, Nat.le_div_iff_mul_le (by omega), Nat.mul_add, Nat.mul_comm n d, Nat.mul_comm b d]
  rw [total, Nat.mul_add] at hmul
  omega

/-- **The guess costs less than one unit for each fee above the budget.** -/
theorem excess_lt (hd : 0 < d) (hne : rates ≠ []) : excess d rates b < rates.length := by
  have hpos : 0 < rates.length := List.length_pos_iff.mpr hne
  have hfees : d * fees d rates (guess d rates b)
      ≤ guess d rates b * rates.sum + (d - 1) * rates.length := mul_fees_le hd _
  have hguess : guess d rates b * (d + rates.sum) ≤ b * d := Nat.div_mul_le_self _ _
  have hround : (d - 1) * rates.length < d * rates.length :=
    Nat.mul_lt_mul_of_pos_right (by omega) hpos
  have hcost : d * total d rates (guess d rates b) < d * (b + rates.length) := by
    rw [Nat.mul_add] at hguess
    rw [total, Nat.mul_add, Nat.mul_add, Nat.mul_comm d b, Nat.mul_comm d (guess d rates b)]
    omega
  have hlt := Nat.lt_of_mul_lt_mul_left hcost
  rw [excess]
  omega

/-! ## The correction -/

/-- A correction only lowers. -/
theorem corrected_le_guess : corrected d rates b ≤ guess d rates b := Nat.sub_le _ _

/-- **The corrected amount never costs more than the budget.** -/
theorem total_corrected_le (hd : 0 < d) : total d rates (corrected d rates b) ≤ b := by
  rcases Nat.le_total (excess d rates b) (guess d rates b) with hle | hge
  · -- Each unit taken off saves at least itself.
    have hsave : total d rates (corrected d rates b)
        + (guess d rates b - corrected d rates b) ≤ total d rates (guess d rates b) :=
      total_add_le hd corrected_le_guess
    have hexcess : total d rates (guess d rates b) ≤ b + excess d rates b := by
      rw [excess]
      omega
    rw [corrected] at *
    omega
  · have hzero : corrected d rates b = 0 := Nat.sub_eq_zero_of_le hge
    rw [hzero, total_zero]
    exact Nat.zero_le _

/-- **It misses the largest amount by less than the number of fees.** -/
theorem le_corrected_add (hd : 0 < d) (hne : rates ≠ []) (h : total d rates n ≤ b) :
    n ≤ corrected d rates b + (rates.length - 2) := by
  have hguess := le_guess hd h
  have hexcess := excess_lt (b := b) hd hne
  rcases Nat.eq_zero_or_pos (excess d rates b) with hzero | hpos
  · rw [corrected, hzero]
    omega
  · -- The guess itself is not affordable.
    have hlt : n < guess d rates b := by
      refine Nat.lt_of_le_of_ne hguess fun heq => ?_
      rw [heq] at h
      rw [excess] at hpos
      omega
    rw [corrected]
    omega

/-- **With at most two fees, cost and correction are adjoint**: the corrected
amount is the largest one the budget pays for. -/
theorem le_corrected_iff (hd : 0 < d) (hne : rates ≠ []) (htwo : rates.length ≤ 2) :
    total d rates n ≤ b ↔ n ≤ corrected d rates b := by
  constructor
  · intro h
    have hle := le_corrected_add hd hne h
    omega
  · intro h
    exact ((total_strictMono hd).monotone h).trans (total_corrected_le hd)

/-- **The corrected guess inverts the cost**, as an adjoint. -/
theorem total_gc (hd : 0 < d) (hne : rates ≠ []) (htwo : rates.length ≤ 2) :
    GaloisConnection (total d rates) (corrected d rates) :=
  fun _ _ => le_corrected_iff hd hne htwo

/-- So it is the largest amount within the budget. -/
theorem isGreatest_corrected (hd : 0 < d) (hne : rates ≠ []) (htwo : rates.length ≤ 2) :
    IsGreatest {n | total d rates n ≤ b} (corrected d rates b) :=
  (total_gc hd hne htwo).isGreatest_u

/-- And grows with it. -/
theorem corrected_mono (hd : 0 < d) (hne : rates ≠ []) (htwo : rates.length ≤ 2) :
    Monotone (corrected d rates) :=
  (total_gc hd hne htwo).monotone_u

/-- With at most two fees the excess is at most the guess. -/
theorem excess_le_guess (hd : 0 < d) (hne : rates ≠ []) (htwo : rates.length ≤ 2) :
    excess d rates b ≤ guess d rates b := by
  have hexcess := excess_lt (b := b) hd hne
  rcases Nat.eq_zero_or_pos (guess d rates b) with hzero | hpos
  · rw [excess, hzero, total_zero]
    omega
  · omega

/-! ## Rates of zero -/

/-- The correction depends on the fees and on the sum of the rates only. -/
theorem corrected_congr {rates' : List ℕ} (hfees : ∀ n, fees d rates n = fees d rates' n)
    (hsum : rates.sum = rates'.sum) : corrected d rates b = corrected d rates' b := by
  rw [corrected, corrected, excess, excess, total, total, guess, guess, hsum, hfees]

/-- A rate of zero charges nothing. -/
theorem fees_cons_zero : fees d (0 :: rates) n = fees d rates n := by
  rw [fees, List.map_cons, List.sum_cons, Nat.mul_zero, zero_ceilDiv, Nat.zero_add, fees]

/-- The order of the rates does not matter. -/
theorem fees_perm {rates' : List ℕ} (h : rates.Perm rates') :
    fees d rates n = fees d rates' n := (h.map _).sum_eq

/-- **A fee of zero does not count**: with two others the corrected amount is
the largest one. -/
theorem isGreatest_corrected_of_zero (hd : 0 < d) (hthree : rates.length ≤ 3)
    (hzero : 0 ∈ rates) (hone : 1 < rates.length) :
    IsGreatest {n | total d rates n ≤ b} (corrected d rates b) := by
  have hperm : rates.Perm (0 :: rates.erase 0) := List.perm_cons_erase hzero
  have hlen : (rates.erase 0).length = rates.length - 1 := List.length_erase_of_mem hzero
  have hfees (n : ℕ) : fees d rates n = fees d (rates.erase 0) n := by
    rw [fees_perm hperm, fees_cons_zero]
  have hsum : rates.sum = (rates.erase 0).sum := by
    rw [hperm.sum_eq, List.sum_cons, Nat.zero_add]
  have hset : {n | total d rates n ≤ b} = {n | total d (rates.erase 0) n ≤ b} := by
    ext n
    rw [Set.mem_ofPred_eq, Set.mem_ofPred_eq, total, total, hfees]
  rw [hset, corrected_congr hfees hsum]
  exact isGreatest_corrected hd (List.ne_nil_of_length_pos (by omega)) (by omega)

end SplitFees
