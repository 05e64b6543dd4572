import SolTradeRouter.Outcome
import Mathlib.Algebra.Order.Ring.Nat
import Mathlib.Tactic.Ring

/-!
# Searches by bisection

Loops of a program, run on fuel, and three searches written as such loops:
the least number of an interval with a property, the greatest one, and a
number found by doubling. Testing the property is a computation of its own
and may stop.

A loop that runs out of fuel panics, so a statement that a search does not
panic says that it terminates. `whileLoop_total` is the rule for loops: an
invariant indexed by the number of rounds it still allows. For a bisection
that number bounds the logarithm of the interval's width, for a doubling
search that of the quotient of the bound and the current value.
-/

namespace Search

open Outcome

variable {ε σ : Type}

/-- **`while c { body }`**, for at most the given number of tests. -/
def whileLoop (c : σ → Except (Abort ε) Bool) (body : σ → Except (Abort ε) σ) :
    ℕ → σ → Except (Abort ε) σ
  | 0, _ => panicked
  | fuel + 1, s => do
    let b ← c s
    if b then do
      let s' ← body s
      whileLoop c body fuel s'
    else pure s

/-- **The rule for loops.** The invariant `I k` allows `k` more rounds: it
either ends the loop or is met again with one round less. -/
theorem whileLoop_total (c : σ → Except (Abort ε) Bool) (body : σ → Except (Abort ε) σ)
    (I : ℕ → σ → Prop)
    (hstep : ∀ k s, I k s → c s = .ok false ∨
      ∃ j s', k = j + 1 ∧ c s = .ok true ∧ body s = .ok s' ∧ I j s')
    {k fuel : ℕ} (s : σ) (hI : I k s) (hk : k < fuel) :
    ∃ j s', whileLoop c body fuel s = .ok s' ∧ I j s' ∧ c s' = .ok false := by
  induction fuel generalizing k s with
  | zero => exact absurd hk (Nat.not_lt_zero k)
  | succ fuel ih =>
    rcases hstep k s hI with hfalse | ⟨j, s', rfl, htrue, hbody, hI'⟩
    · refine ⟨k, s, ?_, hI, hfalse⟩
      rw [whileLoop, hfalse]
      rfl
    · obtain ⟨j', t, hrun, hIt, hend⟩ := ih s' hI' (by omega)
      refine ⟨j', t, ?_, hIt, hend⟩
      rw [whileLoop, htrue]
      show (body s >>= whileLoop c body fuel) = .ok t
      rw [hbody]
      exact hrun

/-! ## The least number with a property -/

section Least

/-- One round: the middle, rounded down, replaces one of the ends. -/
def leastStep (p : ℕ → Except (Abort ε) Bool) (s : ℕ × ℕ) : Except (Abort ε) (ℕ × ℕ) := do
  let mid := s.1 + (s.2 - s.1) / 2
  let b ← p mid
  pure (if b then (s.1, mid) else (mid + 1, s.2))

/-- **The least number of `[lo, hi]` with the property.** -/
def least (p : ℕ → Except (Abort ε) Bool) (fuel lo hi : ℕ) : Except (Abort ε) ℕ := do
  let s ← whileLoop (fun s => .ok (decide (s.1 < s.2))) (leastStep p) fuel (lo, hi)
  pure s.1

variable {p : ℕ → Except (Abort ε) Bool} {P : ℕ → Prop} [DecidablePred P]

/-- The upper end has the property, and nothing below the lower end does. -/
structure LeastInv (P : ℕ → Prop) (lo hi k : ℕ) (s : ℕ × ℕ) : Prop where
  le_lo : lo ≤ s.1
  le : s.1 ≤ s.2
  le_hi : s.2 ≤ hi
  holds : P s.2
  fails : ∀ n, lo ≤ n → n < s.1 → ¬ P n
  width : s.2 - s.1 < 2 ^ k

theorem least_eq_ok {lo hi k fuel : ℕ} (hp : ∀ n, lo ≤ n → n ≤ hi → p n = .ok (decide (P n)))
    (hmono : ∀ m n, lo ≤ m → m ≤ n → n ≤ hi → P m → P n) (hle : lo ≤ hi) (hP : P hi)
    (hwidth : hi - lo < 2 ^ k) (hk : k < fuel) :
    ∃ x, least p fuel lo hi = .ok x ∧ lo ≤ x ∧ x ≤ hi ∧ P x ∧ ∀ n, lo ≤ n → n < x → ¬ P n := by
  have hloop := whileLoop_total (fun s : ℕ × ℕ => .ok (decide (s.1 < s.2))) (leastStep p)
    (LeastInv P lo hi) ?_ (k := k) (lo, hi)
    ⟨Nat.le_refl _, hle, Nat.le_refl _, hP, fun n h h' => absurd h' (by omega), hwidth⟩ hk
  · obtain ⟨j, ⟨x, y⟩, hrun, hI, hend⟩ := hloop
    have hxy : x = y := by
      have hnot : ¬ x < y := by simpa using hend
      have hle' : x ≤ y := hI.le
      omega
    subst hxy
    refine ⟨x, ?_, hI.le_lo, hI.le_hi, hI.holds, hI.fails⟩
    rw [least, hrun]
    rfl
  · rintro k ⟨x, y⟩ ⟨hlo, hxy, hhi, hPy, hfails, hw⟩
    dsimp only at *
    by_cases hlt : x < y
    · right
      obtain ⟨j, rfl⟩ : ∃ j, k = j + 1 := by
        cases k with
        | zero => omega
        | succ j => exact ⟨j, rfl⟩
      have hpow : 2 ^ (j + 1) = 2 * 2 ^ j := Nat.pow_succ'
      have hmid : leastStep p (x, y)
          = .ok (if P (x + (y - x) / 2) then (x, x + (y - x) / 2)
            else (x + (y - x) / 2 + 1, y)) := by
        show (p (x + (y - x) / 2) >>= _) = _
        rw [hp _ (by omega) (by omega)]
        by_cases hPm : P (x + (y - x) / 2)
        · simp [hPm, pure, Except.pure]
        · simp [hPm, pure, Except.pure]
      refine ⟨j, _, rfl, by simp [hlt], hmid, ?_⟩
      by_cases hPm : P (x + (y - x) / 2)
      · rw [if_pos hPm]
        exact ⟨hlo, by dsimp only; omega, by dsimp only; omega, hPm, hfails,
          by dsimp only; omega⟩
      · rw [if_neg hPm]
        refine ⟨by dsimp only; omega, by dsimp only; omega, hhi, hPy, ?_, by dsimp only; omega⟩
        -- What fails at the middle fails below it.
        intro n hn hnm hPn
        exact hPm (hmono n _ hn (by dsimp only at hnm; omega) (by omega) hPn)
    · left
      simp [hlt]

end Least

/-! ## The greatest number with a property -/

section Greatest

/-- One round: the middle, rounded up, replaces one of the ends. -/
def greatestStep (p : ℕ → Except (Abort ε) Bool) (s : ℕ × ℕ) : Except (Abort ε) (ℕ × ℕ) := do
  let distance := s.2 - s.1
  let mid := s.1 + distance / 2 + distance % 2
  let b ← p mid
  pure (if b then (mid, s.2) else (s.1, mid - 1))

/-- **The greatest number of `[lo, hi]` with the property.** -/
def greatest (p : ℕ → Except (Abort ε) Bool) (fuel lo hi : ℕ) : Except (Abort ε) ℕ := do
  let s ← whileLoop (fun s => .ok (decide (s.1 < s.2))) (greatestStep p) fuel (lo, hi)
  pure s.1

variable {p : ℕ → Except (Abort ε) Bool} {P : ℕ → Prop} [DecidablePred P]

/-- The lower end has the property, and nothing above the upper end does. -/
structure GreatestInv (P : ℕ → Prop) (lo hi k : ℕ) (s : ℕ × ℕ) : Prop where
  le_lo : lo ≤ s.1
  le : s.1 ≤ s.2
  le_hi : s.2 ≤ hi
  holds : P s.1
  fails : ∀ n, s.2 < n → n ≤ hi → ¬ P n
  width : s.2 - s.1 < 2 ^ k

theorem greatest_eq_ok {lo hi k fuel : ℕ}
    (hp : ∀ n, lo ≤ n → n ≤ hi → p n = .ok (decide (P n)))
    (hmono : ∀ m n, lo ≤ m → m ≤ n → n ≤ hi → P n → P m) (hle : lo ≤ hi) (hP : P lo)
    (hwidth : hi - lo < 2 ^ k) (hk : k < fuel) :
    ∃ x, greatest p fuel lo hi = .ok x ∧ lo ≤ x ∧ x ≤ hi ∧ P x ∧
      ∀ n, x < n → n ≤ hi → ¬ P n := by
  have hloop := whileLoop_total (fun s : ℕ × ℕ => .ok (decide (s.1 < s.2))) (greatestStep p)
    (GreatestInv P lo hi) ?_ (k := k) (lo, hi)
    ⟨Nat.le_refl _, hle, Nat.le_refl _, hP, fun n h h' => absurd h' (by omega), hwidth⟩ hk
  · obtain ⟨j, ⟨x, y⟩, hrun, hI, hend⟩ := hloop
    have hxy : x = y := by
      have hnot : ¬ x < y := by simpa using hend
      have hle' : x ≤ y := hI.le
      omega
    subst hxy
    refine ⟨x, ?_, hI.le_lo, hI.le_hi, hI.holds, hI.fails⟩
    rw [greatest, hrun]
    rfl
  · rintro k ⟨x, y⟩ ⟨hlo, hxy, hhi, hPx, hfails, hw⟩
    dsimp only at *
    by_cases hlt : x < y
    · right
      obtain ⟨j, rfl⟩ : ∃ j, k = j + 1 := by
        cases k with
        | zero => omega
        | succ j => exact ⟨j, rfl⟩
      have hpow : 2 ^ (j + 1) = 2 * 2 ^ j := Nat.pow_succ'
      obtain ⟨mid, hmideq⟩ : ∃ mid, mid = x + (y - x) / 2 + (y - x) % 2 := ⟨_, rfl⟩
      have hmid : greatestStep p (x, y) = .ok (if P mid then (mid, y) else (x, mid - 1)) := by
        show (p (x + (y - x) / 2 + (y - x) % 2) >>= _) = _
        rw [← hmideq, hp _ (by omega) (by omega)]
        by_cases hPm : P mid
        · simp [hmideq, pure, Except.pure]
        · simp [hPm, pure, Except.pure]
      refine ⟨j, _, rfl, by simp [hlt], hmid, ?_⟩
      by_cases hPm : P mid
      · rw [if_pos hPm]
        exact ⟨by dsimp only; omega, by dsimp only; omega, hhi, hPm, hfails,
          by dsimp only; omega⟩
      · rw [if_neg hPm]
        refine ⟨hlo, by dsimp only; omega, by dsimp only; omega, hPx, ?_, by dsimp only; omega⟩
        -- What fails at the middle fails above it.
        intro n hn hnhi hPn
        exact hPm (hmono mid n (by omega) (by dsimp only at hn; omega) hnhi hPn)
    · left
      simp [hlt]

end Greatest

/-! ## A number found by doubling -/

section Widen

/-- **The first of `s`, `next s`, … with the property.** -/
def widen (p : ℕ → Except (Abort ε) Bool) (next : ℕ → ℕ) (fuel s : ℕ) : Except (Abort ε) ℕ :=
  whileLoop (fun s => do let b ← p s; pure (!b)) (fun s => .ok (next s)) fuel s

variable {p : ℕ → Except (Abort ε) Bool} {P : ℕ → Prop} [DecidablePred P]

/-- A value that at least doubles in each round, up to a bound that has the
property, ends at one that has it. -/
theorem widen_eq_ok (next : ℕ → ℕ) {bound k fuel s : ℕ}
    (hp : ∀ n, s ≤ n → n ≤ bound → p n = .ok (decide (P n)))
    (hnext : ∀ n, s ≤ n → n < bound → min (2 * n) bound ≤ next n ∧ next n ≤ bound)
    (hle : s ≤ bound) (hP : P bound) (hbound : bound ≤ s * 2 ^ k) (hk : k < fuel) :
    ∃ x, widen p next fuel s = .ok x ∧ s ≤ x ∧ x ≤ bound ∧ P x := by
  have hloop := whileLoop_total (fun n => do let b ← p n; pure (!b))
    (fun n => (.ok (next n) : Except (Abort ε) ℕ))
    (fun k n => s ≤ n ∧ n ≤ bound ∧ bound ≤ n * 2 ^ k) ?_ (k := k) s
    ⟨Nat.le_refl _, hle, hbound⟩ hk
  · obtain ⟨j, x, hrun, ⟨hsx, hxb, -⟩, hend⟩ := hloop
    refine ⟨x, hrun, hsx, hxb, ?_⟩
    rw [hp x hsx hxb] at hend
    by_contra hPx
    simp [hPx, pure, Except.pure] at hend
  · rintro k n ⟨hsn, hnb, hbk⟩
    have htest : (do let b ← p n; pure (!b)) = (.ok (!decide (P n)) : Except (Abort ε) Bool) := by
      rw [hp n hsn hnb]
      rfl
    by_cases hPn : P n
    · left
      rw [htest]
      simp [hPn]
    · right
      -- The bound has the property, so it is not reached yet.
      have hlt : n < bound := by
        rcases Nat.lt_or_eq_of_le hnb with h | h
        · exact h
        · exact absurd (h ▸ hP) hPn
      obtain ⟨j, rfl⟩ : ∃ j, k = j + 1 := by
        cases k with
        | zero => omega
        | succ j => exact ⟨j, rfl⟩
      obtain ⟨hdouble, hmax⟩ := hnext n hsn hlt
      refine ⟨j, next n, rfl, ?_, rfl, by omega, hmax, ?_⟩
      · rw [htest]
        simp [hPn]
      · rcases Nat.le_total (2 * n) bound with h | h
        · calc bound ≤ n * 2 ^ (j + 1) := hbk
            _ = 2 * n * 2 ^ j := by ring
            _ ≤ next n * 2 ^ j := Nat.mul_le_mul_right _ (by omega)
        · have heq : next n = bound := by omega
          rw [heq]
          exact Nat.le_mul_of_pos_right _ (Nat.two_pow_pos j)

end Widen

end Search
