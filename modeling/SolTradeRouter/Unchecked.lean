import SolTradeRouter.Machine
import SolTradeRouter.Outcome

/-!
# Unchecked operators

The plain operators of 128-bit numbers are not checked: past the end of the
range they stop the program, or wrap around where overflow checks are off.
Both are told apart from a result here, as the outcome of a panic. A
computation written with these operators is calm exactly when none of them
leaves the range, and then it is the computation on natural numbers.
-/

namespace U128

open Outcome

variable {ε α : Type} {a b c : ℕ}

/-- `a + b` -/
def add (a b : ℕ) : Except (Abort ε) ℕ := orPanic (checkedAdd a b)

/-- `a - b` -/
def sub (a b : ℕ) : Except (Abort ε) ℕ := orPanic (checkedSub a b)

/-- `a * b` -/
def mul (a b : ℕ) : Except (Abort ε) ℕ := orPanic (checkedMul a b)

/-- A sum returns when it is in range. -/
theorem add_eq_ok : (add a b : Except (Abort ε) ℕ) = .ok c ↔ a + b ≤ max ∧ c = a + b :=
  orPanic_eq_ok.trans checkedAdd_eq_some

/-- A difference does when it is not negative. -/
theorem sub_eq_ok : (sub a b : Except (Abort ε) ℕ) = .ok c ↔ b ≤ a ∧ c = a - b :=
  orPanic_eq_ok.trans checkedSub_eq_some

/-- And a product when it is in range. -/
theorem mul_eq_ok : (mul a b : Except (Abort ε) ℕ) = .ok c ↔ a * b ≤ max ∧ c = a * b :=
  orPanic_eq_ok.trans checkedMul_eq_some

/-- An operator in range is the one of the natural numbers. -/
theorem add_eq (h : a + b ≤ max) : (add a b : Except (Abort ε) ℕ) = .ok (a + b) :=
  add_eq_ok.mpr ⟨h, rfl⟩

/-- So is a difference of ordered numbers. -/
theorem sub_eq (h : b ≤ a) : (sub a b : Except (Abort ε) ℕ) = .ok (a - b) :=
  sub_eq_ok.mpr ⟨h, rfl⟩

/-- And a product in range. -/
theorem mul_eq (h : a * b ≤ max) : (mul a b : Except (Abort ε) ℕ) = .ok (a * b) :=
  mul_eq_ok.mpr ⟨h, rfl⟩

/-- The product of two 64-bit numbers is in range. -/
theorem mul_le (ha : a < 2 ^ 64) (hb : b < 2 ^ 64) : a * b ≤ max := by
  have hmul : a * b + 2 ^ 65 ≤ max + 2 := mul_lt ha hb
  omega

/-- The sum of two 64-bit numbers is in range. -/
theorem add_le (ha : a < 2 ^ 64) (hb : b < 2 ^ 64) : a + b ≤ max := by
  show a + b ≤ 2 ^ 128 - 1
  omega

/-- So two 64-bit numbers are multiplied without a panic. -/
theorem mul_toNat (x y : UInt64) :
    (mul x.toNat y.toNat : Except (Abort ε) ℕ) = .ok (x.toNat * y.toNat) :=
  mul_eq (mul_le x.toNat_lt y.toNat_lt)

/-- And added. -/
theorem add_toNat (x y : UInt64) :
    (add x.toNat y.toNat : Except (Abort ε) ℕ) = .ok (x.toNat + y.toNat) :=
  add_eq (add_le x.toNat_lt y.toNat_lt)

/-- An operator out of range panics. -/
theorem calm_orPanic {o : Option α} : Calm (orPanic o : Except (Abort ε) α) ↔ o.isSome := by
  cases o with
  | some a => exact iff_of_true calm_ok rfl
  | none => exact iff_of_false (fun h => h .panic rfl rfl) (by simp)

/-- A sum panics exactly out of range. -/
theorem calm_add : Calm (add a b : Except (Abort ε) ℕ) ↔ a + b ≤ max := by
  rw [add, calm_orPanic, checkedAdd]
  split <;> simp_all

/-- And so does a product. -/
theorem calm_mul : Calm (mul a b : Except (Abort ε) ℕ) ↔ a * b ≤ max := by
  rw [mul, calm_orPanic, checkedMul]
  split <;> simp_all

end U128

namespace Outcome

variable {ε α β : Type}

/-- **A sequence is calm exactly when its parts are.** -/
theorem calm_bind_iff {x : Except (Abort ε) α} {f : α → Except (Abort ε) β} :
    Calm (x >>= f) ↔ Calm x ∧ ∀ a, x = .ok a → Calm (f a) := by
  refine ⟨fun h => ?_, fun h => calm_bind h.1 h.2⟩
  cases x with
  | error e => exact ⟨fun e' he' => h e' (by cases he'; rfl), fun a ha => by cases ha⟩
  | ok a => exact ⟨calm_ok, fun a' ha' => by cases ha'; exact h⟩

/-- Two continuations need to agree on what is computed only. -/
theorem bind_congr_of_ok {x : Except ε α} {f g : α → Except ε β}
    (h : ∀ a, x = .ok a → f a = g a) : x >>= f = x >>= g := by
  cases x with
  | error e => rfl
  | ok a => exact h a rfl

end Outcome
