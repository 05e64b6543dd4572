import Mathlib.Algebra.Order.Floor.Div
import Mathlib.Algebra.Order.Ring.Nat
import Mathlib.GroupTheory.GroupAction.Ring

/-!
# Machine integers

The arithmetic of a program whose amounts have 64 bits and whose
intermediate results have 128. An amount is a `UInt64`; a 128-bit
intermediate is the natural number it stands for, and what an operation
does past the end of its range is said by the operation: a checked one has
no result, a saturating one stops at the largest number, a cast keeps the
low bits.

The lemmas say what each operation is on natural numbers, which is where
everything else is proved.
-/

/-! ## 64 bits -/

namespace U64

/-- The largest 64-bit number. -/
def max : ℕ := 2 ^ 64 - 1

/-- `checked_add`: the sum, unless it is past the end of the range. -/
def checkedAdd (a b : UInt64) : Option UInt64 :=
  if a.toNat + b.toNat < 2 ^ 64 then some (a + b) else none

/-- `checked_sub`: the difference, unless it is below zero. -/
def checkedSub (a b : UInt64) : Option UInt64 := if b ≤ a then some (a - b) else none

/-- A number, or the largest one if it does not fit. -/
def sat (n : ℕ) : ℕ := min n max

/-- `saturating_add`: the sum, or the largest number. -/
def satAdd (a b : UInt64) : UInt64 := UInt64.ofNat (sat (a.toNat + b.toNat))

/-- `saturating_sub`: the difference, or zero. -/
def satSub (a b : UInt64) : UInt64 := UInt64.ofNat (a.toNat - b.toNat)

/-- A number as 64 bits, if it fits. -/
def tryOf (n : ℕ) : Option UInt64 := if n < 2 ^ 64 then some (UInt64.ofNat n) else none

/-- A number that fits is the number its 64 bits stand for. -/
theorem toNat_ofNat {n : ℕ} (h : n < 2 ^ 64) : (UInt64.ofNat n).toNat = n :=
  UInt64.toNat_ofNat_of_lt' h

/-- **A checked sum is the sum** of the natural numbers, where there is one. -/
theorem checkedAdd_eq_some {a b c : UInt64} :
    checkedAdd a b = some c ↔ a.toNat + b.toNat = c.toNat := by
  unfold checkedAdd
  have hc : c.toNat < 2 ^ 64 := c.toNat_lt
  split
  · rename_i h
    rw [Option.some.injEq, ← UInt64.toNat_inj, UInt64.toNat_add, Nat.mod_eq_of_lt h]
  · simp only [reduceCtorEq, false_iff]
    omega

/-- **A checked difference is the difference**, where there is one. -/
theorem checkedSub_eq_some {a b c : UInt64} :
    checkedSub a b = some c ↔ b.toNat ≤ a.toNat ∧ c.toNat = a.toNat - b.toNat := by
  unfold checkedSub
  split
  · rename_i h
    rw [Option.some.injEq, ← UInt64.toNat_inj, UInt64.toNat_sub_of_le _ _ h]
    exact ⟨fun hc => ⟨h, hc.symm⟩, fun hc => hc.2.symm⟩
  · rename_i h
    simp only [reduceCtorEq, false_iff, not_and]
    exact fun hle => absurd (UInt64.le_iff_toNat_le.mpr hle) h

/-- A saturating difference truncates, as on natural numbers. -/
@[simp] theorem satSub_toNat (a b : UInt64) : (satSub a b).toNat = a.toNat - b.toNat :=
  toNat_ofNat (by have := a.toNat_lt; omega)

/-- What is saturated fits. -/
theorem sat_lt (n : ℕ) : sat n < 2 ^ 64 := by
  show min n (2 ^ 64 - 1) < 2 ^ 64
  omega

/-- A number that fits is not lost by saturating above it. -/
theorem le_sat {a n : ℕ} (h : a ≤ n) (ha : a < 2 ^ 64) : a ≤ sat n :=
  Nat.le_min.mpr ⟨h, Nat.le_sub_one_of_lt ha⟩

/-- A saturating sum is the sum, saturated. -/
@[simp] theorem satAdd_toNat (a b : UInt64) :
    (satAdd a b).toNat = sat (a.toNat + b.toNat) :=
  toNat_ofNat (sat_lt _)

/-- What is tried and fits is the number itself. -/
theorem tryOf_eq_some {n : ℕ} {a : UInt64} : tryOf n = some a ↔ a.toNat = n := by
  unfold tryOf
  have ha : a.toNat < 2 ^ 64 := a.toNat_lt
  split
  · rename_i h
    rw [Option.some.injEq, ← UInt64.toNat_inj, toNat_ofNat h]
    exact eq_comm
  · simp only [reduceCtorEq, false_iff]
    omega

/-- An amount other than zero is positive. -/
theorem pos_iff {a : UInt64} : a ≠ 0 ↔ 0 < a.toNat := by
  rw [Nat.pos_iff_ne_zero, ne_eq, ne_eq, ← UInt64.toNat_inj]
  rfl

end U64

/-! ## 128 bits -/

namespace U128

/-- The largest 128-bit number. -/
def max : ℕ := 2 ^ 128 - 1

/-- `checked_add` on 128 bits. -/
def checkedAdd (a b : ℕ) : Option ℕ := if a + b ≤ max then some (a + b) else none

/-- `checked_sub` on 128 bits. -/
def checkedSub (a b : ℕ) : Option ℕ := if b ≤ a then some (a - b) else none

/-- `checked_mul` on 128 bits. -/
def checkedMul (a b : ℕ) : Option ℕ := if a * b ≤ max then some (a * b) else none

/-- `saturating_add` on 128 bits. -/
def satAdd (a b : ℕ) : ℕ := min (a + b) max

/-- `saturating_mul` on 128 bits. -/
def satMul (a b : ℕ) : ℕ := min (a * b) max

/-- A checked sum is the sum, and fits. -/
theorem checkedAdd_eq_some {a b c : ℕ} :
    checkedAdd a b = some c ↔ a + b ≤ max ∧ c = a + b := by
  unfold checkedAdd
  split <;> simp_all [eq_comm]

/-- A checked difference is the difference of ordered numbers. -/
theorem checkedSub_eq_some {a b c : ℕ} : checkedSub a b = some c ↔ b ≤ a ∧ c = a - b := by
  unfold checkedSub
  split <;> simp_all [eq_comm]

/-- A checked product is the product, and fits. -/
theorem checkedMul_eq_some {a b c : ℕ} :
    checkedMul a b = some c ↔ a * b ≤ max ∧ c = a * b := by
  unfold checkedMul
  split <;> simp_all [eq_comm]

/-- The product of two 64-bit numbers leaves room for a sum of two more. -/
theorem mul_lt {a b : ℕ} (ha : a < 2 ^ 64) (hb : b < 2 ^ 64) : a * b + 2 ^ 65 ≤ max + 2 := by
  have hmul : a * b ≤ (2 ^ 64 - 1) * (2 ^ 64 - 1) :=
    Nat.mul_le_mul (Nat.le_sub_one_of_lt ha) (Nat.le_sub_one_of_lt hb)
  show a * b + 2 ^ 65 ≤ 2 ^ 128 - 1 + 2
  omega

/-- The product of two 64-bit numbers does not saturate. -/
theorem satMul_eq {a b : ℕ} (ha : a < 2 ^ 64) (hb : b < 2 ^ 64) : satMul a b = a * b := by
  have hmul : a * b + 2 ^ 65 ≤ max + 2 := mul_lt ha hb
  exact Nat.min_eq_left (by omega)

/-- A sum that fits does not saturate. -/
theorem satAdd_of_le {a b : ℕ} (h : a + b ≤ max) : satAdd a b = a + b := Nat.min_eq_left h

/-- The sum of two 64-bit numbers does not saturate. -/
theorem satAdd_eq {a b : ℕ} (ha : a < 2 ^ 64) (hb : b < 2 ^ 64) : satAdd a b = a + b :=
  satAdd_of_le (by show a + b ≤ 2 ^ 128 - 1; omega)

end U128
