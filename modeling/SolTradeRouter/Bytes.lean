import Mathlib.Data.List.Basic
import Mathlib.Tactic.Ring
import SolTradeRouter.Outcome

/-!
# Byte strings

Fixed-width little-endian numbers, slices and copies, over lists. A slice
`xs[a..b]` either yields the elements or panics (`slice`), and `get(a..b)`
yields them or nothing (`range?`). `copyInto` is the copy of one slice
into a buffer, which panics where the buffer is too short.

`range?_eq_some_iff` reads a slice as a splitting of the list, which is
how a parser's success is turned into the shape of what it parsed, and
`range?_append` reads the shape back as a slice.
-/

namespace Bytes

open Outcome

variable {ε α : Type}

/-! ## Little-endian numbers -/

/-- The `w` little-endian bytes of `n`, dropping what is above them. -/
def toLE : ℕ → ℕ → List UInt8
  | 0, _ => []
  | w + 1, n => UInt8.ofNat (n % 256) :: toLE w (n / 256)

/-- The number with the given little-endian bytes. -/
def ofLE : List UInt8 → ℕ
  | [] => 0
  | b :: bs => b.toNat + 256 * ofLE bs

/-- A number takes as many bytes as it is given. -/
@[simp] theorem length_toLE (w n : ℕ) : (toLE w n).length = w := by
  induction w generalizing n with
  | zero => rfl
  | succ w ih => rw [toLE, List.length_cons, ih]

/-- And is read back, less what does not fit. -/
theorem ofLE_toLE (w n : ℕ) : ofLE (toLE w n) = n % 256 ^ w := by
  induction w generalizing n with
  | zero => rw [toLE, ofLE, pow_zero, Nat.mod_one]
  | succ w ih =>
    have hb : (UInt8.ofNat (n % 256)).toNat = n % 256 := by
      rw [UInt8.toNat_ofNat']
      exact Nat.mod_mod n 256
    rw [toLE, ofLE, ih, hb, pow_succ', Nat.mod_mul]

/-- A number read off `k` bytes is below `256 ^ k`. -/
theorem ofLE_lt (l : List UInt8) : ofLE l < 256 ^ l.length := by
  induction l with
  | nil => exact Nat.one_pos
  | cons b bs ih =>
    have hb : b.toNat < 256 := b.toNat_lt
    rw [ofLE, List.length_cons, pow_succ]
    omega

/-- The bytes of a number read off `w` bytes are those bytes. -/
theorem toLE_ofLE (l : List UInt8) : toLE l.length (ofLE l) = l := by
  induction l with
  | nil => rfl
  | cons b bs ih =>
    have hb : b.toNat < 256 := b.toNat_lt
    have hmod : (b.toNat + 256 * ofLE bs) % 256 = b.toNat := by omega
    have hdiv : (b.toNat + 256 * ofLE bs) / 256 = ofLE bs := by omega
    rw [List.length_cons, toLE, ofLE, hmod, hdiv, ih, UInt8.ofNat_toNat]

/-- The eight bytes of a 64-bit number. -/
def ofUInt64 (n : UInt64) : List UInt8 := toLE 8 n.toNat

/-- The 64-bit number with the given bytes. -/
def toUInt64 (l : List UInt8) : UInt64 := UInt64.ofNat (ofLE l)

/-- The two bytes of a 16-bit number. -/
def ofUInt16 (n : UInt16) : List UInt8 := toLE 2 n.toNat

/-- The 16-bit number with the given bytes. -/
def toUInt16 (l : List UInt8) : UInt16 := UInt16.ofNat (ofLE l)

/-- Sixty-four bits are eight bytes. -/
@[simp] theorem length_ofUInt64 (n : UInt64) : (ofUInt64 n).length = 8 :=
  length_toLE 8 _

/-- And sixteen are two. -/
@[simp] theorem length_ofUInt16 (n : UInt16) : (ofUInt16 n).length = 2 :=
  length_toLE 2 _

/-- Eight bytes are read back. -/
@[simp] theorem toUInt64_ofUInt64 (n : UInt64) : toUInt64 (ofUInt64 n) = n := by
  have hn : n.toNat < 256 ^ 8 := n.toNat_lt
  rw [toUInt64, ofUInt64, ofLE_toLE, Nat.mod_eq_of_lt hn, UInt64.ofNat_toNat]

/-- And so are two. -/
@[simp] theorem toUInt16_ofUInt16 (n : UInt16) : toUInt16 (ofUInt16 n) = n := by
  have hn : n.toNat < 256 ^ 2 := n.toNat_lt
  rw [toUInt16, ofUInt16, ofLE_toLE, Nat.mod_eq_of_lt hn, UInt16.ofNat_toNat]

/-- Two bytes are the bytes of the number they encode. -/
theorem ofUInt16_toUInt16 {l : List UInt8} (hl : l.length = 2) :
    ofUInt16 (toUInt16 l) = l := by
  have hlt : ofLE l < 2 ^ 16 := by
    have h := ofLE_lt l
    rw [hl] at h
    exact h
  rw [ofUInt16, toUInt16, UInt16.toNat_ofNat_of_lt' hlt, ← hl, toLE_ofLE]

/-! ## Positions -/

/-- `a + b` on `usize`: a panic when it overflows. -/
def usizeAdd (a b : ℕ) : Except (Abort ε) ℕ :=
  orPanic (if a + b < 2 ^ 64 then some (a + b) else none)

/-- `a - b` on `usize`: a panic when it underflows. -/
def usizeSub (a b : ℕ) : Except (Abort ε) ℕ :=
  orPanic (if b ≤ a then some (a - b) else none)

/-- A sum of lengths returns if it fits. -/
@[simp] theorem usizeAdd_eq_ok {a b c : ℕ} :
    (usizeAdd a b : Except (Abort ε) ℕ) = .ok c ↔ a + b < 2 ^ 64 ∧ a + b = c := by
  rw [usizeAdd, orPanic_eq_ok]
  split <;> simp_all

/-- And is the sum then. -/
theorem usizeAdd_of_lt {a b : ℕ} (h : a + b < 2 ^ 64) :
    (usizeAdd a b : Except (Abort ε) ℕ) = .ok (a + b) :=
  usizeAdd_eq_ok.mpr ⟨h, rfl⟩

/-- A difference of ordered lengths returns. -/
theorem usizeSub_of_le {a b : ℕ} (h : b ≤ a) :
    (usizeSub a b : Except (Abort ε) ℕ) = .ok (a - b) := by
  rw [usizeSub, if_pos h, orPanic_some]

/-! ## Slices -/

/-- `xs.get(a..b)`: the slice, or nothing when it is out of range. -/
def range? (xs : List α) (a b : ℕ) : Option (List α) :=
  if a ≤ b ∧ b ≤ xs.length then some ((xs.drop a).take (b - a)) else none

/-- `xs[a..b]`: the slice, or a panic when it is out of range. -/
def slice (xs : List α) (a b : ℕ) : Except (Abort ε) (List α) :=
  orPanic (range? xs a b)

/-- `xs[i]`: the element, or a panic when it is out of range. -/
def index (xs : List α) (i : ℕ) : Except (Abort ε) α :=
  orPanic xs[i]?

/-- `buf[off..off + src.len()].copy_from_slice(src)`: a panic when the
buffer is too short. -/
def copyInto (buf : List α) (off : ℕ) (src : List α) :
    Except (Abort ε) (List α) :=
  if off + src.length ≤ buf.length then
    .ok (buf.take off ++ src ++ buf.drop (off + src.length))
  else panicked

/-- `xs[a..b] == ys`. -/
def sliceIs [DecidableEq α] (xs : List α) (a b : ℕ) (ys : List α) :
    Except (Abort ε) Bool := do
  let s ← slice xs a b
  pure (s = ys)

/-- A test of the element `xs[i]`. -/
def indexIs (xs : List α) (i : ℕ) (p : α → Bool) : Except (Abort ε) Bool := do
  let x ← index xs i
  pure (p x)

/-- **A slice is a splitting of the list.** -/
theorem range?_eq_some_iff {xs ys : List α} {a b : ℕ} :
    range? xs a b = some ys ↔
      ∃ pre post, xs = pre ++ ys ++ post ∧ pre.length = a
        ∧ a + ys.length = b := by
  unfold range?
  constructor
  · intro h
    split at h
    · rename_i hab
      cases h
      refine ⟨xs.take a, xs.drop b, ?_, ?_, ?_⟩
      · have hb : xs.drop b = (xs.drop a).drop (b - a) := by
          rw [List.drop_drop, Nat.add_sub_of_le hab.1]
        rw [List.append_assoc, hb, List.take_append_drop, List.take_append_drop]
      · rw [List.length_take]
        omega
      · rw [List.length_take, List.length_drop]
        omega
    · cases h
  · rintro ⟨pre, post, rfl, rfl, rfl⟩
    rw [if_pos ⟨by omega, by simp only [List.length_append]; omega⟩,
      List.append_assoc, List.drop_left, Nat.add_sub_cancel_left, List.take_left]

/-- The slice a splitting marks out. -/
theorem range?_append (pre ys post : List α) {b : ℕ}
    (hb : pre.length + ys.length = b) :
    range? (pre ++ ys ++ post) pre.length b = some ys :=
  range?_eq_some_iff.mpr ⟨pre, post, rfl, rfl, hb⟩

/-- A range is as long as its bounds are apart. -/
theorem length_of_range? {xs ys : List α} {a b : ℕ} (h : range? xs a b = some ys) :
    ys.length = b - a := by
  obtain ⟨pre, post, -, -, rfl⟩ := range?_eq_some_iff.mp h
  omega

/-- A slice whose bounds are in range is there. -/
theorem range?_of_le {xs : List α} {a b : ℕ} (hab : a ≤ b) (hb : b ≤ xs.length) :
    range? xs a b = some ((xs.drop a).take (b - a)) :=
  if_pos ⟨hab, hb⟩

/-- A slice returns the range that is there. -/
@[simp] theorem slice_eq_ok {xs ys : List α} {a b : ℕ} :
    (slice xs a b : Except (Abort ε) (List α)) = .ok ys ↔ range? xs a b = some ys :=
  orPanic_eq_ok

/-- And an index the element. -/
@[simp] theorem index_eq_ok {xs : List α} {i : ℕ} {x : α} :
    (index xs i : Except (Abort ε) α) = .ok x ↔ xs[i]? = some x :=
  orPanic_eq_ok

/-- A test of an element that returns tested an element. -/
theorem indexIs_eq_ok {xs : List α} {i : ℕ} {p : α → Bool} {b : Bool} :
    (indexIs xs i p : Except (Abort ε) Bool) = .ok b ↔ ∃ x, xs[i]? = some x ∧ p x = b := by
  simp only [indexIs, bind_eq_ok, index_eq_ok, pure_eq_ok]

/-- A comparison with a slice that returns compared a slice. -/
theorem sliceIs_eq_ok [DecidableEq α] {xs ys : List α} {a b : ℕ} {c : Bool} :
    (sliceIs xs a b ys : Except (Abort ε) Bool) = .ok c ↔
      ∃ zs, range? xs a b = some zs ∧ decide (zs = ys) = c := by
  simp only [sliceIs, bind_eq_ok, slice_eq_ok, pure_eq_ok]

/-- A slice in range is compared without a panic. -/
theorem sliceIs_of_le [DecidableEq α] {xs ys : List α} {a b : ℕ} (hab : a ≤ b)
    (hb : b ≤ xs.length) :
    (sliceIs xs a b ys : Except (Abort ε) Bool)
      = .ok (decide (range? xs a b = some ys)) := by
  rw [sliceIs, slice, range?_of_le hab hb, orPanic_some, ok_bind]
  simp [pure, Except.pure]

/-- An element in range is tested without a panic. -/
theorem indexIs_of_lt {xs : List α} {i : ℕ} {p : α → Bool} (hi : i < xs.length) :
    (indexIs xs i p : Except (Abort ε) Bool) = .ok (xs[i]?.any p) := by
  rw [indexIs, index, List.getElem?_eq_getElem hi, orPanic_some, ok_bind]
  rfl

/-- An element in range is compared without a panic. -/
theorem indexIs_eq_of_lt [DecidableEq α] {xs : List α} {i : ℕ} {a : α}
    (hi : i < xs.length) :
    (indexIs xs i (fun x => decide (x = a)) : Except (Abort ε) Bool)
      = .ok (decide (xs[i]? = some a)) := by
  rw [indexIs_of_lt hi, List.getElem?_eq_getElem hi]
  simp

/-- A copy into a buffer with room for it succeeds. -/
theorem copyInto_ok {buf src : List α} {off : ℕ} (h : off + src.length ≤ buf.length) :
    ∃ out, (copyInto buf off src : Except (Abort ε) (List α)) = .ok out
      ∧ out.length = buf.length := by
  refine ⟨_, if_pos h, ?_⟩
  simp only [List.length_append, List.length_take, List.length_drop]
  omega

/-- **A copy changes the elements it covers and no other.** -/
theorem getElem?_of_copyInto {buf src out : List α} {off : ℕ}
    (h : (copyInto buf off src : Except (Abort ε) (List α)) = .ok out) (i : ℕ) :
    out[i]? = if off ≤ i ∧ i < off + src.length then src[i - off]? else buf[i]? := by
  unfold copyInto at h
  split at h
  · rename_i hle
    cases h
    have htake : (buf.take off).length = off := by
      rw [List.length_take]
      omega
    split
    · rename_i hin
      rw [List.append_assoc, List.getElem?_append_right (by omega), htake,
        List.getElem?_append_left (by omega)]
    · rename_i hout
      rcases Nat.lt_or_ge i off with hlt | hge
      · rw [List.append_assoc, List.getElem?_append_left (by omega),
          List.getElem?_take_of_lt hlt]
      · have hge' : off + src.length ≤ i := by
          by_contra hc
          exact hout ⟨hge, by omega⟩
        rw [List.getElem?_append_right (by simp only [List.length_append]; omega),
          List.getElem?_drop, List.length_append, htake]
        congr 1
        omega
  · cases h

end Bytes
