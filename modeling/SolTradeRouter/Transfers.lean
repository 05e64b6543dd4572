import Mathlib.Algebra.Ring.Nat
import Mathlib.Tactic.TypeStar

/-!
# Runs of transfers

Balances are natural numbers, one for each purse of an arbitrary type. A
transfer takes an amount out of one purse and brings an amount to another,
which need not be the same amount: what is swapped on the way is no concern
of the balances. Source and target may be one purse.

A planned transfer bounds the two amounts. A run carries out a list of
planned transfers, each with amounts within its bounds. What a run does to
one purse is decided by the transfers that name it, and a run that leaves a
given balance there is found as soon as that purse can fund it: all others
may be stocked at will.
-/

namespace Transfers

variable {P : Type*} [DecidableEq P]

/-! ## One transfer -/

/-- **An amount leaves one purse, and an amount reaches another.** -/
structure Moved (b b' : P → ℕ) (source : P) (sent : ℕ) (target : P) (got : ℕ) : Prop where
  funded : sent ≤ b source
  balance : ∀ p, b' p + (if p = source then sent else 0) = b p + (if p = target then got else 0)

/-- **A planned transfer**: the most it takes, and the least it brings. -/
structure Transfer (P : Type*) where
  source : P
  most : ℕ
  target : P
  least : ℕ

/-- A purse that is neither source nor target is left as it is. -/
theorem Moved.of_ne {b b' : P → ℕ} {p source target : P} {sent got : ℕ}
    (h : Moved b b' source sent target got) (hsource : p ≠ source) (htarget : p ≠ target) :
    b' p = b p := by
  have hp := h.balance p
  rwa [if_neg hsource, if_neg htarget] at hp

/-- One purse holds a given amount, and every other at least a given one. -/
structure Stocked (b : P → ℕ) (p : P) (n rest : ℕ) : Prop where
  holds : b p = n
  others : ∀ q ≠ p, rest ≤ b q

/-- **A transfer that a purse can fund is carried out**, out of stock where
another purse is the source. -/
theorem Stocked.exists_moved {b : P → ℕ} {p source target : P} {n rest sent got : ℕ}
    (h : Stocked b p n (sent + rest)) (hfunded : p = source → sent ≤ n) :
    ∃ b', Moved b b' source sent target got
      ∧ Stocked b' p (n - (if p = source then sent else 0) + (if p = target then got else 0))
        rest := by
  have hsent : sent ≤ b source := by
    by_cases hp : source = p
    · rw [hp, h.holds]
      exact hfunded hp.symm
    · exact Nat.le_trans (Nat.le_add_right ..) (h.others source hp)
  refine ⟨fun q => b q - (if q = source then sent else 0) + (if q = target then got else 0),
    ⟨hsent, fun q => ?_⟩, ?_, fun q hq => ?_⟩
  · by_cases hq : q = source
    · rw [if_pos hq, hq]
      omega
    · rw [if_neg hq]
      omega
  · rw [h.holds]
  · have hrest := h.others q hq
    split <;> omega

/-! ## Runs -/

/-- **A run of planned transfers**, one after the other. A transfer takes all
it may, unless its output is the fixed one. -/
inductive Runs (fixed : Bool) : List (Transfer P) → (P → ℕ) → (P → ℕ) → Prop
  | nil {b : P → ℕ} : Runs fixed [] b b
  | cons {t : Transfer P} {ts : List (Transfer P)} {b b₁ b' : P → ℕ} {sent got : ℕ}
    (hmost : sent ≤ t.most) (hall : fixed = false → sent = t.most) (hleast : t.least ≤ got)
    (hmoved : Moved b b₁ t.source sent t.target got) (hrest : Runs fixed ts b₁ b') :
    Runs fixed (t :: ts) b b'

/-- **A purse that no transfer names** is left as it is. -/
theorem Runs.untouched {fixed : Bool} {ts : List (Transfer P)} {b b' : P → ℕ} {p : P}
    (h : Runs fixed ts b b') (hp : ∀ t ∈ ts, p ≠ t.source ∧ p ≠ t.target) : b' p = b p := by
  induction h with
  | nil => rfl
  | cons _ _ _ hmoved _ ih =>
    obtain ⟨hsource, htarget⟩ := hp _ List.mem_cons_self
    rw [ih fun t ht => hp t (List.mem_cons_of_mem _ ht), hmoved.of_ne hsource htarget]

/-- **What a run spends from a purse** that only its first transfer names, and
only as a source. -/
theorem Runs.spent {fixed : Bool} {t : Transfer P} {ts : List (Transfer P)} {b b' : P → ℕ}
    {p : P} (h : Runs fixed (t :: ts) b b') (htarget : p ≠ t.target)
    (hp : ∀ t ∈ ts, p ≠ t.source ∧ p ≠ t.target) :
    ∃ sent, sent ≤ t.most ∧ (fixed = false → sent = t.most)
      ∧ b' p + (if p = t.source then sent else 0) = b p := by
  cases h with
  | cons hmost hall _ hmoved hrest =>
    have hbalance := hmoved.balance p
    rw [if_neg htarget, Nat.add_zero] at hbalance
    exact ⟨_, hmost, hall, by rw [hrest.untouched hp, hbalance]⟩

/-! ## Runs as one purse sees them -/

/-- **A run as one purse sees it**: what each transfer takes from it, and what
each brings to it. -/
inductive Seen (fixed : Bool) (p : P) : List (Transfer P) → ℕ → ℕ → Prop
  | nil {n : ℕ} : Seen fixed p [] n n
  | cons {t : Transfer P} {ts : List (Transfer P)} {n n₁ n' sent got : ℕ}
    (hmost : sent ≤ t.most) (hall : fixed = false → sent = t.most) (hleast : t.least ≤ got)
    (hfunded : p = t.source → sent ≤ n)
    (hbalance : n₁ + (if p = t.source then sent else 0) = n + (if p = t.target then got else 0))
    (hrest : Seen fixed p ts n₁ n') : Seen fixed p (t :: ts) n n'

section Seen

variable {fixed : Bool} {p : P} {t : Transfer P} {ts : List (Transfer P)} {n n' : ℕ}

/-- Every purse sees the run it is part of. -/
theorem Runs.seen {b b' : P → ℕ} (h : Runs fixed ts b b') (p : P) :
    Seen fixed p ts (b p) (b' p) := by
  induction h with
  | nil => exact .nil
  | cons hmost hall hleast hmoved _ ih =>
    refine .cons hmost hall hleast (fun hp => ?_) (hmoved.balance p) ih
    rw [hp]
    exact hmoved.funded

/-- A purse that no transfer names sees nothing. -/
theorem Seen.untouched (h : Seen fixed p ts n n') (hp : ∀ t ∈ ts, p ≠ t.source ∧ p ≠ t.target) :
    n' = n := by
  induction h with
  | nil => rfl
  | cons _ _ _ _ hbalance _ ih =>
    obtain ⟨hsource, htarget⟩ := hp _ List.mem_cons_self
    rw [if_neg hsource, if_neg htarget] at hbalance
    exact (ih fun t ht => hp t (List.mem_cons_of_mem _ ht)).trans hbalance

/-- **What a purse spends** that only the first transfer names, and only as a
source. -/
theorem Seen.spent (h : Seen fixed p (t :: ts) n n') (htarget : p ≠ t.target)
    (hp : ∀ t ∈ ts, p ≠ t.source ∧ p ≠ t.target) :
    ∃ sent, sent ≤ t.most ∧ (fixed = false → sent = t.most)
      ∧ n' + (if p = t.source then sent else 0) = n := by
  cases h with
  | cons hmost hall _ _ hbalance hrest =>
    rw [if_neg htarget, Nat.add_zero, ← hrest.untouched hp] at hbalance
    exact ⟨_, hmost, hall, hbalance⟩

/-- A purse that no transfer takes from never shrinks. -/
theorem Seen.grows (h : Seen fixed p ts n n') (hp : ∀ t ∈ ts, p ≠ t.source) : n ≤ n' := by
  induction h with
  | nil => exact Nat.le_refl _
  | cons _ _ _ _ hbalance _ ih =>
    rw [if_neg (hp _ List.mem_cons_self), Nat.add_zero] at hbalance
    have hrest := ih fun t ht => hp t (List.mem_cons_of_mem _ ht)
    omega

/-- **What a purse gains** that a transfer of the run pays into, and none takes
from. -/
theorem Seen.gains (h : Seen fixed p ts n n') (hp : ∀ t ∈ ts, p ≠ t.source) (ht : t ∈ ts)
    (htarget : p = t.target) : n + t.least ≤ n' := by
  induction h with
  | nil => cases ht
  | cons _ _ hleast _ hbalance hrest ih =>
    rw [if_neg (hp _ List.mem_cons_self), Nat.add_zero] at hbalance
    have hrest' := fun t ht => hp t (List.mem_cons_of_mem _ ht)
    rcases List.mem_cons.mp ht with rfl | ht
    · rw [if_pos htarget] at hbalance
      have hgrows := hrest.grows hrest'
      omega
    · have hmore := ih hrest' ht
      omega

/-- The most a list of transfers takes altogether. -/
def outlay (ts : List (Transfer P)) : ℕ := (ts.map Transfer.most).sum

omit [DecidableEq P] in
/-- More stock than is needed will do. -/
theorem Stocked.mono {b : P → ℕ} {rest rest' : ℕ} (h : Stocked b p n rest) (hle : rest' ≤ rest) :
    Stocked b p n rest' :=
  ⟨h.holds, fun q hq => Nat.le_trans hle (h.others q hq)⟩

/-- **What one purse sees is part of a run**, if the others are stocked. -/
theorem Seen.exists_runs (h : Seen fixed p ts n n') {b : P → ℕ}
    (hb : Stocked b p n (outlay ts)) : ∃ b', Runs fixed ts b b' ∧ b' p = n' := by
  induction h generalizing b with
  | nil => exact ⟨b, .nil, hb.holds⟩
  | @cons t ts n n₁ n' sent got hmost hall hleast hfunded hbalance _ ih =>
    have hstock : sent + outlay ts ≤ outlay (t :: ts) :=
      Nat.add_le_add_right hmost _
    obtain ⟨b₁, hmoved, hstocked⟩ :=
      @Stocked.exists_moved _ _ _ _ t.source t.target _ _ sent got (hb.mono hstock) hfunded
    have hleft : n - (if p = t.source then sent else 0) + (if p = t.target then got else 0)
        = n₁ := by
      by_cases hp : p = t.source
      · have hle := hfunded hp
        rw [if_pos hp] at hbalance ⊢
        omega
      · rw [if_neg hp] at hbalance ⊢
        omega
    rw [hleft] at hstocked
    obtain ⟨b', hruns, hlast⟩ := ih hstocked
    exact ⟨b', .cons hmost hall hleast hmoved hruns, hlast⟩

end Seen

end Transfers
