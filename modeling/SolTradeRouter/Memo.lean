import Mathlib.Data.List.Nodup

/-!
# Bounded memo tables

A table that remembers the values of a function. A lookup that finds its key
returns what it finds; one that does not computes the value, and records it
while there is room.

`Returns` is the rule of programs that use such a table among other things:
whatever the table holds, as long as what it holds is right, the program
returns one value, the table is right afterwards, and nothing that was recorded
is lost. It composes, so that a program's value is computed from the values of
its parts and the table is not looked at again.
-/

namespace Memo

universe u v w

variable {κ : Type u} {ν : Type v} [BEq κ]

/-- Recorded values, with their keys. -/
abbrev Table (κ : Type u) (ν : Type v) := List (κ × ν)

/-- **Look up or compute**, and record what was computed while the table has
fewer than `cap` entries. -/
def fetch (f : κ → ν) (cap : ℕ) (k : κ) (t : Table κ ν) : ν × Table κ ν :=
  match t.lookup k with
  | some v => (v, t)
  | none => (f k, if t.length < cap then (k, f k) :: t else t)

/-- **A table is sound**: what it holds are values of the function, one entry
to a key, and no more entries than there is room for. -/
structure Sound (f : κ → ν) (cap : ℕ) (t : Table κ ν) : Prop where
  agrees : ∀ {k v}, t.lookup k = some v → v = f k
  nodup : (t.map Prod.fst).Nodup
  bounded : t.length ≤ cap

/-- Every key recorded in `t` is recorded in `t'`, with its value. -/
def Keeps (t t' : Table κ ν) : Prop := ∀ {k v}, t.lookup k = some v → t'.lookup k = some v

theorem Keeps.refl (t : Table κ ν) : Keeps t t := fun h => h

theorem Keeps.trans {t t' t'' : Table κ ν} (h : Keeps t t') (h' : Keeps t' t'') : Keeps t t'' :=
  fun hk => h' (h hk)

variable {f : κ → ν} {cap : ℕ}

theorem Sound.nil : Sound f cap ([] : Table κ ν) where
  agrees h := by simp at h
  nodup := List.nodup_nil
  bounded := Nat.zero_le _

/-- A key that is recorded is found, and the table stays as it is. -/
theorem fetch_hit {t : Table κ ν} {k : κ} {v : ν} (h : t.lookup k = some v) :
    fetch f cap k t = (v, t) := by
  rw [fetch, h]

/-- A key that is not recorded is computed. -/
theorem fetch_miss {t : Table κ ν} {k : κ} (h : t.lookup k = none) :
    fetch f cap k t = (f k, if t.length < cap then (k, f k) :: t else t) := by
  rw [fetch, h]

/-- A lookup records one entry at most. -/
theorem length_fetch_le (k : κ) (t : Table κ ν) :
    (fetch f cap k t).2.length ≤ t.length + 1 := by
  cases h : t.lookup k with
  | some v =>
    rw [fetch_hit h]
    exact Nat.le_succ _
  | none =>
    rw [fetch_miss h]
    dsimp only
    split
    · exact Nat.le_refl _
    · exact Nat.le_succ _

variable [LawfulBEq κ]

/-- A key with no recorded value is not among the keys. -/
theorem notMem_of_lookup {t : Table κ ν} {k : κ} (h : t.lookup k = none) :
    k ∉ t.map Prod.fst := by
  intro hk
  obtain ⟨e, he, rfl⟩ := List.mem_map.mp hk
  exact absurd (List.lookup_eq_none_iff.mp h e he) (by simp)

/-- A new entry leaves the others where they were. -/
theorem Keeps.cons {t : Table κ ν} {k : κ} (h : t.lookup k = none) (v : ν) :
    Keeps t ((k, v) :: t) := by
  intro k' v' hk'
  rw [List.lookup_cons]
  by_cases hkk : k' = k
  · rw [hkk, h] at hk'
    exact absurd hk' (by simp)
  · rw [beq_false_of_ne hkk]
    exact hk'

/-- A value that the table does not hold may be recorded. -/
theorem Sound.cons {t : Table κ ν} {k : κ} (ht : Sound f cap t) (h : t.lookup k = none)
    (hroom : t.length < cap) : Sound f cap ((k, f k) :: t) where
  agrees {k' v'} hk' := by
    rw [List.lookup_cons] at hk'
    by_cases hkk : k' = k
    · rw [hkk, beq_self_eq_true] at hk'
      rw [hkk]
      exact (Option.some.inj hk').symm
    · rw [beq_false_of_ne hkk] at hk'
      exact ht.agrees hk'
  nodup := List.nodup_cons.mpr ⟨notMem_of_lookup h, ht.nodup⟩
  bounded := hroom

/-! ## Programs that use a table -/

/-- **A program returns `a`** from every sound table, leaves it sound, and
keeps what it recorded. -/
def Returns {α : Type w} (f : κ → ν) (cap : ℕ) (m : Table κ ν → α × Table κ ν) (a : α) : Prop :=
  ∀ t, Sound f cap t → (m t).1 = a ∧ Sound f cap (m t).2 ∧ Keeps t (m t).2

/-- **A lookup returns the function's value**, recorded or not. -/
theorem Returns.fetch (k : κ) : Returns f cap (fetch f cap k) (f k) := by
  intro t ht
  cases h : t.lookup k with
  | some v =>
    rw [fetch_hit h]
    exact ⟨ht.agrees h, ht, Keeps.refl t⟩
  | none =>
    rw [fetch_miss h]
    refine ⟨rfl, ?_⟩
    split
    · rename_i hroom
      exact ⟨ht.cons h hroom, Keeps.cons h (f k)⟩
    · exact ⟨ht, Keeps.refl t⟩

section Programs

variable {κ : Type} {ν : Type} [BEq κ] {f : κ → ν} {cap : ℕ} {α β : Type}

theorem Returns.pure (a : α) : Returns f cap (pure a : StateM (Table κ ν) α) a :=
  fun t ht => ⟨rfl, ht, Keeps.refl t⟩

/-- **Programs compose**: what comes after continues with the value. -/
theorem Returns.bind {m : StateM (Table κ ν) α} {g : α → StateM (Table κ ν) β} {a : α} {b : β}
    (hm : Returns f cap m a) (hg : Returns f cap (g a) b) : Returns f cap (m >>= g) b := by
  intro t ht
  obtain ⟨hval, hsound, hkeep⟩ := hm t ht
  have hrun : (m >>= g) t = g a (m t).2 := by
    rw [← hval]
    rfl
  rw [hrun]
  obtain ⟨hval', hsound', hkeep'⟩ := hg _ hsound
  exact ⟨hval', hsound', hkeep.trans hkeep'⟩

theorem Returns.ite {c : Prop} [Decidable c] {m m' : StateM (Table κ ν) α} {a a' : α}
    (h : c → Returns f cap m a) (h' : ¬ c → Returns f cap m' a') :
    Returns f cap (if c then m else m') (if c then a else a') := by
  split
  · rename_i hc
    exact h hc
  · rename_i hc
    exact h' hc

/-- A loop over keys returns nothing and keeps the table sound. -/
theorem Returns.forM {ks : List α} {g : α → StateM (Table κ ν) PUnit}
    (hg : ∀ k ∈ ks, Returns f cap (g k) PUnit.unit) : Returns f cap (ks.forM g) PUnit.unit := by
  induction ks with
  | nil => exact Returns.pure PUnit.unit
  | cons k ks ih =>
    exact (hg k List.mem_cons_self).bind (ih fun k' hk' => hg k' (List.mem_cons_of_mem _ hk'))

end Programs

/-! ## Warming a table -/

/-- Looking the keys up one after the other. -/
def warm (f : κ → ν) (cap : ℕ) (ks : List κ) (t : Table κ ν) : Table κ ν :=
  ks.foldl (fun t k => (fetch f cap k t).2) t

/-- While there is room, a key that was looked up is recorded. -/
theorem lookup_fetch {t : Table κ ν} (ht : Sound f cap t) (k : κ) (hroom : t.length < cap) :
    (fetch f cap k t).2.lookup k = some (f k) := by
  cases h : t.lookup k with
  | some v =>
    rw [fetch_hit h, h, ht.agrees h]
  | none =>
    rw [fetch_miss h, if_pos hroom]
    simp

/-- Looking keys up keeps a table sound, and what it holds. -/
theorem warm_keeps (ks : List κ) {t : Table κ ν} (ht : Sound f cap t) :
    Sound f cap (warm f cap ks t) ∧ Keeps t (warm f cap ks t) := by
  induction ks generalizing t with
  | nil => exact ⟨ht, Keeps.refl t⟩
  | cons k ks ih =>
    obtain ⟨-, hsound, hkeep⟩ := Returns.fetch k t ht
    obtain ⟨hsound', hkeep'⟩ := ih hsound
    exact ⟨hsound', hkeep.trans hkeep'⟩

/-- **Warmed keys are recorded**, when there is room for all of them. -/
theorem lookup_warm {ks : List κ} {t : Table κ ν} (ht : Sound f cap t)
    (hroom : t.length + ks.length ≤ cap) :
    ∀ k ∈ ks, (warm f cap ks t).lookup k = some (f k) := by
  induction ks generalizing t with
  | nil => simp
  | cons k ks ih =>
    rw [List.length_cons] at hroom
    have hlen : (fetch f cap k t).2.length ≤ t.length + 1 := length_fetch_le k t
    have hsound : Sound f cap (fetch f cap k t).2 := (Returns.fetch k t ht).2.1
    intro k' hk'
    cases List.mem_cons.mp hk' with
    | inl h =>
      rw [h]
      exact (warm_keeps ks hsound).2 (lookup_fetch ht k (by omega))
    | inr h => exact ih hsound (by omega) k' h

end Memo
