import Mathlib.Data.List.Basic

/-!
# Runs and what they follow

Runs of a labelled step relation, and the two rules by which something is
proved of them: an invariant that every step keeps holds at the end of a run,
and a view of the state that every step changes as its label says has, at the
end of a run, been changed as its labels say in their order. The second is a
refinement: the labels, and what they do to the view, are a system of their
own, and the run is one of its runs.
-/

namespace Simulation

universe u v w

variable {σ : Type u} {ι : Type v} {τ : Type w}

/-- **A run**: steps one after the other, with their labels. -/
inductive Steps (step : σ → ι → σ → Prop) : σ → List ι → σ → Prop
  | nil (s : σ) : Steps step s [] s
  | cons {s s' s'' : σ} {i : ι} {is : List ι} : step s i s' → Steps step s' is s'' →
    Steps step s (i :: is) s''

variable {step : σ → ι → σ → Prop} {s s' s'' : σ} {is js : List ι} {Inv : σ → Prop}

/-- A run of one step. -/
theorem Steps.single {i : ι} (h : step s i s') : Steps step s [i] s' := .cons h (.nil s')

/-- Runs go on. -/
theorem Steps.append (h : Steps step s is s') (h' : Steps step s' js s'') :
    Steps step s (is ++ js) s'' := by
  induction h with
  | nil => exact h'
  | cons hstep _ ih => exact .cons hstep (ih h')

/-- A run may be stopped between any two of its steps. -/
theorem Steps.split (h : Steps step s (is ++ js) s'') :
    ∃ s', Steps step s is s' ∧ Steps step s' js s'' := by
  induction is generalizing s with
  | nil => exact ⟨s, .nil s, h⟩
  | cons i is ih =>
    cases h with
    | cons hstep hrest =>
      obtain ⟨s', his, hjs⟩ := ih hrest
      exact ⟨s', .cons hstep his, hjs⟩

/-- **What every step keeps, a run keeps.** -/
theorem Steps.keeps (h : Steps step s is s')
    (hkeep : ∀ ⦃s i s'⦄, Inv s → step s i s' → Inv s') (hs : Inv s) : Inv s' := by
  induction h with
  | nil => exact hs
  | cons hstep _ ih => exact ih (hkeep hs hstep)

/-- What the invariant says of one step's label, it says of all of a run's. -/
theorem Steps.labels {P : ι → Prop} (h : Steps step s is s')
    (hkeep : ∀ ⦃s i s'⦄, Inv s → step s i s' → Inv s')
    (hlabel : ∀ ⦃s i s'⦄, Inv s → step s i s' → P i) (hs : Inv s) : ∀ i ∈ is, P i := by
  induction h with
  | nil => simp
  | cons hstep _ ih =>
    exact List.forall_mem_cons.mpr ⟨hlabel hs hstep, ih (hkeep hs hstep)⟩

/-- **What every step does to a view, a run does**, label by label. -/
theorem Steps.follows {view : σ → τ} {apply : τ → ι → τ} (h : Steps step s is s')
    (hkeep : ∀ ⦃s i s'⦄, Inv s → step s i s' → Inv s')
    (hstep : ∀ ⦃s i s'⦄, Inv s → step s i s' → view s' = apply (view s) i) (hs : Inv s) :
    view s' = is.foldl apply (view s) := by
  induction h with
  | nil => rfl
  | cons hfirst _ ih => rw [ih (hkeep hs hfirst), hstep hs hfirst, List.foldl_cons]

end Simulation
