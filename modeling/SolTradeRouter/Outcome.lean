import Mathlib.Data.List.Forall2

/-!
# Computations that may stop early

A step of a program either returns a value, returns an error of its own,
or panics: an index past the end of a slice, an arithmetic overflow, a
copy between slices of different lengths. `Abort` keeps the last two
apart, so that a statement can say which of them happened – and so that
the absence of a panic is something to prove rather than something the
definitions assume.

Readers that change nothing are `Except (Abort ε)` computations. A
computation that owns a state is an `EStateM (Abort ε)` one, which keeps
the state it had reached when it stops: what a failing computation has
already done remains visible.

The rules below take a computation apart: from the success of a sequence
they give the success of each of its parts, with the values and the
states in between.
-/

/-- **How a computation stops early**: with an error value of the
program, or with a panic. -/
inductive Abort (ε : Type) where
  | panic
  | error (e : ε)
  deriving DecidableEq, Repr

namespace Outcome

variable {ε σ α β : Type}

/-- Stop with an error of the program. -/
def fail (e : ε) : Except (Abort ε) α := .error (.error e)

/-- Stop with a panic. -/
def panicked : Except (Abort ε) α := .error .panic

/-- Stop with the error `e` if the condition holds. -/
def failIf (c : Prop) [Decidable c] (e : ε) : Except (Abort ε) Unit :=
  if c then fail e else .ok ()

/-- The value of an option, or the error `e`. -/
def okOr (o : Option α) (e : ε) : Except (Abort ε) α :=
  match o with
  | some a => .ok a
  | none => fail e

/-- The value of an option that the program takes to be there. -/
def orPanic (o : Option α) : Except (Abort ε) α :=
  match o with
  | some a => .ok a
  | none => panicked

/-- `if c { t } else { e }`, where computing the condition may stop. -/
def choose (c : Except ε Bool) (t e : Except ε α) : Except ε α := do
  let b ← c
  if b then t else e

/-- `c₁ && c₂ && …`: the first condition that fails decides, and those
after it are not computed. -/
def allOf : List (Except ε Bool) → Except ε Bool
  | [] => .ok true
  | c :: cs => choose c (allOf cs) (.ok false)

/-- `c₁ || c₂ || …`: the first condition that holds decides, and those
after it are not computed. -/
def anyOf : List (Except ε Bool) → Except ε Bool
  | [] => .ok false
  | c :: cs => choose c (.ok true) (anyOf cs)

/-- `if c₁ { x₁ } else if c₂ { x₂ } … else { e }`. -/
def firstOf : List (Except ε Bool × Except ε α) → Except ε α → Except ε α
  | [], e => e
  | b :: bs, e => choose b.1 b.2 (firstOf bs e)

/-- A reader inside a computation that owns a state. -/
instance readLift : MonadLift (Except ε) (EStateM ε σ) where
  monadLift x s := match x with
    | .ok a => .ok a s
    | .error e => .error e s

/-! ## Readers -/

/-- A check passes if there is nothing to object to. -/
@[simp] theorem failIf_eq_ok {c : Prop} [Decidable c] {e : ε} {u : Unit} :
    failIf c e = .ok u ↔ ¬ c := by
  unfold failIf fail
  split <;> simp_all

/-- It stops with its own error. -/
@[simp] theorem failIf_eq_error {c : Prop} [Decidable c] {e : ε} {f : Abort ε} :
    failIf c e = .error f ↔ c ∧ f = .error e := by
  unfold failIf fail
  split
  · rename_i h
    simp only [Except.error.injEq, h, true_and]
    exact eq_comm
  · rename_i h
    simp [h]

/-- A value that is there is handed on. -/
@[simp] theorem okOr_eq_ok {o : Option α} {e : ε} {a : α} :
    okOr o e = .ok a ↔ o = some a := by
  cases o <;> simp [okOr, fail]

/-- An unwrapped value was there. -/
@[simp] theorem orPanic_eq_ok {o : Option α} {a : α} :
    (orPanic o : Except (Abort ε) α) = .ok a ↔ o = some a := by
  cases o <;> simp [orPanic, panicked]

/-- A value that is there raises no error. -/
@[simp] theorem okOr_some (a : α) (e : ε) : okOr (some a) e = .ok a := rfl

/-- Nor does it panic. -/
@[simp] theorem orPanic_some (a : α) :
    (orPanic (some a) : Except (Abort ε) α) = .ok a := rfl

/-- A failure does not return. -/
@[simp] theorem fail_ne_ok {e : ε} {a : α} :
    (fail e : Except (Abort ε) α) ≠ .ok a := by
  simp [fail]

/-- **A sequence of readers returns exactly when both do.** -/
theorem bind_eq_ok {x : Except ε α} {f : α → Except ε β} {b : β} :
    (x >>= f) = .ok b ↔ ∃ a, x = .ok a ∧ f a = .ok b := by
  cases x with
  | error e => simp [bind, Except.bind]
  | ok a => simp [bind, Except.bind]

/-- A sequence of readers stops where its first part stops, or where the
rest does. -/
theorem bind_eq_error {x : Except ε α} {f : α → Except ε β} {e : ε} :
    (x >>= f) = .error e ↔ x = .error e ∨ ∃ a, x = .ok a ∧ f a = .error e := by
  cases x with
  | error e' => simp [bind, Except.bind]
  | ok a => simp [bind, Except.bind]

/-- What has returned goes on with its value. -/
@[simp] theorem ok_bind (a : α) (f : α → Except ε β) :
    (Except.ok a >>= f) = f a := rfl

/-- Returning a value returns that value. -/
@[simp] theorem pure_eq_ok {a b : α} :
    (pure a : Except ε α) = .ok b ↔ a = b := by
  simp [pure, Except.pure]

/-- A condition that has been computed selects a branch. -/
@[simp] theorem choose_ok (b : Bool) (t e : Except ε α) :
    choose (.ok b) t e = if b then t else e := rfl

/-- **A conjunction is decided by its parts**, where those after the first
need to be computed only if the first holds. -/
theorem allOf_cons {A B : Prop} [Decidable A] [Decidable B] {c : Except ε Bool}
    {cs : List (Except ε Bool)} (hc : c = .ok (decide A))
    (hcs : A → allOf cs = .ok (decide B)) :
    allOf (c :: cs) = .ok (decide (A ∧ B)) := by
  rw [allOf, hc, choose_ok]
  by_cases hA : A
  · simp [hA, hcs hA]
  · simp [hA]

/-- One condition holds if all do. -/
theorem allOf_single {A : Prop} [Decidable A] {c : Except ε Bool}
    (hc : c = .ok (decide A)) : allOf [c] = .ok (decide A) := by
  rw [allOf, hc, choose_ok, allOf]
  by_cases hA : A <;> simp [hA]

/-- **A disjunction is decided by its parts**, where those after the first
need to be computed only if the first fails. -/
theorem anyOf_cons {A B : Prop} [Decidable A] [Decidable B] {c : Except ε Bool}
    {cs : List (Except ε Bool)} (hc : c = .ok (decide A))
    (hcs : ¬ A → anyOf cs = .ok (decide B)) :
    anyOf (c :: cs) = .ok (decide (A ∨ B)) := by
  rw [anyOf, hc, choose_ok]
  by_cases hA : A
  · simp [hA]
  · simp [hA, hcs hA]

/-- One condition holds if any does. -/
theorem anyOf_single {A : Prop} [Decidable A] {c : Except ε Bool}
    (hc : c = .ok (decide A)) : anyOf [c] = .ok (decide A) := by
  rw [anyOf, hc, choose_ok, anyOf]
  by_cases hA : A <;> simp [hA]

/-- **No condition holds exactly when each is computed and fails.** -/
theorem anyOf_eq_false {cs : List (Except ε Bool)} :
    anyOf cs = .ok false ↔ ∀ c ∈ cs, c = .ok false := by
  induction cs with
  | nil => simp [anyOf]
  | cons c cs ih =>
    cases c with
    | error e => simp [anyOf, choose, bind_eq_ok]
    | ok b => cases b <;> simp [anyOf, ih]

/-- **A chain of branches takes the first whose condition holds**, when
every condition can be computed. The branches are named by `is`. -/
theorem firstOf_eq_find? {ι : Type} {P : ι → Prop} [DecidablePred P] {f : ι → α}
    {is : List ι} {bs : List (Except ε Bool × Except ε α)} {e : Except ε α}
    (h : List.Forall₂ (fun i b => b.1 = .ok (decide (P i)) ∧ (P i → b.2 = .ok (f i)))
      is bs) :
    firstOf bs e = (is.find? (fun i => decide (P i))).elim e (fun i => .ok (f i)) := by
  induction h with
  | nil => rfl
  | @cons i b is bs hb _ ih =>
    rw [firstOf, hb.1, choose_ok, List.find?_cons, ih]
    by_cases hP : P i
    · simp [hP, hb.2 hP]
    · simp [hP]

/-! ## Computations with a state -/

/-- **A sequence returns exactly when both parts do**, the second from
the state the first leaves. -/
theorem run_bind_eq_ok {x : EStateM ε σ α} {f : α → EStateM ε σ β} {s s'' : σ}
    {b : β} :
    (x >>= f) s = .ok b s'' ↔ ∃ a s', x s = .ok a s' ∧ f a s' = .ok b s'' := by
  show EStateM.bind x f s = _ ↔ _
  unfold EStateM.bind
  cases h : x s with
  | error e s' => simp
  | ok a s' =>
    constructor
    · exact fun hf => ⟨a, s', rfl, hf⟩
    · rintro ⟨_, _, ha, hf⟩
      cases ha
      exact hf

/-- A sequence stops in its first part, or in the rest from the state
the first part leaves. -/
theorem run_bind_eq_error {x : EStateM ε σ α} {f : α → EStateM ε σ β} {s s'' : σ}
    {e : ε} :
    (x >>= f) s = .error e s'' ↔
      x s = .error e s'' ∨ ∃ a s', x s = .ok a s' ∧ f a s' = .error e s'' := by
  show EStateM.bind x f s = _ ↔ _
  unfold EStateM.bind
  cases h : x s with
  | error e' s' => simp
  | ok a s' =>
    constructor
    · exact fun hf => .inr ⟨a, s', rfl, hf⟩
    · rintro (ha | ⟨_, _, ha, hf⟩)
      · cases ha
      · cases ha
        exact hf

/-- Returning a value leaves the state as it is. -/
@[simp] theorem run_pure_eq_ok {s s' : σ} {a b : α} :
    (pure a : EStateM ε σ α) s = .ok b s' ↔ a = b ∧ s = s' := by
  show EStateM.Result.ok a s = _ ↔ _
  simp

/-- And does not stop. -/
@[simp] theorem run_pure_ne_error {s s' : σ} {a : α} {e : ε} :
    (pure a : EStateM ε σ α) s ≠ .error e s' := by
  show EStateM.Result.ok a s ≠ _
  simp

/-- A reader returns inside a computation exactly when it returns, and
leaves the state alone. -/
@[simp] theorem run_lift_eq_ok {x : Except ε α} {s s' : σ} {a : α} :
    (liftM x : EStateM ε σ α) s = .ok a s' ↔ x = .ok a ∧ s = s' := by
  cases x with
  | error e => exact iff_of_false (fun h => by cases h) (fun h => by cases h.1)
  | ok b =>
    show EStateM.Result.ok b s = _ ↔ _
    simp

/-- A reader stops inside a computation where it stops by itself. -/
@[simp] theorem run_lift_eq_error {x : Except ε α} {s s' : σ} {e : ε} :
    (liftM x : EStateM ε σ α) s = .error e s' ↔ x = .error e ∧ s = s' := by
  cases x with
  | ok b => exact iff_of_false (fun h => by cases h) (fun h => by cases h.1)
  | error e' =>
    show EStateM.Result.error e' s = _ ↔ _
    simp

/-- A sequence that starts with a reader runs its rest from the same
state. -/
theorem run_lift_bind_eq_ok {x : Except ε α} {f : α → EStateM ε σ β} {s s' : σ} {b : β} :
    (liftM x >>= f) s = .ok b s' ↔ ∃ a, x = .ok a ∧ f a s = .ok b s' := by
  rw [run_bind_eq_ok]
  constructor
  · rintro ⟨a, s₁, h, hf⟩
    obtain ⟨hx, rfl⟩ := run_lift_eq_ok.mp h
    exact ⟨a, hx, hf⟩
  · rintro ⟨a, hx, hf⟩
    exact ⟨a, s, run_lift_eq_ok.mpr ⟨hx, rfl⟩, hf⟩

/-! ## Relating the states around a computation -/

/-- The state a computation ends in, whether it returned or stopped. -/
def endState : EStateM.Result ε σ α → σ
  | .ok _ s => s
  | .error _ s => s

/-- **A computation moves along a relation** when its end state is related
to its start state, whether it returns or stops. -/
def Moves (R : σ → σ → Prop) (x : EStateM ε σ α) : Prop :=
  ∀ s, R s (endState (x s))

section

variable {R : σ → σ → Prop}

/-- Returning a value stays where it is. -/
theorem moves_pure (hrefl : ∀ s, R s s) (a : α) : Moves R (pure a : EStateM ε σ α) :=
  fun s => hrefl s

/-- A reader stays where it is, whether it returns or stops. -/
theorem moves_lift (hrefl : ∀ s, R s s) (x : Except ε α) :
    Moves R (liftM x : EStateM ε σ α) := by
  intro s
  cases x with
  | ok a => exact hrefl s
  | error e => exact hrefl s

/-- A sequence moves along a transitive relation when its parts do. -/
theorem moves_bind (htrans : ∀ ⦃s s' s''⦄, R s s' → R s' s'' → R s s'')
    {x : EStateM ε σ α} {f : α → EStateM ε σ β} (hx : Moves R x)
    (hf : ∀ a, Moves R (f a)) : Moves R (x >>= f) := by
  intro s
  show R s (endState (EStateM.bind x f s))
  have h := hx s
  unfold EStateM.bind
  cases hxs : x s with
  | ok a s' =>
    rw [hxs] at h
    exact htrans h (hf a s')
  | error e s' =>
    rw [hxs] at h
    exact h

/-- A sequence that starts with a reader moves as its rest does. -/
theorem moves_lift_bind {x : Except ε α} {f : α → EStateM ε σ β}
    (hrefl : ∀ s, R s s) (hf : ∀ a, Moves R (f a)) : Moves R (liftM x >>= f) := by
  intro s
  cases x with
  | ok a => exact hf a s
  | error e => exact hrefl s

/-- Either branch moves along the relation. -/
theorem moves_ite {c : Prop} [Decidable c] {x y : EStateM ε σ α} (hx : Moves R x)
    (hy : Moves R y) : Moves R (if c then x else y) := by
  split
  · exact hx
  · exact hy

end

/-- **A computation is atomic** when, if it stops, it leaves the state as it
found it. -/
def Atomic (x : EStateM ε σ α) : Prop :=
  ∀ s e s', x s = .error e s' → s' = s

/-- A reader that stops has changed nothing. -/
theorem atomic_lift (x : Except ε α) : Atomic (liftM x : EStateM ε σ α) := by
  intro s e s' h
  exact (run_lift_eq_error.mp h).2.symm

/-- Reading first adds no way to stop halfway. -/
theorem atomic_lift_bind {x : Except ε α} {f : α → EStateM ε σ β}
    (hf : ∀ a, x = .ok a → Atomic (f a)) : Atomic (liftM x >>= f) := by
  intro s e s' h
  cases hx : x with
  | ok a =>
    rw [hx] at h
    exact hf a hx s e s' h
  | error e' =>
    rw [hx] at h
    cases h
    rfl

/-- A sequence is atomic when its first part is and its rest cannot stop. -/
theorem atomic_bind {x : EStateM ε σ α} {f : α → EStateM ε σ β} (hx : Atomic x)
    (hf : ∀ {s a s'}, x s = .ok a s' → ∀ e s'', f a s' ≠ .error e s'') :
    Atomic (x >>= f) := by
  intro s e s' h
  rcases run_bind_eq_error.mp h with h | ⟨a, s₁, h₁, h⟩
  · exact hx s e s' h
  · exact absurd h (hf h₁ e s')

/-! ## What a computation ensures -/

/-- **What a reader can stop with.** -/
def Raises (P : ε → Prop) (x : Except ε α) : Prop := ∀ e, x = .error e → P e

section

variable {P : ε → Prop}

/-- What has returned stops with nothing. -/
theorem raises_ok (a : α) : Raises P (.ok a : Except ε α) := fun _ h => by cases h

/-- An error stops with itself. -/
theorem raises_error {e : ε} (h : P e) : Raises P (.error e : Except ε α) := by
  intro e' he
  cases he
  exact h

/-- A sequence stops with what its parts do. -/
theorem raises_bind {x : Except ε α} {f : α → Except ε β} (hx : Raises P x)
    (hf : ∀ a, x = .ok a → Raises P (f a)) : Raises P (x >>= f) := by
  intro e h
  rcases bind_eq_error.mp h with h | ⟨a, ha, h⟩
  · exact hx e h
  · exact hf a ha e h

/-- Either branch stops with what it may. -/
theorem raises_ite {c : Prop} [Decidable c] {x y : Except ε α} (hx : c → Raises P x)
    (hy : ¬ c → Raises P y) : Raises P (if c then x else y) := by
  split
  · rename_i hc
    exact hx hc
  · rename_i hc
    exact hy hc

end

/-- **What a reader returns.** -/
def Yields (P : α → Prop) (x : Except ε α) : Prop := ∀ a, x = .ok a → P a

section

variable {P : α → Prop}

/-- A value is what it returns. -/
theorem yields_pure {a : α} (h : P a) : Yields P (pure a : Except ε α) := by
  intro b hb
  cases hb
  exact h

/-- An error returns nothing. -/
theorem yields_error {e : ε} : Yields P (.error e : Except ε α) := fun _ h => by cases h

/-- **A sequence returns what its rest does**, from whatever its first part
returns. -/
theorem yields_bind {x : Except ε β} {f : β → Except ε α}
    (h : ∀ b, x = .ok b → Yields P (f b)) : Yields P (x >>= f) := by
  intro a ha
  obtain ⟨b, hb, ha⟩ := bind_eq_ok.mp ha
  exact h b hb a ha

/-- A sequence whose first part is known by what it returns. -/
theorem Yields.bind {Q : β → Prop} {x : Except ε β} {f : β → Except ε α} (hx : Yields Q x)
    (h : ∀ b, Q b → Yields P (f b)) : Yields P (x >>= f) :=
  yields_bind fun b hb => h b (hx b hb)

/-- Either branch returns what it may. -/
theorem yields_ite {c : Prop} [Decidable c] {x y : Except ε α} (hx : c → Yields P x)
    (hy : ¬ c → Yields P y) : Yields P (if c then x else y) := by
  split
  · rename_i hc
    exact hx hc
  · rename_i hc
    exact hy hc

end

/-- A check stops with its error, and only when it applies. -/
theorem raises_failIf {P : Abort ε → Prop} {c : Prop} [Decidable c] {e : ε}
    (h : c → P (.error e)) : Raises P (failIf c e) := by
  intro f hf
  obtain ⟨hc, rfl⟩ := failIf_eq_error.mp hf
  exact h hc

/-- A missing value stops with its error. -/
theorem raises_okOr {P : Abort ε → Prop} {o : Option α} {e : ε} (h : P (.error e)) :
    Raises P (okOr o e) := by
  cases o with
  | none => exact raises_error h
  | some a => exact raises_ok a

/-! ### No panic -/

/-- **A reader that does not panic.** -/
def Calm (x : Except (Abort ε) α) : Prop := Raises (· ≠ .panic) x

/-- What has returned did not panic. -/
theorem calm_ok {a : α} : Calm (.ok a : Except (Abort ε) α) := raises_ok a

/-- An error is no panic. -/
theorem calm_fail {e : ε} : Calm (fail e : Except (Abort ε) α) := raises_error nofun

/-- Nor is a check that fails. -/
theorem calm_failIf {c : Prop} [Decidable c] {e : ε} : Calm (failIf c e) :=
  raises_failIf fun _ => nofun

/-- Nor is a missing value with an error of its own. -/
theorem calm_okOr {o : Option α} {e : ε} : Calm (okOr o e) := raises_okOr nofun

/-- A sequence does not panic if its parts do not. -/
theorem calm_bind {x : Except (Abort ε) α} {f : α → Except (Abort ε) β} (hx : Calm x)
    (hf : ∀ a, x = .ok a → Calm (f a)) : Calm (x >>= f) :=
  raises_bind hx hf

/-- And a branch does not if neither does. -/
theorem calm_ite {c : Prop} [Decidable c] {x y : Except (Abort ε) α} (hx : Calm x)
    (hy : Calm y) : Calm (if c then x else y) :=
  raises_ite (fun _ => hx) fun _ => hy

/-- **A reader that refuses**: it stops with an error of the program. -/
def Refuses (x : Except (Abort ε) α) : Prop := ∃ e, x = .error (.error e)

/-- An error of the program refuses. -/
theorem refuses_fail {e : ε} : Refuses (fail e : Except (Abort ε) α) := ⟨e, rfl⟩

/-- A check that applies refuses. -/
theorem refuses_failIf {c : Prop} [Decidable c] {e : ε} (h : c) : Refuses (failIf c e) :=
  ⟨e, if_pos h⟩

/-- What is refused at first is refused. -/
theorem Refuses.bind {x : Except (Abort ε) α} {f : α → Except (Abort ε) β} (h : Refuses x) :
    Refuses (x >>= f) := by
  obtain ⟨e, rfl⟩ := h
  exact ⟨e, rfl⟩

/-- **What is refused after a calm start is refused.** -/
theorem refuses_bind {x : Except (Abort ε) α} {f : α → Except (Abort ε) β} (hx : Calm x)
    (hf : ∀ a, x = .ok a → Refuses (f a)) : Refuses (x >>= f) := by
  cases hcase : x with
  | ok a => exact hf a hcase
  | error e =>
    cases e with
    | panic => exact absurd rfl (hx _ hcase)
    | error e => exact ⟨e, rfl⟩

/-! ### Reports -/

/-- **A reader that reports**: it stops only with one of the given errors of
the program, and so never with a panic. -/
def Reports (es : List ε) (x : Except (Abort ε) α) : Prop :=
  Raises (fun e => ∃ pe ∈ es, e = .error pe) x

section

variable {es : List ε}

/-- What holds of every listed error holds of what a reader stops with. -/
theorem Reports.raises {P : Abort ε → Prop} {x : Except (Abort ε) α} (h : Reports es x)
    (hP : ∀ pe ∈ es, P (.error pe)) : Raises P x := by
  intro e he
  obtain ⟨pe, hpe, rfl⟩ := h e he
  exact hP pe hpe

/-- A longer list of errors is reported as well. -/
theorem Reports.mono {es' : List ε} {x : Except (Abort ε) α} (h : Reports es x)
    (hes : ∀ pe ∈ es, pe ∈ es') : Reports es' x :=
  h.raises fun pe hpe => ⟨pe, hes pe hpe, rfl⟩

/-- Nothing that reports panics. -/
theorem Reports.calm {x : Except (Abort ε) α} (h : Reports es x) : Calm x :=
  h.raises fun _ _ => nofun

/-- What has returned reports nothing. -/
theorem reports_ok (a : α) : Reports es (.ok a : Except (Abort ε) α) := raises_ok a

/-- Nor does a reader that is known to return. -/
theorem reports_of_eq_ok {x : Except (Abort ε) α} {a : α} (h : x = .ok a) : Reports es x := by
  rw [h]
  exact reports_ok a

/-- A listed error is reported. -/
theorem reports_fail {e : ε} (h : e ∈ es) : Reports es (fail e : Except (Abort ε) α) :=
  raises_error ⟨e, h, rfl⟩

/-- So is a check's. -/
theorem reports_failIf {c : Prop} [Decidable c] {e : ε} (h : e ∈ es) :
    Reports es (failIf c e) :=
  raises_failIf fun _ => ⟨e, h, rfl⟩

/-- And a missing value's. -/
theorem reports_okOr {o : Option α} {e : ε} (h : e ∈ es) : Reports es (okOr o e) :=
  raises_okOr ⟨e, h, rfl⟩

/-- A sequence reports what its parts do. -/
theorem reports_bind {x : Except (Abort ε) α} {f : α → Except (Abort ε) β}
    (hx : Reports es x) (hf : ∀ a, x = .ok a → Reports es (f a)) : Reports es (x >>= f) :=
  raises_bind hx hf

/-- And either branch what it does. -/
theorem reports_ite {c : Prop} [Decidable c] {x y : Except (Abort ε) α}
    (hx : c → Reports es x) (hy : ¬ c → Reports es y) : Reports es (if c then x else y) :=
  raises_ite hx hy

/-- Mapping the value leaves the errors as they are. -/
theorem reports_map {g : α → β} {x : Except (Abort ε) α} (h : Reports es x) :
    Reports es (g <$> x) := by
  cases x with
  | ok a => exact reports_ok (g a)
  | error e =>
    intro e' he'
    cases he'
    exact h e rfl

/-- A condition after the first of a conjunction is computed where the first
holds. -/
theorem reports_allOf_cons {c : Except (Abort ε) Bool} {cs : List (Except (Abort ε) Bool)}
    (hc : Reports es c) (hcs : c = .ok true → Reports es (allOf cs)) :
    Reports es (allOf (c :: cs)) :=
  reports_bind hc fun _ hb => reports_ite (fun ht => hcs (by rw [hb, ht])) fun _ => reports_ok _

/-- A condition after the first of a disjunction is computed where the first
fails. -/
theorem reports_anyOf_cons {c : Except (Abort ε) Bool} {cs : List (Except (Abort ε) Bool)}
    (hc : Reports es c) (hcs : c = .ok false → Reports es (anyOf cs)) :
    Reports es (anyOf (c :: cs)) :=
  reports_bind hc fun b hb => reports_ite (fun _ => reports_ok _) fun hf =>
    hcs (by rw [hb, (Bool.not_eq_true b).mp hf])

end

/-- **What a result ensures**: one condition if the computation returned,
another if it stopped. -/
def Ensures (Q : α → σ → Prop) (E : ε → σ → Prop) : EStateM.Result ε σ α → Prop
  | .ok a s => Q a s
  | .error e s => E e s

section

variable {Q : β → σ → Prop} {E : ε → σ → Prop} {s : σ}

/-- A returned value ensures what holds of it. -/
theorem ensures_pure {b : β} (h : Q b s) :
    Ensures Q E ((pure b : EStateM ε σ β) s) := h

/-- **A sequence ensures what its rest does** from wherever its first part
returns. -/
theorem ensures_bind {x : EStateM ε σ α} {f : α → EStateM ε σ β}
    (h : Ensures (fun a s' => Ensures Q E (f a s')) E (x s)) :
    Ensures Q E ((x >>= f) s) := by
  show Ensures Q E (EStateM.bind x f s)
  unfold EStateM.bind
  cases hx : x s with
  | ok a s' =>
    rw [hx] at h
    exact h
  | error e s' =>
    rw [hx] at h
    exact h

/-- A reader ensures what it returns and what it stops with. -/
theorem ensures_lift {x : Except ε β} (herror : Raises (E · s) x)
    (hok : ∀ b, x = .ok b → Q b s) : Ensures Q E ((liftM x : EStateM ε σ β) s) := by
  cases x with
  | ok b => exact hok b rfl
  | error e => exact herror e rfl

/-- A reader in front: its errors stop the run, its value goes on. -/
theorem ensures_lift_bind {x : Except ε α} {f : α → EStateM ε σ β}
    (herror : Raises (E · s) x) (hok : ∀ a, x = .ok a → Ensures Q E (f a s)) :
    Ensures Q E ((liftM x >>= f) s) :=
  ensures_bind (ensures_lift herror hok)

/-- A reader that is known to return. -/
theorem ensures_ok_bind {x : Except ε α} {a : α} {f : α → EStateM ε σ β} (hx : x = .ok a)
    (h : Ensures Q E (f a s)) : Ensures Q E ((liftM x >>= f) s) := by
  subst hx
  exact h

/-- **What is ensured however a computation ends** holds of its last state. -/
theorem endState_of_ensures {P : σ → Prop} {r : EStateM.Result ε σ β}
    (h : Ensures (fun _ s => P s) (fun _ s => P s) r) : P (endState r) := by
  cases r with
  | ok b s => exact h
  | error e s => exact h

/-- What is ensured may be weakened. -/
theorem ensures_imp {Q' : β → σ → Prop} {E' : ε → σ → Prop}
    {r : EStateM.Result ε σ β} (h : Ensures Q E r) (hQ : ∀ b s, Q b s → Q' b s)
    (hE : ∀ e s, E e s → E' e s) : Ensures Q' E' r := by
  cases r with
  | ok b s => exact hQ b s h
  | error e s => exact hE e s h

end

/-! ## Running -/

/-- Whether a computation returned. -/
def returned : EStateM.Result ε σ α → Bool
  | .ok _ _ => true
  | .error _ _ => false

/-- Whether a run has returned can be computed. -/
theorem returned_iff {r : EStateM.Result ε σ α} :
    returned r = true ↔ ∃ a s, r = .ok a s := by
  cases r <;> simp [returned]

end Outcome
