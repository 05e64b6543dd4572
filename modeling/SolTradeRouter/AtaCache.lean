import Mathlib.Logic.Function.Basic
import SolTradeRouter.Ata
import SolTradeRouter.Memo
import SolTradeRouter.Simulation

/-!
# The cache of token account addresses

The SDK does not derive an address twice: each thread keeps the addresses it
has derived, up to 4096 of them. The functions below are the ones that look
addresses up, as programs on one thread's cache; `Ata` has the same functions
without a cache.

**No caller can tell the two apart** (`cached_as_derived`): whatever the
threads do, in whatever order, each answer is the one the derivation gives.
A thread's cache never holds more than it has room for, and what a thread was
warmed with on its start it never derives again.
-/

open Memo (Returns Sound Keeps)
open Simulation (Steps)

namespace Sdk.AtaCache

/-- Owner, mint, token program. -/
abbrev AtaKey := Pubkey × Pubkey × Pubkey

/-- One thread's `ATA_CACHE`. -/
abbrev Cache := Memo.Table AtaKey Pubkey

/-- The number of addresses a cache has room for. -/
def capacity : ℕ := 4096

section Programs

variable [Pda]

/-- The address a key stands for. -/
def derive (key : AtaKey) : Pubkey := Sdk.ata key.1 key.2.1 key.2.2

/-- **Cached ATA derivation.** -/
def ata (owner mint tokenProgram : Pubkey) : StateM Cache Pubkey :=
  Memo.fetch derive capacity (owner, mint, tokenProgram)

/-- Warm ATA cache for a payer (call once on bot start / per thread). -/
def warmAtaCache (owner : Pubkey) (mints : List (Pubkey × Pubkey)) : StateM Cache PUnit := do
  mints.forM fun (mint, tp) => do
    let _ ← ata owner mint tp
  let _ ← ata owner wsolMint tokenProgram

/-- Idempotent create ATA. -/
def createAta (payer owner mint tokenProgram : Pubkey) : StateM Cache Instruction := do
  let associated ← ata owner mint tokenProgram
  return {
    programId := associatedTokenProgram
    accounts := [
      .new payer true,
      .new associated false,
      .newReadonly owner false,
      .newReadonly mint false,
      .newReadonly systemProgram false,
      .newReadonly tokenProgram false]
    data := [1] }

/-- The payer's own account for wrapped SOL, from the cache. -/
def createWsolAta (payer : Pubkey) : StateM Cache Instruction :=
  createAta payer payer wsolMint tokenProgram

/-- SPL Token `CloseAccount`. -/
def closeAta (owner mint tokenProgram destination : Pubkey) : StateM Cache Instruction := do
  let tokenAta ← ata owner mint tokenProgram
  return {
    programId := tokenProgram
    accounts := [
      .new tokenAta false,
      .new destination false,
      .newReadonly owner true]
    data := [9] }

/-- Its closing. -/
def closeWsolAta (owner : Pubkey) : StateM Cache Instruction :=
  closeAta owner wsolMint tokenProgram owner

/-- And its wrapping. -/
def wrapSolWithOptions [Sdk.Upstream] (payer : Pubkey) (lamports : UInt64)
    (createAtaAccount : Bool) : StateM Cache (List Instruction) := do
  let wsolAta ← ata payer wsolMint tokenProgram
  let ixs ← (if createAtaAccount then do return [← createWsolAta payer] else pure [])
  return ixs ++ [Sdk.Upstream.transfer payer wsolAta lamports,
    Sdk.syncNative tokenProgram wsolAta]

/-- Close one account, if the trade has used it. -/
def closeTouched (owner : Pubkey) (mint tokenProgram : Option Pubkey) :
    StateM Cache (List Instruction) :=
  match mint, tokenProgram with
  | some mint, some tp => do return [← closeAta owner mint tp owner]
  | _, _ => pure []

/-- `AtaPolicy::build_cleanup`. -/
def buildCleanup (policy : Sdk.AtaPolicy) (owner : Pubkey) (touched : Sdk.TouchedAtas) :
    StateM Cache (List Instruction) := do
  let wsol ← (if policy.closeWsol && touched.wsol then do return [← closeWsolAta owner]
    else pure [])
  let quote ← (if policy.closeQuote then
    closeTouched owner touched.quoteMint touched.quoteTokenProgram else pure [])
  let meme ← (if policy.closeMeme then
    closeTouched owner touched.memeMint touched.memeTokenProgram else pure [])
  return wsol ++ quote ++ meme

/-! ## What the programs return -/

/-- A cached address is the derived one. -/
theorem ata_returns (owner mint tokenProgram : Pubkey) :
    Returns derive capacity (ata owner mint tokenProgram) (Sdk.ata owner mint tokenProgram) :=
  Returns.fetch (owner, mint, tokenProgram)

/-- So a creation is the plain one. -/
theorem createAta_returns (payer owner mint tokenProgram : Pubkey) :
    Returns derive capacity (createAta payer owner mint tokenProgram)
      (Sdk.createAta payer owner mint tokenProgram) :=
  (ata_returns owner mint tokenProgram).bind (Returns.pure _)

/-- And a closing. -/
theorem closeAta_returns (owner mint tokenProgram destination : Pubkey) :
    Returns derive capacity (closeAta owner mint tokenProgram destination)
      (Sdk.closeAta owner mint tokenProgram destination) :=
  (ata_returns owner mint tokenProgram).bind (Returns.pure _)

/-- Warming returns nothing else. -/
theorem warmAtaCache_returns (owner : Pubkey) (mints : List (Pubkey × Pubkey)) :
    Returns derive capacity (warmAtaCache owner mints) PUnit.unit := by
  refine Returns.bind (Returns.forM fun key _ => ?_) ?_
  · exact (ata_returns owner key.1 key.2).bind (Returns.pure _)
  · exact (ata_returns owner wsolMint tokenProgram).bind (Returns.pure _)

/-- Wrapping is the plain one. -/
theorem wrapSolWithOptions_returns [Sdk.Upstream] (payer : Pubkey) (lamports : UInt64)
    (createAtaAccount : Bool) :
    Returns derive capacity (wrapSolWithOptions payer lamports createAtaAccount)
      (Sdk.wrapSolWithOptions payer lamports createAtaAccount) := by
  refine (ata_returns payer wsolMint tokenProgram).bind (Returns.bind (Returns.ite ?_ ?_)
    (Returns.pure _))
  · exact fun _ => (createAta_returns payer payer wsolMint tokenProgram).bind (Returns.pure _)
  · exact fun _ => Returns.pure []

/-- The instruction that closes an account, if the trade has used it. -/
def closesTouched (owner : Pubkey) (mint tokenProgram : Option Pubkey) : List Instruction :=
  match mint, tokenProgram with
  | some mint, some tp => [Sdk.closeAta owner mint tp owner]
  | _, _ => []

/-- So is the closing of a used account. -/
theorem closeTouched_returns (owner : Pubkey) (mint tokenProgram : Option Pubkey) :
    Returns derive capacity (closeTouched owner mint tokenProgram)
      (closesTouched owner mint tokenProgram) := by
  cases mint with
  | none => exact Returns.pure []
  | some mint =>
    cases tokenProgram with
    | none => exact Returns.pure []
    | some tp => exact (closeAta_returns owner mint tp owner).bind (Returns.pure _)

/-- **And so is the whole cleanup.** -/
theorem buildCleanup_returns (policy : Sdk.AtaPolicy) (owner : Pubkey)
    (touched : Sdk.TouchedAtas) :
    Returns derive capacity (buildCleanup policy owner touched)
      (policy.buildCleanup owner touched) := by
  have hclose : ∀ (c : Bool) (mint tp : Option Pubkey), Returns derive capacity
      (if c then closeTouched owner mint tp else pure [] : StateM Cache (List Instruction))
      (if c then closesTouched owner mint tp else []) := fun c mint tp =>
    Returns.ite (fun _ => closeTouched_returns owner mint tp) fun _ => Returns.pure _
  refine Returns.bind (Returns.ite (fun _ => ?_) fun _ => Returns.pure [])
    ((hclose _ _ _).bind ((hclose _ _ _).bind (Returns.pure _)))
  exact (closeAta_returns owner wsolMint tokenProgram owner).bind (Returns.pure _)

/-- The keys a thread is warmed with. -/
def warmedKeys (owner : Pubkey) (mints : List (Pubkey × Pubkey)) : List AtaKey :=
  mints.map (fun key => (owner, key.1, key.2)) ++ [(owner, wsolMint, tokenProgram)]

/-- Warming looks up the account of every mint, and that of WSOL. -/
theorem warmAtaCache_eq (owner : Pubkey) (mints : List (Pubkey × Pubkey)) (c : Cache) :
    (warmAtaCache owner mints c).2 = Memo.warm derive capacity (warmedKeys owner mints) c := by
  induction mints generalizing c with
  | nil => rfl
  | cons key mints ih => exact ih (ata owner key.1 key.2 c).2

end Programs

/-! ## Threads -/

/-- **What a thread asks the module for.** -/
inductive Use where
  | ata (owner mint tokenProgram : Pubkey)
  | warm (owner : Pubkey) (mints : List (Pubkey × Pubkey))
  | createAta (payer owner mint tokenProgram : Pubkey)
  | closeAta (owner mint tokenProgram destination : Pubkey)
  | wrapSol (payer : Pubkey) (lamports : UInt64) (createAtaAccount : Bool)
  | cleanup (policy : Sdk.AtaPolicy) (owner : Pubkey) (touched : Sdk.TouchedAtas)

/-- What it gets. -/
inductive Answer where
  | done
  | address (a : Pubkey)
  | instructions (ixs : List Instruction)
  deriving DecidableEq

section Threads

variable [Pda] [Sdk.Upstream]

namespace Use

/-- A use, through the cache. -/
def run : Use → StateM Cache Answer
  | .ata owner mint tp => do return .address (← AtaCache.ata owner mint tp)
  | .warm owner mints => do
    warmAtaCache owner mints
    return .done
  | .createAta payer owner mint tp => do
    return .instructions [← AtaCache.createAta payer owner mint tp]
  | .closeAta owner mint tp destination => do
    return .instructions [← AtaCache.closeAta owner mint tp destination]
  | .wrapSol payer lamports create => do
    return .instructions (← wrapSolWithOptions payer lamports create)
  | .cleanup policy owner touched => do
    return .instructions (← buildCleanup policy owner touched)

/-- The same use, with every address derived. -/
def plain : Use → Answer
  | .ata owner mint tp => .address (Sdk.ata owner mint tp)
  | .warm _ _ => .done
  | .createAta payer owner mint tp => .instructions [Sdk.createAta payer owner mint tp]
  | .closeAta owner mint tp destination =>
    .instructions [Sdk.closeAta owner mint tp destination]
  | .wrapSol payer lamports create =>
    .instructions (Sdk.wrapSolWithOptions payer lamports create)
  | .cleanup policy owner touched => .instructions (policy.buildCleanup owner touched)

/-- **A use gets what the derivation gives.** -/
theorem returns (use : Use) : Returns derive capacity use.run use.plain := by
  cases use with
  | ata owner mint tp => exact (ata_returns owner mint tp).bind (Returns.pure _)
  | warm owner mints => exact (warmAtaCache_returns owner mints).bind (Returns.pure _)
  | createAta payer owner mint tp =>
    exact (createAta_returns payer owner mint tp).bind (Returns.pure _)
  | closeAta owner mint tp destination =>
    exact (closeAta_returns owner mint tp destination).bind (Returns.pure _)
  | wrapSol payer lamports create =>
    exact (wrapSolWithOptions_returns payer lamports create).bind (Returns.pure _)
  | cleanup policy owner touched =>
    exact (buildCleanup_returns policy owner touched).bind (Returns.pure _)

end Use

variable {θ : Type} [DecidableEq θ]

/-- A use by one of the threads, with the answer it got. -/
structure Event (θ : Type) where
  thread : θ
  use : Use
  answer : Answer

/-- **One use**: the thread's own cache answers, and no other cache changes. -/
def Step (w : θ → Cache) (e : Event θ) (w' : θ → Cache) : Prop :=
  (e.use.run (w e.thread)).1 = e.answer
    ∧ w' = Function.update w e.thread (e.use.run (w e.thread)).2

/-- Every thread's cache is sound. -/
def AllSound (w : θ → Cache) : Prop := ∀ t, Sound derive capacity (w t)

/-- A use is answered as the derivation answers it, keeps every cache sound,
and loses nothing. -/
theorem step_spec {w w' : θ → Cache} {e : Event θ} (hw : AllSound w) (h : Step w e w') :
    e.answer = e.use.plain ∧ AllSound w' ∧ ∀ t, Keeps (w t) (w' t) := by
  obtain ⟨hanswer, rfl⟩ := h
  obtain ⟨hval, hsound, hkeep⟩ := e.use.returns (w e.thread) (hw e.thread)
  refine ⟨by rw [← hanswer, hval], fun t => ?_, fun t => ?_⟩
  · by_cases ht : t = e.thread
    · subst ht
      rw [Function.update_self]
      exact hsound
    · rw [Function.update_of_ne ht]
      exact hw t
  · by_cases ht : t = e.thread
    · subst ht
      rw [Function.update_self]
      exact hkeep
    · rw [Function.update_of_ne ht]
      exact Keeps.refl (w t)

/-- A run loses nothing that a cache holds. -/
theorem run_keeps {w w' : θ → Cache} {es : List (Event θ)} (hw : AllSound w)
    (h : Steps Step w es w') (t : θ) : Keeps (w t) (w' t) := by
  induction h with
  | nil => exact Keeps.refl _
  | cons hstep _ ih =>
    obtain ⟨-, hsound, hkeep⟩ := step_spec hw hstep
    exact Keeps.trans (hkeep t) (ih hsound)

/-- A thread that does nothing has the cache it had. -/
theorem run_idle {w w' : θ → Cache} {es : List (Event θ)} (h : Steps Step w es w') {t : θ}
    (ht : ∀ e ∈ es, e.thread ≠ t) : w' t = w t := by
  induction h with
  | nil => rfl
  | cons hstep _ ih =>
    obtain ⟨hfirst, hrest⟩ := List.forall_mem_cons.mp ht
    rw [ih hrest, hstep.2, Function.update_of_ne hfirst.symm]

/-- A thread that starts by warming its cache has every address it asked for
recorded. -/
theorem warm_recorded {w w' : θ → Cache} {e : Event θ} {owner : Pubkey}
    {mints : List (Pubkey × Pubkey)} (hempty : w e.thread = [])
    (huse : e.use = .warm owner mints) (hroom : mints.length < capacity) (h : Step w e w') :
    ∀ key ∈ (wsolMint, tokenProgram) :: mints,
      (w' e.thread).lookup (owner, key) = some (Sdk.ata owner key.1 key.2) := by
  have hrun : w' e.thread = Memo.warm derive capacity (warmedKeys owner mints) [] := by
    rw [h.2, Function.update_self, huse, hempty, ← warmAtaCache_eq]
    rfl
  have hlen : ([] : Cache).length + (warmedKeys owner mints).length ≤ capacity := by
    simpa [warmedKeys, Nat.succ_le_iff] using hroom
  intro key hkey
  rw [hrun]
  refine Memo.lookup_warm Sound.nil hlen (owner, key) ?_
  cases List.mem_cons.mp hkey with
  | inl h => simp [warmedKeys, h]
  | inr h => exact List.mem_append_left _ (List.mem_map.mpr ⟨key, h, rfl⟩)

/-- **The cache cannot be told from the derivation**, whatever the threads do
and in whatever order: each use is answered with the addresses that are
derived. Every thread's cache holds derived addresses only, each under one key,
and no more than it has room for; and of a thread that begins by warming its
cache, with fewer than 4096 addresses, the warmed ones are recorded from then on,
so that it derives none of them again. -/
theorem cached_as_derived {es : List (Event θ)} {w : θ → Cache}
    (h : Steps Step (fun _ : θ => ([] : Cache)) es w) :
    (∀ e ∈ es, e.answer = e.use.plain)
      ∧ (∀ t, (∀ k a, (w t).lookup k = some a → a = Sdk.ata k.1 k.2.1 k.2.2)
        ∧ ((w t).map Prod.fst).Nodup ∧ (w t).length ≤ 4096)
      ∧ ∀ before after t owner mints answer,
        es = before ++ ⟨t, .warm owner mints, answer⟩ :: after → (∀ e ∈ before, e.thread ≠ t) →
          mints.length < 4096 → ∀ key ∈ (wsolMint, tokenProgram) :: mints,
            (w t).lookup (owner, key) = some (Sdk.ata owner key.1 key.2) := by
  have hempty : AllSound (fun _ : θ => ([] : Cache)) := fun _ => Sound.nil
  have hkeep : ∀ ⦃w e w'⦄, AllSound w → Step w e w' → AllSound (w' : θ → Cache) :=
    fun _ _ _ hw hstep => (step_spec hw hstep).2.1
  have hsound : AllSound w := h.keeps hkeep hempty
  refine ⟨h.labels hkeep (fun _ _ _ hw hstep => (step_spec hw hstep).1) hempty, fun t => ?_, ?_⟩
  · exact ⟨fun k a => (hsound t).agrees, (hsound t).nodup, (hsound t).bounded⟩
  · rintro before after t owner mints answer rfl hidle hroom key hkey
    obtain ⟨w₁, hbefore, hrest⟩ := h.split
    cases hrest with
    | cons hstep hafter =>
      have hrecorded := warm_recorded (run_idle hbefore hidle) rfl hroom hstep key hkey
      exact run_keeps (hkeep (hbefore.keeps hkeep hempty) hstep) hafter t hrecorded

end Threads

/-- One of two threads warms its cache and closes an account, the other asks
for the same account in between. -/
def sampleEvents [Pda] : List (Event Bool) :=
  let key := (sampleKey 1, sampleKey 2)
  [⟨true, .warm (sampleKey 0) [key], .done⟩,
    ⟨false, .ata (sampleKey 0) key.1 key.2, .address (Sdk.ata (sampleKey 0) key.1 key.2)⟩,
    ⟨true, .closeAta (sampleKey 0) key.1 key.2 (sampleKey 0),
      .instructions [Sdk.closeAta (sampleKey 0) key.1 key.2 (sampleKey 0)]⟩]

theorem sampleEvents_derived : letI := samplePda
    letI := sampleUpstream
    ∃ w, Steps Step (fun _ : Bool => []) sampleEvents w
      ∧ (∀ e ∈ sampleEvents, e.answer = e.use.plain)
      ∧ (w true).lookup (sampleKey 0, wsolMint, tokenProgram)
        = some (Sdk.ata (sampleKey 0) wsolMint tokenProgram) := by
  let := samplePda
  let := sampleUpstream
  have hrun : ∃ w, Steps Step (fun _ : Bool => []) sampleEvents w :=
    ⟨_, .cons ⟨rfl, rfl⟩ (.cons ⟨rfl, rfl⟩ (.cons ⟨rfl, rfl⟩ (.nil _)))⟩
  obtain ⟨w, hw⟩ := hrun
  obtain ⟨hanswers, -, hwarm⟩ := cached_as_derived hw
  exact ⟨w, hw, hanswers, hwarm [] _ true _ _ _ rfl (by simp) (by decide) _ List.mem_cons_self⟩

end Sdk.AtaCache
