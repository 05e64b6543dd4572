import SolTradeRouter.RouteRun

/-!
# What a settled route has spent and brought

Whatever the programs it calls do to the accounts, a route that returns
spent what its header says and brought at least its minimum. The spend is
measured from before the fee to the end; the output from after the fee to
the end, so a fee paid into the output account is no output.

Nothing here depends on what the calls do. The one statement that would –
a route whose output account is its own fee source spends as much as it
brings, and cannot settle – fails when the fee's own transfer takes more
from the account than the whole input, and holds up to exactly that.
-/

namespace Program

open Outcome Bytes

/-! ## The two final checks -/

/-- **The spend check, read back**: the balance did not grow, and the
difference is what the mode allows. -/
theorem validateSpend_eq_ok {before after amountIn fee : UInt64} {exactOut : Bool} :
    validateSpend before after amountIn fee exactOut = .ok () ↔
      after ≤ before
      ∧ (exactOut = false → (before - after).toNat = amountIn.toNat)
      ∧ (exactOut = true → fee ≤ before - after ∧ before - after ≤ amountIn) := by
  unfold validateSpend
  by_cases h : after ≤ before
  · simp only [h, if_true, okOr_some, ok_bind, failIf_eq_ok, true_and]
    cases exactOut with
    | false =>
      simp only [Bool.false_eq_true, false_and, not_false_eq_true, true_and, false_or,
        ne_eq, not_not, forall_const, IsEmpty.forall_iff, and_true]
      exact UInt64.toNat_inj.symm
    | true =>
      simp only [true_and, not_true_eq_false, false_and, or_false, not_or, UInt64.not_lt,
        gt_iff_lt, Bool.true_eq_false, IsEmpty.forall_iff, forall_const]
      exact and_comm
  · simp only [h, if_false, false_and, iff_false]
    exact fun hx => by cases hx

/-- **The output check, read back**: a positive minimum is gained in full. -/
theorem checkReceived_gain {before after minAmountOut : UInt64}
    (h : checkReceived before after minAmountOut = .ok ()) (hmin : 0 < minAmountOut) :
    before.toNat + minAmountOut.toNat ≤ after.toNat := by
  rw [checkReceived, failIf_eq_ok, UInt64.not_lt, saturatingSub] at h
  split at h
  · rename_i hle
    rw [UInt64.le_iff_toNat_le, UInt64.toNat_sub_of_le _ _ hle] at h
    rw [UInt64.le_iff_toNat_le] at hle
    omega
  · rw [UInt64.le_iff_toNat_le] at h
    rw [UInt64.lt_iff_toNat_lt] at hmin
    have hz : (0 : UInt64).toNat = 0 := rfl
    omega

/-- The balance taken before the fee is the balance of `fee_source`. -/
theorem feeSourceBalance_of_before {l : Ledger} {feeAsset : UInt8}
    {user feeSource : AccountView} {n : UInt64}
    (h : feeSourceBefore l feeAsset user feeSource = .ok n) :
    feeSourceBalance l feeAsset feeSource = .ok n := by
  unfold feeSourceBefore at h
  split at h
  · rename_i h₀
    obtain ⟨_, -, h⟩ := bind_eq_ok.mp h
    rw [feeSourceBalance, if_pos h₀]
    exact h
  · rename_i h₀
    split at h
    · rename_i h₁
      simp only [bind_eq_ok] at h
      obtain ⟨_, -, _, -, _, -, h⟩ := h
      rw [feeSourceBalance, if_neg h₀, if_pos h₁]
      exact h
    · exact absurd h fail_ne_ok

/-- Where output and fee source are one account in one asset, they have
one balance. -/
theorem outputBalance_eq_feeSourceBalance {l : Ledger} {feeAsset : UInt8}
    {output feeSource : AccountView} {nativeSol : Bool}
    (haddr : output.address = feeSource.address) (hasset : nativeSol = true ↔ feeAsset = 0)
    (hcases : feeAsset = 0 ∨ feeAsset = 1) :
    outputBalance l output nativeSol = feeSourceBalance l feeAsset feeSource := by
  unfold outputBalance feeSourceBalance
  rcases hcases with rfl | rfl
  · rw [if_pos (hasset.mpr rfl), if_pos rfl, AccountView.lamports, AccountView.lamports,
      haddr]
  · rw [if_neg (fun h => absurd (hasset.mp h) (by decide)), if_neg (by decide), if_pos rfl,
      tokenAmount_congr haddr]

/-! ## The route -/

namespace RouteRun

variable [Pda] {rt : Runtime} {programId : Address} {accounts : List AccountView}
  {data : List UInt8} {dyn : ℕ} {m m' : Machine}

/-- The asset bit is a bit. -/
theorem feeAsset_cases (r : RouteRun rt programId accounts data dyn m m') :
    r.header.feeAsset = 0 ∨ r.header.feeAsset = 1 := by
  have h := r.sourceAfter_eq
  unfold feeSourceBalance at h
  split at h
  · rename_i h₀
    exact .inl h₀
  · split at h
    · rename_i h₁
      exact .inr h₁
    · exact absurd h fail_ne_ok

theorem sourceBefore_balance (r : RouteRun rt programId accounts data dyn m m') :
    feeSourceBalance m.ledger r.header.feeAsset r.a.feeSource = .ok r.sourceBefore :=
  feeSourceBalance_of_before r.sourceBefore_eq

/-- With no fee due, the fee step does nothing. -/
theorem charged_of_fee_zero (r : RouteRun rt programId accounts data dyn m m')
    (hfee : r.fee = 0) : r.charged = m := by
  have h := r.charged_eq
  rw [chargeFee, if_neg (by rw [hfee]; decide), run_pure_eq_ok] at h
  exact h.2.symm

/-- **A route onto its own fee source** settles only if the fee transfer
alone took the input and the minimum together from it. -/
theorem taken_of_output_eq_source (r : RouteRun rt programId accounts data dyn m m')
    (hexact : r.header.exactOut = false) (hmin : 0 < r.header.minAmountOut)
    (haddr : r.a.userOutput.address = r.a.feeSource.address)
    (hasset : r.nativeSolOut = true ↔ r.header.feeAsset = 0) :
    feeSourceBalance r.charged.ledger r.header.feeAsset r.a.feeSource
        = .ok r.outputBefore
      ∧ r.outputBefore.toNat + r.header.amountIn.toNat + r.header.minAmountOut.toNat
        ≤ r.sourceBefore.toNat := by
  have hout : ∀ l, outputBalance l r.a.userOutput r.nativeSolOut
      = feeSourceBalance l r.header.feeAsset r.a.feeSource :=
    fun l => outputBalance_eq_feeSourceBalance haddr hasset r.feeAsset_cases
  refine ⟨by rw [← hout, r.outputBefore_eq], ?_⟩
  have hafter : r.outputAfter = r.sourceAfter := by
    have h := r.outputAfter_eq
    rw [hout, r.sourceAfter_eq] at h
    exact (Except.ok.inj h).symm
  have hgain := checkReceived_gain r.received_ok hmin
  obtain ⟨hle, hspent, -⟩ := validateSpend_eq_ok.mp r.spend_ok
  have hspent := hspent hexact
  rw [UInt64.toNat_sub_of_le _ _ hle] at hspent
  rw [UInt64.le_iff_toNat_le] at hle
  rw [hafter] at hgain
  omega

end RouteRun

/-- **Settlement.** A route that returns has taken exactly its input from
the fee source – or, when the input is a budget, at least the fee and at
most the budget – and the output account gained the minimum after the fee
was taken. Where the output account is the fee source itself, the fee
transfer alone must have taken the input and the minimum together; a route
without a fee cannot settle there. -/
theorem route_settles [Pda] {rt : Runtime} {programId : Address}
    {accounts : List AccountView} {data : List UInt8} {dynamicIntermediates : ℕ}
    {m m' : Machine}
    (h : processInner rt programId accounts data dynamicIntermediates m = .ok () m') :
    ∃ r : RouteRun rt programId accounts data dynamicIntermediates m m',
      r.fee.toNat = r.header.amountIn.toNat * r.cfg.feeBps.toNat / 10000
      ∧ feeSourceBalance m.ledger r.header.feeAsset r.a.feeSource = .ok r.sourceBefore
      ∧ feeSourceBalance m'.ledger r.header.feeAsset r.a.feeSource = .ok r.sourceAfter
      ∧ r.sourceAfter ≤ r.sourceBefore
      ∧ (r.header.exactOut = false →
          (r.sourceBefore - r.sourceAfter).toNat = r.header.amountIn.toNat)
      ∧ (r.header.exactOut = true → r.fee ≤ r.sourceBefore - r.sourceAfter
          ∧ r.sourceBefore - r.sourceAfter ≤ r.header.amountIn)
      ∧ (0 < r.header.minAmountOut →
          outputBalance r.charged.ledger r.a.userOutput r.nativeSolOut = .ok r.outputBefore
          ∧ outputBalance m'.ledger r.a.userOutput r.nativeSolOut = .ok r.outputAfter
          ∧ r.outputBefore.toNat + r.header.minAmountOut.toNat ≤ r.outputAfter.toNat)
      ∧ (r.header.exactOut = false → 0 < r.header.minAmountOut →
          r.a.userOutput.address = r.a.feeSource.address →
          (r.nativeSolOut = true ↔ r.header.feeAsset = 0) →
          r.fee ≠ 0
          ∧ ∃ left, feeSourceBalance r.charged.ledger r.header.feeAsset r.a.feeSource
              = .ok left
            ∧ left.toNat + r.header.amountIn.toNat + r.header.minAmountOut.toNat
              ≤ r.sourceBefore.toNat) := by
  obtain ⟨r⟩ := processInner_eq_ok.mp h
  obtain ⟨hle, hin, hout⟩ := validateSpend_eq_ok.mp r.spend_ok
  refine ⟨r, checkedFee_eq_ok r.fee_eq, r.sourceBefore_balance, r.sourceAfter_eq, hle, hin,
    hout, fun hmin => ⟨r.outputBefore_eq, r.outputAfter_eq,
      checkReceived_gain r.received_ok hmin⟩, fun hexact hmin haddr hasset => ?_⟩
  obtain ⟨hleft, htaken⟩ := r.taken_of_output_eq_source hexact hmin haddr hasset
  refine ⟨fun hfee => ?_, r.outputBefore, hleft, htaken⟩
  -- without a fee the balance before the legs is the balance at entry
  rw [r.charged_of_fee_zero hfee, r.sourceBefore_balance] at hleft
  have hsame : r.sourceBefore = r.outputBefore := Except.ok.inj hleft
  rw [UInt64.lt_iff_toNat_lt] at hmin
  have hz : (0 : UInt64).toNat = 0 := rfl
  rw [hsame] at htaken
  omega

/-! ## A fee transfer that takes too much -/

/-- An exact-in route of one leg in native SOL: input 100, minimum 1. -/
def drainData : List UInt8 :=
  ofUInt64 100 ++ ofUInt64 1 ++ [0, 1] ++ systemProgramId.bytes
    ++ ((sampleKey 9).bytes ++ [1] ++ ofUInt16 0)

/-- The user with the given lamports; the configuration, with a fee of one
percent, everywhere else. -/
def drainLedger (lamports : UInt64) : Ledger := fun address =>
  if address = sampleKey 1 then ⟨lamports, systemProgramId, []⟩
  else ⟨0, sampleKey 7,
    (RouterConfig.fresh (sampleKey 5) (sampleKey 3) 100 255).store []⟩

/-- The fee transfer leaves the user 800 lamports, the leg 900. -/
def drainRuntime : Runtime where
  cpi n _ _ := .ok (drainLedger (if n = 0 then 800 else 900))
  createAccount _ _ := .error (.other 0)
  minimumBalance _ := .ok 0

/-- The user is fee source and output at once. -/
def drainAccounts : List AccountView :=
  [⟨sampleKey 1, true, true⟩, ⟨sampleKey 2, false, false⟩, ⟨sampleKey 3, false, true⟩,
    ⟨sampleKey 1, true, true⟩, ⟨sampleKey 1, true, true⟩, ⟨systemProgramId, false, false⟩,
    ⟨sampleKey 1, true, true⟩]

/-- From 1000 lamports, the route settles: 100 are spent, and the 100
gained after the fee transfer count as output. -/
theorem drain_run : ∃ m', @processInner samplePda drainRuntime (sampleKey 7)
    drainAccounts drainData 0 ⟨drainLedger 1000, []⟩ = .ok () m' :=
  ⟨_, rfl⟩

/-- **An exact-in route with a positive minimum can settle onto its own fee
source**, when the fee transfer takes more than the fee. -/
theorem settles_onto_fee_source :
    ¬ ∀ (pda : Pda) (rt : Runtime) (programId : Address) (accounts : List AccountView)
        (data : List UInt8) (dyn : ℕ) (m m' : Machine) (header : RouteHeader)
        (a : RouteAccounts AccountView),
      @processInner pda rt programId accounts data dyn m = .ok () m' →
      readHeader data dyn = .ok header → splitAccounts accounts dyn = .ok a →
      header.exactOut = false → 0 < header.minAmountOut →
      (header.expectedOutputMint = systemProgramId ↔ header.feeAsset = 0) →
      a.userOutput.address ≠ a.feeSource.address := by
  intro h
  obtain ⟨m', hrun⟩ := drain_run
  exact h samplePda drainRuntime (sampleKey 7) drainAccounts drainData 0
    ⟨drainLedger 1000, []⟩ m' ⟨100, 1, 0, 1, systemProgramId, 0, 0⟩ _ hrun rfl rfl rfl
    (by decide) (by decide) rfl

/-- `route_settles` on that run. -/
theorem drain_settles : letI := samplePda
    ∃ m', ∃ r : RouteRun drainRuntime (sampleKey 7) drainAccounts drainData 0
      ⟨drainLedger 1000, []⟩ m', r.sourceAfter ≤ r.sourceBefore := by
  obtain ⟨m', hrun⟩ := drain_run
  obtain ⟨r, -, -, -, hle, -⟩ := @route_settles samplePda _ _ _ _ _ _ _ hrun
  exact ⟨m', r, hle⟩

end Program
