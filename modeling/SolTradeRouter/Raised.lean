import SolTradeRouter.RouteChaining

/-!
# What each reader can stop with

One lemma for each reader of the route instruction, with the errors it can
return. A reader that `Reports` its errors cannot panic: where it indexes,
slices or copies, the test that guards it is one of its own, or is named as
a hypothesis – the cursor lies inside the data, the layout is one of the
table's.
-/

namespace Program

open Outcome Bytes

/-- The errors a reader of the program can return. -/
abbrev Rejects {α : Type} (errors : List ProgramError) (x : Read α) : Prop :=
  Reports errors x

/-! ## Accounts -/

/-- Thirty-two bytes that are there are an address: nothing is returned but
that. -/
theorem reports_readAddress {data : List UInt8} {offset : ℕ}
    (h : offset + 32 ≤ data.length) : Rejects [] (readAddress data offset) := by
  have hrange := range?_of_le (Nat.le_add_right offset 32) h
  have hlen : ((data.drop offset).take (offset + 32 - offset)).length = 32 := by
    rw [length_of_range? hrange]
    omega
  have hread : readAddress data offset = .ok ⟨_, hlen⟩ := readAddress_eq_ok.mpr hrange
  exact reports_of_eq_ok hread

section

variable (l : Ledger) (a : RouteAccounts AccountView) (account : AccountView)

/-- The mint is read from an account long enough, or the account is refused. -/
theorem reports_tokenMint : Rejects [.invalidAccountData] (tokenMint l account) := by
  refine reports_bind (reports_failIf (by decide)) fun _ h => ?_
  refine (reports_readAddress ?_).mono nofun
  exact Nat.not_lt.mp (failIf_eq_ok.mp h)

/-- So is the owner. -/
theorem reports_tokenOwner : Rejects [.invalidAccountData] (tokenOwner l account) := by
  refine reports_bind (reports_failIf (by decide)) fun _ h => ?_
  refine (reports_readAddress ?_).mono nofun
  exact Nat.not_lt.mp (failIf_eq_ok.mp h)

/-- And so is the amount, where both slice bounds are behind the length test. -/
theorem reports_tokenAmount : Rejects [.invalidAccountData] (tokenAmount l account) := by
  refine reports_bind (reports_failIf (by decide)) fun _ h => ?_
  have hslice := range?_of_le (by decide : 64 ≤ 72) (Nat.not_lt.mp (failIf_eq_ok.mp h))
  exact reports_bind (reports_of_eq_ok (slice_eq_ok.mpr hslice)) fun _ _ => reports_ok _

/-- A configuration is invalid, or not written yet. -/
theorem reports_configRead :
    Rejects [RouterError.invalidConfig, RouterError.notInitialized]
      (RouterConfig.read l account) :=
  reports_bind (reports_okOr (by decide)) fun _ _ =>
    reports_bind (reports_failIf (by decide)) fun _ _ => reports_ok _

/-- Its check adds the pause; a wrong owner or address counts as an invalid
configuration. -/
theorem reports_checkConfig [Pda] (programId : Address) :
    Rejects [RouterError.invalidConfig, RouterError.notInitialized, RouterError.paused]
      (checkConfig l programId account) := by
  refine reports_bind (reports_failIf (by decide)) fun _ _ => ?_
  refine reports_bind ((reports_configRead l account).mono (by decide)) fun _ _ => ?_
  refine reports_bind (reports_okOr (by decide)) fun _ _ => ?_
  refine reports_bind (reports_failIf (by decide)) fun _ _ => ?_
  exact reports_bind (reports_failIf (by decide)) fun _ _ => reports_ok _

/-- **The output account** is refused for its address or its owner, for its
mint, or for data too short to read either from. -/
theorem reports_validateOutput (user : AccountView) (mint : Pubkey) (dynamic : Bool) :
    Rejects [RouterError.invalidOutputAccount, RouterError.invalidOutputMint,
      .invalidAccountData] (validateOutput l user account mint dynamic) := by
  refine reports_ite (fun _ => ?_) fun _ => ?_
  · exact reports_bind (reports_failIf (by decide)) fun _ _ => reports_ok _
  · refine reports_bind (reports_failIf (by decide)) fun _ _ => ?_
    refine reports_bind ((reports_tokenMint l account).mono (by decide)) fun _ _ => ?_
    refine reports_bind (reports_failIf (by decide)) fun _ _ => ?_
    refine reports_bind ?_ fun _ _ => reports_bind (reports_failIf (by decide)) fun _ _ =>
      reports_ok _
    refine reports_allOf_cons (reports_ok _) fun _ => ?_
    refine reports_allOf_cons (reports_map ?_) fun _ => reports_ok _
    exact (reports_tokenOwner l account).mono (by decide)

/-- The balance the output is measured by fails only as a token account does. -/
theorem reports_outputBalance (nativeSol : Bool) :
    Rejects [.invalidAccountData] (outputBalance l account nativeSol) :=
  reports_ite (fun _ => reports_ok _) fun _ => reports_tokenAmount l account

/-! ## The fee -/

/-- A fee can fail only by not fitting in 64 bits. -/
theorem reports_checkedFee (amountIn : UInt64) (feeBps : UInt16) :
    Rejects [RouterError.arithmeticOverflow] (checkedFee amountIn feeBps) := by
  refine reports_ite (fun _ => reports_ok _) fun _ => ?_
  exact reports_ite (fun _ => reports_ok _) fun _ => reports_fail (by decide)

/-- **The fee source before the legs** is refused as an asset, for its owner or
its address, or for data too short. -/
theorem reports_feeSourceBefore (feeAsset : UInt8) (user : AccountView) :
    Rejects [RouterError.invalidFeeAsset, .invalidAccountData]
      (feeSourceBefore l feeAsset user account) := by
  refine reports_ite (fun _ => ?_) fun _ => reports_ite (fun _ => ?_) fun _ =>
    reports_fail (by decide)
  · exact reports_bind (reports_failIf (by decide)) fun _ _ => reports_ok _
  · refine reports_bind (reports_failIf (by decide)) fun _ _ => ?_
    refine reports_bind ((reports_tokenOwner l account).mono (by decide)) fun _ _ => ?_
    exact reports_bind (reports_failIf (by decide)) fun _ _ =>
      (reports_tokenAmount l account).mono (by decide)

/-- Afterwards only its balance is read again. -/
theorem reports_feeSourceBalance (feeAsset : UInt8) :
    Rejects [RouterError.invalidFeeAsset, .invalidAccountData]
      (feeSourceBalance l feeAsset account) :=
  reports_ite (fun _ => reports_ok _) fun _ => reports_ite
    (fun _ => (reports_tokenAmount l account).mono (by decide)) fun _ =>
    reports_fail (by decide)

/-- The initialization flag and the decimals of a mint are read where the mint
is long enough. -/
theorem reports_checkedTokenTransfer (fee : UInt64) :
    Rejects [RouterError.invalidFeeAsset] (checkedTokenTransfer l fee account a) := by
  refine reports_bind (reports_failIf (by decide)) fun _ _ => ?_
  refine reports_bind ?_ fun uninitialized hany => ?_
  · refine reports_anyOf_cons (reports_ok _) fun hlen => ?_
    refine reports_anyOf_cons (reports_of_eq_ok (indexIs_of_lt ?_)) fun _ => reports_ok _
    simp only [Except.ok.injEq, decide_eq_false_iff_not] at hlen
    omega
  · refine reports_bind (reports_failIf (by decide)) fun _ hnot => ?_
    rw [failIf_eq_ok, Bool.not_eq_true] at hnot
    rw [hnot, anyOf_eq_false] at hany
    have hlen := hany _ (List.mem_cons_self ..)
    simp only [Except.ok.injEq, decide_eq_false_iff_not] at hlen
    refine reports_bind (reports_of_eq_ok (index_eq_ok.mpr
      (List.getElem?_eq_getElem (show 44 < _ by omega)))) fun _ _ => reports_ok _

/-- **The token transfer of a fee** has three errors: the program, the accounts
it goes between, and their data. -/
theorem reports_tokenFeeTransfer (cfg : RouterConfig) (fee : UInt64) :
    Rejects [RouterError.invalidProgramId, RouterError.invalidFeeAsset, .invalidAccountData]
      (tokenFeeTransfer l cfg fee a) := by
  have hmint : ∀ x, Rejects [RouterError.invalidProgramId, RouterError.invalidFeeAsset,
      .invalidAccountData] (tokenMint l x) := fun x => (reports_tokenMint l x).mono (by decide)
  refine reports_bind (reports_failIf (by decide)) fun _ _ => ?_
  refine reports_bind (reports_failIf (by decide)) fun _ _ => ?_
  refine reports_bind (reports_failIf (by decide)) fun _ _ => ?_
  refine reports_bind (reports_failIf (by decide)) fun _ _ => ?_
  refine reports_bind ((reports_tokenOwner l _).mono (by decide)) fun _ _ => ?_
  refine reports_bind (reports_failIf (by decide)) fun _ _ => ?_
  refine reports_bind (hmint _) fun _ _ => ?_
  refine reports_bind (hmint _) fun _ _ => ?_
  refine reports_bind (reports_failIf (by decide)) fun _ _ => ?_
  refine reports_bind (hmint _) fun mint _ => ?_
  cases feeMintAccount mint a with
  | some x => exact (reports_checkedTokenTransfer l a x fee).mono (by decide)
  | none => exact reports_ok _

/-- The transfer of lamports reads no data. -/
theorem reports_solFeeTransfer (cfg : RouterConfig) (fee : UInt64) :
    Rejects [RouterError.invalidProgramId, RouterError.invalidFeeAsset]
      (solFeeTransfer cfg fee a) := by
  refine reports_bind (reports_failIf (by decide)) fun _ _ => ?_
  refine reports_bind (reports_failIf (by decide)) fun _ _ => ?_
  exact reports_bind (reports_failIf (by decide)) fun _ _ => reports_ok _

/-- Whichever asset the fee is charged in, the errors are those of the token
transfer. -/
theorem reports_feeTransfer (cfg : RouterConfig) (feeAsset : UInt8) (fee : UInt64) :
    Rejects [RouterError.invalidProgramId, RouterError.invalidFeeAsset, .invalidAccountData]
      (feeTransfer l cfg feeAsset fee a) :=
  reports_ite (fun _ => (reports_solFeeTransfer a cfg fee).mono (by decide)) fun _ =>
    reports_ite (fun _ => reports_tokenFeeTransfer l a cfg fee) fun _ =>
      reports_fail (by decide)

/-! ## The settlement -/

/-- **An intermediate account with anything left over** has an error of its own.
-/
theorem reports_checkUnspent (before : UInt64) (o : Option AccountView) :
    Rejects [.invalidAccountData, RouterError.intermediateNotSpent]
      (checkUnspent l before o) := by
  cases o with
  | none => exact reports_ok _
  | some account =>
    exact reports_bind ((reports_tokenAmount l account).mono (by decide)) fun _ _ =>
      reports_failIf (by decide)

/-- The snapshot refuses an intermediate account that is another of the
accounts, or not the payer's. -/
theorem reports_intermediateSnapshot (first o : Option AccountView) :
    Rejects [RouterError.invalidIntermediateAccount, .invalidAccountData]
      (intermediateSnapshot l a first o) := by
  cases o with
  | none => exact reports_ok _
  | some account =>
    refine reports_bind ?_ fun _ _ => reports_bind (reports_failIf (by decide)) fun _ _ =>
      (reports_tokenAmount l account).mono (by decide)
    refine reports_anyOf_cons (reports_ok _) fun _ => ?_
    refine reports_anyOf_cons (reports_ok _) fun _ => ?_
    refine reports_anyOf_cons (reports_map ?_) fun _ => ?_
    · exact (reports_tokenOwner l account).mono (by decide)
    refine reports_anyOf_cons (reports_ok _) fun _ => ?_
    refine reports_anyOf_cons (reports_ok _) fun _ => ?_
    exact reports_anyOf_cons (reports_ok _) fun _ => reports_ok _

end

/-- Whatever is wrong with what was spent, it is the fee source that does not
match. -/
theorem reports_validateSpend (before after amountIn fee : UInt64) (exactOut : Bool) :
    Rejects [RouterError.feeSourceMismatch]
      (validateSpend before after amountIn fee exactOut) :=
  reports_bind (reports_okOr (by decide)) fun _ _ => reports_failIf (by decide)

/-- Too little received is the only thing wrong with what was received. -/
theorem reports_checkReceived (before after minAmountOut : UInt64) :
    Rejects [RouterError.slippageExceeded] (checkReceived before after minAmountOut) :=
  reports_failIf (by decide)

/-- A balance that fell makes the intermediate account invalid; one that rose
too little is slippage. -/
theorem reports_receivedQuote (before after minimum : UInt64) :
    Rejects [RouterError.invalidIntermediateAccount, RouterError.slippageExceeded]
      (receivedQuote before after minimum) :=
  reports_bind (reports_okOr (by decide)) fun _ _ =>
    reports_bind (reports_failIf (by decide)) fun _ _ => reports_ok _

/-- **What is carried on from a leg** fails as the balance it is measured by, or
as its measure does. -/
theorem reports_quoteAfterLeg (l : Ledger) (f : RouteFrame) (legIndex : ℕ)
    (quoteReceived : UInt64) :
    Rejects [RouterError.invalidIntermediateAccount, RouterError.slippageExceeded,
      .invalidAccountData] (quoteAfterLeg l f legIndex quoteReceived) := by
  refine reports_ite (fun _ => ?_) fun _ => reports_ite (fun _ => ?_) fun _ => reports_ok _
  · refine reports_bind (reports_okOr (by decide)) fun account _ => ?_
    refine reports_bind ((reports_tokenAmount l account).mono (by decide)) fun after _ => ?_
    exact (reports_receivedQuote _ _ _).mono (by decide)
  · refine reports_bind (reports_okOr (by decide)) fun account _ => ?_
    refine reports_bind ((reports_tokenAmount l account).mono (by decide)) fun after _ => ?_
    exact (reports_receivedQuote _ _ _).mono (by decide)

end Program
