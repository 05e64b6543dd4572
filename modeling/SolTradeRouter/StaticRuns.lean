import SolTradeRouter.Balances
import SolTradeRouter.DynamicAccepted
import SolTradeRouter.HonestRoute

/-!
# Static routes on chain

The instruction of a static route, run by the program in a runtime whose
calls do what they encode: the transfer of the fee takes the fee, and every
leg takes its input and brings at least its minimum. Nothing is asked of
what a call does elsewhere.

Such a run is honest in the sense of the SDK's purses, with the balances read
off the ledger. If the route settles, the program has nothing to object to:
it makes the legs' calls in their order and returns, or it stops because one
of its calls fails.
-/

namespace Execution

open Outcome Bytes Transfers Program Sdk WireFormat DynamicAccepted

/-! ## Purses on the ledger -/

/-- **What a purse holds**, read off the ledger. An account without a balance
of tokens holds none. -/
def holds (l : Ledger) (p : Purse) : ℕ :=
  if p.native then (l p.account).lamports.toNat
  else ((balanceAt l p.account).toOption.getD 0).toNat

/-- The purse a route pays into in the end: lamports, if it expects the mint
that stands for them. -/
def paidInto (header : BuiltHeader) : Purse :=
  ⟨header.expectedOutputMint = systemProgram, header.accounts.outputTokenAccount⟩

theorem holds_token {l : Ledger} {k : Pubkey} {n : UInt64} (h : balanceAt l k = .ok n) :
    holds l ⟨false, k⟩ = n.toNat := by
  show ((balanceAt l k).toOption.getD 0).toNat = _
  rw [h]
  rfl

/-! ## Honest calls -/

/-- **The call of a leg**, with the privileges the transaction grants. -/
def legCall (metas : List AccountMeta) (leg : Leg) : CpiCall :=
  ⟨leg.programId, (leg.accounts.map (mergedView metas)).map AccountView.toMeta, leg.data⟩

/-- **A call that asks for a transfer**, of lamports or of tokens. -/
inductive TransferCall : CpiCall → Purse → Purse → UInt64 → Prop
  | system (source dest : AccountView) (lamports : UInt64) :
    TransferCall (systemTransfer source dest lamports) ⟨true, source.address⟩
      ⟨true, dest.address⟩ lamports
  | token (source dest authority : AccountView) (amount : UInt64) (program : Address) :
    TransferCall (tokenTransfer source dest authority amount program)
      ⟨false, source.address⟩ ⟨false, dest.address⟩ amount
  | checked (source mint dest authority : AccountView) (amount : UInt64) (decimals : UInt8)
      (program : Address) :
    TransferCall ⟨program, [⟨source.address, false, true⟩, ⟨mint.address, false, false⟩,
        ⟨dest.address, false, true⟩, ⟨authority.address, true, false⟩],
        12 :: (ofUInt64 amount ++ [decimals])⟩
      ⟨false, source.address⟩ ⟨false, dest.address⟩ amount

/-- The header's token accounts keep their mint and their owner. -/
def KeepsTokens (header : BuiltHeader) (l l' : Ledger) : Prop :=
  ∀ k ∈ [header.accounts.feeSource, header.accounts.outputTokenAccount], ∀ mint,
    TokenAccount l k mint header.accounts.payer → TokenAccount l' k mint header.accounts.payer

/-- **A runtime whose calls do what they encode**, as far as the purses of the
header see it. What a leg encodes is a matter of its exchange. -/
structure Honest (plans : Leg → Transfer Purse → Prop) (rt : Runtime)
    (metas : List AccountMeta) (header : BuiltHeader) (legs : List Leg) : Prop where
  fee : ∀ call fee, TransferCall call header.source header.destination fee →
    ∀ n l l', rt.cpi n call l = .ok l' → KeepsTokens header l l'
      ∧ fee.toNat ≤ holds l header.source
      ∧ holds l' header.source + fee.toNat
        = holds l header.source + (if header.source = header.destination then fee.toNat else 0)
  leg : ∀ leg ∈ legs, ∀ t, plans leg t →
    ∀ n l l', rt.cpi n (legCall metas leg) l = .ok l' → KeepsTokens header l l'
      ∧ ∃ sent got, sent ≤ t.most ∧ (header.exactOut = false → sent = t.most) ∧ t.least ≤ got
        ∧ sent ≤ holds l t.source
        ∧ ∀ p ∈ [header.source, paidInto header],
          holds l' p + (if p = t.source then sent else 0)
            = holds l p + (if p = t.target then got else 0)

/-- **One of the route's own calls failed.** -/
def CallFailed (rt : Runtime) (metas : List AccountMeta) (header : BuiltHeader)
    (legs : List Leg) (e : Abort ProgramError) : Prop :=
  ∃ n call l pe, rt.cpi n call l = .error pe ∧ e = .error pe
    ∧ ((∃ fee, TransferCall call header.source header.destination fee)
      ∨ ∃ leg ∈ legs, call = legCall metas leg)

/-! ## The legs -/

section Legs

variable {plans : Leg → Transfer Purse → Prop} {rt : Runtime} {data : List UInt8}
  {metas : List AccountMeta} {f : RouteFrame} {header : BuiltHeader} {legs : List Leg}

theorem KeepsTokens.trans {l l' l'' : Ledger} (h : KeepsTokens header l l')
    (h' : KeepsTokens header l' l'') : KeepsTokens header l l'' :=
  fun k hk mint ht => h' k hk mint (h k hk mint ht)

/-- In a static route, a leg is called with its own data. -/
theorem legInvokeData_static (hdyn : f.dynamicIntermediates = 0) (l : Ledger) (i : ℕ)
    (leg : ParsedLeg AccountView) (quote : UInt64) :
    legInvokeData l f i leg quote = .ok leg.data := by
  have hdynamic : f.dynamic = false := by simp [RouteFrame.dynamic, hdyn]
  have hthree : f.threeHop = false := by simp [RouteFrame.threeHop, hdyn]
  simp only [legInvokeData, isLastLeg, hdynamic, hthree, Bool.false_eq_true, false_and, if_false]
  rfl

/-- And nothing is carried on to the next. -/
theorem quoteAfterLeg_static (hdyn : f.dynamicIntermediates = 0) (l : Ledger) (i : ℕ)
    (quote : UInt64) : quoteAfterLeg l f i quote = .ok quote := by
  have hdynamic : f.dynamic = false := by simp [RouteFrame.dynamic, hdyn]
  have hthree : f.threeHop = false := by simp [RouteFrame.threeHop, hdyn]
  simp only [quoteAfterLeg, hdynamic, hthree, Bool.false_eq_true, false_and, if_false]
  rfl

/-- **What a run of legs has done**: it made the calls of the legs in their
order, and each purse of the header has seen the legs' transfers. -/
structure Carried (metas : List AccountMeta) (header : BuiltHeader) (legs : List Leg)
    (ts : List (Transfer Purse)) (m m' : Machine) : Prop where
  calls : ∃ events, m'.trace = m.trace ++ events
    ∧ events.map CpiEvent.call = legs.map (legCall metas)
  keeps : KeepsTokens header m.ledger m'.ledger
  seen : ∀ p ∈ [header.source, paidInto header],
    Seen header.exactOut p ts (holds m.ledger p) (holds m'.ledger p)

/-- **One leg of a static route** makes its call and moves on, or its call
fails. -/
theorem legStep_static (hdyn : f.dynamicIntermediates = 0) {leg : Leg} {i : ℕ} {s : LegLoop}
    {pos : LegCursor} {m : Machine}
    (hparse : parseLeg data f.accounts.remaining s.pos = .ok (presented metas leg, pos)) :
    Ensures (fun s' m' => s'.pos = pos
        ∧ rt.cpi m.trace.length (legCall metas leg) m.ledger = .ok m'.ledger
        ∧ m'.trace = m.trace ++ [⟨legCall metas leg, m.ledger, m'.ledger⟩])
      (fun e _ => ∃ pe, rt.cpi m.trace.length (legCall metas leg) m.ledger = .error pe
        ∧ e = .error pe) (legStep rt data f i s m) := by
  have hleg := parseLeg_eq_ok.mp hparse
  refine ensures_ok_bind hparse (ensures_currentLedger_bind
    (ensures_ok_bind (legInvokeData_static hdyn _ _ _ _)
      (ensures_ok_bind (buildMetas_eq hleg.length_accounts hleg.count_le) (ensures_bind ?_))))
  refine ensures_invoke_of (fun after hcall => ?_) fun pe hcall => ⟨pe, hcall, rfl⟩
  refine ensures_currentLedger_bind (ensures_ok_bind (quoteAfterLeg_static hdyn _ _ _) ?_)
  exact ensures_pure ⟨rfl, hcall, rfl⟩

/-- **The legs of a static route**, in an honest runtime: by induction on the
legs, each purse seeing one transfer after the other. -/
theorem runLegs_static (hdyn : f.dynamicIntermediates = 0) {all : List Leg}
    (hrt : Honest plans rt metas header all) {ts : List (Transfer Purse)}
    (hplans : List.Forall₂ plans legs ts) (hsub : legs ⊆ all)
    {i : ℕ} {s : LegLoop} {pos : LegCursor} {m : Machine}
    (hparse : parseLegs data f.accounts.remaining legs.length s.pos
      = .ok (legs.map (presented metas), pos)) :
    Ensures (fun s' m' => s'.pos = pos ∧ Carried metas header legs ts m m')
      (fun e _ => CallFailed rt metas header all e) (runLegs rt data f legs.length i s m) := by
  induction hplans generalizing i s m with
  | nil =>
    rw [List.length_nil, parseLegs, pure_eq_ok, Prod.mk.injEq] at hparse
    exact ensures_pure ⟨hparse.2, ⟨[], (List.append_nil _).symm, rfl⟩, fun _ _ _ ht => ht,
      fun p _ => .nil⟩
  | @cons leg t legs ts hleg _ ih =>
    rw [List.length_cons, parseLegs] at hparse
    obtain ⟨⟨first, pos₁⟩, hfirst, hparse⟩ := bind_eq_ok.mp hparse
    obtain ⟨⟨rest, pos₂⟩, hrest, hparse⟩ := bind_eq_ok.mp hparse
    rw [pure_eq_ok, List.map_cons, Prod.mk.injEq, List.cons.injEq] at hparse
    obtain ⟨⟨rfl, rfl⟩, rfl⟩ := hparse
    have hmem : leg ∈ all := hsub List.mem_cons_self
    refine ensures_bind (ensures_imp (legStep_static hdyn hfirst) ?_ ?_)
    · rintro s₁ m₁ ⟨hpos, hcall, htrace⟩
      obtain ⟨hkeeps, sent, got, hmost, hall, hleast, hfunded, hbalance⟩ :=
        hrt.leg leg hmem t hleg _ _ _ hcall
      refine ensures_imp (ih (List.subset_of_cons_subset hsub) (by rw [hpos]; exact hrest)) ?_
        fun _ _ he => he
      rintro s' m' ⟨hpos', ⟨events, htrace', hevents⟩, hkeeps', hseen⟩
      refine ⟨hpos', ⟨⟨legCall metas leg, m.ledger, m₁.ledger⟩ :: events, ?_, ?_⟩,
        hkeeps.trans hkeeps', fun p hp => ?_⟩
      · rw [htrace', htrace, List.append_assoc, List.singleton_append]
      · rw [List.map_cons, List.map_cons, hevents]
      · refine .cons hmost hall hleast (fun hsource => ?_) (hbalance p hp) (hseen p hp)
        rw [hsource]
        exact hfunded
    · rintro e _ ⟨pe, hcall, rfl⟩
      exact ⟨_, _, _, pe, hcall, rfl, .inr ⟨leg, hmem, rfl⟩⟩

end Legs

/-! ## The fee -/

/-- A transfer of the fee moves it between the purses of the header. -/
theorem feeTransfer_call {l : Ledger} {cfg : RouterConfig} {feeAsset : UInt8} {fee : UInt64}
    {a : Program.RouteAccounts AccountView} {call : CpiCall}
    (h : feeTransfer l cfg feeAsset fee a = .ok call) :
    TransferCall call ⟨feeAsset = feeAssetSol, a.feeSource.address⟩
      ⟨feeAsset = feeAssetSol, a.feeDestination.address⟩ fee := by
  unfold feeTransfer at h
  split at h
  · rename_i hsol
    rw [decide_eq_true (show feeAsset = feeAssetSol from hsol)]
    obtain ⟨_, -, h⟩ := bind_eq_ok.mp h
    obtain ⟨_, -, h⟩ := bind_eq_ok.mp h
    obtain ⟨_, -, h⟩ := bind_eq_ok.mp h
    cases h
    exact .system _ _ _
  · rename_i hsol
    rw [decide_eq_false (show ¬ feeAsset = feeAssetSol from hsol)]
    split at h
    · simp only [tokenFeeTransfer, bind_eq_ok] at h
      obtain ⟨_, -, _, -, _, -, _, -, _, -, _, -, _, -, _, -, _, -, mint, -, h⟩ := h
      split at h
      · obtain ⟨_, -, h⟩ := bind_eq_ok.mp h
        obtain ⟨_, -, h⟩ := bind_eq_ok.mp h
        obtain ⟨_, -, h⟩ := bind_eq_ok.mp h
        obtain ⟨decimals, -, h⟩ := bind_eq_ok.mp h
        cases h
        exact .checked _ _ _ _ _ _ _
      · cases h
        exact .token _ _ _ _ _
    · cases h

/-- **What taking the fee has done**: it made one call if there is a fee, and
took the fee from its source. -/
structure FeeTaken (header : BuiltHeader) (fee : UInt64) (m charged : Machine) : Prop where
  calls : ∃ fees, charged.trace = m.trace ++ fees ∧ fees.length = if fee = 0 then 0 else 1
  keeps : KeepsTokens header m.ledger charged.ledger
  funded : fee.toNat ≤ holds m.ledger header.source
  taken : holds charged.ledger header.source + fee.toNat
    = holds m.ledger header.source
      + (if header.source = header.destination then fee.toNat else 0)

theorem chargeFee_honest {plans : Leg → Transfer Purse → Prop} {rt : Runtime}
    {metas : List AccountMeta} {header : BuiltHeader} {legs : List Leg}
    (hrt : Honest plans rt metas header legs) {cfg : RouterConfig} {fee : UInt64}
    {a : Program.RouteAccounts AccountView} {m : Machine}
    (hsource : a.feeSource.address = header.accounts.feeSource)
    (hdestination : a.feeDestination.address = header.accounts.feeDestination)
    (htransfer : fee ≠ 0 → ∃ call, feeTransfer m.ledger cfg header.feeAsset fee a = .ok call) :
    Ensures (fun _ charged => FeeTaken header fee m charged)
      (fun e _ => CallFailed rt metas header legs e)
      (chargeFee rt cfg header.feeAsset fee a m) := by
  unfold chargeFee
  by_cases hzero : fee = 0
  · subst hzero
    rw [if_neg (by decide)]
    refine ensures_pure ⟨⟨[], (List.append_nil _).symm, rfl⟩, fun _ _ _ ht => ht,
      Nat.zero_le _, ?_⟩
    rw [UInt64.toNat_zero, ite_self]
  · have hpos : fee > 0 := UInt64.lt_iff_toNat_lt.mpr (U64.pos_iff.mp hzero)
    rw [if_pos hpos]
    obtain ⟨call, hcall⟩ := htransfer hzero
    have hmoves : TransferCall call header.source header.destination fee := by
      have hcalled := feeTransfer_call hcall
      rw [hsource, hdestination] at hcalled
      exact hcalled
    refine ensures_currentLedger_bind (ensures_ok_bind hcall (ensures_invoke_of ?_ ?_))
    · intro after hafter
      obtain ⟨hkeeps, hfunded, htaken⟩ := hrt.fee call fee hmoves _ _ _ hafter
      exact ⟨⟨_, rfl, (if_neg hzero).symm⟩, hkeeps, hfunded, htaken⟩
    · exact fun pe hpe => ⟨_, _, _, pe, hpe, rfl, .inl ⟨fee, hmoves⟩⟩

/-! ## The ledger -/

/-- **A ledger the route can run on**: the configuration is valid and not
paused, the fee's source and the output account are the payer's, and a fee
that falls due can be transferred. -/
structure Ready [Pda] (l : Ledger) (programId : Pubkey) (metas : List AccountMeta)
    (header : BuiltHeader) (fee : UInt64) (cfg : RouterConfig) : Prop where
  config : checkConfig l programId
    (mergedView metas (.newReadonly (Sdk.configPda programId).1 false)) = .ok cfg
  lamports : header.feeAsset = feeAssetSol →
    header.accounts.feeSource = header.accounts.payer ∧ (fee ≠ 0 →
      header.accounts.feeDestination = cfg.feeRecipient
        ∧ header.accounts.feeProgram = systemProgram)
  tokens : header.feeAsset = feeAssetToken →
    (∃ mint, TokenAccount l header.accounts.feeSource mint header.accounts.payer)
      ∧ (fee ≠ 0 → FeeReady l header.accounts cfg)
  native : header.expectedOutputMint = systemProgram →
    header.accounts.outputTokenAccount = header.accounts.payer
  output : header.expectedOutputMint ≠ systemProgram →
    TokenAccount l header.accounts.outputTokenAccount header.expectedOutputMint
      header.accounts.payer

/-- A route that charges its fee in tokens, and brings tokens. -/
theorem ready_of_tokens [Pda] {l : Ledger} {programId mint : Pubkey} {metas : List AccountMeta}
    {header : BuiltHeader} {fee : UInt64} {cfg : RouterConfig}
    (hconfig : checkConfig l programId
      (mergedView metas (.newReadonly (Sdk.configPda programId).1 false)) = .ok cfg)
    (hasset : header.feeAsset = feeAssetToken) (hmint : header.expectedOutputMint ≠ systemProgram)
    (hsource : TokenAccount l header.accounts.feeSource mint header.accounts.payer)
    (hdue : FeeReady l header.accounts cfg)
    (houtput : TokenAccount l header.accounts.outputTokenAccount header.expectedOutputMint
      header.accounts.payer) : Ready l programId metas header fee cfg where
  config := hconfig
  lamports hsol := by
    rw [hasset] at hsol
    exact absurd hsol (by decide)
  tokens _ := ⟨⟨mint, hsource⟩, fun _ => hdue⟩
  native h := absurd h hmint
  output _ := houtput

section Readings

variable {l l' : Ledger} {header : BuiltHeader} {user account : AccountView}

/-- A token account's balance is what its purse holds. -/
theorem tokenAmount_holds {mint owner : Pubkey} (h : TokenAccount l account.address mint owner) :
    ∃ n, tokenAmount l account = .ok n ∧ n.toNat = holds l ⟨false, account.address⟩ := by
  obtain ⟨n, hn⟩ := h.tokenAmount_ok
  exact ⟨n, hn, (holds_token ((tokenAmount_eq_balanceAt account).symm.trans hn)).symm⟩

variable [Pda] {programId : Pubkey} {metas : List AccountMeta} {fee : UInt64}
  {cfg : RouterConfig}

/-- **The balance the fee is charged to** is what its purse holds, at the start
and as long as the header's token accounts are kept. -/
theorem Ready.source_reads (h : Ready l programId metas header fee cfg)
    (hasset : header.feeAsset = feeAssetSol ∨ header.feeAsset = feeAssetToken)
    (hsource : account.address = header.accounts.feeSource)
    (huser : user.address = header.accounts.payer) :
    (∃ n, feeSourceBefore l header.feeAsset user account = .ok n
        ∧ n.toNat = holds l header.source)
      ∧ ∀ l', KeepsTokens header l l' →
        ∃ n, feeSourceBalance l' header.feeAsset account = .ok n
          ∧ n.toNat = holds l' header.source := by
  rcases hasset with hasset | hasset
  · obtain ⟨hpayer, -⟩ := h.lamports hasset
    have hpurse : header.source = ⟨true, account.address⟩ := by
      rw [BuiltHeader.source, hasset, hsource]
      rfl
    rw [hpurse, hasset]
    have hown : account.address = user.address := by rw [hsource, huser, hpayer]
    refine ⟨⟨account.lamports l, ?_, rfl⟩, fun l' _ => ⟨account.lamports l', rfl, rfl⟩⟩
    exact bind_eq_ok.mpr ⟨(), failIf_eq_ok.mpr (not_not.mpr hown), rfl⟩
  · obtain ⟨⟨mint, htoken⟩, -⟩ := h.tokens hasset
    have hpurse : header.source = ⟨false, account.address⟩ := by
      rw [BuiltHeader.source, hasset, hsource]
      rfl
    rw [hpurse, hasset]
    rw [← hsource, ← huser] at htoken
    refine ⟨?_, fun l' hkeeps => ?_⟩
    · obtain ⟨n, hn, hholds⟩ := tokenAmount_holds htoken
      exact ⟨n, feeSourceBefore_token htoken hn, hholds⟩
    · have htoken' := hkeeps account.address (by rw [hsource]; exact List.mem_cons_self) mint
        (by rw [← huser]; exact htoken)
      exact tokenAmount_holds htoken'

/-- **The output account is accepted**, and its balance is what its purse
holds. -/
theorem Ready.output_reads (h : Ready l programId metas header fee cfg)
    (houtput : account.address = header.accounts.outputTokenAccount)
    (huser : user.address = header.accounts.payer) :
    ∃ native, validateOutput l user account header.expectedOutputMint false = .ok native
      ∧ ∀ l', KeepsTokens header l l' →
        ∃ n, outputBalance l' account native = .ok n ∧ n.toNat = holds l' (paidInto header) := by
  by_cases hmint : header.expectedOutputMint = systemProgram
  · have hpurse : paidInto header = ⟨true, account.address⟩ := by
      rw [paidInto, decide_eq_true hmint, houtput]
    have hown : account.address = user.address := by rw [houtput, huser, h.native hmint]
    rw [hpurse]
    refine ⟨true, ?_, fun l' _ => ⟨account.lamports l', rfl, rfl⟩⟩
    have hsystem : header.expectedOutputMint = systemProgramId := hmint
    unfold validateOutput
    rw [if_pos hsystem]
    exact bind_eq_ok.mpr ⟨(), failIf_eq_ok.mpr (by simp [hown]), rfl⟩
  · have hpurse : paidInto header = ⟨false, account.address⟩ := by
      rw [paidInto, decide_eq_false hmint, houtput]
    have htoken := h.output hmint
    rw [hpurse]
    refine ⟨false, validateOutput_ok hmint ?_ false, fun l' hkeeps => ?_⟩
    · rw [houtput, huser]
      exact htoken
    · have htoken' := hkeeps account.address (by rw [houtput]; simp) header.expectedOutputMint
        (by rw [houtput]; exact htoken)
      exact tokenAmount_holds htoken'

/-- A fee that falls due can be transferred. -/
theorem Ready.transfer (h : Ready l programId metas header fee cfg)
    (hasset : header.feeAsset = feeAssetSol ∨ header.feeAsset = feeAssetToken)
    (hfee : fee ≠ 0) {a : Program.RouteAccounts AccountView}
    (huser : a.user.address = header.accounts.payer)
    (hsource : a.feeSource.address = header.accounts.feeSource)
    (hdestination : a.feeDestination.address = header.accounts.feeDestination)
    (hprogram : a.feeProgram.address = header.accounts.feeProgram) :
    ∃ call, feeTransfer l cfg header.feeAsset fee a = .ok call := by
  rcases hasset with hasset | hasset
  · obtain ⟨hpayer, hdue⟩ := h.lamports hasset
    obtain ⟨hrecipient, hsystem⟩ := hdue hfee
    rw [hasset]
    refine ⟨_, bind_eq_ok.mpr ⟨(), failIf_eq_ok.mpr ?_, bind_eq_ok.mpr ⟨(), failIf_eq_ok.mpr ?_,
      bind_eq_ok.mpr ⟨(), failIf_eq_ok.mpr ?_, rfl⟩⟩⟩⟩
    · exact not_not.mpr (hprogram.trans hsystem)
    · exact not_not.mpr (hdestination.trans hrecipient)
    · exact not_not.mpr (hsource.trans (hpayer.trans huser.symm))
  · rw [hasset]
    exact tokenFeeTransfer_ok ((h.tokens hasset).2 hfee) hprogram hsource hdestination fee

end Readings

/-! ## The route -/

/-- **The planned transfers pay the output**: one of them brings the minimum
there, and none takes from it. -/
def Pays (header : BuiltHeader) (ts : List (Transfer Purse)) : Prop :=
  (∀ t ∈ ts, paidInto header ≠ t.source)
    ∧ ∃ t ∈ ts, paidInto header = t.target ∧ header.minAmountOut.toNat ≤ t.least

/-- **A route that was carried out**: the fee was taken, then the legs were
called in their order. What left the fee's source is what the header allows,
and the output gained its minimum. -/
structure Executed (metas : List AccountMeta) (header : BuiltHeader) (legs : List Leg)
    (fee : UInt64) (m charged m' : Machine) : Prop where
  taken : FeeTaken header fee m charged
  calls : ∃ events, m'.trace = charged.trace ++ events
    ∧ events.map CpiEvent.call = legs.map (legCall metas)
  spent : Accepted header.exactOut header.amountIn.toNat fee.toNat
    (holds m.ledger header.source) (holds m'.ledger header.source)
  received : holds charged.ledger (paidInto header) + header.minAmountOut.toNat
    ≤ holds m'.ledger (paidInto header)

section Route

variable {header : BuiltHeader} {legs : List Leg} {fee : UInt64} {ts : List (Transfer Purse)}
  {m charged : Machine}

/-- **The planned transfers settle**: whatever they leave at the fee's source,
once the fee is taken, is accepted. -/
def SettlesAs (header : BuiltHeader) (fee : UInt64) (ts : List (Transfer Purse)) : Prop :=
  ∀ before charged after : ℕ, before < 2 ^ 64 → after < 2 ^ 64 → fee.toNat ≤ before →
    charged + fee.toNat = before + (if header.source = header.destination then fee.toNat else 0) →
    Seen header.exactOut header.source ts charged after →
    Accepted header.exactOut header.amountIn.toNat fee.toNat before after

/-- **A route that settles** is one whose planned transfers do: what the fee's
source sees is part of an honest run, with the other purses stocked as it
takes. -/
theorem settlesAs_of_settles {feeBps : UInt16} (h : Settles feeBps header legs)
    (hfee : checkedFee header.amountIn feeBps = .ok fee)
    (hplans : List.Forall₂ (Leg.Plans · header.accounts.payer ·) legs ts) :
    SettlesAs header fee ts := by
  intro before charged after hbefore hafter hfunded htaken hseen
  obtain ⟨b, b₁, hstart, hmoved, hstocked⟩ :=
    @exists_charged header fee.toNat before (outlay ts) hfunded
  have hleft : before - header.charge fee.toNat = charged := by
    unfold BuiltHeader.charge
    split at htaken
    · rename_i heq
      rw [if_pos heq]
      omega
    · rename_i hne
      rw [if_neg hne]
      omega
  rw [hleft] at hstocked
  obtain ⟨b', hruns, hlast⟩ := hseen.exists_runs hstocked
  exact h.accepted hplans hfee hmoved hruns hstart hlast hbefore hafter

/-- **One transfer settles** if the fee leaves its source, the transfer takes
the rest from there, and brings nothing back. -/
theorem settlesAs_single {t : Transfer Purse} (hsource : t.source = header.source)
    (htarget : t.target ≠ header.source)
    (hleaves : fee = 0 ∨ header.destination ≠ header.source)
    (hamount : header.amountIn.toNat = fee.toNat + t.most) : SettlesAs header fee [t] := by
  intro before charged after _ _ hfunded htaken hseen
  obtain ⟨spent, hmost, hall, hspent⟩ :=
    hseen.spent htarget.symm fun _ h => absurd h List.not_mem_nil
  rw [if_pos hsource.symm] at hspent
  have hcharged : charged + fee.toNat = before := by
    rcases hleaves with hzero | hne
    · rw [hzero, UInt64.toNat_zero, ite_self] at htaken
      rw [hzero]
      exact htaken
    · rwa [if_neg hne.symm] at htaken
  refine ⟨by omega, fun hexact => ?_, fun _ => by omega⟩
  have hfull := hall hexact
  omega

/-- A gain of the minimum is accepted. -/
theorem checkReceived_ok {before after minAmountOut : UInt64}
    (h : before.toNat + minAmountOut.toNat ≤ after.toNat) :
    checkReceived before after minAmountOut = .ok () := by
  have hle : before ≤ after := UInt64.le_iff_toNat_le.mpr (by omega)
  rw [checkReceived, failIf_eq_ok, UInt64.not_lt, saturatingSub, if_pos hle,
    UInt64.le_iff_toNat_le, UInt64.toNat_sub_of_le _ _ hle]
  omega

variable [Pda] {plans : Leg → Transfer Purse → Prop} {rt : Runtime} {programId : Pubkey}
  {cfg : RouterConfig}

/-- **What the program reads of a static route**: a header that passes its
checks, its accounts, which the payer has signed for, and its legs. -/
structure Presented (programId : Pubkey) (header : BuiltHeader) (legs : List Leg)
    (read : RouteHeader) (remaining : List AccountMeta) : Prop where
  header_eq : readHeader (header.route programId legs).data.tail 0 = .ok read
  header_ok : checkHeader read 0 = .ok ()
  amountIn : read.amountIn = header.amountIn
  minAmountOut : read.minAmountOut = header.minAmountOut
  feeAsset : read.feeAsset = header.feeAsset
  exactOut : read.exactOut = header.exactOut
  mint : read.expectedOutputMint = header.expectedOutputMint
  count : read.numLegs = legs.length
  split : splitAccounts ((header.route programId legs).accounts.map
      (mergedView (header.route programId legs).accounts)) 0
    = .ok (namedAccounts (mergedView (header.route programId legs).accounts) programId
        header.accounts [] remaining)
  signed : (mergedView (header.route programId legs).accounts
    (.new header.accounts.payer true)).isSigner = true
  parsed : parseLegs (header.route programId legs).data.tail
      (remaining.map (mergedView (header.route programId legs).accounts)) legs.length
      ⟨routeHeaderLen, 0⟩
    = .ok (legs.map (presented (header.route programId legs).accounts),
        ⟨(header.route programId legs).data.tail.length, (legs.flatMap Leg.accounts).length⟩)

/-- The instruction of a static route within the limits is read back. -/
theorem exists_presented (hpos : 1 ≤ legs.length) (hle : legs.length ≤ 4)
    (hsized : ∀ leg ∈ legs, WellSized leg)
    (hasset : header.feeAsset = feeAssetSol ∨ header.feeAsset = feeAssetToken)
    (hamount : header.amountIn ≠ 0) :
    ∃ read remaining, Presented programId header legs read remaining := by
  have hrecovers := recovers_static (mergedView (header.route programId legs).accounts)
    programId header.accounts header.amountIn header.minAmountOut header.feeAsset
    header.exactOut header.expectedOutputMint hle hsized
  obtain ⟨read, hread, hin, hmin, -, hreadAsset, hexact, hmint, hcount, -, -⟩ :=
    hrecovers.header
  obtain ⟨remaining, hsplit, hparse⟩ := hrecovers.legs
  have hpayer : AccountMeta.new header.accounts.payer true
      ∈ (header.route programId legs).accounts :=
    hrecovers.leading _ (List.mem_append_left _ (List.mem_cons_self ..))
  refine ⟨read, remaining, {
    header_eq := hread
    header_ok := ?_
    amountIn := hin
    minAmountOut := hmin
    feeAsset := ?_
    exactOut := hexact
    mint := hmint
    count := hcount
    split := hsplit
    signed := isSigner_of_mem hpayer rfl
    parsed := hparse }⟩
  · exact bind_eq_ok.mpr ⟨(), failIf_eq_ok.mpr (by rw [hin]; exact hamount), bind_eq_ok.mpr
      ⟨(), failIf_eq_ok.mpr (not_not.mpr (by rw [hcount]; exact ⟨hpos, hle⟩)),
        failIf_eq_ok.mpr fun h => h.1 rfl⟩⟩
  · rw [hreadAsset]
    rcases hasset with h | h <;> rw [h] <;> rfl

omit [Pda] in
/-- A purse holds less than fits in 64 bits. -/
theorem holds_lt (l : Ledger) (p : Purse) : holds l p < 2 ^ 64 := by
  unfold holds
  split
  · exact UInt64.toNat_lt _
  · exact UInt64.toNat_lt _

omit [Pda] in
/-- **What the fee and the planned transfers leave is accepted**: the route
spends what its header allows, and brings its minimum. -/
theorem Carried.accepted {metas : List AccountMeta} {m' : Machine}
    (h : Carried metas header legs ts charged m') (hcharged : FeeTaken header fee m charged)
    (hsettles : SettlesAs header fee ts) (hpays : Pays header ts) :
    Accepted header.exactOut header.amountIn.toNat fee.toNat (holds m.ledger header.source)
        (holds m'.ledger header.source)
      ∧ holds charged.ledger (paidInto header) + header.minAmountOut.toNat
        ≤ holds m'.ledger (paidInto header) := by
  refine ⟨hsettles _ _ _ (holds_lt _ _) (holds_lt _ _) hcharged.funded hcharged.taken
    (h.seen header.source (by simp)), ?_⟩
  obtain ⟨hnever, t, ht, htarget, hleast⟩ := hpays
  have hgain := (h.seen (paidInto header) (by simp)).gains hnever ht htarget
  omega

/-- **A route that settles is carried out** in an honest runtime, unless one of
its own calls fails: the program itself finds nothing to object to. -/
theorem route_executes (hpos : 1 ≤ legs.length) (hle : legs.length ≤ 4)
    (hsized : ∀ leg ∈ legs, WellSized leg)
    (hasset : header.feeAsset = feeAssetSol ∨ header.feeAsset = feeAssetToken)
    (hamount : header.amountIn ≠ 0) (hfee : checkedFee header.amountIn cfg.feeBps = .ok fee)
    (hplans : List.Forall₂ plans legs ts) (hsettles : SettlesAs header fee ts)
    (hpays : Pays header ts)
    (hrt : Honest plans rt (header.route programId legs).accounts header legs)
    (hready : Ready m.ledger programId (header.route programId legs).accounts header fee cfg) :
    Ensures (fun _ m' => ∃ charged,
        Executed (header.route programId legs).accounts header legs fee m charged m')
      (fun e _ => CallFailed rt (header.route programId legs).accounts header legs e)
      (processInner rt programId ((header.route programId legs).accounts.map
        (mergedView (header.route programId legs).accounts))
        (header.route programId legs).data.tail 0 m) := by
  obtain ⟨read, remaining, hread⟩ : ∃ read remaining,
      Presented programId header legs read remaining :=
    exists_presented hpos hle hsized hasset hamount
  set metas := (header.route programId legs).accounts
  set a := namedAccounts (mergedView metas) programId header.accounts [] remaining
  -- What the ledger says of the fee's source and of the output, now and later.
  obtain ⟨⟨before, hbefore, hbeforeHolds⟩, hsource⟩ :=
    @Ready.source_reads _ header a.user a.feeSource _ _ _ _ _ hready hasset rfl rfl
  obtain ⟨native, houtput, hpaid⟩ :=
    @Ready.output_reads _ header a.user a.userOutput _ _ _ _ _ hready rfl rfl
  rw [← hread.feeAsset] at hbefore
  rw [← hread.amountIn] at hfee
  rw [← hread.mint] at houtput
  have hsigned : failIf ((!a.user.isSigner) = true) ProgramError.missingRequiredSignature
      = .ok () := by
    rw [failIf_eq_ok, show a.user.isSigner = true from hread.signed]
    decide
  have hcharge : Ensures (fun _ charged => FeeTaken header fee m charged)
      (fun e _ => CallFailed rt metas header legs e)
      (chargeFee rt cfg read.feeAsset fee a m) := by
    rw [hread.feeAsset]
    exact chargeFee_honest hrt rfl rfl fun hne => hready.transfer hasset hne rfl rfl rfl rfl
  unfold processInner
  refine ensures_ok_bind hread.header_eq (ensures_ok_bind hread.header_ok
    (ensures_ok_bind hread.split (ensures_ok_bind hsigned (ensures_currentLedger_bind
      (ensures_ok_bind hready.config (ensures_ok_bind houtput (ensures_ok_bind hfee
        (ensures_ok_bind hbefore (ensures_bind (ensures_imp hcharge ?_
          fun _ _ he => he))))))))))
  rintro ⟨⟩ charged hcharged
  obtain ⟨out, hout, houtHolds⟩ := hpaid charged.ledger hcharged.keeps
  refine ensures_currentLedger_bind (ensures_ok_bind hout (ensures_ok_bind rfl
    (ensures_ok_bind rfl (ensures_bind ?_))))
  rw [hread.count]
  refine ensures_imp (runLegs_static rfl hrt hplans (List.Subset.refl _) hread.parsed) ?_
    fun _ _ he => he
  rintro final m' ⟨-, hcarried⟩
  have hkeeps := hcharged.keeps.trans hcarried.keeps
  obtain ⟨after, hafter, hafterHolds⟩ := hsource m'.ledger hkeeps
  obtain ⟨got, hgot, hgotHolds⟩ := hpaid m'.ledger hkeeps
  obtain ⟨hspend, hreceived⟩ := hcarried.accepted hcharged hsettles hpays
  -- A static route reads no cursor at its end.
  have hcursor : failIf (0 ≠ 0 ∧ final.pos.cursor
      ≠ (header.route programId legs).data.tail.length)
      (RouterError.invalidInstructionData : ProgramError) = .ok () :=
    failIf_eq_ok.mpr fun h => h.1 rfl
  have hspend' : validateSpend before after read.amountIn fee read.exactOut = .ok () := by
    rw [hread.amountIn, hread.exactOut, validateSpend_iff, hbeforeHolds, hafterHolds]
    exact hspend
  have hreceived' : checkReceived out got read.minAmountOut = .ok () := by
    refine checkReceived_ok ?_
    rw [hread.minAmountOut, houtHolds, hgotHolds]
    exact hreceived
  rw [← hread.feeAsset] at hafter
  refine ensures_ok_bind hcursor (ensures_currentLedger_bind (ensures_ok_bind rfl
    (ensures_ok_bind rfl (ensures_ok_bind hafter (ensures_ok_bind hspend'
      (ensures_ok_bind hgot ?_))))))
  rw [hreceived']
  exact ⟨charged, hcharged, hcarried.calls, hspend, hreceived⟩

end Route

/-- **A route is carried out**, by any runtime whose calls do what they encode
and on any ledger that is ready for it, under the rate it was built for – or
one of its own calls fails. -/
structure Executes [Pda] (plans : Leg → Transfer Purse → Prop) (programId : Pubkey)
    (feeBps : UInt16) (header : BuiltHeader) (legs : List Leg) : Prop where
  run : ∀ (rt : Runtime) (cfg : RouterConfig) (m : Machine), cfg.feeBps = feeBps →
    Honest plans rt (header.route programId legs).accounts header legs →
    Ready m.ledger programId (header.route programId legs).accounts header
      (feeAmount header.amountIn feeBps) cfg →
    Ensures (fun _ m' => ∃ charged, Executed (header.route programId legs).accounts header legs
        (feeAmount header.amountIn feeBps) m charged m')
      (fun e _ => CallFailed rt (header.route programId legs).accounts header legs e)
      (processInner rt programId ((header.route programId legs).accounts.map
        (mergedView (header.route programId legs).accounts))
        (header.route programId legs).data.tail 0 m)

/-- What a run that returned has done. -/
theorem Executes.of_returned [Pda] {plans : Leg → Transfer Purse → Prop} {programId : Pubkey}
    {feeBps : UInt16} {header : BuiltHeader} {legs : List Leg}
    (h : Executes plans programId feeBps header legs) {rt : Runtime} {cfg : RouterConfig}
    {fee : UInt64} {m m' : Machine} (hbps : cfg.feeBps = feeBps)
    (hfee : feeAmount header.amountIn feeBps = fee)
    (hrt : Honest plans rt (header.route programId legs).accounts header legs)
    (hready : Ready m.ledger programId (header.route programId legs).accounts header fee cfg)
    (hrun : processInner rt programId ((header.route programId legs).accounts.map
      (mergedView (header.route programId legs).accounts))
      (header.route programId legs).data.tail 0 m = .ok () m') :
    ∃ charged, Executed (header.route programId legs).accounts header legs fee m charged m' := by
  subst hfee
  have hensures := h.run rt cfg m hbps hrt hready
  rw [hrun] at hensures
  exact hensures

/-- **Routes whose planned transfers settle and pay are carried out.** -/
theorem executes_of_settlesAs [Pda] {plans : Leg → Transfer Purse → Prop} {programId : Pubkey}
    {feeBps : UInt16} {header : BuiltHeader} {legs : List Leg} {ts : List (Transfer Purse)}
    (hbps : feeBps.toNat ≤ 10000) (hpos : 1 ≤ legs.length) (hle : legs.length ≤ 4)
    (hsized : ∀ leg ∈ legs, WellSized leg)
    (hasset : header.feeAsset = feeAssetSol ∨ header.feeAsset = feeAssetToken)
    (hamount : header.amountIn ≠ 0) (hplans : List.Forall₂ plans legs ts)
    (hsettles : SettlesAs header (feeAmount header.amountIn feeBps) ts)
    (hpays : Pays header ts) : Executes plans programId feeBps header legs := by
  refine ⟨fun rt cfg m hcfg hrt hready => ?_⟩
  subst hcfg
  exact route_executes hpos hle hsized hasset hamount (checkedFee_feeAmount hbps) hplans hsettles
    hpays hrt hready

end Execution
