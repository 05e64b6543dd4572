import SolTradeRouter.ConfigLifecycle
import SolTradeRouter.RouteChaining
import SolTradeRouter.RouteSettlement

/-!
# What the program calls

The program lends its caller's signature to other programs. This module
bounds what it does with it, over all instructions, whether they return or
stop, and in every state that a run reaches.

A call is signed by nobody who has not signed the instruction. A route calls
at most once for its fee – a tenth of the input at most, out of an account of
the user and to the recipient of the configuration – and makes no leg's call
before a fee that is due is taken. Its legs are at most four, and each is
passed accounts of the instruction, with the privileges they have there.
Besides, the program tops up the vault of a creator, out of the signer's
lamports. It makes no other call.
-/

namespace Program

open Outcome Bytes

/-! ## Calls -/

/-- **A call is signed by signers of the instruction.** -/
def SignedBy (accounts : List AccountView) (call : CpiCall) : Prop :=
  ∀ x ∈ call.metas, x.isSigner = true →
    ∃ v ∈ accounts, v.address = x.pubkey ∧ v.isSigner = true

/-- **A call of a leg**: it is passed some of the instruction's accounts, next
to each other, with the privileges they have there. -/
def CallsLeg (accounts : List AccountView) (call : CpiCall) : Prop :=
  ∃ named, named <:+: accounts ∧ 0 < named.length ∧ named.length ≤ maxLegAccounts
    ∧ call.metas = named.map AccountView.toMeta

/-- The token accounts between which a fee moves: one of the user, and one of
the recipient for the same mint. -/
structure FeeAccounts (l : Ledger) (user recipient : Address)
    (source dest authority : AccountView) (program : Address) : Prop where
  authority_eq : authority.address = user
  source_owner : tokenOwner l source = .ok user
  dest_owner : tokenOwner l dest = .ok recipient
  mint : ∃ mint, tokenMint l source = .ok mint ∧ tokenMint l dest = .ok mint
  kept : source.owner l = program ∧ dest.owner l = program
  isToken : isTokenProgram program = true

/-- **A transfer of a fee**, in lamports or in tokens. -/
inductive FeeCall (l : Ledger) (user recipient : Address) (fee : UInt64) : CpiCall → Prop
  | lamports {source dest : AccountView} (hsource : source.address = user)
    (hdest : dest.address = recipient) : FeeCall l user recipient fee
      (systemTransfer source dest fee)
  | tokens {source dest authority : AccountView} {program : Address}
    (h : FeeAccounts l user recipient source dest authority program) :
    FeeCall l user recipient fee (tokenTransfer source dest authority fee program)
  | checked {source mint dest authority : AccountView} {program : Address} {decimals : UInt8}
    (h : FeeAccounts l user recipient source dest authority program) :
    FeeCall l user recipient fee ⟨program, [⟨source.address, false, true⟩,
      ⟨mint.address, false, false⟩, ⟨dest.address, false, true⟩,
      ⟨authority.address, true, false⟩], 12 :: (ofUInt64 fee ++ [decimals])⟩

/-- **What a route calls**: for its fee, and then its legs. -/
structure RouteCalls (l : Ledger) (accounts : List AccountView) (user : AccountView)
    (cfg : RouterConfig) (fee : UInt64) (fees legs : List CpiEvent) : Prop where
  fees_le : fees.length ≤ 1
  fees_call : ∀ e ∈ fees, fee ≠ 0 ∧ FeeCall l user.address cfg.feeRecipient fee e.call
  legs_le : legs.length ≤ maxLegs
  legs_call : ∀ e ∈ legs, CallsLeg accounts e.call
  order : legs ≠ [] → fee ≠ 0 → fees.length = 1

/-! ## Signatures -/

section

variable {l : Ledger} {accounts : List AccountView} {call : CpiCall}

/-- A leg is signed by those accounts it is passed that have signed. -/
theorem CallsLeg.signedBy (h : CallsLeg accounts call) : SignedBy accounts call := by
  obtain ⟨named, hnamed, -, -, hmetas⟩ := h
  intro x hx hsigner
  rw [hmetas] at hx
  obtain ⟨v, hv, rfl⟩ := List.mem_map.mp hx
  exact ⟨v, hnamed.subset hv, rfl, hsigner⟩

/-- A transfer out of the lamports of a signer. -/
theorem systemTransfer_signedBy {source dest user : AccountView} {n : UInt64}
    (huser : user ∈ accounts) (hsigner : user.isSigner = true)
    (hsource : source.address = user.address) :
    SignedBy accounts (systemTransfer source dest n) := by
  intro x hx hx'
  simp only [systemTransfer, List.mem_cons, List.not_mem_nil, or_false] at hx
  rcases hx with rfl | rfl
  · exact ⟨user, huser, hsource.symm, hsigner⟩
  · cases hx'

/-- A fee is signed by the user. -/
theorem FeeCall.signedBy {user : AccountView} {recipient : Address} {fee : UInt64}
    (h : FeeCall l user.address recipient fee call) (huser : user ∈ accounts)
    (hsigner : user.isSigner = true) : SignedBy accounts call := by
  cases h with
  | lamports hsource _ => exact systemTransfer_signedBy huser hsigner hsource
  | tokens h =>
    intro x hx hx'
    simp only [tokenTransfer, List.mem_cons, List.not_mem_nil, or_false] at hx
    rcases hx with rfl | rfl | rfl
    · cases hx'
    · cases hx'
    · exact ⟨user, huser, h.authority_eq.symm, hsigner⟩
  | checked h =>
    intro x hx hx'
    simp only [List.mem_cons, List.not_mem_nil, or_false] at hx
    rcases hx with rfl | rfl | rfl | rfl
    · cases hx'
    · cases hx'
    · cases hx'
    · exact ⟨user, huser, h.authority_eq.symm, hsigner⟩

/-- So is all that a route calls. -/
theorem RouteCalls.signedBy {user : AccountView} {cfg : RouterConfig} {fee : UInt64}
    {fees legs : List CpiEvent} (h : RouteCalls l accounts user cfg fee fees legs)
    (huser : user ∈ accounts) (hsigner : user.isSigner = true) :
    ∀ e ∈ fees ++ legs, SignedBy accounts e.call := by
  intro e he
  rcases List.mem_append.mp he with he | he
  · exact (h.fees_call e he).2.signedBy huser hsigner
  · exact (h.legs_call e he).signedBy

end

/-! ## The fee -/

/-- **The transfer the program builds for a fee is one.** The user owns the
account the fee is charged to, as its balance was read before. -/
theorem feeTransfer_feeCall {l : Ledger} {cfg : RouterConfig} {feeAsset : UInt8}
    {fee before : UInt64} {a : RouteAccounts AccountView} {call : CpiCall}
    (hbefore : feeSourceBefore l feeAsset a.user a.feeSource = .ok before)
    (h : feeTransfer l cfg feeAsset fee a = .ok call) :
    FeeCall l a.user.address cfg.feeRecipient fee call := by
  unfold feeTransfer at h
  by_cases hsol : feeAsset = 0
  · rw [if_pos hsol] at h
    obtain ⟨_, -, h⟩ := bind_eq_ok.mp h
    obtain ⟨_, hdest, h⟩ := bind_eq_ok.mp h
    obtain ⟨_, hsource, h⟩ := bind_eq_ok.mp h
    cases h
    exact .lamports (not_not.mp (failIf_eq_ok.mp hsource)) (not_not.mp (failIf_eq_ok.mp hdest))
  · rw [if_neg hsol] at h
    split at h
    · rename_i htoken
      unfold feeSourceBefore at hbefore
      rw [if_neg hsol, if_pos htoken] at hbefore
      obtain ⟨_, hkind, hbefore⟩ := bind_eq_ok.mp hbefore
      obtain ⟨owner, howner, hbefore⟩ := bind_eq_ok.mp hbefore
      obtain ⟨_, huser, -⟩ := bind_eq_ok.mp hbefore
      have howner : tokenOwner l a.feeSource = .ok a.user.address := by
        rw [howner, not_not.mp (failIf_eq_ok.mp huser)]
      simp only [tokenFeeTransfer, bind_eq_ok, failIf_eq_ok, not_not] at h
      obtain ⟨_, -, _, hprogram, _, -, _, hdest, recipient, hrecipient, _, rfl, destMint,
        hdestMint, sourceMint, hsourceMint, _, rfl, mint, -, h⟩ := h
      have haccounts : FeeAccounts l a.user.address cfg.feeRecipient a.feeSource
          a.feeDestination a.user a.feeProgram.address :=
        ⟨rfl, howner, hrecipient, ⟨_, hsourceMint, hdestMint⟩, ⟨hprogram.symm,
          hdest.trans hprogram.symm⟩, by
            rw [hprogram]
            simpa using failIf_eq_ok.mp hkind⟩
      split at h
      · obtain ⟨_, -, h⟩ := bind_eq_ok.mp h
        obtain ⟨_, -, h⟩ := bind_eq_ok.mp h
        obtain ⟨_, -, h⟩ := bind_eq_ok.mp h
        obtain ⟨decimals, -, h⟩ := bind_eq_ok.mp h
        cases h
        exact .checked haccounts
      · cases h
        exact .tokens haccounts
    · cases h

/-! ## The legs -/

section Legs

variable {rt : Runtime} {data : List UInt8} {f : RouteFrame} {accounts : List AccountView}

/-- **The calls made since**: as many legs at most. -/
def LegCalls (accounts : List AccountView) (n : ℕ) (m m' : Machine) : Prop :=
  ∃ legs : List CpiEvent, m'.trace = m.trace ++ legs ∧ legs.length ≤ n
    ∧ ∀ e ∈ legs, CallsLeg accounts e.call

theorem LegCalls.refl (n : ℕ) (m : Machine) : LegCalls accounts n m m :=
  ⟨[], (List.append_nil _).symm, Nat.zero_le n, fun _ h => absurd h List.not_mem_nil⟩

theorem LegCalls.trans {i j : ℕ} {m m' m'' : Machine} (h : LegCalls accounts i m m')
    (h' : LegCalls accounts j m' m'') : LegCalls accounts (i + j) m m'' := by
  obtain ⟨legs, htrace, hlen, hcalls⟩ := h
  obtain ⟨legs', htrace', hlen', hcalls'⟩ := h'
  refine ⟨legs ++ legs', by rw [htrace', htrace, List.append_assoc], ?_, fun e he => ?_⟩
  · rw [List.length_append]
    exact Nat.add_le_add hlen hlen'
  · exact (List.mem_append.mp he).elim (hcalls e) (hcalls' e)

/-- **One step makes at most one call**, of a leg. -/
theorem legStep_calls (haccounts : f.accounts.remaining <:+: accounts) (i : ℕ) (s : LegLoop)
    (m : Machine) : Ensures (fun _ m' => LegCalls accounts 1 m m')
      (fun _ m' => LegCalls accounts 1 m m') (legStep rt data f i s m) := by
  have hrefl : LegCalls accounts 1 m m := .refl 1 m
  refine ensures_lift_bind (fun _ _ => hrefl) fun parsed hparsed => ?_
  have hparse : LegParse data f.accounts.remaining s.pos parsed.1 parsed.2 :=
    parseLeg_eq_ok.mp hparsed
  refine ensures_currentLedger_bind (ensures_lift_bind (fun _ _ => hrefl) fun invokeData _ => ?_)
  refine ensures_ok_bind (buildMetas_eq hparse.length_accounts hparse.count_le)
    (ensures_bind (ensures_invoke_of (fun after _ => ?_) fun _ _ => hrefl))
  have hcalled : LegCalls accounts 1 m ⟨after, m.trace ++ [⟨⟨parsed.1.programId,
      parsed.1.accounts.map AccountView.toMeta, invokeData⟩, m.ledger, after⟩]⟩ := by
    obtain ⟨pre, post, hsplit, -⟩ := range?_eq_some_iff.mp hparse.accounts
    refine ⟨_, rfl, Nat.le_refl 1, List.forall_mem_singleton.mpr ⟨parsed.1.accounts, ?_, ?_, ?_,
      rfl⟩⟩
    · exact .trans ⟨pre, post, hsplit.symm⟩ haccounts
    · rw [hparse.length_accounts]
      exact hparse.count_pos
    · rw [hparse.length_accounts]
      exact hparse.count_le
  exact ensures_currentLedger_bind (ensures_lift_bind (fun _ _ => hcalled) fun _ _ =>
    ensures_pure hcalled)

/-- **The loop makes at most as many calls as there are legs**, by induction on
the legs that are left. -/
theorem runLegs_calls (haccounts : f.accounts.remaining <:+: accounts) (n i : ℕ) (s : LegLoop)
    (m : Machine) : Ensures (fun _ m' => LegCalls accounts n m m')
      (fun _ m' => LegCalls accounts n m m') (runLegs rt data f n i s m) := by
  induction n generalizing i s m with
  | zero => exact ensures_pure (LegCalls.refl 0 m)
  | succ n ih =>
    have hstep : ∀ {m m' m'' : Machine}, LegCalls accounts 1 m m' → LegCalls accounts n m' m'' →
        LegCalls accounts (n + 1) m m'' := fun h h' => Nat.add_comm 1 n ▸ h.trans h'
    refine ensures_bind (ensures_imp (legStep_calls haccounts i s m) (fun s' m' h => ?_)
      fun _ m' h => hstep h (LegCalls.refl n m'))
    exact ensures_imp (ih (i + 1) s' m') (fun _ _ h' => hstep h h') fun _ _ h' => hstep h h'

end Legs

/-! ## The route -/

section Route

variable [Pda] {rt : Runtime} {programId : Address} {accounts : List AccountView}
  {data : List UInt8} {dyn : ℕ}

/-- **What a route has done by the time it returns or stops**: nothing, or it
was signed by its first account, under a configuration that is in force, and
made the calls of a route with a fee at the configured rate. -/
def RouteCalled (programId : Address) (accounts : List AccountView) (data : List UInt8)
    (l : Ledger) (events : List CpiEvent) : Prop :=
  events = [] ∨ ∃ user config cfg amountIn fee fees legs, accounts.head? = some user
    ∧ user.isSigner = true ∧ checkConfig l programId config = .ok cfg
    ∧ readU64 data 0 = .ok amountIn ∧ checkedFee amountIn cfg.feeBps = .ok fee
    ∧ events = fees ++ legs ∧ RouteCalls l accounts user cfg fee fees legs

omit [Pda] in
/-- The user is the first account, and the legs draw from the accounts. -/
theorem splitAccounts_eq_ok {a : RouteAccounts AccountView}
    (h : splitAccounts accounts dyn = .ok a) :
    accounts.head? = some a.user ∧ a.remaining <:+: accounts := by
  have hif : ∀ {wanted : Bool} {rest rest' : List AccountView} {o : Option AccountView},
      splitFirstIf wanted rest = .ok (o, rest') → rest' <:+ rest := by
    intro wanted rest rest' o h
    cases wanted with
    | true =>
      obtain ⟨⟨x, xs⟩, hx, h⟩ := bind_eq_ok.mp h
      cases h
      rw [splitFirst_eq_ok.mp hx]
      exact List.suffix_cons _ _
    | false =>
      cases h
      exact List.suffix_refl _
  simp only [splitAccounts, bind_eq_ok, splitFirst_eq_ok, pure_eq_ok, Prod.exists] at h
  obtain ⟨user, _, rfl, _, _, rfl, _, _, rfl, _, _, rfl, _, _, rfl, _, rest, rfl, _, _, hfirst, _,
    _, hsecond, rfl⟩ := h
  refine ⟨rfl, List.IsSuffix.isInfix ?_⟩
  exact ((hif hsecond).trans (hif hfirst)).trans ⟨[_, _, _, _, _, _], rfl⟩

omit [Pda] in
theorem readHeader_amountIn {header : RouteHeader} (h : readHeader data dyn = .ok header) :
    readU64 data 0 = .ok header.amountIn := by
  obtain ⟨_, -, h⟩ := bind_eq_ok.mp h
  obtain ⟨amountIn, hamount, h⟩ := bind_eq_ok.mp h
  simp only [bind_eq_ok, pure_eq_ok] at h
  obtain ⟨_, -, _, -, _, -, _, -, _, -, _, -, rfl⟩ := h
  exact hamount

/-- **A route, to wherever it returns or stops.** -/
theorem processInner_calls (m : Machine) :
    Ensures (fun _ m' => ∃ events, m'.trace = m.trace ++ events
        ∧ RouteCalled programId accounts data m.ledger events)
      (fun _ m' => ∃ events, m'.trace = m.trace ++ events
        ∧ RouteCalled programId accounts data m.ledger events)
      (processInner rt programId accounts data dyn m) := by
  have hnone : ∃ events, m.trace = m.trace ++ events
      ∧ RouteCalled programId accounts data m.ledger events :=
    ⟨[], (List.append_nil _).symm, .inl rfl⟩
  unfold processInner
  refine ensures_lift_bind (fun _ _ => hnone) fun header hheader => ?_
  refine ensures_lift_bind (fun _ _ => hnone) fun _ hcheck => ?_
  refine ensures_lift_bind (fun _ _ => hnone) fun a ha => ?_
  refine ensures_lift_bind (fun _ _ => hnone) fun _ hsigner => ensures_currentLedger_bind ?_
  refine ensures_lift_bind (fun _ _ => hnone) fun cfg hcfg => ?_
  refine ensures_lift_bind (fun _ _ => hnone) fun native _ => ?_
  refine ensures_lift_bind (fun _ _ => hnone) fun fee hfee => ?_
  refine ensures_lift_bind (fun _ _ => hnone) fun before hbefore => ?_
  obtain ⟨huser, hremaining⟩ := splitAccounts_eq_ok ha
  have hsigner : a.user.isSigner = true := by simpa using failIf_eq_ok.mp hsigner
  have hlegs_le : header.numLegs ≤ maxLegs := by
    obtain ⟨_, -, hcheck⟩ := bind_eq_ok.mp hcheck
    obtain ⟨_, hnum, -⟩ := bind_eq_ok.mp hcheck
    exact (not_not.mp (failIf_eq_ok.mp hnum)).2
  -- Whatever follows the fee makes calls of legs only.
  have hrest : ∀ (fees : List CpiEvent) (charged m' : Machine),
      charged.trace = m.trace ++ fees → fees.length = (if fee = 0 then 0 else 1) →
      (∀ e ∈ fees, fee ≠ 0 ∧ FeeCall m.ledger a.user.address cfg.feeRecipient fee e.call) →
      LegCalls accounts header.numLegs charged m' →
      ∃ events, m'.trace = m.trace ++ events
        ∧ RouteCalled programId accounts data m.ledger events := by
    rintro fees charged m' hfees hlen hcall ⟨legs, hlegs, hcount, hcalls⟩
    refine ⟨fees ++ legs, by rw [hlegs, hfees, List.append_assoc], .inr ⟨a.user, a.config, cfg,
      header.amountIn, fee, fees, legs, huser, hsigner, hcfg, readHeader_amountIn hheader, hfee,
      rfl, ?_, hcall, hcount.trans hlegs_le, hcalls, fun _ hne => by rw [hlen, if_neg hne]⟩⟩
    rw [hlen]
    split <;> decide
  have hfees : Ensures (fun _ charged => ∃ fees, charged.trace = m.trace ++ fees
        ∧ fees.length = (if fee = 0 then 0 else 1)
        ∧ ∀ e ∈ fees, fee ≠ 0 ∧ FeeCall m.ledger a.user.address cfg.feeRecipient fee e.call)
      (fun _ m' => m' = m) (chargeFee rt cfg header.feeAsset fee a m) := by
    unfold chargeFee
    by_cases hzero : fee = 0
    · rw [if_pos hzero, hzero]
      exact ensures_pure ⟨[], (List.append_nil _).symm, rfl, fun _ h => absurd h List.not_mem_nil⟩
    · have hpos : fee > 0 := UInt64.pos_iff_ne_zero.mpr hzero
      rw [if_pos hpos]
      refine ensures_currentLedger_bind (ensures_lift_bind (fun _ _ => rfl) fun call hcall =>
        ensures_invoke_of (fun after _ => ?_) fun _ _ => rfl)
      exact ⟨_, rfl, by rw [if_neg hzero]; rfl, List.forall_mem_singleton.mpr
        ⟨hzero, feeTransfer_feeCall hbefore hcall⟩⟩
  refine ensures_bind (ensures_imp hfees ?_ fun _ m' hm' => by rw [hm']; exact hnone)
  rintro ⟨⟩ charged ⟨fees, htrace, hlen, hcall⟩
  have hcharged := hrest fees charged charged htrace hlen hcall (LegCalls.refl _ charged)
  refine ensures_currentLedger_bind (ensures_lift_bind (fun _ _ => hcharged) fun out _ => ?_)
  refine ensures_lift_bind (fun _ _ => hcharged) fun quote _ => ?_
  refine ensures_lift_bind (fun _ _ => hcharged) fun second _ => ?_
  refine ensures_bind (ensures_imp (runLegs_calls hremaining header.numLegs 0 _ charged) ?_
    fun _ m' h => hrest fees charged m' htrace hlen hcall h)
  intro final m' hlegs
  have hdone := hrest fees charged m' htrace hlen hcall hlegs
  refine ensures_lift_bind (fun _ _ => hdone) fun _ _ => ensures_currentLedger_bind ?_
  refine ensures_lift_bind (fun _ _ => hdone) fun _ _ => ?_
  refine ensures_lift_bind (fun _ _ => hdone) fun _ _ => ?_
  refine ensures_lift_bind (fun _ _ => hdone) fun _ _ => ?_
  refine ensures_lift_bind (fun _ _ => hdone) fun _ _ => ?_
  refine ensures_lift_bind (fun _ _ => hdone) fun _ _ => ?_
  exact ensures_lift (fun _ _ => hdone) fun _ _ => hdone

end Route

/-! ## All instructions -/

section Instructions

variable [Pda] {rt : Runtime} {programId : Address} {accounts : List AccountView}
  {data : List UInt8} {l : Ledger}

/-- **The top-up of a creator's vault**, by what it lacks of the rent-exempt
minimum, out of the lamports of the first account, which has signed. The vault
is the one derived for the creator that a Pump curve names. -/
structure TopsUp (rt : Runtime) (l : Ledger) (accounts : List AccountView) (payer curve vault :
    AccountView) (call : CpiCall) : Prop where
  head : accounts.head? = some payer
  signed : payer.isSigner = true
  owner : curve.owner l = PreparePumpfun.pump
  canonical : ∃ creator, range? (curve.data l) 49 81 = some creator
    ∧ vault.address = (Pda.find [ascii "creator-vault", creator] PreparePumpfun.pump).1
  call_eq : ∃ minimum, rt.minimumBalance 0 = .ok minimum ∧ vault.lamports l < minimum
    ∧ call = systemTransfer payer vault (minimum - vault.lamports l)

omit [Pda] in
/-- The accounts of a top-up are four. -/
theorem PreparePumpfun.readAccounts_eq_ok {a : PreparePumpfun.Accounts}
    (h : PreparePumpfun.readAccounts accounts = .ok a) :
    accounts = [a.payer, a.curve, a.vault, a.system] := by
  unfold PreparePumpfun.readAccounts at h
  split at h
  · cases h
    rfl
  · cases h

/-- What a vault lacks is what the rent-exempt minimum is above its lamports. -/
theorem PreparePumpfun.needed_eq_ok {a : PreparePumpfun.Accounts} {needed : UInt64}
    (h : PreparePumpfun.needed rt l a = .ok needed) :
    a.payer.isSigner = true ∧ a.curve.owner l = PreparePumpfun.pump
      ∧ (∃ creator, range? (a.curve.data l) 49 81 = some creator
        ∧ a.vault.address = (Pda.find [ascii "creator-vault", creator] PreparePumpfun.pump).1)
      ∧ ∃ minimum, rt.minimumBalance 0 = .ok minimum
        ∧ needed = saturatingSub minimum (a.vault.lamports l) := by
  unfold PreparePumpfun.needed at h
  obtain ⟨_, hsigner, h⟩ := bind_eq_ok.mp h
  obtain ⟨_, -, h⟩ := bind_eq_ok.mp h
  obtain ⟨_, hprograms, h⟩ := bind_eq_ok.mp h
  obtain ⟨_, -, h⟩ := bind_eq_ok.mp h
  obtain ⟨_, -, h⟩ := bind_eq_ok.mp h
  obtain ⟨creator, hcreator, h⟩ := bind_eq_ok.mp h
  obtain ⟨_, hvault, h⟩ := bind_eq_ok.mp h
  have hprograms := not_or.mp (failIf_eq_ok.mp hprograms)
  have hvault := not_or.mp (failIf_eq_ok.mp hvault)
  refine ⟨by simpa using failIf_eq_ok.mp hsigner, not_not.mp hprograms.2,
    ⟨creator, slice_eq_ok.mp hcreator, not_not.mp hvault.1⟩, ?_⟩
  split at h
  · rename_i minimum hminimum
    cases h
    exact ⟨minimum, hminimum, rfl⟩
  · cases h

/-- **Preparing a vault makes one call at most.** -/
theorem PreparePumpfun.process_calls (m : Machine) :
    Ensures (fun _ m' => m'.trace = m.trace ∨ ∃ e payer curve vault, m'.trace = m.trace ++ [e]
        ∧ TopsUp rt m.ledger accounts payer curve vault e.call)
      (fun _ m' => m'.trace = m.trace ∨ ∃ e payer curve vault, m'.trace = m.trace ++ [e]
        ∧ TopsUp rt m.ledger accounts payer curve vault e.call)
      (PreparePumpfun.process rt accounts data m) := by
  refine ensures_lift_bind (fun _ _ => .inl rfl) fun _ _ => ?_
  refine ensures_lift_bind (fun _ _ => .inl rfl) fun a ha => ensures_currentLedger_bind ?_
  refine ensures_lift_bind (fun _ _ => .inl rfl) fun needed hneeded => ?_
  obtain ⟨hsigner, howner, hcanonical, minimum, hminimum, rfl⟩ :=
    PreparePumpfun.needed_eq_ok hneeded
  have hhead : accounts.head? = some a.payer := by
    rw [PreparePumpfun.readAccounts_eq_ok ha]
    rfl
  split
  · rename_i hpos
    have hlt : a.vault.lamports m.ledger < minimum := by
      unfold saturatingSub at hpos
      split at hpos
      · rename_i hle
        refine UInt64.lt_of_le_of_ne hle fun heq => ?_
        rw [heq, UInt64.sub_self] at hpos
        exact absurd hpos (by decide)
      · exact absurd hpos (by decide)
    refine ensures_invoke_of (fun after _ => .inr ⟨_, a.payer, a.curve, a.vault, rfl, hhead,
      hsigner, howner, hcanonical, minimum, hminimum, hlt, ?_⟩) fun _ _ => .inl rfl
    rw [saturatingSub, if_pos (UInt64.le_of_lt hlt)]
  · exact ensures_pure (.inl rfl)

/-- Creating the configuration makes no such call. -/
theorem Initialize.process_calls (m : Machine) :
    Ensures (fun _ m' => m'.trace = m.trace) (fun _ m' => m'.trace = m.trace)
      (Initialize.process rt programId accounts data m) := by
  refine ensures_lift_bind (fun _ _ => rfl) fun args _ => ?_
  refine ensures_lift_bind (fun _ _ => rfl) fun a _ => ensures_currentLedger_bind ?_
  refine ensures_lift_bind (fun _ _ => rfl) fun _ _ => ensures_bind ?_
  unfold createAccount
  split
  · refine ensures_lift_bind (fun _ _ => rfl) fun _ _ => ensures_currentLedger_bind ?_
    refine ensures_lift_bind (fun _ _ => rfl) fun _ _ => ?_
    exact ensures_lift_bind (fun _ _ => rfl) fun _ _ => rfl
  · exact rfl

/-- Neither does changing it. -/
theorem UpdateConfig.process_calls (m : Machine) :
    Ensures (fun _ m' => m'.trace = m.trace) (fun _ m' => m'.trace = m.trace)
      (UpdateConfig.process programId accounts data m) := by
  refine ensures_lift_bind (fun _ _ => rfl) fun args _ => ?_
  refine ensures_lift_bind (fun _ _ => rfl) fun a _ => ensures_currentLedger_bind ?_
  refine ensures_lift_bind (fun _ _ => rfl) fun _ _ => ?_
  refine ensures_lift_bind (fun _ _ => rfl) fun recipient _ => ?_
  refine ensures_lift_bind (fun _ _ => rfl) fun _ _ => ensures_currentLedger_bind ?_
  refine ensures_lift_bind (fun _ _ => rfl) fun _ _ => ?_
  exact ensures_lift_bind (fun _ _ => rfl) fun _ _ => rfl

/-- **What an instruction has called by the time it returns or stops.** -/
def calls (rt : Runtime) (programId : Address) (accounts : List AccountView) (data : List UInt8)
    (l : Ledger) : List CpiEvent :=
  (endState (processInstruction rt programId accounts data ⟨l, []⟩)).trace

/-- **An instruction calls nothing**, tops up one vault, or calls what a route
does. -/
theorem calls_cases (rt : Runtime) (programId : Address) (accounts : List AccountView)
    (data : List UInt8) (l : Ledger) :
    calls rt programId accounts data l = []
      ∨ (∃ e payer curve vault, calls rt programId accounts data l = [e]
        ∧ TopsUp rt l accounts payer curve vault e.call)
      ∨ RouteCalled programId accounts data.tail l (calls rt programId accounts data l) := by
  -- The end state of each instruction, by how it is dispatched.
  have hroute : ∀ dyn tail, ∃ events,
      (endState (processInner rt programId accounts tail dyn ⟨l, []⟩)).trace = [] ++ events
        ∧ RouteCalled programId accounts tail l events := fun dyn tail =>
    endState_of_ensures (processInner_calls ⟨l, []⟩)
  unfold calls
  cases data with
  | nil => exact .inl rfl
  | cons disc data =>
    dsimp only [processInstruction]
    split
    · exact .inl (endState_of_ensures (P := fun m' : Machine => m'.trace = [])
        (Initialize.process_calls ⟨l, []⟩))
    split
    · exact .inl (endState_of_ensures (UpdateConfig.process_calls ⟨l, []⟩))
    split
    · rcases endState_of_ensures (PreparePumpfun.process_calls ⟨l, []⟩) with h | h
      · exact .inl h
      · exact .inr (.inl h)
    split
    · obtain ⟨events, htrace, hcalled⟩ := hroute 0 data
      exact .inr (.inr (htrace ▸ hcalled))
    split
    · obtain ⟨events, htrace, hcalled⟩ := hroute 1 data
      exact .inr (.inr (htrace ▸ hcalled))
    split
    · obtain ⟨events, htrace, hcalled⟩ := hroute 2 data
      exact .inr (.inr (htrace ▸ hcalled))
    · exact .inl rfl

end Instructions

/-- **The program's calls are authorised**, in every state that a run reaches,
by whatever instruction and in whatever runtime, and whether the instruction
returns or stops; the creation of the config account is none of them. A call is
signed by signers of the instruction only. Either
there is none; or the one call tops up a vault; or the calls are those of a
route, under the stored configuration, which is not paused: the fee is at the
configured rate and a tenth of the input at most, it is transferred at most
once, by the user to the configured recipient, and before any leg is called. -/
theorem calls_authorised [Pda] {programId : Address} {allowed : InstructionCall → Prop}
    {l₀ l : Ledger} (h₀ : Inv programId l₀) (hrun : Run programId allowed l₀ l) (rt : Runtime)
    (accounts : List AccountView) (data : List UInt8) :
    (∀ e ∈ calls rt programId accounts data l, SignedBy accounts e.call)
    ∧ (calls rt programId accounts data l = []
      ∨ (∃ e payer curve vault, calls rt programId accounts data l = [e]
        ∧ TopsUp rt l accounts payer curve vault e.call)
      ∨ ∃ user cfg amountIn fee fees legs, accounts.head? = some user ∧ user.isSigner = true
        ∧ storedConfig programId l (configPda programId).1 = some cfg ∧ cfg.paused = 0
        ∧ readU64 data.tail 0 = .ok amountIn
        ∧ fee.toNat = amountIn.toNat * cfg.feeBps.toNat / 10000
        ∧ fee.toNat * 10 ≤ amountIn.toNat
        ∧ calls rt programId accounts data l = fees ++ legs
        ∧ RouteCalls l accounts user cfg fee fees legs) := by
  rcases calls_cases rt programId accounts data l with h | h | h
  · rw [h]
    exact ⟨fun _ he => absurd he List.not_mem_nil, .inl rfl⟩
  · refine ⟨?_, .inr (.inl h)⟩
    obtain ⟨e, payer, curve, vault, hcalls, htop⟩ := h
    obtain ⟨minimum, -, -, hcall⟩ := htop.call_eq
    rw [hcalls]
    refine List.forall_mem_singleton.mpr ?_
    rw [hcall]
    exact systemTransfer_signedBy (List.mem_of_mem_head? htop.head) htop.signed rfl
  rcases h with h | h
  · rw [h]
    exact ⟨fun _ he => absurd he List.not_mem_nil, .inl rfl⟩
  obtain ⟨user, config, cfg, amountIn, fee, fees, legs, huser, hsigner, hcfg, hamount, hfee,
    hcalls, hroute⟩ := h
  rw [hcalls]
  refine ⟨hroute.signedBy (List.mem_of_mem_head? huser) hsigner, .inr (.inr ?_)⟩
  have hstored := storedConfig_of_checkConfig hcfg
  obtain ⟨haddress, -, hbps, -⟩ := (hrun.keeps h₀).1 _ _ hstored
  rw [haddress] at hstored
  have hpaused : cfg.paused = 0 := by
    simp only [checkConfig, bind_eq_ok, failIf_eq_ok, ne_eq, not_not, pure_eq_ok] at hcfg
    obtain ⟨_, -, _, -, _, -, _, -, _, hpaused, rfl⟩ := hcfg
    exact hpaused
  have hfee := checkedFee_eq_ok hfee
  refine ⟨user, cfg, amountIn, fee, fees, legs, huser, hsigner, hstored, hpaused, hamount, hfee,
    ?_, rfl, hroute⟩
  have hbps : cfg.feeBps.toNat ≤ 1000 := UInt16.le_iff_toNat_le.mp hbps
  have hmul : amountIn.toNat * cfg.feeBps.toNat ≤ amountIn.toNat * 1000 :=
    Nat.mul_le_mul_left _ hbps
  omega

/-! ## A route that stops -/

/-- Calls leave the accounts as they are: the route takes its fee, calls its
leg, and stops as nothing was spent. -/
def idleRuntime : Runtime where
  cpi _ _ l := .ok l
  createAccount _ _ := .error (.other 0)
  minimumBalance _ := .ok 0

/-- The chain once the configuration is created. -/
def createdLedger : Ledger :=
  letI := samplePda
  commit blankLedger (processInstruction creatingRuntime (sampleKey 7) creationCall.accounts
    creationCall.data ⟨blankLedger, []⟩)

/-- **The two calls of a route that stops are authorised**: its fee, one of 100,
and its leg. -/
theorem idle_calls_authorised : letI := samplePda
    Run (sampleKey 7) (fun _ => True) blankLedger createdLedger
      ∧ (calls idleRuntime (sampleKey 7) drainAccounts (2 :: drainData) createdLedger).length = 2
      ∧ ∀ e ∈ calls idleRuntime (sampleKey 7) drainAccounts (2 :: drainData) createdLedger,
        SignedBy drainAccounts e.call := by
  let := samplePda
  have hadmissible : creatingRuntime.Admissible (sampleKey 7) (fun _ => True) :=
    ⟨creatingRuntime_createsAccounts, fun _ _ _ _ h => by cases h⟩
  have hrun : Run (sampleKey 7) (fun _ => True) blankLedger createdLedger :=
    .instruction .start hadmissible trivial
  have h₀ : Inv (sampleKey 7) blankLedger := fun address c hc => by cases hc
  exact ⟨hrun, by decide +kernel, (calls_authorised h₀ hrun idleRuntime drainAccounts
    (2 :: drainData)).1⟩

end Program
