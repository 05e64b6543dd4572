import SolTradeRouter.Balances
import SolTradeRouter.DynamicAccepted
import SolTradeRouter.DynamicBuy
import SolTradeRouter.RouteSettlement

/-!
# Dynamic buys that can settle

Whether there is any way for the calls of a dynamic route to go that the
program accepts. Between three different accounts there always is one, and
an honest one: the first leg takes its input and brings the minimum, the
second takes just that and brings its own minimum.

A buy whose target is WSOL again pays into the account it is paid from. It
would have to spend its input and bring its minimum in one account, and no
calls do that.
-/

namespace DynamicSettles

open Outcome Bytes Program Sdk WireFormat DynamicAccepted

/-! ## Honest calls -/

/-- **The calls of two honest legs**: the first takes its input and brings
what the second takes, and each is called with its own data – the second
with what the first brought written into it. -/
structure HonestCalls (first last : Leg) (source middle output : Pubkey)
    (sent received gained : UInt64) (m m' : Machine) (e₁ e₂ : CpiEvent) : Prop where
  calls : m'.trace = m.trace ++ [e₁, e₂]
  first_call : e₁.call.programId = first.programId ∧ e₁.call.data = first.data
  last_call : e₂.call.programId = last.programId
    ∧ ∃ layout, dynamicSecondLeg last.programId last.data = .ok layout
      ∧ patchSecondLegAmount last.data received layout.amountOffset
        (List.replicate maxDynamicLegData 0) = .ok e₂.call.data
  first_debits : Debits e₁.before e₁.after source sent
  first_credits : Credits e₁.before e₁.after middle received
  last_debits : Debits e₂.before e₂.after middle received
  last_credits : Credits e₂.before e₂.after output gained

/-- The ledger after a call that writes two balances. -/
def setAmounts (l : Ledger) (k k' : Pubkey) (n n' : UInt64) : Ledger :=
  setAmount (setAmount l k n) k' n'

/-- A runtime in which the `n`-th call writes the balances of the source and
the middle, and every other call those of the middle and the output. -/
def honestRuntime (n : ℕ) (source middle output : Pubkey) (w p q o : UInt64) : Runtime where
  cpi k _ l := .ok (if k = n then setAmounts l source middle w p
    else setAmounts l middle output q o)
  createAccount _ l := .ok l
  minimumBalance _ := .ok 0

section

variable [Pda] {programId : Pubkey} {accounts : Sdk.RouteAccounts} {r : Request}
  {ix : Instruction} {l : Ledger} {k mint owner : Pubkey} {n : UInt64}

omit [Pda] in
/-- A leg agrees with its two accounts if it agrees with the mints they hold. -/
theorem legAgrees_of {payer input output inputMint outputMint : Pubkey} {leg : Leg}
    {kind : SwapKind} (hkind : kind.Accepts leg.programId leg.data)
    (hin : TokenAccount l input inputMint payer) (hout : TokenAccount l output outputMint payer)
    (hagrees : (kind.layout leg.data).Agrees (leg.accounts.map AccountMeta.pubkey)
      inputMint (l input).owner outputMint (l output).owner) :
    LegAgrees l payer leg input output := by
  intro kind' hkind' im om him hom
  rw [SwapKind.accepts_unique hkind' hkind, ← mint_unique hin him, ← mint_unique hout hom]
  exact hagrees

omit [Pda] in
/-- **Writing a balance keeps the contents of the accounts.** -/
theorem Contents.setAmount (h : Contents accounts r l) (hk : TokenAccount l k mint owner) :
    Contents accounts r (setAmount l k n) := by
  refine ⟨h.output.setAmount hk, fun hop hhop => (h.hops hop hhop).imp
    fun _ ht => ht.setAmount hk, fun j leg hop hleg hhop => ?_⟩
  obtain ⟨im, hin⟩ := h.hops hop (List.mem_of_getElem? hhop)
  obtain ⟨om, hout⟩ : ∃ om, TokenAccount l
      ((r.hops[j + 1]?.map Prod.fst).getD accounts.outputTokenAccount) om accounts.payer := by
    cases hnext : r.hops[j + 1]? with
    | none => exact ⟨_, h.output⟩
    | some next => exact h.hops next (List.mem_of_getElem? hnext)
  intro kind hkind im' om' him hom
  rw [← mint_unique (hin.setAmount hk) him, ← mint_unique (hout.setAmount hk) hom,
    setAmount_owner, setAmount_owner]
  exact h.legs j leg hop hleg hhop kind hkind im om hin hout

/-! ## The run -/

omit [Pda] in
/-- A sum that fits is undone by subtraction. -/
theorem add_of_room {a b : UInt64} (h : a.toNat + b.toNat < 2 ^ 64) :
    (a + b).toNat = a.toNat + b.toNat ∧ a ≤ a + b ∧ a + b - a = b := by
  have hsum : (a + b).toNat = a.toNat + b.toNat := by
    rw [UInt64.toNat_add, Nat.mod_eq_of_lt h]
  have hle : a ≤ a + b := by
    rw [UInt64.le_iff_toNat_le, hsum]
    exact Nat.le_add_right _ _
  refine ⟨hsum, hle, ?_⟩
  rw [← UInt64.toNat_inj, UInt64.toNat_sub_of_le _ _ hle, hsum, Nat.add_sub_cancel_left]

omit [Pda] in
theorem Contents.setAmounts {k' mint' owner' : Pubkey} {n' : UInt64}
    (h : Contents accounts r l) (hk : TokenAccount l k mint owner)
    (hk' : TokenAccount l k' mint' owner') : Contents accounts r (setAmounts l k k' n n') :=
  Contents.setAmount (Contents.setAmount h hk) (hk'.setAmount hk)

omit [Pda] in
/-- Two balances that are written are read back, and a third is as it was. -/
theorem balanceAt_setAmounts {k' mint' owner' : Pubkey} (n n' : UInt64)
    (hk : TokenAccount l k mint owner) (hk' : TokenAccount l k' mint' owner') (hne : k' ≠ k) :
    balanceAt (setAmounts l k k' n n') k = .ok n
      ∧ balanceAt (setAmounts l k k' n n') k' = .ok n'
      ∧ ∀ x, x ≠ k → x ≠ k' → balanceAt (setAmounts l k k' n n') x = balanceAt l x := by
  refine ⟨?_, balanceAt_setAmount (hk'.setAmount hk), fun x hx hx' => ?_⟩
  · exact (balanceAt_setAmount_of_ne hne.symm).trans (balanceAt_setAmount hk)
  · exact (balanceAt_setAmount_of_ne hx').trans (balanceAt_setAmount_of_ne hx)

omit [Pda] in
/-- Spending exactly the input, without a fee, is accepted. -/
theorem validateSpend_exact {before amountIn : UInt64} (h : amountIn ≤ before) :
    validateSpend before (before - amountIn) amountIn 0 false = .ok () := by
  have hspent : (before - amountIn).toNat = before.toNat - amountIn.toNat :=
    UInt64.toNat_sub_of_le _ _ h
  have hle : before - amountIn ≤ before := by
    rw [UInt64.le_iff_toNat_le, hspent]
    exact Nat.sub_le _ _
  refine validateSpend_eq_ok.mpr ⟨hle, fun _ => ?_, fun hc => by cases hc⟩
  rw [UInt64.toNat_sub_of_le _ _ hle, hspent]
  exact Nat.sub_sub_self (UInt64.le_iff_toNat_le.mp h)

omit [Pda] in
/-- Bringing exactly the minimum is accepted. -/
theorem checkReceived_exact {before minimum : UInt64}
    (h : before.toNat + minimum.toNat < 2 ^ 64) :
    checkReceived before (before + minimum) minimum = .ok () := by
  obtain ⟨-, hle, hsub⟩ := add_of_room h
  rw [checkReceived, failIf_eq_ok, saturatingSub, if_pos hle, hsub]
  exact UInt64.lt_irrefl _

variable {amountIn minAmountOut : UInt64} {sourceMint : Pubkey}
  {first last : Leg} {cfg : RouterConfig} {m : Machine} {w q o : UInt64}

/-- A route of two legs. -/
abbrev twoLegs (hop : Pubkey × UInt64) (amountIn minAmountOut : UInt64) (mint : Pubkey)
    (first last : Leg) : Request :=
  ⟨tagRouteDynamic, amountIn, minAmountOut, feeAssetToken, false, mint, [hop], [first, last]⟩

omit [Pda] in
/-- **Two calls.** The loop over two legs returns once each leg has its data
and its call succeeds, and the first brings what the header asks for. -/
theorem runLegs_two {rt : Runtime} {data : List UInt8} {f : RouteFrame}
    {a b : ParsedLeg AccountView} {pos pos₁ pos₂ : LegCursor} {out₁ out₂ : List UInt8}
    {l₁ l₂ : Ledger} {i : AccountView} {after received : UInt64}
    (ha : parseLeg data f.accounts.remaining pos = .ok (a, pos₁))
    (hb : parseLeg data f.accounts.remaining pos₁ = .ok (b, pos₂))
    (hdyn : f.dynamicIntermediates = 1) (hi : f.accounts.intermediate = some i)
    (hdata₁ : legInvokeData m.ledger f 0 a 0 = .ok out₁)
    (hcall₁ : rt.cpi m.trace.length ⟨a.programId, a.accounts.map AccountView.toMeta, out₁⟩
      m.ledger = .ok l₁)
    (hafter : tokenAmount l₁ i = .ok after)
    (hreceived : receivedQuote f.quoteBefore after f.header.intermediateMinOut = .ok received)
    (hdata₂ : legInvokeData l₁ f 1 b received = .ok out₂)
    (hcall₂ : rt.cpi (m.trace.length + 1)
      ⟨b.programId, b.accounts.map AccountView.toMeta, out₂⟩ l₁ = .ok l₂) :
    runLegs rt data f 2 0 ⟨pos, 0⟩ m = .ok ⟨pos₂, received⟩ ⟨l₂, m.trace
      ++ [⟨⟨a.programId, a.accounts.map AccountView.toMeta, out₁⟩, m.ledger, l₁⟩,
        ⟨⟨b.programId, b.accounts.map AccountView.toMeta, out₂⟩, l₁, l₂⟩]⟩ := by
  have hdynamic : f.dynamic = true := by
    unfold RouteFrame.dynamic
    rw [hdyn]
    rfl
  have hthree : f.threeHop = false := by
    unfold RouteFrame.threeHop
    rw [hdyn]
    rfl
  have hparse₁ := parseLeg_eq_ok.mp ha
  have hparse₂ := parseLeg_eq_ok.mp hb
  set m₁ : Machine := ⟨l₁, m.trace
    ++ [⟨⟨a.programId, a.accounts.map AccountView.toMeta, out₁⟩, m.ledger, l₁⟩]⟩ with hm₁
  have run₁ : LegRun rt data f 0 ⟨pos, 0⟩ m ⟨pos₁, received⟩ m₁ := {
    leg := a
    invokeData := out₁
    metas := a.accounts.map AccountView.toMeta
    parsed := ha
    data_eq := hdata₁
    metas_eq := buildMetas_eq hparse₁.length_accounts hparse₁.count_le
    called := invoke_eq_ok.mpr ⟨hcall₁, rfl⟩
    quote_eq := by
      unfold quoteAfterLeg
      rw [if_pos ⟨hdynamic, rfl⟩, hi, okOrReject, okOr_some, ok_bind, hafter, ok_bind,
        hreceived] }
  have run₂ : LegRun rt data f 1 ⟨pos₁, received⟩ m₁ ⟨pos₂, received⟩ ⟨l₂, m₁.trace
      ++ [⟨⟨b.programId, b.accounts.map AccountView.toMeta, out₂⟩, l₁, l₂⟩]⟩ := {
    leg := b
    invokeData := out₂
    metas := b.accounts.map AccountView.toMeta
    parsed := hb
    data_eq := hdata₂
    metas_eq := buildMetas_eq hparse₂.length_accounts hparse₂.count_le
    called := invoke_eq_ok.mpr ⟨by
      rw [hm₁, List.length_append, List.length_singleton]
      exact hcall₂, rfl⟩
    quote_eq := by
      unfold quoteAfterLeg
      rw [if_neg (fun h => by cases h.2), hthree, if_neg (fun h => by cases h.1)]
      rfl }
  refine run_bind_eq_ok.mpr ⟨_, _, legStep_eq_ok.mpr ⟨run₁⟩, run_bind_eq_ok.mpr ⟨_, _,
    legStep_eq_ok.mpr ⟨run₂⟩, run_pure_eq_ok.mpr ⟨rfl, ?_⟩⟩⟩
  rw [hm₁, List.append_assoc, List.singleton_append]

/-- **What two calls leave behind**: the first moves from the source to the
middle, the second from there to the output, and each leaves the third account
as it was. -/
structure Carried (l₁ l₂ : Ledger) (source middle output : Pubkey) (w p q o o' : UInt64) :
    Prop where
  spent : balanceAt l₁ source = .ok w
  brought : balanceAt l₁ middle = .ok p
  awaited : balanceAt l₁ output = .ok o
  left : balanceAt l₂ source = .ok w
  passed : balanceAt l₂ middle = .ok q
  gained : balanceAt l₂ output = .ok o'

omit [Pda] in
/-- The two writes of honest calls carry through three different accounts. -/
theorem carried_setAmounts {source middle output sm mm om so mo oo : Pubkey}
    (hs : TokenAccount l source sm so) (hm : TokenAccount l middle mm mo)
    (ho : TokenAccount l output om oo) (hne : middle ≠ source) (hne' : middle ≠ output)
    (hapart : source ≠ output) (hout : balanceAt l output = .ok o) (w p q o' : UInt64) :
    Carried (setAmounts l source middle w p)
      (setAmounts (setAmounts l source middle w p) middle output q o') source middle output
      w p q o o' := by
  obtain ⟨hs₁, hm₁, hother₁⟩ := balanceAt_setAmounts w p hs hm hne
  have hmiddle : TokenAccount (setAmounts l source middle w p) middle mm mo :=
    (hm.setAmount hs).setAmount (hm.setAmount hs)
  have houtput : TokenAccount (setAmounts l source middle w p) output om oo :=
    (ho.setAmount hs).setAmount (hm.setAmount hs)
  obtain ⟨hm₂, ho₂, hother₂⟩ := balanceAt_setAmounts q o' hmiddle houtput hne'.symm
  exact {
    spent := hs₁
    brought := hm₁
    awaited := (hother₁ _ hapart.symm hne'.symm).trans hout
    left := (hother₂ _ hne.symm hapart).trans hs₁
    passed := hm₂
    gained := ho₂ }

/-- The snapshot of the middle is its balance. -/
theorem quoteBefore_eq {hop : Pubkey × UInt64} {remaining : List AccountMeta}
    {header : RouteHeader}
    (hs : Structured (ix.accounts.map (mergedView ix.accounts)) ix.data.tail 1
      (Contents accounts (twoLegs hop amountIn minAmountOut mint first last)) header
      (named programId accounts (twoLegs hop amountIn minAmountOut mint first last) ix remaining))
    (hl : Contents accounts (twoLegs hop amountIn minAmountOut mint first last) l)
    (hq : balanceAt l hop.1 = .ok q) :
    quoteBefore l (named programId accounts
      (twoLegs hop amountIn minAmountOut mint first last) ix remaining) = .ok q := by
  obtain ⟨n, hn⟩ := hs.quote_ok l hl
  have hamount : tokenAmount l (mergedView ix.accounts (.new hop.1 false)) = .ok n :=
    intermediateSnapshot_some (o := none) hn
  rw [tokenAmount_eq_balanceAt, mergedView_address, AccountMeta.new_pubkey, hq] at hamount
  exact hn.trans hamount.symm

/-- The event of a leg's call, with the privileges the transaction grants. -/
abbrev legEvent (metas : List AccountMeta) (leg : Leg) (data : List UInt8)
    (before after : Ledger) : CpiEvent :=
  ⟨⟨leg.programId, (leg.accounts.map (mergedView metas)).map AccountView.toMeta, data⟩,
    before, after⟩

/-- **The legs of a checked route run** through any two calls that succeed, if
the first brings the middle its minimum: the first leg is called with its own
data, the second with what the first brought written into it. -/
theorem runLegs_checked {hop : Pubkey × UInt64} {remaining : List AccountMeta}
    {header : RouteHeader} {rt : Runtime} {l₁ l₂ : Ledger} {p : UInt64} {pos : LegCursor}
    (hd : DynamicRouteChecked accounts hop.1 amountIn hop.2 minAmountOut mint first last)
    (h : Recovers (mergedView ix.accounts) programId accounts
      (twoLegs hop amountIn minAmountOut mint first last) ix)
    (hn : header.numLegs = 2)
    (hparse : parseLegs ix.data.tail (remaining.map (mergedView ix.accounts)) 2
      ⟨routeHeaderLen + 8, 0⟩ = .ok ([first, last].map (presented ix.accounts), pos))
    (hc : Contents accounts (twoLegs hop amountIn minAmountOut mint first last) m.ledger)
    (hc₁ : Contents accounts (twoLegs hop amountIn minAmountOut mint first last) l₁)
    (hcall₁ : ∀ call, rt.cpi m.trace.length call m.ledger = .ok l₁)
    (hcall₂ : ∀ call, rt.cpi (m.trace.length + 1) call l₁ = .ok l₂)
    (hafter : balanceAt l₁ hop.1 = .ok p)
    (hreceived : receivedQuote q p header.intermediateMinOut = .ok hop.2) :
    ∃ out, (∃ layout, dynamicSecondLeg last.programId last.data = .ok layout
        ∧ patchSecondLegAmount last.data hop.2 layout.amountOffset
          (List.replicate maxDynamicLegData 0) = .ok out)
      ∧ runLegs rt ix.data.tail (frame programId accounts
          (twoLegs hop amountIn minAmountOut mint first last) ix remaining header q 0)
          2 0 ⟨⟨routeHeaderLen + 8, 0⟩, 0⟩ m
        = .ok ⟨pos, hop.2⟩ ⟨l₂, m.trace ++ [legEvent ix.accounts first first.data m.ledger l₁,
            legEvent ix.accounts last out l₁ l₂]⟩ := by
  obtain ⟨⟨leg, pos₁⟩, hfirst, hparse⟩ := bind_eq_ok.mp hparse
  obtain ⟨⟨legs, pos₂⟩, hrest, hparse⟩ := bind_eq_ok.mp hparse
  obtain ⟨⟨leg', pos₂'⟩, hlast, hrest⟩ := bind_eq_ok.mp hrest
  cases hrest
  cases hparse
  -- There is no second stop for the first leg to write.
  have hspares : Spares (twoLegs hop amountIn minAmountOut mint first last) :=
    fun _ _ _ hhop => by cases hhop
  set f : RouteFrame := frame programId accounts
    (twoLegs hop amountIn minAmountOut mint first last) ix remaining header q 0
  obtain ⟨out₁, hdata₁⟩ : ∃ out, legInvokeData m.ledger f 0 (presented ix.accounts first) 0
      = .ok out := legs_ok (.two hd) h hn hspares rfl hc q 0 0
  obtain ⟨out₂, hdata₂⟩ : ∃ out, legInvokeData l₁ f 1 (presented ix.accounts last) hop.2
      = .ok out := legs_ok (.two hd) h hn hspares rfl hc₁ q 0 hop.2
  have hout₁ : out₁ = first.data := by
    rw [legInvokeData_first rfl (by rw [hn])] at hdata₁
    obtain ⟨_, -, hdata₁⟩ := bind_eq_ok.mp hdata₁
    cases hdata₁
    rfl
  subst hout₁
  exact ⟨out₂, legInvokeData_patched (k := 0) (f := f) (.inl rfl) hn Nat.zero_lt_one hdata₂,
    runLegs_two (f := f) hfirst hlast rfl rfl hdata₁ (hcall₁ _)
      ((tokenAmount_eq_balanceAt _).trans hafter) hreceived hdata₂ (hcall₂ _)⟩

/-- **What honest legs leave is accepted**: the source has spent just the input,
the middle is as it was, and the output has gained just the minimum. -/
theorem processInner_of_carried {hop : Pubkey × UInt64} {remaining : List AccountMeta}
    {header : RouteHeader} {rt : Runtime} {l₁ : Ledger} {p : UInt64} {m' : Machine}
    (hs : Structured (ix.accounts.map (mergedView ix.accounts)) ix.data.tail 1
      (Contents accounts (twoLegs hop amountIn minAmountOut mint first last)) header
      (named programId accounts (twoLegs hop amountIn minAmountOut mint first last) ix remaining))
    (hin : header.amountIn = amountIn) (hmin : header.minAmountOut = minAmountOut)
    (hasset : header.feeAsset = 1) (hexact : header.exactOut = false)
    (hn : header.numLegs = 2)
    (hconfig : checkConfig m.ledger programId
      (mergedView ix.accounts (.newReadonly (Sdk.configPda programId).1 false)) = .ok cfg)
    (hfee : cfg.feeBps = 0)
    (hl : Contents accounts (twoLegs hop amountIn minAmountOut mint first last) m.ledger)
    (hsource : TokenAccount m.ledger accounts.feeSource sourceMint accounts.payer)
    (hw : balanceAt m.ledger accounts.feeSource = .ok w) (hle : amountIn ≤ w)
    (hq : balanceAt m.ledger hop.1 = .ok q)
    (ho : balanceAt m.ledger accounts.outputTokenAccount = .ok o)
    (hroom : o.toNat + minAmountOut.toNat < 2 ^ 64)
    (hcarried : Carried l₁ m'.ledger accounts.feeSource hop.1 accounts.outputTokenAccount
      (w - amountIn) p q o (o + minAmountOut))
    (hlegs : runLegs rt ix.data.tail (frame programId accounts
        (twoLegs hop amountIn minAmountOut mint first last) ix remaining header q 0)
        2 0 ⟨⟨routeHeaderLen + 8, 0⟩, 0⟩ m
      = .ok ⟨⟨ix.data.tail.length, ([first, last].flatMap Leg.accounts).length⟩, hop.2⟩ m') :
    processInner rt programId (ix.accounts.map (mergedView ix.accounts)) ix.data.tail 1 m
      = .ok () m' := by
  refine processInner_eq_ok.mpr ⟨{
    header := header
    a := named programId accounts (twoLegs hop amountIn minAmountOut mint first last) ix
      remaining
    cfg := cfg
    nativeSolOut := false
    fee := 0
    sourceBefore := w
    charged := m
    outputBefore := o
    quote := q
    second := 0
    final := ⟨⟨ix.data.tail.length, ([first, last].flatMap Leg.accounts).length⟩, hop.2⟩
    sourceAfter := w - amountIn
    outputAfter := o + minAmountOut
    header_eq := hs.header_eq
    header_ok := hs.header_ok
    accounts_eq := hs.accounts_eq
    signed := hs.signed
    cfg_eq := hconfig
    output_ok := hs.output_ok m.ledger hl
    fee_eq := by rw [checkedFee, if_pos hfee]
    sourceBefore_eq := ?_
    charged_eq := run_pure_eq_ok.mpr ⟨rfl, rfl⟩
    outputBefore_eq := (tokenAmount_eq_balanceAt _).trans ho
    quote_eq := quoteBefore_eq hs hl hq
    second_eq := rfl
    legs := ?_
    consumed := fun _ => rfl
    quote_unspent := bind_eq_ok.mpr ⟨q, (tokenAmount_eq_balanceAt _).trans hcarried.passed,
      failIf_eq_ok.mpr (not_not.mpr rfl)⟩
    second_unspent := rfl
    sourceAfter_eq := ?_
    spend_ok := ?_
    outputAfter_eq := (tokenAmount_eq_balanceAt _).trans hcarried.gained
    received_ok := ?_ }⟩
  · rw [hasset]
    exact feeSourceBefore_token hsource ((tokenAmount_eq_balanceAt _).trans hw)
  · rw [hn]
    exact hlegs
  · rw [hasset]
    exact (tokenAmount_eq_balanceAt _).trans hcarried.left
  · rw [hin, hexact]
    exact validateSpend_exact hle
  · rw [hmin]
    exact checkReceived_exact hroom

/-- **A checked route of two legs can settle**, between three different
accounts with room for its amounts and under a configuration without a fee:
by honest calls. -/
theorem two_settles (hop : Pubkey × UInt64)
    (hd : DynamicRouteChecked accounts hop.1 amountIn hop.2 minAmountOut mint first last)
    (h : Recovers (mergedView ix.accounts) programId accounts
      (twoLegs hop amountIn minAmountOut mint first last) ix)
    (hconfig : checkConfig m.ledger programId
      (mergedView ix.accounts (.newReadonly (Sdk.configPda programId).1 false)) = .ok cfg)
    (hfee : cfg.feeBps = 0)
    (hcontents : Contents accounts (twoLegs hop amountIn minAmountOut mint first last) m.ledger)
    (hsource : TokenAccount m.ledger accounts.feeSource sourceMint accounts.payer)
    (hapart : accounts.feeSource ≠ accounts.outputTokenAccount)
    (hw : balanceAt m.ledger accounts.feeSource = .ok w) (hle : amountIn ≤ w)
    (hq : balanceAt m.ledger hop.1 = .ok q) (hroom : q.toNat + hop.2.toNat < 2 ^ 64)
    (ho : balanceAt m.ledger accounts.outputTokenAccount = .ok o)
    (hroom' : o.toNat + minAmountOut.toNat < 2 ^ 64) :
    ∃ rt m' e₁ e₂, processInner rt programId (ix.accounts.map (mergedView ix.accounts))
        ix.data.tail 1 m = .ok () m'
      ∧ HonestCalls first last accounts.feeSource hop.1 accounts.outputTokenAccount amountIn
        hop.2 minAmountOut m m' e₁ e₂ := by
  obtain ⟨header, remaining, hstruct, hin, hasset, hn, hparse⟩ :=
    structured_of_checked (.two hd) h
  obtain ⟨header', hheader, -, hmin, -, -, hexact, -, -, hquoteMin, -⟩ := h.header
  cases hheader.symm.trans hstruct.header_eq
  obtain ⟨middleMint, hmiddle⟩ := hcontents.hops hop (List.mem_singleton_self _)
  obtain ⟨hqsum, hqle, hqsub⟩ := add_of_room hroom
  obtain ⟨hosum, -, -⟩ := add_of_room hroom'
  -- The ledgers after the two calls, and the balances in them.
  have hcarried := carried_setAmounts hsource hmiddle hcontents.output hd.distinct.1
    hd.distinct.2 hapart ho (w - amountIn) (q + hop.2) q (o + minAmountOut)
  have hcontents₁ : Contents accounts (twoLegs hop amountIn minAmountOut mint first last)
      (setAmounts m.ledger accounts.feeSource hop.1 (w - amountIn) (q + hop.2)) :=
    Contents.setAmounts hcontents hsource hmiddle
  set l₁ := setAmounts m.ledger accounts.feeSource hop.1 (w - amountIn) (q + hop.2)
  set l₂ := setAmounts l₁ hop.1 accounts.outputTokenAccount q (o + minAmountOut)
  set rt := honestRuntime m.trace.length accounts.feeSource hop.1 accounts.outputTokenAccount
    (w - amountIn) (q + hop.2) q (o + minAmountOut)
  have hcall₁ : ∀ call, rt.cpi m.trace.length call m.ledger = .ok l₁ :=
    fun _ => congrArg Except.ok (if_pos rfl)
  have hcall₂ : ∀ call, rt.cpi (m.trace.length + 1) call l₁ = .ok l₂ :=
    fun _ => congrArg Except.ok (if_neg (Nat.succ_ne_self _))
  obtain ⟨out, hpatched, hlegs⟩ := runLegs_checked hd h hn hparse hcontents hcontents₁ hcall₁
    hcall₂ hcarried.brought (receivedQuote_eq_ok.mpr ⟨hqle, hqsub.symm, UInt64.le_of_eq hquoteMin⟩)
  refine ⟨rt, _, _, _, processInner_of_carried hstruct hin hmin hasset hexact hn hconfig hfee
    hcontents hsource hw hle hq ho hroom' hcarried hlegs, {
      calls := rfl
      first_call := ⟨rfl, rfl⟩
      last_call := ⟨rfl, hpatched⟩
      first_debits := ⟨w, w - amountIn, hw, hcarried.spent, ?_⟩
      first_credits := ⟨q, q + hop.2, hq, hcarried.brought, hqsum.symm⟩
      last_debits := ⟨q + hop.2, q, hcarried.brought, hcarried.passed, hqsum⟩
      last_credits := ⟨o, o + minAmountOut, hcarried.awaited, hcarried.gained, hosum.symm⟩ }⟩
  rw [UInt64.toNat_sub_of_le _ _ hle]
  exact (Nat.sub_add_cancel (UInt64.le_iff_toNat_le.mp hle)).symm

/-- **A route without a fee never settles onto its own fee source**, whatever
its calls do. -/
theorem two_never_settles (hop : Pubkey × UInt64) {rt : Runtime} {m' : Machine}
    (hd : DynamicRouteChecked accounts hop.1 amountIn hop.2 minAmountOut mint first last)
    (h : Recovers (mergedView ix.accounts) programId accounts
      (twoLegs hop amountIn minAmountOut mint first last) ix)
    (hconfig : checkConfig m.ledger programId
      (mergedView ix.accounts (.newReadonly (Sdk.configPda programId).1 false)) = .ok cfg)
    (hfee : cfg.feeBps = 0) (hsame : accounts.outputTokenAccount = accounts.feeSource) :
    processInner rt programId (ix.accounts.map (mergedView ix.accounts)) ix.data.tail 1 m
      ≠ .ok () m' := by
  intro hrun
  obtain ⟨r, hfeeEq, -, -, -, -, -, -, hback⟩ := route_settles hrun
  obtain ⟨header, hheader, -, hmin, -, hasset, hexact, hmint, -⟩ := h.header
  obtain ⟨remaining, hsplit, -⟩ := h.legs
  have hr : header = r.header := Except.ok.inj (hheader.symm.trans r.header_eq)
  have ha : _ = r.a := Except.ok.inj (hsplit.symm.trans r.accounts_eq)
  subst hr
  change r.header.expectedOutputMint = mint at hmint
  change r.header.feeAsset = 1 at hasset
  have hcfg : r.cfg = cfg := by
    have hc := r.cfg_eq
    rw [← ha] at hc
    exact Except.ok.inj (hc.symm.trans hconfig)
  have hnative : r.nativeSolOut = false := by
    have ho := r.output_ok
    rw [hmint] at ho
    unfold validateOutput at ho
    rw [if_neg (show ¬ mint = systemProgramId from hd.mint)] at ho
    simp only [bind_eq_ok] at ho
    obtain ⟨_, -, _, -, _, -, _, -, _, -, ho⟩ := ho
    exact (Except.ok.inj ho).symm
  have hpositive : 0 < r.header.minAmountOut := by
    rw [hmin]
    exact UInt64.pos_iff_ne_zero.mpr hd.amounts.2.2
  have haddress : r.a.userOutput.address = r.a.feeSource.address := by
    rw [← ha]
    exact hsame
  obtain ⟨hne, -⟩ := hback hexact hpositive haddress (by
    rw [hnative, hasset]
    decide)
  refine hne (UInt64.toNat_inj.mp ?_)
  rw [hfeeEq, hcfg, hfee]
  exact Nat.zero_div _

/-! ## Buys -/

/-- The payer's WSOL account, the fee source of a dynamic buy. -/
abbrev wsolAccount (payer : Pubkey) : Pubkey := ata payer wsolMint tokenProgram

/-- **The accounts a buy needs**: the payer's three, of their mints and token
programs, with the input there and with room for the two minimums. -/
structure Ready (l : Ledger) (payer : Pubkey) (route : DynamicBuyRoute)
    (routeAmountIn quoteMinOut minTargetOut : UInt64) : Prop where
  source : TokenAccount l (wsolAccount payer) wsolMint payer
  quote : TokenAccount l route.quoteAta route.quoteMint payer
  quoteProgram : (l route.quoteAta).owner = route.quoteTokenProgram
  output : TokenAccount l route.outputAta route.outputMint payer
  outputProgram : (l route.outputAta).owner = route.outputTokenProgram
  funded : ∃ w, balanceAt l (wsolAccount payer) = .ok w ∧ routeAmountIn ≤ w
  quoteRoom : ∃ q, balanceAt l route.quoteAta = .ok q
    ∧ q.toNat + quoteMinOut.toNat < 2 ^ 64
  outputRoom : ∃ o, balanceAt l route.outputAta = .ok o
    ∧ o.toNat + minTargetOut.toNat < 2 ^ 64

/-- **The configuration charges no fee.** -/
def ZeroFee (programId : Pubkey) (l : Ledger) (ix : Instruction) : Prop :=
  ∃ cfg, checkConfig l programId (mergedView ix.accounts
    (.newReadonly (Sdk.configPda programId).1 false)) = .ok cfg ∧ cfg.feeBps = 0

/-- **A dynamic buy is satisfiable**: its three accounts are different, its
legs are swaps between them with one quote, and where the first leg spends
the whole input and no fee is due, honest calls make the program return. -/
def Satisfiable (programId payer feeRecipient : Pubkey)
    (routeAmountIn firstLegAmountIn quoteMinOut minTargetOut : UInt64)
    (route : DynamicBuyRoute) : Prop :=
  (wsolAccount payer ≠ route.quoteAta ∧ route.quoteAta ≠ route.outputAta
      ∧ wsolAccount payer ≠ route.outputAta)
    ∧ ∃ first last kind kind',
      buildDynamicRouteInstruction programId
          (dynamicBuyAccounts payer feeRecipient route.outputMint route.outputTokenProgram)
          route.quoteAta routeAmountIn quoteMinOut minTargetOut route.outputMint first last
          = .ok route.instruction
        ∧ ExactInput first kind payer (.ofAta payer wsolMint tokenProgram)
          (.ofAta payer route.quoteMint route.quoteTokenProgram) firstLegAmountIn quoteMinOut
        ∧ ExactInput last kind' payer
          (.ofAta payer route.quoteMint route.quoteTokenProgram)
          (.ofAta payer route.outputMint route.outputTokenProgram) 1 minTargetOut
        ∧ (firstLegAmountIn = routeAmountIn → ∀ m : Machine,
          ZeroFee programId m.ledger route.instruction →
          Ready m.ledger payer route routeAmountIn quoteMinOut minTargetOut →
          ∃ rt m' e₁ e₂, processInner rt programId
              (route.instruction.accounts.map (mergedView route.instruction.accounts))
              route.instruction.data.tail 1 m = .ok () m'
            ∧ HonestCalls first last (wsolAccount payer) route.quoteAta route.outputAta
              firstLegAmountIn quoteMinOut minTargetOut m m' e₁ e₂)

/-- **The target leads back** to the account the buy is paid from. -/
def LeadsBack (targetPool : Market) (payer : Pubkey) : Prop :=
  ∃ side ∈ targetPool.targetSides payer, side.account = wsolAccount payer

variable [Upstream] {payer feeRecipient : Pubkey}
  {routeAmountIn firstLegAmountIn quoteMinOut minTargetOut : UInt64}
  {quotePool targetPool : Market} {route : DynamicBuyRoute}

/-- **What a dynamic buy is, once it is built.** -/
structure BuiltBuy (programId payer feeRecipient : Pubkey)
    (routeAmountIn firstLegAmountIn quoteMinOut minTargetOut : UInt64) (targetPool : Market)
    (route : DynamicBuyRoute) (first last : Leg) : Prop where
  built : buildDynamicRouteInstruction programId
    (dynamicBuyAccounts payer feeRecipient route.outputMint route.outputTokenProgram)
    route.quoteAta routeAmountIn quoteMinOut minTargetOut route.outputMint first last
    = .ok route.instruction
  quoteAta_eq : route.quoteAta = ata payer route.quoteMint route.quoteTokenProgram
  outputAta_eq : route.outputAta = ata payer route.outputMint route.outputTokenProgram
  first : ∃ kind, ExactInput first kind payer (.ofAta payer wsolMint tokenProgram)
    (.ofAta payer route.quoteMint route.quoteTokenProgram) firstLegAmountIn quoteMinOut
  last : ∃ kind, ExactInput last kind payer
    (.ofAta payer route.quoteMint route.quoteTokenProgram)
    (.ofAta payer route.outputMint route.outputTokenProgram) 1 minTargetOut
  sides : ∀ side, side ∈ targetPool.targetSides payer ↔
    side = .ofAta payer route.quoteMint route.quoteTokenProgram
      ∨ side = .ofAta payer route.outputMint route.outputTokenProgram

omit [Upstream] in
/-- What the builder of the route has checked. -/
theorem BuiltBuy.checked {first last : Leg}
    (h : BuiltBuy programId payer feeRecipient routeAmountIn firstLegAmountIn quoteMinOut
      minTargetOut targetPool route first last) :
    DynamicRouteChecked (dynamicBuyAccounts payer feeRecipient route.outputMint
      route.outputTokenProgram) route.quoteAta routeAmountIn quoteMinOut minTargetOut
      route.outputMint first last := by
  obtain ⟨_, hcheck, -⟩ := bind_eq_ok.mp h.built
  exact checkDynamicRoute_ok hcheck

theorem buildDynamicQuoteBuy_ok
    (h : buildDynamicQuoteBuy programId payer feeRecipient routeAmountIn firstLegAmountIn
      quoteMinOut minTargetOut quotePool targetPool = .ok route) :
    ∃ first last, BuiltBuy programId payer feeRecipient routeAmountIn firstLegAmountIn
      quoteMinOut minTargetOut targetPool route first last := by
  obtain ⟨_, -, h⟩ := bind_eq_ok.mp h
  obtain ⟨⟨first, quoteMint, quoteProgram⟩, hfirst, h⟩ := bind_eq_ok.mp h
  obtain ⟨⟨last, outputMint, outputProgram⟩, hlast, h⟩ := bind_eq_ok.mp h
  obtain ⟨ix, hix, h⟩ := bind_eq_ok.mp h
  cases h
  obtain ⟨_, hcheck, -⟩ := bind_eq_ok.mp hix
  have hapart : ata payer quoteMint quoteProgram ≠ ata payer outputMint outputProgram :=
    (checkDynamicRoute_ok hcheck).distinct.2
  obtain ⟨hexact, hsides⟩ := quoteToTargetLeg_ok hlast hapart
  exact ⟨first, last, hix, rfl, rfl, wsolToQuoteLeg_ok hfirst, hexact, hsides⟩

omit [Upstream] in
/-- **The target leads back exactly when the output is the payer's WSOL
account**: the quote is not. -/
theorem BuiltBuy.leadsBack_iff {first last : Leg}
    (h : BuiltBuy programId payer feeRecipient routeAmountIn firstLegAmountIn quoteMinOut
      minTargetOut targetPool route first last) :
    LeadsBack targetPool payer ↔ route.outputAta = wsolAccount payer := by
  rw [h.outputAta_eq]
  constructor
  · rintro ⟨side, hside, heq⟩
    rcases (h.sides side).mp hside with rfl | rfl
    · have hapart : route.quoteAta ≠ wsolAccount payer := h.checked.distinct.1
      rw [h.quoteAta_eq] at hapart
      exact absurd heq hapart
    · exact heq
  · intro heq
    exact ⟨_, (h.sides _).mpr (.inr rfl), heq⟩

omit [Upstream] in
/-- The accounts a buy needs have the contents its last leg lists. -/
theorem BuiltBuy.contents {first last : Leg} {l : Ledger}
    (h : BuiltBuy programId payer feeRecipient routeAmountIn firstLegAmountIn quoteMinOut
      minTargetOut targetPool route first last)
    (hready : Ready l payer route routeAmountIn quoteMinOut minTargetOut) :
    Contents (dynamicBuyAccounts payer feeRecipient route.outputMint route.outputTokenProgram)
      (twoLegs (route.quoteAta, quoteMinOut) routeAmountIn minTargetOut route.outputMint first
        last) l := by
  obtain ⟨kind, hlast⟩ := h.last
  have houtput : (dynamicBuyAccounts payer feeRecipient route.outputMint
      route.outputTokenProgram).outputTokenAccount = route.outputAta := h.outputAta_eq.symm
  refine ⟨?_, fun hop hhop => ?_, fun k leg hop hleg hhop => ?_⟩
  · rw [houtput]
    exact hready.output
  · rw [List.mem_singleton.mp hhop]
    exact ⟨_, hready.quote⟩
  · match k, hhop with
    | 0, hhop =>
      cases hleg
      cases hhop
      refine legAgrees_of hlast.accepts hready.quote (houtput ▸ hready.output) ?_
      rw [hready.quoteProgram]
      show (kind.layout last.data).Agrees _ _ _ _ (l (ata payer _ _)).owner
      rw [← h.outputAta_eq, hready.outputProgram]
      exact hlast.agrees

/-- **When a dynamic buy can be satisfied.** It always can unless its target
leads back to the account it is paid from; and then, without a fee, no calls
whatever make the program return. -/
theorem dynamic_buy_satisfiable_iff
    (h : buildDynamicQuoteBuy programId payer feeRecipient routeAmountIn firstLegAmountIn
      quoteMinOut minTargetOut quotePool targetPool = .ok route) :
    (Satisfiable programId payer feeRecipient routeAmountIn firstLegAmountIn quoteMinOut
        minTargetOut route ↔ ¬ LeadsBack targetPool payer)
      ∧ (LeadsBack targetPool payer → ∀ (rt : Runtime) (m m' : Machine),
        ZeroFee programId m.ledger route.instruction →
        processInner rt programId
          (route.instruction.accounts.map (mergedView route.instruction.accounts))
          route.instruction.data.tail 1 m ≠ .ok () m') := by
  obtain ⟨first, last, hb⟩ := buildDynamicQuoteBuy_ok h
  rw [hb.leadsBack_iff]
  have hrecovers := recovers_dynamic (mergedView route.instruction.accounts) hb.built
  refine ⟨⟨fun hs heq => hs.1.2.2 heq.symm, fun hne => ?_⟩, fun heq rt m m' hzero => ?_⟩
  · have hquote : route.quoteAta ≠ route.outputAta := by
      rw [hb.outputAta_eq]
      exact hb.checked.distinct.2
    obtain ⟨kind, hfirst⟩ := hb.first
    obtain ⟨kind', hlast⟩ := hb.last
    refine ⟨⟨hb.checked.distinct.1.symm, hquote, Ne.symm hne⟩, first, last, kind, kind',
      hb.built, hfirst, hlast, ?_⟩
    rintro rfl m ⟨cfg, hconfig, hfee⟩ hready
    obtain ⟨w, hw, hle⟩ := hready.funded
    obtain ⟨q, hq, hroom⟩ := hready.quoteRoom
    obtain ⟨o, ho, hroom'⟩ := hready.outputRoom
    have houtput : (dynamicBuyAccounts payer feeRecipient route.outputMint
        route.outputTokenProgram).outputTokenAccount = route.outputAta := hb.outputAta_eq.symm
    obtain ⟨rt, m', e₁, e₂, hrun, hcalls⟩ := two_settles (route.quoteAta, quoteMinOut)
      hb.checked hrecovers hconfig hfee (hb.contents hready) hready.source
      (by rw [houtput]; exact Ne.symm hne) hw hle hq hroom (by rw [houtput]; exact ho) hroom'
    rw [houtput] at hcalls
    exact ⟨rt, m', e₁, e₂, hrun, hcalls⟩
  · obtain ⟨cfg, hconfig, hfee⟩ := hzero
    refine two_never_settles (route.quoteAta, quoteMinOut) hb.checked hrecovers hconfig
      hfee (hb.outputAta_eq.symm.trans heq)

end

/-! ## Two buys -/

/-- A derivation that returns the last seed, so that a user's token account
for a mint stands at the mint; the default key stands for the rest. -/
@[reducible] def buyPda : Pda where
  find seeds _ := ((seeds.getLast?.bind Pubkey.ofBytes?).getD default, 255)
  tryFind seeds _ := seeds.getLast?.bind (fun seed => (Pubkey.ofBytes? seed).map (·, 255))
  create _ _ := some default

/-- A pool of two mints. -/
def buyPool (base quote : Pubkey) : CpmmPool where
  poolState := sampleKey 21
  ammConfig := sampleKey 22
  observationState := sampleKey 23
  baseMint := base
  quoteMint := quote
  baseVault := sampleKey 24
  quoteVault := sampleKey 25
  baseTokenProgram := tokenProgram
  quoteTokenProgram := tokenProgram
  baseReserve := 1000
  quoteReserve := 2000
  feeRatesKnown := true
  tradeFeeRate := 2500
  creatorFeeRate := 0
  creatorFeeOn := 0
  enableCreatorFee := false
  baseTransferFee := ⟨0, 0⟩
  quoteTransferFee := ⟨0, 0⟩

/-- A buy of the second pool's other mint, through the mint 4. -/
def sampleBuy (target : Pubkey) : Result DynamicBuyRoute :=
  letI := buyPda
  letI := sampleUpstream
  buildDynamicQuoteBuy (sampleKey 8) (sampleKey 1) (sampleKey 3) 100 100 10 5
    (.cpmmOuter (buyPool wsolMint (sampleKey 4))) (.cpmmOuter (buyPool target (sampleKey 4)))

/-- The payer's three token accounts, and a configuration without a fee
everywhere else. -/
def buyLedger : Ledger := fun address =>
  if address = wsolMint then ⟨0, tokenProgramId, tokenData wsolMint (sampleKey 1) 100⟩
  else if address = sampleKey 4 then
    ⟨0, tokenProgramId, tokenData (sampleKey 4) (sampleKey 1) 0⟩
  else if address = sampleKey 5 then
    ⟨0, tokenProgramId, tokenData (sampleKey 5) (sampleKey 1) 0⟩
  else ⟨0, sampleKey 8, (RouterConfig.fresh (sampleKey 1) (sampleKey 3) 0 255).store []⟩

theorem buyLedger_tokens :
    TokenAccount buyLedger wsolMint wsolMint (sampleKey 1)
      ∧ TokenAccount buyLedger (sampleKey 4) (sampleKey 4) (sampleKey 1)
      ∧ TokenAccount buyLedger (sampleKey 5) (sampleKey 5) (sampleKey 1) := by
  refine ⟨?_, ?_, ?_⟩ <;>
    exact ⟨by decide +kernel, by decide +kernel, by decide +kernel, by decide +kernel⟩

/-- The quote and the target of a route. -/
def sidesOf (route : DynamicBuyRoute) : List Pubkey :=
  [route.quoteMint, route.quoteTokenProgram, route.quoteAta, route.outputMint,
    route.outputTokenProgram, route.outputAta]

theorem sampleBuy_sides (target : Pubkey) (h : target = sampleKey 5 ∨ target = wsolMint) :
    ∃ route, sampleBuy target = .ok route ∧ sidesOf route
      = [sampleKey 4, tokenProgram, sampleKey 4, target, tokenProgram, target] := by
  have hsides : (sampleBuy target).toOption.map sidesOf
      = some [sampleKey 4, tokenProgram, sampleKey 4, target, tokenProgram, target] := by
    rcases h with rfl | rfl <;> decide +kernel
  obtain ⟨route, hroute, hsides⟩ := Option.map_eq_some_iff.mp hsides
  refine ⟨route, ?_, hsides⟩
  cases hbuy : sampleBuy target with
  | error e =>
    rw [hbuy] at hroute
    cases hroute
  | ok r =>
    rw [hbuy] at hroute
    cases hroute
    rfl

/-- **A buy of the mint 5 settles** by honest calls. -/
theorem sampleBuy_settles :
    letI := buyPda
    ∃ route rt m', sampleBuy (sampleKey 5) = .ok route
      ∧ processInner rt (sampleKey 8)
        (route.instruction.accounts.map (mergedView route.instruction.accounts))
        route.instruction.data.tail 1 ⟨buyLedger, []⟩ = .ok () m' := by
  let := buyPda
  let := sampleUpstream
  obtain ⟨route, hroute, hsides⟩ := sampleBuy_sides (sampleKey 5) (.inl rfl)
  simp only [sidesOf, List.cons.injEq, and_true] at hsides
  obtain ⟨hquoteMint, hquoteProgram, hquoteAta, houtputMint, houtputProgram, houtputAta⟩ := hsides
  have hback : ¬ LeadsBack (.cpmmOuter (buyPool (sampleKey 5) (sampleKey 4))) (sampleKey 1) := by
    rintro ⟨side, hside, heq⟩
    rcases List.mem_pair.mp hside with rfl | rfl
    · exact absurd heq (by decide +kernel)
    · exact absurd heq (by decide +kernel)
  obtain ⟨-, first, last, kind, kind', -, -, -, hsettles⟩ :=
    (dynamic_buy_satisfiable_iff hroute).1.mpr hback
  have hzero : ZeroFee (sampleKey 8) buyLedger route.instruction := by
    have hread : RouterConfig.read buyLedger (mergedView route.instruction.accounts
        (.newReadonly (Sdk.configPda (sampleKey 8)).1 false))
        = .ok (.fresh (sampleKey 1) (sampleKey 3) 0 255) :=
      RouterConfig.read_eq_ok.mpr ⟨RouterConfig.decode_store _ [], by decide⟩
    exact ⟨_, bind_eq_ok.mpr ⟨(), failIf_eq_ok.mpr (not_not.mpr rfl), bind_eq_ok.mpr
      ⟨_, hread, bind_eq_ok.mpr ⟨default, rfl, bind_eq_ok.mpr ⟨(),
        failIf_eq_ok.mpr (not_not.mpr rfl), bind_eq_ok.mpr ⟨(),
          failIf_eq_ok.mpr (not_not.mpr rfl), rfl⟩⟩⟩⟩⟩, rfl⟩
  have hwsol : wsolAccount (sampleKey 1) = wsolMint := by decide +kernel
  have hready : Ready buyLedger (sampleKey 1) route 100 10 5 := by
    obtain ⟨hw, hq, ho⟩ := buyLedger_tokens
    refine ⟨hwsol ▸ hw, ?_, ?_, ?_, ?_, ⟨100, ?_, by decide⟩, ⟨0, ?_, by decide⟩,
      ⟨0, ?_, by decide⟩⟩
    · rw [hquoteAta, hquoteMint]
      exact hq
    · rw [hquoteAta, hquoteProgram]
      rfl
    · rw [houtputAta, houtputMint]
      exact ho
    · rw [houtputAta, houtputProgram]
      rfl
    · rw [hwsol]
      decide +kernel
    · rw [hquoteAta]
      decide +kernel
    · rw [houtputAta]
      decide +kernel
  obtain ⟨rt, m', _, _, hrun, -⟩ := hsettles rfl ⟨buyLedger, []⟩ hzero hready
  exact ⟨route, rt, m', hroute, hrun⟩

/-- **A buy of WSOL is built**, and is not satisfiable: the account it pays
is the account it is paid from. -/
theorem sampleBuy_leads_back :
    letI := buyPda
    ∃ route, sampleBuy wsolMint = .ok route
      ∧ ¬ Satisfiable (sampleKey 8) (sampleKey 1) (sampleKey 3) 100 100 10 5 route := by
  let := buyPda
  obtain ⟨route, hroute, hsides⟩ := sampleBuy_sides wsolMint (.inr rfl)
  simp only [sidesOf, List.cons.injEq, and_true] at hsides
  obtain ⟨-, -, -, -, -, houtputAta⟩ := hsides
  refine ⟨route, hroute, fun hs => hs.1.2.2 ?_⟩
  rw [houtputAta]
  decide +kernel

end DynamicSettles
