import SolTradeRouter.RouteErrors
import SolTradeRouter.WireFormat

/-!
# Dynamic routes the SDK accepts, as the program checks them

The SDK checks a dynamic route on its metas, leg by leg. The program sees
accounts whose privileges are merged over the whole transaction: an address
that is writable anywhere is writable everywhere. Where the SDK requires a
privilege, merging can only help. Where it requires that one is absent, as
it does of the second intermediate account in the first leg of a three-hop
route, merging can undo it – that account is always passed writable as an
intermediate, so a first leg that lists it at all is refused on chain.
-/

namespace DynamicAccepted

open Outcome Bytes Program Sdk WireFormat

/-! ## Merged privileges -/

/-- **An account as the runtime presents it**: its privileges are those any
meta of the instruction gives its address. -/
def mergedView (metas : List AccountMeta) (x : AccountMeta) : AccountView where
  address := x.pubkey
  isSigner := metas.any (fun y => y.pubkey = x.pubkey && y.isSigner)
  isWritable := metas.any (fun y => y.pubkey = x.pubkey && y.isWritable)

section

variable {metas : List AccountMeta} {x : AccountMeta}

@[simp] theorem mergedView_address : (mergedView metas x).address = x.pubkey := rfl

theorem mergedView_isWritable : (mergedView metas x).isWritable = true ↔
    ∃ y ∈ metas, y.pubkey = x.pubkey ∧ y.isWritable = true := by
  simp [mergedView]

/-- Merging keeps a privilege. -/
theorem isWritable_of_mem (h : x ∈ metas) (hw : x.isWritable = true) :
    (mergedView metas x).isWritable = true :=
  mergedView_isWritable.mpr ⟨x, h, rfl, hw⟩

theorem isSigner_of_mem (h : x ∈ metas) (hs : x.isSigner = true) :
    (mergedView metas x).isSigner = true := by
  simpa [mergedView] using ⟨x, h, rfl, hs⟩

theorem presents_writable {accounts : List AccountMeta} {i : ℕ} {k : Pubkey}
    (hmem : ∀ x ∈ accounts, x ∈ metas) (h : Lists accounts i k AccountMeta.isWritable) :
    Presents (accounts.map (mergedView metas)) i k AccountView.isWritable := by
  obtain ⟨x, hx, hk, hw⟩ := h
  exact ⟨mergedView metas x, by rw [List.getElem?_map, hx]; rfl, hk,
    isWritable_of_mem (hmem x (List.mem_of_getElem? hx)) hw⟩

theorem presents_signer {accounts : List AccountMeta} {i : ℕ} {k : Pubkey}
    (hmem : ∀ x ∈ accounts, x ∈ metas) (h : Lists accounts i k AccountMeta.isSigner) :
    Presents (accounts.map (mergedView metas)) i k AccountView.isSigner := by
  obtain ⟨x, hx, hk, hs⟩ := h
  exact ⟨mergedView metas x, by rw [List.getElem?_map, hx]; rfl, hk,
    isSigner_of_mem (hmem x (List.mem_of_getElem? hx)) hs⟩

/-- **A leg writes an account that is passed writable exactly when it lists
its address.** -/
theorem writes_iff (accounts : List AccountMeta) {k : Pubkey}
    (hk : AccountMeta.new k false ∈ metas) :
    writes (accounts.map (mergedView metas)) (mergedView metas (.new k false)) = true ↔
      ∃ x ∈ accounts, x.pubkey = k := by
  unfold writes
  rw [List.any_map, List.any_eq_true]
  constructor
  · rintro ⟨x, hx, h⟩
    simp only [Function.comp_apply, mergedView_address, AccountMeta.new_pubkey,
      Bool.and_eq_true] at h
    exact ⟨x, hx, of_decide_eq_true h.1⟩
  · rintro ⟨x, hx, rfl⟩
    refine ⟨x, hx, ?_⟩
    have hw : (mergedView metas x).isWritable = true :=
      mergedView_isWritable.mpr ⟨_, hk, rfl, rfl⟩
    simp [hw]

end

/-! ## A leg that follows another -/

/-- **What the accounts hold agrees with what a leg lists** at the positions
of its mints and token programs. -/
def LegAgrees (l : Ledger) (payer : Pubkey) (leg : Leg) (input output : Pubkey) : Prop :=
  ∀ kind : SwapKind, kind.Accepts leg.programId leg.data → ∀ inputMint outputMint,
    TokenAccount l input inputMint payer → TokenAccount l output outputMint payer →
    (kind.layout leg.data).Agrees (leg.accounts.map AccountMeta.pubkey)
      inputMint (l input).owner outputMint (l output).owner

section

variable {l : Ledger} {metas : List AccountMeta} {leg : Leg} {payer input output : Pubkey}
  {zero launchlab : Bool} {layout : DynamicLegLayout} {user i o : AccountView}

/-- **A leg the SDK has checked passes the program's checks**, and can be
patched. -/
theorem leg_ok (h : LegChecked leg payer input output zero launchlab layout)
    (hmem : ∀ x ∈ leg.accounts, x ∈ metas) (hle : leg.accounts.length ≤ 64)
    (hu : user.address = payer) (hi : i.address = input) (ho : o.address = output)
    {inputMint outputMint : Pubkey} (hin : TokenAccount l input inputMint payer)
    (hout : TokenAccount l output outputMint payer)
    (hagrees : LegAgrees l payer leg input output) :
    ∃ kind : SwapKind,
      dynamicSecondLeg leg.programId leg.data = .ok (.ofLayout (kind.layout leg.data))
      ∧ validateDynamicAccounts l (.ofLayout (kind.layout leg.data))
        (leg.accounts.map (mergedView metas)) user i o = .ok ()
      ∧ (zero = true → (sliceIs leg.data (kind.layout leg.data).amountOffset
        ((kind.layout leg.data).amountOffset + 8) (List.replicate 8 0) : Read Bool)
          = .ok true)
      ∧ ∀ amount, ∃ out, patchSecondLegAmount leg.data amount
        (kind.layout leg.data).amountOffset (List.replicate maxDynamicLegData 0)
          = .ok out := by
  obtain ⟨kind, hkind, rfl⟩ := dynamicLegLayout_eq_ok.mp h.layout_eq
  have hfit := hkind.2.amount_fits
  subst hu hi ho
  refine ⟨kind, dynamicSecondLeg_eq_ok.mpr ⟨kind, hkind, rfl⟩, ?_, fun hz => ?_,
    fun amount => ?_⟩
  · have hmatch : AccountsMatch l (kind.layout leg.data)
        (leg.accounts.map (mergedView metas)) user i o inputMint outputMint := {
      positions := fun j hj => by
        rw [List.length_map]
        exact Nat.lt_of_lt_of_le (kind.positions_lt leg.data j hj) h.count
      signs := presents_signer hmem h.signer
      spends := presents_writable hmem h.input
      receives := presents_writable hmem h.output
      inputMint_eq := hin.tokenMint_eq
      outputMint_eq := hout.tokenMint_eq
      agrees := by
        rw [List.map_map]
        exact hagrees kind hkind inputMint outputMint hin hout }
    refine validateDynamicAccounts_ok ?_ hmatch
    rw [List.length_map]
    exact Nat.lt_of_le_of_lt hle (by decide)
  · exact sliceIs_eq_ok.mpr ⟨_, h.zero hz, by simp⟩
  · exact patchSecondLegAmount_ok hfit.1 (by rw [List.length_replicate]; exact hfit.2)

variable {f : RouteFrame} {quoteReceived : UInt64}

/-- The leg as the parser hands it out. -/
abbrev presented (metas : List AccountMeta) (leg : Leg) : ParsedLeg AccountView :=
  recoveredLeg (mergedView metas) leg

theorem middleLegData_ok (h : LegChecked leg payer input output true false layout)
    (hmem : ∀ x ∈ leg.accounts, x ∈ metas) (hle : leg.accounts.length ≤ 64)
    (hu : f.accounts.user.address = payer) (hi : f.accounts.intermediate = some i)
    (hia : i.address = input) (ho : f.accounts.secondIntermediate = some o)
    (hoa : o.address = output) {inputMint outputMint : Pubkey}
    (hin : TokenAccount l input inputMint payer)
    (hout : TokenAccount l output outputMint payer)
    (hagrees : LegAgrees l payer leg input output) :
    ∃ out, middleLegData l f (presented metas leg) quoteReceived = .ok out := by
  obtain ⟨kind, hlayout, haccounts, hzero, hpatch⟩ :=
    leg_ok h hmem hle hu hia hoa hin hout hagrees
  obtain ⟨out, hout⟩ := hpatch quoteReceived
  have hnot : leg.programId ≠ launchlabProgramId :=
    h.launchlab.resolve_left (by decide)
  have hslice := hzero rfl
  refine ⟨out, ?_⟩
  unfold middleLegData
  rw [hi, ho]
  refine bind_eq_ok.mpr ⟨i, rfl, bind_eq_ok.mpr ⟨o, rfl, bind_eq_ok.mpr ⟨(),
    failIf_eq_ok.mpr hnot, bind_eq_ok.mpr ⟨_, hlayout, bind_eq_ok.mpr ⟨false, ?_,
      bind_eq_ok.mpr ⟨(), failIf_eq_ok.mpr (by simp), bind_eq_ok.mpr ⟨(), haccounts,
        hout⟩⟩⟩⟩⟩⟩⟩
  show not <$> (sliceIs leg.data _ _ _ : Read Bool) = _
  rw [show (DynamicSecondLeg.ofLayout (kind.layout leg.data)).amountOffset
    = (kind.layout leg.data).amountOffset from rfl, hslice]
  rfl

theorem lastLegData_ok
    (h : LegChecked leg payer input output zero true layout) (hzero : f.threeHop = zero)
    (hmem : ∀ x ∈ leg.accounts, x ∈ metas) (hle : leg.accounts.length ≤ 64)
    (hu : f.accounts.user.address = payer)
    (hi : (if f.threeHop then f.accounts.secondIntermediate else f.accounts.intermediate)
      = some i)
    (hia : i.address = input) (hoa : f.accounts.userOutput.address = output)
    {inputMint outputMint : Pubkey} (hin : TokenAccount l input inputMint payer)
    (hout : TokenAccount l output outputMint payer)
    (hagrees : LegAgrees l payer leg input output) :
    ∃ out, lastLegData l f (presented metas leg) quoteReceived = .ok out := by
  obtain ⟨kind, hlayout, haccounts, hslice, hpatch⟩ :=
    leg_ok h hmem hle hu hia hoa hin hout hagrees
  obtain ⟨out, hout⟩ := hpatch quoteReceived
  refine ⟨out, ?_⟩
  unfold lastLegData
  rw [hi]
  refine bind_eq_ok.mpr ⟨i, rfl, bind_eq_ok.mpr ⟨_, hlayout, bind_eq_ok.mpr ⟨false, ?_,
    bind_eq_ok.mpr ⟨(), failIf_eq_ok.mpr (by simp), bind_eq_ok.mpr ⟨(), haccounts,
      hout⟩⟩⟩⟩⟩
  -- The input must be zero only where it is always patched.
  rw [hzero]
  cases zero with
  | false => rfl
  | true =>
    show allOf [_, not <$> (sliceIs leg.data _ _ _ : Read Bool)] = _
    rw [show (DynamicSecondLeg.ofLayout (kind.layout leg.data)).amountOffset
      = (kind.layout leg.data).amountOffset from rfl, hslice rfl]
    rfl

/-- The leg data of each place in a dynamic route. -/
theorem legInvokeData_first {leg : ParsedLeg AccountView} (hdyn : f.dynamic = true)
    (hn : 2 ≤ f.header.numLegs) :
    legInvokeData l f 0 leg quoteReceived
      = (do checkFirstLeg f leg; pure leg.data) := by
  rw [legInvokeData_eq (by omega), if_neg (by simp), if_neg (by omega), if_pos ⟨hdyn, rfl⟩]

theorem legInvokeData_middle {leg : ParsedLeg AccountView} (hthree : f.threeHop = true) :
    legInvokeData l f 1 leg quoteReceived = middleLegData l f leg quoteReceived :=
  if_pos ⟨hthree, rfl⟩

theorem legInvokeData_last {leg : ParsedLeg AccountView} {j : ℕ} (hdyn : f.dynamic = true)
    (hn : 1 ≤ f.header.numLegs) (hj : j = f.header.numLegs - 1)
    (hnot : ¬ (f.threeHop = true ∧ j = 1)) :
    legInvokeData l f j leg quoteReceived = lastLegData l f leg quoteReceived := by
  rw [legInvokeData_eq hn, if_neg hnot, if_pos ⟨hdyn, hj⟩]

/-- **The first leg passes exactly when it lists the first intermediate
account and not the second.** -/
theorem checkFirstLeg_eq_ok {k : Pubkey} {o : Option Pubkey}
    (hk : AccountMeta.new k false ∈ metas) (ho : ∀ y ∈ o, AccountMeta.new y false ∈ metas)
    (hi : f.accounts.intermediate = some (mergedView metas (.new k false)))
    (hs : f.accounts.secondIntermediate = o.map (fun y => mergedView metas (.new y false))) :
    checkFirstLeg f (presented metas leg) = .ok () ↔
      (∃ x ∈ leg.accounts, x.pubkey = k)
      ∧ (f.threeHop = true → ∀ y ∈ o, ∀ x ∈ leg.accounts, x.pubkey ≠ y) := by
  unfold checkFirstLeg
  rw [hi, hs, okOrReject, okOr_some, ok_bind, failIf_eq_ok]
  have hfirst := writes_iff leg.accounts hk
  show ¬ ((!writes (leg.accounts.map (mergedView metas)) _
    || f.threeHop && _) = true) ↔ _
  rw [Bool.or_eq_true, not_or, Bool.not_eq_true', Bool.not_eq_false, hfirst]
  refine and_congr_right fun _ => ?_
  rw [Bool.and_eq_true, not_and]
  refine imp_congr_right fun _ => ?_
  cases o with
  | none => simp
  | some y =>
    have hsecond := writes_iff leg.accounts (ho y rfl)
    show ¬ (writes (leg.accounts.map (mergedView metas)) _ = true) ↔ _
    rw [hsecond]
    simp

end

/-! ## Checks before the legs -/

/-- An intermediate account that is passed writable, is the user's, and is
apart from the others, has a snapshot. -/
theorem intermediateSnapshot_ok {l : Ledger} {a : Program.RouteAccounts AccountView}
    {first : Option AccountView} {account : AccountView} {mint : Pubkey}
    (hw : account.isWritable = true)
    (htoken : TokenAccount l account.address mint a.user.address)
    (hsource : account.address ≠ a.feeSource.address)
    (houtput : account.address ≠ a.userOutput.address)
    (hfirst : ∀ x ∈ first, account.address ≠ x.address) :
    ∃ n, intermediateSnapshot l a first (some account) = .ok n := by
  obtain ⟨n, hn⟩ := htoken.tokenAmount_ok
  refine ⟨n, bind_eq_ok.mpr ⟨false, ?_, bind_eq_ok.mpr ⟨(), failIf_eq_ok.mpr (by simp), hn⟩⟩⟩
  rw [anyOf_eq_false]
  simp only [List.forall_mem_cons, List.not_mem_nil, false_implies, implies_true, and_true,
    Except.ok.injEq, hw, htoken.tokenOwner_eq, decide_eq_false_iff_not]
  refine ⟨rfl, ?_, ?_, hsource, houtput, ?_⟩
  · rw [show account.owner l = (l account.address).owner from rfl, htoken.program]
    rfl
  · show Except.ok (decide (a.user.address ≠ a.user.address)) = _
    simp
  · cases first with
    | none => rfl
    | some x => simpa using hfirst x rfl

/-- The output account is the user's, and holds the expected mint. -/
theorem validateOutput_ok {l : Ledger} {user output : AccountView} {mint : Pubkey}
    (hmint : mint ≠ systemProgramId)
    (htoken : TokenAccount l output.address mint user.address) (dynamic : Bool) :
    validateOutput l user output mint dynamic = .ok false := by
  unfold validateOutput
  rw [if_neg hmint]
  refine bind_eq_ok.mpr ⟨(), failIf_eq_ok.mpr ?_, bind_eq_ok.mpr ⟨mint, htoken.tokenMint_eq,
    bind_eq_ok.mpr ⟨(), failIf_eq_ok.mpr (by simp), bind_eq_ok.mpr ⟨false, ?_,
      bind_eq_ok.mpr ⟨(), failIf_eq_ok.mpr (by simp), rfl⟩⟩⟩⟩⟩
  · rw [show output.owner l = (l output.address).owner from rfl, htoken.program]
    decide
  · rw [htoken.tokenOwner_eq]
    cases dynamic with
    | false => rfl
    | true =>
      show allOf [.ok true, .ok (decide (user.address ≠ user.address))] = _
      simp [allOf]

/-- The header of a dynamic route passes its checks. -/
theorem checkHeader_ok {h : RouteHeader} {dyn : ℕ} (hin : h.amountIn ≠ 0)
    (hdyn : dyn = 1 ∨ dyn = 2) (hn : h.numLegs = dyn + 1) (hbyte : h.feeAssetByte = 1)
    (hfirst : h.intermediateMinOut ≠ 0) (hsecond : dyn = 2 → h.secondIntermediateMinOut ≠ 0)
    (hmin : h.minAmountOut ≠ 0) : checkHeader h dyn = .ok () := by
  have hmax : maxLegs = 4 := rfl
  refine bind_eq_ok.mpr ⟨(), failIf_eq_ok.mpr hin, bind_eq_ok.mpr ⟨(), failIf_eq_ok.mpr ?_,
    failIf_eq_ok.mpr ?_⟩⟩
  · omega
  · rintro ⟨-, hbad | hbad | hbad | ⟨htwo, hbad⟩ | hbad⟩
    · exact hbad hn
    · exact hbad hbyte
    · exact hfirst hbad
    · exact hsecond htwo hbad
    · exact hmin hbad

/-! ## The route -/

/-- **A dynamic route the SDK has checked**: two legs with one intermediate
account, or three with two. -/
inductive Checked (accounts : Sdk.RouteAccounts) : Request → Prop
  | two {hop : Pubkey × UInt64} {amountIn minAmountOut : UInt64} {mint : Pubkey}
      {first last : Leg}
      (h : DynamicRouteChecked accounts hop.1 amountIn hop.2 minAmountOut mint first last) :
      Checked accounts ⟨tagRouteDynamic, amountIn, minAmountOut, feeAssetToken, false, mint,
        [hop], [first, last]⟩
  | three {hop hop' : Pubkey × UInt64} {amountIn minAmountOut : UInt64} {mint : Pubkey}
      {first middle last : Leg}
      (h : ThreeHopRouteChecked accounts hop.1 hop'.1 amountIn hop.2 hop'.2 minAmountOut mint
        first middle last) :
      Checked accounts ⟨tagRouteDynamicThree, amountIn, minAmountOut, feeAssetToken, false,
        mint, [hop, hop'], [first, middle, last]⟩

/-- **What the route's token accounts hold**: the output account and the
intermediate accounts are the payer's, and those around a later leg agree
with what the leg lists. -/
structure Contents (accounts : Sdk.RouteAccounts) (r : Request) (l : Ledger) : Prop where
  output : TokenAccount l accounts.outputTokenAccount r.expectedOutputMint accounts.payer
  hops : ∀ hop ∈ r.hops, ∃ mint, TokenAccount l hop.1 mint accounts.payer
  legs : ∀ k leg hop, r.legs[k + 1]? = some leg → r.hops[k]? = some hop →
    LegAgrees l accounts.payer leg hop.1
      ((r.hops[k + 1]?.map Prod.fst).getD accounts.outputTokenAccount)

/-- **The first leg spares the second intermediate account** when it does not
list it, in whichever capacity. -/
def Spares (r : Request) : Prop :=
  ∀ first hop, r.legs[0]? = some first → r.hops[1]? = some hop →
    ∀ x ∈ first.accounts, x.pubkey ≠ hop.1

section

variable [Pda] {programId : Pubkey} {accounts : Sdk.RouteAccounts} {r : Request}
  {ix : Instruction} {header : RouteHeader} {remaining : List AccountMeta}

/-- The accounts of the route, as the program names them. -/
abbrev named (programId : Pubkey) (accounts : Sdk.RouteAccounts) (r : Request)
    (ix : Instruction) (remaining : List AccountMeta) : Program.RouteAccounts AccountView :=
  namedAccounts (mergedView ix.accounts) programId accounts r.hops remaining

/-- What stays fixed while the legs of the route run. -/
abbrev frame (programId : Pubkey) (accounts : Sdk.RouteAccounts) (r : Request)
    (ix : Instruction) (remaining : List AccountMeta) (header : RouteHeader)
    (quote second : UInt64) : RouteFrame :=
  ⟨header, r.hops.length, named programId accounts r ix remaining, quote, second⟩

/-- The meta of an intermediate account is passed, and is writable. -/
theorem hop_mem (h : Recovers (mergedView ix.accounts) programId accounts r ix)
    (hop : Pubkey × UInt64) (hhop : hop ∈ r.hops) : .new hop.1 false ∈ ix.accounts :=
  h.leading _ (List.mem_append_right _ (List.mem_map.mpr ⟨hop, hhop, rfl⟩))

/-- **Every leg passes its checks on a ledger whose contents agree**: the
first one exactly when it spares the second intermediate account. -/
theorem legs_ok (hc : Checked accounts r)
    (h : Recovers (mergedView ix.accounts) programId accounts r ix)
    (hn : header.numLegs = r.legs.length) (hspares : Spares r) {j : ℕ}
    {leg : ParsedLeg AccountView}
    (hleg : (r.legs.map (presented ix.accounts))[j]? = some leg) {l : Ledger}
    (hl : Contents accounts r l) (quote second q : UInt64) :
    ∃ out, legInvokeData l (frame programId accounts r ix remaining header quote second) j leg
      q = .ok out := by
  have hmem := h.passed
  have hhop := hop_mem h
  cases hc with
  | @two hop amountIn minAmountOut mint first last hd =>
    obtain ⟨inputMint, hin⟩ := hl.hops hop (List.mem_singleton_self _)
    obtain ⟨layout, hlast⟩ := hd.second
    set f := frame programId accounts _ ix remaining header quote second with hf
    match j, hleg with
    | 0, hleg =>
      cases hleg
      have hok : checkFirstLeg f (presented ix.accounts first) = .ok () :=
        (checkFirstLeg_eq_ok (o := none) (hhop hop (List.mem_singleton_self _))
          (fun _ hy => by cases hy) rfl rfl).mpr
        ⟨hd.writes.imp fun x hx => ⟨hx.1, hx.2.1⟩, fun ht => by cases ht⟩
      refine ⟨first.data, ?_⟩
      rw [legInvokeData_first rfl (by rw [hf, hn]; exact Nat.le_refl 2), hok]
      rfl
    | 1, hleg =>
      cases hleg
      rw [legInvokeData_last rfl (by rw [hf, hn]; exact Nat.one_le_iff_ne_zero.mpr nofun)
        (by rw [hf, hn]; rfl)
        (fun hc => by cases hc.1)]
      exact lastLegData_ok hlast rfl (hmem last (by simp)) hd.counts.2.2 rfl rfl rfl rfl hin
        hl.output (hl.legs 0 last hop rfl rfl)
  | @three hop hop' amountIn minAmountOut mint first middle last ht =>
    obtain ⟨inputMint, hin⟩ := hl.hops hop (by simp)
    obtain ⟨secondMint, hsecond⟩ := hl.hops hop' (by simp)
    obtain ⟨layout, hmiddle⟩ := ht.middle
    obtain ⟨layout', hlast⟩ := ht.last
    set f := frame programId accounts _ ix remaining header quote second with hf
    match j, hleg with
    | 0, hleg =>
      cases hleg
      have hok : checkFirstLeg f (presented ix.accounts first) = .ok () :=
        (checkFirstLeg_eq_ok (o := some hop'.1) (hhop hop (by simp))
          (fun y hy => by cases hy; exact hhop hop' (by simp)) rfl rfl).mpr
        ⟨ht.writes.imp fun x hx => ⟨hx.1, hx.2.1⟩,
          fun _ y hy => by cases hy; exact hspares first hop' rfl rfl⟩
      refine ⟨first.data, ?_⟩
      rw [legInvokeData_first rfl (by rw [hf, hn]; exact Nat.le_succ 2), hok]
      rfl
    | 1, hleg =>
      cases hleg
      rw [legInvokeData_middle rfl]
      exact middleLegData_ok hmiddle (hmem middle (by simp)) (ht.sizes middle (by simp)).2.1
        rfl rfl rfl rfl rfl hin hsecond (hl.legs 0 middle hop rfl rfl)
    | 2, hleg =>
      cases hleg
      rw [legInvokeData_last rfl (by rw [hf, hn]; exact Nat.one_le_iff_ne_zero.mpr nofun)
        (by rw [hf, hn]; rfl)
        (fun hc => by cases hc.2)]
      exact lastLegData_ok hlast rfl (hmem last (by simp)) (ht.sizes last (by simp)).2.1
        rfl rfl rfl rfl hsecond hl.output (hl.legs 1 last hop' rfl rfl)

/-- **The instruction of a checked route is structured**, whatever the
ledger, as long as its contents agree. -/
theorem structured_of_checked (hc : Checked accounts r)
    (h : Recovers (mergedView ix.accounts) programId accounts r ix) :
    ∃ header remaining,
      Structured (ix.accounts.map (mergedView ix.accounts)) ix.data.tail r.hops.length
        (Contents accounts r) header (named programId accounts r ix remaining)
      ∧ header.amountIn = r.amountIn ∧ header.feeAsset = 1
      ∧ header.numLegs = r.legs.length
      ∧ parseLegs ix.data.tail (remaining.map (mergedView ix.accounts)) r.legs.length
        ⟨routeHeaderLen + 8 * r.hops.length, 0⟩ = .ok (r.legs.map (presented ix.accounts),
          ⟨ix.data.tail.length, (r.legs.flatMap Leg.accounts).length⟩) := by
  obtain ⟨header, hheader, hin, hmin, hbyte, hasset, -, hmint, hn, hfirstMin, hsecondMin⟩ :=
    h.header
  obtain ⟨remaining, hsplit, hparse⟩ := h.legs
  have hpayer : AccountMeta.new accounts.payer true ∈ ix.accounts :=
    h.leading _ (List.mem_append_left _ (List.mem_cons_self ..))
  have hwritable := fun hop (hhop : hop ∈ r.hops) =>
    isWritable_of_mem (hop_mem h hop hhop) (AccountMeta.new_isWritable ..)
  refine ⟨header, remaining, ?_, hin, ?_, hn, hparse⟩
  · cases hc with
    | @two hop amountIn minAmountOut mint first last hd =>
      exact {
        header_eq := hheader
        header_ok := checkHeader_ok (by rw [hin]; exact hd.amounts.1) (.inl rfl) hn
          (hbyte.trans (show encodeFeeAsset feeAssetToken false = 1 by decide))
          (by rw [hfirstMin]; exact hd.amounts.2.1) (fun hc => by cases hc)
          (by rw [hmin]; exact hd.amounts.2.2)
        accounts_eq := hsplit
        signed := isSigner_of_mem hpayer rfl
        output_ok := fun l hl => by
          rw [hmint]
          exact validateOutput_ok hd.mint hl.output _
        output_amount := fun l hl => hl.output.tokenAmount_ok
        quote_ok := fun l hl => by
          obtain ⟨inputMint, htoken⟩ := hl.hops hop (List.mem_singleton_self _)
          exact intermediateSnapshot_ok (hwritable hop (List.mem_singleton_self _)) htoken
            hd.distinct.1 hd.distinct.2 (fun _ hx => by cases hx)
        second_ok := fun _ _ => ⟨0, rfl⟩ }
    | @three hop hop' amountIn minAmountOut mint first middle last ht =>
      obtain ⟨hapart, hsource, houtput, hsource', houtput'⟩ := ht.distinct
      exact {
        header_eq := hheader
        header_ok := checkHeader_ok (by rw [hin]; exact ht.amounts.1) (.inr rfl) hn
          (hbyte.trans (show encodeFeeAsset feeAssetToken false = 1 by decide))
          (by rw [hfirstMin]; exact ht.amounts.2.1)
          (fun _ => by rw [hsecondMin]; exact ht.amounts.2.2.1)
          (by rw [hmin]; exact ht.amounts.2.2.2)
        accounts_eq := hsplit
        signed := isSigner_of_mem hpayer rfl
        output_ok := fun l hl => by
          rw [hmint]
          exact validateOutput_ok ht.mint hl.output _
        output_amount := fun l hl => hl.output.tokenAmount_ok
        quote_ok := fun l hl => by
          obtain ⟨inputMint, htoken⟩ := hl.hops hop (by simp)
          exact intermediateSnapshot_ok (hwritable hop (by simp)) htoken hsource houtput
            (fun _ hx => by cases hx)
        second_ok := fun l hl => by
          obtain ⟨secondMint, htoken⟩ := hl.hops hop' (by simp)
          exact intermediateSnapshot_ok (hwritable hop' (by simp)) htoken hsource' houtput'
            (fun x hx => by cases hx; exact hapart.symm) }
  · rw [hasset]
    cases hc <;> rfl

/-! ## What the route can stop with -/

/-- **A structural error**, and not the answer to an intermediate account
that lost balance after the fee was taken. -/
def RaisesStructural (r : Request) (feeBps : UInt16) (m : Machine)
    (result : EStateM.Result (Abort ProgramError) Machine Unit) : Prop :=
  ∃ e m', result = .error (.error e) m' ∧ e ∈ structuralErrors
    ∧ ¬ (e = RouterError.invalidIntermediateAccount
      ∧ ∃ hop ∈ r.hops, LostBalance
        (m'.trace.drop (m.trace.length + feeCalls r.amountIn feeBps)) m'.ledger
        (.ofMeta (.new hop.1 false)))

/-- **Where the route runs**: the configuration is valid and not paused, the
contents of the accounts agree, and calls succeed and keep them so. -/
structure Environment (rt : Runtime) (programId : Pubkey) (accounts : Sdk.RouteAccounts)
    (r : Request) (ix : Instruction) (cfg : RouterConfig) (m : Machine) : Prop where
  config : checkConfig m.ledger programId
    (mergedView ix.accounts (.newReadonly (Sdk.configPda programId).1 false)) = .ok cfg
  contents : Contents accounts r m.ledger
  calls : ∀ n call l, Contents accounts r l →
    ∃ l', rt.cpi n call l = .ok l' ∧ Contents accounts r l'

/-- **The fee can be taken**: its source is the payer's, its destination the
recipient's, both of one mint and of the fee's program. -/
structure FeeReady (l : Ledger) (accounts : Sdk.RouteAccounts) (cfg : RouterConfig) :
    Prop where
  rate : cfg.feeBps.toNat ≤ 10000
  source_program : (l accounts.feeSource).owner = accounts.feeProgram
  destination_program : (l accounts.feeDestination).owner = accounts.feeProgram
  mint : ∃ mint, TokenAccount l accounts.feeSource mint accounts.payer
    ∧ TokenAccount l accounts.feeDestination mint cfg.feeRecipient
    ∧ (accounts.feeProgram = token2022ProgramId → (l mint).owner = accounts.feeProgram
      ∧ 82 ≤ (l mint).data.length ∧ (l mint).data[45]? = some 1)

variable {rt : Runtime} {cfg : RouterConfig} {m : Machine}

/-- **A checked route whose first leg spares the second intermediate account
stops with no structural error.** -/
theorem not_raisesStructural (hc : Checked accounts r)
    (h : Recovers (mergedView ix.accounts) programId accounts r ix)
    (henv : Environment rt programId accounts r ix cfg m) (hspares : Spares r) :
    ¬ RaisesStructural r cfg.feeBps m (processInner rt programId
      (ix.accounts.map (mergedView ix.accounts)) ix.data.tail r.hops.length m) := by
  obtain ⟨header, remaining, hstruct, hin, -, hn, hparse⟩ := structured_of_checked hc h
  set E : Abort ProgramError → Machine → Prop := fun e m' =>
    ∀ pe ∈ structuralErrors, e = .error pe → pe = RouterError.invalidIntermediateAccount
      ∧ ∃ hop ∈ r.hops, LostBalance
        (m'.trace.drop (m.trace.length + feeCalls r.amountIn cfg.feeBps)) m'.ledger
        (.ofMeta (.new hop.1 false)) with hE
  have hbenign : ∀ e m', Benign e → E e m' := fun e m' he pe hpe heq => absurd heq (he pe hpe)
  have hraise {α : Type} {x : Read α} (hx : Raises Benign x) : Raises (E · m) x :=
    fun e he => hbenign e m (hx e he)
  have hdyn : r.hops ≠ [] := by cases hc <;> simp
  have hrun := processInner_ensures (E := E) (P := fun s _ => s.pos.cursor
    = ix.data.tail.length) hstruct henv.config henv.contents henv.calls
    (hraise ((reports_checkedFee _ _).raises (by decide)))
    (hraise ((reports_feeSourceBefore _ _ _ _).raises (by decide)))
    (fun fee => hraise ((reports_feeTransfer _ _ _ _ _).raises (by decide))) ?_
    (fun s m' hs => ⟨hs, fun e => hbenign e m'⟩)
  · rintro ⟨e, m', hresult, hmem, hnot⟩
    rw [hresult] at hrun
    exact hnot (hrun e hmem rfl)
  · intro charged quote second hgood hcount hquote hsecond
    rw [hin] at hcount
    -- An intermediate account of the frame is that of a hop.
    have hlost : ∀ m' x, (named programId accounts r ix remaining).intermediate = some x
        ∨ (named programId accounts r ix remaining).secondIntermediate = some x →
        LostBalance (callsSince charged m') m'.ledger x →
        E (.error RouterError.invalidIntermediateAccount) m' := by
      intro m' x hx hlost pe hpe heq
      have hhop : ∃ hop ∈ r.hops, mergedView ix.accounts (.new hop.1 false) = x := by
        rcases hx with hx | hx
        · obtain ⟨hop, hhop, heq⟩ := Option.map_eq_some_iff.mp hx
          exact ⟨hop, List.mem_of_getElem? hhop, heq⟩
        · obtain ⟨hop, hhop, heq⟩ := Option.map_eq_some_iff.mp hx
          exact ⟨hop, List.mem_of_getElem? hhop, heq⟩
      obtain ⟨hop, hhop, rfl⟩ := hhop
      rw [callsSince, hcount] at hlost
      cases heq
      exact ⟨rfl, hop, hhop, hlost⟩
    rw [hn]
    have hfirst : ∃ x, (named programId accounts r ix remaining).intermediate = some x
        ∧ tokenAmount charged.ledger x = .ok quote := by
      obtain ⟨hop, rest, hops⟩ := List.exists_cons_of_ne_nil hdyn
      have hsome : (named programId accounts r ix remaining).intermediate
          = some (mergedView ix.accounts (.new hop.1 false)) := by
        show r.hops[0]?.map _ = _
        rw [hops]
        rfl
      refine ⟨_, hsome, intermediateSnapshot_some
        (a := named programId accounts r ix remaining) (o := none) ?_⟩
      rw [← hsome]
      exact hquote
    have hnext : r.hops.length = 2 →
        ∃ x, (named programId accounts r ix remaining).secondIntermediate = some x
          ∧ tokenAmount charged.ledger x = .ok second := by
      intro htwo
      obtain ⟨hop, hhop⟩ : ∃ hop, r.hops[1]? = some hop :=
        ⟨r.hops[1], List.getElem?_eq_getElem _⟩
      have hsome : (named programId accounts r ix remaining).secondIntermediate
          = some (mergedView ix.accounts (.new hop.1 false)) := by
        show r.hops[1]?.map _ = _
        rw [hhop]
        rfl
      refine ⟨_, hsome, intermediateSnapshot_some
        (a := named programId accounts r ix remaining)
        (o := (named programId accounts r ix remaining).intermediate) ?_⟩
      rw [← hsome]
      exact hsecond
    have hsteps : LegsHypotheses rt (Contents accounts r)
        (frame programId accounts r ix remaining header quote second) charged E := {
      calls := henv.calls
      first := fun _ => hfirst
      second := fun ht => hnext (of_decide_eq_true ht)
      benign := hbenign
      lost := hlost }
    refine ensures_imp (runLegs_ensures hsteps hparse (fun j leg hleg l hl q => ?_)
      (since_refl hgood)) (fun s _ hs => by rw [hs.1]) (fun _ _ he => he)
    rw [Nat.zero_add]
    exact legs_ok hc h hn hspares hleg hl quote second q

omit [Pda] in
/-- A fee is taken from a token account of the payer. -/
theorem feeSourceBefore_token {l : Ledger} {mint : Pubkey}
    {user feeSource : AccountView} {n : UInt64}
    (h : TokenAccount l feeSource.address mint user.address)
    (hn : tokenAmount l feeSource = .ok n) : feeSourceBefore l 1 user feeSource = .ok n := by
  have hprogram : isTokenProgram (feeSource.owner l) = true := h.program
  unfold feeSourceBefore
  rw [if_neg (by decide), if_pos rfl, hprogram]
  exact bind_eq_ok.mpr ⟨(), rfl, bind_eq_ok.mpr ⟨user.address, h.tokenOwner_eq,
    bind_eq_ok.mpr ⟨(), failIf_eq_ok.mpr (by simp), hn⟩⟩⟩

omit [Pda] in
/-- A fee between accounts that are ready can be transferred. -/
theorem tokenFeeTransfer_ok {l : Ledger} (h : FeeReady l accounts cfg)
    {a : Program.RouteAccounts AccountView} (hprogram : a.feeProgram.address
      = accounts.feeProgram) (hsource : a.feeSource.address = accounts.feeSource)
    (hdestination : a.feeDestination.address = accounts.feeDestination) (fee : UInt64) :
    ∃ call, feeTransfer l cfg 1 fee a = .ok call := by
  obtain ⟨mint, hfrom, hto, hmint⟩ := h.mint
  rw [← hsource] at hfrom
  rw [← hdestination] at hto
  have howner : a.feeSource.owner l = a.feeProgram.address := by
    rw [hprogram, ← h.source_program, ← hsource]
    rfl
  have howner' : a.feeDestination.owner l = a.feeProgram.address := by
    rw [hprogram, ← h.destination_program, ← hdestination]
    rfl
  have htoken : isTokenProgram a.feeProgram.address = true := by
    rw [← howner]
    exact hfrom.program
  have hknown : ¬ (a.feeProgram.address ≠ tokenProgramId
      ∧ a.feeProgram.address ≠ token2022ProgramId) := by
    rw [isTokenProgram, decide_eq_true_eq] at htoken
    exact fun hc => htoken.elim hc.1 hc.2
  have hcall : ∃ call, (feeMintAccount mint a).elim
      (pure (tokenTransfer a.feeSource a.feeDestination a.user fee a.feeProgram.address))
      (checkedTokenTransfer l fee · a) = (.ok call : Read CpiCall) := by
    cases hx : feeMintAccount mint a with
    | none => exact ⟨_, rfl⟩
    | some x =>
      obtain ⟨hfind, h2022⟩ := Option.filter_eq_some_iff.mp hx
      rw [decide_eq_true_eq] at h2022
      have hxk : x.address = mint := by simpa using List.find?_some hfind
      obtain ⟨hxo, hlen, hinit⟩ := hmint (by rw [← hprogram, h2022])
      rw [← hxk] at hxo hlen hinit
      have hlen' : 82 ≤ (x.data l).length := hlen
      refine ⟨_, bind_eq_ok.mpr ⟨(), failIf_eq_ok.mpr (not_not.mpr (hxo.trans hprogram.symm)),
        bind_eq_ok.mpr ⟨false, anyOf_eq_false.mpr ?_, bind_eq_ok.mpr ⟨(),
          failIf_eq_ok.mpr (by simp), bind_eq_ok.mpr ⟨(x.data l)[44],
            index_eq_ok.mpr (List.getElem?_eq_getElem (by omega)), rfl⟩⟩⟩⟩⟩
      simp only [List.forall_mem_cons, List.not_mem_nil, false_implies, implies_true,
        and_true, Except.ok.injEq, decide_eq_false_iff_not, Nat.not_lt]
      exact ⟨hlen', indexIs_eq_ok.mpr ⟨1, hinit, by decide⟩⟩
  obtain ⟨call, hcall⟩ := hcall
  refine ⟨call, ?_⟩
  show tokenFeeTransfer l cfg fee a = _
  refine bind_eq_ok.mpr ⟨(), failIf_eq_ok.mpr hknown, bind_eq_ok.mpr ⟨(),
    failIf_eq_ok.mpr (not_not.mpr howner.symm), bind_eq_ok.mpr ⟨(), failIf_eq_ok.mpr
      (by rw [howner', htoken]; decide), bind_eq_ok.mpr ⟨(), failIf_eq_ok.mpr
        (not_not.mpr (howner'.trans howner.symm)), bind_eq_ok.mpr ⟨_, hto.tokenOwner_eq,
          bind_eq_ok.mpr ⟨(), failIf_eq_ok.mpr (by simp), bind_eq_ok.mpr ⟨_,
            hto.tokenMint_eq, bind_eq_ok.mpr ⟨_, hfrom.tokenMint_eq, bind_eq_ok.mpr ⟨(),
              failIf_eq_ok.mpr (by simp), bind_eq_ok.mpr ⟨_, hfrom.tokenMint_eq,
                ?_⟩⟩⟩⟩⟩⟩⟩⟩⟩⟩
  cases hx : feeMintAccount mint a with
  | none =>
    rw [hx] at hcall
    exact hcall
  | some x =>
    rw [hx] at hcall
    exact hcall

omit [Pda] in
/-- The check of the first leg has one answer when it fails. -/
theorem checkFirstLeg_error {f : RouteFrame} {i : AccountView}
    (hi : f.accounts.intermediate = some i) {leg : ParsedLeg AccountView}
    (h : checkFirstLeg f leg ≠ .ok ()) :
    checkFirstLeg f leg = .error (.error RouterError.invalidIntermediateAccount) := by
  unfold checkFirstLeg at h ⊢
  rw [hi, okOrReject, okOr_some, ok_bind] at h ⊢
  by_contra hc
  refine h (failIf_eq_ok.mpr fun hbad => hc (failIf_eq_error.mpr ⟨hbad, rfl⟩))

/-- The first leg of a route that does not spare the second intermediate
account is refused. -/
theorem first_refused (header : RouteHeader) (remaining : List AccountMeta)
    (hc : Checked accounts r)
    (h : Recovers (mergedView ix.accounts) programId accounts r ix) (hspares : ¬ Spares r)
    (quote second : UInt64) :
    ∃ first legs, r.legs = first :: legs
      ∧ (frame programId accounts r ix remaining header quote second).dynamic = true
      ∧ 1 ≤ legs.length
      ∧ checkFirstLeg (frame programId accounts r ix remaining header quote second)
        (presented ix.accounts first)
        = .error (.error RouterError.invalidIntermediateAccount) := by
  cases hc with
  | two hd => exact absurd (fun _ _ _ hhop => by cases hhop) hspares
  | @three hop hop' amountIn minAmountOut mint first middle last ht =>
    refine ⟨first, [middle, last], rfl, rfl, Nat.le_succ 1, checkFirstLeg_error rfl ?_⟩
    intro hok
    have hiff := (checkFirstLeg_eq_ok (o := some hop'.1) (hop_mem h hop (by simp))
      (fun y hy => by cases hy; exact hop_mem h hop' (by simp)) rfl rfl).mp hok
    refine hspares fun leg hp hleg hhop => ?_
    cases hleg
    cases hhop
    exact hiff.2 rfl _ rfl

/-- **A checked route whose first leg lists the second intermediate account is
refused**, before any leg is called. -/
theorem raisesStructural_of_not_spares (hc : Checked accounts r)
    (h : Recovers (mergedView ix.accounts) programId accounts r ix)
    (henv : Environment rt programId accounts r ix cfg m)
    (hready : FeeReady m.ledger accounts cfg) (hspares : ¬ Spares r) :
    RaisesStructural r cfg.feeBps m (processInner rt programId
      (ix.accounts.map (mergedView ix.accounts)) ix.data.tail r.hops.length m) := by
  obtain ⟨header, remaining, hstruct, hin, hasset, hn, hparse⟩ := structured_of_checked hc h
  obtain ⟨mint, hfrom, -⟩ := hready.mint
  have hnone {α : Type} {x : Read α} (hx : ∃ a, x = .ok a) {P : Abort ProgramError → Prop} :
      Raises P x := by
    obtain ⟨a, rfl⟩ := hx
    exact raises_ok a
  have hsource : ∃ n, feeSourceBefore m.ledger 1 (named programId accounts r ix remaining).user
      (named programId accounts r ix remaining).feeSource = .ok n := by
    obtain ⟨n, hn⟩ : ∃ n, tokenAmount m.ledger
        (named programId accounts r ix remaining).feeSource = .ok n := hfrom.tokenAmount_ok
    exact ⟨n, feeSourceBefore_token hfrom hn⟩
  have hrun := processInner_ensures (E := fun e m' =>
      e = .error RouterError.invalidIntermediateAccount
        ∧ m'.trace.length = m.trace.length + feeCalls r.amountIn cfg.feeBps)
    (P := fun _ _ => False) hstruct henv.config henv.contents henv.calls
    (hnone ((checkedFee_ok hready.rate).imp fun _ h => h.1))
    (by rw [hasset]; exact hnone hsource)
    (fun fee => by rw [hasset]; exact hnone (tokenFeeTransfer_ok hready rfl rfl rfl fee)) ?_
    (fun _ _ hs => hs.elim)
  · generalize processInner rt programId (ix.accounts.map (mergedView ix.accounts))
      ix.data.tail r.hops.length m = result at hrun ⊢
    cases result with
    | ok _ m' => exact hrun.elim fun _ hs => hs.elim
    | error e m' =>
      obtain ⟨rfl, hcount⟩ := hrun
      refine ⟨_, m', rfl, by decide, fun hc => ?_⟩
      -- No leg has been called, so nothing can have been lost.
      obtain ⟨-, hop, -, ev, hev, -⟩ := hc
      rw [← hcount, List.drop_length] at hev
      cases hev
  · intro charged quote second hgood hcount hquote hsecond
    rw [hin] at hcount
    obtain ⟨first, legs, hlegs, hdyn, hlen, hrefused⟩ := first_refused header
      remaining hc h hspares quote second
    rw [hlegs, List.length_cons] at hparse hn
    obtain ⟨⟨leg, pos⟩, hfirst, hparse⟩ := bind_eq_ok.mp hparse
    obtain ⟨⟨rest, pos'⟩, -, hparse⟩ := bind_eq_ok.mp hparse
    rw [pure_eq_ok, Prod.mk.injEq, List.map_cons, List.cons.injEq] at hparse
    obtain ⟨⟨hleg, -⟩, -⟩ := hparse
    rw [hn]
    refine ensures_bind (ensures_ok_bind hfirst (ensures_currentLedger_bind
      (ensures_lift_bind ?_ fun out hout => ?_)))
    · rw [hleg, legInvokeData_first hdyn (by rw [hn]; omega), hrefused]
      exact raises_error ⟨rfl, hcount⟩
    · rw [hleg, legInvokeData_first hdyn (by rw [hn]; omega), hrefused] at hout
      cases hout

theorem checked_two {intermediate : Pubkey}
    {amountIn intermediateMinOut minAmountOut : UInt64} {mint : Pubkey} {first second : Leg}
    (h : buildDynamicRouteInstruction programId accounts intermediate amountIn
      intermediateMinOut minAmountOut mint first second = .ok ix) :
    Checked accounts ⟨tagRouteDynamic, amountIn, minAmountOut, feeAssetToken, false, mint,
      [(intermediate, intermediateMinOut)], [first, second]⟩ := by
  obtain ⟨_, hcheck, -⟩ := bind_eq_ok.mp h
  exact @Checked.two _ (intermediate, intermediateMinOut) _ _ _ _ _
    (checkDynamicRoute_ok hcheck)

theorem checked_three {firstIntermediate secondIntermediate : Pubkey}
    {amountIn firstMinOut secondMinOut minAmountOut : UInt64} {mint : Pubkey}
    {legs : List Leg}
    (h : buildThreeHopRouteInstruction programId accounts firstIntermediate
      secondIntermediate amountIn firstMinOut secondMinOut minAmountOut mint legs true
      = .ok ix) :
    Checked accounts ⟨tagRouteDynamicThree, amountIn, minAmountOut, feeAssetToken, false, mint,
      [(firstIntermediate, firstMinOut), (secondIntermediate, secondMinOut)], legs⟩ := by
  match legs, h with
  | [first, middle, last], h =>
    obtain ⟨_, hcheck, -⟩ := bind_eq_ok.mp h
    exact @Checked.three _ (firstIntermediate, firstMinOut)
      (secondIntermediate, secondMinOut) _ _ _ _ _ _ (checkThreeHopRoute_ok hcheck)

end

/-- **When a dynamic route the SDK builds passes the structural checks of the
program.** With one intermediate account it always does. With two it does
when its first leg does not list the second intermediate account; and,
where the fee can be taken, only then. -/
theorem dynamic_routes_accepted [Pda] (rt : Runtime) (programId : Pubkey)
    (accounts : Sdk.RouteAccounts) (amountIn minAmountOut : UInt64) (mint : Pubkey)
    (cfg : RouterConfig) (m : Machine) (ix : Instruction) :
    (∀ (intermediate : Pubkey) (intermediateMinOut : UInt64) (first second : Leg),
      let r : Request := ⟨tagRouteDynamic, amountIn, minAmountOut, feeAssetToken, false, mint,
        [(intermediate, intermediateMinOut)], [first, second]⟩
      buildDynamicRouteInstruction programId accounts intermediate amountIn
        intermediateMinOut minAmountOut mint first second = .ok ix →
      Environment rt programId accounts r ix cfg m →
      ¬ RaisesStructural r cfg.feeBps m (processInner rt programId
        (ix.accounts.map (mergedView ix.accounts)) ix.data.tail 1 m))
    ∧ (∀ (firstIntermediate secondIntermediate : Pubkey) (firstMinOut secondMinOut : UInt64)
        (legs : List Leg),
      let r : Request := ⟨tagRouteDynamicThree, amountIn, minAmountOut, feeAssetToken, false,
        mint, [(firstIntermediate, firstMinOut), (secondIntermediate, secondMinOut)], legs⟩
      let raises := RaisesStructural r cfg.feeBps m (processInner rt programId
        (ix.accounts.map (mergedView ix.accounts)) ix.data.tail 2 m)
      let spares := ∀ first ∈ legs.head?, ∀ x ∈ first.accounts, x.pubkey ≠ secondIntermediate
      buildThreeHopRouteInstruction programId accounts firstIntermediate
        secondIntermediate amountIn firstMinOut secondMinOut minAmountOut mint legs true
        = .ok ix →
      Environment rt programId accounts r ix cfg m →
      (spares → ¬ raises)
      ∧ (FeeReady m.ledger accounts cfg → (¬ raises ↔ spares))) := by
  constructor
  · intro intermediate intermediateMinOut first second r hbuild henv
    exact not_raisesStructural (checked_two hbuild) (recovers_dynamic _ hbuild) henv
      (fun _ _ _ hhop => by cases hhop)
  · intro firstIntermediate secondIntermediate firstMinOut secondMinOut legs r raises spares
      hbuild henv
    have hspares : spares ↔ Spares r := by
      show (∀ first ∈ legs.head?, _) ↔ ∀ first hop, legs[0]? = some first → _
      rw [List.head?_eq_getElem?]
      constructor
      · intro hs first hop hfirst hhop
        cases hhop
        exact hs first hfirst
      · exact fun hs first hfirst => hs first _ hfirst rfl
    have henough : spares → ¬ raises := fun hs =>
      not_raisesStructural (checked_three hbuild) (recovers_threeHop _ hbuild) henv
        (hspares.mp hs)
    refine ⟨henough, fun hready => ⟨fun hnot => ?_, henough⟩⟩
    by_contra hs
    exact hnot (raisesStructural_of_not_spares (checked_three hbuild)
      (recovers_threeHop _ hbuild) henv hready (fun h => hs (hspares.mpr h)))

/-! ## A refused route -/

/-- The first sample swap, with the second intermediate account listed as a
read-only extra. -/
def extraFirst : Leg :=
  { sampleFirst with accounts := sampleFirst.accounts ++ [.newReadonly (sampleKey 8) false] }

/-- The token accounts of the sample route, and a configuration without a
fee. -/
def sampleLedger : Ledger := fun address =>
  if address = sampleKey 3 then
    ⟨0, token2022ProgramId, tokenData (sampleKey 14) (sampleKey 11) 0⟩
  else if address = sampleKey 4 then
    ⟨0, token2022ProgramId, tokenData (sampleKey 14) (sampleKey 1) 100⟩
  else if address = sampleKey 5 then
    ⟨0, tokenProgramId, tokenData (sampleKey 9) (sampleKey 1) 0⟩
  else if address = sampleKey 7 then
    ⟨0, tokenProgramId, tokenData (sampleKey 17) (sampleKey 1) 0⟩
  else if address = sampleKey 8 then
    ⟨0, tokenProgramId, tokenData (sampleKey 18) (sampleKey 1) 0⟩
  else if address = sampleKey 14 then
    ⟨0, token2022ProgramId, List.replicate 82 1⟩
  else ⟨0, sampleKey 0, (RouterConfig.fresh (sampleKey 10) (sampleKey 11) 0 255).store []⟩

/-- A runtime whose calls succeed and do nothing. -/
def idleRuntime : Runtime where
  cpi _ _ l := .ok l
  createAccount _ l := .ok l
  minimumBalance _ := .ok 0

/-- A token account holds one mint. -/
theorem mint_unique {l : Ledger} {k mint mint' owner owner' : Pubkey}
    (h : TokenAccount l k mint owner) (h' : TokenAccount l k mint' owner') : mint = mint' := by
  have heq := h.mint.symm.trans h'.mint
  rw [Option.some.injEq, ← Pubkey.ext_iff] at heq
  exact heq

/-- A sample swap lists the mints and the program of its accounts. -/
theorem sampleSwap_agrees {l : Ledger} {payer input output inputMint outputMint : Pubkey}
    (hin : TokenAccount l input inputMint payer) (hout : TokenAccount l output outputMint payer)
    (hinput : (l input).owner = tokenProgram) (houtput : (l output).owner = tokenProgram) :
    LegAgrees l payer (sampleSwap payer input output inputMint outputMint) input output := by
  intro kind hkind im om him hom
  have hcpmm : SwapKind.cpmm.Accepts raydiumCpmmProgram
      (Sdk.cpmmSwapBaseIn ++ List.replicate 16 0) := by decide
  rw [SwapKind.accepts_unique hkind hcpmm, ← mint_unique hin him, ← mint_unique hout hom,
    hinput, houtput]
  left
  refine ⟨?_, ?_, ?_, ?_⟩ <;>
  · intro i hi
    cases hi
    rfl

/-- What the token accounts of the sample hold. -/
theorem sampleLedger_tokens :
    TokenAccount sampleLedger (sampleKey 3) (sampleKey 14) (sampleKey 11)
    ∧ TokenAccount sampleLedger (sampleKey 4) (sampleKey 14) (sampleKey 1)
    ∧ TokenAccount sampleLedger (sampleKey 5) (sampleKey 9) (sampleKey 1)
    ∧ TokenAccount sampleLedger (sampleKey 7) (sampleKey 17) (sampleKey 1)
    ∧ TokenAccount sampleLedger (sampleKey 8) (sampleKey 18) (sampleKey 1) := by
  refine ⟨?_, ?_, ?_, ?_, ?_⟩ <;>
    exact ⟨by decide +kernel, by decide +kernel, by decide +kernel, by decide +kernel⟩

/-- The sample route of two legs. -/
def sampleTwo : Request :=
  ⟨tagRouteDynamic, 10, 1, feeAssetToken, false, sampleKey 9, [(sampleKey 7, 2)],
    [sampleFirst, sampleSecond]⟩

/-- The sample route of three legs, from the given first one. -/
def sampleThree (first : Leg) : Request :=
  ⟨tagRouteDynamicThree, 10, 1, feeAssetToken, false, sampleKey 9,
    [(sampleKey 7, 2), (sampleKey 8, 3)], [first, sampleMiddle, sampleLast]⟩

theorem sampleTwo_contents : Contents sampleAccounts sampleTwo sampleLedger := by
  obtain ⟨-, -, h5, h7, -⟩ := sampleLedger_tokens
  refine ⟨h5, fun hop hhop => ?_, fun k leg hop hleg hhop => ?_⟩
  · rw [List.mem_singleton.mp hhop]
    exact ⟨_, h7⟩
  · match k, hhop with
    | 0, hhop =>
      cases hleg
      cases hhop
      exact sampleSwap_agrees h7 h5 (by decide) (by decide)

theorem sampleThree_contents (first : Leg) :
    Contents sampleAccounts (sampleThree first) sampleLedger := by
  obtain ⟨-, -, h5, h7, h8⟩ := sampleLedger_tokens
  refine ⟨h5, fun hop hhop => ?_, fun k leg hop hleg hhop => ?_⟩
  · rcases List.mem_cons.mp hhop with rfl | hhop
    · exact ⟨_, h7⟩
    · rw [List.mem_singleton.mp hhop]
      exact ⟨_, h8⟩
  · match k, hhop with
    | 0, hhop =>
      cases hleg
      cases hhop
      exact sampleSwap_agrees h7 h8 (by decide) (by decide)
    | 1, hhop =>
      cases hleg
      cases hhop
      exact sampleSwap_agrees h8 h5 (by decide) (by decide)

/-- The configuration of the sample. -/
def sampleConfig : RouterConfig := .fresh (sampleKey 10) (sampleKey 11) 0 255

/-- A route runs on the sample ledger when its contents agree there. -/
theorem sample_environment {r : Request} (ix : Instruction)
    (h : Contents sampleAccounts r sampleLedger) :
    @Environment samplePda idleRuntime (sampleKey 0) sampleAccounts r ix sampleConfig
      ⟨sampleLedger, []⟩ := by
  let := samplePda
  refine ⟨?_, h, fun _ _ l hl => ⟨l, rfl, hl⟩⟩
  have hread : RouterConfig.read sampleLedger
      (mergedView ix.accounts (.newReadonly (sampleKey 2) false)) = .ok sampleConfig :=
    RouterConfig.read_eq_ok.mpr ⟨RouterConfig.decode_store sampleConfig [], by decide⟩
  exact bind_eq_ok.mpr ⟨(), failIf_eq_ok.mpr (not_not.mpr rfl), bind_eq_ok.mpr
    ⟨sampleConfig, hread, bind_eq_ok.mpr ⟨sampleKey 2, rfl, bind_eq_ok.mpr ⟨(),
      failIf_eq_ok.mpr (not_not.mpr rfl), bind_eq_ok.mpr ⟨(),
        failIf_eq_ok.mpr (not_not.mpr rfl), rfl⟩⟩⟩⟩⟩

theorem sample_feeReady : FeeReady sampleLedger sampleAccounts sampleConfig := by
  obtain ⟨h3, h4, -⟩ := sampleLedger_tokens
  exact ⟨by decide, by decide, by decide, _, h4, h3, fun _ => by decide +kernel⟩

/-- **The SDK builds a three-hop route that the program refuses**: its first
leg lists the second intermediate account read-only. -/
theorem threeHop_refused :
    letI := samplePda
    ∃ ix, buildThreeHopRouteInstruction (sampleKey 0) sampleAccounts (sampleKey 7)
        (sampleKey 8) 10 2 3 1 (sampleKey 9) [extraFirst, sampleMiddle, sampleLast] true
        = .ok ix
      ∧ Environment idleRuntime (sampleKey 0) sampleAccounts (sampleThree extraFirst) ix
        sampleConfig ⟨sampleLedger, []⟩
      ∧ RaisesStructural (sampleThree extraFirst) sampleConfig.feeBps ⟨sampleLedger, []⟩
        (processInner idleRuntime (sampleKey 0) (ix.accounts.map (mergedView ix.accounts))
          ix.data.tail 2 ⟨sampleLedger, []⟩) := by
  let := samplePda
  obtain ⟨ix, hbuild⟩ : ∃ ix, buildThreeHopRouteInstruction (sampleKey 0) sampleAccounts
      (sampleKey 7) (sampleKey 8) 10 2 3 1 (sampleKey 9)
      [extraFirst, sampleMiddle, sampleLast] true = .ok ix := ⟨_, rfl⟩
  have henv := sample_environment ix (sampleThree_contents extraFirst)
  refine ⟨ix, hbuild, henv, raisesStructural_of_not_spares (checked_three hbuild)
    (recovers_threeHop _ hbuild) henv sample_feeReady fun hs => ?_⟩
  exact hs extraFirst (sampleKey 8, 3) rfl rfl (.newReadonly (sampleKey 8) false)
    (by simp [extraFirst]) rfl

/-- The sample routes are not refused. -/
theorem samples_accepted :
    letI := samplePda
    (∃ ix, buildDynamicRouteInstruction (sampleKey 0) sampleAccounts (sampleKey 7) 10 2 1
        (sampleKey 9) sampleFirst sampleSecond = .ok ix
      ∧ ¬ RaisesStructural sampleTwo sampleConfig.feeBps ⟨sampleLedger, []⟩
        (processInner idleRuntime (sampleKey 0) (ix.accounts.map (mergedView ix.accounts))
          ix.data.tail 1 ⟨sampleLedger, []⟩))
    ∧ ∃ ix, buildThreeHopRouteInstruction (sampleKey 0) sampleAccounts (sampleKey 7)
        (sampleKey 8) 10 2 3 1 (sampleKey 9) [sampleFirst, sampleMiddle, sampleLast] true
        = .ok ix
      ∧ ¬ RaisesStructural (sampleThree sampleFirst) sampleConfig.feeBps ⟨sampleLedger, []⟩
        (processInner idleRuntime (sampleKey 0) (ix.accounts.map (mergedView ix.accounts))
          ix.data.tail 2 ⟨sampleLedger, []⟩) := by
  let := samplePda
  obtain ⟨two, htwo⟩ : ∃ ix, buildDynamicRouteInstruction (sampleKey 0) sampleAccounts
      (sampleKey 7) 10 2 1 (sampleKey 9) sampleFirst sampleSecond = .ok ix := ⟨_, rfl⟩
  obtain ⟨three, hthree⟩ : ∃ ix, buildThreeHopRouteInstruction (sampleKey 0) sampleAccounts
      (sampleKey 7) (sampleKey 8) 10 2 3 1 (sampleKey 9)
      [sampleFirst, sampleMiddle, sampleLast] true = .ok ix := ⟨_, rfl⟩
  refine ⟨⟨two, htwo, ?_⟩, ⟨three, hthree, ?_⟩⟩
  · exact (dynamic_routes_accepted idleRuntime (sampleKey 0) sampleAccounts 10 1 (sampleKey 9)
      sampleConfig ⟨sampleLedger, []⟩ two).1 (sampleKey 7) 2 sampleFirst sampleSecond htwo
      (sample_environment two sampleTwo_contents)
  · refine (((dynamic_routes_accepted idleRuntime (sampleKey 0) sampleAccounts 10 1
      (sampleKey 9) sampleConfig ⟨sampleLedger, []⟩ three).2 (sampleKey 7) (sampleKey 8) 2 3
      [sampleFirst, sampleMiddle, sampleLast] hthree
      (sample_environment three (sampleThree_contents sampleFirst))).2 sample_feeReady).mpr ?_
    decide

end DynamicAccepted
