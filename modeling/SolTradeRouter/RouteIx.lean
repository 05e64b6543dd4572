import SolTradeRouter.SwapKind

/-!
# The SDK's route instructions

The SDK's half of the wire format: its own table of the swaps a dynamic
route can chain, the checks it makes before it builds a dynamic route, and
the three builders. A builder concatenates the header and the legs into
the instruction's data, and the fixed accounts, the accounts of the legs,
the legs' programs and the fee's mint into its metas.

`dynamicLegLayout_eq` says that the SDK's table computes
`SwapKind.recognize` too.
-/

namespace Sdk

open Outcome Bytes

/-- A fallible function of the SDK, with the text of its error. -/
abbrev Result (α : Type) := Except (Abort String) α

/-- `bail!(text)`. -/
abbrev bail {α : Type} (text : String) : Result α := fail text

/-- `if c { bail!(text) }`. -/
abbrev bailIf (c : Prop) [Decidable c] (text : String) : Result Unit := failIf c text

/-- Config PDA seeds. -/
def configSeed : List UInt8 := ascii "config"

/-- Derive router config PDA. -/
def configPda [Pda] (programId : Pubkey) : Pubkey × UInt8 := Pda.find [configSeed] programId

/-- **A leg of a route**: one instruction of one exchange. -/
structure Leg where
  programId : Pubkey
  accounts : List AccountMeta
  data : List UInt8
  deriving DecidableEq

/-- The tag of a static route. -/
def tagRoute : UInt8 := 2
/-- Of a vault's preparation. -/
def tagPreparePumpfun : UInt8 := 7
/-- Of a route over one intermediate account. -/
def tagRouteDynamic : UInt8 := 5
/-- And over two. -/
def tagRouteDynamicThree : UInt8 := 6
/-- The fee is charged in lamports. -/
def feeAssetSol : UInt8 := 0
/-- Or in tokens. -/
def feeAssetToken : UInt8 := 1
/-- The flag of a fixed output, in the same byte. -/
def feeAssetExactOut : UInt8 := 0x80

/-! ## The table of dynamic legs -/

/-- **The positions of a leg's accounts**, as the SDK keeps them. -/
structure DynamicLegLayout where
  inputAccount : ℕ
  outputAccount : ℕ
  signer : ℕ
  amountOffset : ℕ
  minimumAccounts : ℕ
  deriving DecidableEq, Repr

/-- The number of accounts a Whirlpool swap needs. -/
def whirlpoolDynamicAccounts (data : List UInt8) : Result (Option ℕ) :=
  choose (allOf [.ok (data.length = 43), indexIs data 42 (· = 0)])
    (.ok (some 15))
    (choose (allOf [.ok (data.length = 49), sliceIs data 42 48 [1, 1, 0, 0, 0, 6],
        indexIs data 48 (fun n => 1 ≤ n ∧ n ≤ 3)])
      (do
        let n ← index data 48
        pure (some (15 + n.toNat)))
      (.ok none))

/-- The branches of the table. -/
def dynamicLegBranches (leg : Leg) : List (Result Bool × Result DynamicLegLayout) :=
  let data := leg.data
  [ (allOf [.ok (leg.programId = launchlabProgram), .ok (data.length = 32),
        sliceIs data 0 8 buyExactInLaunchlab, sliceIs data 24 32 (List.replicate 8 0)],
      .ok ⟨6, 5, 0, 8, 13⟩),
    (allOf [.ok (leg.programId = raydiumCpmmProgram), .ok (data.length = 24),
        sliceIs data 0 8 cpmmSwapBaseIn],
      .ok ⟨4, 5, 0, 8, 12⟩),
    (allOf [.ok (leg.programId = pumpswapProgram), .ok (data.length = 25),
        sliceIs data 0 8 pumpswapBuyExactQuoteIn, indexIs data 24 (· ≤ 1)],
      .ok ⟨6, 5, 1, 8, 13⟩),
    (allOf [.ok (leg.programId = pumpswapProgram), .ok (data.length = 24),
        sliceIs data 0 8 pumpswapSell],
      -- PumpSwap sell: user base -> user quote, with the exact base input at offset 8.
      .ok ⟨5, 6, 1, 8, 13⟩),
    (allOf [.ok (leg.programId = raydiumAmmV4Program), .ok (data.length = 17),
        indexIs data 0 (· = raydiumAmmV4SwapBaseInV2)],
      .ok ⟨5, 6, 7, 1, 8⟩),
    (allOf [.ok (leg.programId = raydiumClmmProgram), .ok (data.length = 41),
        sliceIs data 0 8 clmmSwapV2, indexIs data 40 (· = 1)],
      .ok ⟨3, 4, 0, 8, 13⟩),
    (allOf [.ok (leg.programId = meteoraDlmmProgram), .ok (data.length = 28),
        sliceIs data 0 8 meteoraDlmmSwap2, sliceIs data 24 28 (List.replicate 4 0)],
      .ok ⟨4, 5, 10, 8, 13⟩),
    (allOf [.ok (leg.programId = meteoraDammV2Program), .ok (data.length = 25),
        sliceIs data 0 8 meteoraDammV2Swap2, indexIs data 24 (· = meteoraDammV2ExactIn)],
      .ok ⟨2, 3, 8, 8, 11⟩),
    (allOf [.ok (leg.programId = orcaWhirlpoolProgram),
        Option.isSome <$> whirlpoolDynamicAccounts data, sliceIs data 0 8 whirlpoolSwapV2,
        indexIs data 40 (· = 1), indexIs data 41 (· ≤ 1)],
      do
        let aToB ← indexIs data 41 (· = 1)
        let minimumAccounts ← orPanic (← whirlpoolDynamicAccounts data)
        pure (if aToB then ⟨7, 9, 3, 8, minimumAccounts⟩
          else ⟨9, 7, 3, 8, minimumAccounts⟩)) ]

/-- **The layout of a leg that spends another leg's proceeds.** -/
def dynamicLegLayout (leg : Leg) : Result DynamicLegLayout :=
  firstOf (dynamicLegBranches leg) (bail "dynamic leg must be a supported exact-input swap")

/-- The SDK's record of an abstract layout. -/
def DynamicLegLayout.ofLayout (s : SwapLayout) (minimumAccounts : ℕ) : DynamicLegLayout where
  inputAccount := s.input
  outputAccount := s.output
  signer := s.signer
  amountOffset := s.amountOffset
  minimumAccounts := minimumAccounts

/-- A Whirlpool's accounts are counted by its tail. -/
theorem whirlpoolDynamicAccounts_eq (data : List UInt8) :
    whirlpoolDynamicAccounts data = .ok (if SwapKind.WhirlpoolTail data
      then some (15 + SwapKind.supplemental data) else none) := by
  unfold whirlpoolDynamicAccounts
  rw [SwapKind.shortTail_eq, SwapKind.longTail_eq, choose_ok, choose_ok]
  by_cases hshort : data.length = 43 ∧ data[42]? = some 0
  · have htail : SwapKind.WhirlpoolTail data := .inl hshort
    rw [if_pos (decide_eq_true hshort), if_pos htail, SwapKind.supplemental,
      if_neg (by omega)]
  · rw [if_neg (by simpa using hshort)]
    by_cases hlong : data.length = 49 ∧ range? data 42 48 = some [1, 1, 0, 0, 0, 6]
        ∧ data[48]?.any (fun n => 1 ≤ n ∧ n ≤ 3)
    · have htail : SwapKind.WhirlpoolTail data := .inr hlong
      have hlt : 48 < data.length := by omega
      rw [if_pos (decide_eq_true hlong), if_pos htail, SwapKind.supplemental,
        if_pos hlong.1, index, List.getElem?_eq_getElem hlt]
      rfl
    · have htail : ¬ SwapKind.WhirlpoolTail data := not_or.mpr ⟨hshort, hlong⟩
      rw [if_neg (fun h => hlong (of_decide_eq_true h)), if_neg htail]

/-- **Each branch is a kind**: its condition is the kind's, and its layout
the kind's layout. -/
theorem dynamicLegBranches_eq (leg : Leg) :
    List.Forall₂
      (fun (k : SwapKind) b => b.1 = .ok (decide (k.Accepts leg.programId leg.data))
        ∧ (k.Accepts leg.programId leg.data →
          b.2 = .ok (.ofLayout (k.layout leg.data) (k.minimumAccounts leg.data))))
      SwapKind.all (dynamicLegBranches leg) := by
  have htail : Option.isSome <$> whirlpoolDynamicAccounts leg.data
      = (.ok (decide (SwapKind.WhirlpoolTail leg.data)) : Result Bool) := by
    rw [whirlpoolDynamicAccounts_eq]
    by_cases h : SwapKind.WhirlpoolTail leg.data
    · rw [if_pos h, decide_eq_true h]
      rfl
    · rw [if_neg h, decide_eq_false h]
      rfl
  have hcond := @SwapKind.condition_eq String _ leg.programId leg.data htail
  refine .cons ⟨hcond .launchlabBuy, fun _ => rfl⟩ (.cons ⟨hcond .cpmm, fun _ => rfl⟩
    (.cons ⟨hcond .pumpswapBuy, fun _ => rfl⟩ (.cons ⟨hcond .pumpswapSell, fun _ => rfl⟩
    (.cons ⟨hcond .ammV4, fun _ => rfl⟩ (.cons ⟨hcond .clmm, fun _ => rfl⟩
    (.cons ⟨hcond .dlmm, fun _ => rfl⟩ (.cons ⟨hcond .damm, fun _ => rfl⟩
    (.cons ⟨hcond .whirlpool, ?_⟩ .nil))))))))
  rintro ⟨-, htail, -⟩
  have hlen := htail.length_eq
  dsimp only
  rw [indexIs_eq_of_lt (by omega), ok_bind, whirlpoolDynamicAccounts_eq, if_pos htail,
    ok_bind, orPanic_some, ok_bind]
  show Except.ok _ = Except.ok _
  rw [Except.ok.injEq, SwapKind.layout]
  by_cases hdir : leg.data[41]? = some 1 <;>
    simp [DynamicLegLayout.ofLayout, SwapKind.aToB, SwapKind.minimumAccounts, hdir]

/-- **The table computes the kind of a leg**, and yields its layout. -/
theorem dynamicLegLayout_eq (leg : Leg) :
    dynamicLegLayout leg = (SwapKind.recognize leg.programId leg.data).elim
      (bail "dynamic leg must be a supported exact-input swap")
      (fun k => .ok (DynamicLegLayout.ofLayout (k.layout leg.data)
        (k.minimumAccounts leg.data))) :=
  firstOf_eq_find? (dynamicLegBranches_eq leg)

/-- **A leg is accepted exactly when it is of some kind.** -/
theorem dynamicLegLayout_eq_ok {leg : Leg} {layout : DynamicLegLayout} :
    dynamicLegLayout leg = .ok layout ↔
      ∃ k : SwapKind, k.Accepts leg.programId leg.data
        ∧ layout = .ofLayout (k.layout leg.data) (k.minimumAccounts leg.data) := by
  rw [dynamicLegLayout_eq]
  exact SwapKind.elim_recognize_eq_ok fun _ => fail_ne_ok

/-! ## Checks of a dynamic leg -/

/-- The leg's accounts and input amount must be those of the route. -/
def validateDynamicLeg (leg : Leg) (payer input output : Pubkey)
    (requireZeroAmount allowLaunchlab : Bool) : Result Unit := do
  bailIf (!allowLaunchlab ∧ leg.programId = launchlabProgram)
    "LaunchLab is only supported as the dynamic final leg"
  let layout ← dynamicLegLayout leg
  let mismatch ← anyOf [
    .ok (leg.accounts.length < layout.minimumAccounts),
    indexIs leg.accounts layout.signer (·.pubkey ≠ payer),
    indexIs leg.accounts layout.signer (!·.isSigner),
    indexIs leg.accounts layout.inputAccount (·.pubkey ≠ input),
    indexIs leg.accounts layout.inputAccount (!·.isWritable),
    indexIs leg.accounts layout.outputAccount (·.pubkey ≠ output),
    indexIs leg.accounts layout.outputAccount (!·.isWritable),
    allOf [.ok requireZeroAmount,
      not <$> sliceIs leg.data layout.amountOffset (layout.amountOffset + 8)
        (List.replicate 8 0)]]
  bailIf mismatch "dynamic leg accounts or input amount do not match the route"

/-- A list of accounts has, at a position, an address with a privilege. -/
def Lists (accounts : List AccountMeta) (i : ℕ) (k : Pubkey)
    (privilege : AccountMeta → Bool) : Prop :=
  ∃ x, accounts[i]? = some x ∧ x.pubkey = k ∧ privilege x = true

/-- **What a leg that passes the checks is like.** -/
structure LegChecked (leg : Leg) (payer input output : Pubkey)
    (requireZeroAmount allowLaunchlab : Bool) (layout : DynamicLegLayout) : Prop where
  layout_eq : dynamicLegLayout leg = .ok layout
  launchlab : allowLaunchlab = true ∨ leg.programId ≠ launchlabProgram
  count : layout.minimumAccounts ≤ leg.accounts.length
  signer : Lists leg.accounts layout.signer payer AccountMeta.isSigner
  input : Lists leg.accounts layout.inputAccount input AccountMeta.isWritable
  output : Lists leg.accounts layout.outputAccount output AccountMeta.isWritable
  zero : requireZeroAmount = true → range? leg.data layout.amountOffset
    (layout.amountOffset + 8) = some (List.replicate 8 0)

/-- Two tests of one position: the address, and a privilege. -/
theorem lists_of_indexIs {accounts : List AccountMeta} {i : ℕ} {k : Pubkey}
    {privilege : AccountMeta → Bool}
    (haddress : (indexIs accounts i (fun x => decide (x.pubkey ≠ k)) : Result Bool)
      = .ok false)
    (hprivilege : (indexIs accounts i (fun x => !privilege x) : Result Bool) = .ok false) :
    Lists accounts i k privilege := by
  obtain ⟨x, hx, hk⟩ := indexIs_eq_ok.mp haddress
  obtain ⟨y, hy, hp⟩ := indexIs_eq_ok.mp hprivilege
  rw [hx, Option.some.injEq] at hy
  subst hy
  exact ⟨x, hx, not_not.mp (of_decide_eq_false hk), by simpa using hp⟩

/-- **The checks accept what `LegChecked` describes.** -/
theorem validateDynamicLeg_ok {leg : Leg} {payer input output : Pubkey}
    {requireZeroAmount allowLaunchlab : Bool}
    (h : validateDynamicLeg leg payer input output requireZeroAmount allowLaunchlab
      = .ok ()) :
    ∃ layout, LegChecked leg payer input output requireZeroAmount allowLaunchlab layout := by
  unfold validateDynamicLeg at h
  obtain ⟨_, hlaunchlab, h⟩ := bind_eq_ok.mp h
  obtain ⟨layout, hlayout, h⟩ := bind_eq_ok.mp h
  obtain ⟨mismatch, hmismatch, h⟩ := bind_eq_ok.mp h
  have hfalse : mismatch = false := by simpa using failIf_eq_ok.mp h
  rw [hfalse, anyOf_eq_false] at hmismatch
  simp only [List.forall_mem_cons, Except.ok.injEq, decide_eq_false_iff_not] at hmismatch
  obtain ⟨hcount, hpayer, hsigner, hinput, hinputWritable, houtput, houtputWritable, hzero,
    -⟩ := hmismatch
  refine ⟨layout, {
    layout_eq := hlayout
    launchlab := ?_
    count := Nat.le_of_not_lt hcount
    signer := lists_of_indexIs hpayer hsigner
    input := lists_of_indexIs hinput hinputWritable
    output := lists_of_indexIs houtput houtputWritable
    zero := ?_ }⟩
  · have hnot := failIf_eq_ok.mp hlaunchlab
    cases allowLaunchlab
    · exact .inr (fun hp => hnot ⟨rfl, hp⟩)
    · exact .inl rfl
  · intro hrequire
    rw [hrequire] at hzero
    simp only [allOf, choose_ok, if_true] at hzero
    cases hslice : (sliceIs leg.data layout.amountOffset (layout.amountOffset + 8)
        (List.replicate 8 0) : Result Bool) with
    | error e =>
      rw [hslice] at hzero
      cases hzero
    | ok zero =>
      rw [hslice] at hzero
      cases zero
      · cases hzero
      · obtain ⟨zs, hzs, heq⟩ := sliceIs_eq_ok.mp hslice
        rw [hzs, of_decide_eq_true heq]

/-! ## Building an instruction -/

/-- **The accounts of a route that are not a leg's.** -/
structure RouteAccounts where
  payer : Pubkey
  feeDestination : Pubkey
  feeSource : Pubkey
  outputTokenAccount : Pubkey
  feeProgram : Pubkey
  feeMint : Pubkey

/-- A leg on the wire. Both counts are cut to their width. -/
def encodeLeg (leg : Leg) : List UInt8 :=
  leg.programId.bytes ++ [UInt8.ofNat leg.accounts.length]
    ++ ofUInt16 (UInt16.ofNat leg.data.length) ++ leg.data

/-- The metas every route starts with. -/
def fixedMetas [Pda] (programId : Pubkey) (accounts : RouteAccounts) : List AccountMeta :=
  [.new accounts.payer true, .newReadonly (configPda programId).1 false,
    .new accounts.feeDestination false, .new accounts.feeSource false,
    .new accounts.outputTokenAccount false, .newReadonly accounts.feeProgram false]

/-- The program of each leg, once. Programs already met are kept in an
array of the given size, and no more than fit are remembered. -/
def programMetas (capacity : ℕ) : List Leg → List Pubkey → List AccountMeta
  | [], _ => []
  | leg :: legs, seen =>
    if leg.programId ∈ seen then programMetas capacity legs seen
    else .newReadonly leg.programId false :: programMetas capacity legs
      (if seen.length < capacity then seen ++ [leg.programId] else seen)

/-- The metas with the mint of a Token-2022 fee at their end, unless it is
among them. -/
def appendFeeMint (metas : List AccountMeta) (accounts : RouteAccounts) :
    List AccountMeta :=
  if accounts.feeProgram = token2022Program
    ∧ ¬ metas.any (fun x => x.pubkey = accounts.feeMint) then
    metas ++ [.newReadonly accounts.feeMint false]
  else metas

/-- **A route with an explicit exact-out flag.** -/
def buildRouteInstructionEx [Pda] (programId : Pubkey) (accounts : RouteAccounts)
    (amountIn minAmountOut : UInt64) (feeAsset : UInt8) (exactOut : Bool)
    (expectedOutputMint : Pubkey) (legs : List Leg) : Instruction :=
  let feeAssetByte :=
    if exactOut then (feeAsset &&& 0x01) ||| feeAssetExactOut else feeAsset &&& 0x01
  let data := [tagRoute] ++ ofUInt64 amountIn ++ ofUInt64 minAmountOut ++ [feeAssetByte]
    ++ [UInt8.ofNat legs.length] ++ expectedOutputMint.bytes ++ legs.flatMap encodeLeg
  let metas := fixedMetas programId accounts ++ legs.flatMap Leg.accounts
    ++ programMetas 4 legs []
  ⟨programId, appendFeeMint metas accounts, data⟩

/-- **A static route**, over the accounts of its legs. -/
def buildRouteInstruction [Pda] (programId : Pubkey) (accounts : RouteAccounts)
    (amountIn minAmountOut : UInt64) (feeAsset : UInt8) (expectedOutputMint : Pubkey)
    (legs : List Leg) : Instruction :=
  buildRouteInstructionEx programId accounts amountIn minAmountOut feeAsset false
    expectedOutputMint legs

/-- The checks before a dynamic route is built. -/
def checkDynamicRoute (accounts : RouteAccounts) (intermediateTokenAccount : Pubkey)
    (amountIn intermediateMinOut minAmountOut : UInt64) (expectedOutputMint : Pubkey)
    (firstLeg secondLeg : Leg) : Result Unit := do
  bailIf (amountIn = 0 ∨ intermediateMinOut = 0 ∨ minAmountOut = 0)
    "dynamic route amounts must be positive"
  bailIf (expectedOutputMint = systemProgram)
    "dynamic route output must be a token mint; use WSOL for SOL settlement"
  bailIf (intermediateTokenAccount = accounts.feeSource
      ∨ intermediateTokenAccount = accounts.outputTokenAccount)
    "intermediate token account must differ from source and output"
  bailIf (!firstLeg.accounts.any
      (fun x => x.pubkey = intermediateTokenAccount && x.isWritable))
    "first leg must write to the intermediate token account"
  bailIf (firstLeg.accounts = [] ∨ firstLeg.accounts.length > 64
      ∨ secondLeg.accounts.length > 64)
    "dynamic route leg account count is invalid"
  validateDynamicLeg secondLeg accounts.payer intermediateTokenAccount
    accounts.outputTokenAccount false true
  bailIf (firstLeg.data.length > 65535 ∨ secondLeg.data.length > 65535)
    "dynamic route leg instruction data is too long"

/-- **What a dynamic route that passes the checks is like.** -/
structure DynamicRouteChecked (accounts : RouteAccounts) (intermediate : Pubkey)
    (amountIn intermediateMinOut minAmountOut : UInt64) (expectedOutputMint : Pubkey)
    (firstLeg secondLeg : Leg) : Prop where
  amounts : amountIn ≠ 0 ∧ intermediateMinOut ≠ 0 ∧ minAmountOut ≠ 0
  mint : expectedOutputMint ≠ systemProgram
  distinct : intermediate ≠ accounts.feeSource ∧ intermediate ≠ accounts.outputTokenAccount
  writes : ∃ x ∈ firstLeg.accounts, x.pubkey = intermediate ∧ x.isWritable = true
  counts : firstLeg.accounts ≠ [] ∧ firstLeg.accounts.length ≤ 64
    ∧ secondLeg.accounts.length ≤ 64
  second : ∃ layout, LegChecked secondLeg accounts.payer intermediate
    accounts.outputTokenAccount false true layout
  sizes : firstLeg.data.length ≤ 65535 ∧ secondLeg.data.length ≤ 65535

/-- A dynamic route that passed its checks meets them. -/
theorem checkDynamicRoute_ok {accounts : RouteAccounts} {intermediate : Pubkey}
    {amountIn intermediateMinOut minAmountOut : UInt64} {expectedOutputMint : Pubkey}
    {firstLeg secondLeg : Leg}
    (h : checkDynamicRoute accounts intermediate amountIn intermediateMinOut minAmountOut
      expectedOutputMint firstLeg secondLeg = .ok ()) :
    DynamicRouteChecked accounts intermediate amountIn intermediateMinOut minAmountOut
      expectedOutputMint firstLeg secondLeg := by
  unfold checkDynamicRoute at h
  simp only [bind_eq_ok, failIf_eq_ok] at h
  obtain ⟨_, hamounts, _, hmint, _, hdistinct, _, hwrites, _, hcounts, _, hsecond, hsizes⟩ := h
  simp only [not_or, gt_iff_lt, Nat.not_lt] at hamounts hdistinct hcounts hsizes
  refine {
    amounts := hamounts
    mint := hmint
    distinct := hdistinct
    writes := ?_
    counts := hcounts
    second := validateDynamicLeg_ok hsecond
    sizes := hsizes }
  simpa using hwrites

/-- **A route whose second leg spends what the first brought.** -/
def buildDynamicRouteInstruction [Pda] (programId : Pubkey) (accounts : RouteAccounts)
    (intermediateTokenAccount : Pubkey) (amountIn intermediateMinOut minAmountOut : UInt64)
    (expectedOutputMint : Pubkey) (firstLeg secondLeg : Leg) : Result Instruction := do
  checkDynamicRoute accounts intermediateTokenAccount amountIn intermediateMinOut
    minAmountOut expectedOutputMint firstLeg secondLeg
  let data := [tagRouteDynamic] ++ ofUInt64 amountIn ++ ofUInt64 minAmountOut
    ++ [feeAssetToken] ++ [2] ++ expectedOutputMint.bytes ++ ofUInt64 intermediateMinOut
    ++ [firstLeg, secondLeg].flatMap encodeLeg
  let metas := fixedMetas programId accounts ++ [.new intermediateTokenAccount false]
    ++ [firstLeg, secondLeg].flatMap Leg.accounts
    ++ [.newReadonly firstLeg.programId false]
    ++ (if secondLeg.programId ≠ firstLeg.programId
      then [.newReadonly secondLeg.programId false] else [])
  pure ⟨programId, appendFeeMint metas accounts, data⟩

/-- The checks before a three-hop dynamic route is built. -/
def checkThreeHopRoute (accounts : RouteAccounts)
    (firstIntermediate secondIntermediate : Pubkey)
    (amountIn firstMinOut secondMinOut minAmountOut : UInt64) (expectedOutputMint : Pubkey)
    (first middle last : Leg) : Result Unit := do
  bailIf (amountIn = 0 ∨ firstMinOut = 0 ∨ secondMinOut = 0 ∨ minAmountOut = 0)
    "dynamic three-hop route amounts must be positive"
  bailIf (expectedOutputMint = systemProgram)
    "dynamic route output must be a token mint; use WSOL for SOL settlement"
  bailIf (firstIntermediate = secondIntermediate
      ∨ firstIntermediate = accounts.feeSource
      ∨ firstIntermediate = accounts.outputTokenAccount
      ∨ secondIntermediate = accounts.feeSource
      ∨ secondIntermediate = accounts.outputTokenAccount)
    "dynamic intermediate token accounts must be distinct from source and output"
  bailIf ([first, middle, last].any (fun leg => leg.accounts = []
      ∨ leg.accounts.length > 64 ∨ leg.data = [] ∨ leg.data.length > 65535))
    "dynamic three-hop leg account count or data length is invalid"
  bailIf (!first.accounts.any (fun x => x.pubkey = firstIntermediate && x.isWritable)
      ∨ first.accounts.any (fun x => x.pubkey = secondIntermediate && x.isWritable))
    "first leg must write the first intermediate but not the second intermediate"
  validateDynamicLeg middle accounts.payer firstIntermediate secondIntermediate true false
  validateDynamicLeg last accounts.payer secondIntermediate accounts.outputTokenAccount
    true true

/-- **What a three-hop route that passes the checks is like.** -/
structure ThreeHopRouteChecked (accounts : RouteAccounts)
    (firstIntermediate secondIntermediate : Pubkey)
    (amountIn firstMinOut secondMinOut minAmountOut : UInt64) (expectedOutputMint : Pubkey)
    (first middle last : Leg) : Prop where
  amounts : amountIn ≠ 0 ∧ firstMinOut ≠ 0 ∧ secondMinOut ≠ 0 ∧ minAmountOut ≠ 0
  mint : expectedOutputMint ≠ systemProgram
  distinct : firstIntermediate ≠ secondIntermediate
    ∧ firstIntermediate ≠ accounts.feeSource
    ∧ firstIntermediate ≠ accounts.outputTokenAccount
    ∧ secondIntermediate ≠ accounts.feeSource
    ∧ secondIntermediate ≠ accounts.outputTokenAccount
  sizes : ∀ leg ∈ [first, middle, last], leg.accounts ≠ [] ∧ leg.accounts.length ≤ 64
    ∧ leg.data ≠ [] ∧ leg.data.length ≤ 65535
  writes : ∃ x ∈ first.accounts, x.pubkey = firstIntermediate ∧ x.isWritable = true
  spares : ∀ x ∈ first.accounts, x.pubkey = secondIntermediate → x.isWritable = false
  middle : ∃ layout, LegChecked middle accounts.payer firstIntermediate secondIntermediate
    true false layout
  last : ∃ layout, LegChecked last accounts.payer secondIntermediate
    accounts.outputTokenAccount true true layout

/-- And so does one over two intermediate accounts. -/
theorem checkThreeHopRoute_ok {accounts : RouteAccounts}
    {firstIntermediate secondIntermediate : Pubkey}
    {amountIn firstMinOut secondMinOut minAmountOut : UInt64} {expectedOutputMint : Pubkey}
    {first middle last : Leg}
    (h : checkThreeHopRoute accounts firstIntermediate secondIntermediate amountIn
      firstMinOut secondMinOut minAmountOut expectedOutputMint first middle last = .ok ()) :
    ThreeHopRouteChecked accounts firstIntermediate secondIntermediate amountIn firstMinOut
      secondMinOut minAmountOut expectedOutputMint first middle last := by
  unfold checkThreeHopRoute at h
  simp only [bind_eq_ok, failIf_eq_ok] at h
  obtain ⟨_, hamounts, _, hmint, _, hdistinct, _, hsizes, _, hwrites, _, hmiddle, hlast⟩ := h
  simp only [not_or] at hamounts hdistinct hwrites
  refine {
    amounts := hamounts
    mint := hmint
    distinct := hdistinct
    sizes := ?_
    writes := ?_
    spares := ?_
    middle := validateDynamicLeg_ok hmiddle
    last := validateDynamicLeg_ok hlast }
  · intro leg hleg
    have hone : ¬ (leg.accounts = [] ∨ leg.accounts.length > 64 ∨ leg.data = []
        ∨ leg.data.length > 65535) := fun hbad =>
      hsizes (List.any_eq_true.mpr ⟨leg, hleg, decide_eq_true hbad⟩)
    simp only [not_or, gt_iff_lt, Nat.not_lt] at hone
    exact hone
  · simpa using hwrites.1
  · simpa using hwrites.2

/-- **A three-hop route.** With `spendActualOutput` each later leg spends
what the leg before it brought; without it, the static format is used and
each leg encodes its own input. -/
def buildThreeHopRouteInstruction [Pda] (programId : Pubkey) (accounts : RouteAccounts)
    (firstIntermediate secondIntermediate : Pubkey)
    (amountIn firstMinOut secondMinOut minAmountOut : UInt64) (expectedOutputMint : Pubkey)
    (legs : List Leg) (spendActualOutput : Bool) : Result Instruction :=
  match legs with
  | [first, middle, last] =>
    if !spendActualOutput then
      pure (buildRouteInstructionEx programId accounts amountIn minAmountOut feeAssetToken
        false expectedOutputMint legs)
    else do
      checkThreeHopRoute accounts firstIntermediate secondIntermediate amountIn firstMinOut
        secondMinOut minAmountOut expectedOutputMint first middle last
      let data := [tagRouteDynamicThree] ++ ofUInt64 amountIn ++ ofUInt64 minAmountOut
        ++ [feeAssetToken] ++ [3] ++ expectedOutputMint.bytes ++ ofUInt64 firstMinOut
        ++ ofUInt64 secondMinOut ++ legs.flatMap encodeLeg
      let metas := fixedMetas programId accounts
        ++ [.new firstIntermediate false, .new secondIntermediate false]
        ++ legs.flatMap Leg.accounts ++ programMetas 3 legs []
      pure ⟨programId, appendFeeMint metas accounts, data⟩
  | _ => bail "three-hop route requires exactly three legs"

end Sdk
