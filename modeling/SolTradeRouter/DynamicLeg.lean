import Mathlib.Data.UInt
import SolTradeRouter.Ledger
import SolTradeRouter.SwapKind

/-!
# Legs that spend what the leg before them brought

The on-chain program's own table of the swaps a dynamic route can chain,
the check of a leg's accounts against it, and the arithmetic of a route's
amounts: what an intermediate account received, the patch that writes it
into the next leg's data, and the platform fee.

`dynamicSecondLeg_eq` says that the table computes `SwapKind.recognize`,
without a panic.
-/

namespace Program

open Outcome Bytes

/-! ## The table -/

def launchlabProgramId : Address :=
  .ofBytes [5, 4, 59, 149, 77, 202, 38, 225, 239, 145, 181, 44, 79, 143, 137, 175,
    138, 111, 90, 200, 198, 33, 86, 241, 113, 207, 15, 33, 172, 81, 201, 34] rfl

def raydiumCpmmProgramId : Address :=
  .ofBytes [169, 42, 90, 139, 79, 41, 89, 82, 132, 37, 80, 170, 147, 253, 91, 149,
    181, 172, 230, 168, 235, 146, 12, 147, 148, 46, 67, 105, 12, 32, 236, 115] rfl

def meteoraDlmmProgramId : Address :=
  .ofBytes [4, 233, 225, 47, 188, 132, 232, 38, 201, 50, 204, 233, 226, 100, 12,
    206, 21, 89, 12, 28, 98, 115, 176, 146, 87, 8, 186, 59, 133, 32, 176, 188] rfl

def raydiumAmmV4ProgramId : Address :=
  .ofBytes [75, 217, 73, 196, 54, 2, 195, 63, 32, 119, 144, 237, 22, 163, 82, 76,
    161, 185, 151, 92, 241, 33, 162, 169, 12, 255, 236, 125, 248, 182, 138,
    205] rfl

def raydiumClmmProgramId : Address :=
  .ofBytes [165, 213, 202, 158, 4, 207, 93, 181, 144, 183, 20, 186, 47, 227, 44,
    177, 89, 19, 63, 193, 193, 146, 183, 34, 87, 253, 7, 211, 156, 176, 64, 30] rfl

def meteoraDammV2ProgramId : Address :=
  .ofBytes [9, 45, 33, 53, 101, 122, 21, 156, 43, 135, 212, 182, 106, 112, 219,
    142, 151, 82, 56, 159, 247, 106, 175, 32, 108, 237, 6, 58, 56, 249, 90,
    237] rfl

def orcaWhirlpoolProgramId : Address :=
  .ofBytes [14, 3, 104, 95, 142, 144, 144, 83, 228, 88, 18, 28, 102, 245, 167, 106,
    237, 199, 112, 106, 161, 28, 130, 248, 170, 149, 42, 143, 43, 120, 121,
    169] rfl

def pumpswapProgramId : Address :=
  .ofBytes [12, 20, 222, 252, 130, 94, 198, 118, 148, 37, 8, 24, 187, 101, 64, 101,
    244, 41, 141, 49, 86, 213, 113, 180, 212, 248, 9, 12, 24, 233, 168, 99] rfl

def launchlabBuyExactIn : List UInt8 := [250, 234, 13, 123, 213, 156, 19, 236]
def cpmmSwapBaseIn : List UInt8 := [143, 190, 90, 218, 196, 30, 51, 222]
def pumpswapSell : List UInt8 := [51, 230, 133, 164, 1, 127, 131, 173]
def pumpswapBuyExactQuoteIn : List UInt8 := [198, 46, 21, 82, 180, 217, 232, 112]
def meteoraDlmmSwap2 : List UInt8 := [65, 75, 63, 76, 235, 91, 91, 136]
def clmmSwapV2 : List UInt8 := [43, 4, 237, 11, 26, 201, 30, 98]

/-- `usize::MAX`, for an account the leg does not list. -/
def noAccount : ℕ := 2 ^ 64 - 1

/-- The longest data of a leg whose amount is written in. -/
def maxDynamicLegData : ℕ := 49

/-- **The positions of a leg's accounts**, as the program keeps them. -/
structure DynamicSecondLeg where
  inputAccount : ℕ
  outputAccount : ℕ
  signer : ℕ
  amountOffset : ℕ
  inputMint : ℕ
  inputProgram : ℕ
  outputMint : ℕ
  outputProgram : ℕ
  pairedMints : Bool
  deriving DecidableEq, Repr

/-- The tail of a Whirlpool's data says which tick arrays follow. -/
def validWhirlpoolRemainingAccounts (data : List UInt8) : Read Bool :=
  anyOf [
    allOf [.ok (data.length = 43), indexIs data 42 (· = 0)],
    allOf [.ok (data.length = 49), sliceIs data 42 48 [1, 1, 0, 0, 0, 6],
      indexIs data 48 (fun n => 1 ≤ n ∧ n ≤ 3)]]

/-- The branches of the table, each a condition and the layout it yields. -/
def dynamicBranches (programId : Address) (data : List UInt8) :
    List (Read Bool × Read DynamicSecondLeg) :=
  [ (allOf [.ok (programId = launchlabProgramId), .ok (data.length = 32),
        sliceIs data 0 8 launchlabBuyExactIn,
        sliceIs data 24 32 (List.replicate 8 0)],
      .ok {
        inputAccount := 6
        outputAccount := 5
        signer := 0
        amountOffset := 8
        inputMint := 10
        inputProgram := 12
        outputMint := 9
        outputProgram := 11
        pairedMints := false }),
    (allOf [.ok (programId = raydiumCpmmProgramId), .ok (data.length = 24),
        sliceIs data 0 8 cpmmSwapBaseIn],
      .ok {
        inputAccount := 4
        outputAccount := 5
        signer := 0
        amountOffset := 8
        inputMint := 10
        inputProgram := 8
        outputMint := 11
        outputProgram := 9
        pairedMints := false }),
    (allOf [.ok (programId = pumpswapProgramId), .ok (data.length = 25),
        sliceIs data 0 8 pumpswapBuyExactQuoteIn, indexIs data 24 (· ≤ 1)],
      .ok {
        inputAccount := 6
        outputAccount := 5
        signer := 1
        amountOffset := 8
        inputMint := 4
        inputProgram := 12
        outputMint := 3
        outputProgram := 11
        pairedMints := false }),
    (allOf [.ok (programId = pumpswapProgramId), .ok (data.length = 24),
        sliceIs data 0 8 pumpswapSell],
      -- PumpSwap sell spends base exactly and receives quote.
      .ok {
        inputAccount := 5
        outputAccount := 6
        signer := 1
        amountOffset := 8
        inputMint := 3
        inputProgram := 11
        outputMint := 4
        outputProgram := 12
        pairedMints := false }),
    (allOf [.ok (programId = raydiumAmmV4ProgramId), .ok (data.length = 17),
        indexIs data 0 (· = 16)],
      .ok {
        inputAccount := 5
        outputAccount := 6
        signer := 7
        amountOffset := 1
        inputMint := noAccount
        inputProgram := 0
        outputMint := noAccount
        outputProgram := 0
        pairedMints := false }),
    (allOf [.ok (programId = raydiumClmmProgramId), .ok (data.length = 41),
        sliceIs data 0 8 clmmSwapV2, indexIs data 40 (· = 1)],
      .ok {
        inputAccount := 3
        outputAccount := 4
        signer := 0
        amountOffset := 8
        inputMint := 11
        inputProgram := noAccount
        outputMint := 12
        outputProgram := noAccount
        pairedMints := false }),
    (allOf [.ok (programId = meteoraDlmmProgramId), .ok (data.length = 28),
        sliceIs data 0 8 meteoraDlmmSwap2, sliceIs data 24 28 (List.replicate 4 0)],
      .ok {
        inputAccount := 4
        outputAccount := 5
        signer := 10
        amountOffset := 8
        inputMint := 6
        inputProgram := 11
        outputMint := 7
        outputProgram := 12
        pairedMints := true }),
    (allOf [.ok (programId = meteoraDammV2ProgramId), .ok (data.length = 25),
        sliceIs data 0 8 meteoraDlmmSwap2, indexIs data 24 (· = 0)],
      .ok {
        inputAccount := 2
        outputAccount := 3
        signer := 8
        amountOffset := 8
        inputMint := 6
        inputProgram := 9
        outputMint := 7
        outputProgram := 10
        pairedMints := true }),
    (allOf [.ok (programId = orcaWhirlpoolProgramId),
        validWhirlpoolRemainingAccounts data, sliceIs data 0 8 clmmSwapV2,
        indexIs data 40 (· = 1), indexIs data 41 (· ≤ 1)],
      do
        let aToB ← indexIs data 41 (· = 1)
        pure {
          inputAccount := if aToB then 7 else 9
          outputAccount := if aToB then 9 else 7
          signer := 3
          amountOffset := 8
          inputMint := if aToB then 5 else 6
          inputProgram := if aToB then 0 else 1
          outputMint := if aToB then 6 else 5
          outputProgram := if aToB then 1 else 0
          pairedMints := false }) ]

/-- **The layout of a leg that spends another leg's proceeds.** -/
def dynamicSecondLeg (programId : Address) (data : List UInt8) : Read DynamicSecondLeg :=
  firstOf (dynamicBranches programId data) (reject .invalidDynamicLeg)

/-! ## The table is the abstract one -/

/-- The program's record of an abstract layout. -/
def DynamicSecondLeg.ofLayout (s : SwapLayout) : DynamicSecondLeg where
  inputAccount := s.input
  outputAccount := s.output
  signer := s.signer
  amountOffset := s.amountOffset
  inputMint := s.inputMint.getD noAccount
  inputProgram := s.inputProgram.getD noAccount
  outputMint := s.outputMint.getD noAccount
  outputProgram := s.outputProgram.getD noAccount
  pairedMints := s.paired

/-- Reading the tail decides its shape, and does not panic. -/
theorem validWhirlpoolRemainingAccounts_eq (data : List UInt8) :
    validWhirlpoolRemainingAccounts data = .ok (decide (SwapKind.WhirlpoolTail data)) :=
  anyOf_cons (SwapKind.shortTail_eq data) fun _ => anyOf_single (SwapKind.longTail_eq data)

/-- **Each branch is a kind**: its condition is the kind's, and its layout
the kind's layout. -/
theorem dynamicBranches_eq (programId : Address) (data : List UInt8) :
    List.Forall₂
      (fun (k : SwapKind) b => b.1 = .ok (decide (k.Accepts programId data))
        ∧ (k.Accepts programId data → b.2 = .ok (.ofLayout (k.layout data))))
      SwapKind.all (dynamicBranches programId data) := by
  have hcond := @SwapKind.condition_eq ProgramError _ programId data
    (validWhirlpoolRemainingAccounts_eq data)
  refine .cons ⟨hcond .launchlabBuy, fun _ => rfl⟩ (.cons ⟨hcond .cpmm, fun _ => rfl⟩
    (.cons ⟨hcond .pumpswapBuy, fun _ => rfl⟩ (.cons ⟨hcond .pumpswapSell, fun _ => rfl⟩
    (.cons ⟨hcond .ammV4, fun _ => rfl⟩ (.cons ⟨hcond .clmm, fun _ => rfl⟩
    (.cons ⟨hcond .dlmm, fun _ => rfl⟩ (.cons ⟨hcond .damm, fun _ => rfl⟩
    (.cons ⟨hcond .whirlpool, ?_⟩ .nil))))))))
  rintro ⟨-, htail, -⟩
  have hlen := htail.length_eq
  dsimp only
  rw [indexIs_eq_of_lt (by omega), ok_bind]
  show Except.ok _ = Except.ok _
  rw [Except.ok.injEq, SwapKind.layout]
  by_cases hdir : data[41]? = some 1 <;> simp [DynamicSecondLeg.ofLayout, SwapKind.aToB, hdir]

/-- **The table computes the kind of a leg**, and yields its layout. -/
theorem dynamicSecondLeg_eq (programId : Address) (data : List UInt8) :
    dynamicSecondLeg programId data
      = (SwapKind.recognize programId data).elim
        (reject .invalidDynamicLeg)
        (fun k => .ok (DynamicSecondLeg.ofLayout (k.layout data))) :=
  firstOf_eq_find? (dynamicBranches_eq programId data)

/-- **A leg is accepted exactly when it is of some kind.** -/
theorem dynamicSecondLeg_eq_ok {programId : Address} {data : List UInt8}
    {layout : DynamicSecondLeg} :
    dynamicSecondLeg programId data = .ok layout ↔
      ∃ k : SwapKind, k.Accepts programId data ∧ layout = .ofLayout (k.layout data) := by
  rw [dynamicSecondLeg_eq]
  exact SwapKind.elim_recognize_eq_ok fun _ => fail_ne_ok

/-! ## The accounts of a leg -/

/-- **The leg's accounts are those of the route**: the user signs, the
input and the output are writable and stand where the layout says, and the
mints and token programs the leg lists are those of the two accounts. -/
def validateDynamicAccounts (l : Ledger) (layout : DynamicSecondLeg)
    (legAccounts : List AccountView) (user input output : AccountView) : Read Unit := do
  let required := [layout.inputAccount, layout.outputAccount, layout.signer,
    layout.inputMint, layout.inputProgram, layout.outputMint, layout.outputProgram]
  let misplaced ← anyOf [
    .ok (required.any (fun i => i ≠ noAccount && i ≥ legAccounts.length)),
    indexIs legAccounts layout.signer (·.address ≠ user.address),
    indexIs legAccounts layout.signer (!·.isSigner),
    indexIs legAccounts layout.inputAccount (·.address ≠ input.address),
    indexIs legAccounts layout.inputAccount (!·.isWritable),
    indexIs legAccounts layout.outputAccount (·.address ≠ output.address),
    indexIs legAccounts layout.outputAccount (!·.isWritable)]
  rejectIf misplaced .invalidDynamicLeg
  let inputMint ← tokenMint l input
  let outputMint ← tokenMint l output
  if layout.pairedMints then do
    let forward ← allOf [
      indexIs legAccounts layout.inputMint (·.address = inputMint),
      indexIs legAccounts layout.outputMint (·.address = outputMint),
      indexIs legAccounts layout.inputProgram (·.address = input.owner l),
      indexIs legAccounts layout.outputProgram (·.address = output.owner l)]
    let reverse ← allOf [
      indexIs legAccounts layout.outputMint (·.address = inputMint),
      indexIs legAccounts layout.inputMint (·.address = outputMint),
      indexIs legAccounts layout.outputProgram (·.address = input.owner l),
      indexIs legAccounts layout.inputProgram (·.address = output.owner l)]
    rejectIf (!forward && !reverse) .invalidDynamicLeg
  else do
    let mismatched ← anyOf [
      allOf [.ok (layout.inputMint ≠ noAccount),
        indexIs legAccounts layout.inputMint (·.address ≠ inputMint)],
      allOf [.ok (layout.outputMint ≠ noAccount),
        indexIs legAccounts layout.outputMint (·.address ≠ outputMint)],
      allOf [.ok (layout.inputProgram ≠ noAccount),
        indexIs legAccounts layout.inputProgram (·.address ≠ input.owner l)],
      allOf [.ok (layout.outputProgram ≠ noAccount),
        indexIs legAccounts layout.outputProgram (·.address ≠ output.owner l)]]
    rejectIf mismatched .invalidDynamicLeg

/-- A list of accounts has, at a position, an address with a privilege. -/
def Presents (accounts : List AccountView) (i : ℕ) (k : Address)
    (privilege : AccountView → Bool) : Prop :=
  ∃ x, accounts[i]? = some x ∧ x.address = k ∧ privilege x = true

section

variable {accounts : List AccountView} {i : ℕ} {k : Address}

/-- The addresses of the accounts, compared in range. -/
theorem indexIs_address (hi : i < accounts.length) :
    (indexIs accounts i (fun x => decide (x.address = k)) : Read Bool)
      = .ok (decide ((accounts.map AccountView.address)[i]? = some k)) := by
  rw [indexIs_of_lt hi, List.getElem?_map, List.getElem?_eq_getElem hi]
  simp

/-- Two addresses are compared by the accounts' own. -/
theorem indexIs_address_ne (hi : i < accounts.length) :
    (indexIs accounts i (fun x => decide (x.address ≠ k)) : Read Bool)
      = .ok (decide ((accounts.map AccountView.address)[i]? ≠ some k)) := by
  rw [indexIs_of_lt hi, List.getElem?_map, List.getElem?_eq_getElem hi]
  simp

/-- Both tests of a position pass. -/
theorem Presents.tests {privilege : AccountView → Bool}
    (h : Presents accounts i k privilege) :
    (indexIs accounts i (fun x => decide (x.address ≠ k)) : Read Bool) = .ok false
      ∧ (indexIs accounts i (fun x => !privilege x) : Read Bool) = .ok false := by
  obtain ⟨x, hx, hk, hp⟩ := h
  exact ⟨indexIs_eq_ok.mpr ⟨x, hx, by simp [hk]⟩, indexIs_eq_ok.mpr ⟨x, hx, by simp [hp]⟩⟩

/-- A mint or a program is compared only where the leg lists one. -/
theorem test_position {o : Option ℕ} (hlt : ∀ j ∈ o, j < accounts.length)
    (hsmall : accounts.length < noAccount)
    (h : ∀ j ∈ o, (accounts.map AccountView.address)[j]? = some k) :
    allOf [.ok (decide (o.getD noAccount ≠ noAccount)),
      indexIs accounts (o.getD noAccount) (fun x => decide (x.address ≠ k))]
      = (.ok false : Read Bool) := by
  cases o with
  | none => rfl
  | some j =>
    have hj := hlt j rfl
    have hne : j ≠ noAccount := by omega
    show allOf [.ok (decide (j ≠ noAccount)), indexIs accounts j _] = _
    rw [indexIs_address_ne hj, h j rfl]
    simp [allOf, hne]

end

/-- **What the program requires of a leg's accounts**, in terms of the kind
of swap it is. -/
structure AccountsMatch (l : Ledger) (layout : SwapLayout) (legAccounts : List AccountView)
    (user input output : AccountView) (inputMint outputMint : Address) : Prop where
  positions : ∀ i ∈ layout.positions, i < legAccounts.length
  signs : Presents legAccounts layout.signer user.address AccountView.isSigner
  spends : Presents legAccounts layout.input input.address AccountView.isWritable
  receives : Presents legAccounts layout.output output.address AccountView.isWritable
  inputMint_eq : tokenMint l input = .ok inputMint
  outputMint_eq : tokenMint l output = .ok outputMint
  agrees : layout.Agrees (legAccounts.map AccountView.address) inputMint (input.owner l)
    outputMint (output.owner l)

/-- Four addresses compared in range: no test panics, and all pass exactly
when each does. -/
theorem allOf_addresses {accounts : List AccountView} {i j p q : ℕ} {a b c d : Address}
    (hi : i < accounts.length) (hj : j < accounts.length) (hp : p < accounts.length)
    (hq : q < accounts.length) :
    ∃ r : Bool, allOf [
        indexIs accounts i (fun x => decide (x.address = a)),
        indexIs accounts j (fun x => decide (x.address = b)),
        indexIs accounts p (fun x => decide (x.address = c)),
        indexIs accounts q (fun x => decide (x.address = d))] = (.ok r : Read Bool)
      ∧ (r = true ↔ (accounts.map AccountView.address)[i]? = some a
        ∧ (accounts.map AccountView.address)[j]? = some b
        ∧ (accounts.map AccountView.address)[p]? = some c
        ∧ (accounts.map AccountView.address)[q]? = some d) :=
  ⟨_, allOf_cons (indexIs_address hi) fun _ => allOf_cons (indexIs_address hj) fun _ =>
    allOf_cons (indexIs_address hp) fun _ => allOf_single (indexIs_address hq),
    decide_eq_true_iff⟩

/-- **The checks accept what `AccountsMatch` describes.** -/
theorem validateDynamicAccounts_ok {l : Ledger} {k : SwapKind} {data : List UInt8}
    {legAccounts : List AccountView} {user input output : AccountView}
    {inputMint outputMint : Address} (hsmall : legAccounts.length < noAccount)
    (h : AccountsMatch l (k.layout data) legAccounts user input output inputMint
      outputMint) :
    validateDynamicAccounts l (.ofLayout (k.layout data)) legAccounts user input output
      = .ok () := by
  set s := k.layout data with hs
  have hpos {o : Option ℕ} (ho : ∀ j ∈ o, j ∈ s.positions) : ∀ j ∈ o,
      j < legAccounts.length := fun j hj => h.positions j (ho j hj)
  have him := hpos (o := s.inputMint) fun j hj =>
    SwapLayout.mem_positions.mpr (.inr (.inr (.inr (.inl hj))))
  have hip := hpos (o := s.inputProgram) fun j hj =>
    SwapLayout.mem_positions.mpr (.inr (.inr (.inr (.inr (.inl hj)))))
  have hom := hpos (o := s.outputMint) fun j hj =>
    SwapLayout.mem_positions.mpr (.inr (.inr (.inr (.inr (.inr (.inl hj))))))
  have hop := hpos (o := s.outputProgram) fun j hj =>
    SwapLayout.mem_positions.mpr (.inr (.inr (.inr (.inr (.inr (.inr hj))))))
  refine bind_eq_ok.mpr ⟨false, ?_, bind_eq_ok.mpr ⟨(), failIf_eq_ok.mpr (by simp),
    bind_eq_ok.mpr ⟨_, h.inputMint_eq, bind_eq_ok.mpr ⟨_, h.outputMint_eq, ?_⟩⟩⟩⟩
  · rw [anyOf_eq_false]
    simp only [List.forall_mem_cons, List.not_mem_nil, false_implies, implies_true, and_true]
    refine ⟨?_, h.signs.tests.1, h.signs.tests.2, h.spends.tests.1, h.spends.tests.2,
      h.receives.tests.1, h.receives.tests.2⟩
    rw [Except.ok.injEq]
    have hsome {i : ℕ} (hi : i ∈ s.positions) :
        (i ≠ noAccount && i ≥ legAccounts.length) = false := by
      have hlt := h.positions i hi
      simp [hlt]
    have hopt {o : Option ℕ} (ho : ∀ j ∈ o, j < legAccounts.length) :
        (o.getD noAccount ≠ noAccount && o.getD noAccount ≥ legAccounts.length) = false := by
      cases o with
      | none => simp
      | some j => simp [ho j rfl]
    simp only [DynamicSecondLeg.ofLayout, List.any_cons, List.any_nil, hopt him, hopt hip,
      hopt hom, hopt hop, hsome (SwapLayout.mem_positions.mpr (.inl rfl)),
      hsome (SwapLayout.mem_positions.mpr (.inr (.inl rfl))),
      hsome (SwapLayout.mem_positions.mpr (.inr (.inr (.inl rfl)))), Bool.or_false]
  · by_cases hpaired : s.paired = true
    · obtain ⟨hsim, hsip, hsom, hsop⟩ := SwapKind.isSome_of_paired hpaired
      obtain ⟨im, hsim⟩ := Option.isSome_iff_exists.mp hsim
      obtain ⟨ip, hsip⟩ := Option.isSome_iff_exists.mp hsip
      obtain ⟨om, hsom⟩ := Option.isSome_iff_exists.mp hsom
      obtain ⟨op, hsop⟩ := Option.isSome_iff_exists.mp hsop
      rw [← hs] at hsim hsip hsom hsop
      obtain ⟨forward, hforward, hf⟩ := allOf_addresses (a := inputMint) (b := outputMint)
        (c := input.owner l) (d := output.owner l) (him im hsim) (hom om hsom) (hip ip hsip)
        (hop op hsop)
      obtain ⟨reverse, hreverse, hr⟩ := allOf_addresses (a := inputMint) (b := outputMint)
        (c := input.owner l) (d := output.owner l) (hom om hsom) (him im hsim) (hop op hsop)
        (hip ip hsip)
      have heither : forward = true ∨ reverse = true := by
        rcases h.agrees with hd | ⟨-, hd⟩
        · exact .inl (hf.mpr ⟨hd.1 im hsim, hd.2.1 om hsom, hd.2.2.1 ip hsip,
            hd.2.2.2 op hsop⟩)
        · exact .inr (hr.mpr ⟨hd.2.1 om hsom, hd.1 im hsim, hd.2.2.2 op hsop,
            hd.2.2.1 ip hsip⟩)
      show (if s.paired = true then _ else _) = _
      rw [if_pos hpaired]
      simp only [DynamicSecondLeg.ofLayout, hsim, hsip, hsom, hsop, Option.getD_some]
      refine bind_eq_ok.mpr ⟨forward, hforward, bind_eq_ok.mpr ⟨reverse, hreverse,
        failIf_eq_ok.mpr ?_⟩⟩
      rcases heither with hb | hb <;> simp [hb]
    · have hagrees : s.Forward (legAccounts.map AccountView.address) inputMint
          (input.owner l) outputMint (output.owner l) :=
        h.agrees.resolve_right fun hr => hpaired hr.1
      show (if s.paired = true then _ else _) = _
      rw [if_neg hpaired]
      refine bind_eq_ok.mpr ⟨false, ?_, failIf_eq_ok.mpr (by simp)⟩
      rw [anyOf_eq_false]
      simp only [List.forall_mem_cons, List.not_mem_nil, false_implies, implies_true,
        and_true]
      exact ⟨test_position him hsmall hagrees.1, test_position hom hsmall hagrees.2.1,
        test_position hip hsmall hagrees.2.2.1, test_position hop hsmall hagrees.2.2.2⟩

/-! ## Amounts -/

/-- What an intermediate account received. -/
def receivedQuote (before after minimum : UInt64) : Read UInt64 := do
  let received ← okOrReject (if before ≤ after then some (after - before) else none)
    .invalidIntermediateAccount
  rejectIf (received < minimum) .slippageExceeded
  pure received

/-- The leg's data with the amount written at its offset, built in a
buffer of a fixed length. -/
def patchSecondLegAmount (data : List UInt8) (amount : UInt64) (offset : ℕ)
    (patched : List UInt8) : Read (List UInt8) := do
  let patched ← copyInto patched 0 data
  let patched ← copyInto patched offset (ofUInt64 amount)
  slice patched 0 data.length

/-- Two bytes, little endian. -/
def readU16 (data : List UInt8) (offset : ℕ) : Read UInt16 := do
  let stop ← usizeAdd offset 2
  let bytes ← okOrReject (range? data offset stop) .invalidInstructionData
  pure (toUInt16 bytes)

/-- Eight bytes, little endian. -/
def readU64 (data : List UInt8) (offset : ℕ) : Read UInt64 := do
  let stop ← usizeAdd offset 8
  let bytes ← okOrReject (range? data offset stop) .invalidInstructionData
  pure (toUInt64 bytes)

/-- The platform fee, computed in 128 bits. -/
def checkedFee (amountIn : UInt64) (feeBps : UInt16) : Read UInt64 :=
  if feeBps = 0 then .ok 0
  else
    let fee := amountIn.toNat * feeBps.toNat / 10000
    if fee < 2 ^ 64 then .ok (UInt64.ofNat fee) else reject .arithmeticOverflow

/-- **What was received is the exact difference**, and reaches the minimum. -/
theorem receivedQuote_eq_ok {before after minimum received : UInt64} :
    receivedQuote before after minimum = .ok received ↔
      before ≤ after ∧ received = after - before ∧ minimum ≤ received := by
  unfold receivedQuote
  by_cases h : before ≤ after
  · simp only [h, if_true, okOr_some, ok_bind, bind_eq_ok, failIf_eq_ok, pure_eq_ok,
      UInt64.not_lt, true_and]
    constructor
    · rintro ⟨_, hmin, rfl⟩
      exact ⟨rfl, hmin⟩
    · rintro ⟨rfl, hmin⟩
      exact ⟨(), hmin, rfl⟩
  · simp only [h, if_false, false_and, iff_false]
    exact fun hx => by cases hx

/-- **The patch changes the eight bytes at the offset, and nothing else**,
not even the length. -/
theorem patchSecondLegAmount_eq_ok {data patched out : List UInt8} {amount : UInt64}
    {offset : ℕ} (h : patchSecondLegAmount data amount offset patched = .ok out)
    (hfit : offset + 8 ≤ data.length) :
    out.length = data.length ∧ ∀ i, out[i]? =
      if offset ≤ i ∧ i < offset + 8 then (ofUInt64 amount)[i - offset]? else data[i]? := by
  unfold patchSecondLegAmount at h
  simp only [bind_eq_ok, slice_eq_ok] at h
  obtain ⟨copied, hcopy, written, hwrite, hslice⟩ := h
  have hlen : out.length = data.length := by
    rw [length_of_range? hslice, Nat.sub_zero]
  refine ⟨hlen, fun i => ?_⟩
  obtain ⟨pre, post, hsplit, hpre, -⟩ := range?_eq_some_iff.mp hslice
  rw [List.length_eq_zero_iff] at hpre
  subst hpre
  rw [List.nil_append] at hsplit
  rcases Nat.lt_or_ge i data.length with hi | hi
  · have hout : out[i]? = written[i]? := by
      rw [hsplit, List.getElem?_append_left (by omega)]
    rw [hout, getElem?_of_copyInto hwrite, length_ofUInt64, getElem?_of_copyInto hcopy]
    simp only [Nat.zero_le, true_and, Nat.zero_add, Nat.sub_zero, hi, if_true]
  · rw [List.getElem?_eq_none (by omega), List.getElem?_eq_none hi, if_neg (by omega)]

/-- The patch of data that fits the buffer succeeds. -/
theorem patchSecondLegAmount_ok {data patched : List UInt8} {amount : UInt64} {offset : ℕ}
    (hfit : offset + 8 ≤ data.length) (hbuf : data.length ≤ patched.length) :
    ∃ out, patchSecondLegAmount data amount offset patched = .ok out := by
  obtain ⟨copied, hcopy, hcopied⟩ := @copyInto_ok ProgramError _ patched data 0
    (by omega)
  obtain ⟨written, hwrite, hwritten⟩ := @copyInto_ok ProgramError _ copied
    (ofUInt64 amount) offset (by rw [length_ofUInt64]; omega)
  refine ⟨(written.drop 0).take (data.length - 0), ?_⟩
  unfold patchSecondLegAmount
  rw [hcopy, ok_bind, hwrite, ok_bind, slice, range?_of_le (Nat.zero_le _) (by omega),
    orPanic_some]

/-- Eight bytes that are there are the number they encode. -/
theorem readU64_eq_ok {data : List UInt8} {offset : ℕ} {n : UInt64} :
    readU64 data offset = .ok n ↔ offset + 8 < 2 ^ 64
      ∧ ∃ bytes, range? data offset (offset + 8) = some bytes ∧ toUInt64 bytes = n := by
  simp only [readU64, bind_eq_ok, usizeAdd_eq_ok, okOr_eq_ok, pure_eq_ok, and_assoc,
    exists_and_left, exists_eq_left']

/-- And so are two. -/
theorem readU16_eq_ok {data : List UInt8} {offset : ℕ} {n : UInt16} :
    readU16 data offset = .ok n ↔ offset + 2 < 2 ^ 64
      ∧ ∃ bytes, range? data offset (offset + 2) = some bytes ∧ toUInt16 bytes = n := by
  simp only [readU16, bind_eq_ok, usizeAdd_eq_ok, okOr_eq_ok, pure_eq_ok, and_assoc,
    exists_and_left, exists_eq_left']

/-- **The fee is the floor of the proportional share.** -/
theorem checkedFee_eq_ok {amountIn fee : UInt64} {feeBps : UInt16}
    (h : checkedFee amountIn feeBps = .ok fee) :
    fee.toNat = amountIn.toNat * feeBps.toNat / 10000 := by
  unfold checkedFee at h
  split at h
  · rename_i hz
    cases h
    simp [hz]
  · dsimp only at h
    split at h
    · rename_i hlt
      cases h
      exact UInt64.toNat_ofNat_of_lt' hlt
    · cases h

/-- The fee of a rate up to 100% is computed, and is at most the amount. -/
theorem checkedFee_ok {amountIn : UInt64} {feeBps : UInt16} (h : feeBps.toNat ≤ 10000) :
    ∃ fee, checkedFee amountIn feeBps = .ok fee ∧ fee ≤ amountIn := by
  have hle : amountIn.toNat * feeBps.toNat / 10000 ≤ amountIn.toNat := by
    have hmul : amountIn.toNat * feeBps.toNat ≤ amountIn.toNat * 10000 :=
      Nat.mul_le_mul_left _ h
    omega
  have hlt : amountIn.toNat * feeBps.toNat / 10000 < 2 ^ 64 :=
    Nat.lt_of_le_of_lt hle amountIn.toNat_lt
  by_cases hz : feeBps = 0
  · exact ⟨0, by rw [checkedFee, if_pos hz], UInt64.zero_le⟩
  · refine ⟨UInt64.ofNat (amountIn.toNat * feeBps.toNat / 10000), ?_, ?_⟩
    · rw [checkedFee, if_neg hz]
      exact if_pos hlt
    · rw [UInt64.le_iff_toNat_le, UInt64.toNat_ofNat_of_lt' hlt]
      exact hle

end Program
