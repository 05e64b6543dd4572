import SolTradeRouter.Instructions
import SolTradeRouter.Raised

/-!
# The program does not panic

Every index, slice, copy and addition of the program panics in this model
when it is out of range, and so does a call built from a buffer with an
entry that was never written. None of them happens, whatever the bytes and
the accounts of the instruction are, and whatever the calls do: an
instruction returns, or it stops with an error.

Instruction data is a Rust slice, and no slice is longer than
`isize::MAX` bytes. That bound is the one hypothesis: it is what keeps the
additions to the parser's cursor from overflowing.
-/

namespace Program

open Outcome Bytes

/-- `isize::MAX`, the length no slice exceeds. -/
def isizeMax : ℕ := 2 ^ 63 - 1

/-! ## The header -/

section

variable {data : List UInt8}

/-- Eight bytes are read, or the data is refused: the end of the slice does not
overflow. -/
theorem reports_readU64 {offset : ℕ} (h : offset + 8 < 2 ^ 64) :
    Rejects [RouterError.invalidInstructionData] (readU64 data offset) :=
  reports_bind (reports_of_eq_ok (usizeAdd_of_lt h)) fun _ _ =>
    reports_bind (reports_okOr (by decide)) fun _ _ => reports_ok _

/-- So are two. -/
theorem reports_readU16 {offset : ℕ} (h : offset + 2 < 2 ^ 64) :
    Rejects [RouterError.invalidInstructionData] (readU16 data offset) :=
  reports_bind (reports_of_eq_ok (usizeAdd_of_lt h)) fun _ _ =>
    reports_bind (reports_okOr (by decide)) fun _ _ => reports_ok _

/-- An index inside the data always gives its byte. -/
theorem reports_index {i : ℕ} (h : i < data.length) : Rejects [] (index data i) :=
  reports_of_eq_ok (index_eq_ok.mpr (List.getElem?_eq_getElem h))

/-- A minimum is read only where one is wanted. -/
theorem reports_readMinimum {wanted : Bool} {offset : ℕ} (h : offset + 8 < 2 ^ 64) :
    Rejects [RouterError.invalidInstructionData] (readMinimum wanted data offset) :=
  reports_ite (fun _ => reports_readU64 h) fun _ => reports_ok _

/-- **The bytes of the header are read once the data is known to hold them.** -/
theorem reports_readHeader (dynamicIntermediates : ℕ) :
    Rejects [RouterError.invalidInstructionData] (readHeader data dynamicIntermediates) := by
  refine reports_bind (reports_failIf (by decide)) fun _ h => ?_
  have hlen : 50 ≤ data.length := by
    have hnot := failIf_eq_ok.mp h
    unfold routeHeaderLen at hnot
    omega
  refine reports_bind (reports_readU64 (by decide)) fun _ _ => ?_
  refine reports_bind (reports_readU64 (by decide)) fun _ _ => ?_
  refine reports_bind ((reports_index (by omega)).mono nofun) fun _ _ => ?_
  refine reports_bind ((reports_index (by omega)).mono nofun) fun _ _ => ?_
  refine reports_bind ((reports_readAddress hlen).mono nofun) fun _ _ => ?_
  refine reports_bind (reports_readMinimum (by decide)) fun _ _ => ?_
  exact reports_bind (reports_readMinimum (by decide)) fun _ _ => reports_ok _

/-- The cursor starts inside the data. -/
theorem headerLen_le {dynamicIntermediates : ℕ} {h : RouteHeader}
    (hread : readHeader data dynamicIntermediates = .ok h) :
    routeHeaderLen + 8 * dynamicIntermediates ≤ data.length := by
  obtain ⟨_, hlen, -⟩ := bind_eq_ok.mp hread
  exact Nat.not_lt.mp (failIf_eq_ok.mp hlen)

/-- The checks of a header read no data. -/
theorem reports_checkHeader (h : RouteHeader) (dynamicIntermediates : ℕ) :
    Rejects [RouterError.invalidInstructionData, RouterError.tooManyLegs]
      (checkHeader h dynamicIntermediates) :=
  reports_bind (reports_failIf (by decide)) fun _ _ =>
    reports_bind (reports_failIf (by decide)) fun _ _ => reports_failIf (by decide)

end

/-! ## The accounts -/

section

variable {α : Type}

/-- An account is taken off the front, if there is one. -/
theorem reports_splitFirst (accounts : List α) :
    Rejects [RouterError.insufficientAccounts] (splitFirst accounts) := by
  cases accounts with
  | nil => exact reports_fail (by decide)
  | cons a rest => exact reports_ok _

/-- So is one that only some routes have. -/
theorem reports_splitFirstIf (wanted : Bool) (accounts : List α) :
    Rejects [RouterError.insufficientAccounts] (splitFirstIf wanted accounts) :=
  reports_ite (fun _ => reports_bind (reports_splitFirst accounts) fun _ _ => reports_ok _)
    fun _ => reports_ok _

/-- **The accounts before the legs** are there, or there are too few. -/
theorem reports_splitAccounts (accounts : List α) (dynamicIntermediates : ℕ) :
    Rejects [RouterError.insufficientAccounts]
      (splitAccounts accounts dynamicIntermediates) := by
  refine reports_bind (reports_splitFirst _) fun _ _ => ?_
  refine reports_bind (reports_splitFirst _) fun _ _ => ?_
  refine reports_bind (reports_splitFirst _) fun _ _ => ?_
  refine reports_bind (reports_splitFirst _) fun _ _ => ?_
  refine reports_bind (reports_splitFirst _) fun _ _ => ?_
  refine reports_bind (reports_splitFirst _) fun _ _ => ?_
  refine reports_bind (reports_splitFirstIf _ _) fun _ _ => ?_
  exact reports_bind (reports_splitFirstIf _ _) fun _ _ => reports_ok _

/-! ## The legs -/

/-- **A leg is parsed without a panic** from a cursor inside the data. -/
theorem reports_parseLeg {data : List UInt8} {remaining : List α} {pos : LegCursor}
    (hdata : data.length ≤ isizeMax) (hpos : pos.cursor ≤ data.length) :
    Rejects [RouterError.invalidLeg, RouterError.invalidInstructionData,
      RouterError.arithmeticOverflow, RouterError.insufficientAccounts]
      (parseLeg data remaining pos) := by
  unfold isizeMax at hdata
  refine reports_bind (reports_of_eq_ok (usizeAdd_of_lt (by omega))) fun cursor hcursor => ?_
  obtain ⟨-, rfl⟩ := usizeAdd_eq_ok.mp hcursor
  refine reports_bind (reports_okOr (by decide)) fun program hprogram => ?_
  have hlen : program.length = 32 := by
    rw [length_of_range? (okOr_eq_ok.mp hprogram)]
    omega
  have hkey : Pubkey.ofBytes? program = some ⟨program, hlen⟩ := Pubkey.ofBytes?_eq_some.mpr rfl
  refine reports_bind (reports_of_eq_ok (orPanic_eq_ok.mpr hkey)) fun _ _ => ?_
  refine reports_bind (reports_okOr (by decide)) fun numAccounts hcount => ?_
  have hin : pos.cursor + 32 < data.length :=
    (List.getElem?_eq_some_iff.mp (okOr_eq_ok.mp hcount)).1
  refine reports_bind (reports_of_eq_ok (usizeAdd_of_lt (by omega))) fun cursor hcursor => ?_
  obtain ⟨-, rfl⟩ := usizeAdd_eq_ok.mp hcursor
  refine reports_bind ((reports_readU16 (by omega)).mono (by decide)) fun dataLen _ => ?_
  refine reports_bind (reports_of_eq_ok (usizeAdd_of_lt (by omega))) fun cursor hcursor => ?_
  obtain ⟨-, rfl⟩ := usizeAdd_eq_ok.mp hcursor
  refine reports_bind (reports_failIf (by decide)) fun _ _ => ?_
  have hsize : dataLen.toNat < 2 ^ 16 := dataLen.toNat_lt
  refine reports_bind (reports_of_eq_ok (usizeAdd_of_lt (by omega))) fun _ _ => ?_
  refine reports_bind (reports_okOr (by decide)) fun _ _ => ?_
  refine reports_bind (reports_okOr (by decide)) fun stop hstop => ?_
  refine reports_bind (reports_failIf (by decide)) fun _ hle => ?_
  rw [okOr_eq_ok] at hstop
  split at hstop
  · cases hstop
    have hrange := range?_of_le (Nat.le_add_right pos.remainingOffset numAccounts.toNat)
      (Nat.not_lt.mp (failIf_eq_ok.mp hle))
    exact reports_bind (reports_of_eq_ok (slice_eq_ok.mpr hrange)) fun _ _ => reports_ok _
  · cases hstop

/-- The cursor stays inside the data. -/
theorem LegParse.cursor_le {data : List UInt8} {remaining : List α} {pos pos' : LegCursor}
    {leg : ParsedLeg α} (h : LegParse data remaining pos leg pos') :
    pos'.cursor ≤ data.length := by
  obtain ⟨pre, post, hsplit, hpre, hlen⟩ := range?_eq_some_iff.mp h.payload
  rw [h.cursor_eq, hsplit, List.length_append, List.length_append]
  omega

end

/-! ## The table of swaps -/

/-- A program and data are in the table, or are refused. -/
theorem reports_dynamicSecondLeg (programId : Address) (data : List UInt8) :
    Rejects [RouterError.invalidDynamicLeg] (dynamicSecondLeg programId data) := by
  rw [dynamicSecondLeg_eq]
  cases SwapKind.recognize programId data with
  | none => exact reports_fail (by decide)
  | some k => exact reports_ok _

/-- **What the table promises of a layout**: the accounts every swap lists are
at real positions, a layout in the pool's order lists all its mints and
programs, and the amount lies in data that fits the buffer. -/
structure DynamicSecondLeg.Tabled (layout : DynamicSecondLeg) (data : List UInt8) : Prop where
  input : layout.inputAccount ≠ noAccount
  output : layout.outputAccount ≠ noAccount
  signer : layout.signer ≠ noAccount
  paired : layout.pairedMints = true → layout.inputMint ≠ noAccount
    ∧ layout.inputProgram ≠ noAccount ∧ layout.outputMint ≠ noAccount
    ∧ layout.outputProgram ≠ noAccount
  amount : layout.amountOffset + 8 ≤ data.length
  size : data.length ≤ maxDynamicLegData

/-- **A layout that was found is one of the table's.** Its shape asks for more
accounts than any of its positions, so no position is the one that stands for
none. -/
theorem tabled_of_dynamicSecondLeg {programId : Address} {data : List UInt8}
    {layout : DynamicSecondLeg} (h : dynamicSecondLeg programId data = .ok layout) :
    layout.Tabled data := by
  obtain ⟨k, hk, rfl⟩ := dynamicSecondLeg_eq_ok.mp h
  have hreal : ∀ i ∈ (k.layout data).positions, i ≠ noAccount := by
    intro i hi
    have hlt := SwapKind.positions_lt k data i hi
    have hmin := SwapKind.minimumAccounts_le hk.2
    have hno : noAccount = 2 ^ 64 - 1 := rfl
    omega
  have hlisted {o : Option ℕ} (ho : ∀ j ∈ o, j ∈ (k.layout data).positions)
      (hsome : o.isSome) : o.getD noAccount ≠ noAccount := by
    obtain ⟨j, rfl⟩ := Option.isSome_iff_exists.mp hsome
    exact hreal j (ho j rfl)
  obtain ⟨hamount, hsize⟩ := SwapKind.Shape.amount_fits hk.2
  exact {
    input := hreal _ (SwapLayout.mem_positions.mpr (.inl rfl))
    output := hreal _ (SwapLayout.mem_positions.mpr (.inr (.inl rfl)))
    signer := hreal _ (SwapLayout.mem_positions.mpr (.inr (.inr (.inl rfl))))
    paired := by
      intro hpaired
      obtain ⟨him, hip, hom, hop⟩ := SwapKind.isSome_of_paired hpaired
      exact ⟨hlisted (fun j hj => SwapLayout.mem_positions.mpr
          (.inr (.inr (.inr (.inl hj))))) him,
        hlisted (fun j hj => SwapLayout.mem_positions.mpr
          (.inr (.inr (.inr (.inr (.inl hj)))))) hip,
        hlisted (fun j hj => SwapLayout.mem_positions.mpr
          (.inr (.inr (.inr (.inr (.inr (.inl hj))))))) hom,
        hlisted (fun j hj => SwapLayout.mem_positions.mpr
          (.inr (.inr (.inr (.inr (.inr (.inr hj))))))) hop⟩
    amount := hamount
    size := hsize }

section

variable {l : Ledger} {data : List UInt8} {layout : DynamicSecondLeg}
  {legAccounts : List AccountView}

/-- An account inside the leg can be compared. -/
theorem reports_indexIs {i : ℕ} {p : AccountView → Bool} (h : i < legAccounts.length) :
    Rejects [] (indexIs legAccounts i p) :=
  reports_of_eq_ok (indexIs_of_lt h)

/-- Four positions in range are compared without a panic. -/
theorem reports_allOf_four {i j p q : ℕ} {a b c d : AccountView → Bool}
    (hi : i < legAccounts.length) (hj : j < legAccounts.length)
    (hp : p < legAccounts.length) (hq : q < legAccounts.length) :
    Rejects [] (allOf [indexIs legAccounts i a, indexIs legAccounts j b,
      indexIs legAccounts p c, indexIs legAccounts q d]) :=
  reports_allOf_cons (reports_indexIs hi) fun _ => reports_allOf_cons (reports_indexIs hj)
    fun _ => reports_allOf_cons (reports_indexIs hp) fun _ =>
      reports_allOf_cons (reports_indexIs hq) fun _ => reports_ok _

/-- **The accounts of a leg are looked up in range.** The first test of the
disjunction is the one about the positions: the others are made only where
it finds each of them among the leg's accounts, or listed nowhere. -/
theorem reports_validateDynamicAccounts (h : layout.Tabled data)
    (user input output : AccountView) :
    Rejects [RouterError.invalidDynamicLeg, .invalidAccountData]
      (validateDynamicAccounts l layout legAccounts user input output) := by
  have hplaced {i : ℕ} (hi : i ∈ [layout.inputAccount, layout.outputAccount, layout.signer,
      layout.inputMint, layout.inputProgram, layout.outputMint, layout.outputProgram])
      (hfirst : ([layout.inputAccount, layout.outputAccount, layout.signer,
        layout.inputMint, layout.inputProgram, layout.outputMint,
        layout.outputProgram].any fun i => i ≠ noAccount && i ≥ legAccounts.length) = false)
      (hne : i ≠ noAccount) : i < legAccounts.length := by
    have htest := List.any_eq_false.mp hfirst i hi
    simpa [hne] using htest
  refine reports_bind ?_ fun misplaced hany => ?_
  · refine reports_anyOf_cons (reports_ok _) fun hfirst => ?_
    rw [Except.ok.injEq] at hfirst
    have hsigner := hplaced (i := layout.signer) (by simp) hfirst h.signer
    have hinput := hplaced (i := layout.inputAccount) (by simp) hfirst h.input
    have houtput := hplaced (i := layout.outputAccount) (by simp) hfirst h.output
    refine reports_anyOf_cons ((reports_indexIs hsigner).mono nofun) fun _ => ?_
    refine reports_anyOf_cons ((reports_indexIs hsigner).mono nofun) fun _ => ?_
    refine reports_anyOf_cons ((reports_indexIs hinput).mono nofun) fun _ => ?_
    refine reports_anyOf_cons ((reports_indexIs hinput).mono nofun) fun _ => ?_
    refine reports_anyOf_cons ((reports_indexIs houtput).mono nofun) fun _ => ?_
    exact reports_anyOf_cons ((reports_indexIs houtput).mono nofun) fun _ => reports_ok _
  refine reports_bind (reports_failIf (by decide)) fun _ hnot => ?_
  rw [failIf_eq_ok, Bool.not_eq_true] at hnot
  rw [hnot, anyOf_eq_false] at hany
  have hfirst := Except.ok.inj (hany _ (List.mem_cons_self ..))
  refine reports_bind ((reports_tokenMint l input).mono (by decide)) fun _ _ => ?_
  refine reports_bind ((reports_tokenMint l output).mono (by decide)) fun _ _ => ?_
  refine reports_ite (fun hpaired => ?_) fun _ => ?_
  · obtain ⟨him, hip, hom, hop⟩ := h.paired hpaired
    have him' := hplaced (i := layout.inputMint) (by simp) hfirst him
    have hip' := hplaced (i := layout.inputProgram) (by simp) hfirst hip
    have hom' := hplaced (i := layout.outputMint) (by simp) hfirst hom
    have hop' := hplaced (i := layout.outputProgram) (by simp) hfirst hop
    refine reports_bind ((reports_allOf_four him' hom' hip' hop').mono nofun) fun _ _ => ?_
    refine reports_bind ((reports_allOf_four hom' him' hop' hip').mono nofun) fun _ _ => ?_
    exact reports_failIf (by decide)
  · have hlisted {i : ℕ} {p : AccountView → Bool} (hi : i ∈ [layout.inputAccount,
        layout.outputAccount, layout.signer, layout.inputMint, layout.inputProgram,
        layout.outputMint, layout.outputProgram]) :
        Rejects [RouterError.invalidDynamicLeg, .invalidAccountData]
          (allOf [.ok (decide (i ≠ noAccount)), indexIs legAccounts i p]) := by
      refine reports_allOf_cons (reports_ok _) fun hne => ?_
      have hlt := hplaced hi hfirst (by simpa using hne)
      exact reports_allOf_cons ((reports_indexIs hlt).mono nofun) fun _ => reports_ok _
    refine reports_bind ?_ fun _ _ => reports_failIf (by decide)
    refine reports_anyOf_cons (hlisted (by simp)) fun _ => ?_
    refine reports_anyOf_cons (hlisted (by simp)) fun _ => ?_
    refine reports_anyOf_cons (hlisted (by simp)) fun _ => ?_
    exact reports_anyOf_cons (hlisted (by simp)) fun _ => reports_ok _

/-- **The patch stays inside its buffer.** -/
theorem DynamicSecondLeg.Tabled.patch (h : layout.Tabled data) (amount : UInt64) :
    ∃ out, patchSecondLegAmount data amount layout.amountOffset
      (List.replicate maxDynamicLegData 0) = .ok out ∧ out.length = data.length := by
  have hbuf : data.length ≤ (List.replicate maxDynamicLegData (0 : UInt8)).length := by
    rw [List.length_replicate]
    exact h.size
  obtain ⟨out, hout⟩ := @patchSecondLegAmount_ok _ _ amount _ h.amount hbuf
  exact ⟨out, hout, (patchSecondLegAmount_eq_ok hout h.amount).1⟩

/-- **The amount is written inside the buffer**: the table has it inside data
that fits. -/
theorem reports_patchSecondLegAmount (h : layout.Tabled data) (amount : UInt64) :
    Rejects [] (patchSecondLegAmount data amount layout.amountOffset
      (List.replicate maxDynamicLegData 0)) := by
  obtain ⟨out, hout, -⟩ := h.patch amount
  exact reports_of_eq_ok hout

/-- The eight bytes of the amount are compared in range. -/
theorem reports_amountIs (h : layout.Tabled data) (bytes : List UInt8) :
    Rejects [] (not <$> sliceIs data layout.amountOffset (layout.amountOffset + 8) bytes) :=
  reports_map (reports_of_eq_ok (sliceIs_of_le (Nat.le_add_right ..) h.amount))

/-! ## The data of a leg -/

variable (f : RouteFrame) (leg : ParsedLeg AccountView) (quoteReceived : UInt64)

/-- The checks of a leg between two intermediate accounts. -/
theorem reports_middleLegData :
    Rejects [RouterError.invalidIntermediateAccount, RouterError.invalidDynamicLeg,
      .invalidAccountData] (middleLegData l f leg quoteReceived) := by
  refine reports_bind (reports_okOr (by decide)) fun input _ => ?_
  refine reports_bind (reports_okOr (by decide)) fun output _ => ?_
  refine reports_bind (reports_failIf (by decide)) fun _ _ => ?_
  refine reports_bind ((reports_dynamicSecondLeg _ _).mono (by decide)) fun _ hlayout => ?_
  have htabled := tabled_of_dynamicSecondLeg hlayout
  refine reports_bind ((reports_amountIs htabled _).mono nofun) fun _ _ => ?_
  refine reports_bind (reports_failIf (by decide)) fun _ _ => ?_
  refine reports_bind ((reports_validateDynamicAccounts htabled _ _ _).mono (by decide))
    fun _ _ => ?_
  exact (reports_patchSecondLegAmount htabled _).mono nofun

/-- And those of the leg that pays out. -/
theorem reports_lastLegData :
    Rejects [RouterError.invalidIntermediateAccount, RouterError.invalidDynamicLeg,
      .invalidAccountData] (lastLegData l f leg quoteReceived) := by
  refine reports_bind (reports_okOr (by decide)) fun intermediate _ => ?_
  refine reports_bind ((reports_dynamicSecondLeg _ _).mono (by decide)) fun _ hlayout => ?_
  have htabled := tabled_of_dynamicSecondLeg hlayout
  refine reports_bind ?_ fun _ _ => reports_bind (reports_failIf (by decide)) fun _ _ => ?_
  · refine reports_allOf_cons (reports_ok _) fun _ => ?_
    exact reports_allOf_cons ((reports_amountIs htabled _).mono nofun) fun _ => reports_ok _
  refine reports_bind ((reports_validateDynamicAccounts htabled _ _ _).mono (by decide))
    fun _ _ => ?_
  exact (reports_patchSecondLegAmount htabled _).mono nofun

/-- The first leg is only asked what it may write. -/
theorem reports_checkFirstLeg :
    Rejects [RouterError.invalidIntermediateAccount] (checkFirstLeg f leg) :=
  reports_bind (reports_okOr (by decide)) fun _ _ => reports_failIf (by decide)

/-- **Whichever leg it is**, by its place in the route; a route without legs has
no last one, and is not got this far. -/
theorem reports_legInvokeData (h : 1 ≤ f.header.numLegs) (legIndex : ℕ) :
    Rejects [RouterError.invalidIntermediateAccount, RouterError.invalidDynamicLeg,
      .invalidAccountData] (legInvokeData l f legIndex leg quoteReceived) := by
  rw [legInvokeData_eq h]
  refine reports_ite (fun _ => reports_middleLegData f leg quoteReceived) fun _ => ?_
  refine reports_ite (fun _ => reports_lastLegData f leg quoteReceived) fun _ => ?_
  refine reports_ite (fun _ => ?_) fun _ => reports_ok _
  exact reports_bind ((reports_checkFirstLeg f leg).mono (by decide)) fun _ _ => reports_ok _

end

/-! ## Running -/

/-- A run that returns, or stops with an error. -/
def Safe {α : Type} (Q : α → Machine → Prop)
    (r : EStateM.Result (Abort ProgramError) Machine α) : Prop :=
  Ensures Q (fun e _ => e ≠ .panic) r

section

variable {α β : Type} {Q : β → Machine → Prop} {m : Machine}

/-- A reader that cannot panic, before anything. -/
theorem safe_read_bind {x : Read α} {f : α → Exec β} (hx : Calm x)
    (hf : ∀ a, x = .ok a → Safe Q (f a m)) : Safe Q ((liftM x >>= f) m) :=
  ensures_lift_bind hx hf

/-- Or at the end. -/
theorem safe_read {x : Read β} (hx : Calm x) (hQ : ∀ b, x = .ok b → Q b m) :
    Safe Q ((liftM x : Exec β) m) :=
  ensures_lift hx hQ

/-- **Whatever a call does**, the program sees its error or its ledger. -/
theorem safe_invoke {Q : Unit → Machine → Prop} (rt : Runtime) (call : CpiCall)
    (hQ : ∀ m', Q () m') : Safe Q (invoke rt call m) := by
  unfold invoke
  split
  · exact hQ _
  · exact nofun

/-- Whatever the creation of an account does, likewise. -/
theorem safe_createAccount {Q : Unit → Machine → Prop} (rt : Runtime)
    (call : CreateAccountCall) (hQ : ∀ m', Q () m') : Safe Q (createAccount rt call m) := by
  unfold createAccount
  split
  · exact hQ _
  · exact nofun

end

section

variable {m : Machine} {rt : Runtime}

/-! ## The route -/

/-- Taking the fee is a reader and at most one call. -/
theorem safe_chargeFee (cfg : RouterConfig) (feeAsset : UInt8) (fee : UInt64)
    (a : RouteAccounts AccountView) :
    Safe (fun _ _ => True) (chargeFee rt cfg feeAsset fee a m) := by
  unfold chargeFee
  split
  · refine ensures_currentLedger_bind ?_
    refine safe_read_bind (reports_feeTransfer _ _ _ _ _).calm fun call _ => ?_
    exact safe_invoke rt call fun _ => trivial
  · exact ensures_pure trivial

variable {data : List UInt8} {f : RouteFrame}

/-- **One leg keeps the cursor inside the data**, and does not panic: its metas
are those of its own accounts, each entry of them written. -/
theorem safe_legStep (hdata : data.length ≤ isizeMax) (hlegs : 1 ≤ f.header.numLegs)
    (legIndex : ℕ) {s : LegLoop} (hpos : s.pos.cursor ≤ data.length) :
    Safe (fun s' _ => s'.pos.cursor ≤ data.length) (legStep rt data f legIndex s m) := by
  refine safe_read_bind (reports_parseLeg hdata hpos).calm ?_
  rintro ⟨leg, pos'⟩ hparse
  have hleg := parseLeg_eq_ok.mp hparse
  refine ensures_currentLedger_bind ?_
  refine safe_read_bind (reports_legInvokeData f leg _ hlegs legIndex).calm
    fun out _ => ?_
  refine ensures_ok_bind (buildMetas_eq hleg.length_accounts hleg.count_le) ?_
  refine ensures_bind (safe_invoke rt _ fun m' => ?_)
  refine ensures_currentLedger_bind ?_
  refine safe_read_bind (reports_quoteAfterLeg _ _ _ _).calm fun _ _ => ?_
  exact ensures_pure hleg.cursor_le

/-- **The legs do not panic**: by induction on their number, the cursor inside
the data from each to the next. -/
theorem safe_runLegs (hdata : data.length ≤ isizeMax) (hlegs : 1 ≤ f.header.numLegs)
    (left legIndex : ℕ) {s : LegLoop} (hpos : s.pos.cursor ≤ data.length) :
    Safe (fun s' _ => s'.pos.cursor ≤ data.length) (runLegs rt data f left legIndex s m) := by
  induction left generalizing legIndex s m with
  | zero => exact ensures_pure hpos
  | succ left ih =>
    refine ensures_bind (ensures_imp (safe_legStep hdata hlegs legIndex hpos) ?_
      fun _ _ he => he)
    exact fun s' m' hpos' => ih (legIndex + 1) hpos'

/-- **A route does not panic**: the cursor starts inside the data, and stays
there. -/
theorem safe_processInner [Pda] (programId : Address) (accounts : List AccountView)
    (hdata : data.length ≤ isizeMax) (dynamicIntermediates : ℕ) :
    Safe (fun _ _ => True)
      (processInner rt programId accounts data dynamicIntermediates m) := by
  refine safe_read_bind (reports_readHeader _).calm fun header hread => ?_
  refine safe_read_bind (reports_checkHeader _ _).calm fun _ hcheck => ?_
  refine safe_read_bind (reports_splitAccounts _ _).calm fun a _ => ?_
  refine safe_read_bind calm_failIf fun _ _ => ?_
  refine ensures_currentLedger_bind ?_
  refine safe_read_bind (reports_checkConfig _ _ _).calm fun cfg _ => ?_
  refine safe_read_bind (reports_validateOutput _ _ _ _ _).calm fun _ _ => ?_
  refine safe_read_bind (reports_checkedFee _ _).calm fun fee _ => ?_
  refine safe_read_bind (reports_feeSourceBefore _ _ _ _).calm fun _ _ => ?_
  refine ensures_bind (ensures_imp (safe_chargeFee cfg _ fee a) ?_ fun _ _ he => he)
  intro _ charged _
  refine ensures_currentLedger_bind ?_
  refine safe_read_bind (reports_outputBalance _ _ _).calm fun _ _ => ?_
  refine safe_read_bind (reports_intermediateSnapshot _ _ _ _).calm fun _ _ => ?_
  refine safe_read_bind (reports_intermediateSnapshot _ _ _ _).calm fun _ _ => ?_
  refine ensures_bind (ensures_imp (safe_runLegs hdata (numLegs_pos hcheck) _ _
    (headerLen_le hread)) ?_ fun _ _ he => he)
  intro final settled _
  refine safe_read_bind calm_failIf fun _ _ => ?_
  refine ensures_currentLedger_bind ?_
  refine safe_read_bind (reports_checkUnspent _ _ _).calm fun _ _ => ?_
  refine safe_read_bind (reports_checkUnspent _ _ _).calm fun _ _ => ?_
  refine safe_read_bind (reports_feeSourceBalance _ _ _).calm fun _ _ => ?_
  refine safe_read_bind (reports_validateSpend _ _ _ _ _).calm fun _ _ => ?_
  refine safe_read_bind (reports_outputBalance _ _ _).calm fun _ _ => ?_
  exact safe_read (reports_checkReceived _ _ _).calm fun _ _ => trivial

end

/-! ## The other instructions -/

section

variable {m : Machine} {data : List UInt8}

/-- A new configuration is written into as many bytes as it has. -/
theorem safe_writeNew (account : AccountView) (authority feeRecipient : Address)
    (feeBps : UInt16) (bump : UInt8) :
    Safe (fun _ _ => True)
      (RouterConfig.writeNew account authority feeRecipient feeBps bump m) := by
  refine safe_read_bind calm_failIf fun _ _ => ?_
  refine ensures_currentLedger_bind ?_
  refine safe_read_bind calm_okOr fun _ _ => ?_
  refine safe_read_bind calm_failIf fun _ _ => ?_
  exact trivial

/-- An update stops only at its own checks. -/
theorem safe_update (account : AccountView) (feeRecipient : Option Address)
    (feeBps : Option UInt16) (paused : Option Bool) :
    Safe (fun _ _ => True) (RouterConfig.update account feeRecipient feeBps paused m) := by
  refine safe_read_bind calm_failIf fun _ _ => ?_
  refine ensures_currentLedger_bind ?_
  refine safe_read_bind calm_okOr fun _ _ => ?_
  refine safe_read_bind calm_failIf fun _ _ => ?_
  exact trivial

/-- **Setting up the router does not panic.** -/
theorem safe_initialize [Pda] (rt : Runtime) (programId : Address)
    (accounts : List AccountView) :
    Safe (fun _ _ => True) (Initialize.process rt programId accounts data m) := by
  have hargs : Rejects [RouterError.invalidInstructionData, RouterError.invalidFeeBps]
      (Initialize.readArgs data) := by
    refine reports_bind (reports_failIf (by decide)) fun _ h => ?_
    have hlen := Nat.not_lt.mp (failIf_eq_ok.mp h)
    refine reports_bind ((reports_index (by omega)).mono nofun) fun _ _ => ?_
    refine reports_bind ((reports_index (by omega)).mono nofun) fun _ _ => ?_
    refine reports_bind ((reports_index (by omega)).mono nofun) fun _ _ => ?_
    exact reports_bind (reports_failIf (by decide)) fun _ _ => reports_ok _
  have haccounts : Rejects [RouterError.insufficientAccounts]
      (Initialize.readAccounts accounts) :=
    reports_bind (reports_splitFirst _) fun _ _ => reports_bind (reports_splitFirst _)
      fun _ _ => reports_bind (reports_splitFirst _) fun _ _ => reports_ok _
  refine safe_read_bind hargs.calm fun args _ => ?_
  refine safe_read_bind haccounts.calm fun a _ => ?_
  refine ensures_currentLedger_bind ?_
  refine safe_read_bind ?_ fun _ _ => ?_
  · refine calm_bind calm_failIf fun _ _ => ?_
    refine calm_bind calm_failIf fun _ _ => ?_
    exact calm_failIf
  · exact ensures_bind (safe_createAccount rt _ fun _ => safe_writeNew _ _ _ _ _)

/-- **Nor does changing its settings**: each argument is behind its own length
test. -/
theorem safe_updateConfig [Pda] (programId : Address) (accounts : List AccountView) :
    Safe (fun _ _ => True) (UpdateConfig.process programId accounts data m) := by
  have hargs : Rejects [RouterError.invalidInstructionData, RouterError.invalidFeeBps]
      (UpdateConfig.readArgs data) := by
    refine reports_bind (reports_failIf (by decide)) fun _ h => ?_
    have hlen := Nat.not_lt.mp (failIf_eq_ok.mp h)
    refine reports_bind ((reports_index (by omega)).mono nofun) fun _ _ => ?_
    refine reports_bind ((reports_index (by omega)).mono nofun) fun _ _ => ?_
    refine reports_bind ((reports_index (by omega)).mono nofun) fun _ _ => ?_
    refine reports_bind ((reports_index (by omega)).mono nofun) fun _ _ => ?_
    refine reports_bind (reports_failIf (by decide)) fun _ _ => ?_
    exact reports_bind (reports_failIf (by decide)) fun _ _ => reports_ok _
  have haccounts : Rejects [RouterError.insufficientAccounts]
      (UpdateConfig.readAccounts accounts) :=
    reports_bind (reports_splitFirst _) fun _ _ => reports_bind (reports_splitFirst _)
      fun _ _ => reports_ok _
  refine safe_read_bind hargs.calm fun args _ => ?_
  refine safe_read_bind haccounts.calm fun a _ => ?_
  refine ensures_currentLedger_bind ?_
  refine safe_read_bind ?_ fun _ _ => safe_read_bind ?_ fun _ _ => safe_update _ _ _ _
  · refine calm_bind calm_failIf fun _ _ => ?_
    refine calm_bind calm_failIf fun _ _ => ?_
    refine calm_bind (reports_configRead _ _).calm fun _ _ => ?_
    exact calm_failIf
  · refine raises_ite (fun _ => ?_) fun _ => raises_ok _
    exact calm_bind calm_okOr fun _ _ => calm_ok

/-- **Nor does topping up a vault.** -/
theorem safe_preparePumpfun [Pda] (rt : Runtime) (accounts : List AccountView) :
    Safe (fun _ _ => True) (PreparePumpfun.process rt accounts data m) := by
  have haccounts : Rejects [RouterError.insufficientAccounts]
      (PreparePumpfun.readAccounts accounts) := by
    unfold PreparePumpfun.readAccounts
    split
    · exact reports_ok _
    · exact reports_fail (by decide)
  have hneeded (l : Ledger) (a : PreparePumpfun.Accounts) :
      Calm (PreparePumpfun.needed rt l a) := by
    refine calm_bind calm_failIf fun _ _ => ?_
    refine calm_bind calm_failIf fun _ _ => ?_
    refine calm_bind calm_failIf fun _ _ => ?_
    refine calm_bind ?_ fun foreign hany => ?_
    · refine (reports_anyOf_cons (reports_ok _) fun hlen => ?_ : Reports [] _).calm
      simp only [Except.ok.injEq, decide_eq_false_iff_not] at hlen
      exact reports_anyOf_cons (reports_map (reports_of_eq_ok
        (sliceIs_of_le (by omega) (by omega)))) fun _ => reports_ok _
    · refine calm_bind calm_failIf fun _ hnot => ?_
      rw [failIf_eq_ok, Bool.not_eq_true] at hnot
      rw [hnot, anyOf_eq_false] at hany
      have hlen := hany _ (List.mem_cons_self ..)
      simp only [Except.ok.injEq, decide_eq_false_iff_not] at hlen
      refine calm_bind (reports_of_eq_ok (slice_eq_ok.mpr
        (range?_of_le (by omega) (by omega))) : Reports [] _).calm fun _ _ => ?_
      refine calm_bind calm_failIf fun _ _ => ?_
      cases rt.minimumBalance 0 with
      | ok minimum => exact calm_ok
      | error e => exact calm_fail
  refine safe_read_bind calm_failIf fun _ _ => ?_
  refine safe_read_bind haccounts.calm fun a _ => ?_
  refine ensures_currentLedger_bind ?_
  refine safe_read_bind (hneeded _ a) fun needed _ => ?_
  split
  · exact safe_invoke rt _ fun _ => trivial
  · exact ensures_pure trivial

/-! ## Dispatch -/

/-- **Nor does any instruction**, by its tag. -/
theorem safe_processInstruction [Pda] (rt : Runtime) (programId : Address)
    (accounts : List AccountView) (hdata : data.length ≤ isizeMax) :
    Safe (fun _ _ => True) (processInstruction rt programId accounts data m) := by
  cases data with
  | nil => exact safe_read calm_fail fun _ _ => trivial
  | cons disc data =>
    have htail : data.length ≤ isizeMax := (Nat.le_succ _).trans hdata
    rw [processInstruction]
    split
    · exact safe_initialize rt programId accounts
    split
    · exact safe_updateConfig programId accounts
    split
    · exact safe_preparePumpfun rt accounts
    split
    · exact safe_processInner programId accounts htail 0
    split
    · exact safe_processInner programId accounts htail 1
    split
    · exact safe_processInner programId accounts htail 2
    · exact safe_read calm_fail fun _ _ => trivial

end

/-- **No instruction panics**, whatever its bytes and accounts are, and whatever
the calls it makes do.

In particular the metas a leg is called with are read from entries that were
written, one for each of its accounts; a leg the table accepts is checked
against its accounts, however many there are, without an index out of range;
and its patched data fits the buffer. -/
theorem processInstruction_panicFree [Pda] (rt : Runtime) (programId : Address)
    (accounts : List AccountView) {data : List UInt8} (hdata : data.length ≤ isizeMax)
    (m : Machine) :
    (∀ m', processInstruction rt programId accounts data m ≠ .error .panic m')
      ∧ (∀ (remaining : List AccountView) pos leg pos',
        parseLeg data.tail remaining pos = .ok (leg, pos') →
          buildMetas leg.accounts leg.numAccounts
            = .ok (leg.accounts.map AccountView.toMeta))
      ∧ ∀ program legData layout, dynamicSecondLeg program legData = .ok layout →
        (∀ l legAccounts user input output,
          validateDynamicAccounts l layout legAccounts user input output ≠ .error .panic)
        ∧ ∀ amount, ∃ out, patchSecondLegAmount legData amount layout.amountOffset
            (List.replicate maxDynamicLegData 0) = .ok out ∧ out.length = legData.length := by
  refine ⟨fun m' h => ?_, fun remaining pos leg pos' hparse => ?_,
    fun program legData layout hlayout => ?_⟩
  · have hsafe := safe_processInstruction (m := m) rt programId accounts hdata
    rw [h] at hsafe
    exact hsafe rfl
  · have hleg := parseLeg_eq_ok.mp hparse
    exact buildMetas_eq hleg.length_accounts hleg.count_le
  · have htabled := tabled_of_dynamicSecondLeg hlayout
    refine ⟨fun l legAccounts user input output h => ?_, htabled.patch⟩
    exact (reports_validateDynamicAccounts htabled user input output).calm _ h rfl

/-- A route of three legs does not panic. -/
theorem hop_panicFree : letI := samplePda
    ∃ r, processInstruction hopRuntime (sampleKey 8) hopAccounts (6 :: hopData)
      ⟨hopLedger 1000 5 3 0, []⟩ = r ∧ ∀ m', r ≠ .error .panic m' := by
  let := samplePda
  exact ⟨_, rfl, (processInstruction_panicFree hopRuntime (sampleKey 8) hopAccounts
    (by decide +kernel) _).1⟩

end Program
