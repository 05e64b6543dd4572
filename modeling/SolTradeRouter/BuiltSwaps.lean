import SolTradeRouter.DynamicLeg
import SolTradeRouter.LegFormat

/-!
# The program accepts the swaps the SDK builds

A leg that spends another leg's proceeds is recognized by its program and
data, and its accounts are compared with those of the route. Nine builders
of the SDK yield such legs. `BuiltSwap` collects them, with the two sides
of the user for each pool and direction.

What a builder yields is an `ExactInput` for the abstract table of swaps,
and the program's table computes the abstract one. So the program accepts
the leg as soon as the user's two token accounts are what the pool snapshot
says they are.
-/

namespace BuiltSwaps

open Outcome Bytes Program Sdk

/-- **The swaps with an exact input the SDK builds**, for a user's
associated token accounts. -/
inductive BuiltSwap [Pda] [Upstream] (user : Pubkey) (amountIn minOut : UInt64) :
    Leg → Side → Side → Prop
  | launchlabBuy (pool : LaunchLabPool) :
    BuiltSwap user amountIn minOut
      (launchlabBuyLeg user pool amountIn minOut
        (ata user pool.baseMint pool.baseTokenProgram)
        (ata user pool.quoteMint pool.quoteTokenProgram))
      (.ofAta user pool.quoteMint pool.quoteTokenProgram)
      (.ofAta user pool.baseMint pool.baseTokenProgram)
  | cpmm (pool : CpmmPool) (inputMint outputMint : Pubkey) (leg : Leg)
    (h : cpmmSwapLeg user pool amountIn minOut inputMint outputMint
      (ata user inputMint (pool.pair.inputProgram inputMint))
      (ata user outputMint (pool.pair.outputProgram inputMint)) = .ok leg) :
    BuiltSwap user amountIn minOut leg (pool.pair.input user inputMint)
      (.ofAta user outputMint (pool.pair.outputProgram inputMint))
  | pumpswapBuy (pool : PumpSwapPool) (leg : Leg)
    (h : pumpswapBuyLeg user pool amountIn minOut = .ok leg) :
    BuiltSwap user amountIn minOut leg
      (.ofAta user pool.quoteMint pool.quoteTokenProgram)
      (.ofAta user pool.baseMint pool.baseTokenProgram)
  | pumpswapSell (pool : PumpSwapPool) (leg : Leg)
    (h : pumpswapSellLeg user pool amountIn minOut = .ok leg) :
    BuiltSwap user amountIn minOut leg
      (.ofAta user pool.baseMint pool.baseTokenProgram)
      (.ofAta user pool.quoteMint pool.quoteTokenProgram)
  | ammV4 (pool : RaydiumAmmV4Pool) (inputMint : Pubkey) (leg : Leg)
    (h : raydiumAmmV4SwapLeg user pool amountIn minOut inputMint = .ok leg) :
    BuiltSwap user amountIn minOut leg (pool.pair.input user inputMint)
      (pool.pair.output user inputMint)
  | clmm (pool : RaydiumClmmPool) (inputMint : Pubkey) (leg : Leg)
    (h : raydiumClmmSwapLeg user pool amountIn minOut inputMint = .ok leg) :
    BuiltSwap user amountIn minOut leg (pool.pair.input user inputMint)
      (pool.pair.output user inputMint)
  | dlmm (pool : MeteoraDlmmPool) (inputMint : Pubkey) (leg : Leg)
    (h : meteoraDlmmSwapLeg user pool amountIn minOut inputMint = .ok leg) :
    BuiltSwap user amountIn minOut leg (pool.pair.input user inputMint)
      (pool.output user inputMint)
  | damm (pool : MeteoraDammV2Pool) (inputMint : Pubkey) (leg : Leg)
    (hmode : pool.swapMode = meteoraDammV2ExactIn)
    (h : meteoraDammV2SwapLeg user pool amountIn minOut inputMint = .ok leg) :
    BuiltSwap user amountIn minOut leg (pool.pair.input user inputMint)
      (pool.pair.output user inputMint)
  | whirlpool (pool : WhirlpoolPool) (inputMint : Pubkey) (leg : Leg)
    (h : whirlpoolSwapLeg user pool amountIn minOut inputMint = .ok leg) :
    BuiltSwap user amountIn minOut leg (pool.pair.input user inputMint)
      (pool.pair.output user inputMint)

variable [Pda] [Upstream] {l : Ledger} {user : Pubkey} {amountIn minOut : UInt64}
  {leg : Leg} {input output : Side}

/-- **Every builder yields a swap of the table.** -/
theorem BuiltSwap.exactInput (h : BuiltSwap user amountIn minOut leg input output) :
    ∃ kind, ExactInput leg kind user input output amountIn minOut := by
  cases h with
  | launchlabBuy pool => exact ⟨_, launchlabBuyLeg_exactInput user pool amountIn minOut _ _⟩
  | cpmm pool inputMint outputMint leg h => exact ⟨_, cpmmSwapLeg_exactInput h⟩
  | pumpswapBuy pool leg h => exact ⟨_, pumpswapBuyLeg_exactInput h⟩
  | pumpswapSell pool leg h => exact ⟨_, pumpswapSellLeg_exactInput h⟩
  | ammV4 pool inputMint leg h => exact ⟨_, raydiumAmmV4SwapLeg_exactInput h⟩
  | clmm pool inputMint leg h => exact ⟨_, raydiumClmmSwapLeg_exactInput h⟩
  | dlmm pool inputMint leg h => exact ⟨_, meteoraDlmmSwapLeg_exactInput h⟩
  | damm pool inputMint leg hmode h => exact ⟨_, meteoraDammV2SwapLeg_exactInput hmode h⟩
  | whirlpool pool inputMint leg h => exact ⟨_, whirlpoolSwapLeg_exactInput h⟩

/-! ## On chain -/

/-- The user's account holds the mint of its side and is owned by the token
program of its side. -/
structure Held (l : Ledger) (side : Side) : Prop where
  mint : range? (l side.account).data 0 32 = some side.mint.bytes
  program : (l side.account).owner = side.tokenProgram

/-- An account as the transaction passes it: the address the leg lists, with
at least the privileges it lists. -/
structure Grants (listed : AccountMeta) (passed : AccountView) : Prop where
  address : passed.address = listed.pubkey
  signer : listed.isSigner = true → passed.isSigner = true
  writable : listed.isWritable = true → passed.isWritable = true

/-- **The program accepts a leg**: its table yields a layout, the leg's
accounts pass the checks against the two sides, the amount stands where the
layout says with the minimum behind it, and writing another amount leaves
the minimum as it is. -/
def Accepted (l : Ledger) (user : Pubkey) (leg : Leg) (input output : Side)
    (amountIn minOut : UInt64) : Prop :=
  ∃ layout, dynamicSecondLeg leg.programId leg.data = .ok layout
    ∧ (∀ (passed : List AccountView) (userView inputView outputView : AccountView),
      List.Forall₂ Grants leg.accounts passed → userView.address = user
        → inputView.address = input.account → outputView.address = output.account
        → validateDynamicAccounts l layout passed userView inputView outputView = .ok ())
    ∧ range? leg.data layout.amountOffset (layout.amountOffset + 8)
      = some (ofUInt64 amountIn)
    ∧ range? leg.data (layout.amountOffset + 8) (layout.amountOffset + 16)
      = some (ofUInt64 minOut)
    ∧ ∀ amount, ∃ patched, patchSecondLegAmount leg.data amount layout.amountOffset
        (List.replicate maxDynamicLegData 0) = .ok patched
      ∧ range? patched layout.amountOffset (layout.amountOffset + 8)
        = some (ofUInt64 amount)
      ∧ range? patched (layout.amountOffset + 8) (layout.amountOffset + 16)
        = some (ofUInt64 minOut)

omit [Pda] [Upstream] in
/-- The mint a side's account holds is read off it. -/
theorem Held.tokenMint_eq (h : Held l input) {view : AccountView}
    (haddress : view.address = input.account) : tokenMint l view = .ok input.mint := by
  have hmint : range? (view.data l) 0 32 = some input.mint.bytes := by
    rw [AccountView.data, haddress]
    exact h.mint
  have hlen : ¬ (view.data l).length < 32 := by
    obtain ⟨pre, post, hdata, -, hend⟩ := range?_eq_some_iff.mp hmint
    rw [hdata, List.length_append, List.length_append]
    omega
  unfold tokenMint
  rw [failIf, if_neg hlen, ok_bind]
  exact readAddress_eq_ok.mpr hmint

omit [Pda] [Upstream] in
/-- What a leg lists is what is passed. -/
theorem presents_of_lists {accounts : List AccountMeta} {passed : List AccountView} {i : ℕ}
    {k : Pubkey} {listed : AccountMeta → Bool} {privilege : AccountView → Bool}
    (hpassed : List.Forall₂ Grants accounts passed) (h : Lists accounts i k listed)
    (hprivilege : ∀ x y, Grants x y → listed x = true → privilege y = true) :
    Presents passed i k privilege := by
  obtain ⟨x, hx, rfl, hp⟩ := h
  obtain ⟨hi, hget⟩ := List.getElem?_eq_some_iff.mp hx
  have hi' : i < passed.length := hpassed.length_eq ▸ hi
  have hgrants : Grants x passed[i] := by
    have hrel := hpassed.get hi hi'
    rw [List.get_eq_getElem, List.get_eq_getElem, hget] at hrel
    exact hrel
  exact ⟨passed[i], List.getElem?_eq_getElem hi', hgrants.address,
    hprivilege x _ hgrants hp⟩

omit [Pda] [Upstream] in
theorem addresses_of_grants {accounts : List AccountMeta} {passed : List AccountView}
    (h : List.Forall₂ Grants accounts passed) :
    passed.map AccountView.address = accounts.map AccountMeta.pubkey := by
  induction h with
  | nil => rfl
  | cons hgrants _ ih => rw [List.map_cons, List.map_cons, ih, hgrants.address]

omit [Pda] [Upstream] in
/-- **Writing the amount keeps what stands behind it.** -/
theorem patch_keeps_minimum {data patched buffer : List UInt8} {amount minOut : UInt64}
    {offset : ℕ} (h : patchSecondLegAmount data amount offset buffer = .ok patched)
    (hfit : offset + 8 ≤ data.length)
    (hmin : range? data (offset + 8) (offset + 16) = some (ofUInt64 minOut)) :
    range? patched offset (offset + 8) = some (ofUInt64 amount)
      ∧ range? patched (offset + 8) (offset + 16) = some (ofUInt64 minOut) := by
  obtain ⟨hlen, hbytes⟩ := patchSecondLegAmount_eq_ok h hfit
  have hend : offset + 16 ≤ data.length := by
    obtain ⟨pre, post, rfl, hpre, hpost⟩ := range?_eq_some_iff.mp hmin
    rw [List.length_append, List.length_append]
    omega
  constructor
  · rw [range?_of_le (by omega) (by omega), Option.some.injEq]
    refine List.ext_getElem? fun i => ?_
    rw [List.getElem?_take, List.getElem?_drop, hbytes]
    by_cases hi : i < 8
    · rw [if_pos (by omega), if_pos (by omega), Nat.add_sub_cancel_left]
    · rw [if_neg (by omega), List.getElem?_eq_none (by rw [length_ofUInt64]; omega)]
  · rw [← hmin, range?_of_le (by omega) (by omega), range?_of_le (by omega) (by omega),
      Option.some.injEq]
    refine List.ext_getElem? fun i => ?_
    have hbehind : patched[offset + 8 + i]? = data[offset + 8 + i]? := by
      rw [hbytes, if_neg (by omega)]
    rw [List.getElem?_take, List.getElem?_take, List.getElem?_drop, List.getElem?_drop,
      hbehind]

omit [Pda] [Upstream] in
/-- **The program accepts a swap of the table** whose two accounts are what
its sides say. -/
theorem accepted_of_exactInput {kind : SwapKind}
    (h : ExactInput leg kind user input output amountIn minOut) (hinput : Held l input)
    (houtput : Held l output) : Accepted l user leg input output amountIn minOut := by
  refine ⟨.ofLayout (kind.layout leg.data), dynamicSecondLeg_eq_ok.mpr ⟨kind, h.accepts, rfl⟩,
    ?_, h.amount, h.minimum, ?_⟩
  · rintro passed userView inputView outputView hpassed rfl hin hout
    have hlength : passed.length = leg.accounts.length := hpassed.length_eq.symm
    have hbudget := h.budget
    refine validateDynamicAccounts_ok (by rw [noAccount]; omega) {
      positions := ?_
      signs := presents_of_lists hpassed h.signs fun _ _ hg => hg.signer
      spends := hin ▸ presents_of_lists hpassed h.spends fun _ _ hg => hg.writable
      receives := hout ▸ presents_of_lists hpassed h.receives fun _ _ hg => hg.writable
      inputMint_eq := hinput.tokenMint_eq hin
      outputMint_eq := houtput.tokenMint_eq hout
      agrees := ?_ }
    · intro i hi
      have hlt := SwapKind.positions_lt kind leg.data i hi
      have hcount := h.count
      omega
    · have hinputProgram : inputView.owner l = input.tokenProgram := by
        rw [AccountView.owner, hin, hinput.program]
      have houtputProgram : outputView.owner l = output.tokenProgram := by
        rw [AccountView.owner, hout, houtput.program]
      rw [addresses_of_grants hpassed, hinputProgram, houtputProgram]
      exact h.agrees
  · intro amount
    obtain ⟨hfit, hsize⟩ := h.accepts.2.amount_fits
    obtain ⟨patched, hpatch⟩ := @patchSecondLegAmount_ok leg.data
      (List.replicate maxDynamicLegData 0) amount _ hfit
      (by rw [List.length_replicate]; exact hsize)
    exact ⟨patched, hpatch, patch_keeps_minimum hpatch hfit h.minimum⟩

/-- **The program accepts every swap the SDK builds**, in both directions of
every pool, provided the user's two token accounts hold the mints of the
pool snapshot and are owned by its token programs. -/
theorem built_swaps_accepted (h : BuiltSwap user amountIn minOut leg input output)
    (hinput : Held l input) (houtput : Held l output) :
    Accepted l user leg input output amountIn minOut := by
  obtain ⟨kind, hexact⟩ := h.exactInput
  exact accepted_of_exactInput hexact hinput houtput

/-! ## A swap on fixed accounts -/

/-- A derivation that returns the last seed, so that a user's token account
for a mint stands at the mint. -/
@[reducible] def lastSeedPda : Pda where
  find seeds _ := ((seeds.getLast?.bind Pubkey.ofBytes?).getD default, 255)
  tryFind seeds _ := seeds.getLast?.bind (fun seed => (Pubkey.ofBytes? seed).map (·, 255))
  create _ _ := none

/-- A ledger in which every account holds tokens of the mint at its own
address. -/
def sampleMints : Ledger := fun k => ⟨0, tokenProgram, k.bytes⟩

/-- A pool with one supplemental tick array. -/
def sampleWhirlpool : WhirlpoolPool where
  whirlpool := sampleKey 1
  mintA := sampleKey 4
  mintB := sampleKey 5
  vaultA := sampleKey 6
  vaultB := sampleKey 7
  tokenProgramA := tokenProgram
  tokenProgramB := tokenProgram
  tickArrays := [sampleKey 8, sampleKey 9, sampleKey 10, sampleKey 11]
  quotedAmountIn := none
  quotedInputMint := none
  expectedOut := none
  feeBps := 30

omit [Pda] [Upstream] in
/-- The swap of the pool's second mint for its first is accepted. -/
theorem whirlpool_swap_accepted :
    letI := lastSeedPda
    ∃ leg, whirlpoolSwapLeg (sampleKey 3) sampleWhirlpool 1000 7 (sampleKey 5) = .ok leg
      ∧ Accepted sampleMints (sampleKey 3) leg (.ofAta (sampleKey 3) (sampleKey 5) tokenProgram)
        (.ofAta (sampleKey 3) (sampleKey 4) tokenProgram) 1000 7 := by
  let := lastSeedPda
  let := sampleUpstream
  obtain ⟨leg, hleg⟩ : ∃ leg, whirlpoolSwapLeg (sampleKey 3) sampleWhirlpool 1000 7
    (sampleKey 5) = .ok leg := ⟨_, rfl⟩
  exact ⟨leg, hleg, built_swaps_accepted (.whirlpool sampleWhirlpool (sampleKey 5) leg hleg)
    ⟨rfl, rfl⟩ ⟨rfl, rfl⟩⟩

end BuiltSwaps
