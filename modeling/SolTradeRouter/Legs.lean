import SolTradeRouter.Ata

/-!
# The legs the SDK builds

One builder for each swap of each exchange. A builder lists the accounts in
the order the exchange reads them, encodes the amounts into the data, and
refuses a pool snapshot that is incomplete. Builders that differ in a
discriminator or in the order of two amounts share their accounts.

The sides of a pool are chosen by comparing mints: an input mint that is
the pool's first mint swaps forward, one that is its second mint swaps
backward, and any other is refused.
-/

namespace Sdk

open Outcome Bytes

/-- The on-chain program's bound on the accounts of a leg. -/
def maxLegAccounts : ℕ := 64

/-- A leg has accounts, and no more than the router passes on. -/
def ensureLegAccountBudget (n : ℕ) : Result Unit :=
  bailIf (n = 0 ∨ n > maxLegAccounts)
    s!"leg account count {n} exceeds router MAX_LEG_ACCOUNTS ({maxLegAccounts})"

/-- A token program is one of the two. -/
def requireTokenPrograms (programs : List Pubkey) (dex : String) : Result Unit :=
  bailIf (programs.any (fun program =>
      program ≠ tokenProgram && program ≠ token2022Program))
    s!"{dex} mint token program is missing or unsupported; supply actual mint owners"

/-- Each mint with its token program, checked in order. -/
def requireMintPrograms : List (Pubkey × Pubkey) → String → Result Unit
  | [], _ => .ok ()
  | (mint, program) :: mints, dex => do
    requireTokenPrograms [program] dex
    -- Token-2022's native mint has a different address from classic WSOL.
    bailIf (mint = wsolMint ∧ program ≠ tokenProgram)
      s!"{dex} canonical WSOL mint requires classic WSOL token program"
    requireMintPrograms mints dex

/-- The arrays of a swap are there, and name something. -/
def requireArrayAddresses (addresses : List Pubkey) (dex : String) : Result Unit :=
  bailIf (addresses.any (fun key => key = Pubkey.default))
    s!"{dex} snapshot has a missing liquidity array address"

/-- Whether the input mint is the first of a pool's two mints. -/
def inputIsFirst (first second input : Pubkey) (text : String) : Result Bool :=
  if input = first then .ok true else if input = second then .ok false else bail text

/-- A discriminator and three amounts. -/
def encodeU64Triple (disc : List UInt8) (a b c : UInt64) : List UInt8 :=
  disc ++ ofUInt64 a ++ ofUInt64 b ++ ofUInt64 c

/-- A discriminator and two. -/
def encodeU64Pair (disc : List UInt8) (a b : UInt64) : List UInt8 :=
  disc ++ ofUInt64 a ++ ofUInt64 b

/-- The sixteen bytes of a 128-bit number. -/
def ofU128 (n : ℕ) : List UInt8 := toLE 16 n

/-! ## LaunchLab -/

/-- A swap on a LaunchLab curve. Buys and sells differ in the discriminator
alone. -/
def launchlabLeg (disc : List UInt8) (user : Pubkey) (pool : LaunchLabPool)
    (amountIn minOut : UInt64) (userBaseAta userQuoteAta : Pubkey) : Leg where
  programId := launchlabProgram
  accounts := [
    .new user true,
    launchlabAuthorityMeta,
    .newReadonly pool.globalConfig false,
    .newReadonly pool.platformConfig false,
    .new pool.poolState false,
    .new userBaseAta false,
    .new userQuoteAta false,
    .new pool.baseVault false,
    .new pool.quoteVault false,
    .newReadonly pool.baseMint false,
    .newReadonly pool.quoteMint false,
    .newReadonly pool.baseTokenProgram false,
    .newReadonly pool.quoteTokenProgram false,
    launchlabEventAuthorityMeta,
    launchlabProgramMeta,
    systemProgramMeta,
    .new pool.platformAssociatedAccount false,
    .new pool.creatorAssociatedAccount false]
  data := encodeU64Triple disc amountIn minOut 0

/-- Buy on a LaunchLab curve with an exact input. -/
def launchlabBuyLeg (user : Pubkey) (pool : LaunchLabPool) (amountIn minOut : UInt64)
    (userBaseAta userQuoteAta : Pubkey) : Leg :=
  launchlabLeg buyExactInLaunchlab user pool amountIn minOut userBaseAta userQuoteAta

/-- And sell. -/
def launchlabSellLeg (user : Pubkey) (pool : LaunchLabPool) (amountIn minOut : UInt64)
    (userBaseAta userQuoteAta : Pubkey) : Leg :=
  launchlabLeg sellExactInLaunchlab user pool amountIn minOut userBaseAta userQuoteAta

/-! ## Raydium CPMM -/

/-- The vaults and token programs of a swap's two sides, input first. -/
def cpmmSides (pool : CpmmPool) (inputMint outputMint : Pubkey) :
    Result (Pubkey × Pubkey × Pubkey × Pubkey) :=
  if inputMint = pool.baseMint ∧ outputMint = pool.quoteMint then
    .ok (pool.baseVault, pool.quoteVault, pool.baseTokenProgram, pool.quoteTokenProgram)
  else if inputMint = pool.quoteMint ∧ outputMint = pool.baseMint then
    .ok (pool.quoteVault, pool.baseVault, pool.quoteTokenProgram, pool.baseTokenProgram)
  else bail s!"cpmm swap mints do not match pool {pool.baseMint} / {pool.quoteMint}"

/-- A CPMM swap. The two amounts are the exact input and the least output,
or the most input and the exact output. -/
def cpmmLeg (disc : List UInt8) (user : Pubkey) (pool : CpmmPool)
    (amountIn amountOut : UInt64)
    (inputMint outputMint userInputAta userOutputAta : Pubkey) : Result Leg := do
  requireMintPrograms [(pool.baseMint, pool.baseTokenProgram),
    (pool.quoteMint, pool.quoteTokenProgram)] "Raydium CPMM"
  let (inputVault, outputVault, inputTp, outputTp) ← cpmmSides pool inputMint outputMint
  pure {
    programId := raydiumCpmmProgram
    accounts := [
      .newReadonly user true,
      raydiumCpmmAuthorityMeta,
      .newReadonly pool.ammConfig false,
      .new pool.poolState false,
      .new userInputAta false,
      .new userOutputAta false,
      .new inputVault false,
      .new outputVault false,
      .newReadonly inputTp false,
      .newReadonly outputTp false,
      .newReadonly inputMint false,
      .newReadonly outputMint false,
      .new pool.observationState false]
    data := encodeU64Pair disc amountIn amountOut }

/-- Swap an exact input on CPMM. -/
def cpmmSwapLeg (user : Pubkey) (pool : CpmmPool) (amountIn minOut : UInt64)
    (inputMint outputMint userInputAta userOutputAta : Pubkey) : Result Leg :=
  cpmmLeg cpmmSwapBaseIn user pool amountIn minOut inputMint outputMint userInputAta
    userOutputAta

/-- Exact-out CPMM swap: `amountOut` fixed, `maxAmountIn` budget. -/
def cpmmSwapExactOutLeg (user : Pubkey) (pool : CpmmPool) (maxAmountIn amountOut : UInt64)
    (inputMint outputMint userInputAta userOutputAta : Pubkey) : Result Leg :=
  -- swap_base_output: max_amount_in, amount_out
  cpmmLeg cpmmSwapBaseOut user pool maxAmountIn amountOut inputMint outputMint userInputAta
    userOutputAta

/-! ## PumpFun -/

/-- PumpFun `user_volume_accumulator` PDA. Must be derived from the
**signer**, never from a foreign event account. -/
def pumpfunUserVolumeAccumulator [Pda] (user : Pubkey) : Pubkey :=
  (Pda.find [ascii "user_volume_accumulator", user.bytes] pumpfunProgram).1

/-- PumpFun `bonding-curve-v2` PDA. -/
def pumpfunBondingCurveV2 [Pda] (mint : Pubkey) : Pubkey :=
  (Pda.find [ascii "bonding-curve-v2", mint.bytes] pumpfunProgram).1

/-- The pool's V2 curve, or the one derived from its mint. -/
def PumpFunPool.curveV2 [Pda] (pool : PumpFunPool) : Pubkey :=
  if pool.bondingCurveV2 = Pubkey.default then pumpfunBondingCurveV2 pool.mint
  else pool.bondingCurveV2

/-- The pool's buyback recipient, or the standard one. -/
def PumpFunPool.buyback (pool : PumpFunPool) : Pubkey :=
  if pool.buybackFeeRecipient = Pubkey.default then pumpfunBuybackFeeRecipient
  else pool.buybackFeeRecipient

/-- PumpFun V1 `buy_exact_sol_in` (18 accounts). -/
def pumpfunBuyLeg [Pda] (user : Pubkey) (pool : PumpFunPool)
    (lamportsIn minTokensOut : UInt64) (userTokenAta : Pubkey) : Leg where
  programId := pumpfunProgram
  accounts := [
    .newReadonly pool.global false,
    .new pool.feeRecipient false,
    .newReadonly pool.mint false,
    .new pool.bondingCurve false,
    .new pool.associatedBondingCurve false,
    .new userTokenAta false,
    .new user true,
    systemProgramMeta,
    .newReadonly pool.mintTokenProgram false,
    .new pool.creatorVault false,
    .newReadonly pool.eventAuthority false,
    pumpfunProgramMeta,
    .newReadonly pool.globalVolumeAccumulator false,
    .new (pumpfunUserVolumeAccumulator user) false,
    .newReadonly pool.feeConfig false,
    .newReadonly pool.feeProgram false,
    .newReadonly pool.curveV2 false,
    .new pool.buyback false]
  -- The last byte is partial_fill: preserve exact-input spending.
  data := encodeU64Pair pumpfunBuyExactSolIn lamportsIn minTokensOut
    ++ [pool.trackVolumeByte, 0]

/-- PumpFun V1 sell. Cashback coins insert `user_volume_accumulator` before
bonding_curve_v2. -/
def pumpfunSellLeg [Pda] (user : Pubkey) (pool : PumpFunPool)
    (tokenIn minSolOut : UInt64) (userTokenAta : Pubkey) : Leg where
  programId := pumpfunProgram
  accounts := [
    .newReadonly pool.global false,
    .new pool.feeRecipient false,
    .newReadonly pool.mint false,
    .new pool.bondingCurve false,
    .new pool.associatedBondingCurve false,
    .new userTokenAta false,
    .new user true,
    systemProgramMeta,
    -- creator_vault before token_program (order differs from buy)
    .new pool.creatorVault false,
    .newReadonly pool.mintTokenProgram false,
    .newReadonly pool.eventAuthority false,
    pumpfunProgramMeta,
    .newReadonly pool.feeConfig false,
    .newReadonly pool.feeProgram false]
    ++ (if pool.isCashbackCoin then [.new (pumpfunUserVolumeAccumulator user) false] else [])
    ++ [.newReadonly pool.curveV2 false, .new pool.buyback false]
  data := encodeU64Pair pumpfunSell tokenIn minSolOut

/-- The accounts of the second generation, which a buy lists one more of. -/
def pumpfunV2Accounts [Pda] (user : Pubkey) (pool : PumpFunPool) (isBuy : Bool) :
    List AccountMeta :=
  let quoteAta := fun owner => ata owner pool.quoteMint pool.quoteTokenProgram
  let sharingConfig := (Pda.find [ascii "sharing-config", pool.mint.bytes] pool.feeProgram).1
  -- Official IDL: UVA PDA seeds = ["user_volume_accumulator", signer].
  let uva := pumpfunUserVolumeAccumulator user
  [ .newReadonly pool.global false,
    .newReadonly pool.mint false,
    .newReadonly pool.quoteMint false,
    .newReadonly pool.mintTokenProgram false,
    .newReadonly pool.quoteTokenProgram false,
    associatedTokenProgramMeta,
    .new pool.feeRecipient false,
    .new (quoteAta pool.feeRecipient) false,
    .new pool.buyback false,
    .new (quoteAta pool.buyback) false,
    .new pool.bondingCurve false,
    .new pool.associatedBondingCurve false,
    .new (quoteAta pool.bondingCurve) false,
    .new user true,
    .new (ata user pool.mint pool.mintTokenProgram) false,
    .new (quoteAta user) false,
    .new pool.creatorVault false,
    .new (quoteAta pool.creatorVault) false,
    .newReadonly sharingConfig false]
    ++ (if isBuy then [.newReadonly pool.globalVolumeAccumulator false] else [])
    ++ [
    .new uva false,
    .new (quoteAta uva) false,
    .newReadonly pool.feeConfig false,
    .newReadonly pool.feeProgram false,
    systemProgramMeta,
    .newReadonly pool.eventAuthority false,
    pumpfunProgramMeta]

/-- Buy there with an exact quote. -/
def pumpfunBuyV2Leg [Pda] (user : Pubkey) (pool : PumpFunPool)
    (quoteIn minTokensOut : UInt64) : Leg where
  programId := pumpfunProgram
  accounts := pumpfunV2Accounts user pool true
  -- The last byte is partial_fill: OptionBool(false).
  data := encodeU64Pair pumpfunBuyExactQuoteInV2 quoteIn minTokensOut ++ [0]

/-- And sell. -/
def pumpfunSellV2Leg [Pda] (user : Pubkey) (pool : PumpFunPool)
    (tokenIn minQuoteOut : UInt64) : Leg where
  programId := pumpfunProgram
  accounts := pumpfunV2Accounts user pool false
  data := encodeU64Pair pumpfunSellV2 tokenIn minQuoteOut

/-! ## PumpSwap -/

/-- The PDA of the pool's coin creator, when it has one. -/
def pumpswapPoolV2Metas [Pda] (pool : PumpSwapPool) : Result (List AccountMeta) :=
  if pool.coinCreator ≠ Pubkey.default then do
    let (poolV2, _) ← okOr (Pda.tryFind [ascii "pool-v2", pool.baseMint.bytes] pumpswapProgram)
      "PumpSwap pool-v2 derivation failed"
    pure [.newReadonly poolV2 false]
  else .ok []

/-- **The accounts of a PumpSwap leg**, by the direction and the kind of pool.
-/
def pumpswapAccounts [Pda] [Upstream] (user : Pubkey) (pool : PumpSwapPool) (isBuy : Bool) :
    Result (List AccountMeta) := do
  requireMintPrograms [(pool.baseMint, pool.baseTokenProgram),
    (pool.quoteMint, pool.quoteTokenProgram)] "PumpSwap"
  Upstream.validatePumpSwapAccounts pool
  let quoteAta := fun owner => ata owner pool.quoteMint pool.quoteTokenProgram
  let (accumulator, _) ← okOr
    (Pda.tryFind [ascii "user_volume_accumulator", user.bytes] pumpswapProgram)
    "PumpSwap user volume accumulator derivation failed"
  let poolV2Metas ← pumpswapPoolV2Metas pool
  let accounts := [
    .new pool.pool false,
    .new user true,
    pumpswapGlobalMeta,
    .newReadonly pool.baseMint false,
    .newReadonly pool.quoteMint false,
    .new (ata user pool.baseMint pool.baseTokenProgram) false,
    .new (quoteAta user) false,
    .new pool.poolBaseTokenAccount false,
    .new pool.poolQuoteTokenAccount false,
    .newReadonly pool.protocolFeeRecipient false,
    .new (quoteAta pool.protocolFeeRecipient) false,
    .newReadonly pool.baseTokenProgram false,
    .newReadonly pool.quoteTokenProgram false,
    systemProgramMeta,
    associatedTokenProgramMeta,
    pumpswapEventAuthorityMeta,
    pumpswapProgramMeta,
    .new pool.coinCreatorVaultAta false,
    .newReadonly pool.coinCreatorVaultAuthority false]
    ++ (if isBuy then [pumpswapGlobalVolumeAccumulatorMeta, .new accumulator false] else [])
    ++ [pumpswapFeeConfigMeta, pumpswapFeeProgramMeta]
    ++ (if pool.isCashbackCoin then
        .new (quoteAta accumulator) false
          :: (if !isBuy then [.new accumulator false] else [])
      else [])
    ++ poolV2Metas
    ++ [.newReadonly pool.buybackFeeRecipient false,
      .new (quoteAta pool.buybackFeeRecipient) false]
  ensureLegAccountBudget accounts.length
  pure accounts

/-- Buy on PumpSwap with an exact quote. -/
def pumpswapBuyLeg [Pda] [Upstream] (user : Pubkey) (pool : PumpSwapPool)
    (quoteIn minBaseOut : UInt64) : Result Leg := do
  let accounts ← pumpswapAccounts user pool true
  pure {
    programId := pumpswapProgram
    accounts := accounts
    -- The last byte tracks the volume of every buy.
    data := encodeU64Pair pumpswapBuyExactQuoteIn quoteIn minBaseOut ++ [1] }

/-- PumpSwap exact-out buy: `baseAmountOut` + `maxQuoteIn`. -/
def pumpswapBuyExactOutLeg [Pda] [Upstream] (user : Pubkey) (pool : PumpSwapPool)
    (baseAmountOut maxQuoteIn : UInt64) : Result Leg := do
  let accounts ← pumpswapAccounts user pool true
  pure {
    programId := pumpswapProgram
    accounts := accounts
    data := encodeU64Pair pumpswapBuy baseAmountOut maxQuoteIn ++ [1] }

/-- And sell. -/
def pumpswapSellLeg [Pda] [Upstream] (user : Pubkey) (pool : PumpSwapPool)
    (baseIn minQuoteOut : UInt64) : Result Leg := do
  let accounts ← pumpswapAccounts user pool false
  pure {
    programId := pumpswapProgram
    accounts := accounts
    data := encodeU64Pair pumpswapSell baseIn minQuoteOut }

/-! ## Raydium AMM V4 -/

/-- The pool's token program; an unset one is the classic program. -/
def RaydiumAmmV4Pool.legTokenProgram (pool : RaydiumAmmV4Pool) : Pubkey :=
  if pool.tokenProgram = Pubkey.default then Sdk.tokenProgram else pool.tokenProgram

/-- An AMM V4 swap. The amounts follow the one-byte tag: the exact input and
the least output, or the most input and the exact output. -/
def raydiumAmmV4Leg [Pda] (tag : UInt8) (user : Pubkey) (pool : RaydiumAmmV4Pool)
    (amountIn amountOut : UInt64) (inputMint : Pubkey) : Result Leg := do
  bailIf (pool.coinMint = Pubkey.default ∨ pool.pcMint = Pubkey.default)
    "Raydium AMM V4 coin/pc mints unset — fill from vaults or AmmInfo before building leg"
  let forward ← inputIsFirst pool.coinMint pool.pcMint inputMint
    "Raydium AMM V4 input mint does not match pool"
  let outputMint := if forward then pool.pcMint else pool.coinMint
  let tp := pool.legTokenProgram
  bailIf (tp ≠ tokenProgram) "Raydium AMM V4 V2 supports only classic SPL Token"
  pure {
    programId := raydiumAmmV4Program
    accounts := [
      .newReadonly tp false,
      .new pool.amm false,
      raydiumAmmV4AuthorityMeta,
      .new pool.tokenCoin false,
      .new pool.tokenPc false,
      .new (ata user inputMint tp) false,
      .new (ata user outputMint tp) false,
      .newReadonly user true]
    data := [tag] ++ ofUInt64 amountIn ++ ofUInt64 amountOut }

/-- Swap an exact input on AMM V4. -/
def raydiumAmmV4SwapLeg [Pda] (user : Pubkey) (pool : RaydiumAmmV4Pool)
    (amountIn minOut : UInt64) (inputMint : Pubkey) : Result Leg :=
  raydiumAmmV4Leg raydiumAmmV4SwapBaseInV2 user pool amountIn minOut inputMint

/-- Exact-out AMM V4 swap (tag 17): max_amount_in + amount_out. -/
def raydiumAmmV4SwapExactOutLeg [Pda] (user : Pubkey) (pool : RaydiumAmmV4Pool)
    (amountOut maxAmountIn : UInt64) (inputMint : Pubkey) : Result Leg :=
  raydiumAmmV4Leg raydiumAmmV4SwapBaseOutV2 user pool maxAmountIn amountOut inputMint

/-! ## Meteora DAMM V2 -/

/-- The slot of the optional referral account. Without one, the program id
fills it, so that no later account shifts. -/
def dammReferralMeta (referral : Option Pubkey) : AccountMeta :=
  match referral with
  | some key =>
    if key ≠ Pubkey.default ∧ key ≠ meteoraDammV2Program then .new key false
    else meteoraDammV2ProgramMeta
  | none => meteoraDammV2ProgramMeta

/-- A DAMM V2 swap, in the mode of the pool. In exact-out mode the first
amount is the output and the second the most input. -/
def meteoraDammV2SwapLeg [Pda] (user : Pubkey) (pool : MeteoraDammV2Pool)
    (amountIn minOut : UInt64) (inputMint : Pubkey) : Result Leg := do
  requireMintPrograms [(pool.tokenAMint, pool.tokenAProgram),
    (pool.tokenBMint, pool.tokenBProgram)] "Meteora DAMM V2"
  bailIf (pool.swapMode = meteoraDammV2PartialFill)
    "Meteora DAMM V2 partial-fill unsupported (router requires exact-in/exact-out spend)"
  bailIf (pool.swapMode ≠ meteoraDammV2ExactIn ∧ pool.swapMode ≠ meteoraDammV2ExactOut)
    s!"unsupported Meteora DAMM V2 swap mode {pool.swapMode}"
  let aToB ← inputIsFirst pool.tokenAMint pool.tokenBMint inputMint
    "Meteora DAMM V2 input mint does not match pool"
  let inputProgram := if aToB then pool.tokenAProgram else pool.tokenBProgram
  let outputMint := if aToB then pool.tokenBMint else pool.tokenAMint
  let outputProgram := if aToB then pool.tokenBProgram else pool.tokenAProgram
  let eventAuthority := (Pda.find [ascii "__event_authority"] meteoraDammV2Program).1
  pure {
    programId := meteoraDammV2Program
    accounts := [
      meteoraDammV2AuthorityMeta,
      .new pool.pool false,
      .new (ata user inputMint inputProgram) false,
      .new (ata user outputMint outputProgram) false,
      .new pool.tokenAVault false,
      .new pool.tokenBVault false,
      .newReadonly pool.tokenAMint false,
      .newReadonly pool.tokenBMint false,
      .newReadonly user true,
      .newReadonly pool.tokenAProgram false,
      .newReadonly pool.tokenBProgram false,
      dammReferralMeta pool.referralTokenAccount,
      .newReadonly eventAuthority false,
      meteoraDammV2ProgramMeta]
      ++ (if pool.includeRateLimiterSysvar then [sysvarInstructionsMeta] else [])
    data := encodeU64Pair meteoraDammV2Swap2 amountIn minOut ++ [pool.swapMode] }

/-! ## Raydium CLMM -/

/-- PDA: `["pool_tick_array_bitmap_extension", pool_state]`. -/
def raydiumClmmTickArrayBitmapExtension [Pda] (poolState : Pubkey) : Pubkey :=
  (Pda.find [ascii "pool_tick_array_bitmap_extension", poolState.bytes] raydiumClmmProgram).1

/-- **Swap an exact input on CLMM**, without a price limit of the caller's. -/
def raydiumClmmSwapLeg [Pda] (user : Pubkey) (pool : RaydiumClmmPool)
    (amountIn minOut : UInt64) (inputMint : Pubkey) : Result Leg := do
  requireMintPrograms [(pool.token0Mint, pool.token0Program),
    (pool.token1Mint, pool.token1Program)] "Raydium CLMM"
  let bitmapPda := raydiumClmmTickArrayBitmapExtension pool.poolState
  bailIf (pool.tickArrayBitmapExtension.any (fun key => key ≠ bitmapPda))
    "Raydium CLMM bitmap extension does not match pool PDA"
  -- A bitmap listed among the tick arrays is moved in front of them.
  let bitmap := if bitmapPda ∈ pool.tickArrays then some bitmapPda
    else pool.tickArrayBitmapExtension
  let tickArrays := pool.tickArrays.filter (fun key => key ≠ bitmapPda)
  bailIf (tickArrays = []) "Raydium CLMM snapshot has no tick arrays"
  requireArrayAddresses tickArrays "Raydium CLMM"
  let zeroForOne ← inputIsFirst pool.token0Mint pool.token1Mint inputMint
    "Raydium CLMM input mint does not match pool"
  let outputMint := if zeroForOne then pool.token1Mint else pool.token0Mint
  let inputVault := if zeroForOne then pool.token0Vault else pool.token1Vault
  let outputVault := if zeroForOne then pool.token1Vault else pool.token0Vault
  let inputProgram := if zeroForOne then pool.token0Program else pool.token1Program
  let outputProgram := if zeroForOne then pool.token1Program else pool.token0Program
  let sqrtLimit := if zeroForOne then minSqrtPriceX64 + 1 else maxSqrtPriceX64 - 1
  let accounts := [
    .newReadonly user true,
    .newReadonly pool.ammConfig false,
    .new pool.poolState false,
    .new (ata user inputMint inputProgram) false,
    .new (ata user outputMint outputProgram) false,
    .new inputVault false,
    .new outputVault false,
    .new pool.observationState false,
    tokenProgramMeta,
    token2022ProgramMeta,
    memoProgramMeta,
    .newReadonly inputMint false,
    .newReadonly outputMint false]
    ++ bitmap.toList.map (fun key => .new key false)
    ++ tickArrays.map (fun key => .new key false)
  ensureLegAccountBudget accounts.length
  pure {
    programId := raydiumClmmProgram
    accounts := accounts
    -- The last byte is is_base_input (exact-in).
    data := encodeU64Pair clmmSwapV2 amountIn minOut ++ ofU128 sqrtLimit ++ [1] }

/-! ## Orca Whirlpool -/

/-- The end of a Whirlpool swap's data: no slices, or one slice of
supplemental tick arrays. -/
def whirlpoolRemainingAccountsInfo (supplemental : List Pubkey) : List UInt8 :=
  if supplemental = [] then [0]
  else [1] ++ [1, 0, 0, 0] ++ [6] ++ [UInt8.ofNat supplemental.length]

/-- **Swap an exact input on a Whirlpool**, with supplementary tick arrays if
there are any. -/
def whirlpoolSwapLeg [Pda] (user : Pubkey) (pool : WhirlpoolPool)
    (amountIn minOut : UInt64) (inputMint : Pubkey) : Result Leg := do
  requireMintPrograms [(pool.mintA, pool.tokenProgramA),
    (pool.mintB, pool.tokenProgramB)] "Orca Whirlpool"
  bailIf (pool.tickArrays.length < 3)
    s!"Whirlpool swap_v2 requires 3 tick arrays (got {pool.tickArrays.length})"
  bailIf (pool.tickArrays.length > 6)
    "Whirlpool allows at most 3 supplemental tick arrays"
  requireArrayAddresses pool.tickArrays "Orca Whirlpool"
  let aToB ← inputIsFirst pool.mintA pool.mintB inputMint
    "Whirlpool input mint does not match pool"
  let tick0 ← index pool.tickArrays 0
  let tick1 ← index pool.tickArrays 1
  let tick2 ← index pool.tickArrays 2
  let sqrtLimit := if aToB then whirlpoolMinSqrtPriceX64 else whirlpoolMaxSqrtPriceX64
  let supplemental := pool.tickArrays.drop 3
  let oracle := (Pda.find [ascii "oracle", pool.whirlpool.bytes] orcaWhirlpoolProgram).1
  let accounts := [
    .newReadonly pool.tokenProgramA false,
    .newReadonly pool.tokenProgramB false,
    memoProgramMeta,
    .newReadonly user true,
    .new pool.whirlpool false,
    .newReadonly pool.mintA false,
    .newReadonly pool.mintB false,
    .new (ata user pool.mintA pool.tokenProgramA) false,
    .new pool.vaultA false,
    .new (ata user pool.mintB pool.tokenProgramB) false,
    .new pool.vaultB false,
    .new tick0 false,
    .new tick1 false,
    .new tick2 false,
    .new oracle false]
    ++ supplemental.map (fun key => .new key false)
  ensureLegAccountBudget accounts.length
  pure {
    programId := orcaWhirlpoolProgram
    accounts := accounts
    -- The price limit is followed by amount_specified_is_input and a_to_b.
    data := encodeU64Pair whirlpoolSwapV2 amountIn minOut ++ ofU128 sqrtLimit
      ++ [1, if aToB then 1 else 0] ++ whirlpoolRemainingAccountsInfo supplemental }

/-! ## Meteora DLMM -/

/-- The slot of the bitmap extension. Without one, the program id fills
it. -/
def dlmmBitmapMeta (bitmap : Option Pubkey) : AccountMeta :=
  match bitmap with
  | some key => if key = meteoraDlmmProgram then .newReadonly key false else .new key false
  | none => .newReadonly meteoraDlmmProgram false

/-- **Swap an exact input on DLMM**, over the bin arrays of the snapshot. -/
def meteoraDlmmSwapLeg [Pda] [Upstream] (user : Pubkey) (pool : MeteoraDlmmPool)
    (amountIn minOut : UInt64) (inputMint : Pubkey) : Result Leg := do
  requireMintPrograms [(pool.tokenXMint, pool.tokenXProgram),
    (pool.tokenYMint, pool.tokenYProgram)] "Meteora DLMM"
  bailIf (pool.binArrays = []) "Meteora DLMM snapshot has no bin arrays"
  requireArrayAddresses pool.binArrays "Meteora DLMM"
  let bitmapPda := Upstream.bitmapExtensionPda pool.lbPair
  bailIf (pool.bitmapExtension.any (fun key => key ≠ bitmapPda && key ≠ meteoraDlmmProgram))
    "Meteora DLMM bitmap extension does not match pair PDA"
  let xToY ← inputIsFirst pool.tokenXMint pool.tokenYMint inputMint
    "Meteora DLMM input mint does not match pool"
  let outputMint := if xToY then pool.tokenYMint else pool.tokenXMint
  let inputProgram :=
    if inputMint = pool.tokenXMint then pool.tokenXProgram else pool.tokenYProgram
  let outputProgram :=
    if outputMint = pool.tokenXMint then pool.tokenXProgram else pool.tokenYProgram
  let accounts := [
    .new pool.lbPair false,
    dlmmBitmapMeta pool.bitmapExtension,
    .new pool.reserveX false,
    .new pool.reserveY false,
    .new (ata user inputMint inputProgram) false,
    .new (ata user outputMint outputProgram) false,
    .newReadonly pool.tokenXMint false,
    .newReadonly pool.tokenYMint false,
    .new pool.oracle false,
    .newReadonly meteoraDlmmProgram false, -- host_fee_in None sentinel
    .newReadonly user true,
    .newReadonly pool.tokenXProgram false,
    .newReadonly pool.tokenYProgram false,
    memoProgramMeta,
    meteoraDlmmEventAuthorityMeta,
    meteoraDlmmProgramMeta]
    ++ pool.binArrays.map (fun key => .new key false)
  ensureLegAccountBudget accounts.length
  pure {
    programId := meteoraDlmmProgram
    accounts := accounts
    -- The last four bytes are remaining_accounts_info: no slices.
    data := encodeU64Pair meteoraDlmmSwap2 amountIn minOut ++ [0, 0, 0, 0] }

end Sdk
