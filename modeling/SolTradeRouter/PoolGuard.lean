import SolTradeRouter.Ata

/-!
# Pool guards

Before a trade is built, its pools are compared with the addresses they are
derived at, or with a list of trusted ones. A guard reads the snapshot and
the policy only, and does nothing when it is switched off.

The policy keeps the trusted pools in a set, of which only membership is
used; a list stands for it here.
-/

namespace Sdk

open Outcome Bytes

/-- How strictly to reject non-canonical / unlisted pools. -/
structure PoolGuardPolicy where
  /-- Master switch (default on). -/
  enabled : Bool
  /-- LaunchLab `platform_config` must be StonkFun standard/reward. -/
  stonkPlatformOnly : Bool
  /-- Explicitly trusted pool addresses. -/
  trustedPools : List Pubkey
  /-- When true, multi-pool AMMs must appear in the trusted pools. -/
  requireTrustedForAmm : Bool

namespace PoolGuardPolicy

/-- On by default, trusting no pool and no platform in particular. -/
protected def default : PoolGuardPolicy := ⟨true, false, [], false⟩

/-- Off – layout / unit tests with synthetic keys. -/
def disabled : PoolGuardPolicy := { PoolGuardPolicy.default with enabled := false }

/-- Stonk-focused: only StonkFun LaunchLab platforms; AMMs must be
allowlisted. -/
def stonkStrict : PoolGuardPolicy := ⟨true, true, [], true⟩

/-- Trust these pools as well. -/
def withTrustedPools (policy : PoolGuardPolicy) (pools : List Pubkey) : PoolGuardPolicy :=
  { policy with trustedPools := policy.trustedPools ++ pools }

/-- Whether a pool is on the list. -/
def isTrusted (policy : PoolGuardPolicy) (pool : Pubkey) : Bool := pool ∈ policy.trustedPools

end PoolGuardPolicy

/-- True for the two StonkFun LaunchLab platform configs. -/
def isStonkfunPlatform (platformConfig : Pubkey) : Bool :=
  platformConfig = stonkfunStandardPlatformConfig ∨ platformConfig = stonkfunRewardPlatformConfig

section Addresses

variable [Pda]

/-- Where LaunchLab keeps the curve of a pair. -/
def launchlabPoolPda (baseMint quoteMint : Pubkey) : Option Pubkey :=
  (Pda.tryFind [ascii "pool", baseMint.bytes, quoteMint.bytes] launchlabProgram).map Prod.fst

/-- A pool's vault for a mint, under the pool's program. -/
def vaultPda (program poolState mint : Pubkey) : Option Pubkey :=
  (Pda.tryFind [ascii "pool_vault", poolState.bytes, mint.bytes] program).map Prod.fst

/-- And a vault of it. -/
def launchlabVaultPda (poolState mint : Pubkey) : Option Pubkey :=
  vaultPda launchlabProgram poolState mint

/-- Where PumpFun keeps the curve of a coin. -/
def pumpfunBondingCurvePda (mint : Pubkey) : Option Pubkey :=
  (Pda.tryFind [ascii "bonding-curve", mint.bytes] pumpfunProgram).map Prod.fst

/-- Creator of the canonical PumpSwap pool. -/
def pumpPoolAuthorityPda (mint : Pubkey) : Pubkey :=
  (Pda.find [ascii "pool-authority", mint.bytes] pumpfunProgram).1

/-- Canonical PumpSwap pool after bonding-curve graduation (WSOL quote). -/
def pumpswapCanonicalPoolPda (mint : Pubkey) : Pubkey :=
  let index : List UInt8 := [0, 0]
  (Pda.find [ascii "pool", index, (pumpPoolAuthorityPda mint).bytes, mint.bytes,
    wsolMint.bytes] pumpswapProgram).1

/-- Where CPMM keeps a vault of a pool. -/
def cpmmVaultPda (poolState mint : Pubkey) : Option Pubkey :=
  vaultPda raydiumCpmmProgram poolState mint

/-- And its observations. -/
def cpmmObservationPda (poolState : Pubkey) : Option Pubkey :=
  (Pda.tryFind [ascii "observation", poolState.bytes] raydiumCpmmProgram).map Prod.fst

/-- And the pool itself, for a configuration and two mints in order. -/
def cpmmPoolPda (ammConfig mintA mintB : Pubkey) : Option Pubkey :=
  (Pda.tryFind [ascii "pool", ammConfig.bytes, mintA.bytes, mintB.bytes]
    raydiumCpmmProgram).map Prod.fst

end Addresses

/-- A pool that is not what it claims to be. -/
def reject (text : String) : Result Unit := bail s!"wild pool rejected: {text}"

/-- Reject a derived account of a pool that is set, but not to the derived
address. An account that cannot be derived is not checked. -/
def rejectDerived (derived : Option Pubkey) (account : Pubkey) (name : String) : Result Unit :=
  match derived with
  | some v =>
    if account ≠ Pubkey.default ∧ account ≠ v then reject s!"{name} {account} ≠ PDA {v}"
    else .ok ()
  | none => .ok ()

/-- What cannot be derived has to be trusted, if the policy says so. -/
def requireTrustedOr (policy : PoolGuardPolicy) (pool : Pubkey) (label : String) :
    Result Unit :=
  if policy.isTrusted pool then .ok ()
  else if policy.requireTrustedForAmm then
    reject (s!"{label} pool {pool} not in trusted_pools "
      ++ "(set require_trusted_for_amm=false or trust())")
  else .ok ()

section Guards

variable [Pda]

/-- Validate a LaunchLab (inner) pool snapshot. -/
def assertLaunchlabOk (pool : LaunchLabPool) (policy : PoolGuardPolicy) : Result Unit :=
  if policy.enabled = false then .ok ()
  else if policy.isTrusted pool.poolState then .ok ()
  else if policy.stonkPlatformOnly && !isStonkfunPlatform pool.platformConfig then
    reject s!"LaunchLab platform_config {pool.platformConfig} is not StonkFun"
  else do
    let expected ← okOr (launchlabPoolPda pool.baseMint pool.quoteMint)
      "LaunchLab pool PDA derivation failed"
    if pool.poolState ≠ expected then
      reject (s!"LaunchLab pool_state {pool.poolState} ≠ PDA {expected} "
        ++ s!"for {pool.baseMint} / {pool.quoteMint}")
    else do
      rejectDerived (launchlabVaultPda pool.poolState pool.baseMint) pool.baseVault
        "LaunchLab base_vault"
      rejectDerived (launchlabVaultPda pool.poolState pool.quoteMint) pool.quoteVault
        "LaunchLab quote_vault"

/-- Validate a PumpFun bonding-curve snapshot. -/
def assertPumpfunOk (pool : PumpFunPool) (policy : PoolGuardPolicy) : Result Unit :=
  if policy.enabled = false then .ok ()
  else if policy.isTrusted pool.bondingCurve then .ok ()
  else do
    let expected ← okOr (pumpfunBondingCurvePda pool.mint)
      "PumpFun bonding-curve PDA derivation failed"
    if pool.bondingCurve ≠ expected then
      reject (s!"PumpFun bonding_curve {pool.bondingCurve} ≠ PDA {expected} "
        ++ s!"for mint {pool.mint}")
    else pure ()

/-- Validate PumpSwap: WSOL-quote pools must be the canonical graduation PDA
(unless allowlisted). -/
def assertPumpswapOk (pool : PumpSwapPool) (policy : PoolGuardPolicy) : Result Unit :=
  if policy.enabled = false then .ok ()
  else if policy.isTrusted pool.pool then .ok ()
  else if pool.quoteMint = wsolMint then
    let canonical := pumpswapCanonicalPoolPda pool.baseMint
    if pool.pool = canonical then .ok ()
    else reject (s!"PumpSwap pool {pool.pool} ≠ canonical {canonical} "
      ++ s!"for mint {pool.baseMint} (wild / non-graduation pool)")
  else requireTrustedOr policy pool.pool "PumpSwap non-WSOL"

/-- Structural CPMM checks, and the pool's PDA when its config is known. -/
def assertCpmmOk (pool : CpmmPool) (policy : PoolGuardPolicy) : Result Unit :=
  if policy.enabled = false then .ok ()
  else if policy.isTrusted pool.poolState then .ok ()
  else do
    requireTrustedOr policy pool.poolState "CPMM"
    let a := cpmmPoolPda pool.ammConfig pool.baseMint pool.quoteMint
    let b := cpmmPoolPda pool.ammConfig pool.quoteMint pool.baseMint
    if pool.ammConfig ≠ Pubkey.default ∧ a ≠ some pool.poolState ∧ b ≠ some pool.poolState then
      reject (s!"CPMM pool_state {pool.poolState} does not match PDA "
        ++ s!"for amm_config {pool.ammConfig}")
    else do
      rejectDerived (cpmmVaultPda pool.poolState pool.baseMint) pool.baseVault "CPMM base_vault"
      rejectDerived (cpmmVaultPda pool.poolState pool.quoteMint) pool.quoteVault
        "CPMM quote_vault"
      rejectDerived (cpmmObservationPda pool.poolState) pool.observationState
        "CPMM observation_state"

omit [Pda] in
/-- Pools without a derivation are listed or refused. -/
def assertAmmListed (policy : PoolGuardPolicy) (pool : Pubkey) (label : String) :
    Result Unit :=
  if policy.enabled = false then .ok () else requireTrustedOr policy pool label

/-- Validate a single market snapshot. -/
def assertMarketOk (market : Market) (policy : PoolGuardPolicy) : Result Unit :=
  match market with
  | .launchLabInner p => assertLaunchlabOk p policy
  | .pumpFunInner p => assertPumpfunOk p policy
  | .pumpSwapOuter p => assertPumpswapOk p policy
  | .cpmmOuter p => assertCpmmOk p policy
  | .raydiumAmmV4 p => assertAmmListed policy p.amm "Raydium AmmV4"
  | .meteoraDammV2 p => assertAmmListed policy p.pool "Meteora DAMM V2"
  | .raydiumClmm p => assertAmmListed policy p.poolState "Raydium CLMM"
  | .whirlpool p => assertAmmListed policy p.whirlpool "Orca Whirlpool"
  | .meteoraDlmm p => assertAmmListed policy p.lbPair "Meteora DLMM"

/-- **Validate market + optional SOL↔quote bridge.** -/
def assertRoutedMarketOk (routed : RoutedMarket) (policy : PoolGuardPolicy) : Result Unit := do
  assertMarketOk routed.market policy
  match routed.bridge with
  | none => pure ()
  | some (.cpmm p) => assertCpmmOk p policy
  | some (.ammV4 p) => assertAmmListed policy p.amm "Raydium AmmV4 bridge"

end Guards

end Sdk
