import SolTradeRouter.BuiltSwaps
import SolTradeRouter.Trade

/-!
# What a guard admits

A guard that is switched on admits a pool that is trusted, and a pool that
is pinned: one whose snapshot satisfies what the policy asks of its kind.
This is the whole of it (`assertMarketOk_iff`), so that what a strict policy
admits, and how a looser one compares, are read off the conditions.

A strict policy admits no wild pool: what is not trusted is at the address
derived from its own mints, and no bridge is admitted that is not trusted.
The vaults of a LaunchLab pool are compared with their derived addresses,
where these exist.
-/

namespace Sdk

open Outcome Bytes

/-! ## Looser policies -/

/-- **One policy is at most as strict as another.** -/
structure PoolGuardPolicy.Loosens (strict loose : PoolGuardPolicy) : Prop where
  trusted : ∀ pool ∈ strict.trustedPools, pool ∈ loose.trustedPools
  platform : loose.stonkPlatformOnly = true → strict.stonkPlatformOnly = true
  listed : loose.requireTrustedForAmm = true → strict.requireTrustedForAmm = true
  enabled : loose.enabled = true → strict.enabled = true

namespace PoolGuardPolicy

variable (policy : PoolGuardPolicy)

/-- Trusting more pools loosens. -/
theorem loosens_withTrustedPools (pools : List Pubkey) :
    policy.Loosens (policy.withTrustedPools pools) :=
  ⟨fun _ hpool => List.mem_append_left _ hpool, id, id, id⟩

/-- So does no longer requiring trust. -/
theorem loosens_requireTrustedForAmm :
    policy.Loosens { policy with requireTrustedForAmm := false } :=
  ⟨fun _ => id, id, (fun h => by cases h), id⟩

/-- So does admitting every platform. -/
theorem loosens_stonkPlatformOnly : policy.Loosens { policy with stonkPlatformOnly := false } :=
  ⟨fun _ => id, (fun h => by cases h), id, id⟩

/-- And so does turning the guard off. -/
theorem loosens_enabled : policy.Loosens { policy with enabled := false } :=
  ⟨fun _ => id, id, id, fun h => by cases h⟩

end PoolGuardPolicy

/-! ## Pinned pools -/

/-- **The pool a market swaps on.** -/
def Market.swapPool : Market → Pubkey
  | .launchLabInner p => p.poolState
  | .cpmmOuter p => p.poolState
  | .pumpFunInner p => p.bondingCurve
  | .pumpSwapOuter p => p.pool
  | .raydiumAmmV4 p => p.amm
  | .meteoraDammV2 p => p.pool
  | .raydiumClmm p => p.poolState
  | .whirlpool p => p.whirlpool
  | .meteoraDlmm p => p.lbPair

/-- A bridge is a pool like others. -/
def BridgePool.asMarket : BridgePool → Market
  | .cpmm p => .cpmmOuter p
  | .ammV4 p => .raydiumAmmV4 p

/-- The pool a bridge swaps on. -/
def BridgePool.swapPool (bridge : BridgePool) : Pubkey := bridge.asMarket.swapPool

/-- **An account is the derived one**, unless it is unset or there is none. -/
def IsDerived (derived : Option Pubkey) (account : Pubkey) : Prop :=
  ∀ v, derived = some v → account ≠ Pubkey.default → account = v

/-- An account passes if it is the derived one, or none can be derived. -/
theorem rejectDerived_eq_ok {derived : Option Pubkey} {account : Pubkey} {name : String} :
    rejectDerived derived account name = .ok () ↔ IsDerived derived account := by
  unfold rejectDerived IsDerived
  cases derived with
  | none => exact ⟨fun _ v hv => (by cases hv), fun _ => rfl⟩
  | some v =>
    dsimp only
    split
    · rename_i h
      exact ⟨fun hok => (by cases hok), fun hderived => absurd (hderived v rfl h.1) h.2⟩
    · rename_i h
      refine ⟨fun _ w hw hset => ?_, fun _ => rfl⟩
      cases hw
      exact not_not.mp fun hne => h ⟨hset, hne⟩

section Guards

variable [Pda]

/-- **What a policy asks of a pool that is not trusted.** The pools of an AMM
that may have several are not asked for, or admitted for their accounts. -/
def Market.Pinned (policy : PoolGuardPolicy) : Market → Prop
  | .launchLabInner p =>
    (policy.stonkPlatformOnly = true → isStonkfunPlatform p.platformConfig = true)
      ∧ launchlabPoolPda p.baseMint p.quoteMint = some p.poolState
      ∧ IsDerived (launchlabVaultPda p.poolState p.baseMint) p.baseVault
      ∧ IsDerived (launchlabVaultPda p.poolState p.quoteMint) p.quoteVault
  | .pumpFunInner p => pumpfunBondingCurvePda p.mint = some p.bondingCurve
  | .pumpSwapOuter p =>
    (p.quoteMint = wsolMint → p.pool = pumpswapCanonicalPoolPda p.baseMint)
      ∧ (p.quoteMint ≠ wsolMint → ¬ policy.requireTrustedForAmm = true)
  | .cpmmOuter p =>
    ¬ policy.requireTrustedForAmm = true
      ∧ (p.ammConfig ≠ Pubkey.default →
        cpmmPoolPda p.ammConfig p.baseMint p.quoteMint = some p.poolState
          ∨ cpmmPoolPda p.ammConfig p.quoteMint p.baseMint = some p.poolState)
      ∧ IsDerived (cpmmVaultPda p.poolState p.baseMint) p.baseVault
      ∧ IsDerived (cpmmVaultPda p.poolState p.quoteMint) p.quoteVault
      ∧ IsDerived (cpmmObservationPda p.poolState) p.observationState
  | _ => ¬ policy.requireTrustedForAmm = true

/-- **What a guard admits**: all if it is switched off, and else the pools
that are trusted or pinned. -/
def Market.Admitted (policy : PoolGuardPolicy) (market : Market) : Prop :=
  policy.enabled = true → market.swapPool ∈ policy.trustedPools ∨ market.Pinned policy

omit [Pda] in
/-- The two early accepts of every guard. -/
theorem guard_eq_ok {policy : PoolGuardPolicy} {pool : Pubkey} {rest : Result Unit} {P : Prop}
    (hrest : pool ∉ policy.trustedPools → (rest = .ok () ↔ P)) :
    (if policy.enabled = false then .ok () else if policy.isTrusted pool then .ok () else rest)
        = .ok ()
      ↔ (policy.enabled = true → pool ∈ policy.trustedPools ∨ P) := by
  have htrusted : policy.isTrusted pool = true ↔ pool ∈ policy.trustedPools :=
    decide_eq_true_iff
  by_cases hoff : policy.enabled = false
  · rw [if_pos hoff, hoff]
    exact ⟨fun _ h => (by cases h), fun _ => rfl⟩
  · have hon : policy.enabled = true := Bool.eq_true_of_not_eq_false hoff
    rw [if_neg hoff]
    by_cases hlisted : policy.isTrusted pool = true
    · rw [if_pos hlisted]
      exact ⟨fun _ _ => .inl (htrusted.mp hlisted), fun _ => rfl⟩
    · have hnot : pool ∉ policy.trustedPools := fun hmem => hlisted (htrusted.mpr hmem)
      rw [if_neg hlisted, hrest hnot]
      exact ⟨fun h _ => .inr h, fun h => (h hon).resolve_left hnot⟩

omit [Pda] in
/-- A pool passes on trust, or where none is required. -/
theorem requireTrustedOr_eq_ok {policy : PoolGuardPolicy} {pool : Pubkey} {label : String} :
    requireTrustedOr policy pool label = .ok ()
      ↔ pool ∈ policy.trustedPools ∨ ¬ policy.requireTrustedForAmm = true := by
  have htrusted : policy.isTrusted pool = true ↔ pool ∈ policy.trustedPools :=
    decide_eq_true_iff
  unfold requireTrustedOr
  by_cases hlisted : policy.isTrusted pool = true
  · rw [if_pos hlisted]
    exact ⟨fun _ => .inl (htrusted.mp hlisted), fun _ => rfl⟩
  · rw [if_neg hlisted, or_iff_right (fun hmem => hlisted (htrusted.mpr hmem))]
    by_cases hrequire : policy.requireTrustedForAmm = true
    · rw [if_pos hrequire]
      exact ⟨fun h => (by cases h), fun h => absurd hrequire h⟩
    · rw [if_neg hrequire]
      exact ⟨fun _ => hrequire, fun _ => rfl⟩

omit [Pda] in
/-- A listed pool passes, and any does with the guard off. -/
theorem assertAmmListed_eq_ok {policy : PoolGuardPolicy} {pool : Pubkey} {label : String} :
    assertAmmListed policy pool label = .ok ()
      ↔ (policy.enabled = true →
        pool ∈ policy.trustedPools ∨ ¬ policy.requireTrustedForAmm = true) := by
  unfold assertAmmListed
  cases hon : policy.enabled with
  | false => exact ⟨fun _ h => (by cases h), fun _ => rfl⟩
  | true =>
    rw [if_neg (by decide), requireTrustedOr_eq_ok]
    exact ⟨fun h _ => h, fun h => h rfl⟩

omit [Pda] in
/-- A check that rejects, before others. -/
theorem ite_reject_eq_ok {c : Prop} [Decidable c] {text : String} {rest : Result Unit} :
    (if c then reject text else rest) = .ok () ↔ ¬ c ∧ rest = .ok () := by
  by_cases hc : c
  · rw [if_pos hc]
    exact ⟨fun h => (by cases h), fun h => absurd hc h.1⟩
  · rw [if_neg hc]
    exact (and_iff_right hc).symm

omit [Pda] in
/-- A check, before others. -/
theorem andThen_eq_ok {check rest : Result Unit} :
    (check >>= fun _ => rest) = .ok () ↔ check = .ok () ∧ rest = .ok () := by
  rw [bind_eq_ok]
  exact ⟨fun ⟨_, hcheck, hrest⟩ => ⟨hcheck, hrest⟩, fun ⟨hcheck, hrest⟩ => ⟨(), hcheck, hrest⟩⟩

omit [Pda] in
/-- A check that a pool is where it is derived, before others. -/
theorem okOr_reject_eq_ok {derived : Option Pubkey} {pool : Pubkey} {missing : String}
    {text : Pubkey → String} {rest : Result Unit} :
    (okOr derived missing >>= fun expected =>
        if pool ≠ expected then reject (text expected) else rest) = .ok ()
      ↔ derived = some pool ∧ rest = .ok () := by
  rw [bind_eq_ok]
  constructor
  · rintro ⟨expected, hderived, h⟩
    obtain ⟨hsame, hrest⟩ := ite_reject_eq_ok.mp h
    rw [okOr_eq_ok.mp hderived, not_not.mp hsame]
    exact ⟨rfl, hrest⟩
  · rintro ⟨rfl, hrest⟩
    exact ⟨pool, rfl, ite_reject_eq_ok.mpr ⟨not_not.mpr rfl, hrest⟩⟩

/-- The check of a LaunchLab curve admits it as a market. -/
theorem assertLaunchlabOk_eq_ok {pool : LaunchLabPool} {policy : PoolGuardPolicy} :
    assertLaunchlabOk pool policy = .ok () ↔ (Market.launchLabInner pool).Admitted policy := by
  refine guard_eq_ok fun _ => ?_
  rw [ite_reject_eq_ok, okOr_reject_eq_ok, andThen_eq_ok, rejectDerived_eq_ok,
    rejectDerived_eq_ok, Bool.and_eq_true, Bool.not_eq_true', not_and, Bool.not_eq_false]
  exact Iff.rfl

/-- That of a PumpFun curve does. -/
theorem assertPumpfunOk_eq_ok {pool : PumpFunPool} {policy : PoolGuardPolicy} :
    assertPumpfunOk pool policy = .ok () ↔ (Market.pumpFunInner pool).Admitted policy := by
  refine guard_eq_ok fun _ => okOr_reject_eq_ok.trans ?_
  exact and_iff_left rfl

/-- That of a PumpSwap pool does. -/
theorem assertPumpswapOk_eq_ok {pool : PumpSwapPool} {policy : PoolGuardPolicy} :
    assertPumpswapOk pool policy = .ok () ↔ (Market.pumpSwapOuter pool).Admitted policy := by
  refine guard_eq_ok fun hnot => ?_
  by_cases hquote : pool.quoteMint = wsolMint
  · rw [if_pos hquote]
    dsimp only
    by_cases hcanonical : pool.pool = pumpswapCanonicalPoolPda pool.baseMint
    · rw [if_pos hcanonical]
      exact ⟨fun _ => ⟨fun _ => hcanonical, absurd hquote⟩, fun _ => rfl⟩
    · rw [if_neg hcanonical]
      exact ⟨fun h => (by cases h), fun h => absurd (h.1 hquote) hcanonical⟩
  · rw [if_neg hquote, requireTrustedOr_eq_ok, or_iff_right hnot]
    exact ⟨fun h => ⟨fun h' => absurd h' hquote, fun _ => h⟩, fun h => h.2 hquote⟩

/-- And that of a CPMM pool. -/
theorem assertCpmmOk_eq_ok {pool : CpmmPool} {policy : PoolGuardPolicy} :
    assertCpmmOk pool policy = .ok () ↔ (Market.cpmmOuter pool).Admitted policy := by
  refine guard_eq_ok fun hnot => ?_
  rw [andThen_eq_ok, requireTrustedOr_eq_ok, or_iff_right hnot]
  dsimp only
  rw [ite_reject_eq_ok, andThen_eq_ok, andThen_eq_ok, rejectDerived_eq_ok, rejectDerived_eq_ok,
    rejectDerived_eq_ok, not_and, not_and_or, not_not, not_not]
  exact Iff.rfl

/-- **A guard admits what it should**, and nothing else. -/
theorem assertMarketOk_iff {market : Market} {policy : PoolGuardPolicy} :
    assertMarketOk market policy = .ok () ↔ market.Admitted policy := by
  cases market with
  | launchLabInner pool => exact assertLaunchlabOk_eq_ok
  | pumpFunInner pool => exact assertPumpfunOk_eq_ok
  | pumpSwapOuter pool => exact assertPumpswapOk_eq_ok
  | cpmmOuter pool => exact assertCpmmOk_eq_ok
  | raydiumAmmV4 pool => exact assertAmmListed_eq_ok
  | meteoraDammV2 pool => exact assertAmmListed_eq_ok
  | raydiumClmm pool => exact assertAmmListed_eq_ok
  | whirlpool pool => exact assertAmmListed_eq_ok
  | meteoraDlmm pool => exact assertAmmListed_eq_ok

/-- **A route's pools are admitted one by one.** -/
theorem assertRoutedMarketOk_iff {routed : RoutedMarket} {policy : PoolGuardPolicy} :
    assertRoutedMarketOk routed policy = .ok ()
      ↔ routed.market.Admitted policy
        ∧ ∀ bridge, routed.bridge = some bridge → bridge.asMarket.Admitted policy := by
  obtain ⟨market, bridge⟩ := routed
  refine andThen_eq_ok.trans (and_congr assertMarketOk_iff ?_)
  cases bridge with
  | none => exact ⟨fun _ bridge h => (by cases h), fun _ => rfl⟩
  | some bridge =>
    have hone : bridge.asMarket.Admitted policy
        ↔ ∀ b, some bridge = some b → b.asMarket.Admitted policy := by
      refine ⟨fun h b hb => ?_, fun h => h bridge rfl⟩
      cases hb
      exact h
    cases bridge with
    | cpmm pool => exact assertCpmmOk_eq_ok.trans hone
    | ammV4 pool => exact assertAmmListed_eq_ok.trans hone

/-- **A trade is built on admitted pools only.** -/
theorem RouterClient.admitted [Upstream] {client : RouterClient} {amountIn : UInt64}
    {routed : RoutedMarket} {opts : TradeOpts} {trade : BuiltTrade}
    (h : client.buyWithOpts amountIn routed opts = .ok trade
      ∨ client.sellWithOpts amountIn routed opts = .ok trade) :
    routed.market.Admitted client.poolGuard
      ∧ ∀ bridge, routed.bridge = some bridge → bridge.asMarket.Admitted client.poolGuard := by
  apply assertRoutedMarketOk_iff.mp
  rcases h with h | h
  · obtain ⟨_, -, h⟩ := bind_eq_ok.mp h
    obtain ⟨_, hguard, -⟩ := bind_eq_ok.mp h
    exact hguard
  · obtain ⟨_, -, h⟩ := bind_eq_ok.mp h
    obtain ⟨_, hguard, -⟩ := bind_eq_ok.mp h
    exact hguard

/-! ## Comparing policies -/

variable {strict loose : PoolGuardPolicy}

/-- What a policy asks of a pool, a looser one asks too, or does not ask. -/
theorem Market.Pinned.mono (h : strict.Loosens loose) {market : Market}
    (hpinned : market.Pinned strict) : market.Pinned loose := by
  have hlisted : ¬ strict.requireTrustedForAmm = true → ¬ loose.requireTrustedForAmm = true :=
    mt h.listed
  cases market with
  | launchLabInner pool => exact ⟨fun hplatform => hpinned.1 (h.platform hplatform), hpinned.2⟩
  | pumpFunInner pool => exact hpinned
  | pumpSwapOuter pool => exact ⟨hpinned.1, fun hquote => hlisted (hpinned.2 hquote)⟩
  | cpmmOuter pool => exact ⟨hlisted hpinned.1, hpinned.2⟩
  | raydiumAmmV4 pool => exact hlisted hpinned
  | meteoraDammV2 pool => exact hlisted hpinned
  | raydiumClmm pool => exact hlisted hpinned
  | whirlpool pool => exact hlisted hpinned
  | meteoraDlmm pool => exact hlisted hpinned

/-- **What a strict policy admits, a looser one does.** -/
theorem Market.Admitted.mono (h : strict.Loosens loose) {market : Market}
    (hadmitted : market.Admitted strict) : market.Admitted loose := by
  intro hon
  rcases hadmitted (h.enabled hon) with htrusted | hpinned
  · exact .inl (h.trusted _ htrusted)
  · exact .inr (hpinned.mono h)

/-- **A looser policy accepts** what a stricter one does. -/
theorem assertRoutedMarketOk_mono (h : strict.Loosens loose) {routed : RoutedMarket}
    (hok : assertRoutedMarketOk routed strict = .ok ()) :
    assertRoutedMarketOk routed loose = .ok () := by
  obtain ⟨hmarket, hbridge⟩ := assertRoutedMarketOk_iff.mp hok
  exact assertRoutedMarketOk_iff.mpr
    ⟨hmarket.mono h, fun bridge hsome => (hbridge bridge hsome).mono h⟩

/-! ## The strict policy -/

/-- **The pool is at the address derived from its own mints.** A LaunchLab
pool is on the platform as well, and a PumpSwap pool is quoted in WSOL. The
pools of the other markets are not derived. -/
def Market.Derived : Market → Prop
  | .launchLabInner p =>
    launchlabPoolPda p.baseMint p.quoteMint = some p.poolState
      ∧ isStonkfunPlatform p.platformConfig = true
  | .pumpFunInner p => pumpfunBondingCurvePda p.mint = some p.bondingCurve
  | .pumpSwapOuter p => p.quoteMint = wsolMint ∧ p.pool = pumpswapCanonicalPoolPda p.baseMint
  | _ => False

/-- A pool that a strict policy pins is a derived one. -/
theorem Market.Pinned.derived {policy : PoolGuardPolicy} {market : Market}
    (hplatform : policy.stonkPlatformOnly = true) (hlisted : policy.requireTrustedForAmm = true)
    (h : market.Pinned policy) : market.Derived := by
  cases market with
  | launchLabInner pool => exact ⟨h.2.1, h.1 hplatform⟩
  | pumpFunInner pool => exact h
  | pumpSwapOuter pool =>
    have hquote : pool.quoteMint = wsolMint := not_not.mp fun hne => h.2 hne hlisted
    exact ⟨hquote, h.1 hquote⟩
  | cpmmOuter pool => exact absurd hlisted h.1
  | raydiumAmmV4 pool => exact absurd hlisted h
  | meteoraDammV2 pool => exact absurd hlisted h
  | raydiumClmm pool => exact absurd hlisted h
  | whirlpool pool => exact absurd hlisted h
  | meteoraDlmm pool => exact absurd hlisted h

/-- A bridge is never derived. -/
theorem BridgePool.not_derived (bridge : BridgePool) : ¬ bridge.asMarket.Derived := by
  cases bridge <;> exact id

/-- **The vaults of an admitted LaunchLab pool** that is not trusted are the
derived ones. -/
theorem Market.Admitted.vaults {policy : PoolGuardPolicy} {pool : LaunchLabPool}
    (hon : policy.enabled = true) (huntrusted : pool.poolState ∉ policy.trustedPools)
    (h : (Market.launchLabInner pool).Admitted policy) :
    IsDerived (launchlabVaultPda pool.poolState pool.baseMint) pool.baseVault
      ∧ IsDerived (launchlabVaultPda pool.poolState pool.quoteMint) pool.quoteVault := by
  obtain ⟨-, -, hbase, hquote⟩ := (h hon).resolve_left huntrusted
  exact ⟨hbase, hquote⟩

/-- **A strict guard admits no wild pool.** What it accepts swaps on a trusted
pool or on a derived one, goes over no bridge that is not trusted, and keeps
its curve's vaults where they are derived, if they are. What any guard accepts
it accepts as well with more trusted pools, with a condition less, and
switched off. -/
theorem assertRoutedMarketOk_strict (routed : RoutedMarket) (policy : PoolGuardPolicy)
    (h : assertRoutedMarketOk routed policy = .ok ()) :
    (policy.enabled = true → policy.stonkPlatformOnly = true →
      policy.requireTrustedForAmm = true →
        (routed.market.swapPool ∈ policy.trustedPools ∨ routed.market.Derived)
          ∧ (∀ bridge, routed.bridge = some bridge → bridge.swapPool ∈ policy.trustedPools)
          ∧ ∀ pool, routed.market = .launchLabInner pool →
            pool.poolState ∉ policy.trustedPools →
              IsDerived (launchlabVaultPda pool.poolState pool.baseMint) pool.baseVault
                ∧ IsDerived (launchlabVaultPda pool.poolState pool.quoteMint) pool.quoteVault)
      ∧ (∀ pools, assertRoutedMarketOk routed (policy.withTrustedPools pools) = .ok ())
      ∧ assertRoutedMarketOk routed { policy with requireTrustedForAmm := false } = .ok ()
      ∧ assertRoutedMarketOk routed { policy with stonkPlatformOnly := false } = .ok ()
      ∧ assertRoutedMarketOk routed { policy with enabled := false } = .ok () := by
  refine ⟨fun hon hplatform hlisted => ?_,
    fun pools => assertRoutedMarketOk_mono (policy.loosens_withTrustedPools pools) h,
    assertRoutedMarketOk_mono policy.loosens_requireTrustedForAmm h,
    assertRoutedMarketOk_mono policy.loosens_stonkPlatformOnly h,
    assertRoutedMarketOk_mono policy.loosens_enabled h⟩
  obtain ⟨hmarket, hbridge⟩ := assertRoutedMarketOk_iff.mp h
  refine ⟨(hmarket hon).imp_right (·.derived hplatform hlisted), fun bridge hsome => ?_,
    fun pool hpool huntrusted => ?_⟩
  · refine (hbridge bridge hsome hon).resolve_right fun hpinned => ?_
    exact bridge.not_derived (hpinned.derived hplatform hlisted)
  · rw [hpool] at hmarket
    exact hmarket.vaults hon huntrusted

end Guards

/-- A curve of the platform, derived where the last seed says. -/
def samplePinned : LaunchLabPool where
  baseMint := sampleKey 10
  quoteMint := sampleKey 11
  baseTokenProgram := tokenProgram
  quoteTokenProgram := tokenProgram
  poolState := sampleKey 11
  baseVault := sampleKey 10
  quoteVault := sampleKey 11
  platformConfig := stonkfunStandardPlatformConfig
  platformAssociatedAccount := sampleKey 16
  creatorAssociatedAccount := sampleKey 17
  globalConfig := sampleKey 18
  virtualBase := 1000
  virtualQuote := 1000
  realBase := 400
  realQuote := 600
  totalBaseSell := 500
  curveType := 0
  feeRatesKnown := true
  tradeFeeRate := 10000
  platformFeeRate := 0
  creatorFeeRate := 0
  baseTransferFee := TokenTransferFee.none
  quoteTransferFee := TokenTransferFee.none

/-- It is admitted, and with its address among the trusted ones still is. -/
theorem samplePinned_admitted :
    letI := BuiltSwaps.lastSeedPda
    (Market.launchLabInner samplePinned).Derived
      ∧ assertRoutedMarketOk ⟨.launchLabInner samplePinned, none⟩
        (PoolGuardPolicy.stonkStrict.withTrustedPools [sampleKey 11]) = .ok () := by
  let := BuiltSwaps.lastSeedPda
  obtain ⟨hstrict, htrust, -⟩ := assertRoutedMarketOk_strict
    ⟨.launchLabInner samplePinned, none⟩ .stonkStrict rfl
  obtain ⟨hpool, -, -⟩ := hstrict rfl rfl rfl
  exact ⟨hpool.resolve_left (by decide), htrust _⟩

/-- A derivation that finds every address but those of vaults. -/
@[reducible] def vaultlessPda : Pda where
  find := BuiltSwaps.lastSeedPda.find
  tryFind seeds program :=
    if seeds.head? = some (ascii "pool_vault") then none
    else BuiltSwaps.lastSeedPda.tryFind seeds program
  create := BuiltSwaps.lastSeedPda.create

/-- **A vault is not compared with an address that does not exist**: the
strict guard admits a curve whose vault is set and is not derived. -/
theorem vault_not_derived :
    letI := vaultlessPda
    assertRoutedMarketOk ⟨.launchLabInner samplePinned, none⟩ .stonkStrict = .ok ()
      ∧ samplePinned.poolState ∉ PoolGuardPolicy.stonkStrict.trustedPools
      ∧ samplePinned.baseVault ≠ Pubkey.default
      ∧ launchlabVaultPda samplePinned.poolState samplePinned.baseMint
        ≠ some samplePinned.baseVault := by
  let := vaultlessPda
  exact ⟨rfl, by decide, by decide, by decide⟩

end Sdk
