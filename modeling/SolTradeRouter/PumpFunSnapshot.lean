import SolTradeRouter.MintProgram
import SolTradeRouter.PumpFunV3

/-!
# Refreshing a PumpFun snapshot

A refresh reads the curve, the program's global account, the fee schedule and
the two mints, and writes what quotes and instructions need into the pool. The
checks and most readings come before the first assignment; the choice of the
two fee recipients comes between assignments, and it fails where the global
account is too short or names no recipient. What was assigned before stays.

The fee schedule is decoded by code of another package: its reader and its
tier function are parameters.
-/

namespace Sdk

open Outcome Bytes

/-! ## Readers -/

def u64At (data : List UInt8) (offset : ℕ) : Result UInt64 := do
  let bytes ← okOr (range? data offset (offset + 8)) s!"truncated PumpFun account at {offset}"
  pure (toUInt64 bytes)

def keyAt (data : List UInt8) (offset : ℕ) : Result Pubkey := do
  let bytes ← okOr (range? data offset (offset + 32)) s!"truncated PumpFun key at {offset}"
  okOr (Pubkey.ofBytes? bytes) "could not convert slice to array"

/-- The first of the further recipients, up to a number of them. -/
def otherKeys (data : List UInt8) (others : ℕ) : ℕ → Result (List Pubkey)
  | 0 => pure []
  | i + 1 => do
    let keys ← otherKeys data others i
    let key ← keyAt data (others + i * 32)
    pure (keys ++ [key])

/-- The eight recipients at two places of the global account. -/
def recipientKeys (data : List UInt8) (first others : ℕ) : Result (List Pubkey) := do
  let key ← keyAt data first
  let keys ← otherKeys data others 7
  pure (key :: keys)

def chooseRecipient (data : List UInt8) (first others : ℕ) (current : Pubkey) :
    Result Pubkey := do
  let keys ← recipientKeys data first others
  if current ≠ Pubkey.default ∧ current ∈ keys then pure current
  else okOr (keys.find? (· ≠ Pubkey.default)) "PumpFun Global has no valid fee recipient"

/-! ## Fee schedules -/

/-- `pfeeUxB6jkeY1Hxd7CsFCAjcbHA9rWtchMGdZ6VojVZ`. -/
def pumpfunFeeProgram : Pubkey :=
  .ofBytes [12, 53, 255, 169, 5, 90, 142, 86, 141, 168, 247, 188, 7, 86, 21, 39,
    76, 241, 201, 44, 164, 31, 64, 0, 156, 81, 106, 164, 20, 194, 124, 112] rfl

structure FeeBasisPoints where
  lpFeeBasisPoints : UInt64
  protocolFeeBasisPoints : UInt64
  coinCreatorFeeBasisPoints : UInt64
  deriving DecidableEq

structure FeeConfig (Tier : Type) where
  feeTiers : List Tier
  stableFeeTiers : List Tier
  flatFees : FeeBasisPoints
  exoticFlatFees : FeeBasisPoints

/-- The functions of the fee program's package. -/
class FeeSchedules where
  Tier : Type
  decodeFeeConfig : List UInt8 → Option (FeeConfig Tier)
  calculateFeeTier : List Tier → ℕ → Option FeeBasisPoints

/-- The fees in force: of the schedule, by the market capitalization where the
quote is a common one, or of the global account. -/
def readFees [FeeSchedules] (quoteMint : Pubkey) (global : Account) (config : Option Account)
    (supply baseReserve quoteReserve : UInt64) : Result FeeBasisPoints :=
  match config with
  | some config => do
    bailIf (config.owner ≠ pumpfunFeeProgram) "invalid PumpFun FeeConfig owner"
    let config ← okOr (FeeSchedules.decodeFeeConfig config.data) "invalid PumpFun FeeConfig"
    if quoteMint = wsolMint ∨ quoteMint = usdcMint then
      let tiers := if quoteMint = usdcMint ∧ config.stableFeeTiers.isEmpty = false
        then config.stableFeeTiers else config.feeTiers
      okOr (FeeSchedules.calculateFeeTier tiers
        (supply.toNat * quoteReserve.toNat / baseReserve.toNat)) "empty PumpFun fee schedule"
    else if config.exoticFlatFees = ⟨0, 0, 0⟩ then pure config.flatFees
    else pure config.exoticFlatFees
  | none => do
    let protocol ← u64At global.data 105
    let creator ← u64At global.data 154
    pure ⟨0, protocol, creator⟩

/-! ## The refresh -/

/-- The accounts of a refresh. -/
structure PumpFunAccounts where
  curve : Account
  global : Account
  config : Option Account
  mint : Account
  quote : Account

/-- `9pan9bMn5HatX4EJdBwg9VgCa7Uz5HL8N1m5D3NdXejP`. -/
def nativeMint2022 : Pubkey :=
  ⟨[131, 13, 252, 159, 222, 95, 230, 184, 170, 124, 4, 164, 118, 233, 30, 138, 198,
     187, 38, 74, 173, 144, 250, 25, 201, 223, 73, 216, 92, 62, 91, 94], rfl⟩

def curveDiscriminator : List UInt8 := [23, 183, 248, 55, 96, 216, 172, 96]

def globalDiscriminator : List UInt8 := [167, 232, 232, 177, 200, 108, 114, 127]

/-- The quote mint the curve stores, or the default in an older one. -/
def storedQuote (curve : Account) : Result Pubkey :=
  if curve.data.length ≥ 115 then keyAt curve.data 83 else pure Pubkey.default

/-- The supply of the mint, or the one of every other curve. -/
def readSupply (accounts : PumpFunAccounts) (mayhem : Bool) : Result UInt64 :=
  if mayhem then u64At accounts.mint.data 36 else pure 1000000000000000

/-- The creator fee that the curve sets for itself. -/
def readOverride (accounts : PumpFunAccounts) : Result UInt64 :=
  if accounts.global.data[1045]? = some 1 ∧ accounts.curve.data.length ≥ 123 then
    u64At accounts.curve.data 115
  else pure 0

/-- What is read before the first assignment. -/
structure PumpFunSnapshot where
  baseProgram : Pubkey
  quoteProgram : Pubkey
  baseReserve : UInt64
  quoteReserve : UInt64
  creator : Pubkey
  mayhem : Bool
  fees : FeeBasisPoints
  overrideCreator : UInt64

/-- **The checks and the readings** of a refresh, up to its first
assignment. -/
def readSnapshot [FeeSchedules] (pool : PumpFunPool) (accounts : PumpFunAccounts) (v3 : Bool) :
    Result PumpFunSnapshot := do
  let curve := accounts.curve
  let global := accounts.global
  bailIf (v3 = true ∧ (accounts.config.isNone = true ∨ curve.data[82]? = some 1))
    "Pump V3 requires FeeConfig and does not support cashback"
  bailIf (curve.owner ≠ pumpfunProgram ∨ global.owner ≠ pumpfunProgram
      ∨ range? curve.data 0 8 ≠ some curveDiscriminator
      ∨ range? global.data 0 8 ≠ some globalDiscriminator)
    "invalid PumpFun curve/Global owner or discriminator"
  bailIf (curve.data[48]? ≠ some 0 ∨ (v3 = false ∧ curve.data[141]?.any (· ≠ 0) = true))
    "completed Pump curves must migrate; nested curves require the explicit V3 API"
  let stored ← storedQuote curve
  let effectiveQuote := if stored = Pubkey.default then wsolMint else stored
  bailIf (effectiveQuote ≠ pool.quoteMint) "PumpFun quote mint changed during snapshot refresh"
  let baseProgram ← mintProgram accounts.mint
  let quoteProgram ← mintProgram accounts.quote
  bailIf (pool.quoteMint = nativeMint2022)
    "Token-2022 native quote mint is unsupported by PumpFun builders"
  let baseReserve ← u64At curve.data 8
  let quoteReserve ← u64At curve.data 16
  bailIf (baseReserve = 0 ∨ quoteReserve = 0) "empty PumpFun virtual reserves"
  let creator ← keyAt curve.data 49
  let mayhem := decide (curve.data[81]? = some 1)
  let supply ← readSupply accounts mayhem
  let fees ← readFees pool.quoteMint global accounts.config supply baseReserve quoteReserve
  let overrideCreator ← readOverride accounts
  pure ⟨baseProgram, quoteProgram, baseReserve, quoteReserve, creator, mayhem, fees,
    overrideCreator⟩

namespace PumpFunSnapshot

/-- The creator's rate: none without a creator, the curve's own, or that of
the schedule. -/
def creatorFeeBps (s : PumpFunSnapshot) : UInt64 :=
  if s.creator = Pubkey.default then 0
  else if s.overrideCreator ≠ 0 then s.overrideCreator
  else s.fees.coinCreatorFeeBasisPoints

/-- The assignments in front of the last reserve. -/
def assignRates (s : PumpFunSnapshot) (curve : Account) (pool : PumpFunPool) : PumpFunPool :=
  { pool with
    protocolFeeBps := s.fees.protocolFeeBasisPoints
    creatorFeeBps := s.creatorFeeBps
    hasCreator := decide (s.creator ≠ Pubkey.default)
    isCashbackCoin := decide (curve.data[82]? = some 1)
    virtualTokenReserves := s.baseReserve
    virtualSolReserves := s.quoteReserve }

/-- The assignments up to the recipients. -/
def assignPrograms [Pda] (s : PumpFunSnapshot) (realTokens : UInt64) (pool : PumpFunPool) :
    PumpFunPool :=
  { pool with
    realTokenReserves := realTokens
    mintTokenProgram := s.baseProgram
    quoteTokenProgram := s.quoteProgram
    associatedBondingCurve := ata pool.bondingCurve pool.mint s.baseProgram }

/-- The places of the fee recipients in the global account. -/
def recipientPlaces (mayhem : Bool) : ℕ × ℕ := if mayhem then (483, 516) else (41, 162)

end PumpFunSnapshot

/-- **The refresh of a pool.** What an assignment wrote before a failure
stays written. -/
def applyInner [Pda] [FeeSchedules] (accounts : PumpFunAccounts) (v3 : Bool) :
    EStateM (Abort String) PumpFunPool Unit := do
  let pool ← get
  let s ← liftM (readSnapshot pool accounts v3)
  modify (s.assignRates accounts.curve)
  let realTokens ← liftM (u64At accounts.curve.data 24)
  modify (s.assignPrograms realTokens)
  let feeRecipient ← liftM (chooseRecipient accounts.global.data
    (PumpFunSnapshot.recipientPlaces s.mayhem).1 (PumpFunSnapshot.recipientPlaces s.mayhem).2
    pool.feeRecipient)
  modify fun pool => { pool with feeRecipient := feeRecipient }
  let buyback ← liftM (chooseRecipient accounts.global.data 741 773 pool.buybackFeeRecipient)
  modify fun pool => { pool with buybackFeeRecipient := buyback }
  modify fun pool => { pool with feeRatesKnown := true }

/-! ## The refresh, in one step -/

section

variable {data : List UInt8} {offset first others : ℕ} {current r : Pubkey}

theorem u64At_of_le (h : offset + 8 ≤ data.length) :
    u64At data offset = .ok (toUInt64 ((data.drop offset).take 8)) := by
  rw [u64At, range?_of_le (by omega) h, Nat.add_sub_cancel_left]
  rfl

theorem keyAt_length {key : Pubkey} (h : keyAt data offset = .ok key) :
    offset + 32 ≤ data.length := by
  obtain ⟨bytes, hbytes, -⟩ := bind_eq_ok.mp h
  obtain ⟨pre, post, hdata, hpre, hlen⟩ := range?_eq_some_iff.mp (okOr_eq_ok.mp hbytes)
  rw [hdata, List.length_append, List.length_append]
  omega

/-- **A place names a recipient** when its eight keys can be read and one of
them is not the default. -/
def NamesRecipient (data : List UInt8) (first others : ℕ) : Prop :=
  ∃ keys, recipientKeys data first others = .ok keys ∧ ∃ key ∈ keys, key ≠ Pubkey.default

/-- **What is chosen is one of the keys**, and not the default. -/
theorem chooseRecipient_mem (h : chooseRecipient data first others current = .ok r) :
    ∃ keys, recipientKeys data first others = .ok keys ∧ r ∈ keys ∧ r ≠ Pubkey.default := by
  obtain ⟨keys, hkeys, h⟩ := bind_eq_ok.mp h
  refine ⟨keys, hkeys, ?_⟩
  split at h
  · rename_i hcurrent
    cases pure_eq_ok.mp h
    exact ⟨hcurrent.2, hcurrent.1⟩
  · rw [okOr_eq_ok] at h
    exact ⟨List.mem_of_find?_eq_some h, by simpa using List.find?_some h⟩

/-- A recipient is chosen exactly where one is named. -/
theorem exists_recipient_iff :
    (∃ r, chooseRecipient data first others current = .ok r)
      ↔ NamesRecipient data first others := by
  constructor
  · rintro ⟨r, h⟩
    obtain ⟨keys, hkeys, hmem, hne⟩ := chooseRecipient_mem h
    exact ⟨keys, hkeys, r, hmem, hne⟩
  · rintro ⟨keys, hkeys, key, hmem, hne⟩
    unfold chooseRecipient
    rw [hkeys, ok_bind]
    split
    · exact ⟨_, rfl⟩
    · cases hfind : keys.find? (· ≠ Pubkey.default) with
      | some found => exact ⟨found, rfl⟩
      | none =>
        have hnone := List.find?_eq_none.mp hfind key hmem
        exact absurd (by simpa using hnone) hne

end

variable [Pda] [FeeSchedules] {pool pool' : PumpFunPool} {accounts : PumpFunAccounts} {v3 : Bool}
  {s : PumpFunSnapshot}

omit [Pda] in
/-- The curve is long enough for every later reading. -/
theorem curve_length (h : readSnapshot pool accounts v3 = .ok s) :
    81 ≤ accounts.curve.data.length := by
  unfold readSnapshot at h
  dsimp only at h
  simp only [bind_eq_ok] at h
  obtain ⟨_, -, _, -, _, -, _, -, _, -, _, -, _, -, _, -, _, -, _, -, _, -, _, hcreator, -⟩ := h
  exact keyAt_length hcreator

/-- The pool with the rates, the reserves and the programs of the accounts. -/
def PumpFunSnapshot.assign (s : PumpFunSnapshot) (accounts : PumpFunAccounts)
    (pool : PumpFunPool) : PumpFunPool :=
  s.assignPrograms (toUInt64 ((accounts.curve.data.drop 24).take 8))
    (s.assignRates accounts.curve pool)

/-- The choice of the recipient of the protocol's fees. -/
def PumpFunSnapshot.choose (s : PumpFunSnapshot) (accounts : PumpFunAccounts)
    (current : Pubkey) : Result Pubkey :=
  chooseRecipient accounts.global.data (recipientPlaces s.mayhem).1 (recipientPlaces s.mayhem).2
    current

/-- **How a refresh can end**: before the first assignment, between the
assignments, or after the last. -/
theorem applyInner_eq : applyInner accounts v3 pool =
    match readSnapshot pool accounts v3 with
    | .error e => .error e pool
    | .ok s => match s.choose accounts pool.feeRecipient with
      | .error e => .error e (s.assign accounts pool)
      | .ok feeRecipient =>
        match chooseRecipient accounts.global.data 741 773 pool.buybackFeeRecipient with
        | .error e => .error e { s.assign accounts pool with feeRecipient := feeRecipient }
        | .ok buyback => .ok () { s.assign accounts pool with
            feeRecipient := feeRecipient
            buybackFeeRecipient := buyback
            feeRatesKnown := true } := by
  show EStateM.bind (liftM (readSnapshot pool accounts v3)) _ pool = _
  cases hread : readSnapshot pool accounts v3 with
  | error e => rfl
  | ok s =>
    have hlength := curve_length hread
    conv_rhs => dsimp only
    show EStateM.bind (liftM (u64At accounts.curve.data 24)) _ _ = _
    rw [u64At_of_le (by omega)]
    show EStateM.bind (liftM (s.choose accounts pool.feeRecipient)) _ (s.assign accounts pool) = _
    cases s.choose accounts pool.feeRecipient with
    | error e => rfl
    | ok feeRecipient =>
      show EStateM.bind (liftM (chooseRecipient accounts.global.data 741 773
        pool.buybackFeeRecipient)) _ _ = _
      cases chooseRecipient accounts.global.data 741 773 pool.buybackFeeRecipient with
      | error e => rfl
      | ok buyback => rfl

/-! ## All or nothing -/

/-- **Every refreshed field comes from the accounts**, and the others are
kept. -/
structure Refreshed (pool : PumpFunPool) (accounts : PumpFunAccounts) (pool' : PumpFunPool) :
    Prop where
  tokenReserves : u64At accounts.curve.data 8 = .ok pool'.virtualTokenReserves
  quoteReserves : u64At accounts.curve.data 16 = .ok pool'.virtualSolReserves
  realReserves : u64At accounts.curve.data 24 = .ok pool'.realTokenReserves
  baseProgram : mintProgram accounts.mint = .ok pool'.mintTokenProgram
  quoteProgram : mintProgram accounts.quote = .ok pool'.quoteTokenProgram
  vault : pool'.associatedBondingCurve = ata pool.bondingCurve pool.mint pool'.mintTokenProgram
  cashback : pool'.isCashbackCoin = decide (accounts.curve.data[82]? = some 1)
  fees : ∃ creator supply fees override, keyAt accounts.curve.data 49 = .ok creator
    ∧ readSupply accounts (decide (accounts.curve.data[81]? = some 1)) = .ok supply
    ∧ readFees pool.quoteMint accounts.global accounts.config supply pool'.virtualTokenReserves
      pool'.virtualSolReserves = .ok fees
    ∧ readOverride accounts = .ok override
    ∧ pool'.hasCreator = decide (creator ≠ Pubkey.default)
    ∧ pool'.protocolFeeBps = fees.protocolFeeBasisPoints
    ∧ pool'.creatorFeeBps = (if creator = Pubkey.default then 0
      else if override ≠ 0 then override else fees.coinCreatorFeeBasisPoints)
  feeRecipient : ∃ keys, recipientKeys accounts.global.data
      (PumpFunSnapshot.recipientPlaces (decide (accounts.curve.data[81]? = some 1))).1
      (PumpFunSnapshot.recipientPlaces (decide (accounts.curve.data[81]? = some 1))).2 = .ok keys
    ∧ pool'.feeRecipient ∈ keys ∧ pool'.feeRecipient ≠ Pubkey.default
  buyback : ∃ keys, recipientKeys accounts.global.data 741 773 = .ok keys
    ∧ pool'.buybackFeeRecipient ∈ keys ∧ pool'.buybackFeeRecipient ≠ Pubkey.default
  known : pool'.feeRatesKnown = true
  kept : pool' = { pool with
    mintTokenProgram := pool'.mintTokenProgram
    quoteTokenProgram := pool'.quoteTokenProgram
    associatedBondingCurve := pool'.associatedBondingCurve
    feeRecipient := pool'.feeRecipient
    buybackFeeRecipient := pool'.buybackFeeRecipient
    virtualTokenReserves := pool'.virtualTokenReserves
    virtualSolReserves := pool'.virtualSolReserves
    realTokenReserves := pool'.realTokenReserves
    protocolFeeBps := pool'.protocolFeeBps
    creatorFeeBps := pool'.creatorFeeBps
    feeRatesKnown := pool'.feeRatesKnown
    hasCreator := pool'.hasCreator
    isCashbackCoin := pool'.isCashbackCoin }

/-- **A refresh that returns refreshed every field.** -/
theorem refreshed_of_ok (h : applyInner accounts v3 pool = .ok () pool') :
    Refreshed pool accounts pool' := by
  rw [applyInner_eq] at h
  cases hread : readSnapshot pool accounts v3 with
  | error e =>
    rw [hread] at h
    cases h
  | ok s =>
    have hlength := curve_length hread
    rw [hread] at h
    dsimp only at h
    cases hfee : s.choose accounts pool.feeRecipient with
    | error e =>
      rw [hfee] at h
      cases h
    | ok feeRecipient =>
      rw [hfee] at h
      dsimp only at h
      cases hbuyback : chooseRecipient accounts.global.data 741 773 pool.buybackFeeRecipient with
      | error e =>
        rw [hbuyback] at h
        cases h
      | ok buyback =>
        rw [hbuyback] at h
        cases h
        unfold readSnapshot at hread
        dsimp only at hread
        simp only [bind_eq_ok, pure_eq_ok] at hread
        obtain ⟨_, -, _, -, _, -, _, -, _, -, base, hbase, quote, hquote, _, -, reserve, hreserve,
          quoteReserve, hquoteReserve, _, -, creator, hcreator, supply, hsupply, fees, hfees,
          override, hoverride, rfl⟩ := hread
        exact ⟨hreserve, hquoteReserve, u64At_of_le (by omega), hbase, hquote, rfl, rfl,
          ⟨creator, supply, fees, override, hcreator, hsupply, hfees, hoverride, rfl, rfl, rfl⟩,
          chooseRecipient_mem hfee, chooseRecipient_mem hbuyback, rfl, rfl⟩

/-- **No refresh stops between its assignments**, or one that does finds
nothing to assign. -/
def RefreshUndivided (pool : PumpFunPool) (accounts : PumpFunAccounts) (v3 : Bool) : Prop :=
  ∀ s, readSnapshot pool accounts v3 = .ok s →
    (NamesRecipient accounts.global.data (PumpFunSnapshot.recipientPlaces s.mayhem).1
        (PumpFunSnapshot.recipientPlaces s.mayhem).2
      ∧ NamesRecipient accounts.global.data 741 773)
    ∨ s.assign accounts pool = pool
      ∧ ∀ r, s.choose accounts pool.feeRecipient = .ok r → r = pool.feeRecipient

omit [FeeSchedules] in
/-- A pool whose recipient alone is set is unchanged when nothing is. -/
theorem assign_feeRecipient_iff {r : Pubkey} :
    { s.assign accounts pool with feeRecipient := r } = pool
      ↔ s.assign accounts pool = pool ∧ r = pool.feeRecipient := by
  constructor
  · intro h
    have hrecipient : r = pool.feeRecipient := congrArg PumpFunPool.feeRecipient h
    rw [hrecipient] at h
    exact ⟨h, hrecipient⟩
  · rintro ⟨h, rfl⟩
    exact h

/-- **When a refresh is all or nothing.** A failed refresh leaves the pool as
it was exactly when both recipients can be chosen, or there was nothing new to
write; one that returns has refreshed every field. -/
theorem refresh_all_or_nothing_iff (pool : PumpFunPool) (accounts : PumpFunAccounts)
    (v3 : Bool) :
    ((∀ e pool', applyInner accounts v3 pool = .error e pool' → pool' = pool)
        ∧ ∀ pool', applyInner accounts v3 pool = .ok () pool' → Refreshed pool accounts pool')
      ↔ RefreshUndivided pool accounts v3 := by
  rw [and_iff_left fun _ => refreshed_of_ok, RefreshUndivided, applyInner_eq]
  cases hread : readSnapshot pool accounts v3 with
  | error e =>
    refine iff_of_true ?_ (fun s hs => by cases hs)
    rintro _ _ ⟨⟩
    rfl
  | ok s =>
    have hfirst : NamesRecipient accounts.global.data
        (PumpFunSnapshot.recipientPlaces s.mayhem).1 (PumpFunSnapshot.recipientPlaces s.mayhem).2
        ↔ ∃ r, s.choose accounts pool.feeRecipient = .ok r := exists_recipient_iff.symm
    simp only [Except.ok.injEq, forall_eq']
    have hsecond : NamesRecipient accounts.global.data 741 773
        ↔ ∃ r, chooseRecipient accounts.global.data 741 773 pool.buybackFeeRecipient = .ok r :=
      exists_recipient_iff.symm
    rw [hfirst, hsecond]
    cases s.choose accounts pool.feeRecipient with
    | error e =>
      dsimp only
      constructor
      · intro h
        exact .inr ⟨h e _ rfl, nofun⟩
      · rintro (⟨⟨_, hr⟩, -⟩ | ⟨hassign, -⟩)
        · cases hr
        · rintro _ _ ⟨⟩
          exact hassign
    | ok feeRecipient =>
      dsimp only
      cases chooseRecipient accounts.global.data 741 773 pool.buybackFeeRecipient with
      | ok buyback => exact iff_of_true nofun (.inl ⟨⟨_, rfl⟩, _, rfl⟩)
      | error e =>
        dsimp only
        constructor
        · intro h
          have hsame := assign_feeRecipient_iff.mp (h e _ rfl)
          refine .inr ⟨hsame.1, ?_⟩
          rintro _ ⟨⟩
          exact hsame.2
        · rintro (⟨-, _, hr⟩ | ⟨hassign, hrecipient⟩)
          · cases hr
          · rintro _ _ ⟨⟩
            exact assign_feeRecipient_iff.mpr ⟨hassign, hrecipient _ rfl⟩

/-- Schedules that nothing decodes to. -/
@[reducible] def sampleFeeSchedules : FeeSchedules where
  Tier := Unit
  decodeFeeConfig _ := none
  calculateFeeTier _ _ := none

/-- The accounts of a curve under a global account without recipients. -/
def sampleAccountsWithoutRecipients : PumpFunAccounts where
  curve := ⟨0, pumpfunProgram, curveDiscriminator ++ ofUInt64 5000 ++ ofUInt64 700
    ++ ofUInt64 300 ++ List.replicate 58 0⟩
  global := ⟨0, pumpfunProgram, globalDiscriminator ++ List.replicate 1080 0⟩
  config := none
  mint := ⟨0, tokenProgram, List.replicate 45 0 ++ [1] ++ List.replicate 36 0⟩
  quote := ⟨0, tokenProgram, List.replicate 45 0 ++ [1] ++ List.replicate 36 0⟩

omit [Pda] [FeeSchedules] in
/-- **A refresh that fails over the recipients** has written the reserves. -/
theorem sampleAccounts_divide :
    letI := samplePda
    letI := sampleFeeSchedules
    ¬ ∀ (pool : PumpFunPool) (accounts : PumpFunAccounts) (v3 : Bool),
      (∀ e pool', applyInner accounts v3 pool = .error e pool' → pool' = pool)
        ∧ ∀ pool', applyInner accounts v3 pool = .ok () pool' →
          Refreshed pool accounts pool' := by
  let := samplePda
  let := sampleFeeSchedules
  intro h
  have hstopped : returned (applyInner sampleAccountsWithoutRecipients false sampleCurve)
      = false := by decide +kernel
  have hreserve : (endState (applyInner sampleAccountsWithoutRecipients false
      sampleCurve)).virtualTokenReserves = 5000 := by decide +kernel
  cases hrun : applyInner sampleAccountsWithoutRecipients false sampleCurve with
  | ok _ pool' =>
    rw [hrun] at hstopped
    cases hstopped
  | error e pool' =>
    have hsame := (h sampleCurve sampleAccountsWithoutRecipients false).1 e pool' hrun
    rw [hrun, endState, hsame] at hreserve
    exact absurd hreserve (by decide)

end Sdk
