import SolTradeRouter.Route

/-!
# The instructions of the program

Creating the configuration, changing it, topping up a vault's rent, and
the three tags of a route. `processInstruction` dispatches on the first
byte of the data.

The arguments and accounts of an instruction are read and checked before
anything is changed; each instruction is cut there, into a reader and the
few effects that follow it.
-/

namespace Program

open Outcome Bytes

/-! ## Creating the configuration -/

namespace Initialize

/-- The fee rate and the bump. -/
def readArgs (data : List UInt8) : Read (UInt16 × UInt8) := do
  rejectIf (data.length < 3) .invalidInstructionData
  let low ← index data 0
  let high ← index data 1
  let bump ← index data 2
  let feeBps := toUInt16 [low, high]
  rejectIf (feeBps > maxFeeBps) .invalidFeeBps
  pure (feeBps, bump)

/-- The accounts of the instruction. -/
structure Accounts where
  payer : AccountView
  config : AccountView
  feeRecipient : AccountView

/-- The accounts of an initialization, in their order. -/
def readAccounts (accounts : List AccountView) : Read Accounts := do
  let (payer, rest) ← splitFirst accounts
  let (config, rest) ← splitFirst rest
  let (feeRecipient, _) ← splitFirst rest
  pure ⟨payer, config, feeRecipient⟩

/-- Only the canonical address can hold the configuration, and only once. -/
def check [Pda] (l : Ledger) (programId : Address) (bump : UInt8) (a : Accounts) :
    Read Unit := do
  failIf (!a.payer.isSigner) ProgramError.missingRequiredSignature
  let expected := configPda programId
  rejectIf (bump ≠ expected.2 ∨ a.config.address ≠ expected.1) .invalidConfig
  rejectIf ((a.config.data l).length ≥ RouterConfig.len
    ∧ (RouterConfig.read l a.config).isOk) .alreadyInitialized

/-- **Initialize the router config PDA.** -/
def process [Pda] (rt : Runtime) (programId : Address) (accounts : List AccountView)
    (data : List UInt8) : Exec Unit := do
  let args ← readArgs data
  let a ← readAccounts accounts
  let l ← currentLedger
  check l programId args.2 a
  createAccount rt {
    account := a.config.address
    space := RouterConfig.len
    owner := programId
    payer := a.payer.address
    seeds := [configSeed, [args.2]] }
  RouterConfig.writeNew a.config a.payer.address a.feeRecipient.address args.1 args.2

end Initialize

/-! ## Changing the configuration -/

namespace UpdateConfig

/-- The arguments of the instruction. -/
structure Args where
  feeBps : UInt16
  paused : UInt8
  updateRecipient : UInt8

/-- The arguments of an update. -/
def readArgs (data : List UInt8) : Read Args := do
  rejectIf (data.length < 4) .invalidInstructionData
  let low ← index data 0
  let high ← index data 1
  let paused ← index data 2
  let updateRecipient ← index data 3
  let feeBps := toUInt16 [low, high]
  rejectIf (feeBps > maxFeeBps) .invalidFeeBps
  rejectIf (paused > 1) .invalidInstructionData
  pure ⟨feeBps, paused, updateRecipient⟩

/-- The accounts of the instruction. -/
structure Accounts where
  authority : AccountView
  config : AccountView
  rest : List AccountView

/-- Its accounts. -/
def readAccounts (accounts : List AccountView) : Read Accounts := do
  let (authority, rest) ← splitFirst accounts
  let (config, rest) ← splitFirst rest
  pure ⟨authority, config, rest⟩

/-- The authority is the first account. -/
theorem readAccounts_head {accounts : List AccountView} {a : Accounts}
    (h : readAccounts accounts = .ok a) : accounts.head? = some a.authority := by
  simp only [readAccounts, bind_eq_ok, splitFirst_eq_ok, pure_eq_ok, Prod.exists] at h
  obtain ⟨authority, rest, rfl, config, rest', rfl, rfl⟩ := h
  rfl

/-- Only the stored authority may change the configuration. -/
def check [Pda] (l : Ledger) (programId : Address) (a : Accounts) : Read Unit := do
  failIf (!a.authority.isSigner) ProgramError.missingRequiredSignature
  rejectIf (a.config.address ≠ (configPda programId).1 ∨ a.config.owner l ≠ programId)
    .invalidConfig
  let cfg ← RouterConfig.read l a.config
  rejectIf (a.authority.address ≠ cfg.authority) .unauthorized

/-- The recipient to store, if it is to change. -/
def newRecipient (args : Args) (a : Accounts) : Read (Option Address) :=
  if args.updateRecipient = 1 then do
    let recipient ← okOrReject a.rest.head? .insufficientAccounts
    pure (some recipient.address)
  else
    pure none

/-- **Update router config** (authority only). -/
def process [Pda] (programId : Address) (accounts : List AccountView)
    (data : List UInt8) : Exec Unit := do
  let args ← readArgs data
  let a ← readAccounts accounts
  let l ← currentLedger
  check l programId a
  let recipient ← newRecipient args a
  RouterConfig.update a.config recipient (some args.feeBps) (some (args.paused = 1))

end UpdateConfig

/-! ## Preparing a creator vault -/

namespace PreparePumpfun

/-- The Pump program. -/
def pump : Address :=
  .ofBytes [1, 86, 224, 246, 147, 102, 90, 207, 68, 219, 21, 104, 191, 23, 91, 170,
    81, 137, 203, 151, 245, 210, 255, 59, 101, 93, 43, 182, 253, 109, 24, 176] rfl

/-- The accounts of the instruction. -/
structure Accounts where
  payer : AccountView
  curve : AccountView
  vault : AccountView
  system : AccountView

/-- The four accounts of a vault's preparation, and no others. -/
def readAccounts : List AccountView → Read Accounts
  | [payer, curve, vault, system] => .ok ⟨payer, curve, vault, system⟩
  | _ => reject .insufficientAccounts

/-- The lamports the vault lacks, once the accounts are checked. -/
def needed [Pda] (rt : Runtime) (l : Ledger) (a : Accounts) : Read UInt64 := do
  failIf (!a.payer.isSigner) ProgramError.missingRequiredSignature
  failIf (!a.payer.isWritable || !a.vault.isWritable) ProgramError.invalidAccountData
  rejectIf (a.system.address ≠ systemProgramId ∨ a.curve.owner l ≠ pump) .invalidProgramId
  let foreign ← anyOf [.ok ((a.curve.data l).length < 81),
    not <$> sliceIs (a.curve.data l) 0 8 [23, 183, 248, 55, 96, 216, 172, 96]]
  failIf foreign ProgramError.invalidAccountData
  let creator ← slice (a.curve.data l) 49 81
  failIf (a.vault.address ≠ (Pda.find [ascii "creator-vault", creator] pump).1
    ∨ a.vault.owner l ≠ systemProgramId ∨ (a.vault.data l).length ≠ 0)
    ProgramError.invalidAccountData
  match rt.minimumBalance 0 with
  | .ok minimum => pure (saturatingSub minimum (a.vault.lamports l))
  | .error e => fail e

/-- Idempotently top up only the canonical Pump creator vault's rent floor. -/
def process [Pda] (rt : Runtime) (accounts : List AccountView) (data : List UInt8) :
    Exec Unit := do
  rejectIf (data ≠ []) .invalidInstructionData
  let a ← readAccounts accounts
  let l ← currentLedger
  let needed ← needed rt l a
  if needed > 0 then invoke rt (systemTransfer a.payer a.vault needed)
  else pure ()

end PreparePumpfun

/-! ## Routes -/

section

variable [Pda] (rt : Runtime) (programId : Address) (accounts : List AccountView)
  (data : List UInt8)

/-- A static route. -/
def process : Exec Unit := processInner rt programId accounts data 0

/-- A route over one intermediate account. -/
def processDynamic : Exec Unit := processInner rt programId accounts data 1

/-- And over two. -/
def processDynamicThree : Exec Unit := processInner rt programId accounts data 2

end

/-! ## Dispatch -/

/-- **Dispatch a router instruction.** Tags 3 and 4 are retired because they
did not bind the output mint. -/
def processInstruction [Pda] (rt : Runtime) (programId : Address)
    (accounts : List AccountView) : List UInt8 → Exec Unit
  | [] => liftM (reject .invalidInstructionData : Read Unit)
  | disc :: data =>
    if disc = 0 then Initialize.process rt programId accounts data
    else if disc = 1 then UpdateConfig.process programId accounts data
    else if disc = 7 then PreparePumpfun.process rt accounts data
    else if disc = 2 then process rt programId accounts data
    else if disc = 5 then processDynamic rt programId accounts data
    else if disc = 6 then processDynamicThree rt programId accounts data
    else liftM (reject .unknownInstruction : Read Unit)

end Program
