import SolTradeRouter.Pubkey

/-!
# Accounts as the on-chain program sees them

An instruction receives a list of account views. A view is an address
with the privileges the transaction grants it; the lamports, the owner
and the data are those of the account at that address, so two views with
one address are two names of one account. The ledger holds the accounts,
and every reader below takes the ledger it reads from.

A reader borrows the account's data and releases it before returning. No
borrow is outstanding where the program takes one, so the borrow check of
`try_borrow` never fails and is not modelled.
-/

/-- What the chain stores at an address. -/
structure Account where
  lamports : UInt64
  owner : Address
  data : List UInt8

/-- The accounts of the chain. -/
abbrev Ledger := Address → Account

/-- **An account passed to an instruction.** -/
structure AccountView where
  address : Address
  isSigner : Bool
  isWritable : Bool
  deriving DecidableEq

namespace AccountView

/-- The lamports of the account. -/
def lamports (l : Ledger) (a : AccountView) : UInt64 := (l a.address).lamports

/-- The program that owns the account. -/
def owner (l : Ledger) (a : AccountView) : Address := (l a.address).owner

/-- The data of the account. -/
def data (l : Ledger) (a : AccountView) : List UInt8 := (l a.address).data

/-- The view with the privileges of an account meta. -/
def ofMeta (m : AccountMeta) : AccountView := ⟨m.pubkey, m.isSigner, m.isWritable⟩

/-- `InstructionAccount::new`: the meta a CPI passes the account with. -/
def toMeta (a : AccountView) : AccountMeta := ⟨a.address, a.isSigner, a.isWritable⟩

@[simp] theorem toMeta_pubkey (a : AccountView) : a.toMeta.pubkey = a.address := rfl
@[simp] theorem toMeta_isWritable (a : AccountView) :
    a.toMeta.isWritable = a.isWritable := rfl

end AccountView

namespace Program

open Outcome Bytes

/-! ## Errors -/

/-- Router program errors. -/
inductive RouterError where
  | invalidInstructionData
  | unknownInstruction
  | unauthorized
  | alreadyInitialized
  | notInitialized
  | invalidConfig
  | paused
  | invalidFeeBps
  | invalidFeeAsset
  | slippageExceeded
  | tooManyLegs
  | invalidLeg
  | insufficientAccounts
  | arithmeticOverflow
  | invalidProgramId
  | feeSourceMismatch
  | invalidOutputAccount
  | invalidOutputMint
  | invalidIntermediateAccount
  | invalidDynamicLeg
  | intermediateNotSpent
  deriving DecidableEq, Repr

/-- The discriminant of each error, in the order of the source: the last
three are out of sequence there. -/
def RouterError.code : RouterError → UInt32
  | invalidInstructionData => 1
  | unknownInstruction => 2
  | unauthorized => 3
  | alreadyInitialized => 4
  | notInitialized => 5
  | invalidConfig => 6
  | paused => 7
  | invalidFeeBps => 8
  | invalidFeeAsset => 9
  | slippageExceeded => 10
  | tooManyLegs => 11
  | invalidLeg => 12
  | insufficientAccounts => 13
  | arithmeticOverflow => 14
  | invalidProgramId => 15
  | feeSourceMismatch => 16
  | invalidOutputAccount => 17
  | invalidOutputMint => 18
  | invalidIntermediateAccount => 21
  | invalidDynamicLeg => 19
  | intermediateNotSpent => 20

/-- What an instruction can fail with. `other` stands for the errors the
program itself never builds and a CPI may return. -/
inductive ProgramError where
  | custom (code : UInt32)
  | missingRequiredSignature
  | invalidAccountData
  | other (code : UInt64)
  deriving DecidableEq, Repr

instance : Coe RouterError ProgramError := ⟨fun e => .custom e.code⟩

/-- A reader of the on-chain program. -/
abbrev Read (α : Type) := Except (Abort ProgramError) α

/-- `Err(e.into())`. -/
abbrev reject {α : Type} (e : RouterError) : Read α := fail (e : ProgramError)

/-- `if c { return Err(e.into()) }`. -/
abbrev rejectIf (c : Prop) [Decidable c] (e : RouterError) : Read Unit :=
  failIf c (e : ProgramError)

/-- `o.ok_or(e)?`. -/
abbrev okOrReject {α : Type} (o : Option α) (e : RouterError) : Read α :=
  okOr o (e : ProgramError)

/-! ## Programs the router knows by address -/

/-- System Program. -/
def systemProgramId : Address := Pubkey.default

/-- SPL Token Program. -/
def tokenProgramId : Address :=
  .ofBytes [6, 221, 246, 225, 215, 101, 161, 147, 217, 203, 225, 70, 206, 235, 121,
    172, 28, 180, 133, 237, 95, 91, 55, 145, 58, 140, 245, 133, 126, 255, 0,
    169] rfl

/-- Token-2022 Program. -/
def token2022ProgramId : Address :=
  .ofBytes [6, 221, 246, 225, 238, 117, 143, 222, 24, 66, 93, 188, 228, 108, 205,
    218, 182, 26, 252, 77, 131, 185, 13, 39, 254, 189, 249, 40, 216, 161, 139,
    252] rfl

def isTokenProgram (owner : Address) : Bool :=
  owner = tokenProgramId ∨ owner = token2022ProgramId

/-! ## Token accounts -/

/-- The 32 bytes at an offset, copied into a key. -/
def readAddress (data : List UInt8) (offset : ℕ) : Read Address := do
  let buf ← slice data offset (offset + 32)
  orPanic (Pubkey.ofBytes? buf)

/-- Read SPL / Token-2022 mint (offset 0). -/
def tokenMint (l : Ledger) (account : AccountView) : Read Address := do
  failIf ((account.data l).length < 32) .invalidAccountData
  readAddress (account.data l) 0

/-- Read SPL / Token-2022 owner (offset 32). -/
def tokenOwner (l : Ledger) (account : AccountView) : Read Address := do
  failIf ((account.data l).length < 64) .invalidAccountData
  readAddress (account.data l) 32

/-- Read SPL / Token-2022 token amount (offset 64). -/
def tokenAmount (l : Ledger) (account : AccountView) : Read UInt64 := do
  failIf ((account.data l).length < 72) .invalidAccountData
  let buf ← slice (account.data l) 64 72
  pure (toUInt64 buf)

/-- A key read at an offset is the slice there. -/
theorem readAddress_eq_ok {data : List UInt8} {offset : ℕ} {k : Address} :
    readAddress data offset = .ok k ↔ range? data offset (offset + 32) = some k.bytes := by
  unfold readAddress
  rw [bind_eq_ok]
  constructor
  · rintro ⟨buf, hbuf, hk⟩
    rw [orPanic_eq_ok, Pubkey.ofBytes?_eq_some] at hk
    rw [← hk]
    exact slice_eq_ok.mp hbuf
  · intro h
    exact ⟨k.bytes, slice_eq_ok.mpr h, by rw [orPanic_eq_ok, Pubkey.ofBytes?_eq_some]⟩

/-- **An account that holds tokens** of a mint, for an owner. -/
structure TokenAccount (l : Ledger) (address mint owner : Address) : Prop where
  program : isTokenProgram (l address).owner = true
  mint : range? (l address).data 0 32 = some mint.bytes
  owner : range? (l address).data 32 64 = some owner.bytes
  length : 72 ≤ (l address).data.length

namespace TokenAccount

variable {l : Ledger} {mint owner : Address} {account : AccountView}

theorem tokenMint_eq (h : TokenAccount l account.address mint owner) :
    tokenMint l account = .ok mint := by
  have hlen : 72 ≤ (account.data l).length := h.length
  unfold tokenMint
  rw [failIf, if_neg (by omega), ok_bind]
  exact readAddress_eq_ok.mpr h.mint

theorem tokenOwner_eq (h : TokenAccount l account.address mint owner) :
    tokenOwner l account = .ok owner := by
  have hlen : 72 ≤ (account.data l).length := h.length
  unfold tokenOwner
  rw [failIf, if_neg (by omega), ok_bind]
  exact readAddress_eq_ok.mpr h.owner

theorem tokenAmount_ok (h : TokenAccount l account.address mint owner) :
    ∃ n, tokenAmount l account = .ok n := by
  have hlen : 72 ≤ (account.data l).length := h.length
  unfold tokenAmount
  rw [failIf, if_neg (by omega), ok_bind, slice, range?_of_le (by omega) hlen]
  exact ⟨_, rfl⟩

end TokenAccount

/-- What is read of a token account depends on its address alone. -/
theorem tokenAmount_congr {l : Ledger} {a b : AccountView} (h : a.address = b.address) :
    tokenAmount l a = tokenAmount l b := by
  unfold tokenAmount AccountView.data
  rw [h]

end Program
