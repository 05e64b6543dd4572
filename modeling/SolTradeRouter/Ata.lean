import SolTradeRouter.Market
import SolTradeRouter.RouteIx

/-!
# Associated token accounts

The addresses of a user's token accounts, the instructions that create and
close them, and the policy that says which of them a trade creates or
closes by itself.

The address is derived from the owner, the token program and the mint.
The SDK keeps derived addresses in a cache, which returns what the
derivation returns (`AtaCache`).

`Upstream` stands for the functions of the crates the SDK is built on.
-/

namespace Sdk

/-- **Functions of other crates**: the System Program's transfer
instruction, the address of a Meteora DLMM bitmap extension, and the check
of a PumpSwap pool's accounts. -/
class Upstream where
  transfer : Pubkey → Pubkey → UInt64 → Instruction
  bitmapExtensionPda : Pubkey → Pubkey
  validatePumpSwapAccounts : PumpSwapPool → Result Unit

/-- Upstream functions for runs on fixed accounts: the transfer is the System
Program's instruction 2, and every PumpSwap pool passes. -/
@[reducible] def sampleUpstream : Upstream where
  transfer payer destination lamports :=
    ⟨systemProgram, [.new payer true, .new destination false],
      Bytes.toLE 4 2 ++ Bytes.ofUInt64 lamports⟩
  bitmapExtensionPda _ := sampleKey 2
  validatePumpSwapAccounts _ := .ok ()

/-- **The address of a token account**, from its owner, mint and token
program. -/
def ata [Pda] (owner mint tokenProgram : Pubkey) : Pubkey :=
  (Pda.find [owner.bytes, tokenProgram.bytes, mint.bytes] associatedTokenProgram).1

/-- Idempotent create ATA (Associated Token Program ix = 1). -/
def createAta [Pda] (payer owner mint tokenProgram : Pubkey) : Instruction where
  programId := associatedTokenProgram
  accounts := [
    .new payer true,
    .new (ata owner mint tokenProgram) false,
    .newReadonly owner false,
    .newReadonly mint false,
    .newReadonly systemProgram false,
    .newReadonly tokenProgram false]
  data := [1]

/-- Create an associated account, unless it is there. -/
def createAtaIdempotent [Pda] (payer owner mint tokenProgram : Pubkey) : Instruction :=
  createAta payer owner mint tokenProgram

/-- The payer's own account for wrapped SOL. -/
def createWsolAta [Pda] (payer : Pubkey) : Instruction :=
  createAta payer payer wsolMint tokenProgram

/-- SPL Token `CloseAccount` (ix = 9). -/
def closeAta [Pda] (owner mint tokenProgram destination : Pubkey) : Instruction where
  programId := tokenProgram
  accounts := [
    .new (ata owner mint tokenProgram) false,
    .new destination false,
    .newReadonly owner true]
  data := [9]

/-- Unwrap: closing the account returns its lamports to the owner. -/
def closeWsolAta [Pda] (owner : Pubkey) : Instruction :=
  closeAta owner wsolMint tokenProgram owner

/-- SPL Token `SyncNative` (ix = 17). -/
def syncNative (tokenProgram account : Pubkey) : Instruction where
  programId := tokenProgram
  accounts := [.new account false]
  data := [17]

/-- Wrap SOL: create the account if asked to, pay the lamports in, and have them
counted. -/
def wrapSolWithOptions [Pda] [Upstream] (payer : Pubkey) (lamports : UInt64)
    (createAtaAccount : Bool) : List Instruction :=
  let wsolAta := ata payer wsolMint tokenProgram
  (if createAtaAccount then [createWsolAta payer] else [])
    ++ [Upstream.transfer payer wsolAta lamports, syncNative tokenProgram wsolAta]

/-! ## The policy of a trade -/

/-- What an account of a trade is for. -/
inductive AtaKind where
  /-- Meme / base token – prefer create **in the buy tx** (not ahead). -/
  | meme
  /-- WSOL – prefer cold-path prepare. -/
  | wsol
  /-- Stock / quote – prefer cold-path prepare. -/
  | quote
  deriving DecidableEq, Repr

/-- The accounts a trade has used so far. -/
structure TouchedAtas where
  memeMint : Option Pubkey
  memeTokenProgram : Option Pubkey
  quoteMint : Option Pubkey
  quoteTokenProgram : Option Pubkey
  wsol : Bool

namespace TouchedAtas

/-- No account has been used. -/
protected def default : TouchedAtas := ⟨none, none, none, none, false⟩

/-- The meme's account is used. -/
def touchMeme (touched : TouchedAtas) (mint tokenProgram : Pubkey) : TouchedAtas :=
  { touched with memeMint := some mint, memeTokenProgram := some tokenProgram }

/-- The quote's account is used, which may be the one for wrapped SOL. -/
def touchQuote (touched : TouchedAtas) (mint tokenProgram : Pubkey) : TouchedAtas :=
  if mint = wsolMint then { touched with wsol := true }
  else { touched with quoteMint := some mint, quoteTokenProgram := some tokenProgram }

/-- The account for wrapped SOL is used. -/
def touchWsol (touched : TouchedAtas) : TouchedAtas := { touched with wsol := true }

end TouchedAtas

/-- **In-trade ATA policy**: what a trade creates and what it closes. -/
structure AtaPolicy where
  createMeme : Bool
  createWsol : Bool
  createQuote : Bool
  closeWsol : Bool
  closeMeme : Bool
  closeQuote : Bool

namespace AtaPolicy

/-- By default a trade creates nothing and closes nothing. -/
protected def default : AtaPolicy := ⟨false, false, false, false, false, false⟩

/-- Create meme + WSOL/quote in the same trade tx (no pre-prepare). -/
def createAllInTrade : AtaPolicy :=
  { AtaPolicy.default with createMeme := true, createWsol := true, createQuote := true }

/-- Whether the policy creates accounts of a kind. -/
def allows (policy : AtaPolicy) : AtaKind → Bool
  | .meme => policy.createMeme
  | .wsol => policy.createWsol
  | .quote => policy.createQuote

/-- Close what the policy says, of the accounts the trade has used. -/
def buildCleanup [Pda] (policy : AtaPolicy) (owner : Pubkey) (touched : TouchedAtas) :
    List Instruction :=
  (if policy.closeWsol && touched.wsol then [closeWsolAta owner] else [])
    ++ (if policy.closeQuote then
        match touched.quoteMint, touched.quoteTokenProgram with
        | some mint, some tp => [closeAta owner mint tp owner]
        | _, _ => []
      else [])
    ++ (if policy.closeMeme then
        match touched.memeMint, touched.memeTokenProgram with
        | some mint, some tp => [closeAta owner mint tp owner]
        | _, _ => []
      else [])

end AtaPolicy

end Sdk
