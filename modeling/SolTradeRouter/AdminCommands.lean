import SolTradeRouter.ConfigLifecycle
import SolTradeRouter.DynamicAccepted
import SolTradeRouter.Simulation

/-!
# Administering the router

The SDK builds two instructions for the owner of a router: one creates its
configuration, one changes it. Seen from the owner, a router has settings, and
each command asks for a change of them. `settings` reads them off the chain,
and `AdminCommand.apply` says what a command does to them.

The program carries out what the commands ask for. Over any run of commands,
with any instructions of others in between, the settings on the chain are those
that the commands, one after the other, ask for.
-/

namespace Sdk

open Bytes

def tagInitialize : UInt8 := 0

def tagUpdateConfig : UInt8 := 1

variable [Pda]

/-- Create the router's configuration. -/
def initializeConfig (programId authority feeRecipient : Pubkey) (feeBps : UInt16) :
    Instruction where
  programId := programId
  accounts := [
    .new authority true,
    .new (configPda programId).1 false,
    .newReadonly feeRecipient false,
    .newReadonly systemProgram false]
  data := tagInitialize :: (ofUInt16 feeBps ++ [(configPda programId).2])

/-- Change the router's configuration. -/
def updateConfig (programId authority : Pubkey) (feeBps : UInt16) (paused : Bool)
    (newFeeRecipient : Option Pubkey) : Instruction where
  programId := programId
  accounts := [.newReadonly authority true, .new (configPda programId).1 false]
    ++ newFeeRecipient.toList.map (.newReadonly · false)
  data := tagUpdateConfig :: (ofUInt16 feeBps
    ++ [if paused then 1 else 0, if newFeeRecipient.isSome then 1 else 0])

end Sdk

namespace Execution

open Outcome Bytes Program Sdk DynamicAccepted Simulation

/-! ## Commands and settings -/

/-- **The settings of a router**, as its owner sees them. -/
structure Settings where
  authority : Pubkey
  feeRecipient : Pubkey
  feeBps : UInt16
  paused : Bool
  deriving DecidableEq

/-- **A command of the SDK.** -/
inductive AdminCommand
  | initializeConfig (authority feeRecipient : Pubkey) (feeBps : UInt16)
  | updateConfig (authority : Pubkey) (feeBps : UInt16) (paused : Bool)
    (newFeeRecipient : Option Pubkey)

namespace AdminCommand

/-- **What a command does to the settings.** Settings are made once, within the
limit of the fee, and changed by their authority only. -/
def apply (o : Option Settings) : AdminCommand → Option Settings
  | initializeConfig authority feeRecipient feeBps =>
    if o.isNone ∧ feeBps ≤ 1000 then some ⟨authority, feeRecipient, feeBps, false⟩ else o
  | updateConfig authority feeBps paused newFeeRecipient =>
    o.map fun s => if authority = s.authority ∧ feeBps ≤ 1000 then
      { s with feeRecipient := newFeeRecipient.getD s.feeRecipient, feeBps, paused } else s

/-- **Whether a command is accepted.** -/
def Accepted (o : Option Settings) : AdminCommand → Prop
  | initializeConfig _ _ feeBps => o = none ∧ feeBps ≤ 1000
  | updateConfig authority feeBps _ _ => (∃ s, o = some s ∧ authority = s.authority) ∧ feeBps ≤ 1000

variable [Pda]

/-- The instruction of a command. -/
def instruction (programId : Pubkey) : AdminCommand → Instruction
  | initializeConfig authority feeRecipient feeBps =>
    Sdk.initializeConfig programId authority feeRecipient feeBps
  | updateConfig authority feeBps paused newFeeRecipient =>
    Sdk.updateConfig programId authority feeBps paused newFeeRecipient

/-- The command as the program receives it. -/
def call (programId : Pubkey) (cmd : AdminCommand) : InstructionCall where
  accounts := (cmd.instruction programId).accounts.map
    (mergedView (cmd.instruction programId).accounts)
  data := (cmd.instruction programId).data

/-- The program's run on a command. -/
def result (rt : Runtime) (programId : Pubkey) (cmd : AdminCommand) (l : Ledger) :
    EStateM.Result (Abort ProgramError) Machine Unit :=
  processInstruction rt programId (cmd.call programId).accounts (cmd.call programId).data ⟨l, []⟩

/-- The creation of the account that a configuration needs. -/
def creation (programId payer : Pubkey) : CreateAccountCall where
  account := (Program.configPda programId).1
  space := RouterConfig.len
  owner := programId
  payer := payer
  seeds := [Program.configSeed, [(Program.configPda programId).2]]

/-- The account that a configuration needs holds none, and can be created. -/
def Creatable (rt : Runtime) (programId : Pubkey) (l : Ledger) : AdminCommand → Prop
  | initializeConfig authority _ _ =>
    (∀ c, RouterConfig.decode (l (Program.configPda programId).1).data = some c →
        c.isInitialized = false)
      ∧ ∃ l', rt.createAccount (creation programId authority) l = .ok l'
  | updateConfig .. => True

end AdminCommand

/-- **The settings on the chain.** -/
def settings [Pda] (programId : Pubkey) (l : Ledger) : Option Settings :=
  (storedConfig programId l (Program.configPda programId).1).map fun c =>
    ⟨c.authority, c.feeRecipient, c.feeBps, c.paused ≠ 0⟩

/-! ## What the program does with a command -/

/-- The rate is read back. -/
theorem ofUInt16_pair (feeBps : UInt16) :
    ∃ low high, ofUInt16 feeBps = [low, high] ∧ toUInt16 [low, high] = feeBps := by
  obtain ⟨low, high, h⟩ := List.length_eq_two.mp (length_ofUInt16 feeBps)
  exact ⟨low, high, h, by rw [← h, toUInt16_ofUInt16]⟩

section Commands

variable [Pda] {rt : Runtime} {programId authority feeRecipient : Pubkey} {feeBps : UInt16}
  {paused : Bool} {newFeeRecipient : Option Pubkey} {l : Ledger} {m' : Machine}

omit [Pda] in
theorem readArgs_create {bump : UInt8} {args : UInt16 × UInt8} :
    Initialize.readArgs (ofUInt16 feeBps ++ [bump]) = .ok args ↔
      feeBps ≤ maxFeeBps ∧ args = (feeBps, bump) := by
  obtain ⟨low, high, hbytes, hread⟩ := ofUInt16_pair feeBps
  rw [hbytes]
  have hdata : Initialize.readArgs ([low, high] ++ [bump]) = (do
      rejectIf (toUInt16 [low, high] > maxFeeBps) .invalidFeeBps
      pure (toUInt16 [low, high], bump)) := rfl
  rw [hdata, hread]
  simp only [bind_eq_ok, failIf_eq_ok, pure_eq_ok, gt_iff_lt, UInt16.not_lt]
  constructor
  · rintro ⟨_, hbps, h⟩
    exact ⟨hbps, h.symm⟩
  · rintro ⟨hbps, h⟩
    exact ⟨(), hbps, h.symm⟩

omit [Pda] in
theorem readArgs_update {paused update : UInt8} {args : UpdateConfig.Args} (hpaused : paused ≤ 1) :
    UpdateConfig.readArgs (ofUInt16 feeBps ++ [paused, update]) = .ok args ↔
      feeBps ≤ maxFeeBps ∧ args = ⟨feeBps, paused, update⟩ := by
  obtain ⟨low, high, hbytes, hread⟩ := ofUInt16_pair feeBps
  rw [hbytes]
  have hdata : UpdateConfig.readArgs ([low, high] ++ [paused, update]) = (do
      rejectIf (toUInt16 [low, high] > maxFeeBps) .invalidFeeBps
      rejectIf (paused > 1) .invalidInstructionData
      pure ⟨toUInt16 [low, high], paused, update⟩) := rfl
  rw [hdata, hread]
  simp only [bind_eq_ok, failIf_eq_ok, pure_eq_ok, gt_iff_lt, UInt16.not_lt, UInt8.not_lt]
  constructor
  · rintro ⟨_, hbps, _, _, h⟩
    exact ⟨hbps, h.symm⟩
  · rintro ⟨hbps, h⟩
    exact ⟨(), hbps, (), hpaused, h.symm⟩

omit [Pda] in
/-- The first account of a list that asks for its signature has signed. -/
theorem signed_head (k : Pubkey) (writable : Bool) (rest : List AccountMeta) :
    ¬ (!(mergedView (⟨k, true, writable⟩ :: rest) ⟨k, true, writable⟩).isSigner) = true := by
  have hsigner := isSigner_of_mem (x := ⟨k, true, writable⟩) (List.mem_cons_self (l := rest)) rfl
  rw [hsigner]
  decide

omit [Pda] in
/-- A record is read where one stands. -/
theorem read_isOk {account : AccountView} :
    (RouterConfig.read l account).isOk = true ↔
      ∃ c, RouterConfig.decode (account.data l) = some c ∧ c.isInitialized = true := by
  cases hread : RouterConfig.read l account with
  | ok c => exact ⟨fun _ => ⟨c, RouterConfig.read_eq_ok.mp hread⟩, fun _ => rfl⟩
  | error e =>
    refine ⟨fun h => absurd h Bool.false_ne_true, fun ⟨c, hc⟩ => ?_⟩
    rw [RouterConfig.read_eq_ok.mpr hc] at hread
    cases hread

/-- **A creation returns** exactly if the rate is within its limit and the
account can be created, and then has stored the record. -/
theorem create_eq_ok (hrt : rt.CreatesAccounts) :
    (AdminCommand.initializeConfig authority feeRecipient feeBps).result rt programId l
        = .ok () m' ↔
      feeBps ≤ maxFeeBps
      ∧ (∀ c, RouterConfig.decode (l (Program.configPda programId).1).data = some c →
        c.isInitialized = false)
      ∧ ∃ l₁, rt.createAccount (AdminCommand.creation programId authority) l = .ok l₁
        ∧ m' = ⟨setData l₁ (Program.configPda programId).1 ((RouterConfig.fresh authority
          feeRecipient feeBps (Program.configPda programId).2).store
          (l₁ (Program.configPda programId).1).data), []⟩ := by
  change Initialize.process rt programId _
    (ofUInt16 feeBps ++ [(Program.configPda programId).2]) ⟨l, []⟩ = .ok () m' ↔ _
  simp only [Initialize.process, run_lift_bind_eq_ok, currentLedger_bind, readArgs_create]
  constructor
  · rintro ⟨_, ⟨hbps, rfl⟩, a, ha, _, hcheck, h⟩
    cases ha
    obtain ⟨_, created, hcreated, hwrite⟩ := run_bind_eq_ok.mp h
    obtain ⟨hcreate, htrace⟩ := createAccount_eq_ok.mp hcreated
    obtain ⟨-, -, rfl⟩ := RouterConfig.writeNew_eq_ok.mp hwrite
    simp only [Initialize.check, bind_eq_ok, failIf_eq_ok, not_and] at hcheck
    obtain ⟨_, -, _, -, hfresh⟩ := hcheck
    refine ⟨hbps, fun c hc => ?_, created.ledger, hcreate, by rw [htrace]; rfl⟩
    have hnot := hfresh (RouterConfig.len_le_of_decode hc)
    rw [read_isOk] at hnot
    exact Bool.eq_false_iff.mpr fun hinit => hnot ⟨c, hc, hinit⟩
  · rintro ⟨hbps, hfree, l₁, hl₁, rfl⟩
    obtain ⟨-, -, hzeros, -⟩ := hrt _ _ _ hl₁
    obtain ⟨c, hdecode, hinit⟩ := decode_replicate_zero
    refine ⟨_, ⟨hbps, rfl⟩, _, rfl, (), ?_, run_bind_eq_ok.mpr ⟨(), ⟨l₁, []⟩,
      createAccount_eq_ok.mpr ⟨hl₁, rfl⟩, RouterConfig.writeNew_eq_ok.mpr ⟨hbps, ⟨c, ?_, hinit⟩,
        rfl⟩⟩⟩
    · refine bind_eq_ok.mpr ⟨(), failIf_eq_ok.mpr (signed_head _ _ _), bind_eq_ok.mpr ⟨(),
        failIf_eq_ok.mpr ?_, failIf_eq_ok.mpr ?_⟩⟩
      · exact not_or.mpr ⟨not_not.mpr rfl, not_not.mpr rfl⟩
      · rintro ⟨-, hok⟩
        obtain ⟨c, hc, hinit⟩ := read_isOk.mp hok
        exact absurd hinit (by rw [hfree c hc]; decide)
    · exact (congrArg RouterConfig.decode hzeros).trans hdecode

omit [Pda] in
/-- The new recipient is read back. -/
theorem newRecipient_update (paused : UInt8) (authority config : AccountView)
    (metas : List AccountMeta) :
    UpdateConfig.newRecipient ⟨feeBps, paused, if newFeeRecipient.isSome then 1 else 0⟩
      ⟨authority, config, (newFeeRecipient.toList.map (.newReadonly · false)).map
        (mergedView metas)⟩ = .ok newFeeRecipient := by
  cases newFeeRecipient <;> rfl

/-- **A change returns** exactly if the rate is within its limit and the
authority is the stored one, and then has stored the changed record. -/
theorem update_eq_ok :
    (AdminCommand.updateConfig authority feeBps paused newFeeRecipient).result rt programId l
        = .ok () m' ↔
      feeBps ≤ maxFeeBps
      ∧ ∃ cfg, storedConfig programId l (Program.configPda programId).1 = some cfg
        ∧ authority = cfg.authority
        ∧ m' = ⟨setData l (Program.configPda programId).1
          ((cfg.set newFeeRecipient (some feeBps) (some paused)).store
          (l (Program.configPda programId).1).data), []⟩ := by
  change UpdateConfig.process programId _ (ofUInt16 feeBps ++ [_, _]) ⟨l, []⟩ = .ok () m' ↔ _
  have hpaused : (if paused then 1 else 0 : UInt8) ≤ 1 := by cases paused <;> decide
  simp only [UpdateConfig.process, run_lift_bind_eq_ok, currentLedger_bind,
    readArgs_update hpaused]
  have hswitch : decide ((if paused then 1 else 0 : UInt8) = 1) = paused := by
    cases paused <;> decide
  constructor
  · rintro ⟨_, ⟨hbps, rfl⟩, a, ha, _, hcheck, recipient, hrecipient, h⟩
    cases ha
    cases (newRecipient_update ..).symm.trans hrecipient
    obtain ⟨-, cfg, hdecode, hinit, rfl⟩ := RouterConfig.update_eq_ok.mp h
    simp only [UpdateConfig.check, bind_eq_ok, failIf_eq_ok, not_or, not_not, ne_eq,
      RouterConfig.read_eq_ok] at hcheck
    obtain ⟨_, -, _, ⟨-, howner⟩, cfg', ⟨hdecode', -⟩, hauthority⟩ := hcheck
    cases hdecode.symm.trans hdecode'
    refine ⟨hbps, cfg, storedConfig_eq_some.mpr ⟨howner, hdecode, hinit⟩, hauthority, ?_⟩
    rw [hswitch]
    rfl
  · rintro ⟨hbps, cfg, hstored, hauthority, rfl⟩
    obtain ⟨howner, hdecode, hinit⟩ := storedConfig_eq_some.mp hstored
    refine ⟨_, ⟨hbps, rfl⟩, _, rfl, (), ?_, newFeeRecipient, newRecipient_update .., ?_⟩
    · refine bind_eq_ok.mpr ⟨(), failIf_eq_ok.mpr (signed_head _ _ _), bind_eq_ok.mpr ⟨(),
        failIf_eq_ok.mpr (not_or.mpr ⟨not_not.mpr rfl, not_not.mpr howner⟩), bind_eq_ok.mpr
        ⟨cfg, RouterConfig.read_eq_ok.mpr ⟨hdecode, hinit⟩, failIf_eq_ok.mpr
          (not_not.mpr hauthority)⟩⟩⟩
    · refine RouterConfig.update_eq_ok.mpr ⟨hbps, cfg, hdecode, hinit, ?_⟩
      rw [hswitch]
      rfl

/-- The settings on the chain, by the record. -/
theorem settings_eq_some {s : Settings} : settings programId l = some s ↔
    ∃ c, storedConfig programId l (Program.configPda programId).1 = some c
      ∧ s = ⟨c.authority, c.feeRecipient, c.feeBps, c.paused ≠ 0⟩ := by
  unfold settings
  rw [Option.map_eq_some_iff]
  exact exists_congr fun c => and_congr_right fun _ => eq_comm

theorem settings_eq_none : settings programId l = none ↔
    storedConfig programId l (Program.configPda programId).1 = none := Option.map_eq_none_iff

/-- Where no record stands, there are no settings. -/
theorem settings_none (h : ∀ c, RouterConfig.decode (l (Program.configPda programId).1).data
    = some c → c.isInitialized = false) : settings programId l = none := by
  rw [settings_eq_none, Option.eq_none_iff_forall_ne_some]
  intro c hc
  obtain ⟨-, hdecode, hinit⟩ := storedConfig_eq_some.mp hc
  rw [h c hdecode] at hinit
  cases hinit

variable {cmd : AdminCommand}

/-- **A command returns** exactly if it is accepted, and the account it may need
can be created. -/
theorem result_returned_iff (hrt : rt.CreatesAccounts) :
    returned (cmd.result rt programId l) = true ↔
      cmd.Accepted (settings programId l) ∧ cmd.Creatable rt programId l := by
  rw [returned_iff]
  cases cmd with
  | initializeConfig authority feeRecipient feeBps =>
    constructor
    · rintro ⟨⟨⟩, m', h⟩
      obtain ⟨hbps, hfree, l₁, hl₁, -⟩ := (create_eq_ok hrt).mp h
      exact ⟨⟨settings_none hfree, hbps⟩, hfree, l₁, hl₁⟩
    · rintro ⟨⟨-, hbps⟩, hfree, l₁, hl₁⟩
      exact ⟨(), _, (create_eq_ok hrt).mpr ⟨hbps, hfree, l₁, hl₁, rfl⟩⟩
  | updateConfig authority feeBps paused newFeeRecipient =>
    constructor
    · rintro ⟨⟨⟩, m', h⟩
      obtain ⟨hbps, cfg, hcfg, hauthority, -⟩ := update_eq_ok.mp h
      exact ⟨⟨⟨_, settings_eq_some.mpr ⟨cfg, hcfg, rfl⟩, hauthority⟩, hbps⟩, trivial⟩
    · rintro ⟨⟨⟨s, hs, hauthority⟩, hbps⟩, -⟩
      obtain ⟨cfg, hcfg, rfl⟩ := settings_eq_some.mp hs
      exact ⟨(), _, update_eq_ok.mpr ⟨hbps, cfg, hcfg, hauthority, rfl⟩⟩

/-- **A command that returns does what it asks for.** -/
theorem settings_of_result (hrt : rt.CreatesAccounts)
    (h : cmd.result rt programId l = .ok () m') :
    settings programId m'.ledger = cmd.apply (settings programId l) := by
  cases cmd with
  | initializeConfig authority feeRecipient feeBps =>
    obtain ⟨hbps, hfree, l₁, hl₁, rfl⟩ := (create_eq_ok hrt).mp h
    obtain ⟨-, howner, -, -⟩ := hrt _ _ _ hl₁
    have hbps : feeBps ≤ 1000 := hbps
    rw [settings_none hfree, AdminCommand.apply, if_pos ⟨rfl, hbps⟩]
    exact settings_eq_some.mpr ⟨_, storedConfig_setData_store _ howner rfl, rfl⟩
  | updateConfig authority feeBps paused newFeeRecipient =>
    obtain ⟨hbps, cfg, hcfg, hauthority, rfl⟩ := update_eq_ok.mp h
    obtain ⟨howner, -, hinit⟩ := storedConfig_eq_some.mp hcfg
    have hbps : feeBps ≤ 1000 := hbps
    rw [settings_eq_some.mpr ⟨cfg, hcfg, rfl⟩, AdminCommand.apply, Option.map_some,
      if_pos ⟨hauthority, hbps⟩]
    refine settings_eq_some.mpr ⟨_, storedConfig_setData_store _ howner hinit, ?_⟩
    cases paused <;> rfl

omit [Pda] in
/-- A command that is not accepted asks for nothing. -/
theorem apply_of_not_accepted {o : Option Settings} (h : ¬ cmd.Accepted o) :
    cmd.apply o = o := by
  cases cmd with
  | initializeConfig authority feeRecipient feeBps =>
    refine if_neg fun ⟨hnone, hbps⟩ => h ⟨Option.isNone_iff_eq_none.mp hnone, hbps⟩
  | updateConfig authority feeBps paused newFeeRecipient =>
    cases o with
    | none => rfl
    | some s =>
      exact congrArg some (if_neg fun ⟨hauthority, hbps⟩ => h ⟨⟨s, rfl, hauthority⟩, hbps⟩)

/-- **A configured router follows every command**, whether it returns or not. -/
theorem settings_commit {s : Settings} (hrt : rt.CreatesAccounts)
    (hs : settings programId l = some s) :
    settings programId (commit l (cmd.result rt programId l))
      = cmd.apply (settings programId l) := by
  cases hresult : cmd.result rt programId l with
  | ok u m' => exact settings_of_result hrt hresult
  | error e m' =>
    have hnot : ¬ cmd.Accepted (settings programId l) := by
      intro haccepted
      have hcreatable : cmd.Creatable rt programId l := by
        cases cmd with
        | initializeConfig authority feeRecipient feeBps =>
          rw [haccepted.1] at hs
          cases hs
        | updateConfig authority feeBps paused newFeeRecipient => exact trivial
      have hreturned := (result_returned_iff hrt).mpr ⟨haccepted, hcreatable⟩
      rw [hresult] at hreturned
      cases hreturned
    exact (apply_of_not_accepted hnot).symm

end Commands

/-! ## Runs of commands -/

/-- What happens to a router: a command of its owner, or anything that others
do. -/
abbrev AdminEvent := Option AdminCommand

/-- What an event does to the settings. Others do nothing to them. -/
def applyEvent (o : Option Settings) (event : AdminEvent) : Option Settings :=
  event.elim o fun cmd => cmd.apply o

variable [Pda]

/-- **The steps of a router**: a command, in any runtime that creates accounts
as documented, or a run of instructions of which none is an update signed by
the authority, with whatever strangers do in between. -/
inductive AdminStep (programId authority : Pubkey) : Ledger → AdminEvent → Ledger → Prop
  | others {l l' : Ledger} :
    Run programId (fun call => ¬ call.UpdatesAs authority) l l' →
    AdminStep programId authority l none l'
  | command {rt : Runtime} {l : Ledger} (cmd : AdminCommand) : rt.CreatesAccounts →
    AdminStep programId authority l (some cmd) (commit l (cmd.result rt programId l))

section Runs

variable {programId authority : Pubkey} {l l' : Ledger}

omit [Pda] in
/-- Settings, once made, keep their authority. -/
theorem apply_authority (cmd : AdminCommand) (s : Settings) :
    ∃ s', cmd.apply (some s) = some s' ∧ s'.authority = s.authority := by
  cases cmd with
  | initializeConfig authority feeRecipient feeBps =>
    refine ⟨s, ?_, rfl⟩
    unfold AdminCommand.apply
    exact if_neg fun h => absurd h.1 Bool.false_ne_true
  | updateConfig authority feeBps paused newFeeRecipient =>
    refine ⟨_, rfl, ?_⟩
    dsimp only
    split <;> rfl

/-- **A router that is configured** under an authority. -/
def Configured (programId authority : Pubkey) (l : Ledger) : Prop :=
  Inv programId l ∧ ∃ s, settings programId l = some s ∧ s.authority = authority

/-- A command keeps the invariant. -/
theorem command_inv {rt : Runtime} (hrt : rt.CreatesAccounts) (cmd : AdminCommand)
    (h : Inv programId l) : Inv programId (commit l (cmd.result rt programId l)) := by
  cases hresult : cmd.result rt programId l with
  | error e m' => exact h
  | ok u m' =>
    have hkeeps : Keeps programId (fun _ => True) l m'.ledger := by
      cases cmd with
      | initializeConfig authority feeRecipient feeBps =>
        exact Initialize.process_keeps hrt hresult
      | updateConfig authority feeBps paused newFeeRecipient =>
        exact UpdateConfig.process_keeps trivial hresult
    exact (hkeeps h).1

/-- **Others leave the settings alone.** -/
theorem others_settings (h : Run programId (fun call => ¬ call.UpdatesAs authority) l l')
    (hl : Configured programId authority l) :
    Inv programId l' ∧ settings programId l' = settings programId l := by
  obtain ⟨hinv, s, hs, rfl⟩ := hl
  obtain ⟨c, hc, rfl⟩ := settings_eq_some.mp hs
  obtain ⟨hinv', hkeep⟩ := h.keeps hinv
  obtain ⟨c', hc', -, -, hsame⟩ := hkeep c hc
  rw [hs, settings_eq_some]
  exact ⟨hinv', c', hc', by rw [hsame fun call hcall => hcall]⟩

/-- **One step**: the router stays configured, and its settings change as the
event says. -/
theorem AdminStep.follows {event : AdminEvent} (h : AdminStep programId authority l event l')
    (hl : Configured programId authority l) : Configured programId authority l'
      ∧ settings programId l' = applyEvent (settings programId l) event := by
  obtain ⟨hinv, s, hs, hauthority⟩ := id hl
  cases h with
  | others hrun =>
    obtain ⟨hinv', hsame⟩ := others_settings hrun hl
    exact ⟨⟨hinv', s, hsame.trans hs, hauthority⟩, hsame⟩
  | @command rt _ cmd hrt =>
    have hset : settings programId (commit l (cmd.result rt programId l))
        = cmd.apply (settings programId l) := settings_commit hrt hs
    obtain ⟨s', hs', hsame⟩ := apply_authority cmd s
    exact ⟨⟨command_inv hrt cmd hinv, s', by rw [hset, hs, hs'], hsame.trans hauthority⟩, hset⟩

end Runs

/-- **The program carries out the owner's commands.** A command returns exactly
if it is accepted in the settings as they stand, and the account it may need
can be created; then it has changed the settings as it asks. And over any run
of commands, accepted or not, interleaved with any instructions of others, the
settings of a router that is configured are those that the commands ask for,
one after the other. -/
theorem admin_refines {programId : Pubkey} {l₀ l : Ledger} {s : Settings}
    {events : List AdminEvent} (h₀ : Inv programId l₀) (hs : settings programId l₀ = some s)
    (hrun : Steps (AdminStep programId s.authority) l₀ events l) :
    settings programId l = events.foldl applyEvent (some s)
      ∧ ∀ (rt : Runtime) (cmd : AdminCommand) (l : Ledger), rt.CreatesAccounts →
        (returned (cmd.result rt programId l) = true ↔
          cmd.Accepted (settings programId l) ∧ cmd.Creatable rt programId l)
        ∧ ∀ m', cmd.result rt programId l = .ok () m' →
          settings programId m'.ledger = cmd.apply (settings programId l) := by
  refine ⟨?_, fun rt cmd l hrt => ⟨result_returned_iff hrt, fun m' h => settings_of_result hrt h⟩⟩
  rw [← hs]
  have hconfigured : Configured programId s.authority l₀ := ⟨h₀, s, hs, rfl⟩
  exact hrun.follows (fun _ _ _ hl hstep => (AdminStep.follows hstep hl).1)
    (fun _ _ _ hl hstep => (AdminStep.follows hstep hl).2) hconfigured

/-- A router that was just configured, with a fee of one percent. -/
def configuredLedger : Ledger :=
  letI := samplePda
  commit blankLedger ((AdminCommand.initializeConfig (sampleKey 1) (sampleKey 3) 100).result
    creatingRuntime (sampleKey 7) blankLedger)

omit [Pda] in
/-- **A history of a router**: its owner lowers the fee, changes the recipient and
pauses it; others run what they like; a stranger's command is rejected. -/
theorem configured_history : letI := samplePda
    ∃ l, Steps (AdminStep (sampleKey 7) (sampleKey 1)) configuredLedger
        [some (.updateConfig (sampleKey 1) 50 true (some (sampleKey 4))), none,
          some (.updateConfig (sampleKey 9) 0 false none)] l
      ∧ settings (sampleKey 7) l = some ⟨sampleKey 1, sampleKey 4, 50, true⟩ := by
  let := samplePda
  have hrt := creatingRuntime_createsAccounts
  have hs : settings (sampleKey 7) configuredLedger
      = some ⟨sampleKey 1, sampleKey 3, 100, false⟩ :=
    @settings_of_result _ _ _ blankLedger _ (.initializeConfig (sampleKey 1) (sampleKey 3) 100)
      hrt rfl
  have h₀ : Inv (sampleKey 7) configuredLedger :=
    command_inv hrt _ fun address c hc => by cases hc
  have hrun : ∃ l, Steps (AdminStep (sampleKey 7) (sampleKey 1)) configuredLedger
      [some (.updateConfig (sampleKey 1) 50 true (some (sampleKey 4))), none,
        some (.updateConfig (sampleKey 9) 0 false none)] l :=
    ⟨_, .cons (.command _ hrt) (.cons (.others .start) (.cons (.command _ hrt) (.nil _)))⟩
  obtain ⟨l, hrun⟩ := hrun
  exact ⟨l, hrun, ((admin_refines h₀ hs hrun).1).trans (by decide +kernel)⟩

end Execution
