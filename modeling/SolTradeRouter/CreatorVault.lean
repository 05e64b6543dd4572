import SolTradeRouter.AdminCommands
import SolTradeRouter.Privileges
import SolTradeRouter.PumpFunV3
import SolTradeRouter.TradeLegs

/-!
# The rent of a creator's vault

A trade on a Pump curve pays the coin's creator into a vault, and a vault that
is short of the rent-exempt minimum makes the trade fail. The SDK puts an
instruction before the route that tops the vault up, so that the rent is not
counted as an input of the trade.

The program tops up what the vault lacks and nothing else, and only the vault
of the creator that the curve itself names. Any number of users may send the
instruction, each before its own trade: over any run of them, at most one
pays.
-/

namespace Execution

open Outcome Bytes Program Sdk DynamicAccepted Simulation

variable [Pda]

/-! ## The instruction -/

/-- **The instruction that tops a vault up**, as the SDK pushes it. -/
def prepareVault (router payer : Pubkey) (pool : PumpFunPool) : Instruction where
  programId := router
  accounts := [.new payer true, .newReadonly pool.bondingCurve false,
    .new pool.creatorVault false, .newReadonly Sdk.systemProgram false]
  data := [tagPreparePumpfun]

/-- The program's run on the instruction. -/
def vaultResult (rt : Runtime) (router payer : Pubkey) (pool : PumpFunPool) (l : Ledger) :
    EStateM.Result (Abort ProgramError) Machine Unit :=
  processInstruction rt router ((prepareVault router payer pool).accounts.map
    (mergedView (prepareVault router payer pool).accounts)) (prepareVault router payer pool).data
    ⟨l, []⟩

/-- The accounts of the instruction, as the program reads them. -/
def vaultAccounts (router payer : Pubkey) (pool : PumpFunPool) : PreparePumpfun.Accounts :=
  let view := mergedView (prepareVault router payer pool).accounts
  ⟨view (.new payer true), view (.newReadonly pool.bondingCurve false),
    view (.new pool.creatorVault false), view (.newReadonly Sdk.systemProgram false)⟩

/-- The eight bytes that open the data of a Pump curve. -/
def curveMark : List UInt8 := [23, 183, 248, 55, 96, 216, 172, 96]

/-- **The vault is the creator's**: the curve is a Pump curve, and the vault is
the one derived for the creator it names, with no data and no owner but the
System Program. -/
structure VaultOf (l : Ledger) (pool : PumpFunPool) : Prop where
  curve : (l pool.bondingCurve).owner = PreparePumpfun.pump
  length : 81 ≤ (l pool.bondingCurve).data.length
  mark : range? (l pool.bondingCurve).data 0 8 = some curveMark
  vault : ∃ creator, range? (l pool.bondingCurve).data 49 81 = some creator
    ∧ pool.creatorVault = (Pda.find [ascii "creator-vault", creator] PreparePumpfun.pump).1
  owner : (l pool.creatorVault).owner = systemProgramId
  empty : (l pool.creatorVault).data = []

/-- The call that pays what the vault lacks of the minimum. -/
def topUp (router payer : Pubkey) (pool : PumpFunPool) (minimum : UInt64) (l : Ledger) : CpiCall :=
  systemTransfer (vaultAccounts router payer pool).payer (vaultAccounts router payer pool).vault
    (minimum - (l pool.creatorVault).lamports)

section Instruction

variable {rt : Runtime} {router payer : Pubkey} {pool : PumpFunPool} {l : Ledger}
  {minimum needed : UInt64}

/-- A trade on a Pump curve ends its setup with the instruction. -/
theorem preparePumpfun_setup (initializeVolume : Bool) (s : TradeSetup) :
    prepareVault router payer pool
      ∈ (preparePumpfunNativeAccounts router payer pool initializeVolume s).setup := by
  simp [preparePumpfunNativeAccounts, TradeSetup.push, prepareVault]

omit [Pda] in
/-- A curve is foreign if it is too short or not marked. -/
theorem foreign_eq (data : List UInt8) :
    anyOf [.ok (data.length < 81), not <$> sliceIs data 0 8 curveMark]
      = (.ok (decide (data.length < 81 ∨ ¬ range? data 0 8 = some curveMark)) : Read Bool) := by
  refine anyOf_cons rfl fun hlen => anyOf_single ?_
  rw [sliceIs_of_le (by decide) (by omega)]
  exact congrArg Except.ok decide_not.symm

omit [Pda] in
/-- The program's view of the vault and of the payer. -/
theorem vaultAccounts_checked : (vaultAccounts router payer pool).payer.isSigner = true
    ∧ (vaultAccounts router payer pool).payer.isWritable = true
    ∧ (vaultAccounts router payer pool).vault.isWritable = true := by
  refine ⟨isSigner_of_mem ?_ rfl, isWritable_of_mem ?_ rfl, isWritable_of_mem ?_ rfl⟩
  all_goals simp [prepareVault]

omit [Pda] in
/-- What an account lacks is found where the minimum is. -/
theorem lacking_iff {e : Except ProgramError UInt64} {lamports : UInt64} :
    (match e with
      | .ok minimum => pure (saturatingSub minimum lamports)
      | .error e => fail e : Read UInt64) = .ok needed ↔
    ∃ minimum, e = .ok minimum ∧ needed = saturatingSub minimum lamports := by
  cases e with
  | ok minimum => simp [pure, Except.pure, eq_comm]
  | error e => simp [fail]

/-- **What the program computes**: the checks are those of the vault, and what is
needed is what it lacks. -/
theorem needed_iff : PreparePumpfun.needed rt l (vaultAccounts router payer pool) = .ok needed ↔
    VaultOf l pool ∧ ∃ minimum, rt.minimumBalance 0 = .ok minimum
      ∧ needed = saturatingSub minimum (l pool.creatorVault).lamports := by
  obtain ⟨hsigner, hpayer, hvault⟩ : (vaultAccounts router payer pool).payer.isSigner = true
      ∧ (vaultAccounts router payer pool).payer.isWritable = true
      ∧ (vaultAccounts router payer pool).vault.isWritable = true := vaultAccounts_checked
  unfold PreparePumpfun.needed
  rw [hsigner, hpayer, hvault]
  simp only [bind_eq_ok, failIf_eq_ok]
  constructor
  · rintro ⟨_, -, _, -, _, hprograms, foreign, hforeign, _, hmark, creator, hcreator, _, hown, h⟩
    have hforeign := (foreign_eq _).symm.trans hforeign
    have hmark : ¬ ((l pool.bondingCurve).data.length < 81
        ∨ ¬ range? (l pool.bondingCurve).data 0 8 = some curveMark) := by
      cases hforeign
      exact fun h => hmark (decide_eq_true h)
    obtain ⟨-, howner⟩ := not_or.mp hprograms
    obtain ⟨hlen, hmark⟩ := not_or.mp hmark
    obtain ⟨haddr, hown⟩ := not_or.mp hown
    obtain ⟨hsystem, hempty⟩ := not_or.mp hown
    exact ⟨⟨not_not.mp howner, Nat.not_lt.mp hlen, not_not.mp hmark,
      ⟨creator, slice_eq_ok.mp hcreator, not_not.mp haddr⟩, not_not.mp hsystem,
      List.eq_nil_of_length_eq_zero (not_not.mp hempty)⟩, lacking_iff.mp h⟩
  · rintro ⟨hv, h⟩
    obtain ⟨creator, hcreator, haddr⟩ := hv.vault
    refine ⟨(), by simp, (), by simp, (), ?_, _, foreign_eq _, (), ?_, creator,
      slice_eq_ok.mpr hcreator, (), ?_, lacking_iff.mpr h⟩
    · exact not_or.mpr ⟨not_not.mpr rfl, not_not.mpr hv.curve⟩
    · rw [decide_eq_true_eq]
      exact not_or.mpr ⟨Nat.not_lt.mpr hv.length, not_not.mpr hv.mark⟩
    · refine not_or.mpr ⟨not_not.mpr haddr, not_or.mpr ⟨not_not.mpr hv.owner, not_not.mpr ?_⟩⟩
      exact congrArg List.length hv.empty

omit [Pda] in
/-- Something is needed where the vault holds less than the minimum. -/
theorem saturatingSub_pos {a b : UInt64} : saturatingSub a b > 0 ↔ b < a := by
  unfold saturatingSub
  split
  · rename_i hle
    rw [gt_iff_lt, UInt64.lt_iff_toNat_lt, UInt64.toNat_sub_of_le _ _ hle, UInt64.lt_iff_toNat_lt]
    exact Nat.sub_pos_iff_lt
  · rename_i hnot
    exact iff_of_false (by decide) fun hlt => hnot (UInt64.le_of_lt hlt)

/-- **The instruction returns** exactly if the vault is the creator's, and it
has its minimum or the payment goes through. -/
theorem vaultResult_eq_ok {m' : Machine} : vaultResult rt router payer pool l = .ok () m' ↔
    VaultOf l pool ∧ ∃ minimum, rt.minimumBalance 0 = .ok minimum
      ∧ ((minimum ≤ (l pool.creatorVault).lamports ∧ m' = ⟨l, []⟩)
        ∨ ((l pool.creatorVault).lamports < minimum ∧ ∃ l₁,
          rt.cpi 0 (topUp router payer pool minimum l) l = .ok l₁
            ∧ m' = ⟨l₁, [⟨topUp router payer pool minimum l, l, l₁⟩]⟩)) := by
  change PreparePumpfun.process rt _ [] ⟨l, []⟩ = .ok () m' ↔ _
  simp only [PreparePumpfun.process, run_lift_bind_eq_ok, currentLedger_bind]
  have hcall : ∀ minimum : UInt64, (l pool.creatorVault).lamports < minimum →
      systemTransfer (vaultAccounts router payer pool).payer
        (vaultAccounts router payer pool).vault
        (saturatingSub minimum (l pool.creatorVault).lamports)
          = topUp router payer pool minimum l := fun minimum hlt => by
    rw [saturatingSub, if_pos (UInt64.le_of_lt hlt), topUp]
  constructor
  · rintro ⟨_, -, a, ha, needed, hneeded, h⟩
    cases ha
    obtain ⟨hv, minimum, hminimum, rfl⟩ := needed_iff.mp hneeded
    refine ⟨hv, minimum, hminimum, ?_⟩
    by_cases hlt : (l pool.creatorVault).lamports < minimum
    · rw [if_pos (saturatingSub_pos.mpr hlt)] at h
      obtain ⟨hcpi, htrace⟩ := invoke_eq_ok.mp h
      replace hcpi := (congrArg (rt.cpi 0 · l) (hcall minimum hlt)).symm.trans hcpi
      refine .inr ⟨hlt, m'.ledger, hcpi, ?_⟩
      rw [← hcall minimum hlt]
      exact Machine.ext rfl htrace
    · rw [if_neg (mt saturatingSub_pos.mp hlt)] at h
      cases h
      exact .inl ⟨UInt64.not_lt.mp hlt, rfl⟩
  · rintro ⟨hv, minimum, hminimum, h⟩
    refine ⟨(), rfl, _, rfl, _, needed_iff.mpr ⟨hv, minimum, hminimum, rfl⟩, ?_⟩
    rcases h with ⟨hle, rfl⟩ | ⟨hlt, l₁, hcpi, rfl⟩
    · rw [if_neg (mt saturatingSub_pos.mp (UInt64.not_lt.mpr hle))]
      rfl
    · rw [if_pos (saturatingSub_pos.mpr hlt)]
      refine invoke_eq_ok.mpr ⟨?_, ?_⟩
      · exact (congrArg (rt.cpi 0 · l) (hcall minimum hlt)).trans hcpi
      · rw [← hcall minimum hlt]
        rfl

end Instruction

/-! ## What it moves -/

omit [Pda] in
/-- The accounts with lamports moved from one to another. -/
def moveLamports (l : Ledger) (source dest : Pubkey) (amount : UInt64) : Ledger :=
  let paid := Function.update l source { l source with lamports := (l source).lamports - amount }
  Function.update paid dest { paid dest with lamports := (paid dest).lamports + amount }

/-- **A runtime whose System Program transfers lamports**: as many as it is
asked to, out of an account that has them, and it touches nothing else. -/
def TransfersLamports (rt : Runtime) : Prop :=
  ∀ ⦃n source dest amount l l'⦄, source.address ≠ dest.address →
    rt.cpi n (systemTransfer source dest amount) l = .ok l' →
      amount ≤ (l source.address).lamports
        ∧ l' = moveLamports l source.address dest.address amount

/-- The lamports at an address. -/
def held (l : Ledger) (k : Pubkey) : ℕ := (l k).lamports.toNat

section Moves

variable {rt : Runtime} {router payer : Pubkey} {pool : PumpFunPool} {l : Ledger}
  {minimum : UInt64} {m' : Machine}

/-- **A run that returns leaves the vault with its minimum**: it has moved what
was missing, or nothing. -/
theorem vault_moved (hrt : TransfersLamports rt) (hminimum : rt.minimumBalance 0 = .ok minimum)
    (hpayer : payer ≠ pool.creatorVault) (h : vaultResult rt router payer pool l = .ok () m') :
    m'.ledger = if (l pool.creatorVault).lamports < minimum then moveLamports l payer
        pool.creatorVault (minimum - (l pool.creatorVault).lamports) else l := by
  obtain ⟨-, minimum', hminimum', h⟩ := vaultResult_eq_ok.mp h
  cases hminimum.symm.trans hminimum'
  rcases h with ⟨hle, rfl⟩ | ⟨hlt, l₁, hcpi, rfl⟩
  · rw [if_neg (UInt64.not_lt.mpr hle)]
  · rw [if_pos hlt]
    exact (hrt hpayer hcpi).2

omit [Pda] in
/-- What was missing makes up the minimum. -/
theorem held_moveLamports {vault : Pubkey} (hpayer : payer ≠ vault)
    (hlt : (l vault).lamports < minimum) :
    held (moveLamports l payer vault (minimum - (l vault).lamports)) vault = minimum.toNat := by
  have hvault : (Function.update l payer { l payer with
      lamports := (l payer).lamports - (minimum - (l vault).lamports) } vault) = l vault :=
    Function.update_of_ne hpayer.symm _ _
  unfold held moveLamports
  rw [Function.update_self, hvault]
  have hle := UInt64.le_of_lt hlt
  have hlt := UInt64.lt_iff_toNat_lt.mp hlt
  rw [UInt64.toNat_add, UInt64.toNat_sub_of_le _ _ hle, Nat.add_sub_of_le (Nat.le_of_lt hlt)]
  exact Nat.mod_eq_of_lt minimum.toNat_lt

end Moves

/-! ## Runs of many users -/

/-- **What happens to a vault**: an instruction for it is rejected, or returns
with the calls it made and the lamports the vault gained, or something else
happens. -/
inductive VaultEvent where
  | others
  | rejected
  | prepared (calls : List CpiCall) (paid : ℕ)

namespace VaultEvent

def calls : VaultEvent → ℕ
  | .prepared calls _ => calls.length
  | _ => 0

def paid : VaultEvent → ℕ
  | .prepared _ paid => paid
  | _ => 0

def returned : VaultEvent → Bool
  | .prepared _ _ => true
  | _ => false

end VaultEvent

/-- **The steps of a vault**: an instruction of some user's trade, with any
router, or anything else that does not take from the vault what belongs to its
minimum. A vault is no user: it has no key to sign with. -/
inductive VaultStep (minimum : UInt64) (vault : Pubkey) : Ledger → VaultEvent → Ledger → Prop
  | others {l l' : Ledger} : min minimum.toNat (held l vault) ≤ held l' vault →
    VaultStep minimum vault l .others l'
  | rejected {rt : Runtime} {l : Ledger} {router payer : Pubkey} {pool : PumpFunPool}
    {e : Abort ProgramError} {m' : Machine} :
    vaultResult rt router payer pool l = .error e m' → VaultStep minimum vault l .rejected l
  | prepared {rt : Runtime} {l : Ledger} {router payer : Pubkey} {pool : PumpFunPool}
    {m' : Machine} : TransfersLamports rt → rt.minimumBalance 0 = .ok minimum →
    pool.creatorVault = vault → payer ≠ vault → vaultResult rt router payer pool l = .ok () m' →
    VaultStep minimum vault l (.prepared (m'.trace.map CpiEvent.call)
      (held m'.ledger vault - held l vault)) m'.ledger

section Runs

variable {minimum : UInt64} {vault : Pubkey} {l l' : Ledger} {event : VaultEvent}

/-- **One step**: the vault keeps its minimum, or what it has of it. A call is
made only where something was missing, nothing is missing after a return, and
what was paid is no longer missing. -/
theorem VaultStep.spec (h : VaultStep minimum vault l event l') :
    min minimum.toNat (held l vault) ≤ held l' vault
      ∧ event.paid + (minimum.toNat - held l' vault) ≤ minimum.toNat - held l vault
      ∧ event.calls ≤ 1 ∧ (0 < event.calls → held l vault < minimum.toNat)
      ∧ (0 < event.calls ∨ event.returned → minimum.toNat ≤ held l' vault) := by
  cases h with
  | others hle =>
    refine ⟨hle, ?_, Nat.zero_le _, ?_, ?_⟩
    all_goals simp [VaultEvent.paid, VaultEvent.calls, VaultEvent.returned]
    omega
  | rejected =>
    refine ⟨Nat.min_le_right _ _, ?_, Nat.zero_le _, ?_, ?_⟩
    all_goals simp [VaultEvent.paid, VaultEvent.calls, VaultEvent.returned]
  | prepared hrt hminimum hvault hpayer hresult =>
    subst hvault
    have hmoved := vault_moved hrt hminimum hpayer hresult
    obtain ⟨-, minimum', hminimum', hrun⟩ := vaultResult_eq_ok.mp hresult
    cases hminimum.symm.trans hminimum'
    rcases hrun with ⟨hle, rfl⟩ | ⟨hlt, l₁, -, rfl⟩
    · have hle := UInt64.le_iff_toNat_le.mp hle
      refine ⟨Nat.min_le_right _ _, ?_, Nat.zero_le _, ?_, fun _ => hle⟩
      all_goals simp [VaultEvent.paid, VaultEvent.calls]
    · dsimp only at hmoved
      rw [if_pos hlt] at hmoved
      have hheld := held_moveLamports hpayer hlt
      rw [← hmoved] at hheld
      have hlt : held l _ < minimum.toNat := UInt64.lt_iff_toNat_lt.mp hlt
      dsimp only
      rw [hheld]
      refine ⟨Nat.min_le_left _ _, ?_, Nat.le_refl _, fun _ => hlt, fun _ => Nat.le_refl _⟩
      simp [VaultEvent.paid]

/-- **A run**: all payments together are no more than what was missing, one call
is made at most and only if something was missing, and after a return nothing
is. -/
theorem vault_run {events : List VaultEvent} (h : Steps (VaultStep minimum vault) l events l') :
    min minimum.toNat (held l vault) ≤ held l' vault
      ∧ (events.map VaultEvent.paid).sum ≤ minimum.toNat - held l vault
      ∧ (events.map VaultEvent.calls).sum ≤ (if held l vault < minimum.toNat then 1 else 0)
      ∧ ((∃ e ∈ events, e.returned) → minimum.toNat ≤ held l' vault) := by
  induction h with
  | nil s => simp
  | @cons s s₁ s' e es hstep hrest ih =>
    obtain ⟨hkeep, hpaid, hone, hcall, hdone⟩ := hstep.spec
    obtain ⟨hkeep', hpaid', hcalls', hdone'⟩ := ih
    have hkept : min minimum.toNat (held s vault) ≤ held s' vault := by omega
    refine ⟨hkept, ?_, ?_, ?_⟩
    · rw [List.map_cons, List.sum_cons]
      omega
    · rw [List.map_cons, List.sum_cons]
      by_cases hzero : 0 < e.calls
      · have hlt := hcall hzero
        have hge := hdone (.inl hzero)
        rw [if_neg (Nat.not_lt.mpr hge)] at hcalls'
        rw [if_pos hlt]
        omega
      · refine (Nat.add_le_add (Nat.le_of_not_lt hzero) hcalls').trans ?_
        split
        · split <;> omega
        · split <;> omega
    · rintro ⟨e', he', hreturned⟩
      cases List.mem_cons.mp he' with
      | inl heq =>
        subst heq
        have hge := hdone (.inr hreturned)
        omega
      | inr hmem => exact hdone' ⟨e', hmem, hreturned⟩

end Runs

/-- **The rent of a vault is paid once.** A trade on a Pump curve carries the
instruction, which returns exactly if the vault is that of the curve's creator
and either has its minimum or the payment of what is missing goes through; then
that is what has been moved, from the payer to the vault, and nothing else has
changed. Over any run of such instructions for one vault, of any users and with
any router, with anything in between that leaves the vault its minimum, at most
one makes a payment, all payments together are no more than what was missing,
and once one has returned the vault has its minimum. -/
theorem creator_vault_prepared {minimum : UInt64} {vault : Pubkey} {l₀ l : Ledger}
    {events : List VaultEvent} (hrun : Steps (VaultStep minimum vault) l₀ events l) :
    ((events.map VaultEvent.paid).sum ≤ minimum.toNat - held l₀ vault
      ∧ (events.map VaultEvent.calls).sum ≤ 1
      ∧ ((∃ e ∈ events, e.returned) → minimum.toNat ≤ held l vault))
    ∧ ∀ (rt : Runtime) (router payer : Pubkey) (pool : PumpFunPool) (l : Ledger),
      (∀ initializeVolume s, prepareVault router payer pool
        ∈ (preparePumpfunNativeAccounts router payer pool initializeVolume s).setup)
      ∧ (TransfersLamports rt → rt.minimumBalance 0 = .ok minimum → payer ≠ pool.creatorVault →
        (returned (vaultResult rt router payer pool l) = true ↔
          VaultOf l pool ∧ ((l pool.creatorVault).lamports < minimum →
            ∃ l₁, rt.cpi 0 (topUp router payer pool minimum l) l = .ok l₁))
        ∧ ∀ m', vaultResult rt router payer pool l = .ok () m' →
          m'.ledger = if (l pool.creatorVault).lamports < minimum then moveLamports l payer
            pool.creatorVault (minimum - (l pool.creatorVault).lamports) else l) := by
  obtain ⟨-, hpaid, hcalls, hdone⟩ := vault_run hrun
  have hone : (events.map VaultEvent.calls).sum ≤ 1 := hcalls.trans (by split <;> decide)
  refine ⟨⟨hpaid, hone, hdone⟩, fun rt router payer pool l => ⟨preparePumpfun_setup, ?_⟩⟩
  intro hrt hminimum hpayer
  refine ⟨?_, fun m' h => vault_moved hrt hminimum hpayer h⟩
  rw [returned_iff]
  constructor
  · rintro ⟨⟨⟩, m', h⟩
    obtain ⟨hv, minimum', hminimum', hcase⟩ := vaultResult_eq_ok.mp h
    cases hminimum.symm.trans hminimum'
    refine ⟨hv, fun hlt => ?_⟩
    rcases hcase with ⟨hle, -⟩ | ⟨-, l₁, hcpi, -⟩
    · exact absurd hlt (UInt64.not_lt.mpr hle)
    · exact ⟨l₁, hcpi⟩
  · rintro ⟨hv, hpays⟩
    by_cases hlt : (l pool.creatorVault).lamports < minimum
    · obtain ⟨l₁, hcpi⟩ := hpays hlt
      exact ⟨(), _, vaultResult_eq_ok.mpr ⟨hv, minimum, hminimum, .inr ⟨hlt, l₁, hcpi, rfl⟩⟩⟩
    · exact ⟨(), _, vaultResult_eq_ok.mpr ⟨hv, minimum, hminimum,
        .inl ⟨UInt64.not_lt.mp hlt, rfl⟩⟩⟩

/-! ## A vault and two users -/

omit [Pda] in
/-- A runtime of the System Program, with a minimum of five lamports. -/
def lamportsRuntime : Runtime where
  cpi _ call l :=
    match call.metas with
    | [source, dest] =>
      let amount := toUInt64 (call.data.drop 4)
      if amount ≤ (l source.pubkey).lamports then
        .ok (moveLamports l source.pubkey dest.pubkey amount)
      else .error (.other 1)
    | _ => .error (.other 2)
  createAccount _ l := .ok l
  minimumBalance _ := .ok 5

omit [Pda] in
theorem lamportsRuntime_transfers : TransfersLamports lamportsRuntime := by
  intro n source dest amount l l' _ h
  have hrun : lamportsRuntime.cpi n (systemTransfer source dest amount) l
      = if amount ≤ (l source.address).lamports then
          .ok (moveLamports l source.address dest.address amount)
        else .error (.other 1) := by
    simp only [lamportsRuntime, systemTransfer, List.cons_append, List.nil_append,
      List.drop_succ_cons, List.drop_zero, toUInt64_ofUInt64]
  rw [hrun] at h
  split at h
  · rename_i hle
    exact ⟨hle, (Except.ok.inj h).symm⟩
  · cases h

omit [Pda] in
/-- A curve whose creator's vault is derived by `samplePda`. -/
def vaultPool : PumpFunPool :=
  { sampleCurve with bondingCurve := sampleKey 5, creatorVault := sampleKey 2 }

omit [Pda] in
/-- An empty vault, and users with nine lamports each. -/
def vaultLedger : Ledger := fun k =>
  if k = sampleKey 2 then ⟨0, systemProgramId, []⟩
  else if k = sampleKey 5 then ⟨0, PreparePumpfun.pump, curveMark ++ List.replicate 73 0⟩
  else ⟨9, systemProgramId, []⟩

omit [Pda] in
/-- The ledger after the first of them has paid the rent. -/
def vaultFunded : Ledger := moveLamports vaultLedger (sampleKey 1) (sampleKey 2) 5

omit [Pda] in
/-- The first user pays the rent, and the second one nothing. -/
theorem vaultPool_prepared : letI := samplePda
    Steps (VaultStep 5 (sampleKey 2)) vaultLedger
        [.prepared [topUp (sampleKey 7) (sampleKey 1) vaultPool 5 vaultLedger] 5,
          .prepared [] 0] vaultFunded
      ∧ 5 ≤ held vaultFunded (sampleKey 2) := by
  let := samplePda
  have hcurve : ∀ l : Ledger, l vaultPool.bondingCurve = vaultLedger vaultPool.bondingCurve →
      (l vaultPool.creatorVault).owner = systemProgramId → (l vaultPool.creatorVault).data = [] →
        VaultOf l vaultPool := fun l hl howner hdata =>
    ⟨by rw [hl]; rfl, by rw [hl]; decide, by rw [hl]; decide,
      ⟨List.replicate 32 0, by rw [hl]; decide, rfl⟩, howner, hdata⟩
  have hfirst : vaultResult lamportsRuntime (sampleKey 7) (sampleKey 1) vaultPool vaultLedger
      = .ok () ⟨vaultFunded, [⟨topUp (sampleKey 7) (sampleKey 1) vaultPool 5 vaultLedger,
        vaultLedger, vaultFunded⟩]⟩ :=
    vaultResult_eq_ok.mpr ⟨hcurve _ rfl rfl rfl, 5, rfl, .inr ⟨by decide, _, rfl, rfl⟩⟩
  have hsecond : vaultResult lamportsRuntime (sampleKey 7) (sampleKey 3) vaultPool vaultFunded
      = .ok () ⟨vaultFunded, []⟩ :=
    vaultResult_eq_ok.mpr ⟨hcurve _ rfl rfl rfl, 5, rfl, .inl ⟨by decide, rfl⟩⟩
  have hrun : Steps (VaultStep 5 (sampleKey 2)) vaultLedger
      [.prepared [topUp (sampleKey 7) (sampleKey 1) vaultPool 5 vaultLedger] 5,
        .prepared [] 0] vaultFunded :=
    .cons (.prepared lamportsRuntime_transfers rfl rfl (by decide) hfirst)
      (.cons (.prepared lamportsRuntime_transfers rfl rfl (by decide) hsecond) (.nil _))
  exact ⟨hrun, (creator_vault_prepared hrun).1.2.2 ⟨_, List.mem_cons_self, rfl⟩⟩

end Execution
