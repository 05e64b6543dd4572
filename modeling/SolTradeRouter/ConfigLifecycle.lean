import SolTradeRouter.Instructions
import SolTradeRouter.RouteRun

/-!
# The life of the configuration

The configuration starts out absent, is created once, and is changed only
by its authority. This module proves it over whole runs: any sequence of
instructions, with any data, accounts and signers, in any order, with
strangers acting in between.

What strangers can do is `Foreign`: they may do anything to accounts the
program does not own, may create accounts owned by the program, filled
with zeros, wherever they like, and cannot touch the owner or the data of
an account the program owns. A call the program makes may do all that, and
it may also come back: a leg may name the router itself. `Effect` closes
the foreign effects under instructions of the program that return, which
may again make such calls.

The invariant (`Inv`) is that the initialized discriminator stands at the
canonical address only, with the canonical bump, a fee rate of at most ten
percent and a pause switch of zero or one. `Keeps` is what one effect, and
so any run, preserves of a configuration that exists.
-/

namespace Program

open Outcome Bytes

/-! ## Runs -/

/-- **What others can do to the accounts.** -/
def Foreign (programId : Address) (l l' : Ledger) : Prop :=
  ∀ address, ((l address).owner = programId →
      (l' address).owner = programId ∧ (l' address).data = (l address).data)
    ∧ ((l address).owner ≠ programId → (l' address).owner = programId →
      ∀ b ∈ (l' address).data, b = 0)

/-- The System Program's account creation, as documented: the account was
the System Program's, and now belongs to its new owner, filled with zeros;
no other account changes owner or data. -/
def Runtime.CreatesAccounts (rt : Runtime) : Prop :=
  ∀ (call : CreateAccountCall) (l l' : Ledger), rt.createAccount call l = .ok l' →
    (l call.account).owner = systemProgramId
    ∧ (l' call.account).owner = call.owner
    ∧ (l' call.account).data = List.replicate call.space 0
    ∧ ∀ address, address ≠ call.account → (l' address).owner = (l address).owner
      ∧ (l' address).data = (l address).data

/-- An instruction sent to the program. -/
structure InstructionCall where
  accounts : List AccountView
  data : List UInt8

/-- **An `update_config` signed by the given key.** -/
def InstructionCall.UpdatesAs (call : InstructionCall) (authority : Address) : Prop :=
  call.data.head? = some 1 ∧ ∃ signer, call.accounts.head? = some signer
    ∧ signer.address = authority ∧ signer.isSigner = true

variable [Pda]

/-- **The effects a call can have**: foreign ones, those of instructions of
the program itself, and sequences of both. `allowed` restricts which
instructions occur. -/
inductive Effect (programId : Address) (allowed : InstructionCall → Prop) :
    Ledger → Ledger → Prop
  | foreign {l l' : Ledger} : Foreign programId l l' → Effect programId allowed l l'
  | trans {l l' l'' : Ledger} : Effect programId allowed l l' →
      Effect programId allowed l' l'' → Effect programId allowed l l''
  | nested {rt : Runtime} {call : InstructionCall} {l : Ledger} {m : Machine} :
      rt.CreatesAccounts →
      (∀ n cpi l l', rt.cpi n cpi l = .ok l' → Effect programId allowed l l') →
      allowed call →
      processInstruction rt programId call.accounts call.data ⟨l, []⟩ = .ok () m →
      Effect programId allowed l m.ledger

/-- A runtime whose calls have such effects. -/
structure Runtime.Admissible (rt : Runtime) (programId : Address)
    (allowed : InstructionCall → Prop) : Prop where
  creates : rt.CreatesAccounts
  effects : ∀ n cpi l l', rt.cpi n cpi l = .ok l' → Effect programId allowed l l'

/-- The accounts after a transaction: those the instruction left if it
returned, and the ones before it if it did not. -/
def commit (before : Ledger) : EStateM.Result (Abort ProgramError) Machine Unit → Ledger
  | .ok _ m => m.ledger
  | .error _ _ => before

/-- **A finite run**: instructions, each of which returns or is rolled
back, and whatever strangers do in between. -/
inductive Run (programId : Address) (allowed : InstructionCall → Prop) (l : Ledger) :
    Ledger → Prop
  | start : Run programId allowed l l
  | foreign {l' l'' : Ledger} : Run programId allowed l l' → Foreign programId l' l'' →
      Run programId allowed l l''
  | instruction {rt : Runtime} {call : InstructionCall} {l' : Ledger} :
      Run programId allowed l l' → rt.Admissible programId allowed → allowed call →
      Run programId allowed l
        (commit l' (processInstruction rt programId call.accounts call.data ⟨l', []⟩))

/-! ## The invariant -/

/-- The configuration at an address: an account of the program that
carries the discriminator. -/
def storedConfig (programId : Address) (l : Ledger) (address : Address) :
    Option RouterConfig :=
  if (l address).owner = programId then
    (RouterConfig.decode (l address).data).filter RouterConfig.isInitialized
  else none

/-- **The invariant**: a configuration stands only at the canonical address,
and its fields are in range. -/
def Inv (programId : Address) (l : Ledger) : Prop :=
  ∀ address c, storedConfig programId l address = some c →
    address = (configPda programId).1 ∧ c.bump = (configPda programId).2
      ∧ c.feeBps ≤ maxFeeBps ∧ (c.paused = 0 ∨ c.paused = 1)

/-- **What a step preserves**: the invariant; of an existing configuration
its authority and its bump; and, if no allowed instruction is an update by
its authority, all of it. -/
def Keeps (programId : Address) (allowed : InstructionCall → Prop) (l l' : Ledger) :
    Prop :=
  Inv programId l → Inv programId l'
    ∧ ∀ c, storedConfig programId l (configPda programId).1 = some c →
      ∃ c', storedConfig programId l' (configPda programId).1 = some c'
        ∧ c'.authority = c.authority ∧ c'.bump = c.bump
        ∧ ((∀ call, allowed call → ¬ call.UpdatesAs c.authority) → c' = c)

variable {programId : Address} {allowed : InstructionCall → Prop} {l l' l'' : Ledger}

omit [Pda] in
theorem storedConfig_eq_some {address : Address} {c : RouterConfig} :
    storedConfig programId l address = some c ↔
      (l address).owner = programId ∧ RouterConfig.decode (l address).data = some c
        ∧ c.isInitialized = true := by
  unfold storedConfig
  split
  · rename_i h
    rw [Option.filter_eq_some_iff]
    simp [h]
  · rename_i h
    simp [h]

omit [Pda] in
/-- Where neither owner nor data change, neither does the configuration. -/
theorem storedConfig_congr {address : Address}
    (howner : (l' address).owner = (l address).owner)
    (hdata : (l' address).data = (l address).data) :
    storedConfig programId l' address = storedConfig programId l address := by
  unfold storedConfig
  rw [howner, hdata]

omit [Pda] in
theorem storedConfig_setData_of_ne {address other : Address} {data : List UInt8}
    (h : other ≠ address) :
    storedConfig programId (setData l address data) other
      = storedConfig programId l other := by
  unfold storedConfig
  rw [setData_of_ne data h]

omit [Pda] in
/-- An initialized record written into an account of the program is the
configuration there. -/
theorem storedConfig_setData_store {address : Address} {c : RouterConfig}
    (data : List UInt8) (howner : (l address).owner = programId)
    (hinit : c.isInitialized = true) :
    storedConfig programId (setData l address (c.store data)) address = some c := by
  rw [storedConfig_eq_some, setData_self]
  exact ⟨howner, RouterConfig.decode_store c data, hinit⟩

theorem Keeps.refl (l : Ledger) : Keeps programId allowed l l :=
  fun hinv => ⟨hinv, fun c hc => ⟨c, hc, rfl, rfl, fun _ => rfl⟩⟩

theorem Keeps.trans (h : Keeps programId allowed l l') (h' : Keeps programId allowed l' l'') :
    Keeps programId allowed l l'' := by
  intro hinv
  obtain ⟨hinv', hkeep⟩ := h hinv
  obtain ⟨hinv'', hkeep'⟩ := h' hinv'
  refine ⟨hinv'', fun c hc => ?_⟩
  obtain ⟨c', hc', hauth, hbump, hsame⟩ := hkeep c hc
  obtain ⟨c'', hc'', hauth', hbump', hsame'⟩ := hkeep' c' hc'
  refine ⟨c'', hc'', hauth'.trans hauth, hbump'.trans hbump, fun hno => ?_⟩
  rw [hsame' (by rw [hauth]; exact hno), hsame hno]

/-- A step that leaves every configuration where it is keeps everything. -/
theorem Keeps.of_storedConfig_eq
    (h : ∀ address, storedConfig programId l' address = storedConfig programId l address) :
    Keeps programId allowed l l' := by
  intro hinv
  refine ⟨fun address c hc => hinv address c (by rw [← h, hc]), fun c hc => ?_⟩
  exact ⟨c, by rw [h, hc], rfl, rfl, fun _ => rfl⟩

omit [Pda] in
/-- An account filled with zeros holds no configuration. -/
theorem decode_zeros {data : List UInt8} {c : RouterConfig} (hzero : ∀ b ∈ data, b = 0)
    (hc : RouterConfig.decode data = some c) : c.isInitialized = false := by
  unfold RouterConfig.decode at hc
  split at hc
  · rename_i hlen
    cases hc
    have hrep : data = List.replicate data.length 0 :=
      List.eq_replicate_iff.mpr ⟨rfl, hzero⟩
    have hdisc : (data.drop 0).take 8 = List.replicate 8 0 := by
      rw [hrep, List.drop_zero, List.take_replicate, Nat.min_eq_left]
      unfold RouterConfig.len at hlen
      omega
    show decide ((data.drop 0).take 8 = configDiscriminator) = false
    rw [hdisc]
    decide
  · cases hc

/-- **Foreign effects neither make nor change a configuration.** -/
theorem Keeps.of_foreign (h : Foreign programId l l') : Keeps programId allowed l l' := by
  refine Keeps.of_storedConfig_eq fun address => ?_
  obtain ⟨hours, htheirs⟩ := h address
  by_cases howner : (l address).owner = programId
  · obtain ⟨howner', hdata⟩ := hours howner
    exact storedConfig_congr (howner'.trans howner.symm) hdata
  · have hnone : storedConfig programId l address = none := if_neg howner
    rw [hnone, Option.eq_none_iff_forall_ne_some]
    intro c hc
    obtain ⟨howner', hdecode, hinit⟩ := storedConfig_eq_some.mp hc
    rw [decode_zeros (htheirs howner howner') hdecode] at hinit
    cases hinit

/-! ## What each instruction does -/

/-- **An existing configuration cannot be created again**, whatever the
runtime does. -/
theorem Initialize.process_again {rt : Runtime} {accounts : List AccountView}
    {data : List UInt8} {m m' : Machine} {u : Unit} {c : RouterConfig}
    (hc : storedConfig programId m.ledger (configPda programId).1 = some c) :
    Initialize.process rt programId accounts data m ≠ .ok u m' := by
  intro h
  simp only [Initialize.process, run_lift_bind_eq_ok, currentLedger_bind] at h
  obtain ⟨args, -, a, -, _, hcheck, -⟩ := h
  simp only [Initialize.check, bind_eq_ok, failIf_eq_ok, not_or, not_not, ne_eq,
    not_and] at hcheck
  obtain ⟨_, -, _, ⟨-, haddr⟩, hfresh⟩ := hcheck
  rw [← haddr] at hc
  obtain ⟨-, hdecode, hinit⟩ := storedConfig_eq_some.mp hc
  refine hfresh (RouterConfig.len_le_of_decode hdecode) ?_
  have hread : RouterConfig.read m.ledger a.config = .ok c :=
    RouterConfig.read_eq_ok.mpr ⟨hdecode, hinit⟩
  rw [hread]
  rfl

/-- **Creating the configuration establishes it**: where there was none,
there is one with its fields in range. -/
theorem Initialize.process_keeps {rt : Runtime} {accounts : List AccountView}
    {data : List UInt8} {m m' : Machine} {u : Unit} (hrt : rt.CreatesAccounts)
    (h : Initialize.process rt programId accounts data m = .ok u m') :
    Keeps programId allowed m.ledger m'.ledger := by
  have hnone := fun c => @process_again _ programId rt accounts data m m' u c
  simp only [h, ne_eq, not_true_eq_false, imp_false] at hnone
  simp only [Initialize.process, run_lift_bind_eq_ok, currentLedger_bind] at h
  obtain ⟨args, -, a, -, _, hcheck, h⟩ := h
  obtain ⟨_, created, hcreated, hwrite⟩ := run_bind_eq_ok.mp h
  simp only [Initialize.check, bind_eq_ok, failIf_eq_ok, not_or, not_not, ne_eq,
    not_and] at hcheck
  obtain ⟨_, -, _, ⟨hbump, haddr⟩, hfresh⟩ := hcheck
  obtain ⟨hcreate, -⟩ := createAccount_eq_ok.mp hcreated
  obtain ⟨-, howner, -, hothers⟩ := hrt _ _ _ hcreate
  obtain ⟨hbps, -, rfl⟩ := RouterConfig.writeNew_eq_ok.mp hwrite
  intro hinv
  refine ⟨fun address c hc => ?_, fun c hc => absurd hc (hnone c)⟩
  by_cases hcanon : address = a.config.address
  · subst hcanon
    rw [storedConfig_setData_store _ howner rfl, Option.some.injEq] at hc
    subst hc
    exact ⟨haddr, hbump, hbps, .inl rfl⟩
  · rw [storedConfig_setData_of_ne hcanon] at hc
    obtain ⟨howner', hdata'⟩ := hothers address hcanon
    exact hinv address c (by rw [← hc]; exact (storedConfig_congr howner' hdata').symm)

/-- **Only the stored authority changes the configuration**, and never its
authority or bump. -/
theorem UpdateConfig.process_keeps {accounts : List AccountView} {data : List UInt8}
    {m m' : Machine} {u : Unit} (hallowed : allowed ⟨accounts, 1 :: data⟩)
    (h : UpdateConfig.process programId accounts data m = .ok u m') :
    Keeps programId allowed m.ledger m'.ledger := by
  simp only [UpdateConfig.process, run_lift_bind_eq_ok, currentLedger_bind] at h
  obtain ⟨args, hargs, a, haccounts, _, hcheck, recipient, -, h⟩ := h
  obtain ⟨hbps, cfg, hdecode, hinit, rfl⟩ := RouterConfig.update_eq_ok.mp h
  simp only [UpdateConfig.check, bind_eq_ok, failIf_eq_ok, not_or, not_not, ne_eq,
    RouterConfig.read_eq_ok, Bool.not_eq_true', Bool.not_eq_false] at hcheck
  obtain ⟨_, hsigner, _, ⟨haddr, howner⟩, cfg', ⟨hdecode', -⟩, hauthority⟩ := hcheck
  rw [hdecode, Option.some.injEq] at hdecode'
  subst hdecode'
  have hstored : storedConfig programId m.ledger a.config.address = some cfg :=
    storedConfig_eq_some.mpr ⟨howner, hdecode, hinit⟩
  have hstored' := storedConfig_setData_store (a.config.data m.ledger)
    (c := cfg.set recipient (some args.feeBps) (some (args.paused = 1))) howner hinit
  intro hinv
  refine ⟨fun address c hc => ?_, fun c hc => ?_⟩
  · by_cases hcanon : address = a.config.address
    · subst hcanon
      obtain ⟨-, hbump, -, -⟩ := hinv _ _ hstored
      rw [hstored', Option.some.injEq] at hc
      subst hc
      exact ⟨haddr, hbump, hbps, RouterConfig.set_paused ..⟩
    · rw [storedConfig_setData_of_ne hcanon] at hc
      exact hinv address c hc
  · rw [← haddr, hstored, Option.some.injEq] at hc
    subst hc
    rw [← haddr]
    refine ⟨_, hstored', rfl, rfl, fun hno => absurd ⟨rfl, a.authority, ?_, hauthority,
      hsigner⟩ (hno _ hallowed)⟩
    exact UpdateConfig.readAccounts_head haccounts

/-- Instructions that only make calls keep what their calls keep. -/
theorem PreparePumpfun.process_moves {R : Ledger → Ledger → Prop} (hrefl : ∀ l, R l l)
    {rt : Runtime} (hrt : ∀ n cpi l l', rt.cpi n cpi l = .ok l' → R l l')
    (accounts : List AccountView) (data : List UInt8) :
    MovesLedger R (PreparePumpfun.process rt accounts data) := by
  have hr : ∀ m : Machine, R m.ledger m.ledger := fun m => hrefl m.ledger
  refine moves_lift_bind hr fun _ => moves_lift_bind hr fun a => ?_
  refine moves_currentLedger_bind fun l => moves_lift_bind hr fun needed => ?_
  exact moves_ite (moves_invoke hrefl hrt _) (moves_pure hr ())

/-- **An instruction that returns keeps the configuration.** -/
theorem processInstruction_keeps {rt : Runtime} {call : InstructionCall} {m m' : Machine}
    {u : Unit} (hcreates : rt.CreatesAccounts)
    (hrt : ∀ n cpi l l', rt.cpi n cpi l = .ok l' → Keeps programId allowed l l')
    (hallowed : allowed call)
    (h : processInstruction rt programId call.accounts call.data m = .ok u m') :
    Keeps programId allowed m.ledger m'.ledger := by
  obtain ⟨accounts, data⟩ := call
  have of_moves : ∀ {x : Exec Unit}, MovesLedger (Keeps programId allowed) x →
      x m = .ok u m' → Keeps programId allowed m.ledger m'.ledger := by
    intro x hx hrun
    have hm := hx m
    rw [hrun] at hm
    exact hm
  have route : ∀ dyn tail, processInner rt programId accounts tail dyn m = .ok u m' →
      Keeps programId allowed m.ledger m'.ledger := fun dyn tail hrun =>
    of_moves (processInner_moves Keeps.refl (fun _ _ _ => Keeps.trans) hrt programId accounts tail
      dyn) hrun
  cases data with
  | nil => exact absurd (run_lift_eq_ok.mp h).1 fail_ne_ok
  | cons disc data =>
    dsimp only [processInstruction] at h
    split at h
    · exact Initialize.process_keeps hcreates h
    split at h
    · rename_i htag
      subst htag
      exact UpdateConfig.process_keeps hallowed h
    split at h
    · exact of_moves (PreparePumpfun.process_moves Keeps.refl hrt accounts data) h
    split at h
    · exact route 0 data h
    split at h
    · exact route 1 data h
    split at h
    · exact route 2 data h
    · exact absurd (run_lift_eq_ok.mp h).1 fail_ne_ok

/-- **Every effect keeps the configuration**, however deeply the program's
own instructions are nested in it. -/
theorem Effect.keeps (h : Effect programId allowed l l') : Keeps programId allowed l l' := by
  induction h with
  | foreign hforeign => exact Keeps.of_foreign hforeign
  | trans _ _ ih ih' => exact ih.trans ih'
  | nested hcreates _ hallowed hrun ih =>
    exact processInstruction_keeps hcreates ih hallowed hrun

/-- **Every run keeps the configuration.** -/
theorem Run.keeps (h : Run programId allowed l l') : Keeps programId allowed l l' := by
  induction h with
  | start => exact Keeps.refl l
  | foreign _ hforeign ih => exact ih.trans (Keeps.of_foreign hforeign)
  | @instruction rt call l' _ hrt hallowed ih =>
    refine ih.trans ?_
    cases hrun : processInstruction rt programId call.accounts call.data ⟨l', []⟩ with
    | ok u m =>
      exact processInstruction_keeps hrt.creates
        (fun n cpi l l' hcpi => (hrt.effects n cpi l l' hcpi).keeps) hallowed hrun
    | error e m => exact Keeps.refl l'

/-! ## Instructions that fail -/

omit [Pda] in
theorem Foreign.refl (l : Ledger) : Foreign programId l l :=
  fun _ => ⟨fun h => ⟨h, rfl⟩, fun h h' => absurd h' h⟩

omit [Pda] in
theorem Foreign.trans (h : Foreign programId l l') (h' : Foreign programId l' l'') :
    Foreign programId l l'' := by
  intro address
  obtain ⟨hours, htheirs⟩ := h address
  obtain ⟨hours', htheirs'⟩ := h' address
  constructor
  · intro howner
    obtain ⟨howner', hdata⟩ := hours howner
    obtain ⟨howner'', hdata'⟩ := hours' howner'
    exact ⟨howner'', hdata'.trans hdata⟩
  · intro howner howner''
    by_cases howner' : (l' address).owner = programId
    · rw [(hours' howner').2]
      exact htheirs howner howner'
    · exact htheirs' howner' howner''

omit [Pda] in
theorem Initialize.readArgs_feeBps {data : List UInt8} {args : UInt16 × UInt8}
    (h : Initialize.readArgs data = .ok args) : args.1 ≤ maxFeeBps := by
  simp only [Initialize.readArgs, bind_eq_ok, failIf_eq_ok, pure_eq_ok, UInt16.not_lt,
    gt_iff_lt] at h
  obtain ⟨_, -, _, -, _, -, _, -, _, hbps, rfl⟩ := h
  exact hbps

omit [Pda] in
/-- Eighty zeros are long enough for a configuration and hold none. -/
theorem decode_replicate_zero : ∃ c, RouterConfig.decode (List.replicate RouterConfig.len 0)
    = some c ∧ c.isInitialized = false := by
  have hlen : RouterConfig.len ≤ (List.replicate RouterConfig.len (0 : UInt8)).length := by
    rw [List.length_replicate]
  refine ⟨_, dif_pos hlen, decode_zeros (fun b hb => ?_) (dif_pos hlen)⟩
  exact (List.mem_replicate.mp hb).2

/-- **Creating the configuration is atomic**: once the account is created,
writing the record cannot fail. -/
theorem Initialize.process_atomic {rt : Runtime} (hrt : rt.CreatesAccounts)
    (accounts : List AccountView) (data : List UInt8) :
    Atomic (Initialize.process rt programId accounts data) := by
  refine atomic_lift_bind fun args hargs => atomic_lift_bind fun a _ m e m' h => ?_
  rw [currentLedger_bind] at h
  refine atomic_lift_bind (fun _ _ => ?_) m e m' h
  refine atomic_bind (atomic_createAccount rt _) ?_
  intro m _ created hcreated e m' hwrite
  obtain ⟨-, -, hzeros, -⟩ := hrt _ _ _ (createAccount_eq_ok.mp hcreated).1
  obtain ⟨c, hdecode, hinit⟩ := decode_replicate_zero
  obtain ⟨_, hok⟩ := RouterConfig.writeNew_ok (Initialize.readArgs_feeBps hargs)
    ((congrArg RouterConfig.decode hzeros).trans hdecode) hinit
  rw [hok] at hwrite
  cases hwrite

/-- **Changing the configuration is atomic.** -/
theorem UpdateConfig.process_atomic (accounts : List AccountView) (data : List UInt8) :
    Atomic (UpdateConfig.process programId accounts data) := by
  refine atomic_lift_bind fun args _ => atomic_lift_bind fun a _ m e m' h => ?_
  rw [currentLedger_bind] at h
  refine atomic_lift_bind (fun _ _ => atomic_lift_bind fun recipient _ => ?_) m e m' h
  refine atomic_lift_bind fun _ _ m e m' h => ?_
  rw [currentLedger_bind] at h
  refine atomic_lift_bind (fun _ _ => atomic_lift_bind fun _ _ => ?_) m e m' h
  exact atomic_writeData _ _

/-- **An instruction that fails has not touched the program's accounts**, not
even before it is rolled back, if the calls it made did not. -/
theorem processInstruction_error {rt : Runtime} {accounts : List AccountView}
    {data : List UInt8} {m m' : Machine} {e : Abort ProgramError}
    (hcreates : rt.CreatesAccounts)
    (hrt : ∀ n cpi l l', rt.cpi n cpi l = .ok l' → Foreign programId l l')
    (h : processInstruction rt programId accounts data m = .error e m') :
    Foreign programId m.ledger m'.ledger := by
  have of_moves : ∀ {x : Exec Unit}, MovesLedger (Foreign programId) x →
      x m = .error e m' → Foreign programId m.ledger m'.ledger := by
    intro x hx hrun
    have hm := hx m
    rw [hrun] at hm
    exact hm
  have of_atomic : ∀ {x : Exec Unit}, Atomic x → x m = .error e m' →
      Foreign programId m.ledger m'.ledger := by
    intro x hx hrun
    rw [hx m e m' hrun]
    exact Foreign.refl _
  have route : ∀ dyn tail, processInner rt programId accounts tail dyn m = .error e m' →
      Foreign programId m.ledger m'.ledger := fun dyn tail hrun =>
    of_moves (processInner_moves Foreign.refl (fun _ _ _ => Foreign.trans) hrt programId
      accounts tail dyn) hrun
  cases data with
  | nil => exact of_atomic (atomic_lift _) h
  | cons disc data =>
    dsimp only [processInstruction] at h
    split at h
    · exact of_atomic (Initialize.process_atomic hcreates accounts data) h
    split at h
    · exact of_atomic (UpdateConfig.process_atomic accounts data) h
    split at h
    · exact of_moves (PreparePumpfun.process_moves Foreign.refl hrt accounts data) h
    split at h
    · exact route 0 data h
    split at h
    · exact route 1 data h
    split at h
    · exact route 2 data h
    · exact of_atomic (atomic_lift _) h

/-- The configuration a route trusts is the one stored at its address. -/
theorem storedConfig_of_checkConfig {account : AccountView} {c : RouterConfig}
    (h : checkConfig l programId account = .ok c) :
    storedConfig programId l account.address = some c := by
  simp only [checkConfig, bind_eq_ok, failIf_eq_ok, ne_eq, not_not, pure_eq_ok,
    RouterConfig.read_eq_ok] at h
  obtain ⟨_, howner, _, ⟨hdecode, hinit⟩, _, -, _, -, _, -, rfl⟩ := h
  exact storedConfig_eq_some.mpr ⟨howner, hdecode, hinit⟩

/-! ## The life of the configuration -/

/-- **The configuration's whole life.** From accounts without a
configuration, in every state a run of any instructions reaches: a
configuration stands at the canonical address only, and a route trusts no
other; its bump is the canonical one, its fee rate at most ten percent, its
pause switch zero or one; whatever runs follow, its authority and bump stay,
it cannot be created again, and without an update signed by its authority
nothing of it changes; an instruction that fails has left the program's
accounts alone; and the fee at its rate is computed, and at most a tenth. -/
theorem config_lifecycle {l₀ : Ledger}
    (h₀ : ∀ address, storedConfig programId l₀ address = none)
    (hrun : Run programId (fun _ => True) l₀ l) :
    (∀ address c, storedConfig programId l address = some c →
        address = (configPda programId).1)
    ∧ (∀ account c, checkConfig l programId account = .ok c →
        account.address = (configPda programId).1
        ∧ storedConfig programId l (configPda programId).1 = some c)
    ∧ (∀ c, storedConfig programId l (configPda programId).1 = some c →
        c.bump = (configPda programId).2 ∧ c.feeBps ≤ 1000 ∧ (c.paused = 0 ∨ c.paused = 1)
        ∧ (∀ allowed l', Run programId allowed l l' →
          ∃ c', storedConfig programId l' (configPda programId).1 = some c'
            ∧ c'.authority = c.authority ∧ c'.bump = c.bump)
        ∧ (∀ rt accounts data m',
          processInstruction rt programId accounts (0 :: data) ⟨l, []⟩ ≠ .ok () m')
        ∧ (∀ allowed l', (∀ call, allowed call → ¬ call.UpdatesAs c.authority) →
          Run programId allowed l l' →
          storedConfig programId l' (configPda programId).1 = some c))
    ∧ (∀ (rt : Runtime) accounts data e m', rt.CreatesAccounts →
        (∀ n cpi l l', rt.cpi n cpi l = .ok l' → Foreign programId l l') →
        processInstruction rt programId accounts data ⟨l, []⟩ = .error e m' →
        Foreign programId l m'.ledger)
    ∧ (∀ account c amountIn, checkConfig l programId account = .ok c →
        ∃ fee, checkedFee amountIn c.feeBps = .ok fee
          ∧ fee.toNat * 10 ≤ amountIn.toNat) := by
  have hinv₀ : Inv programId l₀ := fun address c hc => by
    rw [h₀ address] at hc
    cases hc
  have hinv : Inv programId l := (hrun.keeps hinv₀).1
  have htrusted : ∀ account c, checkConfig l programId account = .ok c →
      account.address = (configPda programId).1
        ∧ storedConfig programId l (configPda programId).1 = some c := by
    intro account c hc
    have hstored := storedConfig_of_checkConfig hc
    obtain ⟨haddr, -⟩ := hinv _ _ hstored
    exact ⟨haddr, by rw [← haddr]; exact hstored⟩
  refine ⟨fun address c hc => (hinv address c hc).1, htrusted, fun c hc => ?_,
    fun rt accounts data e m' hcreates hrt h => processInstruction_error hcreates hrt h,
    fun account c amountIn hc => ?_⟩
  · obtain ⟨-, hbump, hbps, hpaused⟩ := hinv _ _ hc
    refine ⟨hbump, hbps, hpaused, fun allowed l' h => ?_, fun rt accounts data m' h => ?_,
      fun allowed l' hno h => ?_⟩
    · obtain ⟨c', hc', hauthority, hbump', -⟩ := (h.keeps hinv).2 c hc
      exact ⟨c', hc', hauthority, hbump'⟩
    · exact Initialize.process_again hc h
    · obtain ⟨c', hc', -, -, hsame⟩ := (h.keeps hinv).2 c hc
      rw [hc', hsame hno]
  · obtain ⟨-, -, hbps, -⟩ := hinv _ _ (htrusted account c hc).2
    have hbps : c.feeBps.toNat ≤ 1000 := UInt16.le_iff_toNat_le.mp hbps
    obtain ⟨fee, hfee, -⟩ : ∃ fee, checkedFee amountIn c.feeBps = .ok fee ∧ fee ≤ amountIn :=
      checkedFee_ok (by omega)
    refine ⟨fee, hfee, ?_⟩
    have hmul : amountIn.toNat * c.feeBps.toNat ≤ amountIn.toNat * 1000 :=
      Nat.mul_le_mul_left _ hbps
    rw [checkedFee_eq_ok hfee]
    omega

/-- A chain on which nothing exists. -/
def blankLedger : Ledger := fun _ => ⟨0, systemProgramId, []⟩

/-- A runtime that creates accounts and makes no other call. -/
def creatingRuntime : Runtime where
  cpi _ _ _ := .error (.other 0)
  createAccount call l :=
    if (l call.account).owner = systemProgramId then
      .ok (Function.update l call.account ⟨1, call.owner, List.replicate call.space 0⟩)
    else .error (.other 0)
  minimumBalance _ := .ok 0

omit [Pda] in
theorem creatingRuntime_createsAccounts : creatingRuntime.CreatesAccounts := by
  intro call l l' h
  dsimp only [creatingRuntime] at h
  split at h
  · rename_i howner
    cases h
    rw [Function.update_self]
    exact ⟨howner, rfl, rfl, fun address haddr => by
      rw [Function.update_of_ne haddr]
      exact ⟨rfl, rfl⟩⟩
  · cases h

/-- The creation of a configuration with a fee of one percent. -/
def creationCall : InstructionCall where
  accounts := [⟨sampleKey 1, true, true⟩, ⟨sampleKey 2, false, true⟩,
    ⟨sampleKey 3, false, false⟩]
  data := [0, 100, 0, 255]

omit [Pda] in
/-- `config_lifecycle` once the configuration is created. -/
theorem creation_lifecycle : letI := samplePda
    ∃ l, Run (sampleKey 7) (fun _ => True) blankLedger l
      ∧ (∃ c, storedConfig (sampleKey 7) l (sampleKey 2) = some c)
      ∧ ∀ address c, storedConfig (sampleKey 7) l address = some c →
        address = sampleKey 2 := by
  let _ := samplePda
  have hadmissible : creatingRuntime.Admissible (sampleKey 7) (fun _ => True) :=
    ⟨creatingRuntime_createsAccounts, fun _ _ _ _ h => by cases h⟩
  have hrun : Run (sampleKey 7) (fun _ => True) blankLedger
      (commit blankLedger (processInstruction creatingRuntime (sampleKey 7)
        creationCall.accounts creationCall.data ⟨blankLedger, []⟩)) :=
    .instruction .start hadmissible trivial
  exact ⟨_, hrun, ⟨_, rfl⟩, (config_lifecycle (fun _ => rfl) hrun).1⟩

end Program
