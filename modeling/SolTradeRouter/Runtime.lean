import Mathlib.Logic.Function.Basic
import SolTradeRouter.Ledger

/-!
# Cross-program calls

The program does two things to the chain: it writes the data of its own
config account, and it calls other programs. What a call does to the
accounts is not in the repository. `Runtime.cpi` is an arbitrary function
of the call and of the ledger it starts from – it may move balances,
rewrite data, or fail – and of a running number, so that two calls that
look alike may act differently.

Every call that succeeds is recorded, with the ledgers before and after
it, but for the creation of the config account: the library routine that
makes it is not in the repository either, and only its effect is kept, as
`Runtime.createAccount`. The trace is what statements about "the data handed
to the second leg" or "the balance when the first leg finished" speak of.
-/

namespace Program

open Outcome Bytes

/-- **A cross-program call**: the program, the account metas and the
data handed to it. -/
structure CpiCall where
  programId : Address
  metas : List AccountMeta
  data : List UInt8
  deriving DecidableEq

/-- A call that succeeded, with the ledgers around it. -/
structure CpiEvent where
  call : CpiCall
  before : Ledger
  after : Ledger

/-- The arguments of `create_account_with_minimum_balance_signed`. -/
structure CreateAccountCall where
  account : Address
  space : ℕ
  owner : Address
  payer : Address
  seeds : List (List UInt8)

/-- **What lies outside the program**: the effect of a call, the effect
of the System Program's account creation, and the rent-exempt minimum of
an account of a given size. -/
structure Runtime where
  cpi : ℕ → CpiCall → Ledger → Except ProgramError Ledger
  createAccount : CreateAccountCall → Ledger → Except ProgramError Ledger
  minimumBalance : ℕ → Except ProgramError UInt64

/-- The state an instruction runs in: the accounts, and the calls made so
far. -/
@[ext] structure Machine where
  ledger : Ledger
  trace : List CpiEvent

/-- A computation of the on-chain program. -/
abbrev Exec (α : Type) := EStateM (Abort ProgramError) Machine α

/-- The accounts as they stand. -/
def currentLedger : Exec Ledger := do
  let m ← get
  pure m.ledger

/-- Make a call. -/
def invoke (rt : Runtime) (call : CpiCall) : Exec Unit := fun m =>
  match rt.cpi m.trace.length call m.ledger with
  | .ok after => .ok () ⟨after, m.trace ++ [⟨call, m.ledger, after⟩]⟩
  | .error e => .error (.error e) m

/-- Create a program-owned account through the System Program. -/
def createAccount (rt : Runtime) (call : CreateAccountCall) : Exec Unit := fun m =>
  match rt.createAccount call m.ledger with
  | .ok after => .ok () { m with ledger := after }
  | .error e => .error (.error e) m

/-- The accounts with the data of one replaced. -/
def setData (l : Ledger) (address : Address) (data : List UInt8) : Ledger :=
  Function.update l address { l address with data := data }

/-- Overwrite the data of an account. -/
def writeData (account : AccountView) (data : List UInt8) : Exec Unit :=
  modify fun m => ⟨setData m.ledger account.address data, m.trace⟩

/-! ## Transfers -/

/-- The call of System Program `Transfer`. -/
def systemTransfer (source dest : AccountView) (lamports : UInt64) : CpiCall where
  programId := systemProgramId
  metas := [⟨source.address, true, true⟩, ⟨dest.address, false, true⟩]
  data := [2, 0, 0, 0] ++ ofUInt64 lamports

/-- The call of SPL Token `Transfer`, sent to the given token program. -/
def tokenTransfer (source dest authority : AccountView) (amount : UInt64)
    (tokenProgram : Address) : CpiCall where
  programId := tokenProgram
  metas := [⟨source.address, false, true⟩, ⟨dest.address, false, true⟩,
    ⟨authority.address, true, false⟩]
  data := 3 :: ofUInt64 amount

/-! ## What each computation does -/

/-- Looking at the ledger changes nothing. -/
@[simp] theorem currentLedger_eq_ok {m m' : Machine} {l : Ledger} :
    currentLedger m = .ok l m' ↔ m.ledger = l ∧ m = m' := by
  show EStateM.Result.ok m.ledger m = _ ↔ _
  simp

/-- And does not fail. -/
@[simp] theorem currentLedger_ne_error {m m' : Machine} {e : Abort ProgramError} :
    currentLedger m ≠ .error e m' := by
  show EStateM.Result.ok m.ledger m ≠ _
  simp

/-- Data that were written are there. -/
theorem setData_self (l : Ledger) (address : Address) (data : List UInt8) :
    setData l address data address = { l address with data := data } :=
  Function.update_self ..

/-- And no other account is touched. -/
theorem setData_of_ne {l : Ledger} {address other : Address} (data : List UInt8)
    (h : other ≠ address) : setData l address data other = l other :=
  Function.update_of_ne h ..

/-- Reading the ledger leaves the machine alone. -/
theorem currentLedger_bind {α : Type} {f : Ledger → Exec α} {m : Machine} :
    (currentLedger >>= f) m = f m.ledger m := rfl

/-- **A successful call is the runtime's doing, and leaves its record.** -/
theorem invoke_eq_ok {rt : Runtime} {call : CpiCall} {m m' : Machine} {u : Unit} :
    invoke rt call m = .ok u m' ↔
      rt.cpi m.trace.length call m.ledger = .ok m'.ledger
        ∧ m'.trace = m.trace ++ [⟨call, m.ledger, m'.ledger⟩] := by
  unfold invoke
  split
  · rename_i after h
    rw [h, EStateM.Result.ok.injEq, Machine.ext_iff, Except.ok.injEq]
    constructor
    · rintro ⟨-, rfl, ht⟩
      exact ⟨rfl, ht.symm⟩
    · rintro ⟨rfl, ht⟩
      exact ⟨rfl, rfl, ht.symm⟩
  · rename_i e h
    simp [h]

section

variable {α : Type} {Q : α → Machine → Prop} {E : Abort ProgramError → Machine → Prop}

/-- What follows sees the ledger as it is. -/
theorem ensures_currentLedger_bind {f : Ledger → Exec α} {m : Machine}
    (h : Ensures Q E (f m.ledger m)) : Ensures Q E ((currentLedger >>= f) m) := h

/-- A call that succeeds is recorded, with the ledgers around it. -/
theorem ensures_invoke {Q : Unit → Machine → Prop} {rt : Runtime} {call : CpiCall}
    {m : Machine} {after : Ledger} (h : rt.cpi m.trace.length call m.ledger = .ok after)
    (hQ : Q () ⟨after, m.trace ++ [⟨call, m.ledger, after⟩]⟩) :
    Ensures Q E (invoke rt call m) := by
  unfold invoke
  rw [h]
  exact hQ

/-- **A call succeeds or fails**, and its failure is passed on. -/
theorem ensures_invoke_of {Q : Unit → Machine → Prop} {rt : Runtime} {call : CpiCall}
    {m : Machine}
    (hok : ∀ after, rt.cpi m.trace.length call m.ledger = .ok after →
      Q () ⟨after, m.trace ++ [⟨call, m.ledger, after⟩]⟩)
    (herror : ∀ e, rt.cpi m.trace.length call m.ledger = .error e → E (.error e) m) :
    Ensures Q E (invoke rt call m) := by
  unfold invoke
  cases hcall : rt.cpi m.trace.length call m.ledger with
  | ok after => exact hok after hcall
  | error e => exact herror e hcall

end

/-- The creation of an account leaves the record of calls alone. -/
theorem createAccount_eq_ok {rt : Runtime} {call : CreateAccountCall} {m m' : Machine}
    {u : Unit} :
    createAccount rt call m = .ok u m' ↔
      rt.createAccount call m.ledger = .ok m'.ledger ∧ m'.trace = m.trace := by
  unfold createAccount
  split
  · rename_i after h
    rw [h, EStateM.Result.ok.injEq, Machine.ext_iff, Except.ok.injEq]
    constructor
    · rintro ⟨-, rfl, ht⟩
      exact ⟨rfl, ht.symm⟩
    · rintro ⟨rfl, ht⟩
      exact ⟨rfl, rfl, ht.symm⟩
  · rename_i e h
    simp [h]

/-- One that fails leaves the ledger, too. -/
theorem createAccount_eq_error {rt : Runtime} {call : CreateAccountCall}
    {m m' : Machine} {f : Abort ProgramError} :
    createAccount rt call m = .error f m' ↔
      ∃ e, rt.createAccount call m.ledger = .error e ∧ f = .error e ∧ m = m' := by
  unfold createAccount
  split
  · rename_i after h
    simp [h]
  · rename_i e h
    simp [h, eq_comm]

/-- Writing data changes the account's, and nothing else. -/
@[simp] theorem writeData_eq_ok {account : AccountView} {data : List UInt8}
    {m m' : Machine} {u : Unit} :
    writeData account data m = .ok u m' ↔
      m' = ⟨setData m.ledger account.address data, m.trace⟩ := by
  show EStateM.Result.ok _ _ = _ ↔ _
  rw [EStateM.Result.ok.injEq]
  simp [eq_comm]

/-- And does not fail. -/
@[simp] theorem writeData_ne_error {account : AccountView} {data : List UInt8}
    {m m' : Machine} {f : Abort ProgramError} :
    writeData account data m ≠ .error f m' := by
  show EStateM.Result.ok _ _ ≠ _
  simp

/-- So it cannot stop halfway. -/
theorem atomic_writeData (account : AccountView) (data : List UInt8) :
    Atomic (writeData account data) :=
  fun _ _ _ h => absurd h writeData_ne_error

/-- Nor can the creation of an account. -/
theorem atomic_createAccount (rt : Runtime) (call : CreateAccountCall) :
    Atomic (createAccount rt call) := by
  intro m e m' h
  obtain ⟨-, -, -, rfl⟩ := createAccount_eq_error.mp h
  rfl

/-! ## Moving along a relation on ledgers -/

section

variable {R : Ledger → Ledger → Prop} {α : Type}

/-- A computation that moves the ledger along a relation. -/
abbrev MovesLedger (R : Ledger → Ledger → Prop) (x : Exec α) : Prop :=
  Moves (fun m m' => R m.ledger m'.ledger) x

/-- A sequence moves the ledger along a transitive relation when its parts do.
-/
theorem moves_ledger_bind {β : Type}
    (htrans : ∀ ⦃l l' l'' : Ledger⦄, R l l' → R l' l'' → R l l'') {x : Exec α}
    {f : α → Exec β} (hx : MovesLedger R x) (hf : ∀ a, MovesLedger R (f a)) :
    MovesLedger R (x >>= f) :=
  moves_bind (R := fun m m' : Machine => R m.ledger m'.ledger)
    (fun _ _ _ h h' => htrans h h') hx hf

/-- And looking at it first moves nothing. -/
theorem moves_currentLedger_bind {f : Ledger → Exec α} (hf : ∀ l, MovesLedger R (f l)) :
    MovesLedger R (currentLedger >>= f) :=
  fun m => hf m.ledger m

/-- A call moves the ledger as the runtime does, or not at all. -/
theorem moves_invoke (hrefl : ∀ l, R l l) {rt : Runtime}
    (hrt : ∀ n cpi l l', rt.cpi n cpi l = .ok l' → R l l') (call : CpiCall) :
    MovesLedger R (invoke rt call) := by
  intro m
  unfold invoke
  split
  · rename_i after h
    exact hrt _ _ _ _ h
  · exact hrefl m.ledger

end

end Program
