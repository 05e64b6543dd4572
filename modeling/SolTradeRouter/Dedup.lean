import SolTradeRouter.Pubkey
import SolTradeRouter.Simulation

/-!
# The replay filter of the event stream

A bot's events come over a subscription that reconnects by itself. After a
reconnect the server sends the last slots again, and a filter between the
connection and the bot takes out what was sent before. It remembers, slot by
slot, what it has let through. When the block of a slot is complete the slot is
sealed: its keys are forgotten, and what comes for it afterwards is held until a
block is announced again. If it is the same block, what was held is dropped;
if it is another, all of it is let through.

Slots are kept in the order they were first seen, and the oldest are forgotten
when there are more than the filter retains.

The filter is generic in its messages, of which it sees the slot and a key.
Hash maps are functions here, hash sets lists without repetition, and the held
messages of all slots one list, of which each slot's are a part.
-/

namespace Yellowstone

/-! ## Keys -/

/-- A transaction's signature: sixty-four bytes. -/
structure Signature where
  bytes : List UInt8
  size : bytes.length = 64
  deriving DecidableEq

/-- What an update is known by, within its slot. -/
inductive DedupKey where
  | slot (status : Int32)
  | account (pubkey : Pubkey) (txnSignature : Option Signature)
  | transaction (index : UInt64)
  | transactionStatus (index : UInt64)
  | entry (index : UInt64)
  | blockMeta (blockhash : String)
  | block (slot : UInt64)
  | deshredTransaction (signature : Signature)
  deriving DecidableEq

/-- Messages of which a comparable slot and key can be extracted. -/
class Dedupable (T : Type) where
  extractKey : T → Option (UInt64 × DedupKey)

/-- The constant of the protocol crate that the filter reads. -/
class SlotStatus where
  slotCreatedBank : Int32

/-! ## State -/

/-- What has been seen of a slot in flight, since its last reset. -/
structure SlotState where
  keys : List DedupKey
  statuses : List Int32

/-- Nothing has been seen. -/
def SlotState.default : SlotState := ⟨[], []⟩

/-- What is kept of a slot that is complete. -/
structure SealedSlot where
  blockhash : Option String
  statuses : List Int32

/-- **Tracks seen messages per slot** so we can filter duplicates during replay
after reconnect. -/
structure DedupState where
  inflight : UInt64 → Option SlotState
  sealedSlots : UInt64 → Option SealedSlot
  slotOrder : List UInt64
  slotRetention : ℕ

/-- What a key turned out to be. -/
inductive Observation where
  | new
  | duplicate
  | replay
  | replayComplete (same : Bool)
  deriving DecidableEq

/-- A map with the value of one key replaced. -/
def assign {α : Type} (m : UInt64 → Option α) (slot : UInt64) (v : Option α) :
    UInt64 → Option α :=
  fun s => if s = slot then v else m s

/-- The slot that is set has the value. -/
@[simp] theorem assign_same {α : Type} (m : UInt64 → Option α) (slot : UInt64) (v : Option α) :
    assign m slot v slot = v := if_pos rfl

/-- And every other is as it was. -/
theorem assign_of_ne {α : Type} {m : UInt64 → Option α} {slot s : UInt64} {v : Option α}
    (h : s ≠ slot) : assign m slot v s = m s := if_neg h

namespace DedupState

/-- Creates dedup state with a custom retained slot window size. -/
def withSlotRetention (slotRetention : ℕ) : DedupState :=
  ⟨fun _ => none, fun _ => none, [], slotRetention⟩

/-- A slot that is in neither map is put at the end of the order. -/
def enter (st : DedupState) (slot : UInt64) : DedupState :=
  if st.inflight slot = none ∧ st.sealedSlots slot = none then
    { st with slotOrder := st.slotOrder ++ [slot] }
  else st

/-- The state of a slot in flight, empty if it is not. -/
def slotState (st : DedupState) (slot : UInt64) : SlotState :=
  (st.inflight slot).getD .default

/-- Slots are forgotten from the front of the order while it is too long. -/
def pruneFrom (st : DedupState) : List UInt64 → DedupState
  | [] => { st with slotOrder := [] }
  | slot :: rest =>
    if (slot :: rest).length > st.slotRetention then
      pruneFrom { st with
        inflight := assign st.inflight slot none
        sealedSlots := assign st.sealedSlots slot none } rest
    else { st with slotOrder := slot :: rest }

/-- Keeps tracked slots bounded to the retention window. -/
def prune (st : DedupState) : DedupState := st.pruneFrom st.slotOrder

/-- Forget a slot altogether. -/
def clearSlot (st : DedupState) (slot : UInt64) : DedupState :=
  { st with
    inflight := assign st.inflight slot none
    sealedSlots := assign st.sealedSlots slot none
    slotOrder := st.slotOrder.filter (· ≠ slot) }

/-- Promote all inflight slots to sealed-without-blockhash before replay.
Replayed content for these slots will be quarantined and flushed at
BlockMeta. -/
def prepareForReplay (st : DedupState) : DedupState :=
  { st with
    inflight := fun _ => none
    sealedSlots := fun slot => match st.inflight slot with
      | some state => some ⟨none, state.statuses⟩
      | none => st.sealedSlots slot }

/-- A status of a slot. Sealed slots keep a compressed status set for post-seal
dedup. -/
def observeStatus (st : DedupState) (slot : UInt64) (status : Int32) : Observation × DedupState :=
  match st.sealedSlots slot with
  | some s =>
    if status ∈ s.statuses then (.duplicate, st)
    else (.new, { st with
      sealedSlots :=
        assign st.sealedSlots slot (some { s with statuses := status :: s.statuses }) })
  | none =>
    let state := st.slotState slot
    if status ∈ state.statuses then (.duplicate, st)
    else (.new, prune { st.enter slot with
      inflight := assign st.inflight slot
        (some { state with statuses := status :: state.statuses }) })

/-- **A BlockMeta.** The first one seals its slot: only the blockhash and the
statuses survive. A replayed one is the verdict on its slot. If no blockhash is
stored (the slot was partial when we disconnected), it is treated as changed. -/
def observeBlockMeta (st : DedupState) (slot : UInt64) (blockhash : String) :
    Observation × DedupState :=
  match st.sealedSlots slot with
  | some s =>
    (.replayComplete (s.blockhash = some blockhash), { st with
      sealedSlots := assign st.sealedSlots slot (some { s with blockhash := some blockhash }) })
  | none =>
    (.new, prune { st with
      inflight := assign st.inflight slot none
      sealedSlots :=
        assign st.sealedSlots slot (some ⟨some blockhash, (st.slotState slot).statuses⟩) })

/-- Accounts, transactions, entries, blocks, etc. A sealed slot's are held: the
verdict comes when the replayed BlockMeta arrives. -/
def observePayload (st : DedupState) (slot : UInt64) (payload : DedupKey) :
    Observation × DedupState :=
  if (st.sealedSlots slot).isSome then (.replay, st)
  else
    let state := st.slotState slot
    if payload ∈ state.keys then (.duplicate, st)
    else (.new, prune { st.enter slot with
      inflight := assign st.inflight slot (some { state with keys := payload :: state.keys }) })

variable [SlotStatus]

/-- **Classify a message** for the dedup/quarantine layer. CreatedBank means a
bank was just created for this slot: any prior state is wiped, which on a
repeated creation recovers from a rollback. -/
def observe (st : DedupState) (slot : UInt64) : DedupKey → Observation × DedupState
  | .slot status =>
    if status = SlotStatus.slotCreatedBank then (st.clearSlot slot).observeStatus slot status
    else st.observeStatus slot status
  | .blockMeta blockhash => st.observeBlockMeta slot blockhash
  | payload => st.observePayload slot payload

end DedupState

/-! ## The stream -/

/-- What polling a stream gives. -/
inductive Poll (α : Type) where
  | ready (a : α)
  | pending

/-- **The filter**: its state, what it holds and what it has to let through,
oldest first, and how often the connection had been renewed. -/
structure DedupStream (T : Type) where
  state : DedupState
  quarantine : List (UInt64 × T)
  flushQueue : List T
  lastReconnectCount : UInt32

/-- One answer of the stream inside, with how often it has reconnected by then. -/
structure Answer (T ε : Type) where
  poll : Poll (Option (Except ε T))
  reconnectCount : UInt32

namespace DedupStream

variable {T ε : Type}

/-- A stream with nothing held and nothing to replay. -/
def new (state : DedupState) : DedupStream T := ⟨state, [], [], 0⟩

/-- Keep an update until its slot is confirmed. -/
def hold (s : DedupStream T) (slot : UInt64) (msg : T) : DedupStream T :=
  { s with quarantine := s.quarantine ++ [(slot, msg)] }

/-- What is held for a slot. -/
def heldFor (s : DedupStream T) (slot : UInt64) : List T :=
  (s.quarantine.filter (·.1 = slot)).map Prod.snd

/-- Drop what was held for a slot. -/
def discard (s : DedupStream T) (slot : UInt64) : DedupStream T :=
  { s with quarantine := s.quarantine.filter (·.1 ≠ slot) }

/-- What is held for a slot is let through, and the BlockMeta after it. -/
def flush (s : DedupStream T) (slot : UInt64) (blockmeta : T) : DedupStream T :=
  { s.discard slot with flushQueue := s.flushQueue ++ s.heldFor slot ++ [blockmeta] }

variable [Dedupable T] [SlotStatus]

/-- A reconnect is noticed at the first message after it. -/
def noteReconnect (s : DedupStream T) (count : UInt32) : DedupStream T :=
  if count ≠ s.lastReconnectCount then
    { s with state := s.state.prepareForReplay, lastReconnectCount := count }
  else s

/-- **What becomes of a message**: it is passed on at once, or not. -/
def receive (s : DedupStream T) (count : UInt32) (msg : T) : Option T × DedupStream T :=
  let s := s.noteReconnect count
  match Dedupable.extractKey msg with
  | none => (some msg, s)
  | some (slot, key) =>
    let (observation, state) := s.state.observe slot key
    let s := { s with state }
    match observation with
    | .new => (some msg, s)
    | .duplicate => (none, s)
    | .replay => (none, s.hold slot msg)
    | .replayComplete true => (none, s.discard slot)
    | .replayComplete false => (none, s.flush slot msg)

/-- **Poll the filtered stream.** The answers of the stream inside are a list;
when it is used up, nothing further has arrived. -/
def pollNext : List (Answer T ε) → DedupStream T →
    Poll (Option (Except ε T)) × DedupStream T × List (Answer T ε)
  | [], s =>
    match s.flushQueue with
    | msg :: rest => (.ready (some (.ok msg)), { s with flushQueue := rest }, [])
    | [] => (.pending, s, [])
  | answer :: answers, s =>
    match s.flushQueue with
    | msg :: rest => (.ready (some (.ok msg)), { s with flushQueue := rest }, answer :: answers)
    | [] =>
      match answer.poll with
      | .ready (some (.ok msg)) =>
        match s.receive answer.reconnectCount msg with
        | (some msg, s) => (.ready (some (.ok msg)), s, answers)
        | (none, s) => pollNext answers s
      | other => (other, s, answers)

end DedupStream

/-! ## Messages -/

/-- The updates of a subscription, with what the filter and the connection read
of them. Keys and signatures come as byte strings of any length. -/
inductive UpdateOneof where
  | account (slot : UInt64) (account : Option (List UInt8 × Option (List UInt8)))
  | slot (slot : UInt64) (status : Int32)
  | transaction (slot : UInt64) (index : Option UInt64)
  | transactionStatus (slot index : UInt64)
  | entry (slot index : UInt64)
  | blockMeta (slot : UInt64) (blockhash : String)
  | block (slot : UInt64)
  | ping
  | pong

/-- An update of the subscription: the filters it matched, and what it says. -/
structure SubscribeUpdate where
  filters : List String
  updateOneof : Option UpdateOneof

/-- A signature has sixty-four bytes. -/
def Signature.ofBytes? (bytes : List UInt8) : Option Signature :=
  if h : bytes.length = 64 then some ⟨bytes, h⟩ else none

/-- Extracts a comparable slot and key from a subscribe update. -/
def SubscribeUpdate.extractKey (update : SubscribeUpdate) : Option (UInt64 × DedupKey) := do
  match ← update.updateOneof with
  | .slot slot status => some (slot, .slot status)
  | .account slot account => do
    let (pubkey, signature) ← account
    let pubkey ← Pubkey.ofBytes? pubkey
    some (slot, .account pubkey (signature.bind Signature.ofBytes?))
  | .transaction slot index => do
    let index ← index
    some (slot, .transaction index)
  | .transactionStatus slot index => some (slot, .transactionStatus index)
  | .entry slot index => some (slot, .entry index)
  | .blockMeta slot blockhash => some (slot, .blockMeta blockhash)
  | .block slot => some (slot, .block slot)
  | .ping | .pong => none

instance : Dedupable SubscribeUpdate := ⟨SubscribeUpdate.extractKey⟩

/-- The updates of a deshred subscription. -/
inductive DeshredUpdateOneof where
  | deshredTransaction (slot : UInt64) (signature : Option (List UInt8))
  | slot (slot : UInt64) (status : Int32)
  | ping
  | pong

/-- An update of the subscription to deshredded entries. -/
structure SubscribeUpdateDeshred where
  updateOneof : Option DeshredUpdateOneof

/-- Its transactions and addresses have keys, and pings have none. -/
def SubscribeUpdateDeshred.extractKey (update : SubscribeUpdateDeshred) :
    Option (UInt64 × DedupKey) := do
  match ← update.updateOneof with
  | .deshredTransaction slot signature => do
    let signature ← signature
    let signature ← Signature.ofBytes? signature
    some (slot, .deshredTransaction signature)
  | .slot slot status => some (slot, .slot status)
  | .ping | .pong => none

instance : Dedupable SubscribeUpdateDeshred := ⟨SubscribeUpdateDeshred.extractKey⟩

end Yellowstone
