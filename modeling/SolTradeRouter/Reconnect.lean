import Mathlib.Data.List.Infix
import SolTradeRouter.DedupRuns

/-!
# The connection that renews itself

Under the replay filter of `Dedup` lies a stream that outlives its connection.
When a connection fails in a way that may pass, another is asked for, from two
slots behind the last block the server announced; when the server no longer has
that slot, from wherever it is by then. Other failures, and the end of a
connection, end the stream.

So that there are blocks announced to go by, a filter of the stream's own is put
into the request; what the server sends for that filter alone is not passed on.

What is outside is a list of replies, one for each turn of the loop: what the
connection gives, what the connector gives, and the request the user has last
made. The connector is known by what it was asked.
-/

namespace Yellowstone

open Simulation

/-! ## Failures -/

/-- The status codes of the transport. -/
inductive Code where
  | ok | cancelled | unknown | invalidArgument | deadlineExceeded | notFound | alreadyExists
  | permissionDenied | resourceExhausted | failedPrecondition | aborted | outOfRange
  | unimplemented | internal | unavailable | dataLoss | unauthenticated
  deriving DecidableEq

structure Status where
  code : Code
  message : String

/-- Status codes that trigger a reconnect. -/
def isRecoverableStatusCode : Code → Bool
  | .cancelled | .unknown | .deadlineExceeded | .resourceExhausted | .aborted | .internal
  | .unavailable | .dataLoss | .outOfRange => true
  | _ => false

/-! ## The internal filter -/

def autoreconnectFilterKey : String := "__autoreconnect"

/-- **A request**, by the names of its filters for slots and for block metas; the
rest of it is not looked at. -/
structure SubscribeRequest (R : Type) where
  slots : List String
  blocksMeta : List String
  rest : R

def injectAutoreconnectFilter {R : Type} (req : SubscribeRequest R) : SubscribeRequest R :=
  if req.blocksMeta = [] then
    { req with
      slots := req.slots.insert autoreconnectFilterKey
      blocksMeta := [autoreconnectFilterKey] }
  else req

/-- The slot of an update, if it has one. -/
def SubscribeUpdate.extractSlot (msg : SubscribeUpdate) : Option UInt64 := do
  match ← msg.updateOneof with
  | .account slot _ | .slot slot _ | .transaction slot _ | .block slot | .blockMeta slot _
  | .entry slot _ | .transactionStatus slot _ => some slot
  | .ping | .pong => none

/-- The user never asked for this. -/
def SubscribeUpdate.internalOnly (msg : SubscribeUpdate) : Bool :=
  msg.filters ≠ [] && msg.filters.all (· = autoreconnectFilterKey)

/-- The internal key is taken out. -/
def SubscribeUpdate.strip (msg : SubscribeUpdate) : SubscribeUpdate :=
  { msg with filters := msg.filters.filter (· ≠ autoreconnectFilterKey) }

/-! ## The state machine -/

/-- How far behind the last announced block to resume. -/
def checkpointSlotBuffer : UInt64 := 2

/-- The slot less the buffer, saturating. -/
def checkpointSlot (slot : UInt64) : UInt64 :=
  if slot < checkpointSlotBuffer then 0 else slot - checkpointSlotBuffer

/-- **The stream**: whether it has a connection, or is waiting for one, or has
stopped, and what it asked the connector for so far. -/
structure AutoReconnect (R : Type) where
  lastCheckpoint : Option UInt64
  stop : Bool
  connector : List (SubscribeRequest R × Option UInt64)
  maxRetries : UInt32
  innerStream : Bool
  pendingConnectingTask : Bool
  reconnectCount : UInt32
  resumeFromCheckpoint : Bool

/-- What is outside, at one turn of the loop. -/
structure Reply (R : Type) where
  stream : Poll (Option (Except Status SubscribeUpdate))
  connect : Poll (Except String Unit)
  request : SubscribeRequest R

/-- The answer, if there is one yet. -/
def Poll.toOption {α : Type} : Poll α → Option α
  | .ready a => some a
  | .pending => none

/-- How a turn of the loop ends: the poll is answered, or the loop goes on, or its
assertion fails. -/
inductive Turn where
  | answer (poll : Poll (Option (Except Status SubscribeUpdate)))
  | again
  | panicked

/-- The message a turn passes on. -/
def Turn.message : Turn → Option SubscribeUpdate
  | .answer poll => DedupStream.message poll
  | _ => none

/-- A failure of the stream, or its end. -/
def Poll.final : Poll (Option (Except Status SubscribeUpdate)) → Bool
  | .ready none | .ready (some (.error _)) => true
  | _ => false

namespace AutoReconnect

variable {R : Type}

def new (maxRetries : UInt32) : AutoReconnect R where
  lastCheckpoint := none
  stop := false
  connector := []
  maxRetries
  innerStream := true
  pendingConnectingTask := false
  reconnectCount := 0
  resumeFromCheckpoint := true

/-- Never resume from a checkpoint. Reconnects start from the live head. -/
def withoutCheckpoint (me : AutoReconnect R) : AutoReconnect R :=
  { me with resumeFromCheckpoint := false }

/-- A connection is asked for. -/
def makeConnectionFuture (me : AutoReconnect R) (request : SubscribeRequest R) :
    AutoReconnect R :=
  { me with
    connector := me.connector ++
      [(request, if me.resumeFromCheckpoint then me.lastCheckpoint else none)] }

/-- Checkpoint a few slots behind the last fully built slot. -/
def noteBlockMeta (me : AutoReconnect R) (msg : SubscribeUpdate) : AutoReconnect R :=
  match msg.updateOneof with
  | some (.blockMeta _ _) =>
    match msg.extractSlot with
    | some slot => { me with lastCheckpoint := some (checkpointSlot slot) }
    | none => me
  | _ => me

/-- The connecting task is polled, if there is one. The count wraps. -/
def pollConnecting (me : AutoReconnect R) (reply : Reply R) : Turn × AutoReconnect R :=
  if me.pendingConnectingTask then
    match reply.connect with
    | .ready (.ok ()) => (.again, { me with
        pendingConnectingTask := false
        reconnectCount := me.reconnectCount + 1
        innerStream := true })
    | .ready (.error error) =>
      (.answer (.ready (some (.error ⟨.internal, "reconnect failed: " ++ error⟩))), { me with
        pendingConnectingTask := false
        stop := true })
    | .pending => (.answer .pending, me)
  else if me.innerStream ∨ me.stop then (.again, me)
  else (.panicked, me)

/-- The connection is lost. A server whose replay buffer has moved past the
checkpoint is to be asked for what it has now. -/
def lose (me : AutoReconnect R) (status : Status) : AutoReconnect R :=
  { me with
    innerStream := false
    lastCheckpoint := if status.code = .outOfRange then none else me.lastCheckpoint }

/-- The connection has failed in a way that may pass. -/
def recover (me : AutoReconnect R) (status : Status) (reply : Reply R) : Turn × AutoReconnect R :=
  let me := me.lose status
  if me.maxRetries = 0 then
    (.answer (.ready (some (.error status))), { me with stop := true })
  else
    pollConnecting { me.makeConnectionFuture reply.request with pendingConnectingTask := true }
      reply

/-- **A turn of the loop.** -/
def turn (me : AutoReconnect R) (reply : Reply R) : Turn × AutoReconnect R :=
  if me.innerStream then
    match reply.stream with
    | .ready (some (.ok msg)) =>
      if msg.internalOnly then (.again, me.noteBlockMeta msg)
      else (.answer (.ready (some (.ok msg.strip))), me.noteBlockMeta msg)
    | .ready (some (.error status)) =>
      if isRecoverableStatusCode status.code then me.recover status reply
      else (.answer (.ready (some (.error status))), { me with innerStream := false, stop := true })
    | .ready none => (.answer (.ready none), { me with innerStream := false, stop := true })
    | .pending => (.answer .pending, me)
  else me.pollConnecting reply

/-- **Poll the stream.** There is no answer where the assertion of the loop fails;
when the replies are used up, nothing further has arrived. -/
def pollNext : List (Reply R) → AutoReconnect R →
    Option (Poll (Option (Except Status SubscribeUpdate))) × AutoReconnect R × List (Reply R)
  | [], me => (some (if me.stop then .ready none else .pending), me, [])
  | reply :: replies, me =>
    if me.stop then (some (.ready none), me, reply :: replies)
    else
      match me.turn reply with
      | (.answer poll, me) => (some poll, me, replies)
      | (.again, me) => pollNext replies me
      | (.panicked, me) => (none, me, replies)

/-! ## What the connections say -/

/-- What the stream hears at a turn. -/
def hears (me : AutoReconnect R) (reply : Reply R) : Option (Except Status SubscribeUpdate) :=
  if me.innerStream then
    match reply.stream with
    | .ready said => said
    | .pending => none
  else none

/-- **What it hears**, turn by turn, of whichever connection it has. -/
def heard (me : AutoReconnect R) : List (Reply R) → List (Except Status SubscribeUpdate)
  | [] => []
  | reply :: replies => (me.hears reply).toList ++ heard (me.turn reply).2 replies

/-- Whether the connecting task is polled at a turn: it is waited for, or it is
started by a failure that may pass. -/
def waits (me : AutoReconnect R) (reply : Reply R) : Bool :=
  if me.innerStream then
    match reply.stream with
    | .ready (some (.error status)) =>
      isRecoverableStatusCode status.code && decide (me.maxRetries ≠ 0)
    | _ => false
  else me.pendingConnectingTask

/-- What the connector is heard to answer at a turn. -/
def connects (me : AutoReconnect R) (reply : Reply R) : Option (Except String Unit) :=
  if me.waits reply then reply.connect.toOption else none

/-- **What the connector answers**, turn by turn. -/
def connected (me : AutoReconnect R) : List (Reply R) → List (Except String Unit)
  | [] => []
  | reply :: replies => (me.connects reply).toList ++ connected (me.turn reply).2 replies

/-- Of a message, what the user gets to see. -/
def forward : Except Status SubscribeUpdate → Option SubscribeUpdate
  | .ok msg => if msg.internalOnly then none else some msg.strip
  | .error _ => none

/-- The slot of an announced block. -/
def announced : Except Status SubscribeUpdate → Option UInt64
  | .ok ⟨_, some (.blockMeta slot _)⟩ => some slot
  | _ => none

/-- The server's replay buffer has moved past the checkpoint. -/
def isOutOfRange : Except Status SubscribeUpdate → Bool
  | .error status => status.code = .outOfRange
  | .ok _ => false

/-- A failure that may pass. -/
def isRecoverable : Except Status SubscribeUpdate → Bool
  | .error status => isRecoverableStatusCode status.code
  | .ok _ => false

/-- **Where to resume**: two slots behind the last block announced since the server
was last out of range. -/
def resumption (said : List (Except Status SubscribeUpdate)) : Option UInt64 :=
  ((said.reverse.takeWhile (! isOutOfRange ·)).findSome? announced).map checkpointSlot

/-- The histories that end in a failure that may pass. -/
def interruptions (said : List (Except Status SubscribeUpdate)) :
    List (List (Except Status SubscribeUpdate)) :=
  said.inits.filter fun history => history.getLast?.any isRecoverable

variable {me me' : AutoReconnect R} {said said' : List (Except Status SubscribeUpdate)}
  {tried tried' : List (Except String Unit)}
  {item : Except Status SubscribeUpdate} {reply : Reply R}

theorem resumption_append (said : List (Except Status SubscribeUpdate))
    (item : Except Status SubscribeUpdate) :
    resumption (said ++ [item]) = if isOutOfRange item then none
      else ((announced item).map checkpointSlot).or (resumption said) := by
  unfold resumption
  rw [List.reverse_append, List.reverse_singleton, List.singleton_append, List.takeWhile_cons]
  cases hrange : isOutOfRange item with
  | true => rfl
  | false =>
    simp only [Bool.not_false, if_true, Bool.false_eq_true, if_false, List.findSome?_cons]
    cases announced item <;> rfl

theorem interruptions_append (said : List (Except Status SubscribeUpdate))
    (item : Except Status SubscribeUpdate) :
    interruptions (said ++ [item]) =
      interruptions said ++ if isRecoverable item then [said ++ [item]] else [] := by
  unfold interruptions
  rw [List.inits_append, List.filter_append]
  congr 1
  simp [List.filter_cons]

/-! ## What a turn does -/

/-- **The stream, and what it has heard**: it has a connection, or is waiting for
one, or has stopped; its checkpoint is where to resume; the connector was asked
once for every failure that might pass, for what was to be resumed from then; and
it has answered each time but the last, if that is waited for. -/
structure Follows (retries : UInt32) (resumes : Bool) (said : List (Except Status SubscribeUpdate))
    (tried : List (Except String Unit)) (me : AutoReconnect R) : Prop where
  retries_eq : me.maxRetries = retries
  resumes_eq : me.resumeFromCheckpoint = resumes
  running : me.stop = false → me.innerStream = !me.pendingConnectingTask
  stopped : me.stop = true → me.innerStream = false ∧ me.pendingConnectingTask = false
  checkpoint : me.lastCheckpoint = resumption said
  asked : me.connector.map Prod.snd =
    if retries = 0 then []
    else (interruptions said).map fun history => if resumes then resumption history else none
  answered : me.connector.length = tried.length + me.pendingConnectingTask.toNat
  counted : me.reconnectCount = UInt32.ofNat (tried.countP Except.isOk)

/-- **The failures passed on**: one that will not pass, or any if nothing is to be
tried, or that of the connector. -/
def Surfaces (retries : UInt32) (said : List (Except Status SubscribeUpdate))
    (tried : List (Except String Unit)) (status : Status) : Prop :=
  .error status ∈ said ∧ (retries = 0 ∨ isRecoverableStatusCode status.code = false)
    ∨ ∃ error, .error error ∈ tried ∧ status = ⟨.internal, "reconnect failed: " ++ error⟩

/-- More that is said or tried takes nothing back. -/
theorem Surfaces.mono {retries : UInt32} {status : Status}
    (h : Surfaces retries said tried status) (hsub : said ⊆ said') (htried : tried ⊆ tried') :
    Surfaces retries said' tried' status :=
  h.imp (fun hsaid => ⟨hsub hsaid.1, hsaid.2⟩) fun ⟨error, hmem, heq⟩ => ⟨error, htried hmem, heq⟩

/-- **How a turn may end.** -/
structure Ends (retries : UInt32) (said : List (Except Status SubscribeUpdate))
    (tried : List (Except String Unit)) (passed : Option SubscribeUpdate)
    (after : Turn × AutoReconnect R) : Prop where
  runs : after.1 ≠ .panicked
  message_eq : after.1.message = passed
  stops : ∀ poll, after.1 = .answer poll → poll.final → after.2.stop = true
  surfaces : ∀ status, after.1 = .answer (.ready (some (.error status))) →
    Surfaces retries said tried status

variable {retries : UInt32} {resumes : Bool}

/-- Waiting for a connection. -/
theorem Follows.pollConnecting (h : Follows retries resumes said tried me)
    (hinner : me.innerStream = false) (hrun : me.stop = false) (reply : Reply R) :
    Follows retries resumes said (tried ++ reply.connect.toOption.toList)
        (me.pollConnecting reply).2
      ∧ Ends retries said (tried ++ reply.connect.toOption.toList) none
        (me.pollConnecting reply) := by
  have hpending : me.pendingConnectingTask = true := by
    simpa [hinner] using h.running hrun
  have hanswered : me.connector.length = tried.length + 1 := by
    simpa [hpending] using h.answered
  have hcounted := h.counted
  unfold AutoReconnect.pollConnecting
  rw [if_pos hpending]
  cases hconnect : reply.connect with
  | ready answer =>
    have hlength : me.connector.length = (tried ++ [answer]).length := by
      rw [hanswered, List.length_append, List.length_singleton]
    cases answer with
    | ok _ =>
      refine ⟨⟨h.retries_eq, h.resumes_eq, fun _ => rfl, fun hstop => absurd hstop (by simp [hrun]),
        h.checkpoint, h.asked, hlength, ?_⟩, nofun, rfl, nofun, nofun⟩
      show me.reconnectCount + 1 = UInt32.ofNat ((tried ++ [_]).countP Except.isOk)
      rw [hcounted, List.countP_append, UInt32.ofNat_add]
      rfl
    | error error =>
      refine ⟨⟨h.retries_eq, h.resumes_eq, nofun, fun _ => ⟨hinner, rfl⟩, h.checkpoint, h.asked,
        hlength, ?_⟩, nofun, rfl, fun _ _ _ => rfl, fun status hstatus =>
          .inr ⟨error, List.mem_append_right _ List.mem_cons_self, ?_⟩⟩
      · show me.reconnectCount = UInt32.ofNat ((tried ++ [_]).countP Except.isOk)
        rw [hcounted, List.countP_append]
        rfl
      · cases hstatus
        rfl
  | pending =>
    rw [show (Poll.pending : Poll (Except String Unit)).toOption.toList = [] from rfl,
      List.append_nil]
    refine ⟨h, nofun, rfl, fun poll hpoll hfinal => ?_, nofun⟩
    cases hpoll
    exact absurd hfinal (by simp [Poll.final])

/-- The connection is lost, and another is asked for unless none is to be. -/
theorem Follows.lose (h : Follows retries resumes said tried me) {status : Status}
    (hcode : isRecoverableStatusCode status.code = true) (request : SubscribeRequest R) :
    (me.lose status).lastCheckpoint = resumption (said ++ [.error status])
      ∧ (((me.lose status).makeConnectionFuture request).connector.map Prod.snd
        = (me.connector.map Prod.snd) ++
          [if resumes then resumption (said ++ [.error status]) else none])
      ∧ interruptions (said ++ [.error status])
        = interruptions said ++ [said ++ [.error status]] := by
  have hcheckpoint : (me.lose status).lastCheckpoint = resumption (said ++ [.error status]) := by
    rw [resumption_append, ← h.checkpoint]
    by_cases hrange : status.code = .outOfRange <;>
      simp [AutoReconnect.lose, isOutOfRange, announced, hrange]
  refine ⟨hcheckpoint, ?_, ?_⟩
  · rw [← hcheckpoint]
    simp [makeConnectionFuture, AutoReconnect.lose, h.resumes_eq]
  · rw [interruptions_append, show isRecoverable (.error status) = true from hcode, if_pos rfl]

/-- Nothing but a failure that may pass has the connector polled. -/
theorem connects_of_inner (hinner : me.innerStream = true)
    (hstream : ∀ status, reply.stream = .ready (some (.error status)) →
      isRecoverableStatusCode status.code = false) : me.connects reply = none := by
  unfold connects waits
  rw [if_pos hinner]
  split
  · rename_i status heq
    simp [hstream status heq]
  · rfl

/-- A failure that may pass. -/
theorem Follows.recover (h : Follows retries resumes said tried me) (hrun : me.stop = false)
    (hinner : me.innerStream = true) {status : Status}
    (hstream : reply.stream = .ready (some (.error status)))
    (hcode : isRecoverableStatusCode status.code = true) :
    Follows retries resumes (said ++ [.error status]) (tried ++ (me.connects reply).toList)
        (me.recover status reply).2
      ∧ Ends retries (said ++ [.error status]) (tried ++ (me.connects reply).toList) none
        (me.recover status reply) := by
  obtain ⟨hcheckpoint, hconnector, hinterrupted⟩ := h.lose hcode reply.request
  have hpending : me.pendingConnectingTask = false := by
    simpa [hinner] using h.running hrun
  have hanswered : me.connector.length = tried.length := by
    simpa [hpending] using h.answered
  have hwaits : me.waits reply = decide (me.maxRetries ≠ 0) := by
    rw [waits, if_pos hinner, hstream]
    simp [hcode]
  have hasked := h.asked
  unfold AutoReconnect.recover connects
  rw [hwaits]
  dsimp only
  by_cases hretries : me.maxRetries = 0
  · rw [if_pos (show (me.lose status).maxRetries = 0 from hretries),
      if_neg (by simpa using hretries), Option.toList_none, List.append_nil]
    have hzero : retries = 0 := h.retries_eq.symm.trans hretries
    refine ⟨⟨h.retries_eq, h.resumes_eq, nofun, fun _ => ⟨rfl, hpending⟩, hcheckpoint, ?_,
      h.answered, h.counted⟩, nofun, rfl, fun _ _ _ => rfl,
      fun status' hstatus => .inl ⟨?_, .inl hzero⟩⟩
    · rw [if_pos hzero] at hasked ⊢
      exact hasked
    · cases hstatus
      exact List.mem_append_right _ List.mem_cons_self
  · rw [if_neg (show ¬ (me.lose status).maxRetries = 0 from hretries),
      if_pos (by simpa using hretries)]
    have hmore : retries ≠ 0 := fun hzero => hretries (h.retries_eq.trans hzero)
    have hwaiting : Follows retries resumes (said ++ [.error status]) tried
        { (me.lose status).makeConnectionFuture reply.request with
          pendingConnectingTask := true } := by
      refine ⟨h.retries_eq, h.resumes_eq, fun _ => rfl, fun hstop => ?_, hcheckpoint, ?_, ?_,
        h.counted⟩
      · exact absurd (hrun.symm.trans hstop) Bool.false_ne_true
      · rw [if_neg hmore] at hasked ⊢
        rw [hinterrupted, List.map_append, ← hasked]
        exact hconnector
      · show (me.connector ++ [_]).length = tried.length + 1
        rw [List.length_append, hanswered, List.length_singleton]
    exact hwaiting.pollConnecting rfl hrun reply

/-- A failure that will not pass. -/
theorem Follows.abort (h : Follows retries resumes said tried me)
    (hpending : me.pendingConnectingTask = false) {status : Status}
    (hcode : isRecoverableStatusCode status.code = false) :
    Follows retries resumes (said ++ [.error status]) tried
        { me with innerStream := false, stop := true }
      ∧ Ends retries (said ++ [.error status]) tried none
        (.answer (.ready (some (.error status))),
          { me with innerStream := false, stop := true }) := by
  have hrange : status.code ≠ .outOfRange := by
    intro hrange
    simp [hrange, isRecoverableStatusCode] at hcode
  refine ⟨⟨h.retries_eq, h.resumes_eq, nofun, fun _ => ⟨rfl, hpending⟩, ?_, ?_,
    h.answered, h.counted⟩, nofun, rfl, fun _ _ _ => rfl,
    fun status' hstatus => .inl ⟨?_, .inr ?_⟩⟩
  · rw [resumption_append, ← h.checkpoint]
    simp [isOutOfRange, announced, hrange]
  · rw [interruptions_append, show isRecoverable (.error status) = false from hcode]
    simpa using h.asked
  · cases hstatus
    exact List.mem_append_right _ List.mem_cons_self
  · cases hstatus
    exact hcode

/-- A message. -/
theorem Follows.noteBlockMeta (h : Follows retries resumes said tried me)
    (msg : SubscribeUpdate) :
    Follows retries resumes (said ++ [.ok msg]) tried (me.noteBlockMeta msg) := by
  have hnote : me.noteBlockMeta msg
      = { me with lastCheckpoint := resumption (said ++ [.ok msg]) } := by
    rw [resumption_append, ← h.checkpoint]
    obtain ⟨filters, _ | update⟩ := msg
    · rfl
    · cases update <;> rfl
  rw [hnote]
  refine ⟨h.retries_eq, h.resumes_eq, h.running, h.stopped, rfl, ?_, h.answered, h.counted⟩
  rw [interruptions_append, show isRecoverable (.ok msg) = false from rfl]
  simpa using h.asked

/-- **One turn** goes by what is heard. -/
theorem Follows.turn (h : Follows retries resumes said tried me) (hrun : me.stop = false)
    (reply : Reply R) :
    Follows retries resumes (said ++ (me.hears reply).toList)
        (tried ++ (me.connects reply).toList) (me.turn reply).2
      ∧ Ends retries (said ++ (me.hears reply).toList) (tried ++ (me.connects reply).toList)
        ((me.hears reply).bind forward) (me.turn reply) := by
  cases hinner : me.innerStream with
  | false =>
    have hpending : me.pendingConnectingTask = true := by
      simpa [hinner] using h.running hrun
    have hconnects : me.connects reply = reply.connect.toOption := by
      simp [connects, waits, hinner, hpending]
    rw [hconnects]
    unfold AutoReconnect.turn hears
    simpa [hinner] using h.pollConnecting hinner hrun reply
  | true =>
    have hpending : me.pendingConnectingTask = false := by
      simpa [hinner] using h.running hrun
    cases hstream : reply.stream with
    | pending =>
      rw [connects_of_inner hinner (by rw [hstream]; nofun)]
      unfold AutoReconnect.turn hears
      simp only [hinner, if_true, hstream, Option.toList_none, List.append_nil, Option.bind_none]
      refine ⟨h, nofun, rfl, fun poll hpoll hfinal => ?_, nofun⟩
      cases hpoll
      exact absurd hfinal (by simp [Poll.final])
    | ready answer =>
      cases answer with
      | none =>
        rw [connects_of_inner hinner (by rw [hstream]; nofun)]
        unfold AutoReconnect.turn hears
        simp only [hinner, if_true, hstream, Option.toList_none, List.append_nil,
          Option.bind_none]
        exact ⟨⟨h.retries_eq, h.resumes_eq, nofun, fun _ => ⟨rfl, hpending⟩, h.checkpoint,
          h.asked, h.answered, h.counted⟩, nofun, rfl, fun _ _ _ => rfl, nofun⟩
      | some item =>
        cases item with
        | error status =>
          cases hcode : isRecoverableStatusCode status.code with
          | true =>
            have hrecover := h.recover hrun hinner hstream hcode
            unfold AutoReconnect.turn hears
            simpa [hinner, hstream, forward, hcode] using hrecover
          | false =>
            rw [connects_of_inner hinner (by rw [hstream]; rintro _ ⟨⟩; exact hcode)]
            unfold AutoReconnect.turn hears
            simp only [hinner, hstream, if_true, hcode, Option.toList_some, Option.toList_none,
              List.append_nil, Bool.false_eq_true, if_false]
            exact h.abort hpending hcode
        | ok msg =>
          have hnoted := h.noteBlockMeta msg
          rw [connects_of_inner hinner (by rw [hstream]; nofun)]
          unfold AutoReconnect.turn hears
          cases hinternal : msg.internalOnly with
          | true =>
            refine ⟨by simpa [hinner, hstream, hinternal] using hnoted, ?_⟩
            simp only [hinner, hstream, if_true, hinternal]
            exact ⟨nofun, by simp [forward, hinternal, Turn.message], nofun, nofun⟩
          | false =>
            refine ⟨by simpa [hinner, hstream, hinternal] using hnoted, ?_⟩
            simp only [hinner, hstream, if_true, hinternal, Bool.false_eq_true, if_false]
            refine ⟨nofun, by simp [forward, hinternal, Turn.message, DedupStream.message],
              fun poll hpoll hfinal => ?_, nofun⟩
            cases hpoll
            exact absurd hfinal (by simp [Poll.final])

/-! ## Polling -/

/-- What is heard is heard one turn after the other. -/
theorem heard_append (me : AutoReconnect R) (used used' : List (Reply R)) :
    me.heard (used ++ used')
      = me.heard used ++ (used.foldl (fun me reply => (me.turn reply).2) me).heard used' := by
  induction used generalizing me with
  | nil => rfl
  | cons reply used ih => simp [heard, ih]

/-- The answers of the connector, too, are heard one turn after the other. -/
theorem connected_append (me : AutoReconnect R) (used used' : List (Reply R)) :
    me.connected (used ++ used') = me.connected used
      ++ (used.foldl (fun me reply => (me.turn reply).2) me).connected used' := by
  induction used generalizing me with
  | nil => rfl
  | cons reply used ih => simp [connected, ih]

theorem filterMap_toList {α β : Type} (f : α → Option β) (o : Option α) :
    o.toList.filterMap f = (o.bind f).toList := by
  cases o with
  | none => rfl
  | some a => cases h : f a <;> simp [h]

/-- What a poll has used, what it heard by that, and what it answered. -/
structure Polled (retries : UInt32) (said : List (Except Status SubscribeUpdate))
    (tried : List (Except String Unit)) (me : AutoReconnect R) (used : List (Reply R))
    (poll : Poll (Option (Except Status SubscribeUpdate))) (me' : AutoReconnect R) : Prop where
  after : me' = used.foldl (fun me reply => (me.turn reply).2) me
  message_eq : (DedupStream.message poll).toList = (me.heard used).filterMap forward
  stops : poll.final → me'.stop = true
  stopped : me.stop = true → poll = .ready none ∧ me'.stop = true
  surfaces : ∀ status, poll = .ready (some (.error status)) →
    Surfaces retries (said ++ me.heard used) (tried ++ me.connected used) status

/-- **One poll** is answered, and goes by what is heard. -/
theorem Follows.pollNext {replies rest : List (Reply R)}
    {o : Option (Poll (Option (Except Status SubscribeUpdate)))}
    (hpoll : AutoReconnect.pollNext replies me = (o, me', rest))
    (h : Follows retries resumes said tried me) :
    ∃ used poll, replies = used ++ rest ∧ o = some poll
      ∧ Follows retries resumes (said ++ me.heard used) (tried ++ me.connected used) me'
      ∧ Polled retries said tried me used poll me' := by
  induction replies generalizing me said tried with
  | nil =>
    cases hpoll
    refine ⟨[], _, rfl, rfl, by simpa [heard, connected] using h, rfl, ?_, ?_, ?_, ?_⟩ <;>
      cases hstop : me'.stop <;> simp [heard, DedupStream.message, Poll.final]
  | cons reply replies ih =>
    unfold AutoReconnect.pollNext at hpoll
    cases hstop : me.stop with
    | true =>
      rw [if_pos hstop] at hpoll
      cases hpoll
      refine ⟨[], _, rfl, rfl, by simpa [heard, connected] using h, rfl, rfl, fun _ => hstop,
        fun _ => ⟨rfl, hstop⟩, fun status hstatus => ?_⟩
      cases hstatus
    | false =>
      rw [if_neg (by simp [hstop])] at hpoll
      obtain ⟨hturn, hends⟩ := h.turn hstop reply
      split at hpoll
      · rename_i poll me₁ heq
        cases hpoll
        rw [heq] at hturn hends
        have hheard : me.heard [reply] = (me.hears reply).toList := by simp [heard]
        have hconnected : me.connected [reply] = (me.connects reply).toList := by simp [connected]
        refine ⟨[reply], poll, rfl, rfl, hconnected ▸ hheard ▸ hturn, by simp [heq], ?_,
          hends.stops poll rfl, fun h => absurd (hstop.symm.trans h) Bool.false_ne_true,
          fun status hstatus => ?_⟩
        · rw [hheard, show DedupStream.message poll = _ from hends.message_eq, filterMap_toList]
        · rw [hheard, hconnected]
          exact hends.surfaces status (by rw [hstatus])
      · rename_i me₁ heq
        rw [heq] at hturn hends
        obtain ⟨used, poll, hused, ho, hfollows, hpolled⟩ := ih hpoll hturn
        have hheard : me.heard (reply :: used) = (me.hears reply).toList ++ me₁.heard used := by
          simp [heard, heq]
        have hconnected : me.connected (reply :: used)
            = (me.connects reply).toList ++ me₁.connected used := by
          simp [connected, heq]
        refine ⟨reply :: used, poll, by rw [hused]; rfl, ho, ?_, ?_, ?_, hpolled.stops,
          fun h => absurd (hstop.symm.trans h) Bool.false_ne_true, fun status hstatus => ?_⟩
        · rw [hheard, hconnected, ← List.append_assoc, ← List.append_assoc]
          exact hfollows
        · rw [List.foldl_cons, heq]
          exact hpolled.after
        · have hnone : (me.hears reply).bind forward = none := hends.message_eq.symm
          rw [hpolled.message_eq, hheard, List.filterMap_append, filterMap_toList, hnone]
          rfl
        · rw [hheard, hconnected, ← List.append_assoc, ← List.append_assoc]
          exact hpolled.surfaces status hstatus
      · rename_i me₁ heq
        exact absurd (congrArg Prod.fst heq) hends.runs

/-- A poll, by its answer. -/
def Polls (c : AutoReconnect R × List (Reply R)) (answer : Answer SubscribeUpdate Status)
    (c' : AutoReconnect R × List (Reply R)) : Prop :=
  pollNext c.2 c.1 = (some answer.poll, c') ∧ answer.reconnectCount = c'.1.reconnectCount

/-- **A run of polls** goes by what is heard. -/
theorem Follows.run {c c' : AutoReconnect R × List (Reply R)}
    {answers : List (Answer SubscribeUpdate Status)} (hrun : Steps Polls c answers c')
    (h : Follows retries resumes said tried c.1) :
    ∃ used, c.2 = used ++ c'.2
      ∧ Follows retries resumes (said ++ c.1.heard used) (tried ++ c.1.connected used) c'.1
      ∧ DedupStream.receivedIn answers = (c.1.heard used).filterMap forward
      ∧ (c.1.stop = true → ∀ a ∈ answers, a.poll = .ready none)
      ∧ (answers.Pairwise fun a b => a.poll.final → b.poll = .ready none)
      ∧ ∀ a ∈ answers, ∀ status, a.poll = .ready (some (.error status)) →
        Surfaces retries (said ++ c.1.heard used) (tried ++ c.1.connected used) status := by
  induction hrun generalizing said tried with
  | nil c =>
    exact ⟨[], rfl, by simpa [heard, connected] using h, rfl, nofun, .nil, nofun⟩
  | @cons c mid c' answer answers hpoll hrest ih =>
    obtain ⟨hpoll, -⟩ := hpoll
    obtain ⟨used, poll, hused, ho, hmid, hpolled⟩ := h.pollNext hpoll
    obtain rfl : answer.poll = poll := Option.some.inj ho
    obtain ⟨used', hused', hlast, hreceived, hstopped, hends, hsurfaces⟩ := ih hmid
    have hheard : c.1.heard (used ++ used') = c.1.heard used ++ mid.1.heard used' := by
      rw [heard_append, ← hpolled.after]
    have hconnected : c.1.connected (used ++ used')
        = c.1.connected used ++ mid.1.connected used' := by
      rw [connected_append, ← hpolled.after]
    refine ⟨used ++ used', by rw [hused, hused', List.append_assoc], ?_, ?_, fun hstop => ?_,
      ?_, ?_⟩
    · rw [hheard, hconnected, ← List.append_assoc, ← List.append_assoc]
      exact hlast
    · rw [hheard, List.filterMap_append, ← hpolled.message_eq, ← hreceived,
        DedupStream.receivedIn_cons]
    · obtain ⟨hnone, hmidStop⟩ := hpolled.stopped hstop
      exact List.forall_mem_cons.mpr ⟨hnone, hstopped hmidStop⟩
    · exact List.pairwise_cons.mpr ⟨fun b hb hfinal => hstopped (hpolled.stops hfinal) b hb, hends⟩
    · rw [hheard, hconnected, ← List.append_assoc, ← List.append_assoc]
      refine List.forall_mem_cons.mpr ⟨fun status hstatus => ?_, hsurfaces⟩
      exact (hpolled.surfaces status hstatus).mono (List.sublist_append_left _ _).subset
        (List.sublist_append_left _ _).subset

/-- A stream as it is made, to resume from a checkpoint or not. -/
def start (retries : UInt32) (resumes : Bool) : AutoReconnect R :=
  if resumes then new retries else (new retries).withoutCheckpoint

/-- As it is made, it has heard nothing and asked for nothing. -/
theorem start_follows (retries : UInt32) (resumes : Bool) :
    Follows retries resumes [] [] (start retries resumes : AutoReconnect R) := by
  cases resumes <;> exact ⟨rfl, rfl, fun _ => rfl, nofun, rfl, by split <;> rfl, rfl, rfl⟩

/-- **One stream over many connections.** However it is polled, and whatever its
connections and the connector answer: what it passes on is what the user asked for
of all that its connections said, in order. Where retries are allowed it asks for
one connection for every failure that may pass: from two slots behind the last
block announced since the server was last out of range, or from the present if
there is none or it does not resume. Where no retry is allowed it asks for none.
The connector has answered each request but the last, if that is waited for, and
the count of reconnects is that of the connections it gave, in its 32 bits. A
failure is passed on only if a connection said it and it will not pass or no retry
is allowed, or if the connector said it; and nothing but the end after it. The
assertion of the loop holds. -/
theorem polls_follow {retries : UInt32} {resumes : Bool} {replies rest : List (Reply R)}
    {answers : List (Answer SubscribeUpdate Status)} {me : AutoReconnect R}
    (hrun : Steps Polls (start retries resumes, replies) answers (me, rest)) :
    ∃ used said tried, replies = used ++ rest ∧ said = (start retries resumes).heard used
      ∧ tried = (start retries resumes).connected used
      ∧ DedupStream.receivedIn answers = said.filterMap forward
      ∧ me.connector.map Prod.snd = (if retries = 0 then [] else
        (interruptions said).map fun history => if resumes then resumption history else none)
      ∧ me.connector.length = tried.length + me.pendingConnectingTask.toNat
      ∧ me.reconnectCount = UInt32.ofNat (tried.countP Except.isOk)
      ∧ (answers.Pairwise fun a b => a.poll.final → b.poll = .ready none)
      ∧ (∀ a ∈ answers, ∀ status, a.poll = .ready (some (.error status)) →
        Surfaces retries said tried status)
      ∧ (pollNext rest me).1.isSome := by
  obtain ⟨used, hused, hlast, hreceived, -, hends, hsurfaces⟩ :=
    (start_follows retries resumes).run hrun
  have hnext : pollNext rest me
      = ((pollNext rest me).1, (pollNext rest me).2.1, (pollNext rest me).2.2) := rfl
  obtain ⟨-, poll, -, hanswered, -⟩ := hlast.pollNext hnext
  exact ⟨used, _, _, hused, rfl, rfl, hreceived, hlast.asked, hlast.answered, hlast.counted, hends,
    hsurfaces, hanswered ▸ rfl⟩

/-- A connection that fails after a block was announced, and another in its place. -/
def renewedReplies : List (Reply Unit) :=
  [⟨.ready (some (.ok ⟨[], some (.blockMeta 10 "hash")⟩)), .pending, ⟨[], [], ()⟩⟩,
    ⟨.ready (some (.error ⟨.unavailable, "gone"⟩)), .ready (.ok ()), ⟨[], [], ()⟩⟩,
    ⟨.ready (some (.ok ⟨[], some (.transaction 8 (some 0))⟩)), .pending, ⟨[], [], ()⟩⟩]

/-- It is asked to resume from slot 8. -/
theorem renewedReplies_follow :
    ∃ (me : AutoReconnect Unit) (answers : List (Answer SubscribeUpdate Status)),
      Steps Polls (start 3 true, renewedReplies) answers (me, [])
      ∧ DedupStream.receivedIn answers = ((start 3 true).heard renewedReplies).filterMap forward
      ∧ me.connector.map Prod.snd = [some 8] := by
  obtain ⟨me, answers, hrun⟩ : ∃ (me : AutoReconnect Unit)
      (answers : List (Answer SubscribeUpdate Status)),
      Steps Polls (start 3 true, renewedReplies) answers (me, []) :=
    ⟨_, [⟨_, _⟩, ⟨_, _⟩], .cons ⟨rfl, rfl⟩ (.cons ⟨rfl, rfl⟩ (.nil _))⟩
  obtain ⟨used, said, tried, hused, hsaid, -, hreceived, hasked, -⟩ := polls_follow hrun
  rw [List.append_nil] at hused
  subst hused hsaid
  exact ⟨me, answers, hrun, hreceived, hasked.trans rfl⟩

end AutoReconnect
end Yellowstone
