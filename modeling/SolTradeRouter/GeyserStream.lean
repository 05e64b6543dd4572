import SolTradeRouter.Reconnect

/-!
# From the server's connections to the user

What the user of a subscription gets, by the policy for reconnects. To skip what
is missed is to use the stream of `Reconnect` alone, and from the live head. To
recover it is to put the filter of `Dedup` over that stream, and the stream's own
filter into every request.

The first result is what the two make together: of what the user asked for and any
of the connections said, nothing is lost without a reason, and nothing is repeated.
The other is on what the filter holds back after a reconnect, which waits for a
block to be announced: where the user asks for no block metas, the only ones the
server sends are for the stream's own filter, and the stream does not pass them on.
-/

namespace Yellowstone

open Simulation

/-! ## Subscribing -/

inductive ReconnectionPolicy where
  | skipMissedData
  | recoverMissedData (slotRetention : ℕ)

structure ReconnectConfig where
  maxRetries : UInt32
  policy : ReconnectionPolicy

/-- **A subscription's stream**, by the policy. -/
inductive GeyserStream (R : Type) where
  | noReconnect
  | replay (stream : DedupStream SubscribeUpdate) (inner : AutoReconnect R)
  | noReplay (inner : AutoReconnect R)

namespace GeyserStream

variable {R : Type}

/-- **Subscribe.** The request that is sent and shared, and the stream. -/
def subscribeWithRequest (config : Option ReconnectConfig) (request : SubscribeRequest R) :
    SubscribeRequest R × GeyserStream R :=
  match config with
  | none => (request, .noReconnect)
  | some ⟨maxRetries, .skipMissedData⟩ =>
    (request, .noReplay (.withoutCheckpoint (.new maxRetries)))
  | some ⟨maxRetries, .recoverMissedData slotRetention⟩ =>
    (injectAutoreconnectFilter request,
      .replay (.new (.withSlotRetention slotRetention)) (.new maxRetries))

/-- A later request of the user's, as it is sent and shared. -/
def startSend (shared item : SubscribeRequest R) : SubscribeRequest R :=
  if autoreconnectFilterKey ∈ shared.blocksMeta then injectAutoreconnectFilter item else item

/-- A poll that gives a message has used a reply. -/
theorem pollNext_shorter {replies rest : List (Reply R)} {me me' : AutoReconnect R}
    {said : Except Status SubscribeUpdate}
    (h : AutoReconnect.pollNext replies me = (some (.ready (some said)), me', rest)) :
    rest.length < replies.length := by
  induction replies generalizing me with
  | nil =>
    cases hstop : me.stop <;> simp [AutoReconnect.pollNext, hstop] at h
  | cons reply replies ih =>
    unfold AutoReconnect.pollNext at h
    split at h
    · cases h
    · split at h
      · cases h
        exact Nat.lt_succ_self _
      · exact (ih h).trans (Nat.lt_succ_self _)
      · cases h

variable [SlotStatus]

/-- **Poll the filter over the renewed connection.** -/
def pollReplay (replies : List (Reply R)) (s : DedupStream SubscribeUpdate) (me : AutoReconnect R) :
    Option (Poll (Option (Except Status SubscribeUpdate))) × DedupStream SubscribeUpdate
      × AutoReconnect R × List (Reply R) :=
  match s.flushQueue with
  | msg :: queue => (some (.ready (some (.ok msg))), { s with flushQueue := queue }, me, replies)
  | [] =>
    match _ : AutoReconnect.pollNext replies me with
    | (some (.ready (some (.ok msg))), me, rest) =>
      match s.receive me.reconnectCount msg with
      | (some msg, s) => (some (.ready (some (.ok msg))), s, me, rest)
      | (none, s) => pollReplay rest s me
    | (poll, me, rest) => (poll, s, me, rest)
termination_by replies.length
decreasing_by exact pollNext_shorter (by assumption)

def pollNext (replies : List (Reply R)) :
    GeyserStream R → Option (Poll (Option (Except Status SubscribeUpdate))) × GeyserStream R
      × List (Reply R)
  | .noReconnect =>
    match replies with
    | [] => (some .pending, .noReconnect, [])
    | reply :: replies => (some reply.stream, .noReconnect, replies)
  | .replay stream inner =>
    let (poll, stream, inner, replies) := pollReplay replies stream inner
    (poll, .replay stream inner, replies)
  | .noReplay inner =>
    let (poll, inner, replies) := inner.pollNext replies
    (poll, .noReplay inner, replies)

/-! ## The filter over the connection -/

/-- A poll, by its answer. -/
def Polls (c : GeyserStream R × List (Reply R)) (o : Poll (Option (Except Status SubscribeUpdate)))
    (c' : GeyserStream R × List (Reply R)) : Prop :=
  pollNext c.2 c.1 = (some o, c')

theorem polls_pollNext {c : GeyserStream R × List (Reply R)} (h : (pollNext c.2 c.1).1.isSome) :
    Polls c ((pollNext c.2 c.1).1.get h) (pollNext c.2 c.1).2 :=
  Prod.ext (Option.some_get h).symm rfl

variable {replies rest : List (Reply R)} {s s' : DedupStream SubscribeUpdate}
  {me me' : AutoReconnect R}

/-- **A poll of the filter polls the stream under it** as often as it must, and is
the filter's poll of what that answers. -/
theorem pollReplay_polls {o : Poll (Option (Except Status SubscribeUpdate))}
    (h : pollReplay replies s me = (some o, s', me', rest)) :
    ∃ answers, Steps AutoReconnect.Polls (me, replies) answers (me', rest)
      ∧ ∀ more, DedupStream.Polls (s, answers ++ more) o (s', more) := by
  fun_induction pollReplay replies s me with
  | case1 replies s me msg queue hqueue =>
    cases h
    refine ⟨[], .nil _, fun more => ?_⟩
    cases more <;> simp [DedupStream.Polls, DedupStream.pollNext, hqueue]
  | case2 replies s me hqueue msg me₁ rest₁ hpoll out s₁ hreceive =>
    cases h
    refine ⟨[⟨_, me'.reconnectCount⟩], .single ⟨hpoll, rfl⟩, fun more => ?_⟩
    simp [DedupStream.Polls, DedupStream.pollNext, hqueue, hreceive]
  | case3 replies s me hqueue msg me₁ rest₁ hpoll s₁ hreceive ih =>
    obtain ⟨answers, hrun, hmore⟩ := ih h
    refine ⟨⟨_, me₁.reconnectCount⟩ :: answers, .cons ⟨hpoll, rfl⟩ hrun, fun more => ?_⟩
    show DedupStream.pollNext (_ :: (answers ++ more)) s = _
    rw [DedupStream.pollNext]
    simp only [hqueue, hreceive]
    exact hmore more
  | case4 replies s me hqueue poll me₁ rest₁ hother hpoll =>
    cases h
    refine ⟨[⟨o, me'.reconnectCount⟩], .single ⟨hpoll, rfl⟩, fun more => ?_⟩
    show DedupStream.pollNext (_ :: more) s' = _
    rw [DedupStream.pollNext]
    simp only [hqueue]
    split
    · rename_i msg
      exact absurd rfl (hother msg)
    · rfl

/-- **So does a run of polls.** -/
theorem replay_run {c c' : GeyserStream R × List (Reply R)}
    {outs : List (Poll (Option (Except Status SubscribeUpdate)))} (hrun : Steps Polls c outs c')
    (hreplay : c.1 = .replay s me) :
    ∃ s' me' answers, c'.1 = .replay s' me'
      ∧ Steps AutoReconnect.Polls (me, c.2) answers (me', c'.2)
      ∧ ∀ more, Steps DedupStream.Polls (s, answers ++ more) outs (s', more) := by
  induction hrun generalizing s me with
  | nil c => exact ⟨s, me, [], hreplay, .nil _, fun more => .nil _⟩
  | @cons c mid c' o outs hpoll hrest ih =>
    unfold Polls at hpoll
    rw [hreplay, pollNext] at hpoll
    generalize hpolled : pollReplay c.2 s me = polled at hpoll
    obtain ⟨poll, s₁, me₁, rest₁⟩ := polled
    obtain ⟨rfl, hmid⟩ := Prod.mk.inj hpoll
    subst hmid
    obtain ⟨answers, hanswers, hmore⟩ := pollReplay_polls hpolled
    obtain ⟨s', me', answers', hlast, hanswers', hmore'⟩ := ih rfl
    refine ⟨s', me', answers ++ answers', hlast, hanswers.append hanswers', fun more => ?_⟩
    rw [List.append_assoc]
    exact .cons (hmore _) (hmore' more)

/-- **Missed data is recovered.** However the stream is polled, and whatever the
server's connections and the connector answer: of what the user asked for and the
connections said, each message is passed on, about to be, or held, at most once; and
each that is neither has the key of one that is passed on, or came for a block that
is passed on and was announced again, with the same hash, after it. -/
theorem missed_data_recovered {retries : UInt32} {n : ℕ} {request : SubscribeRequest R}
    {stream : GeyserStream R} {outs : List (Poll (Option (Except Status SubscribeUpdate)))}
    (hrun : Steps Polls
      ((subscribeWithRequest (some ⟨retries, .recoverMissedData n⟩) request).2, replies) outs
      (stream, rest)) :
    ∃ s me used wanted, stream = .replay s me ∧ replies = used ++ rest
      ∧ wanted = ((AutoReconnect.new retries).heard used).filterMap AutoReconnect.forward
      ∧ (DedupStream.delivered outs ++ s.flushQueue ++ s.held).Subperm wanted
      ∧ ∀ m ∈ wanted, m ∈ DedupStream.delivered outs ++ s.flushQueue ∨ m ∈ s.held
        ∨ DedupStream.Repeated (DedupStream.delivered outs ++ s.flushQueue) m
        ∨ DedupStream.Confirmed wanted (DedupStream.delivered outs ++ s.flushQueue) m := by
  obtain ⟨s, me, answers, hstream, hinner, houter⟩ := replay_run hrun rfl
  obtain ⟨used, hused, -, hreceived, -⟩ :=
    (AutoReconnect.start_follows (R := R) retries true).run hinner
  obtain ⟨polled, hpolled, haccounts⟩ :=
    DedupStream.polls_accounts (houter []) (DedupStream.new_accounts n)
  rw [List.append_nil, List.append_nil] at hpolled
  subst hpolled
  rw [List.nil_append, List.nil_append, hreceived] at haccounts
  exact ⟨s, me, used, _, hstream, hused, rfl, haccounts.once, haccounts.kept⟩

/-- Two transactions of a slot, with a reconnect between them and the slot's block
after them. The user has asked for transactions only. -/
def interruptedReplies : List (Reply Unit) :=
  [.ready (some (.ok ⟨["swaps"], some (.transaction 7 (some 0))⟩)),
    .ready (some (.error ⟨.unavailable, "gone"⟩)),
    .ready (some (.ok ⟨["swaps"], some (.transaction 7 (some 1))⟩)), .pending,
    .ready (some (.ok ⟨["__autoreconnect"], some (.blockMeta 7 "hash")⟩)), .pending].map
    fun said => ⟨said, .ready (.ok ()), injectAutoreconnectFilter ⟨[], [], ()⟩⟩

/-- A subscription to transactions, and what is outside. -/
def interrupted : GeyserStream Unit × List (Reply Unit) :=
  ((subscribeWithRequest (some ⟨3, .recoverMissedData 150⟩) ⟨[], [], ()⟩).2, interruptedReplies)

omit [SlotStatus] in
/-- One transaction is passed on, and one held. -/
theorem interrupted_recovered :
    letI : SlotStatus := ⟨5⟩
    ∃ (stream : GeyserStream Unit) (rest : List (Reply Unit))
      (outs : List (Poll (Option (Except Status SubscribeUpdate)))),
      Steps Polls interrupted outs (stream, rest) ∧ rest.length = 2
      ∧ ∃ s me used wanted, stream = .replay s me ∧ interruptedReplies = used ++ rest
        ∧ wanted = ((AutoReconnect.new 3).heard used).filterMap AutoReconnect.forward
        ∧ (DedupStream.delivered outs ++ s.flushQueue ++ s.held).Subperm wanted
        ∧ ∀ m ∈ wanted, m ∈ DedupStream.delivered outs ++ s.flushQueue ∨ m ∈ s.held
          ∨ DedupStream.Repeated (DedupStream.delivered outs ++ s.flushQueue) m
          ∨ DedupStream.Confirmed wanted (DedupStream.delivered outs ++ s.flushQueue) m := by
  let : SlotStatus := ⟨5⟩
  have hrun := Steps.cons (polls_pollNext (c := interrupted) (by decide +kernel))
    (.cons (polls_pollNext (by decide +kernel)) (.nil _))
  exact ⟨_, _, _, hrun, by decide +kernel, missed_data_recovered hrun⟩

end GeyserStream

/-! ## What is held back -/

variable [SlotStatus]

/-- **Only a block's announcement is a verdict** on what is held. -/
theorem DedupState.observe_verdict {st : DedupState} {slot : UInt64} {key : DedupKey} {same : Bool}
    (h : (st.observe slot key).1 = .replayComplete same) : ∃ hash, key = .blockMeta hash := by
  cases key with
  | blockMeta hash => exact ⟨hash, rfl⟩
  | slot status =>
    have hstatus : ∀ st' : DedupState,
        (st'.observeStatus slot status).1 ≠ .replayComplete same := by
      intro st'
      unfold DedupState.observeStatus
      split
      · split <;> nofun
      · dsimp only
        split <;> nofun
    unfold DedupState.observe at h
    dsimp only at h
    split at h <;> exact absurd h (hstatus _)
  | account _ _ | transaction _ | transactionStatus _ | entry _ | block _
  | deshredTransaction _ =>
    unfold DedupState.observe DedupState.observePayload at h
    dsimp only at h
    split at h
    · cases h
    · split at h <;> cases h

namespace DedupStream

variable {T ε : Type} [Dedupable T]

omit [SlotStatus] in
/-- A block's announcement. -/
def Announces (m : T) : Prop := ∃ slot hash, Dedupable.extractKey m = some (slot, .blockMeta hash)

/-- **Anything else is passed on, dropped, or held** on top of what was. -/
theorem receive_held (s : DedupStream T) (count : UInt32) {msg : T} (hmsg : ¬ Announces msg) :
    s.held <+: (s.receive count msg).2.held
      ∧ (s.receive count msg).2.flushQueue = s.flushQueue := by
  have hnoted : (s.noteReconnect count).held = s.held
      ∧ (s.noteReconnect count).flushQueue = s.flushQueue := by
    unfold noteReconnect
    split <;> exact ⟨rfl, rfl⟩
  rw [← hnoted.1, ← hnoted.2]
  unfold receive
  dsimp only
  generalize s.noteReconnect count = s
  cases hkey : Dedupable.extractKey msg with
  | none => exact ⟨List.prefix_rfl, rfl⟩
  | some labelled =>
    obtain ⟨slot, key⟩ := labelled
    have hverdict : ∀ same, (s.state.observe slot key).1 ≠ .replayComplete same := by
      intro same h
      obtain ⟨hash, rfl⟩ := DedupState.observe_verdict h
      exact hmsg ⟨slot, hash, hkey⟩
    dsimp only
    generalize s.state.observe slot key = after at hverdict ⊢
    obtain ⟨observation, state⟩ := after
    cases observation with
    | new => exact ⟨List.prefix_rfl, rfl⟩
    | duplicate => exact ⟨List.prefix_rfl, rfl⟩
    | replay => exact ⟨⟨[msg], by simp [held, hold]⟩, rfl⟩
    | replayComplete same => exact absurd rfl (hverdict same)

/-- **A poll**, where no block is announced. -/
theorem pollNext_held {answers rest : List (Answer T ε)} {s s' : DedupStream T}
    {o : Poll (Option (Except ε T))} (hpoll : pollNext answers s = (o, s', rest))
    (hempty : s.flushQueue = []) (hquiet : ∀ m ∈ receivedIn answers, ¬ Announces m) :
    s.held <+: s'.held ∧ s'.flushQueue = [] ∧ receivedIn rest ⊆ receivedIn answers := by
  induction answers generalizing s with
  | nil =>
    simp only [pollNext, hempty] at hpoll
    cases hpoll
    exact ⟨List.prefix_rfl, hempty, List.Subset.refl _⟩
  | cons answer answers ih =>
    have htail : receivedIn answers ⊆ receivedIn (answer :: answers) := by
      rw [receivedIn_cons]
      exact List.subset_append_right _ _
    simp only [pollNext, hempty] at hpoll
    split at hpoll
    · rename_i msg hanswer
      have hmsg : msg ∈ receivedIn (answer :: answers) := by
        rw [receivedIn_cons, hanswer]
        exact List.mem_cons_self
      obtain ⟨hheld, hqueue⟩ := receive_held s answer.reconnectCount (hquiet msg hmsg)
      split at hpoll
      · rename_i out s₁ heq
        cases hpoll
        rw [heq] at hheld hqueue
        exact ⟨hheld, hqueue.trans hempty, htail⟩
      · rename_i s₁ heq
        rw [heq] at hheld hqueue
        obtain ⟨hrest, hlast, hsub⟩ :=
          ih hpoll (hqueue.trans hempty) fun m hm => hquiet m (htail hm)
        exact ⟨hheld.trans hrest, hlast, List.Subset.trans hsub htail⟩
    · cases hpoll
      exact ⟨List.prefix_rfl, hempty, htail⟩

/-- **A run of polls**, where no block is announced. -/
theorem polls_held {c c' : DedupStream T × List (Answer T ε)}
    {outs : List (Poll (Option (Except ε T)))} (hrun : Steps Polls c outs c')
    (hempty : c.1.flushQueue = []) (hquiet : ∀ m ∈ receivedIn c.2, ¬ Announces m) :
    c.1.held <+: c'.1.held ∧ c'.1.flushQueue = [] := by
  induction hrun with
  | nil => exact ⟨List.prefix_rfl, hempty⟩
  | cons hpoll _ ih =>
    obtain ⟨hheld, hqueue, hsub⟩ := pollNext_held hpoll hempty hquiet
    obtain ⟨hrest, hlast⟩ := ih hqueue fun m hm => hquiet m (hsub hm)
    exact ⟨hheld.trans hrest, hlast⟩

end DedupStream

namespace AutoReconnect

omit [SlotStatus]

variable {R : Type}

/-- What is heard, a connection said. -/
theorem mem_heard {me : AutoReconnect R} {replies : List (Reply R)}
    {item : Except Status SubscribeUpdate} (h : item ∈ me.heard replies) :
    ∃ reply ∈ replies, reply.stream = .ready (some item) := by
  induction replies generalizing me with
  | nil => exact absurd h List.not_mem_nil
  | cons reply replies ih =>
    obtain hfirst | hrest := List.mem_append.mp h
    · refine ⟨reply, List.mem_cons_self, ?_⟩
      unfold hears at hfirst
      split at hfirst
      · split at hfirst
        · rename_i said hstream
          rw [hstream, Option.mem_toList.mp hfirst]
        · cases hfirst
      · cases hfirst
    · obtain ⟨reply', hmem, hstream⟩ := ih hrest
      exact ⟨reply', List.mem_cons_of_mem _ hmem, hstream⟩

end AutoReconnect

namespace GeyserStream

variable {R : Type} {replies rest : List (Reply R)}

/-- What the filter holds back. -/
def held : GeyserStream R → List SubscribeUpdate
  | .replay stream _ => stream.held
  | _ => []

/-- A request whose only filter for block metas is the stream's own. -/
def Unasked (request : SubscribeRequest R) : Prop :=
  request.blocksMeta = [autoreconnectFilterKey]

omit [SlotStatus] in
theorem unasked_inject {request : SubscribeRequest R} (h : request.blocksMeta = []) :
    Unasked (injectAutoreconnectFilter request) := by
  unfold injectAutoreconnectFilter
  rw [if_pos h]
  rfl

omit [SlotStatus] in
/-- **A user who never asks for block metas** has the stream's own filter in every
request. -/
theorem unasked_requests {shared : SubscribeRequest R} {items : List (SubscribeRequest R)}
    (h : Unasked shared) (hitems : ∀ item ∈ items, item.blocksMeta = []) :
    Unasked (items.foldl startSend shared) := by
  induction items generalizing shared with
  | nil => exact h
  | cons item items ih =>
    obtain ⟨hitem, hrest⟩ := List.forall_mem_cons.mp hitems
    refine ih ?_ hrest
    unfold startSend
    rw [if_pos (by rw [h]; exact List.mem_singleton_self _)]
    exact unasked_inject hitem

/-- The server names, with each block's announcement, the filters it matches. -/
def Names (reply : Reply R) : Prop :=
  ∀ msg slot hash, reply.stream = .ready (some (.ok msg)) →
    msg.updateOneof = some (.blockMeta slot hash) →
    msg.filters ≠ [] ∧ ∀ f ∈ msg.filters, f ∈ reply.request.blocksMeta

omit [SlotStatus] in
theorem updateOneof_of_extractKey {msg : SubscribeUpdate} {slot : UInt64} {hash : String}
    (h : msg.extractKey = some (slot, .blockMeta hash)) :
    msg.updateOneof = some (.blockMeta slot hash) := by
  obtain ⟨filters, _ | update⟩ := msg
  · cases h
  · cases update with
    | blockMeta slot' hash' =>
      cases h
      rfl
    | account slot' account =>
      exfalso
      obtain _ | ⟨pubkey, signature⟩ := account
      · cases h
      · cases hbytes : Pubkey.ofBytes? pubkey <;>
          simp [SubscribeUpdate.extractKey, hbytes] at h
    | transaction slot' index => cases index <;> cases h
    | _ => cases h

omit [SlotStatus] in
/-- **What the stream passes on announces no block**, where the user never asked. -/
theorem not_announces {me : AutoReconnect R} {m : SubscribeUpdate}
    (hunasked : ∀ reply ∈ replies, Unasked reply.request) (hnames : ∀ reply ∈ replies, Names reply)
    (hm : m ∈ (me.heard replies).filterMap AutoReconnect.forward) :
    ¬ DedupStream.Announces m := by
  obtain ⟨item, hitem, hforward⟩ := List.mem_filterMap.mp hm
  obtain ⟨reply, hreply, hstream⟩ := AutoReconnect.mem_heard hitem
  rintro ⟨slot, hash, hkey⟩
  obtain status | msg := item
  · cases hforward
  · unfold AutoReconnect.forward at hforward
    dsimp only at hforward
    split at hforward
    · cases hforward
    · rename_i houter
      cases hforward
      obtain ⟨hsome, hown⟩ := hnames reply hreply msg slot hash hstream
        (updateOneof_of_extractKey hkey)
      rw [hunasked reply hreply] at hown
      refine houter ?_
      simp only [SubscribeUpdate.internalOnly, Bool.and_eq_true, decide_eq_true_eq,
        List.all_eq_true]
      exact ⟨hsome, fun f hf => List.mem_singleton.mp (hown f hf)⟩

/-- **What is held is held for good**, where the user asks for no block metas and
the server names the filters that its announcements match: however the stream is
polled on, all that the filter holds back it still holds, and has not passed on. -/
theorem held_for_good {retries : UInt32} {n : ℕ} {request : SubscribeRequest R}
    {stream stream' : GeyserStream R} {middle : List (Reply R)}
    {outs outs' : List (Poll (Option (Except Status SubscribeUpdate)))}
    (hrun : Steps Polls
      ((subscribeWithRequest (some ⟨retries, .recoverMissedData n⟩) request).2, replies) outs
      (stream, middle))
    (hrun' : Steps Polls (stream, middle) outs' (stream', rest))
    (hrequest : request.blocksMeta = [])
    (huser : ∀ reply ∈ replies, ∃ items : List (SubscribeRequest R),
      (∀ item ∈ items, item.blocksMeta = []) ∧ reply.request = items.foldl startSend
        (subscribeWithRequest (some ⟨retries, .recoverMissedData n⟩) request).1)
    (hserver : ∀ reply ∈ replies, Names reply) :
    stream.held <+: stream'.held ∧ ∃ used, replies = used ++ rest
      ∧ (DedupStream.delivered (outs ++ outs') ++ stream'.held).Subperm
        (((AutoReconnect.new retries).heard used).filterMap AutoReconnect.forward) := by
  have hunasked : ∀ reply ∈ replies, Unasked reply.request := by
    intro reply hreply
    obtain ⟨items, hitems, hshared⟩ := huser reply hreply
    rw [hshared]
    exact unasked_requests (unasked_inject hrequest) hitems
  obtain ⟨s, me, answers, rfl, hinner, houter⟩ := replay_run hrun rfl
  obtain ⟨s', me', answers', rfl, hinner', houter'⟩ := replay_run hrun' rfl
  obtain ⟨used, hused, -, hreceived, -⟩ :=
    (AutoReconnect.start_follows (R := R) retries true).run (hinner.append hinner')
  dsimp only at hused hreceived
  have hquiet : ∀ m ∈ DedupStream.receivedIn (answers ++ answers'), ¬ DedupStream.Announces m := by
    intro m hm
    rw [hreceived] at hm
    have hsub : used ⊆ replies := fun reply h => hused ▸ List.mem_append_left _ h
    exact not_announces (fun r h => hunasked r (hsub h)) (fun r h => hserver r (hsub h)) hm
  rw [DedupStream.receivedIn_append] at hquiet
  obtain ⟨-, hempty⟩ := DedupStream.polls_held (houter []) rfl fun m hm =>
    hquiet m (List.mem_append_left _ (List.append_nil answers ▸ hm))
  obtain ⟨hheld, hempty'⟩ := DedupStream.polls_held (houter' []) hempty fun m hm =>
    hquiet m (List.mem_append_right _ (List.append_nil answers' ▸ hm))
  obtain ⟨polled, hpolled, haccounts⟩ :=
    DedupStream.polls_accounts ((houter _).append (houter' [])) (DedupStream.new_accounts n)
  rw [List.append_nil, List.append_nil] at hpolled
  have honce := haccounts.once
  dsimp only at hempty'
  rw [hempty', List.append_nil, List.nil_append, List.nil_append, ← hpolled, hreceived] at honce
  exact ⟨hheld, used, hused, honce⟩

omit [SlotStatus] in
/-- One transaction is held, and its block's announcement does not let it go. -/
theorem interrupted_held :
    letI : SlotStatus := ⟨5⟩
    ∃ (stream stream' : GeyserStream Unit) (middle rest : List (Reply Unit))
      (outs outs' : List (Poll (Option (Except Status SubscribeUpdate)))),
      Steps Polls interrupted outs (stream, middle)
      ∧ Steps Polls (stream, middle) outs' (stream', rest)
      ∧ stream.held.length = 1 ∧ rest = [] ∧ stream.held <+: stream'.held := by
  let : SlotStatus := ⟨5⟩
  have hrun := Steps.cons (polls_pollNext (c := interrupted) (by decide +kernel))
    (.cons (polls_pollNext (by decide +kernel)) (.nil _))
  have hrun' := Steps.single (polls_pollNext (c := (pollNext (pollNext interrupted.2
    interrupted.1).2.2 (pollNext interrupted.2 interrupted.1).2.1).2) (by decide +kernel))
  refine ⟨_, _, _, _, _, _, hrun, hrun', by decide +kernel, List.length_eq_zero_iff.mp (by
    decide +kernel), (held_for_good hrun hrun' rfl (fun reply hreply => ⟨[], nofun, ?_⟩)
      fun reply hreply => ?_).1⟩
  · obtain ⟨said, -, rfl⟩ := List.mem_map.mp hreply
    rfl
  · intro msg slot hash hstream hblock
    simp only [interruptedReplies, List.map_cons, List.map_nil, List.mem_cons,
      List.not_mem_nil, or_false] at hreply
    obtain rfl | rfl | rfl | rfl | rfl | rfl := hreply <;> cases hstream <;> cases hblock
    exact ⟨nofun, fun f hf => hf⟩

end GeyserStream
end Yellowstone
