import Graftcode.CorrelationIds
import Graftcode.RabbitMqClientLoop
import Graftcode.RequestSettled
import Graftcode.RpcTimeouts
import Graftcode.TicketScope
/-!
# RabbitMqClient — a call, and the I/O thread of a link with its callbacks

`RabbitMqClient.cpp`: `Call`, `Link::Publish`, `Link::Run`, the callbacks of `Link` and of its connection handler,
`Link::Disconnect` and the destructor.  As in the server, a call of `connection_->parse` is asked again and again: each
answer is the next callback to run, or what the call returns.  `CurrentLink` is one event here; `LinkClient` has who holds
which link.
-/
namespace Graftcode
namespace RabbitMq
namespace RpcClient

open Prog (emit call ofExcept iterate)
open PendingReplies (WaitResult waitedOr withTicket)

/-- A callback of the channel, of the reply consumer or of the connection. -/
inductive Callback where
  | declared (name : Text)
  | consuming
  | received (message : Message) (deliveryTag : Nat)
  | channelError (message : Option Text)
  | connectionError
  | connectionClosed

/-- What `connection_->parse` does next. -/
inductive Parsing where
  | calls (callback : Callback)
  | returns (parsed : Nat)
  | throws (e : Exn)

inductive ClientEvent where
  | currentLink (result : Except Exn Nat)
  | buildCorrelationId (reading : Reading) (sequence : UInt64)
  | pending (event : PendingReplies.Event)
  | brokenLoaded (link : Nat) (broken : Bool)
  | brokenErrorLoaded (link : Nat) (error : Text)
  | replyQueueLoaded (link : Nat) (name : Text)
  | publish (link : Nat) (routingKey : Text) (envelope : Envelope) (result : Except Exn Bool)
  | stoppingLoaded (stopping : Bool)
  | connectionErrorLoaded (connectionError : Bool)
  | connectionClosedLoaded (connectionClosed : Bool)
  | waitForSocketReadable (status : RabbitMqLink.WaitStatus)
  | recv (received : Received)
  | parse (pendingBytes : Bytes) (next : Parsing)
  | replyQueueStored (name : Text)
  | consume (name : Text) (result : Except Exn Unit)
  | consumerReadyStored
  | ack (deliveryTag : Nat) (result : Except Exn Bool)
  | brokenErrorStored (error : Text)
  | brokenStored
  | connectionErrorStored
  | connectionClosedStored

def drawCorrelationId : Prog Exn ClientEvent Text :=
  emit (fun drawn : Reading × UInt64 => ClientEvent.buildCorrelationId drawn.1 drawn.2) >>= fun drawn =>
    pure (buildCorrelationId drawn.1 drawn.2)

/-! ## The call -/

def brokenError (error : Text) : Text :=
  if error.isEmpty then "RabbitMQ: connection is not available".toList else error

/-- `Link::Publish`; `callEnvelope` repeats the checks that `Call` has made. -/
def publish (config : RabbitMqClientConfig) (link : Nat) (correlationId : Text) (payload : Option Bytes)
    (payloadSize : Nat) : Prog Exn ClientEvent Unit := do
  let broken ← emit (ClientEvent.brokenLoaded link)
  if broken then
    let error ← emit (ClientEvent.brokenErrorLoaded link)
    Prog.throw (.std (brokenError error))
  else
    let replyQueue ← emit (ClientEvent.replyQueueLoaded link)
    let envelope ← ofExcept (callEnvelope config.queue replyQueue correlationId payload payloadSize)
    let published ← call (ClientEvent.publish link config.queue envelope)
    if published then pure ()
    else Prog.throw (.std ("RabbitMQ: failed to publish request to queue ".toList ++ config.queue))

def timeoutMs (config : RabbitMqClientConfig) : Nat := if config.rpcTimeoutMs = 0 then 30000 else config.rpcTimeoutMs

/-- What `Call` makes of `ticket.Wait`. -/
def waited (config : RabbitMqClientConfig) (correlationId : Text) : WaitResult → Except Exn Bytes :=
  waitedOr (.std ("RabbitMQ RPC timed out after ".toList ++ Numeral.decimal (timeoutMs config) ++
    " ms waiting for correlation id ".toList ++ correlationId)) Exn.std

/-- `Call`. -/
def callClient (config : RabbitMqClientConfig) (payload : Option Bytes) (payloadSize : Nat) :
    Prog Exn ClientEvent Bytes :=
  if config.queue.isEmpty then Prog.throw (.std "RabbitMQ queue is not configured".toList)
  else if 0 < payloadSize ∧ payload = none then
    Prog.throw (.std "RabbitMQ client: null payload with non-zero length".toList)
  else do
    let link ← call ClientEvent.currentLink
    let correlationId ← drawCorrelationId
    withTicket ClientEvent.pending Exn.std correlationId (publish config link correlationId payload payloadSize)
      (waited config correlationId)

/-! ## The I/O thread of a link -/

/-- `Link::Disconnect`; the first error stays. -/
def disconnect (error : Text) : Prog Exn ClientEvent Unit := do
  emit fun _ : Unit => ClientEvent.brokenErrorStored error
  emit fun _ : Unit => ClientEvent.brokenStored
  emit fun _ : Unit => ClientEvent.pending (.failedAll error)

/-- The reply consumer: every reply is acknowledged first, one without an id is dropped. -/
def onReceived (message : Message) (deliveryTag : Nat) : Prog Exn ClientEvent Unit := do
  let _ ← call (ClientEvent.ack deliveryTag)
  match message.correlationID with
  | none    => pure ()
  | some id =>
    let _ ← emit fun found : Bool => ClientEvent.pending (.completed id message.body found)
    pure ()

def onCallback : Callback → Prog Exn ClientEvent Unit
  | .declared name                => do
    emit fun _ : Unit => ClientEvent.replyQueueStored name
    call (ClientEvent.consume name)
  | .consuming                    => emit fun _ : Unit => ClientEvent.consumerReadyStored
  | .received message deliveryTag => onReceived message deliveryTag
  | .channelError message         => disconnect ("RabbitMQ channel error: ".toList ++ message.getD [])
  | .connectionError              => emit fun _ : Unit => ClientEvent.connectionErrorStored
  | .connectionClosed             => emit fun _ : Unit => ClientEvent.connectionClosedStored

/-- One call of `connection_->parse`. -/
def parse (pendingBytes : Bytes) : Nat → Prog Exn ClientEvent Nat :=
  fun fuel => iterate (fun _ : Unit => do
    let next ← emit (ClientEvent.parse pendingBytes)
    match next with
    | .returns parsed => pure (.inr parsed)
    | .throws e       => Prog.throw e
    | .calls callback => do
      onCallback callback
      pure (.inl ())) fuel ()

/-- What `Link::Run` works with: a `parse` runs the callbacks. -/
def surroundings (link fuel : Nat) : RabbitMqLink.Surroundings ClientEvent where
  stopping := ClientEvent.stoppingLoaded
  broken := ClientEvent.brokenLoaded link
  connectionError := ClientEvent.connectionErrorLoaded
  connectionClosed := ClientEvent.connectionClosedLoaded
  waitForSocketReadable := ClientEvent.waitForSocketReadable
  recv := ClientEvent.recv
  lockAmqp := pure ()
  parse := fun pendingBytes => parse pendingBytes fuel
  disconnect := disconnect

/-- `Link::Run`. -/
def run (link fuel : Nat) : Prog Exn ClientEvent Bytes := (surroundings link fuel).run fuel fuel []

def shuttingDown : Text := "RabbitMQ client is shutting down".toList

/-- The destructor, up to the release of the link. -/
def destroyClient : Prog Exn ClientEvent Unit := emit fun _ : Unit => ClientEvent.pending (.closed shuttingDown)

/-! ## What the threads of a client keep to -/

/-- The thread drew `id`. -/
def Drew (id : Text) (h : List ClientEvent) : Prop :=
  ∃ reading sequence, .buildCorrelationId reading sequence ∈ h ∧ id = buildCorrelationId reading sequence

/-- A call publishes nothing but its own envelope, under an id it drew, to reply to the queue of the link it publishes on. -/
def PublishesOwn (config : RabbitMqClientConfig) (payload : Option Bytes) (payloadSize : Nat) (h : List ClientEvent)
    (e : ClientEvent) : Prop :=
  ∀ link routingKey envelope result, e = .publish link routingKey envelope result →
    routingKey = config.queue ∧ ∃ id name, Drew id h ∧ .replyQueueLoaded link name ∈ h ∧
      callEnvelope config.queue name id payload payloadSize = .ok envelope

/-- Why the I/O thread works on the map. -/
inductive Dispatched (h : List ClientEvent) : PendingReplies.Event → Prop where
  | reply (message : Message) (deliveryTag : Nat) (pendingBytes : Bytes) (id : Text) (found : Bool)
      (received : .parse pendingBytes (.calls (.received message deliveryTag)) ∈ h)
      (acked : ∃ acked, .ack deliveryTag (.ok acked) ∈ h)
      (own : message.correlationID = some id) : Dispatched h (.completed id message.body found)
  | disconnected (error : Text) (broken : .brokenStored ∈ h) : Dispatched h (.failedAll error)

/-- An event of which the discipline of the I/O thread asks nothing. -/
def Idle : ClientEvent → Prop
  | .pending _              => False
  | .replyQueueStored _     => False
  | .consume _ _            => False
  | .publish _ _ _ _        => False
  | .buildCorrelationId _ _ => False
  | _                       => True

structure RunDiscipline (h : List ClientEvent) (e : ClientEvent) : Prop where
  finishes : ∀ event, e = .pending event → Dispatched h event
  stores : ∀ name, e = .replyQueueStored name → ∃ pendingBytes, .parse pendingBytes (.calls (.declared name)) ∈ h
  consumes : ∀ name result, e = .consume name result → ∃ pendingBytes, .parse pendingBytes (.calls (.declared name)) ∈ h
  publishes : ∀ link routingKey envelope result, e ≠ .publish link routingKey envelope result
  draws : ∀ reading sequence, e ≠ .buildCorrelationId reading sequence

section Calls

variable {config : RabbitMqClientConfig} {payload : Option Bytes} {payloadSize : Nat} {h : List ClientEvent}

theorem pending_injective : Function.Injective ClientEvent.pending := fun _ _ h => ClientEvent.pending.inj h

theorem Drew.cons {id : Text} (hd : Drew id h) (e : ClientEvent) : Drew id (e :: h) := by
  obtain ⟨reading, sequence, hm, hid⟩ := hd
  exact ⟨reading, sequence, List.mem_cons_of_mem _ hm, hid⟩

theorem publishesOwn_of_ne {e : ClientEvent} (he : ∀ link routingKey envelope result,
    e ≠ .publish link routingKey envelope result) : PublishesOwn config payload payloadSize h e :=
  fun _ _ _ _ heq => absurd heq (he _ _ _ _)

theorem quiet_publish (link : Nat) (id : Text) (h : List ClientEvent) :
    (publish config link id payload payloadSize).Safe (fun _ _ => True) (PendingReplies.Quiet ClientEvent.pending)
      (fun _ _ => True) h := by
  refine Prog.keeps_emit_bind (fun _ => by simp [PendingReplies.Quiet]) fun broken => ?_
  split
  · exact Prog.keeps_emit_bind (fun _ => by simp [PendingReplies.Quiet]) fun _ => trivial
  refine Prog.keeps_emit_bind (fun _ => by simp [PendingReplies.Quiet]) fun replyQueue => ?_
  rw [Prog.Keeps, Prog.safe_bind, Prog.safe_ofExcept]
  cases callEnvelope config.queue replyQueue id payload payloadSize with
  | error e => trivial
  | ok envelope =>
    rw [Prog.andThen_ok]
    refine Prog.keeps_call_bind (fun _ => by simp [PendingReplies.Quiet]) fun published => ?_
    split <;> trivial

theorem keeps_publish {link : Nat} {id : Text} (hd : Drew id h) :
    Prog.Keeps (fun _ _ => True) (PublishesOwn config payload payloadSize)
      (publish config link id payload payloadSize) h := by
  refine Prog.keeps_emit_bind (fun _ => publishesOwn_of_ne (by simp)) fun broken => ?_
  split
  · exact Prog.keeps_emit_bind (fun _ => publishesOwn_of_ne (by simp)) fun _ => trivial
  refine Prog.keeps_emit_bind (fun _ => publishesOwn_of_ne (by simp)) fun replyQueue => ?_
  rw [Prog.Keeps, Prog.safe_bind, Prog.safe_ofExcept]
  cases henvelope : callEnvelope config.queue replyQueue id payload payloadSize with
  | error e => trivial
  | ok envelope =>
    rw [Prog.andThen_ok]
    refine Prog.keeps_call_bind (fun result => ?_) fun published => by split <;> trivial
    intro link' routingKey envelope' result' heq
    cases heq
    exact ⟨rfl, id, replyQueue, (hd.cons _).cons _, List.mem_cons_self, henvelope⟩

/-- **What a call keeps to on the map**, and what it has done when it returns. -/
theorem safe_callClient :
    (callClient config payload payloadSize).Safe (fun _ _ => True)
      (PendingReplies.CallsOnce ClientEvent.pending Drew)
      (fun h r => ∀ bytes, r = .ok bytes → ∃ slot, .pending (.waited slot (.returned bytes)) ∈ h) [] := by
  unfold callClient drawCorrelationId
  split
  · exact fun _ hr => nomatch hr
  split
  · exact fun _ hr => nomatch hr
  simp only [Prog.safe_bind, Prog.safe_call]
  intro link _
  refine ⟨PendingReplies.callsOnce_quiet (by simp [PendingReplies.Quiet]), ?_⟩
  cases link with
  | error e => exact fun _ hr => nomatch hr
  | ok link =>
    simp only [Prog.andThen_ok, Prog.safe_bind, Prog.safe_emit, Prog.safe_pure]
    rintro ⟨reading, sequence⟩ -
    refine ⟨PendingReplies.callsOnce_quiet (by simp [PendingReplies.Quiet]), ?_⟩
    have hdrew : Drew (buildCorrelationId reading sequence)
        [.buildCorrelationId reading sequence, .currentLink (.ok link)] := ⟨reading, sequence, List.mem_cons_self, rfl⟩
    have hun : PendingReplies.Unwaited ClientEvent.pending
        [.buildCorrelationId reading sequence, .currentLink (.ok link)] := fun slot r hm => by simp at hm
    refine (PendingReplies.safe_withTicket pending_injective hdrew hun (quiet_publish link _)).mono fun h r hr bytes hb => ?_
    obtain ⟨slot, result, hm, hw⟩ := hr bytes hb
    rw [PendingReplies.waitedOr_eq_ok hw] at hm
    exact ⟨slot, hm⟩

theorem keeps_callClient :
    Prog.Keeps (fun _ _ => True) (PublishesOwn config payload payloadSize) (callClient config payload payloadSize) [] := by
  unfold callClient drawCorrelationId
  split
  · trivial
  split
  · trivial
  refine Prog.keeps_call_bind (fun _ => publishesOwn_of_ne (by simp)) fun link => ?_
  simp only [Prog.Keeps, Prog.safe_bind, Prog.safe_emit, Prog.andThen_ok, Prog.safe_pure]
  rintro ⟨reading, sequence⟩ -
  refine ⟨publishesOwn_of_ne (by simp), ?_⟩
  refine PendingReplies.keeps_withTicket (fun _ _ _ => publishesOwn_of_ne (by simp)) fun slot => keeps_publish ?_
  exact ⟨reading, sequence, by simp, rfl⟩

end Calls

section Run

variable {h : List ClientEvent}

theorem runDiscipline_idle {e : ClientEvent} (he : Idle e) : RunDiscipline h e where
  finishes event heq := by
    subst heq
    exact he.elim
  stores name heq := by
    subst heq
    exact he.elim
  consumes name result heq := by
    subst heq
    exact he.elim
  publishes link routingKey envelope result heq := by
    subst heq
    exact he.elim
  draws reading sequence heq := by
    subst heq
    exact he.elim

theorem runDiscipline_pending {event : PendingReplies.Event} (hd : Dispatched h event) :
    RunDiscipline h (.pending event) where
  finishes event' heq := by
    cases heq
    exact hd
  stores := by simp
  consumes := by simp
  publishes := by simp
  draws := by simp

theorem keeps_disconnect (error : Text) : Prog.Keeps (fun _ _ => True) RunDiscipline (disconnect error) h := by
  refine Prog.keeps_emit_bind (fun _ => runDiscipline_idle trivial) fun _ => ?_
  refine Prog.keeps_emit_bind (fun _ => runDiscipline_idle trivial) fun _ => ?_
  exact Prog.keeps_emit fun _ => runDiscipline_pending (.disconnected error List.mem_cons_self)

theorem keeps_onCallback {callback : Callback} {pendingBytes : Bytes} (hc : .parse pendingBytes (.calls callback) ∈ h) :
    Prog.Keeps (fun _ _ => True) RunDiscipline (onCallback callback) h := by
  cases callback with
  | declared name =>
    refine Prog.keeps_emit_bind (fun _ => ?_) fun _ => Prog.keeps_call fun _ => ?_
    · refine ⟨by simp, fun name' heq => ?_, by simp, by simp, by simp⟩
      cases heq
      exact ⟨pendingBytes, hc⟩
    · refine ⟨by simp, by simp, fun name' result heq => ?_, by simp, by simp⟩
      cases heq
      exact ⟨pendingBytes, List.mem_cons_of_mem _ hc⟩
  | consuming => exact Prog.keeps_emit fun _ => runDiscipline_idle trivial
  | received message deliveryTag =>
    simp only [Prog.Keeps, onCallback, onReceived, Prog.safe_bind, Prog.safe_call]
    intro acked _
    refine ⟨runDiscipline_idle trivial, ?_⟩
    cases acked with
    | error e => trivial
    | ok acked =>
      rw [Prog.andThen_ok]
      cases hid : message.correlationID with
      | none => trivial
      | some id =>
        refine Prog.keeps_emit_bind (fun found => runDiscipline_pending ?_) fun _ => trivial
        exact .reply message deliveryTag pendingBytes id found (List.mem_cons_of_mem _ hc) ⟨acked, List.mem_cons_self⟩ hid
  | channelError message => exact keeps_disconnect _
  | connectionError => exact Prog.keeps_emit fun _ => runDiscipline_idle trivial
  | connectionClosed => exact Prog.keeps_emit fun _ => runDiscipline_idle trivial

theorem keeps_parse (pendingBytes : Bytes) (fuel : Nat) :
    Prog.Keeps (fun _ _ => True) RunDiscipline (parse pendingBytes fuel) h := by
  refine Prog.keeps_iterate (fun _ h => ?_) fuel () h
  refine Prog.keeps_emit_bind (fun _ => runDiscipline_idle trivial) fun next => ?_
  cases next with
  | returns parsed => trivial
  | throws e => trivial
  | calls callback => exact (keeps_onCallback List.mem_cons_self).keeps_bind fun _ _ _ => trivial

theorem keeps_parsePending (link fuel n : Nat) (pendingBytes : Bytes) :
    Prog.Keeps (fun _ _ => True) RunDiscipline ((surroundings link fuel).parsePending n pendingBytes) h := by
  refine Prog.keeps_iterate (fun pendingBytes h => ?_) n pendingBytes h
  split
  · trivial
  refine (keeps_parse pendingBytes fuel).keeps_bind fun parsed _ _ => ?_
  split <;> trivial

theorem keeps_leave (link fuel : Nat) (error : String) (pendingBytes : Bytes) :
    Prog.Keeps (fun _ _ => True) RunDiscipline ((surroundings link fuel).leave error pendingBytes) h :=
  (keeps_disconnect _).keeps_bind fun _ _ _ => trivial

theorem keeps_read (link fuel : Nat) (pendingBytes : Bytes) :
    Prog.Keeps (fun _ _ => True) RunDiscipline ((surroundings link fuel).read fuel pendingBytes) h := by
  refine Prog.keeps_emit_bind (fun _ => runDiscipline_idle trivial) fun received => ?_
  cases received with
  | closed => exact keeps_leave _ _ _ _
  | wouldBlock => trivial
  | error errno => exact keeps_leave _ _ _ _
  | bytes chunk => exact (keeps_parsePending link fuel fuel _).keeps_bind fun _ _ _ => trivial

/-- **What the I/O thread of a link keeps to**, whatever its connection calls back. -/
theorem keeps_run (link fuel : Nat) : Prog.Keeps (fun _ _ => True) RunDiscipline (run link fuel) [] := by
  refine Prog.keeps_iterate (fun pendingBytes h => ?_) fuel [] []
  have hon : Prog.Keeps (fun _ _ => True) RunDiscipline (surroundings link fuel).goesOn h := by
    refine Prog.keeps_emit_bind (fun _ => runDiscipline_idle trivial) fun stopping => ?_
    split
    · trivial
    exact Prog.keeps_emit_bind (fun _ => runDiscipline_idle trivial) fun _ => trivial
  refine hon.keeps_bind fun on h _ => ?_
  split
  · trivial
  have hlost : Prog.Keeps (fun _ _ => True) RunDiscipline (surroundings link fuel).connectionLost h := by
    refine Prog.keeps_emit_bind (fun _ => runDiscipline_idle trivial) fun connectionError => ?_
    split
    · trivial
    exact Prog.keeps_emit fun _ => runDiscipline_idle trivial
  refine hlost.keeps_bind fun lost h _ => ?_
  split
  · exact keeps_leave _ _ _ _
  refine Prog.keeps_emit_bind (fun _ => runDiscipline_idle trivial) fun status => ?_
  cases status with
  | timeout => trivial
  | error => exact keeps_leave _ _ _ _
  | readable => exact keeps_read _ _ _

end Run

end RpcClient
end RabbitMq
end Graftcode
