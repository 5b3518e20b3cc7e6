import Graftcode.KafkaServer
import Graftcode.TicketScope
/-!
# KafkaClient — a call over Kafka, and the thread that dispatches replies

`KafkaClient.cpp`, with `makeRpcHeaders` of `KafkaUtil.h`.  A step of `PendingReplies` is one event, with what the map
answered; a ticket is known by its slot and goes out of scope with `destroyed`.  A poll of the producer hands over
delivery reports until there is none left.  Setting up a configuration fails with the creation it is for.
-/
namespace Graftcode
namespace Kafka

open Prog (emit call attempt iterate)

structure KafkaClientConfig where
  requestTopic : Text := "graft.requests".toList
  replyTopic : Text := "graft.replies".toList
  rpcTimeoutMs : Nat := 30000

/-- A delivery report: the tag given to `produce`, and the error. -/
structure DeliveryReport where
  correlationId : Option Text
  error : ErrorCode

/-- What a thread of a client asks of the outside, with the answer it got; `publish` is a reply reaching the topic. -/
inductive ClientEvent where
  | publish (record : Record)
  | startedLoaded (started : Bool)
  | lockStart
  | unlockStart
  | createProducer (result : Except Exn Unit)
  | createConsumer (result : Except Exn Unit)
  | subscribe (topic : Text) (error : ErrorCode)
  | beforeWarmDeadline (before : Bool)
  | consume (consumed : Consumed)
  | startDispatcher (result : Except Exn Unit)
  | startedStored
  | newCorrelationId (id : Text)
  | produce (topic : Text) (headers : List (Text × Text)) (payload : Bytes) (tag : Text) (error : ErrorCode)
  | pending (event : PendingReplies.Event)
  | stoppingLoaded (stopping : Bool)
  | deliveryReport (report : Option DeliveryReport)
  | stoppingStored
  | dispatcherJoined
  | exit

def complete (id : Text) (payload : Bytes) : Prog Exn ClientEvent Unit := do
  let _ ← emit fun found : Bool => ClientEvent.pending (.completed id payload found)
  pure ()

def fail (id error : Text) : Prog Exn ClientEvent Unit := do
  let _ ← emit fun found : Bool => ClientEvent.pending (.failed id error found)
  pure ()

/-! ## Starting -/

def subscribeReplies (topic : Text) : Prog Exn ClientEvent Unit := do
  let error ← emit (ClientEvent.subscribe topic)
  match error with
  | none      => pure ()
  | some text =>
    Prog.throw (.std ("Failed to subscribe to reply topic '".toList ++ topic ++ "': ".toList ++ text))

/-- The brief poll before anything is produced; a record it gets is dropped. -/
def warmUp (fuel : Nat) : Prog Exn ClientEvent Unit :=
  iterate (fun _ : Unit => do
    let before ← emit ClientEvent.beforeWarmDeadline
    if !before then pure (.inr ())
    else
      let consumed ← emit ClientEvent.consume
      match consumed with
      | .record _ => pure (.inr ())
      | _         => pure (.inl ())) fuel ()

/-- `ensureStarted` from its second look at `started_`, under `startMutex_`. -/
def startLocked (config : KafkaClientConfig) (fuel : Nat) : Prog Exn ClientEvent Unit := do
  let started ← emit ClientEvent.startedLoaded
  if started then pure ()
  else
    call ClientEvent.createProducer
    call ClientEvent.createConsumer
    subscribeReplies config.replyTopic
    warmUp fuel
    call ClientEvent.startDispatcher
    emit fun _ : Unit => ClientEvent.startedStored

/-- The `lock_guard` lets the mutex go whichever way the section ends. -/
def ensureStarted (config : KafkaClientConfig) (fuel : Nat) : Prog Exn ClientEvent Unit := do
  let started ← emit ClientEvent.startedLoaded
  if started then pure ()
  else
    emit (fun _ : Unit => ClientEvent.lockStart)
    (startLocked config fuel).tryCatch fun e => do
      emit (fun _ : Unit => ClientEvent.unlockStart)
      Prog.throw e
    emit (fun _ : Unit => ClientEvent.unlockStart)

/-! ## A call -/

def makeRpcHeaders (correlationId replyTo : Text) : List (Text × Text) :=
  ("correlation-id".toList, correlationId) :: if replyTo.isEmpty then [] else [("reply-to".toList, replyTo)]

def produce (config : KafkaClientConfig) (correlationId : Text) (payload : Bytes) : Prog Exn ClientEvent Unit := do
  let error ← emit (ClientEvent.produce config.requestTopic (makeRpcHeaders correlationId config.replyTopic) payload
    correlationId)
  match error with
  | none      => pure ()
  | some text =>
    Prog.throw (.std ("Kafka produce to '".toList ++ config.requestTopic ++ "' failed: ".toList ++ text))

def timedOut (rpcTimeoutMs : Nat) (correlationId : Text) : Exn :=
  .std ("Kafka RPC timed out after ".toList ++ (toString rpcTimeoutMs).toList ++
    " ms waiting for correlation-id=".toList ++ correlationId)

/-- What `call` makes of `ticket.Wait`. -/
def waited (config : KafkaClientConfig) (correlationId : Text) : PendingReplies.WaitResult → Except Exn Bytes :=
  PendingReplies.waitedOr (timedOut config.rpcTimeoutMs correlationId) Exn.std

/-- A call from its registration on. -/
def awaitReply (config : KafkaClientConfig) (payload : Bytes) (correlationId : Text) : Prog Exn ClientEvent Bytes :=
  PendingReplies.withTicket ClientEvent.pending Exn.std correlationId (produce config correlationId payload)
    (waited config correlationId)

def nullData : Exn := .std "KafkaClient::call: null data with non-zero length".toList

/-- The bytes a pointer and a length stand for; a null pointer is `none`. -/
def payloadOf (data : Option Bytes) (len : Nat) : Bytes := (data.getD []).take len

def callClient (config : KafkaClientConfig) (data : Option Bytes) (len : Nat) (fuel : Nat) :
    Prog Exn ClientEvent Bytes :=
  if data = none ∧ 0 < len then Prog.throw nullData
  else do
    ensureStarted config fuel
    let correlationId ← emit ClientEvent.newCorrelationId
    awaitReply config (payloadOf data len) correlationId

/-! ## The dispatcher and the destructor -/

/-- `DeliveryReports::dr_cb`. -/
def drCb (report : DeliveryReport) : Prog Exn ClientEvent Unit :=
  match report.correlationId, report.error with
  | some id, some errstr =>
    fail id ("Kafka delivery failed for correlation-id=".toList ++ id ++ ": ".toList ++ errstr)
  | _, _                 => pure ()

def poll (fuel : Nat) : Prog Exn ClientEvent Unit :=
  iterate (fun _ : Unit => do
    let report ← emit ClientEvent.deliveryReport
    match report with
    | none        => pure (.inr ())
    | some report => do
      drCb report
      pure (.inl ())) fuel ()

/-- What the dispatcher does with a record; one without a correlation id is skipped. -/
def dispatchRecord (record : Record) : Prog Exn ClientEvent Unit :=
  if (correlationIdOf record).isEmpty then pure ()
  else complete (correlationIdOf record) record.payload

def dispatchReplies (fuel : Nat) : Prog Exn ClientEvent Unit :=
  iterate (fun _ : Unit => do
    let stopping ← emit ClientEvent.stoppingLoaded
    if stopping then pure (.inr ())
    else
      poll fuel
      let consumed ← emit ClientEvent.consume
      match consumed with
      | .record record => do
        dispatchRecord record
        pure (.inl ())
      | _ => pure (.inl ())) fuel ()

/-- The thread of the dispatcher. -/
def dispatcher (fuel : Nat) : Prog Exn ClientEvent Unit := do
  dispatchReplies fuel
  emit (fun _ : Unit => ClientEvent.exit)

/-- `~KafkaClient`; draining the producer hands over the delivery reports that are left. -/
def destroyClient (fuel : Nat) : Prog Exn ClientEvent Unit := do
  emit (fun _ : Unit => ClientEvent.stoppingStored)
  emit (fun _ : Unit => ClientEvent.dispatcherJoined)
  emit (fun _ : Unit => ClientEvent.pending (.closed "Kafka client is shutting down".toList))
  poll fuel

end Kafka
end Graftcode
