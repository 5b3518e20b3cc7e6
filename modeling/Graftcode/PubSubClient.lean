import Graftcode.PubSubSession
import Graftcode.TicketScope
/-!
# PubSubClient — a call, and the thread that dispatches replies

`PubSubClient.cpp`: `EnsureStarted`, `Call` and `DispatchReplies`.  A step of `PendingReplies` is one event, with what the
map answered; a ticket is known by its slot and goes out of scope with `destroyed`.  Sleeping and giving a session back
leave no event.
-/
namespace Graftcode
namespace PubSub

open Prog (emit ofExcept attempt iterate forEach Keeps)
open PendingReplies (withTicket waitedOr)

def timedOut (rpcTimeoutMs : Nat) (correlationId : Text) : Error :=
  .exn (.std ("Pub/Sub RPC timed out after ".toList ++ (toString rpcTimeoutMs).toList ++
    " ms waiting for correlation id ".toList ++ correlationId))

/-- What `Call` makes of `ticket->Wait`. -/
def waited (config : PubSubConfig) (correlationId : Text) : PendingReplies.WaitResult → Except Error Bytes :=
  waitedOr (timedOut config.rpcTimeoutMs correlationId) (.exn ∘ .std)

/-- The creations of `EnsureStarted`. -/
def createResources (config : PubSubConfig) : Prog Error Event Unit :=
  if config.autoCreate then do
    ensureTopic config config.requestTopic
    if config.oneWay then pure ()
    else
      ensureTopic config config.replyTopic
      ensureSubscription config config.replySubscription config.replyTopic
  else pure ()

/-- `EnsureStarted`: `started_` is read again under `startMutex_`.  Starting the dispatcher is part of `newSession`. -/
def ensureStarted (config : PubSubConfig) : Prog Error Event Unit := do
  let started ← emit Event.startedLoaded
  if started then pure ()
  else
    let started ← emit Event.startedLoaded
    if started then pure ()
    else
      Prog.call Event.acquireSession
      createResources config
      if config.oneWay then pure () else Prog.call Event.newSession
      emit fun _ : Unit => Event.startedStored

/-- A failed publish is tried again only where the topic is not there yet. -/
def publishAgain (e : Error) : Prog Error Event (Unit ⊕ Unit) :=
  match e with
  | .http 404 _ => do
    let before ← emit Event.beforePublishDeadline
    if before then pure (.inl ()) else Prog.throw e
  | _ => Prog.throw e

/-- The `for (;;)` of `Call`. -/
def publishRequestLoop (config : PubSubConfig) (data : Bytes) (attributes : List (Text × Text)) :
    Nat → Prog Error Event Unit :=
  fun fuel => iterate (fun _ : Unit =>
    (publish config config.requestTopic data attributes >>= fun _ => pure (.inr ())).tryCatch publishAgain) fuel ()

def send (config : PubSubConfig) (data : Bytes) (attributes : List (Text × Text)) (fuel : Nat) :
    Prog Error Event Unit := do
  Prog.call Event.acquireSession
  publishRequestLoop config data attributes fuel

def requestAttributes (config : PubSubConfig) (correlationId : Text) : List (Text × Text) :=
  if config.oneWay then [(correlationIdAttribute, correlationId)]
  else [(correlationIdAttribute, correlationId), (replyToAttribute, config.replyTopic)]

/-- A two-way call from its registration on. -/
def awaitReply (config : PubSubConfig) (data : Bytes) (correlationId : Text) (fuel : Nat) : Prog Error Event Bytes :=
  withTicket Event.pending (.exn ∘ .std) correlationId (send config data (requestAttributes config correlationId) fuel)
    (waited config correlationId)

def nullPayload : Error := .exn (.std "Pub/Sub client: null payload with non-zero length".toList)

/-- The bytes a pointer and a size stand for; a null pointer is `none`. -/
def payloadOf (data : Option Bytes) (size : Nat) : Bytes := (data.getD []).take size

/-- `Call`. -/
def callClient (config : PubSubConfig) (data : Option Bytes) (size : Nat) (fuel : Nat) : Prog Error Event Bytes :=
  if maxPayloadBytes < size then Prog.throw tooLarge
  else if 0 < size ∧ data = none then Prog.throw nullPayload
  else do
    ensureStarted config
    let correlationId ← emit Event.newCorrelationId
    if config.oneWay then do
      send config (payloadOf data size) (requestAttributes config correlationId) fuel
      pure []
    else awaitReply config (payloadOf data size) correlationId fuel

/-! ## The dispatcher -/

def complete (id : Text) (payload : Bytes) : Prog Error Event Unit := do
  let _ ← emit fun found : Bool => Event.pending (.completed id payload found)
  pure ()

def failAll (error : Text) : Prog Error Event Unit := emit fun _ : Unit => Event.pending (.failedAll error)

/-- A failed pull: every waiting call fails with it, unless it is worth trying again. -/
def pullFailed (e : Error) : Prog Error Event (List PulledMessage) :=
  match e with
  | .http status _ =>
    if status ≠ 429 ∧ status < 500 ∧ status ≠ 0 then do
      failAll e.what
      pure []
    else pure []
  | .exn (.std _)  => do
    failAll e.what
    pure []
  | .exn .unknown  => Prog.throw e

/-- Replies nobody waits for are acknowledged too. -/
def acknowledgeBatch (config : PubSubConfig) (batch : List PulledMessage) : Prog Error Event Unit :=
  attempt Error.isStd (acknowledge config config.replySubscription
    ((batch.map PulledMessage.ackId).filter (!·.isEmpty))) >>= fun _ => pure ()

def completeReply (message : PulledMessage) : Prog Error Event Unit :=
  match message.attributes.lookup correlationIdAttribute with
  | some correlationId => complete correlationId message.data
  | none               => pure ()

def completeBatch (batch : List PulledMessage) : Prog Error Event Unit :=
  forEach (fun message => do
    completeReply message
    pure true) batch

/-- The body of `DispatchReplies`; an empty batch and a failed one are both left at once. -/
def dispatchBatch (parse : Text → Option Json) (config : PubSubConfig) : Prog Error Event Unit := do
  let batch ← (pull parse config config.replySubscription config.maxMessages).tryCatch pullFailed
  acknowledgeBatch config batch
  completeBatch batch

/-- `DispatchReplies`; the loop runs for as long as it is observed. -/
def dispatchReplies (parse : Text → Option Json) (config : PubSubConfig) : Nat → Prog Error Event Unit :=
  fun fuel => iterate (fun _ : Unit => do
    let stopping ← emit Event.stoppingLoaded
    if stopping then pure (.inr ())
    else
      let found ← emit Event.waitForPending
      if !found then pure (.inl ())
      else
        dispatchBatch parse config
        pure (.inl ())) fuel ()

/-- The destructor, up to the join of the dispatcher. -/
def destroyClient : Prog Error Event Unit :=
  emit fun _ : Unit => Event.pending (.closed "Pub/Sub client is shutting down".toList)

end PubSub
end Graftcode
