import Graftcode.Prog
import Graftcode.Cpp
/-!
# KafkaServer — the consumer loop of the Kafka gateway

`KafkaServer::loop` and `publishReply` of `KafkaServer.cpp`.  An error of librdkafka is its text, `none` where it is
`ERR_NO_ERROR`.  Setting up a configuration, logging, sleeping, the look at `running_` that decides
only about these, and `producer->poll` leave no event of their own.
-/
namespace Graftcode
namespace Kafka

open Prog (emit call ofExcept attempt iterate)

structure Record where
  partition : Nat
  offset : Nat
  payload : Bytes
  headers : List (Text × Option Text)

/-- What `consumer->consume` returned: no message, a timeout or the end of the partition, an error, or a record. -/
inductive Consumed where
  | nothing
  | idle
  | error (errstr : Text)
  | record (r : Record)

abbrev ErrorCode := Option Text

inductive Event where
  | running (running : Bool)
  | createProducer (result : Except Exn Unit)
  | createConsumer (result : Except Exn Unit)
  | subscribe (topic : Text) (error : ErrorCode)
  | consume (consumed : Consumed)
  | processConfigured (configured : Bool)
  | processMessage (payload : Bytes) (writes : List (Option Bytes)) (result : Except Exn Bool)
  | produce (topic : Text) (correlationId : Option Text) (payload : Bytes) (error : ErrorCode)
  | flush (timeoutMs : Nat) (error : ErrorCode)
  | commitSync (record : Record) (error : ErrorCode)
  | close (result : Except Exn Unit)

structure KafkaServerConfig where
  requestTopic : Text := "graft.requests".toList
  replyTopic : Text := "graft.replies".toList

/-- The first header of that name; empty when it is not there or has no value. -/
def headerValue (record : Record) (key : Text) : Text := ((record.headers.lookup key).join).getD []

def correlationIdOf (record : Record) : Text := headerValue record "correlation-id".toList

/-- The record's own reply topic, or the configured one. -/
def replyToOf (config : KafkaServerConfig) (record : Record) : Text :=
  let replyTo := headerValue record "reply-to".toList
  if replyTo.isEmpty then config.replyTopic else replyTo

def processMessage (payload : Bytes) : Prog Exn Event (Bool × Bytes) :=
  emit (fun r : List (Option Bytes) × Except Exn Bool => Event.processMessage payload r.1 r.2) >>= fun r =>
    ofExcept (r.2.map fun processed => (processed, responseOf r.1))

/-- The header of the reply, when there is a correlation id. -/
def replyHeader (correlationId : Text) : Option Text := if correlationId.isEmpty then none else some correlationId

def publishReply (replyTopic correlationId : Text) (response : Bytes) : Prog Exn Event Unit := do
  let error ← emit (Event.produce replyTopic (replyHeader correlationId) response)
  match error with
  | none      => pure ()
  | some text => Prog.throw (.std ("Failed to publish reply to '".toList ++ replyTopic ++ "': ".toList ++ text))

/-- `commitSync`; what it returns is not looked at. -/
def commitSync (record : Record) : Prog Exn Event Unit := do
  let _ ← emit (Event.commitSync record)
  pure ()

/-- The reply, when there is a topic for it; a failed flush is only logged. -/
def reply (replyTo correlationId : Text) (response : Bytes) : Prog Exn Event Unit :=
  if replyTo.isEmpty then pure ()
  else do
    publishReply replyTo correlationId response
    let _ ← emit (Event.flush 10000)
    pure ()

/-- The body of the inner loop on a record. -/
def handleRecord (config : KafkaServerConfig) (record : Record) : Prog Exn Event Unit := do
  let configured ← emit Event.processConfigured
  if !configured then commitSync record
  else
    let (ok, response) ← processMessage record.payload
    if !ok then commitSync record
    else
      reply (replyToOf config record) (correlationIdOf record) response
      commitSync record

/-- The inner `while`. -/
def receive (config : KafkaServerConfig) : Nat → Prog Exn Event Unit :=
  fun fuel => iterate (fun _ : Unit => do
    let running ← emit Event.running
    if !running then pure (.inr ())
    else
      let consumed ← emit Event.consume
      match consumed with
      | .record record => do
        handleRecord config record
        pure (.inl ())
      | _ => pure (.inl ())) fuel ()

def subscribe (topic : Text) : Prog Exn Event Unit := do
  let error ← emit (Event.subscribe topic)
  match error with
  | none      => pure ()
  | some text => Prog.throw (.std ("Failed to subscribe to '".toList ++ topic ++ "': ".toList ++ text))

/-- `try { consumer->close(); } catch (...) {}`. -/
def closeConsumer : Prog Exn Event Unit := do
  let _ ← attempt (fun _ => true) (call Event.close)
  pure ()

/-- The consumer's part of one connection: it is closed whichever way the `try` ends. -/
def consumeAndClose (config : KafkaServerConfig) (fuel : Nat) : Prog Exn Event Unit := do
  let consumer ← attempt (fun _ => true) (call Event.createConsumer)
  match consumer with
  | none    => pure ()
  | some () => do
    let _ ← attempt (fun _ => true) (do
      subscribe config.requestTopic
      receive config fuel)
    closeConsumer

/-- One turn of the outer loop. -/
def connection (config : KafkaServerConfig) (fuel : Nat) : Prog Exn Event Unit := do
  let producer ← attempt (fun _ => true) (call Event.createProducer)
  match producer with
  | none    => pure ()
  | some () => do
    consumeAndClose config fuel
    let _ ← emit (Event.flush 2000)
    pure ()

/-- `loop`; both loops run for as long as they are observed. -/
def loop (config : KafkaServerConfig) (fuel : Nat) : Prog Exn Event Unit :=
  iterate (fun _ : Unit => do
    let running ← emit Event.running
    if !running then pure (.inr ())
    else
      connection config fuel
      pure (.inl ())) fuel ()

end Kafka
end Graftcode
