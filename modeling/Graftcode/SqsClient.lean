import Graftcode.CorrelationIds
import Graftcode.SqsServer
import Graftcode.TicketScope
/-!
# SqsClient — a call, and the thread that dispatches replies

`SqsClient.cpp`: `EnsureDispatcher`, `Call`, `DispatchReplies` and the destructor.  A step of `PendingReplies` is one
event, with what the map answered.  Sleeping leaves no event.
-/
namespace Graftcode
namespace Sqs

open Prog (emit call ofExcept iterate forEach)

/-- `Aws::Client::AWSError<SQSErrors>`. -/
structure AwsError where
  exceptionName : Text
  message : Text

/-- What a request to the SDK comes to, or throws. -/
abbrev ClientOutcome (α : Type) := Except Exn (Except AwsError α)

inductive ClientEvent where
  | startedLoaded (started : Bool)
  | startDispatcher (result : Except Exn Unit)
  | startedStored
  | newCorrelationId (first second : UInt64)
  | pending (event : PendingReplies.Event)
  | sendMessage (sent : SendMessageRequest) (outcome : ClientOutcome Unit)
  | stoppingLoaded (stopping : Bool)
  | stoppingStored
  | waitForPending (found : Bool)
  | receiveMessage (sent : ReceiveMessageRequest) (outcome : ClientOutcome (List Message))
  | deleteMessage (queueUrl receiptHandle : Text) (outcome : ClientOutcome Unit)

/-- The text of `AwsError`, the function. -/
def awsError (operation : Text) (error : AwsError) : Text :=
  "SQS ".toList ++ operation ++ " failed: ".toList ++ cString error.exceptionName ++ " - ".toList ++
    cString error.message

/-! ## The call -/

/-- `EnsureDispatcher`: `started_` is read again under `startMutex_`. -/
def ensureDispatcher : Prog Exn ClientEvent Unit := do
  let started ← emit ClientEvent.startedLoaded
  if started then pure ()
  else
    let started ← emit ClientEvent.startedLoaded
    if started then pure ()
    else
      call ClientEvent.startDispatcher
      emit fun _ : Unit => ClientEvent.startedStored

def timedOut (rpcTimeoutMs : Nat) (correlationId : Text) : Exn :=
  .std ("SQS RPC timed out after ".toList ++ Numeral.decimal rpcTimeoutMs ++
    " ms waiting for correlation id ".toList ++ correlationId)

/-- What `Call` makes of `ticket->Wait`. -/
def waited (config : SqsConfig) (correlationId : Text) : PendingReplies.WaitResult → Except Exn Bytes :=
  PendingReplies.waitedOr (timedOut config.rpcTimeoutMs correlationId) Exn.std

/-- The request as it is sent; a two-way call says where it waits for the reply. -/
def callRequest (config : SqsConfig) (correlationId body : Text) : SendMessageRequest :=
  configureFifoMessage {
    queueUrl := cString config.requestQueueUrl
    messageBody := body
    messageAttributes :=
      if config.oneWay then [(correlationIdAttribute, cString correlationId)]
      else [(correlationIdAttribute, cString correlationId), (replyToAttribute, cString config.replyQueueUrl)]
  } config.requestQueueUrl config.messageGroupId correlationId

def sendRequest (sdk : Sdk) (config : SqsConfig) (data : Option Bytes) (size : Nat) (correlationId : Text) :
    Prog Exn ClientEvent Unit := do
  let body ← ofExcept ((encodePayload sdk data size).mapError Exn.std)
  let outcome ← call (ClientEvent.sendMessage (callRequest config correlationId body))
  ofExcept (outcome.mapError fun error => .std (awsError "SendMessage".toList error))

/-- A two-way call from its registration on. -/
def awaitReply (sdk : Sdk) (config : SqsConfig) (data : Option Bytes) (size : Nat) (correlationId : Text) :
    Prog Exn ClientEvent Bytes :=
  PendingReplies.withTicket ClientEvent.pending Exn.std correlationId (sendRequest sdk config data size correlationId)
    (waited config correlationId)

def nullPayload : Exn := .std "SQS client: null payload with non-zero length".toList

/-- `Call`. -/
def callClient (sdk : Sdk) (config : SqsConfig) (data : Option Bytes) (size : Nat) : Prog Exn ClientEvent Bytes :=
  if 0 < size ∧ data = none then Prog.throw nullPayload
  else do
    let words ← emit fun words : UInt64 × UInt64 => ClientEvent.newCorrelationId words.1 words.2
    let correlationId := newCorrelationId words.1 words.2
    if config.oneWay then do
      sendRequest sdk config data size correlationId
      pure []
    else do
      ensureDispatcher
      awaitReply sdk config data size correlationId

/-! ## The dispatcher -/

def complete (id : Text) (payload : Bytes) : Prog Exn ClientEvent Unit := do
  let _ ← emit fun found : Bool => ClientEvent.pending (.completed id payload found)
  pure ()

def fail (id error : Text) : Prog Exn ClientEvent Unit := do
  let _ ← emit fun found : Bool => ClientEvent.pending (.failed id error found)
  pure ()

def failAll (error : Text) : Prog Exn ClientEvent Unit :=
  emit fun _ : Unit => ClientEvent.pending (.failedAll error)

def replyReceive (config : SqsConfig) : ReceiveMessageRequest where
  queueUrl := cString config.replyQueueUrl
  maxNumberOfMessages := 10
  waitTimeSeconds := config.waitTimeSeconds
  visibilityTimeout := config.visibilityTimeoutSeconds

/-- A deleted reply is handed over, or its call fails with what is wrong with its body. -/
def handOver (sdk : Sdk) (correlationId body : Text) : Prog Exn ClientEvent Unit :=
  match decodePayload sdk body with
  | .ok payload => complete correlationId payload
  | .error what => fail correlationId what

/-- The body of the loop over the messages; replies nobody waits for are deleted too. -/
def dispatchReply (sdk : Sdk) (config : SqsConfig) (message : Message) : Prog Exn ClientEvent Unit := do
  let correlationId := getStringAttribute message correlationIdAttribute
  let outcome ← call (ClientEvent.deleteMessage (cString config.replyQueueUrl) message.receiptHandle)
  match outcome with
  | .error error => fail correlationId (awsError "DeleteMessage".toList error)
  | .ok ()       => handOver sdk correlationId message.body

def dispatchMessages (sdk : Sdk) (config : SqsConfig) (messages : List Message) : Prog Exn ClientEvent Unit :=
  forEach (fun message => do
    dispatchReply sdk config message
    pure true) messages

/-- `DispatchReplies`; the loop runs for as long as it is observed. -/
def dispatchReplies (sdk : Sdk) (config : SqsConfig) : Nat → Prog Exn ClientEvent Unit :=
  fun fuel => iterate (fun _ : Unit => do
    let stopping ← emit ClientEvent.stoppingLoaded
    if stopping then pure (.inr ())
    else
      let found ← emit ClientEvent.waitForPending
      if !found then pure (.inl ())
      else
        let outcome ← call (ClientEvent.receiveMessage (replyReceive config))
        match outcome with
        | .error error =>
          failAll (awsError "ReceiveMessage".toList error)
          pure (.inl ())
        | .ok messages =>
          dispatchMessages sdk config messages
          pure (.inl ())) fuel ()

/-- The destructor, up to the join of the dispatcher. -/
def destroyClient : Prog Exn ClientEvent Unit := do
  emit fun _ : Unit => ClientEvent.stoppingStored
  emit fun _ : Unit => ClientEvent.pending (.closed "SQS client is shutting down".toList)

end Sqs
end Graftcode
