import Graftcode.Prog
import Graftcode.Served
import Graftcode.SqsUtil
/-!
# SqsServer — the receive loop of the SQS gateway

`SqsServer::start` of `SqsServer.cpp`.  A request to the SDK comes to an outcome, or throws.  Logging, sleeping, the looks
at the flag that decide only about these, and `DisableRequestProcessing` leave no event.
-/
namespace Graftcode
namespace Sqs

open Prog (emit call ofExcept attempt iterate forEach Keeps)

/-- An outcome without a result of its own; the error is its message. -/
abbrev SdkOutcome (α : Type) := Except Exn (Except Text α)

structure ReceiveMessageRequest where
  queueUrl : Text
  maxNumberOfMessages : Nat
  waitTimeSeconds : Nat
  visibilityTimeout : Nat

inductive Event where
  | stopRequested (stop : Bool)
  | createClient (result : Except Exn Unit)
  | receiveMessage (sent : ReceiveMessageRequest) (outcome : SdkOutcome (List Message))
  | processMessage (payload : Bytes) (writes : List (Option Bytes)) (result : Except Exn Bool)
  | newCorrelationId (id : Text)
  | sendMessage (sent : SendMessageRequest) (outcome : SdkOutcome Unit)
  | deleteMessage (queueUrl receiptHandle : Text) (outcome : SdkOutcome Unit)

/-- Caught by `catch (const std::exception&)`. -/
def isStd : Exn → Bool
  | .std _   => true
  | .unknown => false

def processMessage (payload : Bytes) : Prog Exn Event (Bool × Bytes) :=
  emit (fun r : List (Option Bytes) × Except Exn Bool => Event.processMessage payload r.1 r.2) >>= fun r =>
    ofExcept (r.2.map fun processed => (processed, responseOf r.1))

def receiveRequest (config : SqsConfig) : ReceiveMessageRequest where
  queueUrl := cString config.requestQueueUrl
  maxNumberOfMessages := 1
  waitTimeSeconds := config.waitTimeSeconds
  visibilityTimeout := config.visibilityTimeoutSeconds

def replyQueueUrlOf (config : SqsConfig) (message : Message) : Text :=
  if config.oneWay then [] else getStringAttribute message replyToAttribute

/-- The reply to `replyQueueUrl` before its queue settings. -/
def replyRequest (replyQueueUrl correlationId body : Text) : SendMessageRequest where
  queueUrl := cString replyQueueUrl
  messageBody := body
  messageAttributes := [(correlationIdAttribute, cString correlationId)]

/-- The reply, unless there is no one to send it to; whether the request may be deleted. -/
def sendReply (sdk : Sdk) (config : SqsConfig) (replyQueueUrl correlationId : Text) (response : Bytes) :
    Prog Exn Event Bool :=
  if replyQueueUrl.isEmpty then pure true
  else do
    let body ← ofExcept ((encodePayload sdk (some response) response.length).mapError Exn.std)
    let deduplicationId ← emit Event.newCorrelationId
    let outcome ← call (Event.sendMessage (configureFifoMessage (replyRequest replyQueueUrl correlationId body)
      replyQueueUrl config.messageGroupId deduplicationId))
    pure outcome.isOk

/-- The body of the loop over the messages, inside its `try`. -/
def handleMessage (sdk : Sdk) (config : SqsConfig) (message : Message) : Prog Exn Event Unit :=
  let correlationId := getStringAttribute message correlationIdAttribute
  let replyQueueUrl := replyQueueUrlOf config message
  if !config.oneWay && (correlationId.isEmpty || replyQueueUrl.isEmpty) then pure ()
  else do
    let request ← ofExcept ((decodePayload sdk message.body).mapError Exn.std)
    let (processed, response) ← processMessage request
    if !processed then pure ()
    else
      let sent ← sendReply sdk config replyQueueUrl correlationId response
      if !sent then pure ()
      else
        let _ ← call (Event.deleteMessage (cString config.requestQueueUrl) message.receiptHandle)
        pure ()

def handleMessages (sdk : Sdk) (config : SqsConfig) (messages : List Message) : Prog Exn Event Unit :=
  forEach (fun message => do
    let stop ← emit Event.stopRequested
    if stop then pure false
    else
      let _ ← attempt isStd (handleMessage sdk config message)
      pure true) messages

/-- The `while` of `start`. -/
def receive (sdk : Sdk) (config : SqsConfig) : Nat → Prog Exn Event Unit :=
  fun fuel => iterate (fun _ : Unit => do
    let stop ← emit Event.stopRequested
    if stop then pure (.inr ())
    else
      let outcome ← call (Event.receiveMessage (receiveRequest config))
      match outcome with
      | .error _     => pure (.inl ())
      | .ok messages =>
        handleMessages sdk config messages
        pure (.inl ())) fuel ()

def notConfigured : Exn := .std "SQS server: processMessage callback is not configured".toList

/-- `start`, once it has set `running_`; the loop runs for as long as it is observed. -/
def start (sdk : Sdk) (config : SqsConfig) (configured : Bool) (fuel : Nat) : Prog Exn Event Unit :=
  (do
    ofExcept ((validateServerConfig config).mapError Exn.std)
    if configured then pure () else Prog.throw notConfigured
    call Event.createClient
    receive sdk config fuel).tryCatch fun _ => pure ()

/-! ## What a deleted request has been through -/

def processed (payload : Bytes) (writes : List (Option Bytes)) : Event := .processMessage payload writes (.ok true)

def replied (sdk : Sdk) (queueUrl : Text) (correlationId : Option Text) (response : Bytes) (e : Event) : Prop :=
  ∃ sent id body, e = .sendMessage sent (.ok (.ok ())) ∧ correlationId = some id ∧
    encodePayload sdk (some response) response.length = .ok body ∧ sent.queueUrl = queueUrl ∧
    sent.messageBody = body ∧ sent.messageAttributes = [(correlationIdAttribute, id)]

def consumer (sdk : Sdk) : Consumer Event where
  processed := processed
  replied := replied sdk
  quiet e := ∃ id, e = .newCorrelationId id

/-- A message as a request, when its body is a payload. -/
def RequestOf (sdk : Sdk) (config : SqsConfig) (message : Message) (request : Request) : Prop :=
  decodePayload sdk message.body = .ok request.payload ∧
    request.correlationId = some (getStringAttribute message correlationIdAttribute) ∧
    request.replyTo = if config.oneWay then none else some (getStringAttribute message replyToAttribute)

/-- The latest receive of the history delivered these messages. -/
def Delivered (messages : List Message) (h : List Event) : Prop :=
  ∃ later sent earlier, h = later ++ .receiveMessage sent (.ok (.ok messages)) :: earlier ∧
    ∀ sent outcome, .receiveMessage sent outcome ∉ later

/-- An event that deletes does so for a message of the latest delivery that was served just before. -/
def DeletedServed (sdk : Sdk) (config : SqsConfig) (h : List Event) (e : Event) : Prop :=
  ∀ queueUrl receiptHandle outcome, e = .deleteMessage queueUrl receiptHandle outcome →
    ∃ messages message request, Delivered messages h ∧ message ∈ messages ∧ receiptHandle = message.receiptHandle ∧
      RequestOf sdk config message request ∧ (consumer sdk).Served request h

section Logic

variable {sdk : Sdk} {config : SqsConfig}

theorem Delivered.cons {messages : List Message} {h : List Event} (hd : Delivered messages h) (e : Event)
    (he : ∀ sent outcome, e ≠ .receiveMessage sent outcome) : Delivered messages (e :: h) := by
  obtain ⟨later, sent, earlier, rfl, hl⟩ := hd
  refine ⟨e :: later, sent, earlier, rfl, fun sent' outcome hm => ?_⟩
  rcases List.mem_cons.1 hm with heq | hm
  · exact he sent' outcome heq.symm
  · exact hl sent' outcome hm

theorem deletedServed_of_ne {h : List Event} {e : Event}
    (he : ∀ queueUrl receiptHandle outcome, e ≠ .deleteMessage queueUrl receiptHandle outcome) :
    DeletedServed sdk config h e :=
  fun queueUrl receiptHandle outcome heq => absurd heq (he queueUrl receiptHandle outcome)

@[simp] theorem cString_cString (text : Text) : cString (cString text) = cString text :=
  (cString_eq_self _).2 fun hm => by simpa using List.mem_takeWhile_imp hm

@[simp] theorem cString_getStringAttribute (message : Message) (name : Text) :
    cString (getStringAttribute message name) = getStringAttribute message name := by
  unfold getStringAttribute
  split
  · exact cString_cString _
  · rfl

theorem safe_sendReply {messages : List Message} {message : Message} {request : Request} {h : List Event}
    {writes : List (Option Bytes)} (hd : Delivered messages (processed request.payload writes :: h))
    (hrequest : RequestOf sdk config message request)
    (hreply : config.oneWay = false → replyQueueUrlOf config message ≠ []) :
    (sendReply sdk config (replyQueueUrlOf config message) (getStringAttribute message correlationIdAttribute)
      (responseOf writes)).Safe (fun _ _ => True) (DeletedServed sdk config)
      (fun h' r => Delivered messages h' ∧ (r = .ok true → (consumer sdk).Served request h'))
      (processed request.payload writes :: h) := by
  obtain ⟨-, hid, hto⟩ := hrequest
  unfold sendReply
  cases hway : config.oneWay with
  | true =>
    have hempty : replyQueueUrlOf config message = [] := by rw [replyQueueUrlOf, hway]; rfl
    rw [hempty]
    exact ⟨hd, fun _ => Consumer.served_of_none (by rw [hto, hway]; rfl) rfl⟩
  | false =>
    have hurl : replyQueueUrlOf config message = getStringAttribute message replyToAttribute := by
      rw [replyQueueUrlOf, hway]
      rfl
    rw [if_neg (by simpa using hreply hway), hurl]
    simp only [Prog.safe_bind, Prog.safe_ofExcept]
    cases hbody : encodePayload sdk (some (responseOf writes)) (responseOf writes).length with
    | error what => exact ⟨hd, nofun⟩
    | ok body =>
      simp only [Except.mapError, Prog.andThen_ok, Prog.safe_bind, Prog.safe_emit, Prog.safe_call]
      intro id _
      refine ⟨deletedServed_of_ne nofun, fun outcome _ => ⟨deletedServed_of_ne nofun, ?_⟩⟩
      have hd' := (hd.cons (.newCorrelationId id) nofun).cons (.sendMessage (configureFifoMessage
        (replyRequest (getStringAttribute message replyToAttribute) (getStringAttribute message correlationIdAttribute)
          body) (getStringAttribute message replyToAttribute) config.messageGroupId id) outcome) nofun
      match outcome with
      | .error e => exact ⟨hd', nofun⟩
      | .ok (.error what) => exact ⟨hd', nofun⟩
      | .ok (.ok ()) =>
        refine ⟨hd', fun _ => @Consumer.served_of_some _ (consumer sdk) request _ writes h [.newCorrelationId id] _ _
          (by rw [hto, hway]; rfl) rfl (fun e he => ⟨id, List.mem_singleton.1 he⟩) ?_⟩
        exact ⟨_, _, body, rfl, hid, hbody, by simp [replyRequest], by simp [replyRequest], by simp [replyRequest]⟩

theorem safe_handleMessage {messages : List Message} {message : Message} {h : List Event} (hm : message ∈ messages)
    (hd : Delivered messages h) :
    (handleMessage sdk config message).Safe (fun _ _ => True) (DeletedServed sdk config)
      (fun h' _ => Delivered messages h') h := by
  unfold handleMessage
  dsimp only
  split
  · exact hd
  rename_i hguard
  have hreply : config.oneWay = false → replyQueueUrlOf config message ≠ [] := by
    intro hway
    rw [hway] at hguard
    simp only [Bool.not_false, Bool.true_and, Bool.or_eq_true, not_or, List.isEmpty_iff] at hguard
    exact hguard.2
  simp only [Prog.safe_bind, Prog.safe_ofExcept]
  cases hpayload : decodePayload sdk message.body with
  | error what => exact hd
  | ok payload =>
    simp only [Except.mapError, Prog.andThen_ok, Prog.safe_bind, processMessage, Prog.safe_emit, Prog.safe_ofExcept]
    rintro ⟨writes, result⟩ -
    refine ⟨deletedServed_of_ne nofun, ?_⟩
    have hd' := hd.cons (.processMessage payload writes result) nofun
    match result with
    | .error e => exact hd'
    | .ok false => exact hd'
    | .ok true =>
      simp only [Except.map, Prog.andThen_ok, Bool.not_true, Bool.false_eq_true, if_false, Prog.safe_bind]
      have hrequest : RequestOf sdk config message ⟨payload, some (getStringAttribute message correlationIdAttribute),
          if config.oneWay then none else some (getStringAttribute message replyToAttribute)⟩ := ⟨hpayload, rfl, rfl⟩
      refine (safe_sendReply hd' hrequest hreply).mono fun h' r hr => ?_
      match r with
      | .error e => exact hr.1
      | .ok false => exact hr.1
      | .ok true =>
        simp only [Prog.andThen_ok, Bool.not_true, Bool.false_eq_true, if_false, Prog.safe_bind, Prog.safe_call]
        intro outcome _
        refine ⟨fun queueUrl receiptHandle outcome' heq => ?_, ?_⟩
        · exact ⟨messages, message, _, hr.1, hm, by cases heq; rfl, hrequest, hr.2 rfl⟩
        · have hd'' := hr.1.cons (.deleteMessage (cString config.requestQueueUrl) message.receiptHandle outcome) nofun
          cases outcome with
          | error e => exact hd''
          | ok r => exact hd''

theorem keeps_handleMessages {messages : List Message} {h : List Event} (hd : Delivered messages h) :
    Keeps (fun _ _ => True) (DeletedServed sdk config) (handleMessages sdk config messages) h := by
  refine Prog.safe_forEach (Delivered messages) (fun _ _ => trivial) messages (fun message hm h hd => ?_) h hd
  simp only [Prog.safe_bind, Prog.safe_emit, Prog.andThen_ok]
  intro stop _
  refine ⟨deletedServed_of_ne nofun, ?_⟩
  have hd' := hd.cons (.stopRequested stop) nofun
  split
  · exact hd'
  simp only [Prog.safe_bind, Prog.safe_attempt]
  refine (safe_handleMessage hm hd').mono fun h' r hr => ?_
  cases r with
  | ok u => exact hr
  | error e =>
    rw [Prog.attempted_error]
    split
    · exact hr
    · trivial

theorem keeps_receive (fuel : Nat) (h : List Event) :
    Keeps (fun _ _ => True) (DeletedServed sdk config) (receive sdk config fuel) h := by
  refine Prog.keeps_iterate (fun _ h => ?_) fuel () h
  refine Prog.keeps_emit_bind (fun _ => deletedServed_of_ne nofun) fun stop => ?_
  split
  · trivial
  refine Prog.keeps_call_bind (fun _ => deletedServed_of_ne nofun) fun outcome => ?_
  cases outcome with
  | error what => trivial
  | ok messages =>
    have hd : Delivered messages (.receiveMessage (receiveRequest config) (.ok (.ok messages)) ::
        .stopRequested stop :: h) := ⟨[], receiveRequest config, _, rfl, nofun⟩
    exact (keeps_handleMessages hd).keeps_bind fun _ _ _ => trivial

/-- **Every run of the server deletes only what it served.** -/
theorem start_admits {configured : Bool} {fuel : Nat} {t : List Event} {o : Outcome Exn Unit}
    (hr : (start sdk config configured fuel).Runs t o) : Prog.Admits (DeletedServed sdk config) [] t := by
  refine Prog.Safe.admits_of_keeps (p := start sdk config configured fuel) ?_ hr
  refine Prog.Safe.keeps_tryCatch ?_ fun _ _ => trivial
  rw [Keeps, Prog.safe_bind, Prog.safe_ofExcept]
  cases (validateServerConfig config).mapError Exn.std with
  | error e => trivial
  | ok u =>
    cases configured with
    | false => trivial
    | true =>
      have hclient : Keeps (fun _ _ => True) (DeletedServed sdk config) (call Event.createClient) [] :=
        Prog.keeps_call fun _ => deletedServed_of_ne nofun
      exact hclient.keeps_bind fun _ h _ => keeps_receive fuel h

end Logic

end Sqs
end Graftcode
